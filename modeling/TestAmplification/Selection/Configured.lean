import TestAmplification.Config.Basic
import TestAmplification.Mutant.Report
import TestAmplification.Selection.MutationScore

/-!
# The configured selection by mutation score

A configuration says how the names of tests start, where reports go and, if
wanted, in which file the baseline is found. Without such a file the engine is
asked for the baseline.
-/

set_option autoImplicit false

namespace TestAmplification

/-- Writes a file of a report, with the directory that it goes into. -/
def Disk.publish (path : Path) (content : String) : StateM Disk (Except String Unit) := do
  match ← Disk.writeInDirectory path (Text.encode content) with
  | .ok () => return .ok ()
  | .error fault => return .error fault.message

namespace MutationScore

/-- What a selector works with under a configuration. -/
def Setting.ofConfig {W : Type} (config : Config) (engine : MutationEngine W)
    (publish : Path → String → StateM W (Except String Unit)) : Setting W where
  engine
  isTest := namedFrom config.amplification.effectiveTestPrefix
  outputDirectory := config.output.effectiveDirectory
  publish

/-- The state that a selector starts in under a configuration: with the baseline
that the configured report gives, if one is configured. -/
def startOf (config : Config) : StateM Disk (Except AmplificationError MutationScore) := do
  match config.mutation.baselinePath with
  | none => return .ok {}
  | some path =>
      match ← MutationReport.load path with
      | .ok outcomes => return .ok (withBaseline outcomes)
      | .error error => return .error (.mutationReport error)

end MutationScore

end TestAmplification
