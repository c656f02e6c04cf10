import TestAmplification.Shell.Utility.Options

/-!
# Who and where

Everything is done by the same person on the same machine, which a few programs tell
about.
-/

set_option autoImplicit false

namespace TestAmplification.Shell

open Tool

/-- Writes who does all this. -/
def whoami : Utility := fun given => do
  let arguments ← parseArguments [] given
  if let some extra := arguments.operands.head? then
    usage (rowOf "extra operand " ++ quotedText extra)
  putLine (rowOf "root")
  return 0

/-- Writes the numbers and names of a person. -/
def identity : Utility := fun given => do
  let arguments ← parseArguments
    [long 'u' "user", long 'g' "group", long 'G' "groups", long 'n' "name", long 'r' "real",
      long 'z' "zero", long 'a' ""] given
  match arguments.operands.find? fun name => name != rowOf "root" && name != ['0'] with
  | some name => fail (quotedText name ++ rowOf ": no such user") 1
  | none =>
      if ['u', 'g', 'G'].any arguments.has then
        putLine (if arguments.has 'n' then rowOf "root" else ['0'])
      else if arguments.has 'n' || arguments.has 'r' then
        fail (rowOf "cannot print only names or real IDs in default format") 1
      else putLine (rowOf "uid=0(root) gid=0(root) groups=0(root)")
      return 0

/-- Writes the groups of persons. -/
def groups : Utility := fun given => do
  let arguments ← parseArguments [] given
  if arguments.operands.isEmpty then
    putLine (rowOf "root")
    return 0
  worst (fun name => do
    if name = rowOf "root" || name = ['0'] then
      putLine (name ++ rowOf " : root")
      return 0
    else
      warn (quotedText name ++ rowOf ": no such user")
      return 1) arguments.operands

/-- Writes the terminal, which there is not. -/
def tty : Utility := fun given => withReader (fun call => { call with usageStatus := 2 }) do
  let arguments ← parseArguments [long 's' "silent", long 's' "quiet"] given
  if let some extra := arguments.operands.head? then
    usage (rowOf "extra operand " ++ quotedText extra)
  if !arguments.has 's' then putLine (rowOf "not a tty")
  return 1

/-- Writes the kind of machine. -/
def arch : Utility := fun given => do
  let arguments ← parseArguments [] given
  if let some extra := arguments.operands.head? then
    usage (rowOf "extra operand " ++ quotedText extra)
  putLine (rowOf "x86_64")
  return 0

/-- Writes about the system. -/
def uname : Utility := fun given => do
  let arguments ← parseArguments
    [long 'a' "all", long 's' "kernel-name", long 'n' "nodename", long 'r' "kernel-release",
      long 'v' "kernel-version", long 'm' "machine", long 'p' "processor",
      long 'i' "hardware-platform", long 'o' "operating-system"] given
  if let some extra := arguments.operands.head? then
    usage (rowOf "extra operand " ++ quotedText extra)
  let parts := [('s', "Linux"), ('n', "localhost"), ('r', "6.0.0"), ('v', "#1"), ('m', "x86_64"),
    ('o', "GNU/Linux")]
  let shown := parts.filter fun part => arguments.has part.1 || arguments.has 'a'
  let shown := if shown.isEmpty then parts.take 1 else shown
  putLine (joinWith [' '] (shown.map fun part => rowOf part.2))
  return 0

/-- Writes the name of the machine. -/
def hostname : Utility := fun _ => do
  putLine (rowOf "localhost")
  return 0

/-- Writes how many things can be done at a time. -/
def nproc : Utility := fun _ => do
  putLine ['1']
  return 0

end TestAmplification.Shell
