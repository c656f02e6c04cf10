import TestAmplification.Shell.Machine.Search
import TestAmplification.Shell.Utility.Options
import TestAmplification.Shell.Utility.Status

/-!
# Names of paths

Paths are cut into directories and names, worked out to places, and turned into ways
from one place to another. Programs are looked up by their names.
-/

set_option autoImplicit false

namespace TestAmplification.Shell

open Tool

/-- A path without slashes at its end, where the root keeps one. -/
def withoutSlashes (path : Row) : Row :=
  let bare := (path.reverse.dropWhile (· == '/')).reverse
  if bare.isEmpty && !path.isEmpty then ['/'] else bare

/-- The last name of a path. -/
def baseName (path : Row) : Row :=
  let bare := withoutSlashes path
  if bare = ['/'] then bare else (bare.reverse.takeWhile (· != '/')).reverse

/-- The path of the directory that a path stands in. -/
def directoryName (path : Row) : Row :=
  let bare := withoutSlashes path
  let start := (bare.reverse.dropWhile (· != '/')).reverse
  if bare = ['/'] then ['/'] else if start.isEmpty then ['.'] else withoutSlashes start

example : String.ofList (directoryName "a//b/".toList) = "a" := by decide +kernel
example : String.ofList (baseName "a//b/".toList) = "b" := by decide +kernel

/-- Writes the last names of paths, without a suffix. -/
def basename : Utility := fun given => do
  let arguments ← parseInFront
    [long 'a' "multiple", long 's' "suffix" .some, long 'z' "zero"] given
  let ending := if arguments.has 'z' then ['\x00'] else ['\n']
  let (paths, suffix) ←
    match arguments.has 'a' || arguments.has 's', arguments.operands with
    | _, [] => usage (rowOf "missing operand")
    | true, paths => pure (paths, (arguments.value? 's').getD [])
    | false, [path] => pure ([path], [])
    | false, [path, suffix] => pure ([path], suffix)
    | false, _ :: _ :: extra :: _ => usage (rowOf "extra operand " ++ quotedText extra)
  put (paths.flatMap fun path =>
    let name := baseName path
    let short :=
      if suffix.isSuffixOf name && suffix.length < name.length then
        name.take (name.length - suffix.length)
      else name
    short ++ ending)
  return 0

/-- Writes the paths of the directories that paths stand in. -/
def dirname : Utility := fun given => do
  let arguments ← parseInFront [long 'z' "zero"] given
  if arguments.operands.isEmpty then usage (rowOf "missing operand")
  let ending := if arguments.has 'z' then ['\x00'] else ['\n']
  put (arguments.operands.flatMap fun path =>
    (if path.isEmpty then ['.'] else directoryName path) ++ ending)
  return 0

/-! ## Places -/

/-- The path of a place. -/
def placeRow (place : Place) : Row :=
  rowOf ("/" ++ "/".intercalate place)

/-- The way from one place to another. -/
def wayTo (base place : Place) : Row :=
  let shared := ((base.zip place).takeWhile fun (first, second) => first == second).length
  let names := List.replicate (base.length - shared) ".." ++ place.drop shared
  if names.isEmpty then ['.'] else rowOf ("/".intercalate names)

/-- The place after a further name, which may be missing. A link is followed unless that is
not wanted. -/
def placeAfter (disk : Disk) (follows : Bool) (here : Place) (name : String) : Place :=
  if name = "." then here
  else if name = ".." then here.dropLast
  else
    let next := here ++ [name]
    match disk.tree.node? next with
    | some (.link target) =>
        if !follows then next
        else (disk.tree.leadsTo FileTree.mostLinks here target).toOption.getD next
    | _ => next

/-- The place of a path, when names may be missing: never, at the end, or
everywhere. -/
def resolvePath (disk : Disk) (mayMiss : Char) (path : Row) (follows : Bool := true) :
    Except FileFault Place :=
  let text := textOf path
  if mayMiss = 'm' || !follows then
    if path.isEmpty then .error .notFound
    else
      let place := (Path.names text).foldl (placeAfter disk follows)
        (if Path.isAbsolute text then [] else disk.workingPlace)
      if mayMiss = 'e' && (disk.tree.node? place).isNone then .error .notFound else .ok place
  else
    match disk.tree.inspect disk.workingPlace text with
    | .ok (place, some _) => .ok place
    | .ok (place, none) => if mayMiss = 'e' then .error .notFound else .ok place
    | .error fault => .error fault

/-- Writes the places that paths lead to. -/
def realpath : Utility := fun given => do
  let arguments ← parseArguments
    [long 'e' "canonicalize-existing", long 'm' "canonicalize-missing", long 'L' "logical",
      long 'P' "physical", long 'q' "quiet", long 's' "strip", long 's' "no-symlinks",
      long 'z' "zero", long '>' "relative-to" .some, long '<' "relative-base" .some] given
  if arguments.operands.isEmpty then usage (rowOf "missing operand")
  let disk ← disk
  let mayMiss := (arguments.last? ['e', 'm']).getD 'f'
  let ending := if arguments.has 'z' then ['\x00'] else ['\n']
  let resolved (path : Row) : Tool Place := do
    match resolvePath disk mayMiss path (!arguments.has 's') with
    | .ok place => return place
    | .error fault => fail (quotedIfNeeded path ++ rowOf (": " ++ fault.reason)) 1
  let base ← (arguments.value? '>').mapM resolved
  let root ← (arguments.value? '<').mapM resolved
  worst (fun path => do
    match resolvePath disk mayMiss path (!arguments.has 's') with
    | .ok place =>
        let shown :=
          match base, root with
          | none, none => placeRow place
          | some base, none => wayTo base place
          | base, some root =>
              if root.isPrefixOf place then wayTo (base.getD root) place else placeRow place
        put (shown ++ ending)
        return 0
    | .error fault =>
        if !arguments.has 'q' then warn (quotedIfNeeded path ++ rowOf (": " ++ fault.reason))
        return 1) arguments.operands

/-- Writes the paths that links hold, or the places that paths lead to. -/
def readlink : Utility := fun given => do
  let arguments ← parseArguments
    [long 'f' "canonicalize", long 'e' "canonicalize-existing", long 'm' "canonicalize-missing",
      long 'n' "no-newline", long 'q' "quiet", long 's' "silent", long 'v' "verbose",
      long 'z' "zero"] given
  if arguments.operands.isEmpty then usage (rowOf "missing operand")
  let disk ← disk
  let ending := if arguments.has 'z' then ['\x00'] else ['\n']
  worst (fun path => do
    let fault ←
      match arguments.last? ['f', 'e', 'm'] with
      | none =>
          match statusOfSelf disk (textOf path) with
          | .ok { kind := .link, target, .. } =>
              put (rowOf target)
              if !(arguments.has 'n' && arguments.operands.length = 1) then put ending
              pure none
          | .ok _ => pure (some .invalidArgument)
          | .error fault => pure (some fault)
      | some mayMiss =>
          match resolvePath disk mayMiss path with
          | .ok place =>
              put (placeRow place)
              if !(arguments.has 'n' && arguments.operands.length = 1) then put ending
              pure none
          | .error fault => pure (some fault)
    match fault with
    | none => return 0
    | some fault =>
        if arguments.has 'v' then warn (quotedIfNeeded path ++ rowOf (": " ++ fault.reason))
        return 1) arguments.operands

/-- Writes the path of the present directory. -/
def pwd : Utility := fun given => do
  let arguments ← parseArguments [long 'L' "logical", long 'P' "physical"] given
  if !arguments.operands.isEmpty then warn (rowOf "ignoring non-option arguments")
  let disk ← disk
  let remembered := (← read).environment.lookup "PWD"
  let leadsHere (path : Row) : Bool :=
    path.head? == some '/' &&
      (disk.tree.locate [] (textOf path)).toOption == some disk.workingPlace
  match arguments.last? ['L', 'P'], remembered with
  | some 'L', some path => putLine (if leadsHere path then path else placeRow disk.workingPlace)
  | _, _ => putLine (placeRow disk.workingPlace)
  return 0

/-- Writes the paths of programs. -/
def which : Utility := fun given => do
  let arguments ← parseInFront (letterOptions "as") given
  if arguments.operands.isEmpty then leave 1
  let disk ← disk
  let search := ((← read).environment.lookup "PATH").getD standardSearch
  worst (fun name => do
    if name.contains '/' then
      if isRunnable disk name then
        if !arguments.has 's' then putLine name
        return 0
      else return 1
    else
      let paths := ((cutAtEach ':' search).map fun directory =>
        (if directory.isEmpty then ['.'] else directory) ++ '/' :: name).filter fun path =>
          isRunnable disk path
      let shown := if arguments.has 'a' then paths else paths.take 1
      if !arguments.has 's' then put (joinRows shown)
      return if paths.isEmpty then 1 else 0) arguments.operands

end TestAmplification.Shell
