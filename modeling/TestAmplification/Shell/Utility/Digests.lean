import TestAmplification.Shell.Utility.Passing
import TestAmplification.Text.Digest

/-!
# Digests of files

Some programs write the digests of files, each in a line with the name of its file. They also
read such lines and tell which files still have the digests that stand there.

Behind the digest stands a blank, then a second blank or a star, then the name. In another form
the line starts with the name of the digest, and the name of the file stands in parentheses. A
name with a line end or a backslash is escaped, which a backslash in front of the line tells.
-/

set_option autoImplicit false

namespace TestAmplification.Shell

open Tool

/-- A kind of digest: its name and how it is found. -/
structure DigestKind where
  /-- The name. -/
  name : String
  /-- The number of its bytes. -/
  length : Nat
  /-- The digest of bytes. -/
  ofBytes : List Nat → List Nat

namespace DigestKind

/-- The digest of a row, written with digits of sixteen. -/
def digest (kind : DigestKind) (row : Row) : Row :=
  (kind.ofBytes (row.map Char.toNat)).flatMap fun byte => padZeros 2 (Nat.toDigits 16 byte)

/-- A name that a line can hold. -/
def escapedName (name : Row) : Row :=
  name.flatMap fun character =>
    if character = '\\' then ['\\', '\\']
    else if character = '\n' then ['\\', 'n']
    else if character = '\r' then ['\\', 'r']
    else [character]

/-- The name that a line holds. -/
def plainName : Row → Row
  | '\\' :: 'n' :: rest => '\n' :: plainName rest
  | '\\' :: 'r' :: rest => '\r' :: plainName rest
  | '\\' :: '\\' :: rest => '\\' :: plainName rest
  | character :: rest => character :: plainName rest
  | [] => []

/-- The line about a file, without its end. -/
def line (kind : DigestKind) (arguments : Arguments) (name digest : Row) : Row :=
  let isBare := arguments.has 'z' || escapedName name = name
  let shown := if isBare then name else escapedName name
  (if isBare then [] else ['\\'])
    ++ if arguments.has 'G' then
      rowOf (kind.name ++ " (") ++ shown ++ rowOf ") = " ++ digest
    else digest ++ (if arguments.last? ['b', 't'] = some 'b' then rowOf " *" else rowOf "  ") ++ shown

/-! ## Checking -/

/-- A line that says which digest a file has. -/
structure Entry where
  /-- The name of the file. -/
  name : Row
  /-- The digest. -/
  digest : Row

/-- Is the row a digest of the kind? -/
def isDigest (kind : DigestKind) (row : Row) : Bool :=
  row.length = 2 * kind.length && row.all fun digit => (Text.hexDigit? digit).isSome

/-- What a line in the form with parentheses says. -/
def taggedEntry? (kind : DigestKind) (line : Row) : Option Entry := do
  let rest ← Text.withoutStart? (rowOf (kind.name ++ " (")) line
  let (digest, before) := (rest.reverse.takeWhile (· != ' '), rest.reverse.dropWhile (· != ' '))
  let name ← Text.withoutStart? (rowOf " = )") (' ' :: (before.drop 1))
  if kind.isDigest digest.reverse then some { name := name.reverse, digest := digest.reverse } else none

/-- What a line says. The flag tells whether single blanks are used in front of the names, if
that is known; the answer knows it. -/
def entry? (kind : DigestKind) (isShort : Option Bool) (line : Row) : Option (Entry × Option Bool) :=
  let line := line.dropWhile fun character => character == ' ' || character == '\t'
  let (line, unescape) :=
    match line with
    | '\\' :: rest => (rest, plainName)
    | rest => (rest, id)
  let digest := (line.take (2 * kind.length)).map Char.toLower
  match kind.taggedEntry? line with
  | some entry => some ({ entry with name := unescape entry.name }, isShort)
  | none =>
      if !kind.isDigest digest then none
      else
        match line.drop digest.length, isShort with
        | ' ' :: mark :: name, isShort =>
            if (mark = ' ' || mark = '*') && !name.isEmpty && isShort ≠ some true then
              some ({ name := unescape name, digest }, some false)
            else if isShort ≠ some false then some ({ name := unescape (mark :: name), digest }, some true)
            else none
        | _, _ => none

/-- How many lines were of which kind. -/
structure Tally where
  /-- Lines that say nothing. -/
  improper : Nat := 0
  /-- Lines that say something. -/
  proper : Nat := 0
  /-- Files that cannot be read. -/
  unreadable : Nat := 0
  /-- Files with another digest. -/
  different : Nat := 0
  /-- Files with their digest. -/
  same : Nat := 0
  /-- Are single blanks used in front of the names? -/
  isShort : Option Bool := none

/-- Checks the file that a line is about. -/
def checkEntry (kind : DigestKind) (arguments : Arguments) (tally : Tally) (entry : Entry) :
    Tool Tally := do
  let escaped := escapedName entry.name
  let shown := if escaped = entry.name then escaped else '\\' :: escaped
  let tell (word : String) : Tool Unit :=
    if arguments.has 'S' then return else putLine (shown ++ rowOf (": " ++ word))
  match ← input entry.name with
  | .ok row =>
      if kind.digest row = entry.digest.map Char.toLower then
        if !arguments.has 'Q' then tell "OK"
        return { tally with same := tally.same + 1 }
      else
        tell "FAILED"
        return { tally with different := tally.different + 1 }
  | .error fault =>
      let isMissing :=
        match fault with
        | .opening fault => fault == .notFound
        | .reading _ => false
      if arguments.has 'I' && isMissing then return tally
      warn (plainComplaint entry.name fault)
      tell "FAILED open or read"
      return { tally with unreadable := tally.unreadable + 1 }

/-- Checks what the lines say. -/
def checkLines (kind : DigestKind) (arguments : Arguments) (source : Row) :
    Nat → Tally → List Row → Tool Tally
  | _, tally, [] => return tally
  | number, tally, line :: rest => do
      let tally ←
        if line.isEmpty || line.head? = some '#' then pure tally
        else
          match kind.entry? tally.isShort line with
          | some (entry, isShort) =>
              kind.checkEntry arguments { tally with proper := tally.proper + 1, isShort } entry
          | none =>
              if arguments.has 'w' then
                warn (quotedIfNeeded source ++ rowOf ": " ++ natRow number
                  ++ rowOf (": improperly formatted " ++ kind.name ++ " checksum line"))
              pure { tally with improper := tally.improper + 1 }
      checkLines kind arguments source (number + 1) tally rest

/-- Warns about some lines or files, if there are any. -/
def warnAbout (count : Nat) (one many : String) : Tool Unit := do
  if count > 0 then
    warn (rowOf "WARNING: " ++ natRow count ++ rowOf (if count = 1 then one else many))

/-- Checks what the lines of an input say. -/
def check (kind : DigestKind) (arguments : Arguments) (path : Row) : Tool Nat := do
  match ← input path with
  | .error fault =>
      warn (plainComplaint path fault)
      return 1
  | .ok row =>
      let source := if path = ['-'] then rowOf "standard input" else path
      let lines := (records ['\n'] false row).map fun line => line.filter (· != '\n')
      let tally ← kind.checkLines arguments source 1 {} lines
      if tally.proper = 0 then
        warn (quotedIfNeeded source ++ rowOf ": no properly formatted checksum lines found")
        return 1
      if !arguments.has 'S' then
        warnAbout tally.improper " line is improperly formatted" " lines are improperly formatted"
        warnAbout tally.unreadable " listed file could not be read" " listed files could not be read"
        warnAbout tally.different " computed checksum did NOT match" " computed checksums did NOT match"
      let isIdle := arguments.has 'I' && tally.same = 0 && tally.different + tally.unreadable = 0
      if isIdle && !arguments.has 'S' then
        warn (quotedIfNeeded source ++ rowOf ": no file was verified")
      return if isIdle || tally.unreadable + tally.different > 0
        || (arguments.has 'R' && tally.improper > 0) then 1 else 0

/-- The options that only count when files are checked. -/
def checkingOptions : List (Char × String) :=
  [('I', "ignore-missing"), ('S', "status"), ('w', "warn"), ('Q', "quiet"), ('R', "strict")]

/-- The program that writes digests of a kind, or checks them. -/
def program (kind : DigestKind) : Utility := fun given => do
  let arguments ← parseArguments
    ([long 'b' "binary", long 't' "text", long 'c' "check", long 'G' "tag", long 'z' "zero"]
      ++ checkingOptions.map fun (letter, name) => long letter name) given
  if arguments.has 'c' then
    if arguments.has 'G' then usage (rowOf "the --tag option is meaningless when verifying checksums")
    if arguments.has 'z' then usage (rowOf "the --zero option is not supported when verifying checksums")
    worst (kind.check arguments) (namedInputs arguments.operands)
  else
    if let some (_, name) := checkingOptions.find? fun option => arguments.has option.1 then
      usage (rowOf ("the --" ++ name ++ " option is meaningful only when verifying checksums"))
    overTexts plainComplaint (fun path row => do
      put (kind.line arguments path (kind.digest row)
        ++ [if arguments.has 'z' then '\x00' else '\n'])
      return 0) arguments.operands

end DigestKind

/-- The programs for digests by their names. -/
def digestPrograms : List (String × Utility) :=
  [("md5sum", DigestKind.program ⟨"MD5", 16, Text.Digest.message128⟩),
    ("sha1sum", DigestKind.program ⟨"SHA1", 20, Text.Digest.secure160⟩),
    ("sha224sum", DigestKind.program ⟨"SHA224", 28, Text.Digest.secure224⟩),
    ("sha256sum", DigestKind.program ⟨"SHA256", 32, Text.Digest.secure256⟩),
    ("sha384sum", DigestKind.program ⟨"SHA384", 48, Text.Digest.secure384⟩),
    ("sha512sum", DigestKind.program ⟨"SHA512", 64, Text.Digest.secure512⟩)]

/-! ## Sums -/

/-- A sum of sixteen bits with one more byte, where the sum is turned before. -/
def addTurned (sum byte : Nat) : Nat :=
  (sum / 2 + sum % 2 * 32768 + byte) % 65536

/-- A sum of all bytes, folded into sixteen bits. -/
def foldedSum (row : Row) : Nat :=
  let sum := (row.foldl (fun sum byte => sum + byte.toNat) 0) % 4294967296
  let folded := sum % 65536 + sum / 65536
  folded % 65536 + folded / 65536

/-- Writes short sums of files and the numbers of their blocks. -/
def sum : Utility := fun given => do
  let arguments ← parseArguments [long 'r' "", long 's' "sysv"] given
  overTexts plainComplaint (fun path row => do
    let blocks (size : Nat) : Nat := (row.length + size - 1) / size
    let name := if path = ['-'] && arguments.operands.isEmpty then [] else ' ' :: path
    if arguments.last? ['r', 's'] = some 's' then
      putLine (natRow (foldedSum row) ++ ' ' :: natRow (blocks 512) ++ name)
    else
      putLine (padZeros 5 (natRow ((row.map Char.toNat).foldl addTurned 0)) ++ ' '
        :: padLeft 5 (natRow (blocks 1024)) ++ name)
    return 0) arguments.operands

end TestAmplification.Shell
