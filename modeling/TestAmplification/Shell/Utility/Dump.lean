import TestAmplification.Shell.Utility.Passing

/-!
# Bytes as text

Bytes are shown as numbers or characters, packed into letters and unpacked again,
summed up, and put into pieces.
-/

set_option autoImplicit false

namespace TestAmplification.Shell

open Tool

/-! ## Dumps -/

/-- How bytes are shown. -/
structure DumpFormat where
  /-- The letter of the way. -/
  letter : Char
  /-- How many bytes make one number. -/
  size : Nat := 1
  /-- Are the characters shown behind the numbers? -/
  hasText : Bool := false
deriving Inhabited

/-- The names of the bytes that are not printed. -/
def byteNames : List String :=
  ["nul", "soh", "stx", "etx", "eot", "enq", "ack", "bel", "bs", "ht", "nl", "vt", "ff", "cr", "so",
    "si", "dle", "dc1", "dc2", "dc3", "dc4", "nak", "syn", "etb", "can", "em", "sub", "esc", "fs",
    "gs", "rs", "us", "sp"]

/-- How wide a number is shown. -/
def DumpFormat.width (format : DumpFormat) : Nat :=
  let bits := 8 * format.size
  match format.letter with
  | 'o' => (bits + 2) / 3
  | 'x' => 2 * format.size
  | 'u' => (natRow (Nat.shiftLeft 1 bits - 1)).length
  | 'd' => (natRow (Nat.shiftLeft 1 (bits - 1))).length + 1
  | _ => 3

/-- The number that bytes make, where the first one counts least. -/
def numberOfBytes (bytes : Row) : Nat :=
  bytes.foldr (fun byte number => number * 256 + byte.toNat) 0

/-- Some bytes as one number or character. -/
def DumpFormat.item (format : DumpFormat) (bytes : Row) : Row :=
  let number := numberOfBytes bytes
  match format.letter with
  | 'o' => padZeros format.width (Nat.toDigits 8 number)
  | 'x' => padZeros format.width (Nat.toDigits 16 number)
  | 'u' => natRow number
  | 'd' =>
      let limit := Nat.shiftLeft 1 (8 * format.size - 1)
      intRow (if number ≥ limit then (number : Int) - 2 * limit else number)
  | 'a' =>
      let number := number % 128
      if number = 127 then rowOf "del"
      else
        match byteNames[number]? with
        | some name => rowOf name
        | none => [Char.ofNat number]
  | _ =>
      let character := Char.ofNat number
      if number = 0 then ['\\', '0']
      else
        match controlLetter? character with
        | some letter => ['\\', letter]
        | none => if isPrinted character then [character] else padZeros 3 (Nat.toDigits 8 number)

/-- At most so many pieces of a length, behind those before, which come last first. -/
def piecesUpTo {α : Type} (length : Nat) : Nat → List (List α) → List α → List (List α)
  | 0, before, _ | _ + 1, before, [] => before.reverse
  | count + 1, before, items =>
      piecesUpTo length count (items.take length :: before) (items.drop length)

/-- A list cut into pieces of a length. -/
def piecesOf {α : Type} (length : Nat) (items : List α) : List (List α) :=
  piecesUpTo length items.length [] items

/-- A line of a dump, in one format. All formats take the same room. -/
def DumpFormat.line (format : DumpFormat) (perLine room : Nat) (bytes : Row) : Row :=
  let count := perLine / format.size
  let own := (format.width + 1) * count
  let pad := room - own
  let items := (piecesOf format.size bytes).zipIdx.map fun (piece, index) =>
    let before := pad * index / count
    let after := pad * (index + 1) / count
    padLeft (format.width + 1 + (after - before)) (format.item piece)
  let text :=
    if format.hasText then
      List.replicate (room - (items.map List.length).foldl (· + ·) 0) ' ' ++ rowOf "  >"
        ++ (bytes.map fun byte => if isPrinted byte then byte else '.') ++ ['<']
    else []
  items.flatten ++ text

/-- The formats that a text asks for, in at most so many steps. -/
def dumpFormats (text : Row) : Nat → Row → Tool (List DumpFormat)
  | 0, _ => return []
  | _ + 1, [] => return []
  | steps + 1, letter :: rest => do
      if !(['a', 'c', 'd', 'o', 'u', 'x'].contains letter) then
        fail (rowOf "invalid character '" ++ [letter] ++ rowOf "' in type string " ++ quotedText text) 1
      let isPlain := letter = 'a' || letter = 'c'
      let digits := if isPlain then [] else rest.takeWhile Char.isDigit
      let rest := rest.drop digits.length
      let (size, rest) :=
        match Text.digits? digits, rest with
        | some size, rest => (size, rest)
        | none, 'C' :: rest => if isPlain then (1, 'C' :: rest) else (1, rest)
        | none, 'S' :: rest => (2, rest)
        | none, 'I' :: rest => (4, rest)
        | none, 'L' :: rest => (8, rest)
        | none, rest => (if isPlain then 1 else 4, rest)
      if !([1, 2, 4, 8].contains size) then
        fail (rowOf "invalid type string " ++ quotedText text ++ rowOf ";\nthis system doesn't provide a "
          ++ natRow size ++ rowOf "-byte integral type") 1
      let hasText := rest.head? == some 'z'
      let rest := if hasText then rest.drop 1 else rest
      return { letter, size, hasText } :: (← dumpFormats text steps rest)

/-- The options of dumps that are short for formats. -/
def shortFormats : List (Char × DumpFormat) :=
  [('a', { letter := 'a' }), ('b', { letter := 'o' }), ('c', { letter := 'c' }),
    ('d', { letter := 'u', size := 2 }), ('i', { letter := 'd', size := 4 }),
    ('l', { letter := 'd', size := 8 }), ('o', { letter := 'o', size := 2 }),
    ('s', { letter := 'd', size := 2 }), ('x', { letter := 'x', size := 2 }),
    ('h', { letter := 'x', size := 2 }), ('B', { letter := 'o', size := 2 })]

/-- The lines of a dump from an offset on. Lines like the one before stand as a star. -/
def dumpLines (address : Nat → Row) (formats : List DumpFormat) (perLine room : Nat)
    (showsAll : Bool) : Nat → Option Row → Bool → List Row → List Row
  | _, _, _, [] => []
  | offset, last, isStarred, block :: rest =>
      let go (starred : Bool) : List Row :=
        dumpLines address formats perLine room showsAll (offset + block.length) (some block) starred rest
      if !showsAll && last == some block && block.length = perLine then
        (if isStarred then [] else [['*']]) ++ go true
      else
        let start := address offset
        let lines := formats.zipIdx.map fun (format, index) =>
          (if index = 0 then start else List.replicate start.length ' ')
            ++ format.line perLine room block
        lines ++ go false

/-- Shows bytes. -/
def od : Utility := fun given => do
  let arguments ← parseArguments
    (letterOptions "abcdilosxhB" ++ [long 'A' "address-radix" .some, long 'j' "skip-bytes" .some,
      long 'N' "read-bytes" .some, long 't' "format" .some, long 'v' "output-duplicates",
      long 'w' "width" .maybe, long 'S' "strings" .some]) given
  let radix := (arguments.value? 'A').getD ['o']
  if !(["d", "o", "x", "n"].any fun known => rowOf known == radix.take 1) then
    fail (rowOf "invalid output address radix '" ++ radix
      ++ rowOf "'; it must be one character from [doxn]") 1
  let countOfOption (letter : Char) : Tool (Option Nat) :=
    (arguments.value? letter).mapM fun text => do
      match countOf? text with
      | some (_, count) => return count
      | none => fail (rowOf "invalid -" ++ [letter] ++ rowOf " argument " ++ quotedText text) 1
  let skip ← countOfOption 'j'
  let limit ← countOfOption 'N'
  let formats ← arguments.options.reverse.foldlM (fun formats (letter, value) => do
    if letter = 't' then return formats ++ (← dumpFormats value (value.length + 1) value)
    else return formats ++ (shortFormats.lookup letter).toList) ([] : List DumpFormat)
  let formats := if formats.isEmpty then [({ letter := 'o', size := 2 } : DumpFormat)] else formats
  let address (offset : Nat) : Row :=
    match radix.head?.getD 'o' with
    | 'd' => padZeros 7 (natRow offset)
    | 'x' => padZeros 6 (Nat.toDigits 16 offset)
    | 'n' => []
    | _ => padZeros 7 (Nat.toDigits 8 offset)
  let read ← (namedInputs arguments.operands).mapM fun path => do
    match ← input path with
    | .ok row => return (row, 0)
    | .error fault =>
        warn (plainComplaint path fault)
        return ([], match fault with
          | .opening _ => 2
          | .reading _ => 1)
  if read.all fun (_, status) => status == 2 then leave 1
  let row := (read.map Prod.fst).flatten
  let status := min 1 ((read.map Prod.snd).foldl max 0)
  let skip := skip.getD 0
  if skip > row.length then fail (rowOf "cannot skip past end of combined input") 1
  let row := row.drop skip
  let row := (limit.map row.take).getD row
  let greatest := (formats.map DumpFormat.size).foldl max 1
  let perLine := match arguments.value? 'w' with
    | none => 16
    | some [] => 32
    | some text => max greatest ((Text.digits? text).getD 16)
  let room := (formats.map fun format => (format.width + 1) * (perLine / format.size)).foldl max 0
  put (joinRows (dumpLines address formats perLine room (arguments.has 'v') skip none false
    (piecesOf perLine row)))
  let ending := address (skip + row.length)
  if !ending.isEmpty then putLine ending
  return status

/-! ## Letters for bytes -/

/-- The letters that stand for six bits. -/
def packingLetters : Row :=
  "ABCDEFGHIJKLMNOPQRSTUVWXYZabcdefghijklmnopqrstuvwxyz0123456789+/".toList

/-- Up to three bytes as four letters. -/
def lettersFor (bytes : Row) : Row :=
  let number := (bytes ++ List.replicate (3 - bytes.length) '\x00').foldl
    (fun number byte => number * 256 + byte.toNat) 0
  let letters := [number / 262144, number / 4096 % 64, number / 64 % 64, number % 64].map fun index =>
    (packingLetters[index]?).getD 'A'
  letters.take (bytes.length + 1) ++ List.replicate (3 - bytes.length) '='

/-- Four letters as up to three bytes. -/
def bytesFor? (letters : Row) : Option Row :=
  let bare := (letters.reverse.dropWhile (· == '=')).reverse
  let indices := bare.map fun letter => packingLetters.findIdx? (· == letter)
  if letters.length = 4 && bare.length ≥ 2 && indices.all Option.isSome then
    let number := (indices.filterMap id ++ List.replicate (4 - bare.length) 0).foldl
      (fun number index => number * 64 + index) 0
    let bytes := [number / 65536, number / 256 % 256, number % 256].map Char.ofNat
    some (bytes.take (bare.length - 1))
  else none

/-- Packs bytes into letters, or unpacks them. -/
def base64 : Utility := fun given => do
  let arguments ← parseArguments
    [long 'd' "decode", long 'D' "", long 'i' "ignore-garbage", long 'w' "wrap" .some] given
  let path := (← singleOperand arguments.operands).getD ['-']
  let row ← do
    match ← input path with
    | .ok row => pure row
    | .error fault => fail (plainComplaint path fault) 1
  if arguments.has 'd' then
    let letters := row.filter fun letter =>
      if arguments.has 'i' then packingLetters.contains letter || letter == '=' else letter != '\n'
    let groups := (piecesOf 4 letters).map fun group => (group, bytesFor? group)
    let good := groups.takeWhile fun group => group.2.isSome
    put (good.flatMap fun group => group.2.getD [])
    match groups[good.length]? with
    | none => return 0
    | some (group, _) =>
        let start := group.takeWhile packingLetters.contains
        if start.length ≥ 2 then
          let padded := start.take 4 ++ List.replicate (4 - start.length) 'A'
          put (((bytesFor? padded).getD []).take (start.length - 1))
        fail (rowOf "invalid input") 1
  else
    let letters := ((piecesOf 3 row).map lettersFor).flatten
    let width := ((arguments.value? 'w').bind Text.digits?).getD 76
    if width = 0 then put letters else put (joinRows (piecesOf width letters))
    return 0

/-! ## Sums -/

/-- One bit further in a cyclic sum. -/
def shiftSum (sum : UInt32) : UInt32 :=
  if sum &&& 0x80000000 != 0 then (sum <<< 1) ^^^ 0x04c11db7 else sum <<< 1

/-- A cyclic sum with one more byte. -/
def addToSum (sum : UInt32) (byte : Nat) : UInt32 :=
  (List.range 8).foldl (fun sum _ => shiftSum sum) (sum ^^^ (UInt32.ofNat byte <<< 24))

/-- The bytes of a length, the least first. -/
def lengthBytes : Nat → Nat → List Nat
  | 0, _ => []
  | steps + 1, length => if length = 0 then [] else length % 256 :: lengthBytes steps (length / 256)

/-- The cyclic sum of bytes and their number. -/
def cyclicSum (row : Row) : Nat :=
  let sum := (row.map Char.toNat ++ lengthBytes 16 row.length).foldl addToSum 0
  (sum ^^^ 0xffffffff).toNat

/-- Writes the cyclic sums of files. -/
def cksum : Utility := fun given => do
  let arguments ← parseArguments [] given
  overTexts plainComplaint (fun path row => do
    putLine (natRow (cyclicSum row) ++ ' ' :: natRow row.length
      ++ (if path = ['-'] && arguments.operands.isEmpty then [] else ' ' :: path))
    return 0) arguments.operands

/-! ## Pieces -/

/-- The suffix with a number. -/
def pieceSuffix (letters : Row) (length number : Nat) : Row :=
  let base := letters.length
  ((List.range length).reverse.map fun place =>
    let power := (List.replicate place base).foldl (· * ·) 1
    (letters[number / power % base]?).getD 'a')

/-- Writes the pieces of an input to files of their own. -/
def split : Utility := fun given => do
  let arguments ← parseArguments
    [long 'l' "lines" .some, long 'b' "bytes" .some, long 'C' "line-bytes" .some,
      long 'n' "number" .some, long 'a' "suffix-length" .some, long 'd' "",
      long 'd' "numeric-suffixes" .maybe, long 'S' "additional-suffix" .some] given
  let count (letter : Char) (unit : String) : Tool (Option Nat) :=
    (arguments.value? letter).mapM fun text => do
      match countOf? text with
      | some (none, count + 1) => return count + 1
      | _ => fail (rowOf ("invalid number of " ++ unit ++ ": ") ++ quotedText text) 1
  let lines ← count 'l' "lines"
  let bytes ← count 'b' "bytes"
  let chunks ← count 'n' "chunks"
  let (path, start) ←
    match arguments.operands with
    | [] => pure (['-'], ['x'])
    | [path] => pure (path, ['x'])
    | [path, start] => pure (path, start)
    | _ :: _ :: extra :: _ => usage (rowOf "extra operand " ++ quotedText extra)
  let row ← do
    match ← input path with
    | .ok row => pure row
    | .error fault => fail (readingComplaint path fault) 1
  let pieces :=
    match bytes, chunks with
    | some size, _ => piecesOf size row
    | none, some chunks =>
        let size := row.length / chunks
        (List.range chunks).map fun index =>
          (row.drop (index * size)).take (if index + 1 = chunks then row.length else size)
    | none, none => (piecesOf (lines.getD 1000) (records ['\n'] false row)).map List.flatten
  let letters := if arguments.has 'd' then "0123456789".toList
    else "abcdefghijklmnopqrstuvwxyz".toList
  let length := ((arguments.value? 'a').bind Text.digits?).getD 2
  let suffix := (arguments.value? 'S').getD []
  worst (fun (piece, number) => do
    let name := start ++ pieceSuffix letters length number ++ suffix
    match ← Act.openPath .write (textOf name) with
    | .ok opening =>
        let _ ← keeping opening (Act.writeOpening opening piece)
        return 0
    | .error fault =>
        warn (quotedIfNeeded name ++ rowOf (": " ++ fault.reason))
        return 1) pieces.zipIdx

/-- Reads so many blocks of a size. The numbers count whole and partial blocks. -/
def readBlocks (opening size : Nat) (convert : ByteArray → Tool Unit) :
    Nat → Nat × Nat → Tool (Nat × Nat)
  | 0, counts => return counts
  | blocks + 1, (whole, partly) => do
      let bytes := (← Act.receive Act.patience opening size).toOption.getD ByteArray.empty
      if bytes.isEmpty then return (whole, partly)
      convert bytes
      readBlocks opening size convert blocks
        (if bytes.size = size then (whole + 1, partly) else (whole, partly + 1))

/-- Copies blocks. -/
def dd : Utility := fun operands => do
  let known := ["if", "of", "bs", "ibs", "obs", "count", "skip", "seek", "conv", "status", "iflag",
    "oflag", "cbs"]
  let options ← operands.mapM fun operand => do
    let name := operand.takeWhile (· != '=')
    if known.contains (textOf name) && operand.contains '=' then
      return (textOf name, operand.drop (name.length + 1))
    else usage (rowOf "unrecognized operand " ++ quotedText operand)
  let number (name : String) (standard : Nat) : Tool Nat := do
    match options.reverse.lookup name with
    | none => return standard
    | some text =>
        match countOf? text with
        | some (none, count) => return count
        | _ => fail (rowOf "invalid number: " ++ quotedText text) 1
  let size ← number "bs" (← number "ibs" 512)
  let count ← number "count" Act.patience
  let skip ← number "skip" 0
  let seek ← number "seek" 0
  let conversions := (cutAtEach ',' ((options.reverse.lookup "conv").getD [])).map textOf
  let opened (path : Row) (mode : OpenMode) : Tool Nat := do
    match ← Act.openPath mode (textOf path) with
    | .ok opening => return opening
    | .error fault => fail (rowOf "failed to open " ++ quoted path ++ rowOf (": " ++ fault.reason)) 1
  let source ←
    match options.reverse.lookup "if" with
    | some path => opened path .read
    | none => pure ((← Act.openingOf 0).getD 0)
  let target ←
    match options.reverse.lookup "of" with
    | some path =>
        opened path (if conversions.contains "notrunc" || seek > 0 then .update else .write)
    | none => pure ((← Act.openingOf 1).getD 1)
  let moved (opening distance : Nat) : Tool Unit :=
    modify fun machine => { machine with
      openings := machine.openings.modify opening fun opening =>
        { opening with position := opening.position + distance } }
  let isSeekable (opening : Nat) : Tool Bool := do
    match ((← get).openings[opening]?).map Opening.target with
    | some (.file _) => return true
    | _ => return false
  if ← isSeekable source then moved source (skip * size)
  else
    let _ ← Act.receiveUpTo Act.patience source (skip * size) []
  moved target (seek * (← number "bs" (← number "obs" 512)))
  let (whole, partly) ← keeping source (keeping target (readBlocks source size (fun bytes => do
    let bytes :=
      if conversions.contains "ucase" then packed ((unpacked bytes).map Char.toUpper)
      else if conversions.contains "lcase" then packed ((unpacked bytes).map Char.toLower)
      else bytes
    let _ ← Act.send target bytes) count (0, 0)))
  let status := ((options.reverse.lookup "status").map textOf).getD ""
  if status ≠ "none" then
    let counts := natRow whole ++ '+' :: natRow partly
    warnRow (counts ++ rowOf " records in\n" ++ counts ++ rowOf " records out\n")
  return 0

/-! ## Factors -/

/-- The prime factors of a number from a divisor on, in at most so many steps. -/
def primeFactors : Nat → Nat → Nat → List Nat
  | 0, _, number => if number > 1 then [number] else []
  | steps + 1, divisor, number =>
      if number ≤ 1 then []
      else if divisor * divisor > number then [number]
      else if number % divisor = 0 then divisor :: primeFactors steps divisor (number / divisor)
      else primeFactors steps (divisor + 1) number

/-- Writes the prime factors of numbers. -/
def factor : Utility := fun given => do
  let arguments ← parseArguments [] given
  let texts ←
    if arguments.operands.isEmpty then pure (wordsOf ((← standardInput).toOption.getD []))
    else pure arguments.operands
  worst (fun text => do
    match Text.digits? text with
    | some number =>
        putLine (natRow number ++ [':']
          ++ (primeFactors 1000000 2 number).flatMap fun prime => ' ' :: natRow prime)
        return 0
    | none =>
        warn (quotedText text ++ rowOf " is not a valid positive integer")
        return 1) texts

end TestAmplification.Shell
