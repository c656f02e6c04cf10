/-!
# Texts as bytes

A byte sequence is cut into *units*: a well-formed UTF-8 sequence is the
character that it encodes, and a longest initial part of a well-formed
sequence that is not continued is one ill-formed unit, as is every other byte
that fits nowhere. A byte sequence is a text when it has no ill-formed unit;
reading with replacement puts U+FFFD for each of them.
-/

set_option autoImplicit false

namespace TestAmplification.Text

/-- Bytes. -/
abbrev Bytes := List UInt8

/-- Is the byte one that continues a sequence? -/
def isContinuation (byte : UInt8) : Bool :=
  0x80 ≤ byte && byte ≤ 0xBF

/-- The range of the byte after a leading byte, and how many further bytes
follow that one; nothing for a byte that leads no longer sequence. -/
def sequenceShape (lead : UInt8) : Option (UInt8 × UInt8 × Nat) :=
  if 0xC2 ≤ lead ∧ lead ≤ 0xDF then some (0x80, 0xBF, 0)
  else if lead = 0xE0 then some (0xA0, 0xBF, 1)
  else if lead = 0xED then some (0x80, 0x9F, 1)
  else if 0xE1 ≤ lead ∧ lead ≤ 0xEF then some (0x80, 0xBF, 1)
  else if lead = 0xF0 then some (0x90, 0xBF, 2)
  else if 0xF1 ≤ lead ∧ lead ≤ 0xF3 then some (0x80, 0xBF, 2)
  else if lead = 0xF4 then some (0x80, 0x8F, 2)
  else none

/-- The code point bits that a leading byte carries. -/
def leadBits (lead : UInt8) : Nat :=
  if lead < 0xE0 then lead.toNat - 0xC0
  else if lead < 0xF0 then lead.toNat - 0xE0
  else lead.toNat - 0xF0

/-- The code point so far, with the six bits of one more byte. -/
def addContinuation (point : Nat) (byte : UInt8) : Nat :=
  64 * point + (byte.toNat - 0x80)

/-- Takes up to `count` continuation bytes: the character of the whole
sequence, or nothing when it breaks off, and the bytes that remain. -/
def continueUnit : Nat → Nat → Bytes → Option Char × Bytes
  | 0, point, bytes => (some (Char.ofNat point), bytes)
  | _ + 1, _, [] => (none, [])
  | count + 1, point, byte :: bytes =>
      if isContinuation byte then continueUnit count (addContinuation point byte) bytes
      else (none, byte :: bytes)

/-- The unit that starts with the given byte, and the bytes after it. -/
def takeUnit (lead : UInt8) (bytes : Bytes) : Option Char × Bytes :=
  if lead < 0x80 then (some (Char.ofNat lead.toNat), bytes)
  else
    match sequenceShape lead, bytes with
    | some (low, high, count), second :: rest =>
        if low ≤ second ∧ second ≤ high then
          continueUnit count (addContinuation (leadBits lead) second) rest
        else (none, second :: rest)
    | _, rest => (none, rest)

theorem length_continueUnit_le (count point : Nat) (bytes : Bytes) :
    (continueUnit count point bytes).2.length ≤ bytes.length := by
  induction count generalizing point bytes with
  | zero => simp [continueUnit]
  | succ count ih =>
      cases bytes with
      | nil => simp [continueUnit]
      | cons byte rest =>
          simp only [continueUnit]
          split
          · exact Nat.le_succ_of_le (ih _ _)
          · exact Nat.le_refl _

/-- A unit takes at least its leading byte. -/
theorem length_takeUnit_le (lead : UInt8) (bytes : Bytes) :
    (takeUnit lead bytes).2.length ≤ bytes.length := by
  unfold takeUnit
  split
  · exact Nat.le_refl _
  · split
    · split
      · exact Nat.le_succ_of_le (length_continueUnit_le _ _ _)
      · exact Nat.le_refl _
    · exact Nat.le_refl _

/-- The units of a byte sequence: a character each, or nothing where the bytes
are ill-formed. -/
def units : Bytes → List (Option Char)
  | [] => []
  | lead :: bytes =>
      (takeUnit lead bytes).1 :: units (takeUnit lead bytes).2
termination_by bytes => bytes.length
decreasing_by
  exact Nat.lt_succ_of_le (length_takeUnit_le lead bytes)

/-- The character that stands for an ill-formed unit. -/
def replacementCharacter : Char := '\uFFFD'

/-- The text of a byte sequence, every ill-formed unit replaced. -/
def decodeWithReplacement (bytes : Bytes) : String :=
  String.ofList ((units bytes).map (·.getD replacementCharacter))

/-- The text of a byte sequence without ill-formed units. -/
def decode? (bytes : Bytes) : Option String :=
  ((units bytes).mapM id).map String.ofList

/-- The bytes of a text. -/
def encode (text : String) : Bytes :=
  text.toUTF8.toList

end TestAmplification.Text
