import TestAmplification.Text.Utf8

/-!
# Digests of bytes

A digest is a short row of bytes that stands for a long one. The bytes are filled up to whole
blocks of sixteen words, with a mark behind them and their number at the end. A state of a few
words is then mixed with one block after the other, in rounds that differ in their constants.

The constants come from nowhere in particular, so that nobody has chosen them: they are the
first binary digits of the roots of the first primes, or of the sines of the first numbers.
-/

set_option autoImplicit false

namespace TestAmplification.Text.Digest

/-! ## Words -/

/-- A sum of words of a width. -/
def add (width : Nat) (first second : Nat) : Nat :=
  (first + second) % Nat.pow 2 width

/-- A word turned to the left by some bits. -/
def turnLeft (width bits word : Nat) : Nat :=
  (Nat.shiftLeft word bits) % Nat.pow 2 width + Nat.shiftRight word (width - bits)

/-- A word turned to the right by some bits. -/
def turnRight (width bits word : Nat) : Nat :=
  turnLeft width (width - bits) word

/-- All bits of a word turned over. -/
def complement (width word : Nat) : Nat :=
  Nat.pow 2 width - 1 - word

/-- The bits of the second word where the first one has ones, else those of the third. -/
def choose (width : Nat) (chooser first second : Nat) : Nat :=
  Nat.lor (Nat.land chooser first) (Nat.land (complement width chooser) second)

/-- The bits that most of three words have. -/
def majority (first second third : Nat) : Nat :=
  Nat.xor (Nat.xor (Nat.land first second) (Nat.land first third)) (Nat.land second third)

/-- The word of some bytes, the highest one first. -/
def wordOf (bytes : List Nat) : Nat :=
  bytes.foldl (fun word byte => word * 256 + byte) 0

/-- So many bytes of a word, the highest one first. -/
def bytesOf (count word : Nat) : List Nat :=
  (List.range count).reverse.map fun place => Nat.shiftRight word (8 * place) % 256

/-! ## Blocks -/

/-- Pieces of so many items, at most so many of them. -/
def pieces {α : Type} (size : Nat) : Nat → List α → List (List α)
  | 0, _ | _ + 1, [] => []
  | steps + 1, items => items.take size :: pieces size steps (items.drop size)

/-- The bytes filled up to whole blocks of words that have so many bytes. The number of bits
stands at the end, in two words. -/
def filled (size : Nat) (isReversed : Bool) (bytes : List Nat) : List Nat :=
  let block := 16 * size
  let used := bytes.length + 1 + 2 * size
  let gap := (block - used % block) % block
  let count := bytesOf (2 * size) (8 * bytes.length)
  bytes ++ 0x80 :: List.replicate gap 0 ++ (if isReversed then count.reverse else count)

/-- The blocks of bytes, each as its words. -/
def blocks (size : Nat) (isReversed : Bool) (bytes : List Nat) : List (Array Nat) :=
  let all := filled size isReversed bytes
  let words := (pieces size all.length all).map fun piece =>
    wordOf (if isReversed then piece.reverse else piece)
  (pieces 16 words.length words).map List.toArray

/-! ## Constants -/

/-- The first primes, as many as there are constants. -/
def primes : List Nat :=
  (((List.range 410).drop 2).filter fun number =>
    ((List.range 21).drop 2).all fun divisor => number % divisor ≠ 0 || number = divisor).take 80

/-- The greatest number whose power is at most the given one, between two bounds, in at most so
many steps. -/
def rootBetween (power target : Nat) : Nat → Nat → Nat → Nat
  | 0, low, _ => low
  | steps + 1, low, high =>
      let middle := (low + high) / 2
      if Nat.pow middle power ≤ target then rootBetween power target steps middle high
      else rootBetween power target steps low middle

/-- The first bits behind the point of a root of a number, at most 64. -/
def rootBits (power bits number : Nat) : Nat :=
  rootBetween power (number * Nat.pow 2 (power * 64)) 70 0 (Nat.pow 2 70) % Nat.pow 2 64
    / Nat.pow 2 (64 - bits)

/-- The sine of a number, scaled, from its terms on: the term of the given place and those behind
it, at most so many. -/
def sineFrom (number : Nat) : Nat → Nat → Int → Int
  | 0, _, _ => 0
  | steps + 1, place, term =>
      term + sineFrom number steps (place + 2)
        (-(term * (number * number : Nat)) / (((place + 1) * (place + 2) : Nat) : Int))

/-- The first bits behind the point of the size of the sine of a number. -/
def sineBits (number : Nat) : Nat :=
  (sineFrom number 130 1 (Nat.shiftLeft number 200)).natAbs / Nat.pow 2 168

/-! ## The second secure digests -/

/-- A digest of the second secure family. -/
structure Family where
  /-- The bits of a word. -/
  width : Nat
  /-- The number of rounds for a block. -/
  rounds : Nat
  /-- How far words are turned before they are mixed: those of the block, and those of the
  state. Of the words of the block the last copy is only shifted. -/
  turns : List (Nat × Nat × Nat)

namespace Family

/-- The family with words of 32 bits. -/
def short : Family where
  width := 32
  rounds := 64
  turns := [(7, 18, 3), (17, 19, 10), (2, 13, 22), (6, 11, 25)]

/-- The family with words of 64 bits. -/
def long : Family where
  width := 64
  rounds := 80
  turns := [(1, 8, 7), (19, 61, 6), (28, 34, 39), (14, 18, 41)]

/-- The constants of the rounds. -/
def constants (family : Family) : Array Nat :=
  ((primes.take family.rounds).map (rootBits 3 family.width)).toArray

/-- Three copies of a word, turned and mixed. -/
def mix (family : Family) (index : Nat) (word : Nat) : Nat :=
  let (first, second, third) := (family.turns[index]?).getD (0, 0, 0)
  Nat.xor (Nat.xor (turnRight family.width first word) (turnRight family.width second word))
    (if index < 2 then Nat.shiftRight word third else turnRight family.width third word)

/-- The words of a block, followed by mixtures of them. -/
def schedule (family : Family) (block : Array Nat) : Array Nat :=
  (List.range (family.rounds - 16)).foldl (fun words start =>
    let word (place : Nat) : Nat := (words[start + place]?).getD 0
    words.push ((family.mix 1 (word 14) + word 9 + family.mix 0 (word 1) + word 0)
      % Nat.pow 2 family.width)) block

/-- A round, given the constant and the word that belong to it. -/
def round (family : Family) (state : List Nat) (constant word : Nat) : List Nat :=
  match state with
  | [a, b, c, d, e, f, g, h] =>
      let first := h + family.mix 3 e + choose family.width e f g + constant + word
      let second := family.mix 2 a + majority a b c
      [add family.width first second, a, b, c, add family.width d first, e, f, g]
  | state => state

/-- The state after a block. -/
def addBlock (family : Family) (constants : Array Nat) (state : List Nat) (block : Array Nat) :
    List Nat :=
  let words := family.schedule block
  let after := (List.range family.rounds).foldl (fun state index =>
    family.round state ((constants[index]?).getD 0) ((words[index]?).getD 0)) state
  List.zipWith (add family.width) state after

/-- The digest of bytes from a state on, in so many bytes. -/
def digest (family : Family) (start : List Nat) (length : Nat) (bytes : List Nat) : List Nat :=
  let constants := family.constants
  let state := (blocks (family.width / 8) false bytes).foldl (family.addBlock constants) start
  (state.flatMap (bytesOf (family.width / 8))).take length

end Family

/-- The digest of 256 bits. -/
def secure256 : List Nat → List Nat :=
  Family.short.digest ((primes.take 8).map (rootBits 2 32)) 32

/-- The digest of 224 bits. -/
def secure224 : List Nat → List Nat :=
  Family.short.digest (((primes.take 16).drop 8).map fun prime => rootBits 2 64 prime % Nat.pow 2 32) 28

/-- The digest of 512 bits. -/
def secure512 : List Nat → List Nat :=
  Family.long.digest ((primes.take 8).map (rootBits 2 64)) 64

/-- The digest of 384 bits. -/
def secure384 : List Nat → List Nat :=
  Family.long.digest (((primes.take 16).drop 8).map (rootBits 2 64)) 48

/-! ## The first secure digest -/

/-- The first words of the older digests. -/
def olderStart : List Nat :=
  [0x67452301, 0xefcdab89, 0x98badcfe, 0x10325476]

/-- The words of a block, followed by mixtures of them. -/
def olderSchedule (block : Array Nat) : Array Nat :=
  (List.range 64).foldl (fun words start =>
    let word (place : Nat) : Nat := (words[start + place]?).getD 0
    words.push (turnLeft 32 1
      (Nat.xor (Nat.xor (word 13) (word 8)) (Nat.xor (word 2) (word 0))))) block

/-- How three words are mixed in a round, and the constant of the round. -/
def olderMixture (index b c d : Nat) : Nat × Nat :=
  if index < 20 then (choose 32 b c d, 0x5a827999)
  else if index < 40 then (Nat.xor (Nat.xor b c) d, 0x6ed9eba1)
  else if index < 60 then (majority b c d, 0x8f1bbcdc)
  else (Nat.xor (Nat.xor b c) d, 0xca62c1d6)

/-- A round. -/
def olderRound (words : Array Nat) (state : List Nat) (index : Nat) : List Nat :=
  match state with
  | [a, b, c, d, e] =>
      let (mixture, constant) := olderMixture index b c d
      [(turnLeft 32 5 a + mixture + e + constant + (words[index]?).getD 0) % Nat.pow 2 32, a,
        turnLeft 32 30 b, c, d]
  | state => state

/-- The digest of 160 bits. -/
def secure160 (bytes : List Nat) : List Nat :=
  let state := (blocks 4 false bytes).foldl (fun state block =>
    let words := olderSchedule block
    List.zipWith (add 32) state ((List.range 80).foldl (olderRound words) state))
    (olderStart ++ [0xc3d2e1f0])
  state.flatMap (bytesOf 4)

/-! ## The message digest -/

/-- How far words are turned in the four kinds of rounds. -/
def messageTurns : List (List Nat) :=
  [[7, 12, 17, 22], [5, 9, 14, 20], [4, 11, 16, 23], [6, 10, 15, 21]]

/-- How three words are mixed in a round, and the word of the block that is added. -/
def messageMixture (index b c d : Nat) : Nat × Nat :=
  match index / 16 with
  | 0 => (choose 32 b c d, index)
  | 1 => (choose 32 d b c, (5 * index + 1) % 16)
  | 2 => (Nat.xor (Nat.xor b c) d, (3 * index + 5) % 16)
  | _ => (Nat.xor c (Nat.lor b (complement 32 d)), 7 * index % 16)

/-- A round. -/
def messageRound (constants block : Array Nat) (state : List Nat) (index : Nat) : List Nat :=
  match state with
  | [a, b, c, d] =>
      let (mixture, place) := messageMixture index b c d
      let turn := (((messageTurns[index / 16]?).bind fun turns => turns[index % 4]?)).getD 0
      let sum := (a + mixture + (constants[index]?).getD 0 + (block[place]?).getD 0) % Nat.pow 2 32
      [d, add 32 b (turnLeft 32 turn sum), b, c]
  | state => state

/-- The digest of 128 bits. -/
def message128 (bytes : List Nat) : List Nat :=
  let constants := ((List.range 64).map fun index => sineBits (index + 1)).toArray
  let state := (blocks 4 true bytes).foldl (fun state block =>
    List.zipWith (add 32) state ((List.range 64).foldl (messageRound constants block) state))
    olderStart
  state.flatMap fun word => (bytesOf 4 word).reverse

end TestAmplification.Text.Digest
