import TestAmplification.Text.Decimal

/-!
# Numbers in decimal

A number is read from its numerals and from nothing else (`unsigned?_eq_some_iff`): runs of digits,
perhaps behind a plus sign. For a number of 32 bits the numeral must denote one
(`word32?_eq_some_iff`, `word32?_eq_none_iff`).

The decimal digits that a number is written with denote the number (`digits?_decimalDigits`), and
they start with a zero only if the number is zero (`decimalDigits_zero`, `head_decimalDigits`).
-/

set_option autoImplicit false

namespace TestAmplification.Text

theorem isDigit_eq (character : Char) : isDigit character = character.isDigit := by
  simp only [isDigit, Char.isDigit, Char.le_def]

/-! ## Numerals -/

/-- The characters denote the number: a run of digits, perhaps behind a plus sign. -/
def IsNumeral (characters : List Char) (number : Nat) : Prop :=
  ∃ digits, (characters = digits ∨ characters = '+' :: digits) ∧ digits ≠ [] ∧
    (∀ digit ∈ digits, digit.isDigit = true) ∧ Nat.ofDigitChars 10 digits 0 = number

theorem digits?_eq_some_iff {characters : List Char} {number : Nat} :
    digits? characters = some number ↔ characters ≠ [] ∧
      (∀ digit ∈ characters, digit.isDigit = true) ∧ Nat.ofDigitChars 10 characters 0 = number := by
  have value : digitsValue characters = Nat.ofDigitChars 10 characters 0 :=
    Nat.ofDigitChars_eq_foldl.symm
  simp only [digits?, value, Option.ite_none_right_eq_some, List.all_eq_true, isDigit_eq,
    Option.some.injEq, and_assoc]

/-- **Numerals** are what is read as a number. -/
theorem unsigned?_eq_some_iff {characters : List Char} {number : Nat} :
    unsigned? characters = some number ↔ IsNumeral characters number := by
  constructor
  · intro read
    unfold unsigned? at read
    split at read
    · next digits => exact ⟨digits, .inr rfl, digits?_eq_some_iff.1 read⟩
    · exact ⟨characters, .inl rfl, digits?_eq_some_iff.1 read⟩
  · rintro ⟨digits, rfl | rfl, isRun⟩
    · rw [unsigned?, digits?_eq_some_iff]
      · exact isRun
      · -- a plus sign is no digit
        rintro others rfl
        exact absurd (isRun.2.1 '+' List.mem_cons_self) (by decide)
    · rw [unsigned?, digits?_eq_some_iff]
      exact isRun

theorem word32?_eq_some_iff {characters : List Char} {number : UInt32} :
    word32? characters = some number ↔ IsNumeral characters number.toNat := by
  rw [word32?, unsignedUpTo?, Option.map_eq_some_iff]
  constructor
  · rintro ⟨value, read, rfl⟩
    obtain ⟨read, small⟩ := Option.filter_eq_some_iff.1 read
    rw [UInt32.toNat_ofNat_of_lt' (Nat.lt_succ_iff.2 (of_decide_eq_true small))]
    exact unsigned?_eq_some_iff.1 read
  · intro numeral
    refine ⟨number.toNat, ?_, UInt32.ofNat_toNat⟩
    rw [Option.filter_eq_some_iff, decide_eq_true_iff]
    exact ⟨unsigned?_eq_some_iff.2 numeral, Nat.le_pred_of_lt number.toNat_lt⟩

theorem word32?_eq_none_iff {characters : List Char} :
    word32? characters = none ↔ ∀ number < UInt32.size, ¬ IsNumeral characters number := by
  rw [Option.eq_none_iff_forall_ne_some]
  constructor
  · intro unread number small numeral
    refine unread (UInt32.ofNat number) (word32?_eq_some_iff.2 ?_)
    rwa [UInt32.toNat_ofNat_of_lt' small]
  · intro noNumeral number read
    exact noNumeral number.toNat number.toNat_lt (word32?_eq_some_iff.1 read)

/-! ## Written numbers -/

theorem isDigit_of_mem_decimalDigits {number : Nat} {character : Char}
    (member : character ∈ decimalDigits number) : isDigit character = true := by
  rw [isDigit_eq]
  exact Nat.isDigit_of_mem_toDigits (by decide) (by decide) member

theorem decimalDigits_ne_nil (number : Nat) : decimalDigits number ≠ [] :=
  Nat.toDigits_ne_nil

theorem decimalDigits_zero : decimalDigits 0 = ['0'] :=
  Nat.toDigits_zero 10

/-- The first digit of a positive number is not zero. -/
theorem head_decimalDigits {number : Nat} (positive : number ≠ 0) {first : Char}
    {others : List Char} (digits : decimalDigits number = first :: others) : first ≠ '0' := by
  induction number using Nat.strongRecOn generalizing others with
  | _ number ih =>
      rw [decimalDigits, Nat.toDigits_eq_if (by decide)] at digits
      split at digits
      · obtain rfl := (List.cons.inj digits).1
        exact mt Nat.digitChar_eq_zero.1 positive
      · next large =>
          -- the first digit is the one of the number without its last digit
          have fewer : number / 10 < number := Nat.div_lt_self (Nat.pos_of_ne_zero positive) (by decide)
          cases front : Nat.toDigits 10 (number / 10) with
          | nil => exact absurd front Nat.toDigits_ne_nil
          | cons lead rest =>
              rw [front, List.cons_append] at digits
              obtain rfl := (List.cons.inj digits).1
              exact ih _ fewer (by omega) front

theorem digitsValue_decimalDigits (number : Nat) : digitsValue (decimalDigits number) = number := by
  calc digitsValue (decimalDigits number)
      = Nat.ofDigitChars 10 (Nat.toDigits 10 number) 0 := Nat.ofDigitChars_eq_foldl.symm
    _ = number := Nat.ofDigitChars_ten_toDigits

/-- **The digits of a number are read as the number.** -/
theorem digits?_decimalDigits (number : Nat) : digits? (decimalDigits number) = some number := by
  have all : (decimalDigits number).all isDigit = true :=
    List.all_eq_true.2 fun _ member => isDigit_of_mem_decimalDigits member
  rw [digits?, if_pos ⟨decimalDigits_ne_nil number, all⟩, digitsValue_decimalDigits]

end TestAmplification.Text
