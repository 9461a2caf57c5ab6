import DescriptorReaper.Decimal

/-!
Printing and reading numerals. Every digit that is printed is a digit byte of the value printed, so
a printed number reads back as itself, and a minus sign in front keeps a text from being a plain
numeral. What a numeral spells is a number of any size, and reading accepts exactly those in range.
-/

namespace DescriptorReaper.Decimal

theorem digit_byte (number : Nat) (small : number < 10) :
    isDigit (UInt8.ofNat (48 + number)) = true ∧ digit (UInt8.ofNat (48 + number)) = number := by
  have fits : (UInt8.ofNat (48 + number)).toNat = 48 + number := by
    rw [UInt8.toNat_ofNat']
    omega
  constructor
  · simp only [isDigit, UInt8.le_iff_toNat_le, fits, Bool.and_eq_true, decide_eq_true_eq]
    exact ⟨Nat.le_add_right 48 number, by change 48 + number ≤ 57; omega⟩
  · rw [digit, fits]
    omega

theorem value_append_digit (front : Bytes) (last : UInt8) :
    value (front ++ [last]) = 10 * value front + digit last := by
  simp [value]

-- Both facts follow the recursion of the printer, which peels the last digit off.
theorem digits_all_digit (number : Nat) : (digits number).all isDigit = true := by
  induction number using digits.induct with
  | case1 number small =>
      rw [digits, if_pos small, List.all_cons, (digit_byte number small).1]
      rfl
  | case2 number large ih =>
      have last := digit_byte (number % 10) (Nat.mod_lt number (by omega))
      rw [digits, if_neg large, List.all_append, ih, List.all_cons, last.1]
      rfl

theorem value_digits (number : Nat) : value (digits number) = number := by
  induction number using digits.induct with
  | case1 number small =>
      rw [digits, if_pos small]
      exact (Nat.zero_add _).trans (digit_byte number small).2
  | case2 number large ih =>
      have last := digit_byte (number % 10) (Nat.mod_lt number (by omega))
      rw [digits, if_neg large, value_append_digit, ih, last.2]
      omega

theorem digits_nonempty (number : Nat) : digits number ≠ [] := by
  rw [digits]
  split <;> simp

/-- A printed number is a plain numeral, and it reads back as itself. -/
theorem natural_digits (number : Nat) : natural? (digits number) = some number := by
  rw [natural?, if_pos ⟨digits_nonempty number, digits_all_digit number⟩, value_digits]

theorem natural_signed_digits (number : Int) :
    natural? (signedDigits number) = if number < 0 then none else some number.natAbs := by
  rw [signedDigits]
  by_cases negative : number < 0
  · rw [if_pos negative, if_pos negative, natural?, if_neg]
    rintro ⟨-, all⟩
    exact absurd (List.all_eq_true.mp all 45 List.mem_cons_self) (by decide)
  · rw [if_neg negative, if_neg negative, natural_digits]

theorem digits_head (number : Nat) :
    ∃ first rest, digits number = first :: rest ∧ isDigit first = true := by
  cases split : digits number with
  | nil => exact absurd split (digits_nonempty number)
  | cons first rest =>
      refine ⟨first, rest, rfl, List.all_eq_true.mp (digits_all_digit number) first ?_⟩
      rw [split]
      exact List.mem_cons_self

/-- A text is a numeral of an integer: digits, with a sign in front or without one. -/
inductive Spells : Bytes → Int → Prop where
  | plain {digits : Bytes} (some : digits ≠ []) (all : digits.all isDigit = true) :
      Spells digits (value digits)
  | plus {digits : Bytes} (some : digits ≠ []) (all : digits.all isDigit = true) :
      Spells (43 :: digits) (value digits)
  | minus {digits : Bytes} (some : digits ≠ []) (all : digits.all isDigit = true) :
      Spells (45 :: digits) (-(value digits))

def Range.Holds (range : Range) (number : Int) : Prop :=
  range.least ≤ number ∧ number ≤ range.greatest

instance (range : Range) (number : Int) : Decidable (range.Holds number) :=
  inferInstanceAs (Decidable (_ ∧ _))

theorem take_digits {text : Bytes} (all : text.all isDigit = true) :
    text.takeWhile isDigit = text := by
  have taken : (text ++ []).takeWhile isDigit = text ++ [].takeWhile isDigit :=
    List.takeWhile_append_of_pos (List.all_eq_true.mp all)
  rwa [List.append_nil, List.takeWhile_nil, List.append_nil] at taken

theorem take_digits_short {text : Bytes} (other : ¬ text.all isDigit = true) :
    (text.takeWhile isDigit).length < text.length := by
  have within := List.takeWhile_prefix (p := isDigit) (l := text)
  refine Nat.lt_of_le_of_ne within.length_le fun same => other ?_
  rw [← within.eq_of_length same]
  exact List.all_takeWhile

theorem magnitude_iff (range : Range) (negative : Bool) (text : Bytes) (number : Int) :
    magnitude range negative text = .ok number ↔
      text ≠ [] ∧ text.all isDigit = true ∧ range.Holds number ∧
        number = if negative then -(value text : Int) else value text := by
  rw [magnitude]
  by_cases all : text.all isDigit = true
  · rw [take_digits all]
    generalize (if negative then -(value text : Int) else value text) = denoted
    simp only [Nat.lt_irrefl, or_false, all, Range.Holds]
    by_cases above : range.greatest < denoted
    · rw [if_pos above]
      constructor
      · rintro ⟨⟩
      · rintro ⟨-, -, ⟨-, below⟩, rfl⟩
        omega
    · rw [if_neg above]
      by_cases beneath : denoted < range.least
      · rw [if_pos beneath]
        constructor
        · rintro ⟨⟩
        · rintro ⟨-, -, ⟨least, -⟩, rfl⟩
          omega
      · rw [if_neg beneath]
        by_cases empty : text = []
        · simp [empty]
        · rw [if_neg empty]
          constructor
          · rintro ⟨⟩
            exact ⟨empty, trivial, ⟨by omega, by omega⟩, rfl⟩
          · rintro ⟨-, -, -, rfl⟩
            rfl
  · have short := take_digits_short all
    rw [if_pos (Or.inr short)]
    generalize (if negative then -(value (text.takeWhile isDigit) : Int)
      else value (text.takeWhile isDigit)) = denoted
    constructor
    · intro read
      by_cases above : range.greatest < denoted
      · rw [if_pos above] at read
        cases read
      · rw [if_neg above] at read
        by_cases beneath : denoted < range.least
        · rw [if_pos beneath] at read
          cases read
        · rw [if_neg beneath] at read
          cases read
    · rintro ⟨-, same, -⟩
      exact absurd same all

theorem integer_iff (range : Range) (text : Bytes) (number : Int) :
    integer range text = .ok number ↔ Spells text number ∧ range.Holds number := by
  constructor
  · intro read
    unfold integer at read
    split at read
    next => cases read
    next rest =>
      obtain ⟨some, all, holds, rfl⟩ := (magnitude_iff range false rest number).mp read
      exact ⟨.plus some all, holds⟩
    next rest =>
      obtain ⟨some, all, holds, rfl⟩ := (magnitude_iff range true rest number).mp read
      exact ⟨.minus some all, holds⟩
    next =>
      obtain ⟨some, all, holds, rfl⟩ := (magnitude_iff range false text number).mp read
      exact ⟨.plain some all, holds⟩
  · rintro ⟨spelled, holds⟩
    cases spelled with
    | plus some all => exact (magnitude_iff range false _ _).mpr ⟨some, all, holds, rfl⟩
    | minus some all => exact (magnitude_iff range true _ _).mpr ⟨some, all, holds, rfl⟩
    | plain some all =>
        have unsigned : integer range text = magnitude range false text := by
          unfold integer
          split
          next => exact absurd rfl some
          next => cases all
          next => cases all
          next => rfl
        exact unsigned.trans ((magnitude_iff range false text _).mpr ⟨some, all, holds, rfl⟩)

/-- A numeral is read as a narrow number exactly if it spells one. The wide range takes none away.
-/
theorem narrowed_iff (text : Bytes) (number : Int) :
    narrowed .word32 text = .ok number ↔ Spells text number ∧ Range.word32.Holds number := by
  have wide : Range.word32.Holds number → Range.word64.Holds number := by
    intro holds
    simp only [Range.Holds, Range.word32, Range.word64] at holds ⊢
    omega
  rw [narrowed]
  cases read : integer .word64 text with
  | error fault =>
      constructor
      · rintro ⟨⟩
      · rintro ⟨spelled, holds⟩
        rw [(integer_iff .word64 text number).mpr ⟨spelled, wide holds⟩] at read
        cases read
  | ok whole =>
      dsimp only
      obtain ⟨spelled, -⟩ := (integer_iff .word64 text whole).mp read
      constructor
      · intro kept
        split at kept
        next holds =>
          cases kept
          exact ⟨spelled, holds⟩
        next => cases kept
      · rintro ⟨other, holds⟩
        have same := (integer_iff .word64 text number).mpr ⟨other, wide holds⟩
        rw [read] at same
        cases same
        exact if_pos holds

theorem spells_digits (number : Nat) : Spells (digits number) number := by
  have spelled := Spells.plain (digits_nonempty number) (digits_all_digit number)
  rwa [value_digits] at spelled

end DescriptorReaper.Decimal
