import DescriptorReaper.Proofs.DescriptorNames
import DescriptorReaper.Proofs.Numerals

/-!
Why a text is no number that can be read. The digits are read one after the other, so a text that
begins with a numeral out of the wide range is out of range, whatever follows. Any other text that
is no numeral is at fault for what it holds, and a numeral in the wide range alone for its number.
-/

namespace DescriptorReaper.Decimal

def signed (negative : Bool) (number : Nat) : Int := if negative then -number else number

/-- A text that begins with a numeral is read by its sign, and then by its digits and the rest. -/
theorem integer_front (range : Range) {front : Bytes} {number : Int} (spelled : Spells front number)
    (rest : Bytes) :
    ∃ negative digits, integer range (front ++ rest) = magnitude range negative (digits ++ rest) ∧
      digits.all isDigit = true ∧ number = signed negative (value digits) := by
  cases spelled with
  | plus _ all => exact ⟨false, _, rfl, all, rfl⟩
  | minus _ all => exact ⟨true, _, rfl, all, rfl⟩
  | plain some all =>
      refine ⟨false, front, ?_, all, rfl⟩
      cases front with
      | nil => exact absurd rfl some
      | cons first front =>
          rw [List.cons_append]
          unfold integer
          split
          next same => cases same
          next same =>
            cases same
            cases all
          next same =>
            cases same
            cases all
          next => rfl

theorem integer_split (range : Range) {text : Bytes} (present : text ≠ []) :
    ∃ negative sign body, text = sign ++ body ∧
      integer range text = magnitude range negative body ∧
      ∀ digits, digits ≠ [] → digits.all isDigit = true →
        Spells (sign ++ digits) (signed negative (value digits)) := by
  unfold integer
  split
  next => exact absurd rfl present
  next rest => exact ⟨false, [43], rest, rfl, rfl, fun digits some all => .plus some all⟩
  next rest => exact ⟨true, [45], rest, rfl, rfl, fun digits some all => .minus some all⟩
  next => exact ⟨false, [], text, rfl, rfl, fun digits some all => .plain some all⟩

theorem value_front {digits : Bytes} (all : digits.all isDigit = true) (rest : Bytes) :
    value digits ≤ value ((digits ++ rest).takeWhile isDigit) := by
  rw [List.takeWhile_append_of_pos (List.all_eq_true.mp all), value, value, List.foldl_append]
  exact value_grows _ _

variable {range : Range} {negative : Bool} {digits : Bytes}

theorem magnitude_beyond (least : range.least ≤ 0) (greatest : 0 ≤ range.greatest)
    (all : digits.all isDigit = true) (rest : Bytes)
    (beyond : ¬ range.Holds (signed negative (value digits))) :
    magnitude range negative (digits ++ rest) =
      .error (if range.greatest < signed negative (value digits) then .tooLarge
        else .tooSmall) := by
  -- Digits that follow lead no way back into a range with 0 in it.
  have grows := value_front all rest
  rw [Range.Holds] at beyond
  rw [magnitude]
  generalize (digits ++ rest).takeWhile isDigit = run at grows ⊢
  cases negative with
  | false =>
      simp only [signed, Bool.false_eq_true, if_false] at beyond ⊢
      have more : range.greatest < (value digits : Int) := by omega
      have most : range.greatest < (value run : Int) := by omega
      rw [if_pos more, if_pos most]
  | true =>
      simp only [signed, if_true] at beyond ⊢
      have less : ¬ range.greatest < -(value digits : Int) := by omega
      have least : ¬ range.greatest < -(value run : Int) := by omega
      have below : -(value run : Int) < range.least := by omega
      rw [if_neg less, if_neg least, if_pos below]

theorem magnitude_invalid {text : Bytes}
    (within : range.Holds (signed negative (value (text.takeWhile isDigit))))
    (noNumeral : text = [] ∨ ¬ text.all isDigit = true) :
    magnitude range negative text = .error .invalidDigit := by
  obtain ⟨above, below⟩ := within
  have ends : text.takeWhile isDigit = [] ∨ (text.takeWhile isDigit).length < text.length := by
    rcases noNumeral with rfl | other
    · exact Or.inl rfl
    · exact Or.inr (take_digits_short other)
  rw [magnitude]
  change (if range.greatest < signed negative (value (text.takeWhile isDigit)) then _ else
    if signed negative (value (text.takeWhile isDigit)) < range.least then _ else _) = _
  rw [if_neg (Int.not_lt.mpr below), if_neg (Int.not_lt.mpr above), if_pos ends]

theorem narrowed_outside {text : Bytes} {number : Int} (spelled : Spells text number)
    (wide : Range.word64.Holds number) (outside : ¬ Range.word32.Holds number) :
    narrowed .word32 text = .error (.outside number .word32) := by
  rw [narrowed, (integer_iff .word64 text number).mpr ⟨spelled, wide⟩]
  exact if_neg outside

/-- A text that begins with a numeral out of the wide range is so, whatever follows. -/
theorem narrowed_beyond {front : Bytes} {number : Int} (spelled : Spells front number)
    (beyond : ¬ Range.word64.Holds number) (rest : Bytes) :
    narrowed .word32 (front ++ rest) =
      .error (if Range.word64.greatest < number then .tooLarge else .tooSmall) := by
  obtain ⟨negative, digits, read, all, rfl⟩ := integer_front .word64 spelled rest
  rw [narrowed, read, magnitude_beyond (by decide) (by decide) all rest beyond]

/-- Any other text that is no numeral is at fault for what it holds. -/
theorem narrowed_unspelled {text : Bytes} (unspelled : ∀ number, ¬ Spells text number)
    (within : ∀ front number, front <+: text → Spells front number →
      Range.word64.Holds number) :
    narrowed .word32 text = .error (if text = [] then .empty else .invalidDigit) := by
  by_cases empty : text = []
  · rw [empty]
    rfl
  · obtain ⟨negative, sign, body, rfl, read, spells⟩ := integer_split .word64 empty
    have noNumeral : body = [] ∨ ¬ body.all isDigit = true := by
      by_cases nothing : body = []
      · exact Or.inl nothing
      · exact Or.inr fun all => unspelled _ (spells body nothing all)
    -- The digits that are read before the fault shows are a numeral in front, or there are none.
    have holds : Range.word64.Holds (signed negative (value (body.takeWhile isDigit))) := by
      by_cases nothing : body.takeWhile isDigit = []
      · rw [nothing]
        cases negative <;> decide
      · refine within _ _ ?_ (spells _ nothing List.all_takeWhile)
        exact (List.prefix_append_right_inj sign).mpr (List.takeWhile_prefix isDigit)
    rw [narrowed, read, magnitude_invalid holds noNumeral, if_neg empty]

end DescriptorReaper.Decimal
