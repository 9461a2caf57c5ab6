import DescriptorReaper.Proofs.Candidates
import DescriptorReaper.Proofs.EncodedText
import Mathlib.Data.List.Induction
import Mathlib.Data.Nat.Digits.Defs

/-!
The names of descriptors. A plain numeral has the value of its digits at their places, and it is a
printed number with zeros in front, any number of them. So each descriptor has one shortest name,
the names that denote it are that one behind zeros, and a number out of range denotes none however
it is written.
-/

namespace DescriptorReaper

namespace Decimal

def zero : UInt8 := 48

/-- The value of digits is that of positional notation. -/
theorem value_positional (text : Bytes) :
    value text = Nat.ofDigits 10 (text.reverse.map digit) := by
  induction text using List.reverseRecOn with
  | nil => rfl
  | append_singleton front last ih =>
      rw [value_append_digit, ih, List.reverse_append, List.reverse_singleton, List.singleton_append,
        List.map_cons, Nat.ofDigits_cons, Nat.add_comm]

theorem isDigit_iff (byte : UInt8) : isDigit byte = true ↔ 48 ≤ byte ∧ byte ≤ 57 := by
  rw [isDigit, Bool.and_eq_true, decide_eq_true_eq, decide_eq_true_eq]

theorem printed_digit {byte : UInt8} (isDigit : isDigit byte = true) :
    digit byte < 10 ∧ UInt8.ofNat (48 + digit byte) = byte := by
  obtain ⟨least, most⟩ := (isDigit_iff byte).mp isDigit
  have least : 48 ≤ byte.toNat := UInt8.le_iff_toNat_le.mp least
  have most : byte.toNat ≤ 57 := UInt8.le_iff_toNat_le.mp most
  have whole : 48 + digit byte = byte.toNat := by
    rw [digit]
    omega
  refine ⟨by rw [digit]; omega, ?_⟩
  rw [whole, UInt8.ofNat_toNat]

theorem digits_single {number : Nat} (small : number < 10) :
    digits number = [UInt8.ofNat (48 + number)] := by
  rw [digits, if_pos small]

theorem value_zeros (zeros : Nat) (text : Bytes) :
    value (List.replicate zeros zero ++ text) = value text := by
  induction zeros with
  | zero => rfl
  | succ zeros ih => exact ih

/-- Digits are the printed value behind zeros. -/
theorem zeros_digits {text : Bytes} (some : text ≠ []) (all : text.all isDigit = true) :
    ∃ zeros, text = List.replicate zeros zero ++ digits (value text) := by
  induction text using List.reverseRecOn with
  | nil => exact absurd rfl some
  | append_singleton front last ih =>
      rw [List.all_append, Bool.and_eq_true] at all
      obtain ⟨allFront, lastDigit⟩ := all
      obtain ⟨small, printed⟩ := printed_digit (List.all_eq_true.mp lastDigit last List.mem_cons_self)
      have alone : digits (digit last) = [last] := by rw [digits_single small, printed]
      rw [value_append_digit]
      by_cases empty : front = []
      · refine ⟨0, ?_⟩
        rw [empty, show value [] = 0 from rfl, Nat.mul_zero, Nat.zero_add, alone]
        rfl
      · obtain ⟨zeros, split⟩ := ih empty allFront
        -- In front of a last digit, the value 0 is one more zero to be left out.
        by_cases nothing : value front = 0
        · refine ⟨zeros + 1, ?_⟩
          rw [nothing, Nat.mul_zero, Nat.zero_add, alone, split, nothing,
            digits_single (by decide), List.replicate_succ']
          rfl
        · have large : ¬ 10 * value front + digit last < 10 := by omega
          have tens : (10 * value front + digit last) / 10 = value front := by omega
          have ones : (10 * value front + digit last) % 10 = digit last := by omega
          refine ⟨zeros, ?_⟩
          rw [digits, if_neg large, tens, ones, printed, ← List.append_assoc, ← split]

theorem zeros_all_digits (zeros number : Nat) :
    List.replicate zeros zero ++ digits number ≠ [] ∧
      (List.replicate zeros zero ++ digits number).all isDigit = true := by
  refine ⟨fun empty => digits_nonempty number (List.append_eq_nil_iff.mp empty).2, ?_⟩
  rw [List.all_append, digits_all_digit, Bool.and_true, List.all_eq_true]
  intro byte member
  rw [List.eq_of_mem_replicate member]
  rfl

/-- The plain numerals of a number are its digits behind zeros. -/
theorem natural_iff_zeros (text : Bytes) (number : Nat) :
    natural? text = some number ↔ ∃ zeros, text = List.replicate zeros zero ++ digits number := by
  rw [natural?]
  constructor
  · intro read
    split at read
    next plain =>
      cases read
      exact zeros_digits plain.1 plain.2
    next => cases read
  · rintro ⟨zeros, rfl⟩
    rw [if_pos (zeros_all_digits zeros number), value_zeros, value_digits]

theorem encode_repr (number : Nat) : Utf8.encode number.repr = digits number := by
  have single : ∀ digit < 10,
      String.utf8EncodeChar digit.digitChar = [UInt8.ofNat (48 + digit)] := by decide
  rw [Utf8.encode, Nat.toList_repr]
  induction number using digits.induct with
  | case1 number small =>
      rw [Nat.toDigits_of_lt_base small, digits_single small, List.flatMap_singleton,
        single number small]
  | case2 number large ih =>
      rw [Nat.toDigits_of_base_le (by decide) (by omega), List.flatMap_append, ih,
        List.flatMap_singleton, single _ (Nat.mod_lt number (by decide)), digits.eq_def number,
        if_neg large]

/-- A number is written with the digits that stand for it in bytes. -/
theorem encode_number (number : Int) : Utf8.encode (toString number) = signedDigits number := by
  cases number with
  | ofNat natural => exact encode_repr natural
  | negSucc natural =>
      change Utf8.encode ("-" ++ (natural + 1).repr) = _
      rw [Utf8.encode_append, encode_repr, signedDigits, if_pos (Int.negSucc_lt_zero natural)]
      rfl

def stripped : Bytes → Bytes
  | first :: second :: rest =>
      if first = zero then stripped (second :: rest) else first :: second :: rest
  | text => text

theorem digits_begin {number : Nat} (positive : 0 < number) :
    (digits number).head? ≠ some zero := by
  induction number using digits.induct with
  | case1 number small =>
      rw [digits_single small, List.head?_cons]
      intro same
      have byte := congrArg UInt8.toNat (Option.some.inj same)
      rw [UInt8.toNat_ofNat'] at byte
      have none : (48 + number) % 2 ^ 8 = 48 := byte
      omega
  | case2 number large ih =>
      obtain ⟨first, rest, split, -⟩ := digits_head (number / 10)
      have front := ih (by omega)
      rw [split] at front
      rw [digits, if_neg large, split]
      exact front

theorem stripped_digits (number : Nat) : stripped (digits number) = digits number := by
  by_cases positive : 0 < number
  · have begins := digits_begin positive
    cases split : digits number with
    | nil => rfl
    | cons first rest =>
        rw [split] at begins
        cases rest with
        | nil => rfl
        | cons second rest => exact if_neg fun same => begins (congrArg some same)
  · rw [digits_single (by omega)]
    rfl

theorem stripped_zeros (zeros number : Nat) :
    stripped (List.replicate zeros zero ++ digits number) = digits number := by
  obtain ⟨first, rest, split, -⟩ := digits_head number
  induction zeros with
  | zero => exact stripped_digits number
  | succ zeros ih =>
      rw [List.replicate_succ, List.cons_append]
      cases zeros with
      | zero =>
          rw [List.replicate_zero, List.nil_append] at ih ⊢
          rw [split] at ih ⊢
          exact (if_pos rfl).trans ih
      | succ zeros =>
          rw [List.replicate_succ, List.cons_append] at ih ⊢
          exact (if_pos rfl).trans ih

/-- Read digits onto what has been read, as long as the number stays within a limit. -/
def readWithin (limit : Nat) : Nat → Bytes → Option Nat
  | total, [] => some total
  | total, byte :: rest =>
      if isDigit byte ∧ 10 * total + digit byte ≤ limit then
        readWithin limit (10 * total + digit byte) rest
      else none

theorem value_grows (rest : Bytes) (total : Nat) :
    total ≤ rest.foldl (fun total byte => 10 * total + digit byte) total := by
  induction rest generalizing total with
  | nil => exact Nat.le_refl total
  | cons byte rest ih => exact Nat.le_trans (by omega) (ih (10 * total + digit byte))

theorem read_within_iff (limit : Nat) (text : Bytes) {total number : Nat} (fits : total ≤ limit) :
    readWithin limit total text = some number ↔
      text.all isDigit = true ∧ number ≤ limit ∧
        number = text.foldl (fun total byte => 10 * total + digit byte) total := by
  induction text generalizing total with
  | nil =>
      simp only [readWithin, List.all_nil, List.foldl_nil, Option.some_inj, true_and]
      constructor
      · rintro rfl
        exact ⟨fits, rfl⟩
      · rintro ⟨-, rfl⟩
        rfl
  | cons byte rest ih =>
      rw [readWithin, List.all_cons, List.foldl_cons, Bool.and_eq_true]
      by_cases goesOn : isDigit byte ∧ 10 * total + digit byte ≤ limit
      · rw [if_pos goesOn, and_iff_right goesOn.1]
        exact ih goesOn.2
      · rw [if_neg goesOn]
        constructor
        · rintro ⟨⟩
        · rintro ⟨⟨isDigit, -⟩, within, rfl⟩
          exact absurd ⟨isDigit, Nat.le_trans (value_grows rest _) within⟩ goesOn

end Decimal

open Decimal (stripped)

/-- A name is read digit by digit, and given up at the first step that leads out of range. -/
theorem descriptor_read_within (name : Bytes) :
    descriptor? name =
      if name = [] then none
      else (Decimal.readWithin maxDescriptor.toNat 0 name).map Int.ofNat := by
  rw [descriptor?, Decimal.natural?]
  by_cases empty : name = []
  · rw [if_neg fun plain => plain.1 empty, if_pos empty]
  · rw [if_neg empty]
    cases read : Decimal.readWithin maxDescriptor.toNat 0 name with
    | some number =>
        obtain ⟨all, within, rfl⟩ := (Decimal.read_within_iff _ name (Nat.zero_le _)).mp read
        have fits : (Decimal.value name : Int) ≤ maxDescriptor := by
          have : maxDescriptor.toNat = 2147483647 := rfl
          rw [maxDescriptor, Decimal.value]
          omega
        rw [if_pos ⟨empty, all⟩]
        exact if_pos fits
    | none =>
        split
        next number found =>
          split at found
          next plain =>
            cases found
            refine if_neg fun fits => ?_
            have within : Decimal.value name ≤ maxDescriptor.toNat := by omega
            have reads := (Decimal.read_within_iff _ name (Nat.zero_le _)).mpr
              ⟨plain.2, within, rfl⟩
            rw [read] at reads
            cases reads
          next => cases found
        next => rfl

theorem descriptor_iff_natural (name : Bytes) (fd : Int) :
    descriptor? name = some fd ↔
      ∃ number : Nat, Decimal.natural? name = some number ∧ fd = number ∧ fd ≤ maxDescriptor := by
  rw [descriptor?]
  cases Decimal.natural? name with
  | none => simp
  | some number =>
      dsimp only
      constructor
      · intro named
        split at named
        next fits =>
          cases named
          exact ⟨number, rfl, rfl, fits⟩
        next => cases named
      · rintro ⟨same, read, rfl, fits⟩
        cases read
        exact if_pos fits

theorem descriptor_iff_digits (name : Bytes) (fd : Int) :
    descriptor? name = some fd ↔
      name ≠ [] ∧ (∀ byte ∈ name, 48 ≤ byte ∧ byte ≤ 57) ∧
        fd = (Nat.ofDigits 10 (name.reverse.map Decimal.digit) : Nat) ∧ fd ≤ maxDescriptor := by
  have plain : name.all Decimal.isDigit = true ↔ ∀ byte ∈ name, 48 ≤ byte ∧ byte ≤ 57 := by
    rw [List.all_eq_true]
    exact forall₂_congr fun byte _ => Decimal.isDigit_iff byte
  rw [descriptor_iff_natural, ← Decimal.value_positional, ← plain, Decimal.natural?]
  constructor
  · rintro ⟨number, read, rfl, fits⟩
    split at read
    next digits =>
      cases read
      exact ⟨digits.1, digits.2, rfl, fits⟩
    next => cases read
  · rintro ⟨some, all, rfl, fits⟩
    exact ⟨_, if_pos ⟨some, all⟩, rfl, fits⟩

/-- The names of a descriptor are its printed number behind zeros. -/
theorem descriptor_iff_zeros (name : Bytes) (fd : Int) :
    descriptor? name = some fd ↔
      0 ≤ fd ∧ fd ≤ maxDescriptor ∧
        ∃ zeros, name = List.replicate zeros Decimal.zero ++ Decimal.signedDigits fd := by
  rw [descriptor_iff_natural]
  have printed (number : Nat) : Decimal.signedDigits number = Decimal.digits number := by
    rw [Decimal.signedDigits, if_neg (by omega), Int.natAbs_natCast]
  constructor
  · rintro ⟨number, read, rfl, fits⟩
    rw [printed]
    exact ⟨Int.natCast_nonneg number, fits, (Decimal.natural_iff_zeros name number).mp read⟩
  · rintro ⟨nonneg, fits, split⟩
    obtain ⟨number, rfl⟩ := Int.eq_ofNat_of_zero_le nonneg
    rw [printed] at split
    exact ⟨number, (Decimal.natural_iff_zeros name number).mpr split, rfl, fits⟩

theorem descriptor_stripped {name : Bytes} {fd : Int} (named : descriptor? name = some fd) :
    stripped name = Decimal.digits fd.natAbs ∧ 0 ≤ fd := by
  obtain ⟨number, read, rfl, -⟩ := (descriptor_iff_natural name fd).mp named
  obtain ⟨zeros, rfl⟩ := (Decimal.natural_iff_zeros name number).mp read
  exact ⟨Decimal.stripped_zeros zeros number, Int.natCast_nonneg number⟩

theorem descriptor_zeros {name : Bytes} (some : name ≠ []) (zeros : Nat) :
    descriptor? (List.replicate zeros Decimal.zero ++ name) = descriptor? name := by
  have digits : (List.replicate zeros Decimal.zero ++ name).all Decimal.isDigit =
      name.all Decimal.isDigit := by
    rw [List.all_append, List.all_replicate]
    cases zeros <;> rfl
  have present : List.replicate zeros Decimal.zero ++ name ≠ [] := fun empty =>
    some (List.append_eq_nil_iff.mp empty).2
  have same : Decimal.natural? (List.replicate zeros Decimal.zero ++ name) =
      Decimal.natural? name := by
    rw [Decimal.natural?, Decimal.natural?, digits, Decimal.value_zeros]
    simp only [present, some, ne_eq, not_false_eq_true, true_and]
  rw [descriptor?, descriptor?, same]

/-- A name denotes a descriptor exactly if it is one or more digits whose value is a number that a
descriptor can have. So zeros in front make no difference, each descriptor is denoted by its printed
number, and two names denote the same one exactly if they are the same without zeros in front. -/
theorem descriptor_name_grammar (name : Bytes) :
    (∀ fd : Int, descriptor? name = some fd ↔
      name ≠ [] ∧ (∀ byte ∈ name, 48 ≤ byte ∧ byte ≤ 57) ∧
        fd = (Nat.ofDigits 10 (name.reverse.map fun byte => byte.toNat - 48) : Nat) ∧
        fd ≤ 2147483647) ∧
      (∀ zeros, name ≠ [] → descriptor? (List.replicate zeros 48 ++ name) = descriptor? name) ∧
      (∀ fd : Int, 0 ≤ fd → fd ≤ 2147483647 →
        descriptor? (Utf8.encode (toString fd)) = some fd) ∧
      ∀ (other : Bytes) (fd otherFd : Int), descriptor? name = some fd →
        descriptor? other = some otherFd → (fd = otherFd ↔ stripped name = stripped other) := by
  refine ⟨descriptor_iff_digits name, fun zeros some => descriptor_zeros some zeros,
    fun fd nonneg fits => ?_, fun other fd otherFd named otherNamed => ?_⟩
  · rw [Decimal.encode_number]
    exact (descriptor_iff_zeros _ fd).mpr ⟨nonneg, fits, 0, rfl⟩
  · obtain ⟨first, nonneg⟩ := descriptor_stripped named
    obtain ⟨second, otherNonneg⟩ := descriptor_stripped otherNamed
    rw [first, second]
    constructor
    · rintro rfl
      rfl
    · intro same
      have values := congrArg Decimal.value same
      rw [Decimal.value_digits, Decimal.value_digits] at values
      omega

/-- The greatest descriptor behind two zeros, and the next number. -/
theorem padded_name_grammar :
    let name : Bytes := Utf8.encode "002147483647"
    descriptor? name = some 2147483647 ∧
      descriptor? (List.replicate 40 48 ++ Utf8.encode "2147483648") = none ∧
      descriptor? (Utf8.encode (toString 2147483647)) = some 2147483647 ∧
      (2147483647 = (2147483647 : Int) ↔
        stripped name = stripped (Utf8.encode (toString 2147483647))) := by
  intro name
  obtain ⟨digits, -, printed, same⟩ := descriptor_name_grammar name
  obtain ⟨-, zeros, -, -⟩ := descriptor_name_grammar (Utf8.encode "2147483648")
  have plain : name.all Decimal.isDigit = true := by decide
  have named : descriptor? name = some 2147483647 :=
    (digits 2147483647).mpr ⟨by decide, fun byte member =>
      (Decimal.isDigit_iff byte).mp (List.all_eq_true.mp plain byte member), by decide, by decide⟩
  have greatest := printed 2147483647 (by decide) (by decide)
  have next : descriptor? (Utf8.encode "2147483648") = none := by decide
  exact ⟨named, (zeros 40 (by decide)).trans next, greatest, same _ _ _ named greatest⟩

end DescriptorReaper
