import DescriptorReaper.Utf8

/-!
Encoded text reads back as itself. The bytes of a character keep to the ranges that its lead byte
asks for, so they are one piece, and what follows them is read as if it stood alone. Below 128 no
other bytes read back as the same text, because the ranges leave each character one form.
-/

namespace DescriptorReaper.Utf8

theorem decode_after_skipped (covered rest : Bytes) :
    decodeAfter covered.length (covered ++ rest) = decodeAfter 0 rest := by
  induction covered with
  | nil => rfl
  | cons byte covered ih => exact ih

def Within : List ByteRange → Bytes → Prop
  | [], [] => True
  | range :: ranges, byte :: rest => range.contains byte = true ∧ Within ranges rest
  | [], _ :: _ | _ :: _, [] => False

theorem matching_within {ranges : List ByteRange} {tail : Bytes} (within : Within ranges tail)
    (rest : Bytes) : matching ranges (tail ++ rest) = tail := by
  induction ranges generalizing tail with
  | nil =>
      cases tail with
      | nil => cases rest <;> rfl
      | cons _ _ => exact within.elim
  | cons range ranges ih =>
      cases tail with
      | nil => exact within.elim
      | cons byte tail =>
          obtain ⟨contained, later⟩ := within
          rw [List.cons_append, matching, if_pos contained, ih later]

theorem within_length {ranges : List ByteRange} {tail : Bytes} (within : Within ranges tail) :
    tail.length = ranges.length := by
  induction ranges generalizing tail with
  | nil =>
      cases tail with
      | nil => rfl
      | cons _ _ => exact within.elim
  | cons range ranges ih =>
      cases tail with
      | nil => exact within.elim
      | cons byte tail => exact congrArg (· + 1) (ih within.2)

/-- A lead byte and the bytes that it asks for are one character. -/
theorem decode_character {lead : UInt8} {ranges : List ByteRange} {tail : Bytes}
    (asked : following? lead = some ranges) (within : Within ranges tail) (rest : Bytes) :
    decodeAfter 0 (lead :: tail ++ rest) =
      some (Char.ofNat (codePoint lead tail)) :: decodeAfter 0 rest := by
  have found : piece lead (tail ++ rest) =
      (some (Char.ofNat (codePoint lead tail)), tail.length) := by
    rw [piece, asked]
    dsimp only
    rw [matching_within within, if_pos (within_length within)]
  rw [List.cons_append, decodeAfter, found, decode_after_skipped]

theorem byte_toNat {number : Nat} (small : number < 256) :
    (UInt8.ofNat number).toNat = number := by
  rw [UInt8.toNat_ofNat']
  omega

theorem range_contains {number : Nat} (least greatest : Nat) (above : least ≤ number)
    (below : number ≤ greatest) (small : greatest < 256) :
    ByteRange.contains ⟨UInt8.ofNat least, UInt8.ofNat greatest⟩ (UInt8.ofNat number) = true := by
  simp only [ByteRange.contains, UInt8.le_iff_toNat_le, Bool.and_eq_true, decide_eq_true_eq]
  rw [byte_toNat (by omega), byte_toNat (by omega), byte_toNat (by omega)]
  exact ⟨above, below⟩

theorem continuation_contains (number : Nat) :
    continuation.contains (UInt8.ofNat (number % 64 + 128)) = true :=
  range_contains 128 191 (by omega) (by omega) (by decide)

/-- Lead bytes, by their number. -/
theorem following_number {number : Nat} (small : number < 256) :
    following? (UInt8.ofNat number) =
      if number < 128 then some []
      else if number < 194 then none
      else if number < 224 then some [continuation]
      else if number = 224 then some [⟨0xA0, 0xBF⟩, continuation]
      else if number = 237 then some [⟨0x80, 0x9F⟩, continuation]
      else if number < 240 then some [continuation, continuation]
      else if number = 240 then some [⟨0x90, 0xBF⟩, continuation, continuation]
      else if number < 244 then some [continuation, continuation, continuation]
      else if number = 244 then some [⟨0x80, 0x8F⟩, continuation, continuation]
      else none := by
  simp only [following?, UInt8.lt_iff_toNat_lt, ← UInt8.toNat_inj, byte_toNat small]
  rfl

section Characters

variable {code : Nat} (rest : Bytes)

theorem decode_one (small : code < 128) :
    decodeAfter 0 (UInt8.ofNat code :: rest) = some (Char.ofNat code) :: decodeAfter 0 rest := by
  have asked : following? (UInt8.ofNat code) = some [] := by
    rw [following_number (by omega), if_pos small]
  have point : codePoint (UInt8.ofNat code) [] = code := byte_toNat (by omega)
  have nothing : Within [] [] := trivial
  have read := decode_character asked nothing rest
  rwa [point] at read

theorem decode_two (least : 128 ≤ code) (most : code < 2048) :
    decodeAfter 0 (UInt8.ofNat (code / 64 % 32 + 192) :: UInt8.ofNat (code % 64 + 128) :: rest) =
      some (Char.ofNat code) :: decodeAfter 0 rest := by
  have asked : following? (UInt8.ofNat (code / 64 % 32 + 192)) = some [continuation] := by
    rw [following_number (by omega), if_neg (by omega), if_neg (by omega), if_pos (by omega)]
  have within : Within [continuation] [UInt8.ofNat (code % 64 + 128)] :=
    ⟨continuation_contains _, trivial⟩
  have point : codePoint (UInt8.ofNat (code / 64 % 32 + 192)) [UInt8.ofNat (code % 64 + 128)] =
      code := by
    simp only [codePoint, List.length_cons, List.length_nil, List.foldl_cons, List.foldl_nil]
    rw [byte_toNat (by omega), byte_toNat (by omega)]
    omega
  have read := decode_character asked within rest
  rwa [point] at read

-- The first and the last block of leads, and the one beside the surrogates, narrow what may follow.
theorem decode_three (least : 2048 ≤ code) (most : code < 65536)
    (noSurrogate : code < 55296 ∨ 57343 < code) :
    decodeAfter 0 (UInt8.ofNat (code / 4096 % 16 + 224) :: UInt8.ofNat (code / 64 % 64 + 128) ::
      UInt8.ofNat (code % 64 + 128) :: rest) = some (Char.ofNat code) :: decodeAfter 0 rest := by
  have asked : ∃ range, following? (UInt8.ofNat (code / 4096 % 16 + 224)) =
      some [range, continuation] ∧
      range.contains (UInt8.ofNat (code / 64 % 64 + 128)) = true := by
    rw [following_number (by omega), if_neg (by omega), if_neg (by omega), if_neg (by omega)]
    by_cases first : code / 4096 % 16 + 224 = 224
    · rw [if_pos first]
      exact ⟨_, rfl, range_contains 160 191 (by omega) (by omega)
        (by decide)⟩
    · rw [if_neg first]
      by_cases beside : code / 4096 % 16 + 224 = 237
      · rw [if_pos beside]
        exact ⟨_, rfl, range_contains 128 159 (by omega) (by omega)
          (by decide)⟩
      · rw [if_neg beside, if_pos (by omega)]
        exact ⟨_, rfl, continuation_contains _⟩
  obtain ⟨range, following, contained⟩ := asked
  have within : Within [range, continuation]
      [UInt8.ofNat (code / 64 % 64 + 128), UInt8.ofNat (code % 64 + 128)] :=
    ⟨contained, continuation_contains _, trivial⟩
  have point : codePoint (UInt8.ofNat (code / 4096 % 16 + 224))
      [UInt8.ofNat (code / 64 % 64 + 128), UInt8.ofNat (code % 64 + 128)] = code := by
    simp only [codePoint, List.length_cons, List.length_nil, List.foldl_cons, List.foldl_nil]
    rw [byte_toNat (by omega), byte_toNat (by omega), byte_toNat (by omega)]
    omega
  have read := decode_character following within rest
  rwa [point] at read

theorem decode_four (least : 65536 ≤ code) (most : code < 1114112) :
    decodeAfter 0 (UInt8.ofNat (code / 262144 % 8 + 240) :: UInt8.ofNat (code / 4096 % 64 + 128) ::
      UInt8.ofNat (code / 64 % 64 + 128) :: UInt8.ofNat (code % 64 + 128) :: rest) =
      some (Char.ofNat code) :: decodeAfter 0 rest := by
  have asked : ∃ range, following? (UInt8.ofNat (code / 262144 % 8 + 240)) =
      some [range, continuation, continuation] ∧
      range.contains (UInt8.ofNat (code / 4096 % 64 + 128)) = true := by
    rw [following_number (by omega), if_neg (by omega), if_neg (by omega), if_neg (by omega),
      if_neg (by omega), if_neg (by omega), if_neg (by omega)]
    by_cases first : code / 262144 % 8 + 240 = 240
    · rw [if_pos first]
      exact ⟨_, rfl, range_contains 144 191 (by omega) (by omega)
        (by decide)⟩
    · rw [if_neg first]
      by_cases inner : code / 262144 % 8 + 240 < 244
      · rw [if_pos inner]
        exact ⟨_, rfl, continuation_contains _⟩
      · rw [if_neg inner, if_pos (by omega)]
        exact ⟨_, rfl, range_contains 128 143 (by omega) (by omega)
          (by decide)⟩
  obtain ⟨range, following, contained⟩ := asked
  have within : Within [range, continuation, continuation]
      [UInt8.ofNat (code / 4096 % 64 + 128), UInt8.ofNat (code / 64 % 64 + 128),
        UInt8.ofNat (code % 64 + 128)] :=
    ⟨contained, continuation_contains _, continuation_contains _, trivial⟩
  have point : codePoint (UInt8.ofNat (code / 262144 % 8 + 240))
      [UInt8.ofNat (code / 4096 % 64 + 128), UInt8.ofNat (code / 64 % 64 + 128),
        UInt8.ofNat (code % 64 + 128)] = code := by
    simp only [codePoint, List.length_cons, List.length_nil, List.foldl_cons, List.foldl_nil]
    rw [byte_toNat (by omega), byte_toNat (by omega), byte_toNat (by omega),
      byte_toNat (by omega)]
    omega
  have read := decode_character following within rest
  rwa [point] at read

end Characters

theorem decode_encoded_char (char : Char) (rest : Bytes) :
    decodeAfter 0 (String.utf8EncodeChar char ++ rest) = some char :: decodeAfter 0 rest := by
  have valid : char.val.toNat.isValidChar := char.valid
  have same : Char.ofNat char.val.toNat = char := Char.ofNat_toNat char
  rw [Nat.isValidChar] at valid
  unfold String.utf8EncodeChar
  dsimp only
  generalize char.val.toNat = code at valid same ⊢
  subst same
  split
  · exact decode_one rest (by omega)
  · split
    · exact decode_two rest (by omega) (by omega)
    · split
      · exact decode_three rest (by omega) (by omega) (by omega)
      · exact decode_four rest (by omega) (by omega)

theorem decode_encode_append (text : String) (rest : Bytes) :
    decode (encode text ++ rest) = text.toList.map some ++ decode rest := by
  rw [encode]
  induction text.toList with
  | nil => rfl
  | cons char chars ih =>
      rw [List.flatMap_cons, List.append_assoc, decode, decode_encoded_char]
      exact congrArg (some char :: ·) ih

theorem decode_encode (text : String) : decode (encode text) = text.toList.map some := by
  have read := decode_encode_append text []
  rwa [List.append_nil, show decode [] = [] from rfl, List.append_nil] at read

@[simp] theorem encode_append (left right : String) :
    encode (left ++ right) = encode left ++ encode right := by
  simp [encode]

/-- Text that is encoded and shown is the text itself. -/
@[simp] theorem display_encode (text : String) : display (encode text) = text := by
  rw [display, decode_encode, List.map_map]
  exact (congrArg String.ofList (List.map_id text.toList)).trans text.ofList_toList

theorem encode_injective {left right : String} (same : encode left = encode right) :
    left = right := by
  rw [← display_encode left, same, display_encode]

/-- Below 128, a byte stands for one character and is a part of no other. -/
theorem mem_encoded_char {byte : UInt8} {char : Char} (small : byte.toNat < 128)
    (member : byte ∈ String.utf8EncodeChar char) : char.val.toNat = byte.toNat := by
  have part {number : Nat} (least : 128 ≤ number) (most : number < 256) :
      byte ≠ UInt8.ofNat number := by
    rintro rfl
    rw [byte_toNat most] at small
    omega
  unfold String.utf8EncodeChar at member
  dsimp only at member
  generalize char.val.toNat = code at member ⊢
  split at member
  · rw [List.mem_singleton.mp member, byte_toNat (by omega)]
  · split at member
    · simp only [List.mem_cons, List.not_mem_nil, or_false] at member
      rcases member with first | second
      · exact absurd first (part (by omega) (by omega))
      · exact absurd second (part (by omega) (by omega))
    · split at member
      · simp only [List.mem_cons, List.not_mem_nil, or_false] at member
        rcases member with first | second | third
        · exact absurd first (part (by omega) (by omega))
        · exact absurd second (part (by omega) (by omega))
        · exact absurd third (part (by omega) (by omega))
      · simp only [List.mem_cons, List.not_mem_nil, or_false] at member
        rcases member with first | second | third | fourth
        · exact absurd first (part (by omega) (by omega))
        · exact absurd second (part (by omega) (by omega))
        · exact absurd third (part (by omega) (by omega))
        · exact absurd fourth (part (by omega) (by omega))

theorem not_mem_encode (byte : UInt8) (small : byte.toNat < 128) {text : String}
    (absent : Char.ofNat byte.toNat ∉ text.toList) : byte ∉ encode text := by
  intro member
  obtain ⟨char, present, within⟩ := List.mem_flatMap.mp member
  have same : Char.ofNat byte.toNat = char := by
    rw [← mem_encoded_char small within]
    exact Char.ofNat_toNat char
  exact absent (same ▸ present)

theorem isText_ascii {bytes : Bytes} (small : ∀ byte ∈ bytes, byte.toNat < 128) :
    isText bytes = true := by
  induction bytes with
  | nil => rfl
  | cons byte rest ih =>
      have read := decode_one rest (small byte List.mem_cons_self)
      rw [UInt8.ofNat_toNat] at read
      rw [isText, decode, read, List.all_cons, Option.isSome_some, Bool.true_and]
      exact ih fun later member => small later (List.mem_cons_of_mem byte member)

theorem isText_encode (text : String) : isText (encode text) = true := by
  rw [isText, decode_encode]
  simp

theorem within_matching {ranges : List ByteRange} {rest : Bytes}
    (whole : (matching ranges rest).length = ranges.length) :
    Within ranges (matching ranges rest) := by
  induction ranges generalizing rest with
  | nil => cases rest <;> trivial
  | cons range ranges ih =>
      cases rest with
      | nil => cases whole
      | cons byte rest =>
          rw [matching] at whole ⊢
          by_cases contained : range.contains byte = true
          · rw [if_pos contained] at whole ⊢
            exact ⟨contained, ih (Nat.succ.inj whole)⟩
          · rw [if_neg contained] at whole
            cases whole

theorem within_cons {range : ByteRange} {ranges : List ByteRange} {tail : Bytes}
    (within : Within (range :: ranges) tail) :
    ∃ byte rest, tail = byte :: rest ∧ range.least.toNat ≤ byte.toNat ∧
      byte.toNat ≤ range.greatest.toNat ∧ Within ranges rest := by
  cases tail with
  | nil => exact within.elim
  | cons byte rest =>
      obtain ⟨contained, later⟩ := within
      simp only [ByteRange.contains, UInt8.le_iff_toNat_le, Bool.and_eq_true,
        decide_eq_true_eq] at contained
      exact ⟨byte, rest, rfl, contained.1, contained.2, later⟩

theorem within_nil {tail : Bytes} (within : Within [] tail) : tail = [] := by
  cases tail with
  | nil => rfl
  | cons _ _ => exact within.elim

-- The ranges that leads ask for shut out longer forms of the first 128 characters.
theorem code_point_large {lead : UInt8} {ranges : List ByteRange} {tail : Bytes}
    (asked : following? lead = some ranges) (within : Within ranges tail)
    (large : 128 ≤ lead.toNat) : 128 ≤ codePoint lead tail := by
  have small := lead.toNat_lt
  rw [← UInt8.ofNat_toNat (x := lead), following_number small, if_neg (by omega)] at asked
  have one (byte : UInt8) : codePoint lead [byte] = lead.toNat % 32 * 64 + byte.toNat % 64 := rfl
  have two (byte last : UInt8) : codePoint lead [byte, last] =
      (lead.toNat % 16 * 64 + byte.toNat % 64) * 64 + last.toNat % 64 := rfl
  have three (byte next last : UInt8) : codePoint lead [byte, next, last] =
      ((lead.toNat % 8 * 64 + byte.toNat % 64) * 64 + next.toNat % 64) * 64 + last.toNat % 64 := rfl
  have pair {first : ByteRange} (within : Within [first, continuation] tail)
      (payload : 1 ≤ lead.toNat % 16 ∨ 160 ≤ first.least.toNat ∧ first.greatest.toNat ≤ 191) :
      128 ≤ codePoint lead tail := by
    obtain ⟨byte, rest, rfl, above, below, later⟩ := within_cons within
    obtain ⟨last, rest, rfl, -, -, later⟩ := within_cons later
    rw [within_nil later, two]
    omega
  have triple {first : ByteRange} (within : Within [first, continuation, continuation] tail)
      (payload : 1 ≤ lead.toNat % 8 ∨ 144 ≤ first.least.toNat ∧ first.greatest.toNat ≤ 191) :
      128 ≤ codePoint lead tail := by
    obtain ⟨byte, rest, rfl, above, below, later⟩ := within_cons within
    obtain ⟨next, rest, rfl, -, -, later⟩ := within_cons later
    obtain ⟨last, rest, rfl, -, -, later⟩ := within_cons later
    rw [within_nil later, three]
    omega
  split at asked
  · cases asked
  split at asked
  · cases asked
    obtain ⟨byte, rest, rfl, -, -, later⟩ := within_cons within
    rw [within_nil later, one]
    omega
  split at asked
  · cases asked
    exact pair within (Or.inr (by decide))
  split at asked
  · cases asked
    exact pair within (Or.inl (by omega))
  split at asked
  · cases asked
    exact pair within (Or.inl (by omega))
  split at asked
  · cases asked
    exact triple within (Or.inr (by decide))
  split at asked
  · cases asked
    exact triple within (Or.inl (by omega))
  split at asked
  · cases asked
    exact triple within (Or.inl (by omega))
  · cases asked

/-- A byte of 128 or more begins none of the first characters. A number that is no character counts
as the very first. -/
theorem char_plain {code : Nat} (plain : 0 < (Char.ofNat code).toNat ∧ (Char.ofNat code).toNat < 128) :
    code < 128 ∧ (Char.ofNat code).toNat = code := by
  by_cases valid : code.isValidChar
  · have same : (Char.ofNat code).toNat = code := by
      rw [Char.ofNat, dif_pos valid]
      rfl
    omega
  · have none : (Char.ofNat code).toNat = 0 := by
      rw [Char.ofNat, dif_neg valid]
      rfl
    omega

theorem encode_plain {char : Char} (plain : char.toNat < 128) :
    String.utf8EncodeChar char = [UInt8.ofNat char.toNat] := by
  unfold String.utf8EncodeChar
  exact if_pos (by change char.toNat ≤ 127; omega)

theorem uncons_plain {byte : UInt8} (small : byte.toNat < 128) {rest : Bytes} :
    uncons? (byte :: rest) = some (Char.ofNat byte.toNat, rest) := by
  have alone : piece byte rest = (some (Char.ofNat byte.toNat), 0) := by
    rw [piece, following?, if_pos (UInt8.lt_iff_toNat_lt.mpr small)]
    cases rest <;> rfl
  rw [uncons?, alone]
  rfl

/-- What is read as one of the first characters is written as its single byte. -/
theorem decode_plain {bytes : Bytes} {char : Char} {later : List (Option Char)}
    (read : decode bytes = some char :: later) (plain : 0 < char.toNat ∧ char.toNat < 128) :
    ∃ rest, bytes = String.utf8EncodeChar char ++ rest ∧ decode rest = later := by
  cases bytes with
  | nil => cases read
  | cons lead rest =>
      obtain ⟨first, last⟩ := List.cons.inj read
      rw [piece] at first last
      cases asked : following? lead with
      | none =>
          rw [asked] at first
          cases first
      | some ranges =>
          rw [asked] at first last
          dsimp only at first last
          by_cases whole : (matching ranges rest).length = ranges.length
          · rw [if_pos whole] at first last
            cases Option.some.inj first
            obtain ⟨small, number⟩ := char_plain plain
            have single : lead.toNat < 128 := by
              refine Nat.lt_of_not_le fun large => ?_
              have := code_point_large asked (within_matching whole) large
              omega
            rw [following?, if_pos (UInt8.lt_iff_toNat_lt.mpr single)] at asked
            cases asked
            have alone : matching [] rest = [] := within_nil (within_matching whole)
            have point : codePoint lead [] = lead.toNat := rfl
            rw [alone] at last number plain ⊢
            refine ⟨rest, ?_, last⟩
            rw [encode_plain plain.2, number, point, UInt8.ofNat_toNat]
            rfl
          · rw [if_neg whole] at first
            cases first

theorem encode_read {bytes : Bytes} {text : String} (read : decode bytes = text.toList.map some)
    (plain : ∀ char ∈ text.toList, 0 < char.toNat ∧ char.toNat < 128) : bytes = encode text := by
  rw [encode]
  generalize text.toList = chars at read plain
  induction chars generalizing bytes with
  | nil =>
      cases bytes with
      | nil => rfl
      | cons _ _ => cases read
  | cons char chars ih =>
      obtain ⟨rest, split, later⟩ := decode_plain read (plain char List.mem_cons_self)
      rw [split, List.flatMap_cons,
        ih later fun other member => plain other (List.mem_cons_of_mem char member)]

/-- Bytes that are text and are shown as plain text are the bytes of that text. -/
theorem encode_display {bytes : Bytes} {text : String} (isText : isText bytes = true)
    (shown : display bytes = text) (plain : ∀ char ∈ text.toList, 0 < char.toNat ∧ char.toNat < 128) :
    bytes = encode text := by
  refine encode_read ?_ plain
  rw [← shown, display, String.toList_ofList, List.map_map]
  refine (List.map_id _).symm.trans (List.map_congr_left fun piece member => ?_)
  have present := List.all_eq_true.mp isText piece member
  obtain ⟨char, rfl⟩ := Option.isSome_iff_exists.mp present
  rfl

end DescriptorReaper.Utf8
