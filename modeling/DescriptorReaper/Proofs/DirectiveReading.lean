import Mathlib
import DescriptorReaper.LogFilter
import DescriptorReaper.Proofs.EncodedText
import DescriptorReaper.Proofs.WrittenLines

/-!
What a filter that is written without brackets says. Each item is a word by itself or a target, an
equals sign and a word. A word stands for a threshold if it is the name of a level in any letter
case or the number of one. The text is read item by item to what each of them means, and one that
means nothing, wherever it stands, makes the whole text mean nothing.
-/

namespace DescriptorReaper

inductive Stands : List Char → Option Level → Prop where
  | off {word : List Char} (spelled : word.map Char.toLower = "off".toList) : Stands word none
  | level {word : List Char} (level : Level) (spelled : word.map Char.toLower = level.word.toList) :
      Stands word (some level)
  -- The gravest level has the number 1.
  | number {sign digits : List Char} {threshold : Option Level} (signed : sign = [] ∨ sign = ['+'])
      (spelled : Decimal.natural? (Utf8.encode (String.ofList digits)) =
        some (threshold.elim 0 Level.rank)) :
      Stands (sign ++ digits) threshold

theorem numbered_iff (number : Nat) (threshold : Option Level) :
    numbered? number = some threshold ↔ number = threshold.elim 0 Level.rank := by
  match number with
  | 0 | 1 | 2 | 3 | 4 | 5 =>
      rcases threshold with _ | level
      · decide
      · cases level <;> decide
  | count + 6 =>
      have beyond : numbered? (count + 6) = none := rfl
      rw [beyond]
      rcases threshold with _ | level
      · simp
      · cases level <;> simp [Level.rank]

theorem natural_characters {text : List Char} {number : Nat}
    (read : Decimal.natural? (Utf8.encode (String.ofList text)) = some number) :
    text ≠ [] ∧ ∀ char ∈ text, char.isDigit = true := by
  rw [Decimal.natural?] at read
  split at read
  next plain =>
    obtain ⟨present, all⟩ := plain
    refine ⟨fun empty => present (by rw [empty]; rfl), fun char member => ?_⟩
    obtain ⟨byte, part⟩ : ∃ byte, byte ∈ String.utf8EncodeChar char :=
      List.exists_mem_of_ne_nil _ (by simp)
    have listed : byte ∈ Utf8.encode (String.ofList text) :=
      List.mem_flatMap.mpr ⟨char, by rwa [String.toList_ofList], part⟩
    have digit := List.all_eq_true.mp all byte listed
    simp only [Decimal.isDigit, UInt8.le_iff_toNat_le, Bool.and_eq_true, decide_eq_true_eq] at digit
    have least : 48 ≤ byte.toNat := digit.1
    have most : byte.toNat ≤ 57 := digit.2
    have same := Utf8.mem_encoded_char (by omega) part
    simp only [Char.isDigit, Bool.and_eq_true, decide_eq_true_eq, UInt32.le_iff_toNat_le, ge_iff_le]
    exact ⟨by rw [same]; exact least, by rw [same]; exact most⟩
  next => cases read

theorem alpha_of_lower {char : Char} (lower : char.toLower.isAlpha = true) :
    char.isAlpha = true := by
  by_cases upper : char.isUpper = true
  · rw [Char.isAlpha, upper, Bool.true_or]
  · have same : char.toLower = char := dif_neg fun within => upper (decide_eq_true within)
    rwa [same] at lower

theorem no_numeral {first : Char} (letter : first.isAlpha = true) (rest : List Char) :
    Decimal.natural? (Utf8.encode (String.ofList (first :: rest))) = none := by
  cases read : Decimal.natural? (Utf8.encode (String.ofList (first :: rest))) with
  | none => rfl
  | some number =>
      have digit := (natural_characters read).2 first List.mem_cons_self
      simp only [Char.isAlpha, Char.isUpper, Char.isLower, Char.isDigit, Bool.or_eq_true,
        Bool.and_eq_true, decide_eq_true_eq, UInt32.le_iff_toNat_le, ge_iff_le] at letter digit
      have upper : 'A'.val.toNat = 65 := rfl
      have lower : 'a'.val.toNat = 97 := rfl
      have last : '9'.val.toNat = 57 := rfl
      omega

theorem spelled_letters {word : List Char} {name : List Char} (present : name ≠ [])
    (letters : name.all Char.isAlpha = true) (spelled : word.map Char.toLower = name) :
    ∃ first rest, word = first :: rest ∧ first.isAlpha = true := by
  cases word with
  | nil => exact absurd spelled.symm present
  | cons first rest =>
      refine ⟨first, rest, rfl, alpha_of_lower (List.all_eq_true.mp letters _ ?_)⟩
      rw [← spelled]
      exact List.mem_cons_self

theorem off_letters {word : List Char} (spelled : word.map Char.toLower = "off".toList) :
    ∃ first rest, word = first :: rest ∧ first.isAlpha = true :=
  spelled_letters (by decide) (by decide) spelled

theorem level_letters {word : List Char} {level : Level}
    (spelled : word.map Char.toLower = level.word.toList) :
    ∃ first rest, word = first :: rest ∧ first.isAlpha = true :=
  spelled_letters (by cases level <;> decide) (by cases level <;> decide) spelled

def unsigned : List Char → List Char
  | '+' :: digits => digits
  | digits => digits

theorem unsigned_plain {first : Char} (plain : first ≠ '+') (rest : List Char) :
    unsigned (first :: rest) = first :: rest := by
  unfold unsigned
  split
  next same =>
    cases same
    exact absurd rfl plain
  next => rfl

theorem unsigned_split (word : List Char) :
    ∃ sign, (sign = [] ∨ sign = ['+']) ∧ word = sign ++ unsigned word := by
  cases word with
  | nil => exact ⟨[], Or.inl rfl, rfl⟩
  | cons first rest =>
      by_cases plus : first = '+'
      · exact ⟨['+'], Or.inr rfl, by rw [plus]; rfl⟩
      · exact ⟨[], Or.inl rfl, (unsigned_plain plus rest).symm⟩

def named? (word : List Char) : Option (Option Level) :=
  if word.map Char.toLower = "off".toList then some none
  else (Level.all.find? fun level => level.word.toList = word.map Char.toLower).map some

theorem threshold_eq (word : List Char) :
    threshold? word =
      (Decimal.natural? (Utf8.encode (String.ofList (unsigned word)))).elim (named? word)
        numbered? := by
  unfold threshold?
  split
  next digits =>
    rw [show unsigned ('+' :: digits) = digits from rfl]
    dsimp only
    cases Decimal.natural? (Utf8.encode (String.ofList digits)) <;> rfl
  next plain =>
    have same : unsigned word = word := by
      cases word with
      | nil => rfl
      | cons first rest => exact unsigned_plain (fun plus => plain rest (by rw [plus])) rest
    rw [same]
    dsimp only
    cases Decimal.natural? (Utf8.encode (String.ofList word)) <;> rfl

theorem no_number {word : List Char}
    (letters : ∃ first rest, word = first :: rest ∧ first.isAlpha = true) :
    Decimal.natural? (Utf8.encode (String.ofList (unsigned word))) = none := by
  obtain ⟨first, rest, rfl, letter⟩ := letters
  rw [unsigned_plain (by rintro rfl; cases letter), no_numeral letter rest]

theorem find_level (level : Level) :
    Level.all.find? (fun other => other.word.toList = level.word.toList) = some level := by
  cases level <;> decide

/-- A word has the threshold that it stands for. -/
theorem threshold_iff (word : List Char) (threshold : Option Level) :
    threshold? word = some threshold ↔ Stands word threshold := by
  constructor
  · intro read
    cases numeral : Decimal.natural? (Utf8.encode (String.ofList (unsigned word))) with
    | some number =>
        rw [threshold_eq, numeral, Option.elim_some, numbered_iff] at read
        obtain ⟨sign, signed, split⟩ := unsigned_split word
        rw [split]
        exact .number signed (read ▸ numeral)
    | none =>
        rw [threshold_eq, numeral, Option.elim_none, named?] at read
        split at read
        next off =>
          cases read
          exact .off off
        next =>
          obtain ⟨level, found, rfl⟩ := Option.map_eq_some_iff.mp read
          have spelled := List.find?_some found
          exact .level level (of_decide_eq_true spelled).symm
  · intro stands
    cases stands with
    | off spelled =>
        rw [threshold_eq, no_number (off_letters spelled), Option.elim_none, named?,
          if_pos spelled]
    | level level spelled =>
        have other : ¬ level.word.toList = "off".toList := by cases level <;> decide
        rw [threshold_eq, no_number (level_letters spelled), Option.elim_none, named?, spelled,
          if_neg other, find_level]
        rfl
    | @number sign digits _ signed spelled =>
        obtain ⟨present, all⟩ := natural_characters spelled
        have same : unsigned (sign ++ digits) = digits := by
          rcases signed with rfl | rfl
          · cases digits with
            | nil => rfl
            | cons first rest =>
                refine unsigned_plain (fun plus => ?_) rest
                have digit := all first List.mem_cons_self
                rw [plus] at digit
                cases digit
          · rfl
        rw [threshold_eq, same, spelled, Option.elim_some, numbered_iff]

theorem threshold_none {word : List Char} (named : ∀ threshold, ¬ Stands word threshold) :
    threshold? word = none := by
  cases read : threshold? word with
  | none => rfl
  | some threshold => exact absurd ((threshold_iff word threshold).mp read) (named threshold)

theorem Stands.present {word : List Char} {threshold : Option Level} (stands : Stands word threshold) :
    word ≠ [] := by
  rintro rfl
  have none : threshold? [] = none := by decide
  rw [(threshold_iff [] threshold).mpr stands] at none
  cases none

namespace Directive

theorem size_cons (first : Char) (rest : List Char) :
    size (first :: rest) = first.utf8Size + size rest := by
  have shift (text : List Char) (start : Nat) :
      text.foldl (fun bytes char => bytes + char.utf8Size) start = start + size text := by
    rw [size]
    induction text generalizing start with
    | nil => rfl
    | cons char text ih =>
        rw [List.foldl_cons, List.foldl_cons, ih, ih (0 + char.utf8Size)]
        omega
  rw [size, List.foldl_cons, shift, Nat.zero_add]

theorem size_append (front rest : List Char) : size (front ++ rest) = size front + size rest := by
  induction front with
  | nil => exact (Nat.zero_add _).symm
  | cons first front ih => rw [List.cons_append, size_cons, size_cons, ih, Nat.add_assoc]

theorem drop_none (text : List Char) : dropBytes? 0 text = some text := by
  unfold dropBytes?
  rfl

theorem take_none (text : List Char) : takeBytes? 0 text = some [] := by
  unfold takeBytes?
  rfl

theorem bytes_some (first : Char) (bytes : Nat) : ∃ more, first.utf8Size + bytes = more + 1 := by
  have some := first.utf8Size_pos
  exact ⟨first.utf8Size + bytes - 1, by omega⟩

theorem drop_first (first : Char) (bytes : Nat) (rest : List Char) :
    dropBytes? (first.utf8Size + bytes) (first :: rest) = dropBytes? bytes rest := by
  obtain ⟨more, whole⟩ := bytes_some first bytes
  rw [whole, dropBytes?.eq_def]
  dsimp only
  rw [if_pos (by omega), show more + 1 - first.utf8Size = bytes by omega]

theorem take_first (first : Char) (bytes : Nat) (rest : List Char) :
    takeBytes? (first.utf8Size + bytes) (first :: rest) =
      (takeBytes? bytes rest).map (first :: ·) := by
  obtain ⟨more, whole⟩ := bytes_some first bytes
  rw [whole, takeBytes?.eq_def]
  dsimp only
  rw [if_pos (by omega), show more + 1 - first.utf8Size = bytes by omega]

theorem drop_size (front rest : List Char) :
    dropBytes? (size front) (front ++ rest) = some rest := by
  induction front with
  | nil => exact drop_none rest
  | cons first front ih => rw [size_cons, List.cons_append, drop_first, ih]

theorem take_size (front rest : List Char) :
    takeBytes? (size front) (front ++ rest) = some front := by
  induction front with
  | nil => exact take_none rest
  | cons first front ih =>
      rw [size_cons, List.cons_append, take_first, ih]
      rfl

theorem between_front (front rest : List Char) :
    between (front ++ rest) 0 (size front) = .ok front := by
  rw [between, drop_none, Option.bind_some, Nat.sub_zero, take_size]

theorem since_front (front rest : List Char) : since (front ++ rest) (size front) = .ok rest := by
  rw [since, drop_size]

/-- Blanks at the end go, and nothing else if the text begins with no blank. -/
theorem trimmed_solid (front : List Char) {mark : Char} (solid : isBlank mark = false)
    (begins : front.head?.all (fun char => !isBlank char) = true) (rest : List Char) :
    ∃ kept, kept <+: rest ∧ trimmed (front ++ mark :: rest) = front ++ mark :: kept := by
  have whole : (front ++ mark :: rest).dropWhile isBlank = front ++ mark :: rest := by
    cases front with
    | nil => exact List.dropWhile_cons_of_neg (by rw [solid]; decide)
    | cons first front =>
        have other : isBlank first = false := by simpa using begins
        exact List.dropWhile_cons_of_neg (by rw [other]; decide)
  have ended : (front ++ mark :: rest).reverse =
      rest.reverse ++ mark :: front.reverse := by simp
  have stops : (mark :: front.reverse).dropWhile isBlank = mark :: front.reverse :=
    List.dropWhile_cons_of_neg (by rw [solid]; decide)
  refine ⟨(rest.reverse.dropWhile isBlank).reverse, ?_, ?_⟩
  · rw [← List.reverse_suffix, List.reverse_reverse]
    exact List.dropWhile_suffix _
  · rw [trimmed, whole, ended, List.dropWhile_append, stops]
    split
    next empty => simp [List.isEmpty_iff.mp empty]
    next => simp

structure Plain (front : List Char) : Prop where
  unsigned : '=' ∉ front
  unbracketed : '[' ∉ front
  begins : front.head?.all (fun char => !isBlank char) = true

instance (front : List Char) : Decidable (Plain front) :=
  decidable_of_iff ('=' ∉ front ∧ '[' ∉ front ∧ front.head?.all (fun char => !isBlank char) = true)
    ⟨fun plain => ⟨plain.1, plain.2.1, plain.2.2⟩,
      fun plain => ⟨plain.unsigned, plain.unbracketed, plain.begins⟩⟩

def Opens (front : List Char) : Prop := front.head?.any opens = true

instance (front : List Char) : Decidable (Opens front) := inferInstanceAs (Decidable (_ = true))

theorem head_front {front : List Char} (plain : Plain front) (rest : List Char) :
    (front ++ rest).takeWhile (fun char => char ≠ '=' && char ≠ '[') =
      front ++ rest.takeWhile (fun char => char ≠ '=' && char ≠ '[') := by
  refine List.takeWhile_append_of_pos fun char member => ?_
  have unsigned : char ≠ '=' := fun same => plain.unsigned (same ▸ member)
  have unbracketed : char ≠ '[' := fun same => plain.unbracketed (same ▸ member)
  simp [unsigned, unbracketed]

theorem read_bare {first : Char} {rest : List Char} (plain : Plain (first :: rest)) :
    read (first :: rest) =
      if Opens (first :: rest) then
        .ok (match threshold? (first :: rest) with
          | some threshold => { target := [], threshold }
          | none => { target := first :: rest, threshold := some .trace })
      else .error .meaningless := by
  have solid : isBlank first = false := by simpa using plain.begins
  obtain ⟨kept, within, shape⟩ := trimmed_solid [] solid rfl rest
  rw [List.nil_append, List.nil_append] at shape
  have part : (first :: kept) ⊆ first :: rest := ((List.prefix_cons_inj first).mpr within).subset
  have keptPlain : Plain (first :: kept) := {
    unsigned := fun member => plain.unsigned (part member)
    unbracketed := fun member => plain.unbracketed (part member)
    begins := plain.begins }
  have head := head_front keptPlain []
  rw [List.append_nil, List.takeWhile_nil, List.append_nil] at head
  unfold read
  simp only [shape, head, List.drop_length]
  by_cases begins : opens first = true
  · rw [if_pos (show Opens (first :: rest) from begins)]
    simp only [List.head?_cons, Option.all_some, begins, not_true_eq_false, if_false]
    cases threshold? (first :: rest) <;> rfl
  · rw [if_neg (show ¬ Opens (first :: rest) from begins)]
    simp only [List.head?_cons, Option.all_some, begins]
    rfl

theorem read_assigned {target : List Char} (plain : Plain target) (word : List Char) :
    read (target ++ '=' :: word) =
      if Opens target then (levelPart word).map fun threshold => { target, threshold }
      else .error .meaningless := by
  obtain ⟨kept, -, shape⟩ :=
    trimmed_solid target (show isBlank '=' = false by decide) plain.begins word
  have head := head_front plain ('=' :: kept)
  rw [List.takeWhile_cons_of_neg (by decide), List.append_nil] at head
  -- Blanks are dropped behind the sign alone, so the places before it are those of the whole text.
  have place : size (target ++ '=' :: kept) - size kept = size (target ++ ['=']) := by
    rw [size_append, size_append, size_cons, size_cons, show size [] = 0 from rfl]
    omega
  have behind : target ++ '=' :: word = (target ++ ['=']) ++ word := by simp
  unfold read
  simp only [shape, head, List.drop_left, place]
  rw [between_front, behind, since_front]
  cases target with
  | nil => rfl
  | cons first rest =>
      by_cases begins : opens first = true
      · rw [if_pos (show Opens (first :: rest) from begins)]
        simp only [List.head?_cons, Option.all_some, begins, not_true_eq_false, if_false,
          reduceCtorEq]
        change (levelPart word).bind (fun threshold =>
          .ok ({ target := first :: rest, threshold } : Directive)) = _
        cases levelPart word <;> rfl
      · rw [if_neg (show ¬ Opens (first :: rest) from begins)]
        simp only [List.head?_cons, Option.all_some, begins]
        rfl

end Directive

namespace LogFilter

/-- A directive as it is written: a word by itself, or a target, an equals sign and a word. -/
inductive Item where
  | bare (word : List Char)
  | assigned (target word : List Char)
  deriving DecidableEq, Repr

namespace Item

open Directive (Plain Opens)

def text : Item → List Char
  | .bare word => word
  | .assigned target word => target ++ '=' :: word

def Fits : Item → Prop
  | .bare word => word ≠ [] ∧ Plain word ∧ ',' ∉ word
  | .assigned target word => Plain target ∧ ',' ∉ target ∧ ',' ∉ word

instance (item : Item) : Decidable item.Fits := by
  cases item <;> exact inferInstanceAs (Decidable (_ ∧ _))

/-- What an item says. -/
inductive Means : Item → Directive → Prop where
  -- A threshold by itself is for every target.
  | general {word : List Char} {threshold : Option Level} (opens : Opens word)
      (stands : Stands word threshold) : Means (.bare word) { target := [], threshold }
  -- Any other word is a target that is shown in full.
  | full {word : List Char} (opens : Opens word) (named : ∀ threshold, ¬ Stands word threshold) :
      Means (.bare word) { target := word, threshold := some .trace }
  | assigned {target word : List Char} {threshold : Option Level} (opens : Opens target)
      (stands : Stands word threshold) : Means (.assigned target word) { target, threshold }
  -- A threshold that is left out shows everything.
  | unlimited {target : List Char} (opens : Opens target) :
      Means (.assigned target []) { target, threshold := some .trace }

variable {item : Item} {directive : Directive}

theorem Means.unconditional (means : Means item directive) :
    directive.field = none ∧ directive.inSpan = false := by
  cases means <;> exact ⟨rfl, rfl⟩

/-- The name of a level means that level for every target, in any letter case. -/
theorem Means.of_level {word : List Char} {level : Level}
    (spelled : word.map Char.toLower = level.word.toList) :
    Means (.bare word) { target := [], threshold := some level } := by
  refine .general ?_ (.level level spelled)
  obtain ⟨first, rest, rfl, letter⟩ := level_letters spelled
  simp [Opens, Directive.opens, Alphanumeric.isAlphanumeric, Char.isAlphanum, letter]

theorem read_means (fits : item.Fits) (means : Means item directive) :
    Directive.read item.text = .ok directive := by
  cases means with
  | @general word threshold opens stands =>
      obtain ⟨present, plain, -⟩ := fits
      obtain ⟨first, rest, rfl⟩ := List.exists_cons_of_ne_nil present
      rw [text, Directive.read_bare plain, if_pos opens, (threshold_iff _ threshold).mpr stands]
  | @full word opens named =>
      obtain ⟨present, plain, -⟩ := fits
      obtain ⟨first, rest, rfl⟩ := List.exists_cons_of_ne_nil present
      rw [text, Directive.read_bare plain, if_pos opens, threshold_none named]
  | @assigned target word threshold opens stands =>
      rw [text, Directive.read_assigned fits.1, if_pos opens, Directive.levelPart,
        if_neg stands.present, (threshold_iff word threshold).mpr stands]
      rfl
  | @unlimited target opens =>
      rw [text, Directive.read_assigned fits.1, if_pos opens]
      rfl

theorem read_meaningless (fits : item.Fits) (nothing : ∀ directive, ¬ Means item directive) :
    Directive.read item.text = .error .meaningless := by
  cases item with
  | bare word =>
      obtain ⟨present, plain, -⟩ := fits
      obtain ⟨first, rest, rfl⟩ := List.exists_cons_of_ne_nil present
      have shut : ¬ Opens (first :: rest) := by
        intro opens
        by_cases stands : ∃ threshold, Stands (first :: rest) threshold
        · exact nothing _ (.general opens stands.choose_spec)
        · exact nothing _ (.full opens (not_exists.mp stands))
      rw [text, Directive.read_bare plain, if_neg shut]
  | assigned target word =>
      rw [text, Directive.read_assigned fits.1]
      split
      next opens =>
        have present : word ≠ [] := by
          rintro rfl
          exact nothing _ (.unlimited opens)
        have other := threshold_none fun threshold stands => nothing _ (.assigned opens stands)
        rw [Directive.levelPart, if_neg present, other]
        rfl
      next => rfl

theorem text_present (fits : item.Fits) : item.text ≠ [] := by
  cases item with
  | bare word => exact fits.1
  | assigned target word => simp [text]

theorem text_clean (fits : item.Fits) : ',' ∉ item.text := by
  cases item with
  | bare word => exact fits.2.2
  | assigned target word =>
      simp only [text, List.mem_append, List.mem_cons, not_or]
      exact ⟨fits.2.1, by decide, fits.2.2⟩

end Item

variable {items : List Item} {directives : List Directive}

def written (items : List Item) : List Char := [','].intercalate (items.map Item.text)

theorem pieces_written (fits : ∀ item ∈ items, item.Fits) :
    (pieces ',' (written items)).filter (· ≠ []) = items.map Item.text := by
  have present : ∀ text ∈ items.map Item.text, text ≠ [] := by
    intro text member
    obtain ⟨item, listed, rfl⟩ := List.mem_map.mp member
    exact Item.text_present (fits item listed)
  have clean : ∀ text ∈ items.map Item.text, ',' ∉ text := by
    intro text member
    obtain ⟨item, listed, rfl⟩ := List.mem_map.mp member
    exact Item.text_clean (fits item listed)
  rw [written]
  generalize items.map Item.text = texts at present clean ⊢
  cases texts with
  | nil => rfl
  | cons first texts =>
      rw [pieces_joined (by simp) clean]
      exact List.filter_eq_self.mpr fun text member => by simpa using present text member

/-- A text whose items all mean something is read to what they mean, in their order. -/
theorem read_written (fits : ∀ item ∈ items, item.Fits)
    (means : List.Forall₂ Item.Means items directives) :
    read (written items) = .ok directives := by
  rw [read, pieces_written fits, List.mapM_map]
  induction means with
  | nil => rfl
  | @cons item directive items directives means later ih =>
      rw [List.mapM_cons, ih fun other member => fits other (List.mem_cons_of_mem _ member),
        Function.comp_apply, Item.read_means (fits _ List.mem_cons_self) means]
      rfl

/-- An item that means nothing spoils the text, wherever it stands. -/
theorem read_spoiled (fits : ∀ item ∈ items, item.Fits) {spoiler : Item} (listed : spoiler ∈ items)
    (nothing : ∀ directive, ¬ spoiler.Means directive) :
    read (written items) = .error .meaningless := by
  rw [read, pieces_written fits, List.mapM_map]
  induction items with
  | nil => cases listed
  | cons item items ih =>
      have fitsLater := fun other member => fits other (List.mem_cons_of_mem item member)
      rw [List.mapM_cons, Function.comp_apply]
      by_cases means : ∃ directive, item.Means directive
      · obtain ⟨directive, means⟩ := means
        have later : spoiler ∈ items := by
          rcases List.mem_cons.mp listed with rfl | later
          · exact absurd means (nothing directive)
          · exact later
        rw [Item.read_means (fits _ List.mem_cons_self) means, ih fitsLater later]
        rfl
      · rw [Item.read_meaningless (fits _ List.mem_cons_self) (not_exists.mp means)]
        rfl

def value (items : List Item) : Bytes := Utf8.encode (String.ofList (written items))

theorem choose_value (items : List Item) (verbosity : Nat) :
    choose (some (value items)) verbosity =
      match read (written items) with
      | .ok filter => some filter
      | .error .meaningless => some (ofVerbosity verbosity)
      | .error .severed => none := by
  rw [choose, value, Utf8.isText_encode, Utf8.display_encode, String.toList_ofList]
  rfl

theorem choose_written (fits : ∀ item ∈ items, item.Fits)
    (means : List.Forall₂ Item.Means items directives) (verbosity : Nat) :
    choose (some (value items)) verbosity = some directives := by
  rw [choose_value, read_written fits means]

theorem choose_spoiled (fits : ∀ item ∈ items, item.Fits) {spoiler : Item}
    (listed : spoiler ∈ items) (nothing : ∀ directive, ¬ spoiler.Means directive)
    (verbosity : Nat) :
    choose (some (value items)) verbosity = choose none verbosity := by
  rw [choose_value, read_spoiled fits listed nothing]
  rfl

end LogFilter

end DescriptorReaper
