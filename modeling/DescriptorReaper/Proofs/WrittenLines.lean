import DescriptorReaper.Program
import DescriptorReaper.Proofs.EncodedText

/-!
Lines that are written one after the other are read back as they were, provided that no line breaks
within, and so are texts joined by a separator that is in none of them. A line that tells of a
descriptor begins with a number, and no number breaks, nor holds a tab.
-/

namespace DescriptorReaper

theorem pieces_clean {separator : Char} {text : List Char} (clean : separator ∉ text)
    (rest : List Char) :
    pieces separator (text ++ separator :: rest) = text :: pieces separator rest := by
  induction text with
  | nil => rw [List.nil_append, pieces, if_pos rfl]
  | cons char text ih =>
      rw [List.mem_cons, not_or] at clean
      obtain ⟨other, later⟩ := clean
      rw [List.cons_append, pieces, if_neg (Ne.symm other), ih later]

theorem pieces_some (separator : Char) (text : List Char) : pieces separator text ≠ [] := by
  cases text with
  | nil => simp [pieces]
  | cons char rest =>
      rw [pieces]
      split
      · simp
      · split <;> simp

theorem pieces_whole {separator : Char} {text : List Char} (clean : separator ∉ text) :
    pieces separator text = [text] := by
  induction text with
  | nil => rfl
  | cons char text ih =>
      rw [List.mem_cons, not_or] at clean
      rw [pieces, if_neg (Ne.symm clean.1), ih clean.2]

/-- Texts joined by a separator are the pieces between its places. -/
theorem pieces_joined {separator : Char} {texts : List (List Char)} (some : texts ≠ [])
    (clean : ∀ text ∈ texts, separator ∉ text) :
    pieces separator ([separator].intercalate texts) = texts := by
  induction texts with
  | nil => exact absurd rfl some
  | cons first texts ih =>
      cases texts with
      | nil =>
          rw [List.intercalate_singleton]
          exact pieces_whole (clean first List.mem_cons_self)
      | cons second texts =>
          rw [List.intercalate_cons_cons, List.append_assoc, List.singleton_append,
            pieces_clean (clean first List.mem_cons_self),
            ih (by simp) fun text member => clean text (List.mem_cons_of_mem first member)]

theorem pieces_lines {separator : Char} {lines : List (List Char)}
    (clean : ∀ line ∈ lines, separator ∉ line) :
    pieces separator (lines.flatMap (· ++ [separator])) = lines ++ [[]] := by
  induction lines with
  | nil => rfl
  | cons line lines ih =>
      rw [List.flatMap_cons, List.append_assoc, List.singleton_append,
        pieces_clean (clean line List.mem_cons_self),
        ih fun later member => clean later (List.mem_cons_of_mem line member), List.cons_append]

def OneLine (text : String) : Prop := '\n' ∉ text.toList

instance (text : String) : Decidable (OneLine text) := inferInstanceAs (Decidable (¬ _))

theorem decode_lines (lines : List String) :
    Utf8.decode (lines.flatMap Console.line) =
      ((lines.map String.toList).flatMap (· ++ ['\n'])).map some := by
  have ended (text : String) : Console.line text = Utf8.encode (text ++ "\n") :=
    (Utf8.encode_append text "\n").symm
  induction lines with
  | nil => rfl
  | cons line lines ih =>
      rw [List.flatMap_cons, ended, Utf8.decode_encode_append, ih, List.map_cons, List.flatMap_cons,
        List.map_append, String.toList_append]
      rfl

theorem display_lines (lines : List String) :
    (Utf8.display (lines.flatMap Console.line)).toList =
      (lines.map String.toList).flatMap (· ++ ['\n']) := by
  rw [Utf8.display, decode_lines, List.map_map, String.toList_ofList]
  rw [show (fun piece : Option Char => piece.getD '\uFFFD') ∘ some = id from rfl, List.map_id]

theorem text_lines_written {lines : List String} (whole : ∀ line ∈ lines, OneLine line) :
    textLines (lines.flatMap Console.line) = lines := by
  have clean : ∀ line ∈ lines.map String.toList, '\n' ∉ line := by
    intro line member
    obtain ⟨text, written, rfl⟩ := List.mem_map.mp member
    exact whole text written
  rw [textLines, display_lines, pieces_lines clean]
  simp

/-- The first of several lines is read back if it does not break within. -/
theorem text_lines_first {first : String} (whole : OneLine first) (rest : List String) :
    (textLines ((first :: rest).flatMap Console.line)).take 1 = [first] := by
  have shown : (Utf8.display ((first :: rest).flatMap Console.line)).toList =
      first.toList ++ '\n' :: (rest.map String.toList).flatMap (· ++ ['\n']) := by
    rw [display_lines, List.map_cons, List.flatMap_cons, List.append_assoc, List.singleton_append]
  rw [textLines, shown, pieces_clean whole]
  split
  next =>
    rw [List.dropLast_cons_of_ne_nil (pieces_some '\n' _)]
    simp
  next => simp

theorem not_mem_number {char : Char} (noDigit : char.isDigit = false) (noMinus : char ≠ '-')
    (number : Int) : char ∉ (toString number).toList := by
  have digits (natural : Nat) : char ∉ (Nat.repr natural).toList := by
    rw [Nat.toList_repr]
    intro member
    have digit := Nat.isDigit_of_mem_toDigits (by decide) (by decide) member
    rw [noDigit] at digit
    cases digit
  cases number with
  | ofNat natural => exact digits natural
  | negSucc natural =>
      change char ∉ ("-" ++ Nat.repr (natural + 1)).toList
      rw [String.toList_append]
      intro member
      rcases List.mem_append.mp member with minus | later
      · exact noMinus (List.mem_singleton.mp minus)
      · exact digits (natural + 1) later

theorem one_line_number (number : Int) : OneLine (toString number) :=
  not_mem_number (by decide) (by decide) number

theorem one_line_append {left right : String} (first : OneLine left) (second : OneLine right) :
    OneLine (left ++ right) := by
  rw [OneLine, String.toList_append]
  exact fun member => (List.mem_append.mp member).elim first second

theorem one_line_join {texts : List String} (whole : ∀ text ∈ texts, OneLine text) :
    OneLine (String.join texts) := by
  suffices joined : ∀ start : String, OneLine start →
      OneLine (texts.foldl (fun joined text => joined ++ text) start) from
    joined "" (by decide)
  induction texts with
  | nil => exact fun _ first => first
  | cons text texts ih =>
      intro start first
      exact ih (fun later member => whole later (List.mem_cons_of_mem text member)) _
        (one_line_append first (whole text List.mem_cons_self))

theorem one_line_error (error : Errno) : OneLine error.describe := by
  have name : OneLine error.name := by
    cases error <;> decide
  have text : OneLine error.text := by
    cases error <;> decide
  exact one_line_append (one_line_append name (by decide)) text

theorem one_line_capabilities (caps : Capabilities) : OneLine caps.label := by
  have truth : OneLine (toString caps.rangeCall) := by
    cases caps.rangeCall <;> decide
  have dir (dir : ListingDir) : OneLine dir.label := by
    cases dir <;> decide
  unfold Capabilities.label
  refine one_line_append (one_line_append (one_line_append (one_line_append (by decide) truth)
    (by decide)) ?_) (by decide)
  split
  next found _ => exact one_line_append (one_line_append (by decide) (dir found)) (by decide)
  next => decide

/-- No event takes more than a line. -/
theorem one_line_event (event : Event) : OneLine event.line := by
  have level (level : Level) : OneLine
      (String.ofList (List.replicate (5 - level.name.length) ' ') ++ level.name) := by
    cases level <;> decide
  have dir (dir : ListingDir) : OneLine (Event.quoted dir) := by
    cases dir <;> decide
  have truth (value : Bool) : OneLine (toString value) := by
    cases value <;> decide
  have number (value : Int) : OneLine value.repr := one_line_number value
  have message : OneLine event.message := by
    cases event <;> simp only [Event.message] <;> decide
  have names : ∀ field ∈ event.fields, OneLine field.1 := by
    cases event <;> simp only [Event.fields, List.forall_mem_cons] <;>
      simp only [List.not_mem_nil, false_imp_iff, implies_true, and_true] <;> decide
  have values : ∀ field ∈ event.fields, OneLine field.2.display := by
    cases event <;> simp [Event.fields, Value.display, one_line_error, one_line_capabilities, dir,
      truth, number]
  refine one_line_append (one_line_append (one_line_append (level _) (by decide)) message)
    (one_line_join fun text member => ?_)
  obtain ⟨field, among, rfl⟩ := List.mem_map.mp member
  exact one_line_append (one_line_append (one_line_append (by decide) (names field among))
    (by decide)) (values field among)

end DescriptorReaper
