import DescriptorReaper.Proofs.CommandLines
import DescriptorReaper.Proofs.LoggingChoices
import DescriptorReaper.Proofs.NumeralFaults

/-!
The threshold on a command line. It is read as names of descriptors are, but it may have a sign, and
what is refused is refused with the reason: a number out of range, one too large or too small to be
read at all, or no number.
-/

namespace DescriptorReaper

theorem Console.start_environment (home : Place) (files : List (Int × String)) (limit : Int)
    (logging : Option Bytes) :
    (start home files limit logging).environment = startEnvironment logging := by
  refine start_induction home limit logging (·.environment = startEnvironment logging) files rfl
    fun console file _ same => ?_
  unfold withFile
  split
  next target next opened =>
    obtain ⟨⟨openings, rfl⟩, -⟩ := open_path_reading opened
    exact same
  next => exact same

namespace Program

open Console (errorStream)

theorem start_uncoloured (home : Place) (files : List (Int × String)) (limit : Int)
    (logging : Option Bytes) : isColoured (Console.start home files limit logging) = false := by
  rw [isColoured, Console.start_environment]
  cases logging <;> rfl

/-- A command line that cannot be used is answered with a complaint, of which one line counts. -/
theorem outcome_refused {console : Console} (fresh : console.Fresh)
    (room : console.process.table.lowestFree < console.process.limit) {arguments : List Bytes}
    {error : UsageError} (refused : ReapSettings.read arguments = .error (.usage error)) :
    let usage := ReapSettings.usage
      (calledName (Utf8.encode (Installation.path console.home .reaper)))
    let said := (error.report usage).map (Styled.text (isColoured console))
    outcome .reaper arguments console =
      ⟨.exited 2, [], (textLines (if console.Reaches errorStream .errors
        then said.flatMap Console.line else [])).take 1⟩ := by
  intro usage said
  let name := Utf8.encode (Installation.path console.home .reaper)
  let given := working console name arguments
  have streams : given.Streams errorStream .errors := fresh.logged
  have ended (spawn : Spawn) : turn spawn .reaper name arguments console = (.ends (.exited 2),
      if given.Reaches errorStream .errors then given.piped .errors said else given) :=
    ((turn_working fresh.standard room spawn name arguments).2.2 _ refused).trans
      (say_streams streams (fun _ => rfl) (.exited 2) said)
  have run : run deepest = runWith (run 1999) := rfl
  have nothing (pipe : Pipe) : given.received pipe = [] := fresh.unwritten pipe
  rw [outcome, run, run_ends (ended _)]
  dsimp only
  rw [if_pos rfl]
  by_cases reaches : console.Reaches errorStream .errors
  · have reached : given.Reaches errorStream .errors := reaches
    rw [if_pos reached, if_pos reaches, Console.received_piped,
      Console.received_piped_elsewhere (by decide), nothing, nothing, List.nil_append]
    rfl
  · have unreached : ¬ given.Reaches errorStream .errors := reaches
    rw [if_neg unreached, if_neg reaches, nothing, nothing]
    rfl

end Program

def Visible (text : String) : Prop := text.toList.all Terminal.shows = true

instance (text : String) : Decidable (Visible text) := inferInstanceAs (Decidable (_ = true))

theorem Visible.plain {text : String} (visible : Visible text) : Terminal.plain text = text :=
  Terminal.plain_text (List.all_eq_true.mp visible)

theorem visible_append {left right : String} (first : Visible left) (second : Visible right) :
    Visible (left ++ right) := by
  rw [Visible, String.toList_append, List.all_append, first, second]
  rfl

theorem shows_digit {char : Char} (digit : char.isDigit = true) : Terminal.shows char = true := by
  simp only [Char.isDigit, Bool.and_eq_true, decide_eq_true_eq, ge_iff_le,
    UInt32.le_iff_toNat_le] at digit
  have least : 48 ≤ char.val.toNat := digit.1
  have most : char.val.toNat ≤ 57 := digit.2
  have above : ' ' < char := UInt32.lt_iff_toNat_lt.mpr (by change 32 < _; omega)
  have other : char ≠ '\x7f' := by
    rintro rfl
    exact absurd most (by decide)
  simp [Terminal.shows, above, other]

theorem visible_number (number : Int) : Visible (toString number) := by
  have digits (natural : Nat) : Visible (Nat.repr natural) := by
    rw [Visible, Nat.toList_repr, List.all_eq_true]
    intro char member
    exact shows_digit (Nat.isDigit_of_mem_toDigits (by decide) (by decide) member)
  cases number with
  | ofNat natural => exact digits natural
  | negSucc natural => exact visible_append (by decide : Visible "-") (digits (natural + 1))

theorem visible_fault (fault : Decimal.Fault) : Visible fault.message := by
  cases fault with
  | outside number range =>
      exact visible_append (visible_append (visible_append (visible_append (visible_number number)
        (by decide)) (visible_number range.least)) (by decide)) (visible_number range.greatest)
  | _ => decide

theorem one_line_fault (fault : Decimal.Fault) : OneLine fault.message := by
  cases fault with
  | outside number range =>
      exact one_line_append (one_line_append (one_line_append (one_line_append
        (one_line_number number) (by decide)) (one_line_number range.least)) (by decide))
        (one_line_number range.greatest)
  | _ => decide

namespace ReapSettings

open Arguments (Form)

def lowfdArgument (text : String) : Bytes := Utf8.encode ("--lowfd=" ++ text)

theorem read_lowfd (text : String) :
    read [lowfdArgument text] =
      match Decimal.narrowed .word32 (Utf8.encode text) with
      | .ok low => .ok ({ lowfd := some low }, [])
      | .error fault => .error (.usage (.invalidValue text lowfdOption fault.message)) := by
  let item : Item := .valued .lowfd 0 .wordAssigned (Utf8.encode text)
  have fit : ∀ other ∈ [item], other.Fits := by
    intro other member
    rw [List.mem_singleton.mp member]
    exact ⟨trivial, Or.inl rfl⟩
  have words : [item].flatMap Item.words ++ [] = [lowfdArgument text] := by
    rw [List.append_nil, List.flatMap_singleton, lowfdArgument, Utf8.encode_append]
    rfl
  have applied : applyAll [item] {} = setLowfd (Utf8.encode text) {} := by
    change (setLowfd (Utf8.encode text) {}).bind (applyAll []) = _
    cases setLowfd (Utf8.encode text) {} <;> rfl
  rw [← words, read_items fit .nothing, applied, setLowfd, if_neg (by decide), textValue,
    if_pos (Utf8.isText_encode text), Utf8.display_encode]
  dsimp only
  cases Decimal.narrowed .word32 (Utf8.encode text) <;> rfl

def lowfdComplaint (text reason : String) : String :=
  "error: invalid value '" ++ text ++ "' for '" ++ lowfdOption ++ "': " ++ reason

theorem report_first (text reason : String) (usage : UsageError.Usage) (visible : Visible text)
    (plain : Visible reason) :
    ∃ rest, ((UsageError.invalidValue text lowfdOption reason).report usage).map
      (Styled.text false) = lowfdComplaint text reason :: rest := by
  let spans : Styled :=
    [⟨.alarm, "error:"⟩, ⟨.plain, " "⟩, ⟨.plain, "invalid value '"⟩, ⟨.bad, text⟩,
      ⟨.plain, "' for '"⟩, ⟨.literal, lowfdOption⟩, ⟨.plain, "': "⟩, ⟨.plain, reason⟩]
  obtain ⟨rest, lines⟩ : ∃ rest,
      (UsageError.invalidValue text lowfdOption reason).report usage = spans :: rest := ⟨_, rfl⟩
  have shown : Styled.text false spans = "error:" ++ " " ++ "invalid value '" ++ text ++
      "' for '" ++ lowfdOption ++ "': " ++ reason := by
    change String.join [Terminal.plain "error:", Terminal.plain " ",
      Terminal.plain "invalid value '", Terminal.plain text, Terminal.plain "' for '", Terminal.plain lowfdOption,
      Terminal.plain "': ", Terminal.plain reason] = _
    rw [visible.plain, plain.plain]
    rfl
  refine ⟨rest.map (Styled.text false), ?_⟩
  rw [lines, List.map_cons, shown]
  rfl

/-- The threshold is refused for a reason. A program that gets so far ends with the status of a
usage error, prints nothing, and complains with the reason where the error stream leads to its
reader. -/
structure Refuses (text reason : String) : Prop where
  read : ReapSettings.read [lowfdArgument text] =
    .error (.usage (.invalidValue text lowfdOption reason))
  ends (home : Place) (files : List (Int × String)) (limit : Int) (logging : Option Bytes) :
    let console := Console.start home files limit logging
    console.process.table.lowestFree < console.process.limit →
      let outcome := Program.outcome .reaper [lowfdArgument text] console
      outcome.ending = .exited 2 ∧ outcome.output = [] ∧
        (Visible text → OneLine text → console.Reaches Console.errorStream .errors →
          outcome.errors = [lowfdComplaint text reason])

theorem refuses {text : String} {fault : Decimal.Fault}
    (faulty : Decimal.narrowed .word32 (Utf8.encode text) = .error fault) :
    Refuses text fault.message := by
  have refused : read [lowfdArgument text] =
      .error (.usage (.invalidValue text lowfdOption fault.message)) := by
    rw [read_lowfd, faulty]
  refine ⟨refused, fun home files limit logging => ?_⟩
  intro console room
  have ended := Program.outcome_refused (Console.start_fresh home files limit logging) room refused
  rw [Program.start_uncoloured] at ended
  refine ⟨by rw [ended], by rw [ended], fun visible whole reaches => ?_⟩
  obtain ⟨rest, lines⟩ := report_first text fault.message
    (usage (Program.calledName (Utf8.encode (Installation.path console.home .reaper)))) visible
    (visible_fault fault)
  have complaint : OneLine (lowfdComplaint text fault.message) :=
    one_line_append (one_line_append (one_line_append (one_line_append
      (one_line_append (by decide) whole) (by decide)) (by decide)) (by decide))
      (one_line_fault fault)
  rw [ended]
  dsimp only
  rw [if_pos reaches, lines, text_lines_first complaint]

theorem accepts_iff (text : String) (low : Int) :
    read [lowfdArgument text] = .ok ({ lowfd := some low }, []) ↔
      Decimal.Spells (Utf8.encode text) low ∧ Decimal.Range.word32.Holds low := by
  rw [read_lowfd, ← Decimal.narrowed_iff]
  cases Decimal.narrowed .word32 (Utf8.encode text) <;> simp

theorem accepts_descriptor {text : String} {fd : Int}
    (named : descriptor? (Utf8.encode text) = some fd) :
    read [lowfdArgument text] = .ok ({ lowfd := some fd }, []) := by
  obtain ⟨number, natural, rfl, fits⟩ := (descriptor_iff_natural _ fd).mp named
  rw [Decimal.natural?] at natural
  split at natural
  next digits =>
    cases natural
    refine (accepts_iff text _).mpr ⟨.plain digits.1 digits.2, ?_⟩
    have least : Decimal.Range.word32.least = -2147483648 := rfl
    exact ⟨by omega, fits⟩
  next => cases natural

theorem head_plain {text : String} {byte : UInt8} (small : byte.toNat < 128)
    (begins : (Utf8.encode text).head? = some byte) :
    text.toList.head? = some (Char.ofNat byte.toNat) := by
  rw [Utf8.encode] at begins
  generalize text.toList = chars at begins ⊢
  cases chars with
  | nil => cases begins
  | cons first rest =>
      rw [List.flatMap_cons] at begins
      cases encoded : String.utf8EncodeChar first with
      | nil => exact absurd encoded (by simp)
      | cons lead tail =>
          rw [encoded] at begins
          cases begins
          have same := Utf8.mem_encoded_char small (encoded ▸ List.mem_cons_self)
          rw [List.head?_cons, ← same]
          exact congrArg some (Char.ofNat_toNat first).symm

theorem accepts_signed {text : String} {low : Int}
    (accepted : read [lowfdArgument text] = .ok ({ lowfd := some low }, []))
    (nameless : descriptor? (Utf8.encode text) = none) :
    text.toList.head? = some '+' ∨ text.toList.head? = some '-' := by
  obtain ⟨spelled, -, most⟩ := (accepts_iff text low).mp accepted
  generalize split : Utf8.encode text = value at spelled nameless
  cases spelled with
  | plus => exact Or.inl (@head_plain text 43 (by decide) (by rw [split]; rfl))
  | minus => exact Or.inr (@head_plain text 45 (by decide) (by rw [split]; rfl))
  | plain some all =>
      have named : descriptor? value = .some (Decimal.value value) :=
        (descriptor_iff_natural value _).mpr ⟨_, if_pos ⟨some, all⟩, rfl, most⟩
      rw [nameless] at named
      cases named

/-- A threshold is a numeral, perhaps with a sign, whose number fits a word of 32 bits. A number
that fits 64 bits alone is refused as out of range, a text that begins with a number too wide for
these as too large or too small, and any other text as no number; each ends the program with the
status 2. So the names of descriptors are thresholds, and all others have a sign. -/
theorem threshold_reading (text : String) :
    let value := Utf8.encode text
    (∀ low, read [lowfdArgument text] = .ok ({ lowfd := some low }, []) ↔
      Decimal.Spells value low ∧ -2147483648 ≤ low ∧ low ≤ 2147483647) ∧
    (∀ number, Decimal.Spells value number →
      ¬ (-2147483648 ≤ number ∧ number ≤ 2147483647) →
      -9223372036854775808 ≤ number → number ≤ 9223372036854775807 →
        Refuses text (toString number ++ " is not in -2147483648..=2147483647")) ∧
    (∀ front number, front <+: value → Decimal.Spells front number →
      9223372036854775807 < number →
        Refuses text "number too large to fit in target type") ∧
    (∀ front number, front <+: value → Decimal.Spells front number →
      number < -9223372036854775808 →
        Refuses text "number too small to fit in target type") ∧
    ((∀ number, ¬ Decimal.Spells value number) →
      (∀ front number, front <+: value → Decimal.Spells front number →
        -9223372036854775808 ≤ number ∧ number ≤ 9223372036854775807) →
        Refuses text (if value = [] then "cannot parse integer from empty string"
          else "invalid digit found in string")) ∧
    (∀ fd, descriptor? value = some fd →
      read [lowfdArgument text] = .ok ({ lowfd := some fd }, [])) ∧
    ∀ low, read [lowfdArgument text] = .ok ({ lowfd := some low }, []) →
      descriptor? value = none → text.toList.head? = some '+' ∨ text.toList.head? = some '-' := by
  intro value
  refine ⟨accepts_iff text, fun number spelled outside least most => ?_,
    fun front number within spelled above => ?_, fun front number within spelled below => ?_,
    fun unspelled within => ?_, fun fd => accepts_descriptor, fun low => accepts_signed⟩
  · have message : (Decimal.Fault.outside number .word32).message =
        toString number ++ " is not in -2147483648..=2147483647" := by
      rw [Decimal.Fault.message, String.append_assoc, String.append_assoc, String.append_assoc]
      rfl
    rw [← message]
    exact refuses (Decimal.narrowed_outside spelled ⟨least, most⟩ outside)
  · obtain ⟨rest, split⟩ := within
    have beyond : ¬ Decimal.Range.word64.Holds number := fun holds =>
      absurd holds.2 (Int.not_le.mpr above)
    have faulty := Decimal.narrowed_beyond spelled beyond rest
    rw [split, if_pos (show Decimal.Range.word64.greatest < number from above)] at faulty
    exact refuses faulty
  · obtain ⟨rest, split⟩ := within
    have beyond : ¬ Decimal.Range.word64.Holds number := fun holds =>
      absurd holds.1 (Int.not_le.mpr below)
    have least : ¬ Decimal.Range.word64.greatest < number := by
      have : Decimal.Range.word64.greatest = 9223372036854775807 := rfl
      omega
    have faulty := Decimal.narrowed_beyond spelled beyond rest
    rw [split, if_neg least] at faulty
    exact refuses faulty
  · have refused := refuses (Decimal.narrowed_unspelled unspelled within)
    rwa [apply_ite Decimal.Fault.message] at refused

def overflowing : String := "99999999999999999999x"

theorem overflowing_reading :
    read [lowfdArgument "-0005"] = .ok ({ lowfd := some (-5) }, []) ∧
      ("-0005".toList.head? = some '+' ∨ "-0005".toList.head? = some '-') ∧
      read [lowfdArgument "007"] = .ok ({ lowfd := some 7 }, []) ∧
      Refuses "+2147483648" "2147483648 is not in -2147483648..=2147483647" ∧
      Refuses overflowing "number too large to fit in target type" ∧
      Refuses "-9223372036854775809" "number too small to fit in target type" ∧
      Refuses "" "cannot parse integer from empty string" := by
  obtain ⟨accepts, -, -, -, -, -, signed⟩ := threshold_reading "-0005"
  obtain ⟨-, -, -, -, -, named, -⟩ := threshold_reading "007"
  obtain ⟨-, outside, -⟩ := threshold_reading "+2147483648"
  obtain ⟨-, -, large, -⟩ := threshold_reading overflowing
  obtain ⟨-, -, -, small, -⟩ := threshold_reading "-9223372036854775809"
  obtain ⟨-, -, -, -, invalid, -⟩ := threshold_reading ""
  have accepted := (accepts (-5)).mpr ⟨.minus (by decide) (by decide), by decide, by decide⟩
  have unspelled (front : Bytes) (within : front <+: []) (number : Int) :
      ¬ Decimal.Spells front number := by
    rw [List.prefix_nil.mp within]
    intro spelled
    cases spelled with
    | plain some _ => exact some rfl
  exact ⟨accepted, signed (-5) accepted (by decide), named 7 (by decide),
    outside 2147483648 (.plus (by decide) (by decide)) (by decide) (by decide) (by decide),
    large (List.replicate 20 57) _ (by decide) (.plain (by decide) (by decide)) (by decide),
    small (Utf8.encode "-9223372036854775809") _ List.prefix_rfl (.minus (by decide) (by decide))
      (by decide),
    invalid (unspelled [] List.prefix_rfl) fun front number within spelled =>
      absurd spelled (unspelled front within number)⟩

theorem overflowing_unspelled (number : Int) : ¬ Decimal.Spells (Utf8.encode overflowing) number := by
  intro spelled
  generalize split : Utf8.encode overflowing = value at spelled
  cases spelled with
  | plus => cases split
  | minus => cases split
  | plain some all =>
      rw [← split] at all
      exact absurd all (by decide)

/-- A text that is no number may be refused as too large. -/
theorem overflowing_too_large :
    (∀ number, ¬ Decimal.Spells (Utf8.encode "99999999999999999999x") number) ∧
      read [Utf8.encode "--lowfd=99999999999999999999x"] =
        .error (.usage (.invalidValue "99999999999999999999x" "--lowfd <LOWFD>"
          "number too large to fit in target type")) := by
  refine ⟨overflowing_unspelled, ?_⟩
  have arguments : Utf8.encode "--lowfd=99999999999999999999x" = lowfdArgument overflowing := by
    decide
  rw [arguments, read_lowfd]
  decide

end ReapSettings

end DescriptorReaper
