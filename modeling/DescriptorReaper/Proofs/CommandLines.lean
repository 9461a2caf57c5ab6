import DescriptorReaper.Proofs.ConsoleStart
import DescriptorReaper.Proofs.ProgramTurns

/-!
Command lines of the closing program, written in any of the ways there are. Options come in any
order and form, flags may be gathered in front of an option's letter, and the command is marked off
where its first word could be taken for an option. What is read is what the options say taken one
after the other, and the command as it stands, whatever is in it.
-/

namespace DescriptorReaper

theorem Decimal.Spells.isText {text : Bytes} {number : Int} (spelled : Spells text number) :
    Utf8.isText text = true := by
  have small {digits : Bytes} (all : digits.all isDigit = true) :
      ∀ byte ∈ digits, byte.toNat < 128 := by
    intro byte member
    have digit := List.all_eq_true.mp all byte member
    simp only [isDigit, UInt8.le_iff_toNat_le, Bool.and_eq_true, decide_eq_true_eq] at digit
    exact Nat.lt_of_le_of_lt digit.2 (by decide)
  refine Utf8.isText_ascii ?_
  cases spelled with
  | plain _ all => exact small all
  | plus _ all => exact List.forall_mem_cons.mpr ⟨by decide, small all⟩
  | minus _ all => exact List.forall_mem_cons.mpr ⟨by decide, small all⟩

theorem Tier.ofName_iff (name : String) (tier : Tier) :
    Tier.ofName? name = some tier ↔ name = tier.name := by
  constructor
  · intro found
    have same := List.find?_some found
    exact (beq_iff_eq.mp same).symm
  · rintro rfl
    cases tier <;> decide

theorem Tier.name_plain (tier : Tier) :
    ∀ char ∈ tier.name.toList, 0 < char.toNat ∧ char.toNat < 128 := by
  have all : tier.name.toList.all (fun char => 0 < char.toNat && char.toNat < 128) = true := by
    cases tier <;> rfl
  intro char member
  simpa only [Bool.and_eq_true, decide_eq_true_eq] using List.all_eq_true.mp all char member

namespace ReapSettings

open Arguments

theorem set_lowfd_iff (text : Bytes) (settings next : ReapSettings) :
    setLowfd text settings = .ok next ↔ settings.lowfd = none ∧
      ∃ low, Decimal.Spells text low ∧ Decimal.Range.word32.Holds low ∧
        next = { settings with lowfd := some low } := by
  rw [setLowfd]
  cases settings.lowfd with
  | some low => simp
  | none =>
      rw [if_neg (by decide), textValue]
      constructor
      · intro set
        by_cases isText : Utf8.isText text = true
        · rw [if_pos isText] at set
          dsimp only at set
          cases read : Decimal.narrowed .word32 text with
          | error fault =>
              rw [read] at set
              cases set
          | ok low =>
              rw [read] at set
              cases set
              obtain ⟨spelled, holds⟩ := (Decimal.narrowed_iff text low).mp read
              exact ⟨rfl, low, spelled, holds, rfl⟩
        · rw [if_neg isText] at set
          cases set
      · rintro ⟨-, low, spelled, holds, rfl⟩
        rw [if_pos spelled.isText, (Decimal.narrowed_iff text low).mpr ⟨spelled, holds⟩]

theorem set_tier_iff (text : Bytes) (settings next : ReapSettings) :
    setTier text settings = .ok next ↔ settings.tier = none ∧
      ∃ tier : Tier, text = Utf8.encode tier.name ∧ next = { settings with tier := some tier } := by
  rw [setTier]
  cases settings.tier with
  | some tier => simp
  | none =>
      rw [if_neg (by decide), textValue]
      constructor
      · intro set
        by_cases isText : Utf8.isText text = true
        · rw [if_pos isText] at set
          dsimp only at set
          cases named : Tier.ofName? (Utf8.display text) with
          | none =>
              rw [named] at set
              cases set
          | some tier =>
              rw [named] at set
              cases set
              have shown := (Tier.ofName_iff _ tier).mp named
              exact ⟨rfl, tier, Utf8.encode_display isText shown tier.name_plain, rfl⟩
        · rw [if_neg isText] at set
          cases set
      · rintro ⟨-, tier, rfl, rfl⟩
        rw [if_pos (Utf8.isText_encode tier.name), Utf8.display_encode]
        dsimp only
        rw [(Tier.ofName_iff _ tier).mpr rfl]

def MeansLowfd (text : Bytes) (low : Int) : Prop :=
  Decimal.Spells text low ∧ Decimal.Range.word32.Holds low

def MeansTier (text : Bytes) (tier : Tier) : Prop := text = Utf8.encode tier.name

inductive Choice where
  | lowfd
  | tier
  deriving DecidableEq, Repr

namespace Choice

def letter : Choice → UInt8
  | .lowfd => 108
  | .tier => 116

def word : Choice → String
  | .lowfd => "lowfd"
  | .tier => "tier"

def shown : Choice → String
  | .lowfd => lowfdOption
  | .tier => tierOption

def apply : Choice → Bytes → ReapSettings → Except UsageError ReapSettings
  | .lowfd => setLowfd
  | .tier => setTier

def Means : Choice → Bytes → Prop
  | .lowfd, text => ∃ low, MeansLowfd text low
  | .tier, text => ∃ tier, MeansTier text tier

def times : Choice → ReapSettings → Nat
  | .lowfd, settings => settings.lowfd.toList.length
  | .tier, settings => settings.tier.toList.length

theorem takes (choice : Choice) :
    grammar.Takes choice.letter choice.word choice.shown choice.apply := by
  cases choice with
  | lowfd => exact takes_lowfd
  | tier => exact takes_tier

theorem times_once (choice : Choice) (settings : ReapSettings) : choice.times settings ≤ 1 := by
  cases choice with
  | lowfd => exact Option.length_toList_le
  | tier => exact Option.length_toList_le

/-- An option that is taken up had not been given, and is then. -/
theorem apply_times {choice : Choice} {text : Bytes} {settings next : ReapSettings}
    (applied : choice.apply text settings = .ok next) :
    choice.Means text ∧ ∀ other, other.times next =
      other.times settings + if other = choice then 1 else 0 := by
  cases choice with
  | lowfd =>
      obtain ⟨unset, low, spelled, holds, rfl⟩ := (set_lowfd_iff text settings next).mp applied
      refine ⟨⟨low, spelled, holds⟩, fun other => ?_⟩
      cases other with
      | lowfd => simp [times, unset]
      | tier => rfl
  | tier =>
      obtain ⟨unset, tier, named, rfl⟩ := (set_tier_iff text settings next).mp applied
      refine ⟨⟨tier, named⟩, fun other => ?_⟩
      cases other with
      | lowfd => rfl
      | tier => simp [times, unset]

end Choice

def louderStill (settings : ReapSettings) : ReapSettings :=
  { settings with verbosity := louder settings.verbosity }

def flagLetter : UInt8 := 118

theorem flags_louder : grammar.Flags flagLetter louderOption louderStill where
  ascii := by decide
  notHyphen := by decide
  letter := rfl

/-- Flags are counted as far as a byte goes. -/
theorem repeat_louder (count : Nat) (settings : ReapSettings) (fits : settings.verbosity ≤ 255) :
    Nat.repeat louderStill count settings =
      { settings with verbosity := min (settings.verbosity + count) 255 } := by
  induction count with
  | zero =>
      have same : min settings.verbosity 255 = settings.verbosity := by omega
      rw [Nat.add_zero, same]
      rfl
  | succ count ih =>
      rw [Nat.repeat, ih]
      have more : louder (min (settings.verbosity + count) 255) =
          min (settings.verbosity + (count + 1)) 255 := by
        rw [louder]
        omega
      exact congrArg (fun verbosity => { settings with verbosity }) more

/-- What stands on a command line for options: flags alone, or an option and its value, which may
have flags in front. -/
inductive Item where
  | flags (more : Nat)
  | valued (choice : Choice) (front : Nat) (form : Form) (value : Bytes)
  deriving DecidableEq, Repr

namespace Item

def words : Item → List Bytes
  | .flags more => [hyphen :: List.replicate (more + 1) flagLetter]
  | .valued choice front form value =>
      form.wordsBehind (List.replicate front flagLetter) choice.letter choice.word value

/-- Flags stand in front of letters only, and the value is not taken for something else. -/
def Fits : Item → Prop
  | .flags _ => True
  | .valued _ front form value => form.Fits value ∧ (front = 0 ∨ form.IsShort)

def count : Item → Nat
  | .flags more => more + 1
  | .valued _ front _ _ => front

def value? (choice : Choice) : Item → Option Bytes
  | .flags _ => none
  | .valued other _ _ value => if choice = other then some value else none

def apply : Item → ReapSettings → Except UsageError ReapSettings
  | .flags more, settings => .ok (Nat.repeat louderStill (more + 1) settings)
  | .valued choice front _ value, settings =>
      choice.apply value (Nat.repeat louderStill front settings)

/-- Reading an item is taking up what it says. -/
theorem reaches {item : Item} (fits : item.Fits) {state : State ReapSettings}
    {result : Except UsageError ReapSettings} (comes : state.Comes result) (rest : List Bytes) :
    Reaches grammar state (item.words ++ rest) rest (result.bind item.apply) := by
  cases item with
  | flags more =>
      have all : result.bind (Item.flags more).apply =
          result.map (Nat.repeat louderStill (more + 1)) := by cases result <;> rfl
      rw [all]
      exact flags_louder.reaches comes more rest
  | valued choice front form value =>
      have cut : result.bind (Item.valued choice front form value).apply =
          (result.map (Nat.repeat louderStill front)).bind (choice.apply value) := by
        cases result <;> rfl
      obtain ⟨placed, rfl | short⟩ := fits
      · have same : result.map (Nat.repeat louderStill 0) = result := by cases result <;> rfl
        rw [cut, words, same, List.replicate_zero, Form.words_behind_nothing]
        exact choice.takes.reaches comes placed rest
      · rw [cut]
        refine choice.takes.reaches_behind (flags_louder.clears comes front) ?_ short placed rest
        intro member
        have same := List.eq_of_mem_replicate member
        exact absurd same (by decide)

theorem apply_times {item : Item} {settings next : ReapSettings}
    (applied : item.apply settings = .ok next) (choice : Choice) :
    choice.times next = choice.times settings + (item.value? choice).toList.length ∧
      ∀ value ∈ item.value? choice, choice.Means value := by
  have louder (count : Nat) :
      choice.times (Nat.repeat louderStill count settings) = choice.times settings := by
    induction count with
    | zero => rfl
    | succ count ih => cases choice <;> exact ih
  cases item with
  | flags more =>
      cases applied
      refine ⟨louder (more + 1), fun value given => ?_⟩
      cases given
  | valued other front form value =>
      obtain ⟨means, times⟩ := Choice.apply_times applied
      rw [times choice, louder front, value?]
      by_cases same : choice = other
      · rw [if_pos same, if_pos same]
        subst same
        refine ⟨rfl, fun given member => ?_⟩
        cases member
        exact means
      · rw [if_neg same, if_neg same]
        refine ⟨rfl, fun given member => ?_⟩
        cases member

end Item

def values (choice : Choice) (items : List Item) : List Bytes := items.filterMap (Item.value? choice)

def flagCount : List Item → Nat
  | [] => 0
  | item :: rest => item.count + flagCount rest

def applyAll : List Item → ReapSettings → Except UsageError ReapSettings
  | [], settings => .ok settings
  | item :: rest, settings => (item.apply settings).bind (applyAll rest)

/-- How a command stands behind the options. -/
inductive Follows : List Bytes → List Bytes → Prop where
  | nothing : Follows [] []
  | marked (command : List Bytes) : Follows command ([hyphen, hyphen] :: command)
  | bare {first : Bytes} (rest : List Bytes)
      (plain : first = [hyphen] ∨ first.head? ≠ some hyphen) :
      Follows (first :: rest) (first :: rest)

theorem reaches_all (items : List Item) (fit : ∀ item ∈ items, item.Fits)
    {state : State ReapSettings} {result : Except UsageError ReapSettings}
    (comes : state.Comes result) (rest : List Bytes) :
    Reaches grammar state (items.flatMap Item.words ++ rest) rest
      (result.bind (applyAll items)) := by
  induction items generalizing state result with
  | nil =>
      have same : result.bind (applyAll []) = result := by cases result <;> rfl
      rw [same]
      exact Or.inr ⟨state, comes, rfl⟩
  | cons item items ih =>
      have cut : result.bind (applyAll (item :: items)) =
          (result.bind item.apply).bind (applyAll items) := by cases result <;> rfl
      rw [cut, List.flatMap_cons, List.append_assoc]
      rcases item.reaches (fit item List.mem_cons_self) comes (items.flatMap Item.words ++ rest)
        with ⟨error, failed, read⟩ | ⟨after, goesOn, read⟩
      · exact Or.inl ⟨error, by rw [failed]; rfl, read⟩
      · have later := ih (fun other member => fit other (List.mem_cons_of_mem item member)) goesOn
        rw [Reaches, read]
        exact later

theorem shape_plain_iff (first : Bytes) :
    shape first = .plain ↔ first = [hyphen] ∨ first.head? ≠ some hyphen := by
  cases first with
  | nil => simp [shape]
  | cons head rest =>
      cases rest with
      | nil =>
          have always : head = hyphen ∨ head ≠ hyphen := Decidable.em _
          simpa [shape] using always
      | cons second rest =>
          rw [shape]
          by_cases same : head = hyphen
          · rw [if_neg (fun differs => differs same)]
            simp only [same, List.cons.injEq, reduceCtorEq, and_false, false_or, List.head?_cons,
              ne_eq, not_true_eq_false, iff_false]
            split
            · simp
            · split <;> simp
          · simp [same]

theorem read_follows {command tail : List Bytes} (follows : Follows command tail)
    {state : State ReapSettings} {result : Except UsageError ReapSettings}
    (comes : state.Comes result) :
    readFrom grammar state tail = Arguments.usage (result.map (·, command)) := by
  cases follows with
  | nothing => exact comes.finish rfl []
  | marked command =>
      have shaped : shape [hyphen, hyphen] = .separator := rfl
      rw [readFrom, shaped]
      exact comes.finish rfl command
  | bare rest plain => exact comes.read_command rfl ((shape_plain_iff _).mpr plain) rest

/-- A command line is read as what its options come to, and as its command. -/
theorem read_items {items : List Item} (fit : ∀ item ∈ items, item.Fits)
    {command tail : List Bytes} (follows : Follows command tail) :
    read (items.flatMap Item.words ++ tail) =
      Arguments.usage ((applyAll items {}).map (·, command)) := by
  have start : State.Comes { settings := ({} : ReapSettings) } (.ok {}) := reads_start
  rcases reaches_all items fit start tail with ⟨error, failed, stopped⟩ | ⟨after, comes, goesOn⟩
  · have failed : applyAll items {} = .error error := failed
    rw [failed]
    exact stopped
  · exact goesOn.trans (read_follows follows comes)

theorem values_cons (choice : Choice) (item : Item) (items : List Item) :
    values choice (item :: items) = (item.value? choice).toList ++ values choice items := by
  rw [values, List.filterMap_cons]
  cases item.value? choice <;> rfl

/-- Where nothing is refused, each option is given once at most, and with a value for it. -/
theorem apply_all_times {items : List Item} {settings next : ReapSettings}
    (applied : applyAll items settings = .ok next) (choice : Choice) :
    choice.times next = choice.times settings + (values choice items).length ∧
      ∀ value ∈ values choice items, choice.Means value := by
  induction items generalizing settings with
  | nil =>
      cases applied
      exact ⟨rfl, fun value member => absurd member List.not_mem_nil⟩
  | cons item items ih =>
      rw [applyAll] at applied
      cases taken : item.apply settings with
      | error error =>
          rw [taken] at applied
          cases applied
      | ok between =>
          rw [taken] at applied
          obtain ⟨times, means⟩ := Item.apply_times taken choice
          obtain ⟨later, rest⟩ := ih applied
          rw [values_cons, List.length_append, later, times, Nat.add_assoc]
          refine ⟨rfl, fun value member => ?_⟩
          rcases List.mem_append.mp member with here | there
          · exact means value (Option.mem_toList.mp here)
          · exact rest value there

def Given {α : Type} (means : Bytes → α → Prop) (texts : List Bytes) : Option α → Prop
  | none => texts = []
  | some wish => ∃ text, texts = [text] ∧ means text wish

theorem Given.of_cons {α : Type} {means : Bytes → α → Prop} {text : Bytes} {texts : List Bytes}
    {wish : Option α} (given : Given means (text :: texts) wish) :
    ∃ meant, wish = some meant ∧ means text meant ∧ Given means texts none := by
  cases wish with
  | none => cases given
  | some meant =>
      obtain ⟨single, same, holds⟩ := given
      obtain ⟨rfl, rfl⟩ := List.cons.inj same
      exact ⟨meant, rfl, holds, rfl⟩

/-- Options that are given once at most, and with values for them, are all taken up. -/
theorem apply_all_given (items : List Item) {settings : ReapSettings} {low : Option Int}
    {tier : Option Tier} (lows : Given MeansLowfd (values .lowfd items) low)
    (tiers : Given MeansTier (values .tier items) tier)
    (noLow : low ≠ none → settings.lowfd = none) (noTier : tier ≠ none → settings.tier = none)
    (fits : settings.verbosity ≤ 255) :
    applyAll items settings = .ok
      { lowfd := low.or settings.lowfd
        tier := tier.or settings.tier
        verbosity := min (settings.verbosity + flagCount items) 255 } := by
  induction items generalizing settings low tier with
  | nil =>
      cases low with
      | some _ =>
          obtain ⟨_, same, -⟩ := lows
          cases same
      | none =>
          cases tier with
          | some _ =>
              obtain ⟨_, same, -⟩ := tiers
              cases same
          | none =>
              have same : min settings.verbosity 255 = settings.verbosity := by omega
              change Except.ok settings = .ok { settings with
                verbosity := min settings.verbosity 255 }
              rw [same]
  | cons item items ih =>
      rw [values_cons] at lows tiers
      have most (front : Nat) : min (min (settings.verbosity + front) 255 + flagCount items) 255 =
          min (settings.verbosity + (front + flagCount items)) 255 := by omega
      rw [applyAll, flagCount, ← most]
      cases item with
      | flags more =>
          rw [Item.apply, repeat_louder (more + 1) settings fits]
          exact ih lows tiers noLow noTier (Nat.min_le_right _ _)
      | valued choice front form value =>
          let louder : ReapSettings :=
            { settings with verbosity := min (settings.verbosity + front) 255 }
          have less : louder.verbosity ≤ 255 := Nat.min_le_right _ _
          rw [Item.apply, repeat_louder front settings fits]
          cases choice with
          | lowfd =>
              obtain ⟨number, rfl, ⟨spelled, holds⟩, rest⟩ := Given.of_cons lows
              have taken : setLowfd value louder = .ok { louder with lowfd := some number } :=
                (set_lowfd_iff value _ _).mpr ⟨noLow (by simp), number, spelled, holds, rfl⟩
              change (setLowfd value louder).bind (applyAll items) = _
              rw [taken]
              exact ih rest tiers (fun wish => absurd rfl wish) noTier less
          | tier =>
              obtain ⟨named, rfl, means, rest⟩ := Given.of_cons tiers
              have taken : setTier value louder = .ok { louder with tier := some named } :=
                (set_tier_iff value _ _).mpr ⟨noTier (by simp), named, means, rfl⟩
              change (setTier value louder).bind (applyAll items) = _
              rw [taken]
              exact ih lows rest noLow (fun wish => absurd rfl wish) less

theorem apply_all_refuses {items : List Item} {choice : Choice}
    (fault : 2 ≤ (values choice items).length ∨ ∃ value ∈ values choice items, ¬ choice.Means value) :
    ∃ error, applyAll items {} = .error error := by
  cases applied : applyAll items {} with
  | error error => exact ⟨error, rfl⟩
  | ok settings =>
      obtain ⟨times, means⟩ := apply_all_times applied choice
      rcases fault with repeated | ⟨value, member, meaningless⟩
      · have once := choice.times_once settings
        omega
      · exact absurd (means value member) meaningless

/-- However a command line is written, what is read is what was meant: the options, the flags as far
as a byte can count them, and the command as it stands. Where an option is given twice, or a value
that is none for it, the line is refused, and the program ends with a complaint before it closes
anything. -/
theorem command_line_read_back (items : List Item) (fit : ∀ item ∈ items, item.Fits)
    (command tail : List Bytes) (follows : Follows command tail) :
    (∀ low tier, Given MeansLowfd (values .lowfd items) low →
        Given MeansTier (values .tier items) tier →
        ∃ settings, read (items.flatMap Item.words ++ tail) = .ok (settings, command) ∧
          settings.threshold = low.getD 3 ∧ settings.tier = tier ∧
          settings.verbosity = min (flagCount items) 255) ∧
      ∀ choice, (2 ≤ (values choice items).length ∨
          ∃ value ∈ values choice items, ¬ choice.Means value) →
        (∃ error, read (items.flatMap Item.words ++ tail) = .error (.usage error)) ∧
          ∀ (spawn : Spawn) (name : Bytes) (console : Console), console.Ready →
            ∃ after, Program.turn spawn .reaper name (items.flatMap Item.words ++ tail) console =
                (.ends (.exited 2), after) ∧ after.process = console.process := by
  have comesTo := read_items fit follows
  constructor
  · intro low tier lows tiers
    have applied : applyAll items {} = .ok _ :=
      apply_all_given items lows tiers (fun _ => rfl) (fun _ => rfl) (Nat.zero_le _)
    rw [applied] at comesTo
    refine ⟨_, comesTo, ?_, ?_, ?_⟩
    · change (low.or none).getD 3 = _
      rw [Option.or_none]
    · exact Option.or_none
    · change min (0 + flagCount items) 255 = _
      rw [Nat.zero_add]
  · intro choice fault
    obtain ⟨error, failed⟩ := apply_all_refuses fault
    rw [failed] at comesTo
    have refused : read (items.flatMap Item.words ++ tail) = .error (.usage error) := comesTo
    exact ⟨⟨error, refused⟩, fun spawn name console ready =>
      Program.turn_refused ready spawn name refused⟩

def gathered : List Item :=
  [.valued .tier 2 .separate (Utf8.encode "fd-dir"), .flags 0,
    .valued .lowfd 0 .attached (Utf8.encode "-05")]

def doubled : List Item :=
  [.valued .lowfd 0 .separate (Utf8.encode "5"), .valued .lowfd 0 .wordAssigned (Utf8.encode "+6")]

theorem gathered_read_back :
    let command := ["-", "--", "-h", "--lowfd=7"].map Utf8.encode ++ [[255]]
    let start := Console.start Installation.usualHome [] 64 none
    (∃ settings, read (["-vvt", "fd-dir", "-v", "-l-05"].map Utf8.encode ++ command) =
        .ok (settings, command) ∧
      settings.threshold = -5 ∧ settings.tier = some .listing ∧ settings.verbosity = 3) ∧
      (∃ error, read (["-l", "5", "--lowfd=+6"].map Utf8.encode) = .error (.usage error)) ∧
      ∃ after, Program.turn (Program.run 0) .reaper []
        (["-l", "5", "--lowfd=+6"].map Utf8.encode) start = (.ends (.exited 2), after) ∧
          after.process = start.process := by
  intro command start
  have ready : start.Ready :=
    Console.start_ready (fun file member => absurd member List.not_mem_nil) (by decide) rfl
  have fit : ∀ item ∈ gathered, item.Fits := by
    simp only [gathered, List.forall_mem_cons]
    refine ⟨⟨rfl, Or.inr trivial⟩, trivial, ⟨⟨by decide, by decide⟩, Or.inl rfl⟩, ?_⟩
    exact fun item member => absurd member List.not_mem_nil
  have follows : Follows command command := .bare _ (Or.inl rfl)
  have digits : Decimal.Spells (Utf8.encode "-05") (-5) := .minus (by decide) (by decide)
  obtain ⟨reads, -⟩ := command_line_read_back gathered fit command command follows
  have fitDoubled : ∀ item ∈ doubled, item.Fits := by
    simp only [doubled, List.forall_mem_cons]
    refine ⟨⟨rfl, Or.inl rfl⟩, ⟨trivial, Or.inl rfl⟩, ?_⟩
    exact fun item member => absurd member List.not_mem_nil
  obtain ⟨-, refuses⟩ := command_line_read_back doubled fitDoubled [] [] .nothing
  obtain ⟨refused, ends⟩ := refuses .lowfd (Or.inl (by decide))
  exact ⟨reads (some (-5)) (some .listing) ⟨_, rfl, digits, by decide⟩ ⟨_, rfl, rfl⟩, refused,
    ends (Program.run 0) [] start ready⟩

end ReapSettings

end DescriptorReaper
