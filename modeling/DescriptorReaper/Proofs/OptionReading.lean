import DescriptorReaper.Options
import DescriptorReaper.Proofs.EncodedText
import DescriptorReaper.Proofs.Numerals

/-!
Reading options one after the other. An option that waits for its value, or has it but has not been
taken up, leaves a state in which the settings are not yet what they will be. What carries the
reading of one option over to the next is what the settings come to once such an option is settled,
or the fault that shows then.
-/

namespace DescriptorReaper

namespace Arguments

variable {σ : Type}

def State.Reads (state : State σ) (settings : σ) : Prop :=
  ∃ used, state.settle = .ok { settings, used }

def State.Comes (state : State σ) : Except UsageError σ → Prop
  | .ok settings => state.Reads settings
  | .error error => ∃ shown apply value,
      state.waiting = some { shown, apply, value := some value } ∧
        apply value state.settings = .error error

inductive Form where
  | attached
  | assigned
  | separate
  | wordAssigned
  | wordSeparate
  deriving DecidableEq, Repr

def Form.IsShort : Form → Prop
  | .attached | .assigned | .separate => True
  | .wordAssigned | .wordSeparate => False

def Form.words (form : Form) (letter : UInt8) (word : String) (value : Bytes) : List Bytes :=
  match form with
  | .attached => [hyphen :: letter :: value]
  | .assigned => [hyphen :: letter :: equals :: value]
  | .separate => [[hyphen, letter], value]
  | .wordAssigned => [hyphen :: hyphen :: Utf8.encode word ++ equals :: value]
  | .wordSeparate => [hyphen :: hyphen :: Utf8.encode word, value]

def Form.wordsBehind (front : Bytes) (form : Form) (letter : UInt8) (word : String)
    (value : Bytes) : List Bytes :=
  match form with
  | .attached => [hyphen :: (front ++ letter :: value)]
  | .assigned => [hyphen :: (front ++ letter :: equals :: value)]
  | .separate => [hyphen :: (front ++ [letter]), value]
  | .wordAssigned | .wordSeparate => form.words letter word value

theorem Form.words_behind_nothing (form : Form) (letter : UInt8) (word : String) (value : Bytes) :
    form.wordsBehind [] letter word value = form.words letter word value := by
  cases form <;> rfl

def Form.Fits (value : Bytes) : Form → Prop
  | .attached => value ≠ [] ∧ value.head? ≠ some equals
  | .assigned | .wordAssigned => True
  | .separate | .wordSeparate => shape value = .plain

structure Grammar.Takes (grammar : Grammar σ) (letter : UInt8) (word shown : String)
    (apply : Bytes → σ → Except UsageError σ) : Prop where
  ascii : letter.toNat < 128
  notHyphen : letter ≠ hyphen
  letter : grammar.letter (Char.ofNat letter.toNat) = some (.valued shown apply)
  notEmpty : Utf8.encode word ≠ []
  noEquals : equals ∉ Utf8.encode word
  word : grammar.words.lookup word = some (.valued shown apply)

structure Grammar.Flags (grammar : Grammar σ) (letter : UInt8) (shown : String) (step : σ → σ) :
    Prop where
  ascii : letter.toNat < 128
  notHyphen : letter ≠ hyphen
  letter : grammar.letter (Char.ofNat letter.toNat) = some (.flag shown fun settings => .ok (step settings))

section Results

variable {grammar : Grammar σ} {state : State σ} {result : Except UsageError σ}

def Outcome (read : Except Stop (State σ)) (result : Except UsageError σ) : Prop :=
  (∃ error, result = .error error ∧ read = .error (.usage error)) ∨
    ∃ after, after.Comes result ∧ read = .ok after

/-- Reading stops over the fault, or goes on with the rest in a state that has come to the result.
-/
def Reaches (grammar : Grammar σ) (state : State σ) (arguments rest : List Bytes)
    (result : Except UsageError σ) : Prop :=
  (∃ error, result = .error error ∧ readFrom grammar state arguments = .error (.usage error)) ∨
    ∃ after, after.Comes result ∧ readFrom grammar state arguments = readFrom grammar after rest

def Clears (grammar : Grammar σ) (state : State σ) (front : Bytes) (result : Except UsageError σ) :
    Prop :=
  ∀ letters,
    (∃ error, result = .error error ∧
      readCluster grammar (front ++ letters) state = .error (.usage error)) ∨
    ∃ after, after.Comes result ∧
      readCluster grammar (front ++ letters) state = readCluster grammar letters after

theorem Outcome.reaches {read : Except Stop (State σ)} (outcome : Outcome read result)
    {arguments rest : List Bytes}
    (goes : readFrom grammar state arguments = read.bind (readFrom grammar · rest)) :
    Reaches grammar state arguments rest result := by
  rcases outcome with ⟨error, failed, rfl⟩ | ⟨after, comes, rfl⟩
  · exact Or.inl ⟨error, failed, goes⟩
  · exact Or.inr ⟨after, comes, goes⟩

theorem reads_start {settings : σ} : State.Reads { settings } settings := ⟨[], rfl⟩

variable (comes : state.Comes result)
include comes

/-- In such a state no option lacks its value. -/
theorem State.Comes.not_lacking {shown : String} {apply : Bytes → σ → Except UsageError σ} :
    state.waiting ≠ some { shown, apply, value := none } := by
  intro lacking
  cases result with
  | ok settings =>
      obtain ⟨used, settled⟩ := comes
      rw [State.settle, lacking] at settled
      cases settled
  | error error =>
      obtain ⟨other, faulty, value, waiting, -⟩ := comes
      rw [lacking] at waiting
      cases waiting

theorem State.Comes.settles :
    (∃ settings used, result = .ok settings ∧ state.settle = .ok { settings, used }) ∨
      ∃ error, result = .error error ∧ state.settle = .error (.usage error) := by
  cases result with
  | ok settings =>
      obtain ⟨used, settled⟩ := comes
      exact Or.inl ⟨settings, used, rfl, settled⟩
  | error error =>
      obtain ⟨shown, apply, value, waiting, failed⟩ := comes
      refine Or.inr ⟨error, rfl, ?_⟩
      rw [State.settle, waiting]
      dsimp only
      rw [failed]

/-- The end of the options shows what reading has come to. -/
theorem State.Comes.finish (takes : grammar.takesCommand = true) (command : List Bytes) :
    finish grammar state command = usage (result.map (·, command)) := by
  have shows : state.settle.map (fun state => (state.settings, command)) =
      usage (result.map (·, command)) := by
    rcases comes.settles with ⟨settings, used, rfl, settled⟩ | ⟨error, rfl, settled⟩
    · rw [settled]
      rfl
    · rw [settled]
      rfl
  cases command with
  | nil => exact shows
  | cons first rest => exact (if_pos takes).trans shows

/-- The first argument that belongs to no option begins the command. -/
theorem State.Comes.read_command (takes : grammar.takesCommand = true) {first : Bytes}
    (plain : shape first = .plain) (rest : List Bytes) :
    readFrom grammar state (first :: rest) = usage (result.map (·, first :: rest)) := by
  rw [readFrom, plain]
  dsimp only
  split
  next waiting => exact absurd waiting comes.not_lacking
  next => exact comes.finish takes (first :: rest)

theorem State.Comes.flag (shown : String) (step : σ → σ) :
    Outcome (state.flag shown fun settings => .ok (step settings)) (result.map step) := by
  rcases comes.settles with ⟨settings, used, rfl, settled⟩ | ⟨error, rfl, settled⟩
  · refine Or.inr ⟨{ settings := step settings, used := latest used shown }, ⟨_, rfl⟩, ?_⟩
    rw [State.flag, settled]
    rfl
  · refine Or.inl ⟨error, rfl, ?_⟩
    rw [State.flag, settled]
    rfl

variable (shown : String) (apply : Bytes → σ → Except UsageError σ) (value : Bytes)

theorem State.Comes.valued_attached :
    Outcome (state.valued shown apply (some value)) (result.bind (apply value)) := by
  rcases comes.settles with ⟨settings, used, rfl, settled⟩ | ⟨error, rfl, settled⟩
  · have taken : state.valued shown apply (some value) =
        (usage (apply value settings)).map fun settings =>
          { settings, used := latest used shown } := by
      rw [State.valued, settled]
      change (usage (apply value settings)).bind _ = _
      cases apply value settings <;> rfl
    rw [taken]
    change Outcome _ (apply value settings)
    cases apply value settings with
    | ok next => exact Or.inr ⟨_, ⟨_, rfl⟩, rfl⟩
    | error error => exact Or.inl ⟨error, rfl, rfl⟩
  · refine Or.inl ⟨error, rfl, ?_⟩
    rw [State.valued, settled]
    rfl

variable (grammar) {value} in
/-- An option without an attached value takes the next argument for it. A fault of that value does
not show before the next option is reached, or the end. -/
theorem State.Comes.valued_separate (plain : shape value = .plain) (rest : List Bytes) :
    (∃ error, result.bind (apply value) = .error error ∧
        state.valued shown apply none = .error (.usage error)) ∨
      ∃ between, state.valued shown apply none = .ok between ∧
        Reaches grammar between (value :: rest) rest (result.bind (apply value)) := by
  rcases comes.settles with ⟨settings, used, rfl, settled⟩ | ⟨error, rfl, settled⟩
  · refine Or.inr ⟨{ settings, used, waiting := some { shown, apply, value := none } }, ?_,
      Or.inr ⟨{ settings, used, waiting := some { shown, apply, value := some value } }, ?_, ?_⟩⟩
    · rw [State.valued, settled]
      rfl
    · change State.Comes _ (apply value settings)
      cases applied : apply value settings with
      | ok next =>
          refine ⟨latest used shown, ?_⟩
          unfold State.settle
          dsimp only
          rw [applied]
      | error error => exact ⟨shown, apply, value, rfl, applied⟩
    · rw [readFrom, plain]
  · refine Or.inl ⟨error, rfl, ?_⟩
    rw [State.valued, settled]
    rfl

theorem State.Comes.clears_nothing : Clears grammar state [] result := fun _ =>
  Or.inr ⟨state, comes, rfl⟩

end Results

section Options

variable {grammar : Grammar σ} {letter : UInt8} {word shown : String}
  {apply : Bytes → σ → Except UsageError σ} {step : σ → σ} {state : State σ}
  {result : Except UsageError σ}

theorem read_cluster {first : UInt8} (notHyphen : first ≠ hyphen) (letters : Bytes)
    (later : List Bytes) :
    readFrom grammar state ((hyphen :: first :: letters) :: later) =
      (readCluster grammar (first :: letters) state).bind (readFrom grammar · later) := by
  have clustered : shape (hyphen :: first :: letters) = .cluster (first :: letters) := by
    rw [shape, if_neg (fun differs => differs rfl), if_pos notHyphen]
  rw [readFrom, clustered]
  dsimp only
  cases readCluster grammar (first :: letters) state <;> rfl

theorem read_cluster_nil (state : State σ) : readCluster grammar [] state = .ok state := by
  rw [readCluster]
  split
  next => exact if_pos rfl
  next found => cases found

/-- However often a flag is repeated in a cluster, each letter counts. -/
theorem Grammar.Flags.clears (flags : grammar.Flags letter shown step) (comes : state.Comes result)
    (count : Nat) :
    Clears grammar state (List.replicate count letter) (result.map (Nat.repeat step count)) := by
  induction count with
  | zero =>
      intro letters
      refine Or.inr ⟨state, ?_, rfl⟩
      cases result <;> exact comes
  | succ count ih =>
      intro letters
      have more : result.map (Nat.repeat step (count + 1)) =
          (result.map (Nat.repeat step count)).map step := by cases result <;> rfl
      rw [List.replicate_succ', List.append_assoc, more]
      rcases ih ([letter] ++ letters) with ⟨error, failed, read⟩ | ⟨after, reached, read⟩
      · exact Or.inl ⟨error, by rw [failed]; rfl, read⟩
      · have taken : readCluster grammar (letter :: letters) after =
            (after.flag shown fun settings => .ok (step settings)).bind
              (readCluster grammar letters) := by
          rw [readCluster]
          split
          next missing =>
            rw [Utf8.uncons_plain flags.ascii] at missing
            cases missing
          next found =>
            rw [Utf8.uncons_plain flags.ascii] at found
            cases found
            rw [flags.letter]
            dsimp only
            cases after.flag shown fun settings => .ok (step settings) <;> rfl
        rcases reached.flag shown step with ⟨error, failed, flagged⟩ | ⟨next, goesOn, flagged⟩
        · refine Or.inl ⟨error, failed, read.trans (taken.trans ?_)⟩
          rw [flagged]
          rfl
        · refine Or.inr ⟨next, goesOn, read.trans (taken.trans ?_)⟩
          rw [flagged]
          rfl

/-- Nothing but flags, and at least one. -/
theorem Grammar.Flags.reaches (flags : grammar.Flags letter shown step) (comes : state.Comes result)
    (count : Nat) (rest : List Bytes) :
    Reaches grammar state ((hyphen :: List.replicate (count + 1) letter) :: rest) rest
      (result.map (Nat.repeat step (count + 1))) := by
  have clears := flags.clears comes (count + 1) []
  rw [List.append_nil, List.replicate_succ] at clears
  rw [List.replicate_succ]
  refine Outcome.reaches ?_ (read_cluster flags.notHyphen (List.replicate count letter) rest)
  rcases clears with ⟨error, failed, read⟩ | ⟨after, reached, read⟩
  · exact Or.inl ⟨error, failed, read⟩
  · exact Or.inr ⟨after, reached, read.trans (read_cluster_nil after)⟩

variable (takes : grammar.Takes letter word shown apply)
include takes

theorem Grammar.Takes.cluster (rest : Bytes) (state : State σ) :
    readCluster grammar (letter :: rest) state = state.valued shown apply (attachedTo rest) := by
  rw [readCluster]
  split
  next missing =>
    rw [Utf8.uncons_plain takes.ascii] at missing
    cases missing
  next found =>
    rw [Utf8.uncons_plain takes.ascii] at found
    cases found
    rw [takes.letter]

-- Without an equals sign in it, the word ends where the argument does, or at the sign.
theorem Grammar.Takes.shape_word (value : Bytes) :
    shape (hyphen :: hyphen :: Utf8.encode word) = .word (Utf8.encode word) none ∧
      shape (hyphen :: hyphen :: Utf8.encode word ++ equals :: value) =
        .word (Utf8.encode word) (some value) := by
  have all : ∀ byte ∈ Utf8.encode word, decide (byte ≠ equals) = true := fun byte member =>
    decide_eq_true fun same => takes.noEquals (same ▸ member)
  have taken (rest : Bytes) : (Utf8.encode word ++ rest).takeWhile (· ≠ equals) =
      Utf8.encode word ++ rest.takeWhile (· ≠ equals) := List.takeWhile_append_of_pos all
  have dropped (rest : Bytes) : (Utf8.encode word ++ rest).dropWhile (· ≠ equals) =
      rest.dropWhile (· ≠ equals) := List.dropWhile_append_of_pos all
  constructor
  · have none := taken []
    have nothing := dropped []
    rw [List.append_nil] at none nothing
    rw [shape, if_neg (fun differs => differs rfl), if_neg (fun differs => differs rfl),
      if_neg takes.notEmpty, none, nothing]
    simp
  · rw [List.cons_append, List.cons_append, shape, if_neg (fun differs => differs rfl),
      if_neg (fun differs => differs rfl), if_neg (by simp), taken, dropped]
    simp

theorem Grammar.Takes.known {argument : Bytes} {value : Option Bytes}
    (shaped : shape argument = .word (Utf8.encode word) value) (state : State σ)
    (later : List Bytes) :
    readFrom grammar state (argument :: later) =
      (state.valued shown apply value).bind (readFrom grammar · later) := by
  have found : readWord grammar (Utf8.encode word) value state =
      state.valued shown apply value := by
    unfold readWord
    rw [Utf8.isText_encode, Utf8.display_encode, if_pos rfl, takes.word]
  rw [readFrom, shaped]
  dsimp only
  rw [found]
  cases state.valued shown apply value <;> rfl

/-- An option by its letter is read to the end of its value, whatever flags stand in front. -/
theorem Grammar.Takes.reaches_behind {front : Bytes} (clears : Clears grammar state front result)
    (noHyphen : hyphen ∉ front) {form : Form} (short : form.IsShort) {value : Bytes}
    (fits : form.Fits value) (rest : List Bytes) :
    Reaches grammar state (form.wordsBehind front letter word value ++ rest) rest
      (result.bind (apply value)) := by
  have read (cut : Bytes) (later : List Bytes) :
      readFrom grammar state ((hyphen :: (front ++ letter :: cut)) :: later) =
        (readCluster grammar (front ++ letter :: cut) state).bind (readFrom grammar · later) := by
    cases front with
    | nil => exact read_cluster takes.notHyphen cut later
    | cons first others =>
        exact read_cluster (fun same => noHyphen (same ▸ List.mem_cons_self)) _ later
  have attached (cut : Bytes) (whole : attachedTo cut = some value) :
      Reaches grammar state ((hyphen :: (front ++ letter :: cut)) :: rest) rest
        (result.bind (apply value)) := by
    rcases clears (letter :: cut) with ⟨error, rfl, failed⟩ | ⟨after, comes, goesOn⟩
    · exact Outcome.reaches (Or.inl ⟨error, rfl, failed⟩) (read cut rest)
    · rw [takes.cluster, whole] at goesOn
      refine Outcome.reaches (comes.valued_attached shown apply value) ?_
      rw [read, goesOn]
  cases form with
  | attached =>
      obtain ⟨notEmpty, noEquals⟩ := fits
      refine attached value ?_
      cases value with
      | nil => exact absurd rfl notEmpty
      | cons first others => exact if_neg fun same => noEquals (congrArg some same)
  | assigned => exact attached (equals :: value) (by rw [attachedTo, if_pos rfl])
  | separate =>
      change Reaches grammar state ((hyphen :: (front ++ [letter])) :: value :: rest) rest _
      rcases clears [letter] with ⟨error, rfl, failed⟩ | ⟨after, comes, goesOn⟩
      · refine Or.inl ⟨error, rfl, ?_⟩
        rw [read, failed]
        rfl
      · rw [takes.cluster] at goesOn
        rcases comes.valued_separate grammar shown apply fits rest with
          ⟨error, failed, stopped⟩ | ⟨between, opened, reaches⟩
        · refine Or.inl ⟨error, failed, ?_⟩
          rw [read, goesOn]
          exact congrArg (Except.bind · _) stopped
        · have same : readFrom grammar state ((hyphen :: (front ++ [letter])) :: value :: rest) =
              readFrom grammar between (value :: rest) := by
            rw [read, goesOn]
            exact congrArg (Except.bind · _) opened
          rw [Reaches, same]
          exact reaches
  | wordAssigned => exact short.elim
  | wordSeparate => exact short.elim

/-- An option is read to the end of its value, whatever its form. -/
theorem Grammar.Takes.reaches (comes : state.Comes result) {form : Form} {value : Bytes}
    (fits : form.Fits value) (rest : List Bytes) :
    Reaches grammar state (form.words letter word value ++ rest) rest
      (result.bind (apply value)) := by
  have behind (short : form.IsShort) :
      Reaches grammar state (form.words letter word value ++ rest) rest
        (result.bind (apply value)) := by
    rw [← form.words_behind_nothing]
    exact takes.reaches_behind comes.clears_nothing List.not_mem_nil short fits rest
  cases form with
  | attached => exact behind trivial
  | assigned => exact behind trivial
  | separate => exact behind trivial
  | wordAssigned =>
      exact Outcome.reaches (comes.valued_attached shown apply value)
        (takes.known (takes.shape_word value).2 state rest)
  | wordSeparate =>
      have read := takes.known (takes.shape_word value).1 state (value :: rest)
      change Reaches grammar state ((hyphen :: hyphen :: Utf8.encode word) :: value :: rest) rest _
      rcases comes.valued_separate grammar shown apply fits rest with
        ⟨error, failed, stopped⟩ | ⟨between, opened, reaches⟩
      · refine Or.inl ⟨error, failed, ?_⟩
        rw [read, stopped]
        rfl
      · have same : readFrom grammar state
            ((hyphen :: hyphen :: Utf8.encode word) :: value :: rest) =
            readFrom grammar between (value :: rest) := by
          rw [read, opened]
          rfl
        rw [Reaches, same]
        exact reaches

end Options

end Arguments

/-! The options of the program that closes descriptors. -/

namespace ReapSettings

open Arguments (Form)

theorem takes_lowfd : grammar.Takes 108 "lowfd" lowfdOption setLowfd where
  ascii := by decide
  notHyphen := by decide
  letter := rfl
  notEmpty := by decide
  noEquals := by decide
  word := rfl

theorem takes_tier : grammar.Takes 116 "tier" tierOption setTier where
  ascii := by decide
  notHyphen := by decide
  letter := rfl
  notEmpty := by decide
  noEquals := by decide
  word := rfl

theorem digits_fit (low : Nat) : Form.separate.Fits (Decimal.digits low) := by
  obtain ⟨first, rest, split, digit⟩ := Decimal.digits_head low
  change Arguments.shape (Decimal.digits low) = .plain
  rw [split]
  cases rest with
  | nil => rfl
  | cons second rest =>
      refine if_pos fun same => ?_
      rw [same] at digit
      exact absurd digit (by decide)

theorem tier_name_fits (form : Form) (tier : Tier) : form.Fits (Utf8.encode tier.name) := by
  cases form
  · exact ⟨by cases tier <;> decide, by cases tier <;> decide⟩
  · trivial
  · cases tier <;> rfl
  · trivial
  · cases tier <;> rfl

end ReapSettings

end DescriptorReaper
