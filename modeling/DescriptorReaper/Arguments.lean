import DescriptorReaper.Similarity
import DescriptorReaper.Styled
import DescriptorReaper.Utf8

/-!
Reading a command line. An option is a letter in a cluster, as `-vl5`, or a word, as `--lowfd=5`;
it may take a value, attached or as the next argument, and a next argument that looks like an option
is never a value. The first argument that belongs to no option ends the options, as does `--`, and
all that follows is the command, whatever it looks like.

A value that stands by itself is taken up when the next option, the command or the end is reached,
so a fault of an earlier value is reported after a later argument that no option explains.
-/

namespace DescriptorReaper

/-- Why a command line cannot be used. Where that hangs on options, the error knows which ones stood
on the command line until then. -/
inductive UsageError where
  | unexpectedArgument (shown : String) (likely : Option String) (used : List String)
  | unexpectedText (shown : String)
  | unexpectedValue (value option : String) (isFirst : Bool)
  | missingValue (option : String)
  | repeated (option : String)
  | invalidValue (value option reason : String)
  | notText
  deriving DecidableEq, Repr

namespace UsageError

open Styled (bad good heading literal)

def message : UsageError → Styled
  | .unexpectedArgument shown _ _ | .unexpectedText shown =>
      "unexpected argument '" ++ bad shown ++ "' found"
  | .unexpectedValue value option _ =>
      "unexpected value '" ++ bad value ++ "' for '" ++ literal option ++
        "' found; no more were expected"
  | .missingValue option => "a value is required for '" ++ bad option ++ "' but none was supplied"
  | .repeated option => "the argument '" ++ bad option ++ "' cannot be used multiple times"
  | .invalidValue value option reason =>
      "invalid value '" ++ bad value ++ "' for '" ++ literal option ++ "': " ++ reason
  | .notText => "invalid UTF-8 was detected in one or more arguments"

/-- How the usage of a program is shown. -/
structure Usage where
  name : String
  options : List String
  takesCommand : Bool

def optionShown (option : String) : Styled :=
  let isTyped (char : Char) : Bool := char ≠ ' ' && char ≠ '.'
  let typed := String.ofList (option.toList.takeWhile isTyped)
  literal typed ++ String.ofList (option.toList.dropWhile isTyped)

def Usage.withWords (usage : Usage) (words : List Styled) : Styled :=
  heading "Usage:" ++ " " ++ literal usage.name ++ words.flatMap fun word => ⟨.plain, " "⟩ :: word

def Usage.line (usage : Usage) (options : List String) : Styled :=
  let shown : List Styled := if options = [] then ["[OPTIONS]"] else options.map optionShown
  let command : List Styled := if usage.takesCommand then ["[COMMAND]..."] else []
  usage.withWords (shown ++ command)

def Usage.lineBeside (usage : Usage) (option : String) : Styled :=
  let others := usage.options ++ if usage.takesCommand then ["COMMAND"] else []
  usage.withWords [optionShown option, "<" ++ "|".intercalate others ++ ">"]

def tips (usage : Usage) : UsageError → List Styled
  | .unexpectedArgument shown likely _ =>
      let tip : Styled := "  " ++ good "tip:" ++ " "
      let similar := likely.toList.map fun option =>
        tip ++ "a similar argument exists: '" ++ good option ++ "'"
      let asCommand := tip ++ "to pass '" ++ bad shown ++ "' as a value, use '" ++
        good ("-- " ++ shown) ++ "'"
      similar ++ if usage.takesCommand then [asCommand] else []
  | _ => []

def usageLine? (usage : Usage) : UsageError → Option Styled
  | .unexpectedArgument _ _ used => some (usage.line used)
  | .unexpectedValue _ option isFirst =>
      some (if isFirst then usage.line [option] else usage.lineBeside option)
  | .unexpectedText _ | .repeated _ | .notText => some (usage.line [])
  | .missingValue _ | .invalidValue _ _ _ => none

def report (error : UsageError) (usage : Usage) : List Styled :=
  let tips := error.tips usage
  let usageLine := (error.usageLine? usage).toList
  let blank : Styled := []
  [Styled.styled .alarm "error:" ++ " " ++ error.message] ++
    (if tips = [] then [] else blank :: tips) ++ usageLine.flatMap ([blank, ·]) ++
    [blank, "For more information, try '" ++ literal "--help" ++ "'."]

end UsageError

inductive Stop where
  | help
  | usage (error : UsageError)
  deriving DecidableEq, Repr

namespace Arguments

inductive Effect (σ : Type) where
  | flag (shown : String) (apply : σ → Except UsageError σ)
  | valued (shown : String) (apply : Bytes → σ → Except UsageError σ)
  | help

/-- The options a program has, and whether it takes a command after them. -/
structure Grammar (σ : Type) where
  letter : Char → Option (Effect σ)
  words : List (String × Effect σ)
  takesCommand : Bool

structure Waiting (σ : Type) where
  shown : String
  apply : Bytes → σ → Except UsageError σ
  value : Option Bytes

structure State (σ : Type) where
  settings : σ
  waiting : Option (Waiting σ) := none
  used : List String := []

variable {σ : Type}

def usage : Except UsageError σ → Except Stop σ
  | .ok settings => .ok settings
  | .error error => .error (.usage error)

def latest (used : List String) (option : String) : List String :=
  used.filter (· ≠ option) ++ [option]

def State.settle (state : State σ) : Except Stop (State σ) :=
  match state.waiting with
  | none => .ok state
  | some waiting =>
      match waiting.value with
      | none => .error (.usage (.missingValue waiting.shown))
      | some value =>
          match waiting.apply value state.settings with
          | .ok settings => .ok { settings, used := latest state.used waiting.shown }
          | .error error => .error (.usage error)

def State.usedByNow (state : State σ) : List String :=
  -- The option that waits counts if it has a value, good or bad, unless it had one before.
  match state.waiting with
  | none => state.used
  | some waiting =>
      if waiting.value.isNone then state.used
      else if state.used.contains waiting.shown then state.used.filter (· ≠ waiting.shown)
      else state.used ++ [waiting.shown]

def State.flag (state : State σ) (shown : String) (apply : σ → Except UsageError σ) :
    Except Stop (State σ) := do
  let state ← state.settle
  let settings ← usage (apply state.settings)
  return { settings, used := latest state.used shown }

def State.valued (state : State σ) (shown : String) (apply : Bytes → σ → Except UsageError σ)
    (attached : Option Bytes) : Except Stop (State σ) := do
  let state ← state.settle
  match attached with
  | none => return { state with waiting := some { shown, apply, value := none } }
  | some value =>
      let settings ← usage (apply value state.settings)
      return { settings, used := latest state.used shown }

def State.help (state : State σ) : Except Stop (State σ) := do
  let _ ← state.settle
  .error .help

inductive Shape where
  | separator
  | word (name : Bytes) (value : Option Bytes)
  | cluster (letters : Bytes)
  | plain
  deriving DecidableEq, Repr

def hyphen : UInt8 := 45

def equals : UInt8 := 61

def shape : Bytes → Shape
  | first :: second :: rest =>
      if first ≠ hyphen then .plain
      else if second ≠ hyphen then .cluster (second :: rest)
      else if rest = [] then .separator
      else .word (rest.takeWhile (· ≠ equals)) (rest.dropWhile (· ≠ equals)).tail?
  | _ => .plain

def attachedTo : Bytes → Option Bytes
  | [] => none
  | first :: rest => if first = equals then some rest else some (first :: rest)

def unexpectedLetter (shown : String) : Stop := .usage (.unexpectedArgument shown none [])

def readCluster (grammar : Grammar σ) (letters : Bytes) (state : State σ) :
    Except Stop (State σ) :=
  match split : Utf8.uncons? letters with
  | none =>
      if letters = [] then .ok state
      else .error (unexpectedLetter ("-" ++ Utf8.display letters))
  | some (letter, rest) =>
      have := Utf8.uncons?_shorter split
      match grammar.letter letter with
      | none => .error (unexpectedLetter ("-" ++ letter.toString))
      | some .help => state.help
      | some (.valued shown apply) => state.valued shown apply (attachedTo rest)
      | some (.flag shown apply) =>
          match state.flag shown apply with
          | .error stop => .error stop
          | .ok state => readCluster grammar rest state
termination_by letters.length

def unexpectedWord (grammar : Grammar σ) (name : String) (state : State σ) : Stop :=
  -- If the word is like the one of an option, that option counts as used.
  let likely := Similarity.suggestion? name (grammar.words.map (·.1))
  let shown := likely.bind fun word => (grammar.words.lookup word).map fun effect =>
    match effect with
    | .flag shown _ | .valued shown _ => shown
    | .help => "--help"
  let used := state.usedByNow
  let used := match shown with
    | some option => if used.contains option then used else used ++ [option]
    | none => used
  .usage (.unexpectedArgument ("--" ++ name) (likely.map ("--" ++ ·)) used)

def readWord (grammar : Grammar σ) (name : Bytes) (value : Option Bytes) (state : State σ) :
    Except Stop (State σ) :=
  let known := if Utf8.isText name then grammar.words.lookup (Utf8.display name) else none
  match known, value with
  | none, _ => .error (unexpectedWord grammar (Utf8.display name) state)
  | some (.valued shown apply), value => state.valued shown apply value
  | some .help, none => state.help
  | some (.flag shown apply), none => state.flag shown apply
  | some .help, some value | some (.flag _ _), some value =>
      let option := "--" ++ Utf8.display name
      .error (.usage (.unexpectedValue (Utf8.display value) option state.used.isEmpty))

def finish (grammar : Grammar σ) (state : State σ) (command : List Bytes) :
    Except Stop (σ × List Bytes) :=
  match command with
  | [] => state.settle.map fun state => (state.settings, [])
  | first :: _ =>
      if grammar.takesCommand then state.settle.map fun state => (state.settings, command)
      else .error (.usage (.unexpectedText (Utf8.display first)))

/-- Read arguments from left to right into settings and a command. -/
def readFrom (grammar : Grammar σ) (state : State σ) : List Bytes → Except Stop (σ × List Bytes)
  | [] => finish grammar state []
  | argument :: rest =>
      match shape argument with
      | .separator => finish grammar state rest
      | .word name value =>
          match readWord grammar name value state with
          | .error stop => .error stop
          | .ok state => readFrom grammar state rest
      | .cluster letters =>
          match readCluster grammar letters state with
          | .error stop => .error stop
          | .ok state => readFrom grammar state rest
      | .plain =>
          match state.waiting with
          | some { shown, apply, value := none } =>
              let waiting := some { shown, apply, value := some argument }
              readFrom grammar { state with waiting } rest
          | _ => finish grammar state (argument :: rest)

def read (grammar : Grammar σ) (settings : σ) (arguments : List Bytes) :
    Except Stop (σ × List Bytes) :=
  readFrom grammar { settings } arguments

theorem finish_command_length {grammar : Grammar σ} {state : State σ} {rest command : List Bytes}
    {settings : σ} (done : finish grammar state rest = .ok (settings, command)) :
    command = rest := by
  unfold finish at done
  split at done
  · cases settled : state.settle <;> simp_all [Except.map]
  · split at done
    · cases settled : state.settle <;> simp_all [Except.map]
    · simp at done

/-- A command is never longer than the command line it stands in. -/
theorem readFrom_command_length {grammar : Grammar σ} {state : State σ}
    {arguments command : List Bytes} {settings : σ}
    (done : readFrom grammar state arguments = .ok (settings, command)) :
    command.length ≤ arguments.length := by
  induction arguments generalizing state with
  | nil =>
      have same := finish_command_length done
      simp [same]
  | cons argument rest ih =>
      simp only [readFrom] at done
      simp only [List.length_cons]
      split at done
      · have same := finish_command_length done
        subst same
        omega
      · split at done
        · simp at done
        · have := ih done
          omega
      · split at done
        · simp at done
        · have := ih done
          omega
      · split at done
        · have := ih done
          omega
        · have same := finish_command_length done
          simp [same]

theorem read_command_length {grammar : Grammar σ} {start settings : σ}
    {arguments command : List Bytes}
    (done : read grammar start arguments = .ok (settings, command)) :
    command.length ≤ arguments.length :=
  readFrom_command_length done

end Arguments

end DescriptorReaper
