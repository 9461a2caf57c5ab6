import DescriptorReaper.Echo
import DescriptorReaper.Installation
import DescriptorReaper.Options
import DescriptorReaper.Reaper
import DescriptorReaper.Shell

/-!
Whole programs. The closing program reads its options, closes descriptors and then either lists
what it left open or puts a command in its own place, so that a chain of commands is one process
whose table only shrinks. The listing program lists the descriptors it was given. A shell runs
programs of its own accord; how deep shells may start each other is bounded.
-/

namespace DescriptorReaper

/-- What a program comes to: its end, or another program in its place. -/
inductive Turn where
  | ends (ending : Ending)
  | becomes (program : Program) (name : Bytes) (arguments : List Bytes)
  deriving DecidableEq, Repr

def Turn.IsEnd (turn : Turn) : Prop := ∃ ending, turn = .ends ending

theorem Turn.IsEnd.not_becomes {turn : Turn} (ends : turn.IsEnd) (program : Program) (name : Bytes)
    (arguments : List Bytes) : turn ≠ .becomes program name arguments := by
  obtain ⟨ending, rfl⟩ := ends
  simp

namespace Program

def deadly? (console : Console) (fault : SystemFault) : Option Nat :=
  fault.signal?.filter fun signal => !console.ignored.contains signal

def say (fd : Int) (ending : Ending) : List String → Console → Turn × Console
  | [], console => (.ends ending, console)
  | text :: rest, console =>
      let (fault, console) := console.put fd (Console.line text)
      match fault.bind (deadly? console) with
      | some signal => (.ends (.killed signal), console)
      | none => say fd ending rest console

def explain (console : Console) (complaint : String) (cause : Option String) : Turn × Console :=
  let causes := cause.toList.flatMap fun cause => ["", "Caused by:", "    " ++ cause]
  say Console.errorStream (.exited 1) (("Error: " ++ complaint) :: causes) console

def calledName (name : Bytes) : String :=
  let last := (Installation.components name).filter (· ≠ []) |>.getLastD []
  if last ≠ [] ∧ Utf8.isText last then Utf8.display last else "closefrom"

def isColoured (console : Console) : Bool :=
  -- No descriptor leads to a terminal, so it takes a wish.
  let isSet (name : String) : Bool :=
    (console.environment.lookup name).any fun value => !value.isEmpty
  isSet "CLICOLOR_FORCE" && !isSet "NO_COLOR"

def answer (help : List Styled) (usage : UsageError.Usage) (stop : Stop) (console : Console) :
    Turn × Console :=
  let text := Styled.text (isColoured console)
  match stop with
  | .help => say Console.outputStream (.exited 0) (help.map text) console
  | .usage error => say Console.errorStream (.exited 2) ((error.report usage).map text) console

def listingLine (console : Console) (long : Bool) (fd : Int) : String :=
  match if long then console.links.lookup fd else none with
  | some target => toString fd ++ "\t" ++ target.text
  | none => toString fd

def ended (console : Console) : Ending :=
  match console.failure with
  | none => .exited 0
  | some fault => ((deadly? console fault).map Ending.killed).getD (.exited 101)

def printOpen (dir : Option ListingDir) (long : Bool) (console : Console) : Turn × Console :=
  match dir with
  | none => explain console "no descriptor listing on this system" none
  | some dir =>
      match openDescriptors dir console with
      | (.error error, console) => explain console "listing descriptors" (some error.describe)
      | (.ok fds, console) =>
          let printLine (console : Console) (fd : Int) : Console :=
            console.insist Console.outputStream (Console.line (listingLine console long fd))
          let console := fds.foldl printLine console
          (.ends (ended console), console)

def pipeSignal : Nat := 13

/-- Put a command in the place of the program. A pipe without a reader has its usual effect again,
even if there is no such command. -/
def execute (name : Bytes) (arguments : List Bytes) (console : Console) : Turn × Console :=
  let search := console.environment.lookup Console.searchVariable
  let definitions := console.environment.map fun (name, value) => Utf8.encode name ++ 61 :: value
  let console := { console with ignored := console.ignored.filter (· ≠ pipeSignal) }
  let failure (fault : SystemFault) : Turn × Console :=
    explain console ("executing " ++ Utf8.display name) (some fault.text)
  match (console.view .reaper).find search name with
  | .ok (path, program) =>
      let stack := (console.boundsOf .stack).soft
      if Bounds.admits stack path (name :: arguments ++ definitions) then
        (.becomes program name arguments, console.takeOver)
      else failure .argumentsTooLong
  | .error fault => failure fault

def reap (settings : ReapSettings) (command : List Bytes) (console : Console) : Turn × Console :=
  let console := console.startLogging settings.verbosity
  let (detected, console) := Capabilities.detect console
  let console := (detected.restrict settings.tier).closeFrom settings.threshold console
  if console.failure.isSome then (.ends (ended console), console)
  else
    match command with
    | [] => printOpen detected.listingDir false console
    | name :: arguments => execute name arguments console

def list (settings : ListSettings) (console : Console) : Turn × Console :=
  let console := console.startLogging settings.verbosity
  let (detected, console) := Capabilities.detect console
  if console.failure.isSome then (.ends (ended console), console)
  else printOpen detected.listingDir settings.long console

def printEcho (name : Bytes) (arguments : List Bytes) (console : Console) : Turn × Console :=
  -- It is a failure only if there is something to print and no place for it.
  let keepsStandard := (console.environment.lookup "POSIXLY_CORRECT").isSome
  let text := Echo.text keepsStandard arguments
  if text = [] then (.ends (.exited 0), console)
  else
    match console.put Console.outputStream text with
    | (none, console) => (.ends (.exited 0), console)
    | (some fault, console) =>
        match deadly? console fault with
        | some signal => (.ends (.killed signal), console)
        | none =>
            let complaint := Utf8.display name ++ ": write error: " ++ fault.reason
            say Console.errorStream (.exited 1) [complaint] console

def library : Program → String
  | .reaper | .lister => "libgcc_s.so.1"
  | _ => "libc.so.6"

def unlinked (program : Program) (name : Bytes) (console : Console) : Turn × Console :=
  let complaint := Utf8.display name ++ ": error while loading shared libraries: " ++
    library program ++ ": cannot open shared object file: Error 24"
  say Console.errorStream (.exited 127) [complaint] console

def abortSignal : Nat := 6

def prepared (console : Console) (work : Console → Turn × Console) : Turn × Console :=
  match console.openStandard? with
  | some console =>
      let ignored := pipeSignal :: console.ignored.filter (· ≠ pipeSignal)
      work { console with ignored, filter := [], failure := none }
  | none => (.ends (.killed abortSignal), console)

/-- One program from its start to its end or to the program that takes its place; a shell runs
programs by `spawn`. -/
def turn (spawn : Spawn) (program : Program) (name : Bytes) (arguments : List Bytes)
    (console : Console) : Turn × Console :=
  let called := calledName name
  let console := { console with command := name :: arguments, title := none }
  if (console.free? 0).isNone then unlinked program name console
  else match program with
  | .reaper =>
      prepared console fun console =>
        match ReapSettings.read arguments with
        | .ok (settings, command) => reap settings command console
        | .error stop => answer (ReapSettings.help called) (ReapSettings.usage called) stop console
  | .lister =>
      prepared console fun console =>
        match ListSettings.read arguments with
        | .ok (settings, _) => list settings console
        | .error stop => answer (ListSettings.help called) (ListSettings.usage called) stop console
  | .echo => printEcho name arguments console
  | .succeed => (.ends (.exited 0), console)
  | .fail => (.ends (.exited 1), console)
  | .shell =>
      let (ending, console) := Shell.start spawn name arguments console
      (.ends ending, console)

theorem say_ends (fd : Int) (ending : Ending) (lines : List String) (console : Console) :
    (say fd ending lines console).1.IsEnd := by
  induction lines generalizing console with
  | nil => exact ⟨ending, rfl⟩
  | cons text rest ih =>
      unfold say
      dsimp only
      split
      · exact ⟨_, rfl⟩
      · exact ih _

theorem explain_ends (console : Console) (complaint : String) (cause : Option String) :
    (explain console complaint cause).1.IsEnd := by
  unfold explain
  exact say_ends _ _ _ _

theorem printOpen_ends (dir : Option ListingDir) (long : Bool) (console : Console) :
    (printOpen dir long console).1.IsEnd := by
  unfold printOpen
  split
  · exact explain_ends _ _ _
  · split
    · exact explain_ends _ _ _
    · exact ⟨_, rfl⟩

theorem list_ends (settings : ListSettings) (console : Console) :
    (list settings console).1.IsEnd := by
  unfold list
  dsimp only
  split
  · exact ⟨_, rfl⟩
  · exact printOpen_ends _ _ _

theorem answer_ends (help : List Styled) (usage : UsageError.Usage) (stop : Stop)
    (console : Console) : (answer help usage stop console).1.IsEnd := by
  unfold answer
  dsimp only
  split <;> exact say_ends _ _ _ _

theorem printEcho_ends (name : Bytes) (arguments : List Bytes) (console : Console) :
    (printEcho name arguments console).1.IsEnd := by
  unfold printEcho
  dsimp only
  split
  · exact ⟨_, rfl⟩
  · split
    · exact ⟨_, rfl⟩
    · split
      · exact ⟨_, rfl⟩
      · exact say_ends _ _ _ _

theorem execute_same {name : Bytes} {arguments rest : List Bytes} {console : Console}
    {next : Program} {called : Bytes}
    (taken : (execute name arguments console).1 = .becomes next called rest) :
    rest = arguments := by
  unfold execute at taken
  dsimp only at taken
  split at taken
  · split at taken
    · simp_all
    · exact absurd taken ((explain_ends _ _ _).not_becomes _ _ _)
  · exact absurd taken ((explain_ends _ _ _).not_becomes _ _ _)

theorem reap_shorter {settings : ReapSettings} {command rest : List Bytes} {console : Console}
    {next : Program} {called : Bytes}
    (taken : (reap settings command console).1 = .becomes next called rest) :
    rest.length < command.length := by
  unfold reap at taken
  dsimp only at taken
  split at taken
  · simp at taken
  · split at taken
    · exact absurd taken ((printOpen_ends _ _ _).not_becomes _ _ _)
    · have same := execute_same taken
      subst same
      simp

/-- A program hands over fewer arguments than it got, for it keeps at least the command's name. -/
theorem turn_shorter {spawn : Spawn} {program next : Program} {name called : Bytes}
    {arguments rest : List Bytes} {console : Console}
    (taken : (turn spawn program name arguments console).1 = .becomes next called rest) :
    rest.length < arguments.length := by
  unfold turn at taken
  dsimp only at taken
  split at taken
  · exact absurd taken ((say_ends _ _ _ _).not_becomes _ _ _)
  split at taken
  · unfold prepared at taken
    split at taken
    · split at taken
      · rename_i settings command read
        have short := Arguments.read_command_length read
        have shorter := reap_shorter taken
        omega
      · exact absurd taken ((answer_ends _ _ _ _).not_becomes _ _ _)
    · simp at taken
  · unfold prepared at taken
    split at taken
    · split at taken
      · exact absurd taken ((list_ends _ _).not_becomes _ _ _)
      · exact absurd taken ((answer_ends _ _ _ _).not_becomes _ _ _)
    · simp at taken
  · exact absurd taken ((printEcho_ends _ _ _).not_becomes _ _ _)
  all_goals simp at taken

/-- Run a program and whatever takes its place, to the end. -/
def runWith (spawn : Spawn) (program : Program) (name : Bytes) (arguments : List Bytes)
    (console : Console) : Ending × Console :=
  match taken : turn spawn program name arguments console with
  | (.ends ending, console) => (ending, console)
  | (.becomes next called rest, after) =>
      have : rest.length < arguments.length := turn_shorter (congrArg Prod.fst taken)
      runWith spawn next called rest after
termination_by arguments.length

def stuck : Ending := .killed 9

def run : Nat → Spawn
  | 0 => runWith fun _ _ _ console => (stuck, console)
  | depth + 1 => runWith (run depth)

end Program

structure Outcome where
  ending : Ending
  output : List String
  errors : List String

def textLines (written : Bytes) : List String :=
  let lines := pieces '\n' (Utf8.display written).toList
  let lines := if lines.getLast? = some [] then lines.dropLast else lines
  lines.map String.ofList

def Program.deepest : Nat := 2000

/-- Run a program on a console. Of the errors of a run that ends in a usage error, the first line
is kept. -/
def Program.outcome (program : Program) (arguments : List Bytes) (console : Console) : Outcome :=
  let name := Utf8.encode (Installation.path console.home program)
  let (ending, console) := run deepest program name arguments console
  let errors := textLines (console.received .errors)
  { ending
    output := textLines (console.received .output)
    errors := if ending = .exited 2 then errors.take 1 else errors }

end DescriptorReaper
