import DescriptorReaper.Console
import DescriptorReaper.Script.Input
import DescriptorReaper.Shell.Signal

/-!
A shell at work: its console, its parameters and variables, its functions, and the status of what it
ran last. What it runs either goes on or halts the shell. A part that runs apart is a process of its
own, which leaves the shell nothing but its end and what it did to the files and pipes that all
processes share.
-/

namespace DescriptorReaper

inductive Ending where
  | exited (status : Nat)
  | killed (signal : Nat)
  deriving DecidableEq, Repr

/-- Run a program under a name to its end. -/
abbrev Spawn := Program → Bytes → List Bytes → Console → Ending × Console

structure Variable where
  value : Option ByteText := none
  exported : Bool := false
  fixed : Bool := false

/-- Why commands are passed over. -/
inductive Skip where
  | breaking (loops : Nat)
  | continuing (loops : Nat)
  | returning (asked : Bool)
  deriving DecidableEq, Repr

inductive Aim where
  | path (direction : Script.Direction) (path : ByteText)
  | copy (source : Option Int)
  | document (word : Script.Word)

inductive Task where
  | alone (aims : List (Int × Aim)) (body : Script.Command)
  | piped (commands : List Script.Command)

/-- How far processes have got that nobody waits for. They get to work only when the shell has to
wait for something, and go on from what the shell was when it started them. -/
inductive Progress (State : Type) where
  | starting (start : State) (task : Task)
  | ended (endings : List Ending)

/-- Processes that were started together and not waited for at once, by their numbers. -/
structure Job (State : Type) where
  number : Nat
  processes : List Nat
  progress : Progress State
  reaped : Bool := false
  waited : Bool := false

structure OptionPosition where
  argument : Nat := 1
  letter : Option Nat := none

structure Tracked where
  name : ByteText
  path : ByteText
  isStale : Bool := false

/-- What a command changes for as long as it runs: variables, and perhaps the options. -/
structure Frame where
  bindings : List (String × Option Variable) := []
  options : Option (List Char) := none

abbrev Kept := List (Int × Option Int)

structure Shell where
  console : Console
  name : ByteText
  arguments : List ByteText := []
  bindings : List (String × Variable) := []
  functions : List (String × Script.Command) := []
  aliases : List (ByteText × ByteText) := []
  options : List Char := []
  -- Those that nothing has been said about yet. Only a shell that starts has such.
  unsaid : List Char := []
  status : Nat := 0
  outputStatus : Nat := 0
  -- The status to come back to after what a signal set off.
  saved : Option Nat := none
  -- The line of the command at work, the line that has been read up to, and that of the main
  -- script.
  line : Nat := 0
  readLine : Nat := 1
  mainLine : Nat := 1
  -- What is at hand of the main script behind the command at work.
  unread : List Script.Strand := []
  isAtEnd : Bool := false
  isAskDue : Bool := false
  -- The command that complaints are about.
  within : Option ByteText := none
  skip : Option Skip := none
  loops : Nat := 0
  -- How much work is left before the process is taken never to end by itself.
  patience : Nat := 1000000
  calls : Nat := 0
  frames : List Frame := []
  kept : List Kept := []
  traps : List (Nat × ByteText) := []
  -- Signals that were ignored when the shell started.
  deaf : List Nat := []
  caught : List Nat := []
  jobs : List (Job Shell) := []
  -- Jobs of processes that have ended before them, the earliest first.
  left : List (Job Shell) := []
  lastChild : Option Nat := none
  -- The number that the shell gives as its own, also in its parts.
  number : Nat
  documents : List (Nat × Script.Word) := []
  documentCount : Nat := 0
  position : OptionPosition := {}
  -- The descriptors that scripts are read from. Parts of the shell have no use for them.
  sources : List Int := []
  -- The directory as it was gone to.
  directory : ByteText := []
  found : List Tracked := []
  isTracing : Bool := false
  printed : ByteText := []

/-- Why a shell goes no further. -/
inductive Halt where
  | fault
  | over
  | exit
  | interrupted
  | gone (ending : Ending)
  deriving DecidableEq, Repr

abbrev Run := ExceptT Halt (StateM Shell)

namespace Shell

def has (shell : Shell) (option : Char) : Bool := shell.options.contains option

def isAsking (shell : Shell) : Bool := shell.has 'i' && shell.console.number = shell.number

def value? (shell : Shell) (name : String) : Option ByteText :=
  (shell.bindings.lookup name).bind Variable.value

def usualCuts : ByteText := " \t\n".toList

def cuts (shell : Shell) : ByteText := (shell.value? "IFS").getD usualCuts

def setVariable (shell : Shell) (name : String) (entry : Variable) : Shell :=
  { shell with bindings := (name, entry) :: shell.bindings.filter (·.1 ≠ name) }

def dropVariable (shell : Shell) (name : String) : Shell :=
  { shell with bindings := shell.bindings.filter (·.1 ≠ name) }

def sortedVariables (shell : Shell) : List (String × Variable) :=
  shell.bindings.mergeSort fun left right => !ByteText.before right.1.toList left.1.toList

def environment (shell : Shell) : List (String × Bytes) :=
  shell.sortedVariables.filterMap fun (name, entry) =>
    if entry.exported then entry.value.map fun value => (name, ByteText.bytes value) else none

def view (shell : Shell) : Installation.View := shell.console.view .shell

end Shell

namespace Run

def setStatus (status : Nat) : Run Unit := modify fun shell => { shell with status }

def changeConsole (change : Console → Console) : Run Unit :=
  modify fun shell => { shell with console := change shell.console }

def always {α : Type} (restore : Shell → Shell) (work : Run α) : Run α := fun shell =>
  let (result, after) := work.run shell
  (result, restore after)

def text (string : String) : ByteText := ByteText.ofString string

def newline : ByteText := ['\n']

def receive (signal : Nat) : Run Unit := do
  -- A shell that asks for commands does not let itself be ended lightly.
  let shell ← get
  if Shell.Signal.isFinal signal || ¬ shell.console.ignored.contains signal then
    match shell.traps.lookup signal with
    | some (_ :: _) =>
        if Shell.Signal.isFinal signal then throw (.gone (.killed signal))
        else if ¬ shell.caught.contains signal then
          set { shell with caught := signal :: shell.caught }
    | _ =>
        if shell.isAsking && signal = Shell.Signal.interrupt then
          set { shell with status := 128 + signal }
          throw .interrupted
        else if ¬ (Shell.Signal.isHarmless signal ||
            shell.isAsking && Shell.Signal.isDeclined signal) then
          throw (.gone (.killed signal))

def put (fd : Int) (text : ByteText) : Run Bool := do
  let shell ← get
  let (fault, console) := shell.console.put fd text.bytes
  set { shell with console }
  (fault.bind SystemFault.signal?).forM receive
  return fault.isNone

def tell (fd : Int) (text : ByteText) : Run Unit := do
  let _ ← put fd text

def complain (complaint : ByteText) : Run Unit := do
  let shell ← get
  let blamed := match shell.within with
    | some command => command ++ text ": "
    | none => []
  tell Console.errorStream
    (shell.name ++ text ": " ++ ByteText.ofInt shell.line ++ text ": " ++ blamed ++ complaint ++
      newline)

def abort {α : Type} (complaint : ByteText) : Run α := do
  complain complaint
  setStatus 2
  throw .fault

def within {α : Type} (command : ByteText) (work : Run α) : Run α := do
  let before := (← get).within
  modify fun shell => { shell with within := some command }
  always (fun shell => { shell with within := before }) work

def print (text : ByteText) : Run Unit :=
  modify fun shell => { shell with printed := shell.printed ++ text }

def flush : Run Bool := do
  let printed := (← get).printed
  if printed.isEmpty then return true
  else
    modify fun shell => { shell with printed := [] }
    put Console.outputStream printed

def exportsAll (shell : Shell) : Bool := shell.has 'a'

def readOnly (name : String) : ByteText := name.toList ++ text ": is read only"

def notice (name : String) (value : ByteText) : Run Unit := do
  if name = "OPTIND" then
    match ByteText.natural? value with
    | some argument =>
        modify fun shell => { shell with position := ⟨if argument = 0 then 1 else argument, none⟩ }
    | none => abort (text "Illegal number: " ++ value)
  else if name = "PATH" then modify fun shell => { shell with found := [] }

def assignMarked (name : String) (value : ByteText) (exported fixed : Bool) : Run Unit := do
  let shell ← get
  let before := (shell.bindings.lookup name).getD {}
  if before.fixed then abort (readOnly name)
  notice name value
  modify fun shell => shell.setVariable name
    { value := some value
      exported := before.exported || exported || exportsAll shell
      fixed }

def assign (name : String) (value : ByteText) : Run Unit := assignMarked name value false false

def badName {α : Type} (name : ByteText) : Run α := abort (name ++ text ": bad variable name")

def assignNamed (name value : ByteText) : Run Unit :=
  let name := name.takeWhile (· ≠ '=')
  if ByteText.isName name then assign (String.ofList name) value else badName name

def unset (name : String) : Run Unit := do
  match (← get).bindings.lookup name with
  | some entry => if entry.fixed then abort (readOnly name)
  | none => pure ()
  modify (·.dropVariable name)

def changeFrame (change : Frame → Frame) : Run Unit :=
  modify fun shell =>
    match shell.frames with
    | frame :: rest => { shell with frames := change frame :: rest }
    | [] => shell

def makeLocal (name : String) : Run Unit := do
  let before := (← get).bindings.lookup name
  changeFrame fun frame =>
    if frame.bindings.any (·.1 = name) then frame
    else { frame with bindings := (name, before) :: frame.bindings }

def keepOptions : Run Unit := do
  let before := (← get).options
  changeFrame fun frame => { frame with options := frame.options.or (some before) }

def restore (shell : Shell) (name : String) : Option Variable → Shell
  | none => shell.dropVariable name
  | some entry =>
      let shell := shell.setVariable name entry
      if name = "PATH" then { shell with found := [] }
      else if name = "OPTIND" then
        { shell with position := ⟨((entry.value.bind ByteText.natural?).getD 1).max 1, none⟩ }
      else shell

def leaveFrame (shell : Shell) : Shell :=
  match shell.frames with
  | frame :: rest =>
      let options := frame.options.getD shell.options
      frame.bindings.foldl (fun shell (name, entry) => restore shell name entry)
        { shell with frames := rest, options }
  | [] => shell

def leave : Nat → Run Unit
  -- After the fault of a variable that cannot be unset, nothing more is put back.
  | 0 => return
  | count + 1 => do
      let shell ← get
      match shell.frames with
      | frame :: rest =>
          let isBad : String × Option Variable → Bool := fun (name, before) =>
            before.isNone && !ByteText.isName name.toList
          let bindings := frame.bindings.takeWhile (!isBad ·)
          set (leaveFrame { shell with frames := { frame with bindings } :: rest })
          (frame.bindings.find? isBad).forM fun (name, _) => badName name.toList
          leave count
      | [] => return

end Run

end DescriptorReaper
