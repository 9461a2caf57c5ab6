import DescriptorReaper.Shell.Condition
import DescriptorReaper.Shell.Format
import DescriptorReaper.Shell.Jobs
import DescriptorReaper.Shell.Places
import DescriptorReaper.Shell.Variables

/-!
The commands that a shell has built in, by name, apart from those that run other commands. Each
takes its arguments and gives a status. A fault of a special one halts the shell; a fault of any
other is its status.
-/

namespace DescriptorReaper.Shell.Builtin

def echo (arguments : List ByteText) : Run Nat := do
  Run.print (ByteText.ofBytes (Echo.builtinText (arguments.map ByteText.bytes)))
  return 0

def printf (arguments : List ByteText) : Run Nat := do
  match ← Choices.afterMark arguments with
  | [] => Run.abort (Run.text "usage: printf format [arg ...]")
  | format :: rest =>
      let outcome := Format.run format rest
      outcome.complaints.forM Run.complain
      Run.print outcome.printed
      match outcome.fault with
      | some fault => Run.abort fault
      | none => return if outcome.complaints.isEmpty then 0 else 1

def test (inBrackets : Bool) (arguments : List ByteText) : Run Nat := do
  -- In brackets, only how the last argument begins matters.
  let closes := (arguments.getLast?.bind List.head?) = some ']'
  if inBrackets && !closes then Run.abort (Run.text "missing ]")
  let operands := if inBrackets then arguments.dropLast else arguments
  match Condition.judge (← get).console operands with
  | .ok holds => return if holds then 0 else 1
  | .error complaint => Run.abort complaint

def type (arguments : List ByteText) : Run Nat :=
  arguments.foldlM (fun status name => return status ||| (← Search.describe none true name)) 0

def command (arguments : List ByteText) : Run Nat := do
  let (chosen, rest) ← Choices.read "pvV" arguments
  let chosen := chosen.map Prod.fst
  let search := if chosen.contains 'p' then some Search.usual else none
  match rest with
  | name :: _ =>
      if chosen.contains 'V' then Search.describe search true name
      else if chosen.contains 'v' then Search.describe search false name
      else return 0
  | [] => return 0

def hash (arguments : List ByteText) : Run Nat := do
  let (chosen, names) ← Choices.read "r" arguments
  if ¬ chosen.isEmpty then
    modify fun shell => { shell with found := [] }
    return 0
  else if names.isEmpty then
    (Search.ordered 31 Tracked.name (← get).found).forM fun tracked =>
      let mark : ByteText := if tracked.isStale then ['*'] else []
      Run.print (tracked.path ++ mark ++ Run.newline)
    return 0
  else
    names.foldlM
      (fun status name => do
        let text := String.ofList name
        let shell ← get
        if name.contains '/' || Search.isBuiltin text || (shell.functions.lookup text).isSome then
          return status
        else
          set { shell with found := shell.found.filter (·.name ≠ name) }
          match ← Search.find none name with
          | .ok _ => return status
          | .error fault =>
              Search.complain name fault
              return 1)
      0

def noAlias (command : String) (name : ByteText) : Run Unit :=
  Run.tell Console.errorStream
    (Run.text (command ++ ": ") ++ name ++ Run.text " not found" ++ Run.newline)

def setAlias (name value : ByteText) : Run Unit :=
  modify fun shell =>
    let aliases := shell.aliases
    { shell with
      aliases :=
        if aliases.any (·.1 = name) then
          aliases.map fun entry => if entry.1 = name then (name, value) else entry
        else aliases ++ [(name, value)] }

def makeAliases (arguments : List ByteText) : Run Nat := do
  -- A name has at least one character, even an equals sign.
  if arguments.isEmpty then
    (Search.ordered 39 Prod.fst (← get).aliases).forM fun (name, value) =>
      Run.print (Search.aliasLine name value)
    return 0
  else
    arguments.foldlM
      (fun status argument => do
        let later := argument.drop 1
        let name := argument.take 1 ++ later.takeWhile (· ≠ '=')
        match argument.drop name.length with
        | _ :: value =>
            setAlias name value
            return status
        | [] =>
            match (← get).aliases.lookup name with
            | some value =>
                Run.print (Search.aliasLine name value)
                return status
            | none =>
                noAlias "alias" name
                return 1)
      0

def unalias (arguments : List ByteText) : Run Nat := do
  let (chosen, names) ← Choices.first "a" arguments
  if chosen.isSome then
    modify fun shell => { shell with aliases := [] }
    return 0
  else
    names.foldlM
      (fun status name => do
        let shell ← get
        if shell.aliases.any (·.1 = name) then
          set { shell with aliases := shell.aliases.filter (·.1 ≠ name) }
          return status
        else
          noAlias "unalias" name
          return 1)
      0

def exit (arguments : List ByteText) : Run Nat := do
  match arguments with
  | argument :: _ =>
      let status ← Choices.count argument
      modify fun shell => { shell with saved := some status }
  | [] => pure ()
  throw .exit

def leaveLoops (skip : Nat → Skip) (arguments : List ByteText) : Run Nat := do
  let count ← match arguments with
    | argument :: _ => do
        let count ← Choices.count argument
        if count = 0 then Run.abort (Run.text "Illegal number: " ++ argument)
        pure count
    | [] => pure 1
  let count := min count (← get).loops
  if count ≠ 0 then modify fun shell => { shell with skip := some (skip count) }
  return 0

def leaveFunction (arguments : List ByteText) : Run Nat := do
  let status ← match arguments with
    | argument :: _ => Choices.count argument
    | [] => pure (← get).status
  modify fun shell => { shell with skip := some (.returning (!arguments.isEmpty)) }
  return status

/-- The built-in command of a name. -/
def named? (name : String) : Option (List ByteText → Run Nat) :=
  match name with
  | ":" | "true" => some fun _ => return 0
  | "false" => some fun _ => return 1
  | "[" => some (test true)
  | "test" => some (test false)
  | "alias" => some makeAliases
  | "bg" | "fg" => some Jobs.control
  | "break" => some (leaveLoops .breaking)
  | "cd" | "chdir" => some Places.change
  | "command" => some command
  | "continue" => some (leaveLoops .continuing)
  | "echo" => some echo
  | "exit" => some exit
  | "export" => some (Variables.marking name true false)
  | "getopts" => some Variables.getopts
  | "hash" => some hash
  | "jobs" => some Jobs.list
  | "kill" => some Jobs.kill
  | "local" => some Variables.makeLocal
  | "printf" => some printf
  | "pwd" => some Places.say
  | "read" => some Variables.read
  | "readonly" => some (Variables.marking name false true)
  | "return" => some leaveFunction
  | "set" => some Variables.set
  | "shift" => some Variables.shift
  | "times" => some Jobs.times
  | "trap" => some Jobs.trap
  | "type" => some type
  | "ulimit" => some Jobs.ulimit
  | "umask" => some Jobs.umask
  | "unalias" => some unalias
  | "unset" => some Variables.unset
  | "wait" => some Jobs.wait
  | _ => none

end DescriptorReaper.Shell.Builtin
