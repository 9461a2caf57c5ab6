import DescriptorReaper.Shell.Choices
import DescriptorReaper.Shell.Process
import DescriptorReaper.Shell.Search

/-!
The built-in commands that deal with processes: with those that a shell has started, with signals,
and with what a process may do.
-/

namespace DescriptorReaper.Shell.Jobs

def job (argument : Option ByteText) (controlled : Bool) : Run (Job Shell) := do
  let jobs := (← get).jobs
  let named := argument.getD (Run.text "(null)")
  let current (job : Option (Job Shell)) (complaint : String) : Run (Job Shell) :=
    match job with
    | some job => return job
    | none => Run.abort (Run.text complaint)
  let unknown : Run (Job Shell) := Run.abort (Run.text "No such job: " ++ named)
  let found ← match argument with
    | none | some ['%'] | some ['%', '%'] | some ['%', '+'] =>
        current jobs.head? "No current job"
    | some ['%', '-'] => current jobs[1]? "No previous job"
    | some ('%' :: name) =>
        match ByteText.natural? name with
        | some number =>
            match jobs.find? (·.number = number) with
            | some job => pure job
            | none => unknown
        | none => unknown
    | some _ => unknown
  if controlled then
    Run.abort (Run.text "job " ++ named ++ Run.text " not created under job control")
  return found

def state : Ending → String
  | .exited 0 => "Done"
  | .exited status => "Done(" ++ toString status ++ ")"
  | .killed signal => Signal.words signal

def stateOf (job : Job Shell) : String :=
  match job.progress with
  | .ended endings =>
      if job.reaped then (endings.getLast?.map state).getD "Done" else "Running"
  | .starting _ _ => "Running"

inductive Style where
  | short
  | numbers
  | long

def placed (width : Nat) (text : ByteText) : ByteText :=
  text ++ List.replicate (max 1 (width - text.length)) ' '

def line (style : Style) (jobs : List (Job Shell)) (job : Job Shell) : ByteText :=
  let sign := match jobs.findIdx? (·.number = job.number) with
    | some 0 => '+'
    | some 1 => '-'
    | _ => ' '
  let number (process : Nat) : ByteText := ByteText.ofInt process
  let start := ByteText.ofInt job.number
  let head := '[' :: start ++ ']' :: ' ' :: sign :: [' ']
  let processes := job.processes
  match style with
  | .numbers => (processes.head?.map number).getD [] ++ Run.newline
  | .short =>
      placed 33 (head ++ Run.text (stateOf job)) ++
        (processes.drop 1).flatMap (fun _ => Run.text " | ") ++ Run.newline
  | .long =>
      let first := (processes.head?.map number).getD [] ++ [' ']
      let others := (processes.drop 1).flatMap fun process =>
        let start := List.replicate head.length ' ' ++ number process
        Run.text " |\n" ++ placed 33 (start ++ [' '])
      placed 33 (head ++ first ++ Run.text (stateOf job)) ++ others ++ Run.newline

def showJob (style : Style) (job : Job Shell) : Run Unit := do
  Run.print (line style (← get).jobs job)
  match style with
  | .numbers => return
  | _ =>
      if job.reaped then
        modify fun shell => { shell with jobs := shell.jobs.filter (·.number ≠ job.number) }

def list (arguments : List ByteText) : Run Nat := do
  let (chosen, names) ← Choices.read "lp" arguments
  let style : Style := match chosen.getLast? with
    | some ('l', _) => .long
    | some _ => .numbers
    | none => .short
  if names.isEmpty then (← get).jobs.forM (showJob style)
  else names.forM fun name => do showJob style (← job (some name) false)
  return 0

def control (arguments : List ByteText) : Run Nat := do
  let names ← Choices.afterMark arguments
  let _ ← job names.head? true
  return 0

def awaitJob (number : Nat) : Run Nat := do
  -- The jobs that are older have ended before.
  let jobs := (← get).jobs
  match jobs.find? (·.number = number) with
  | none => return 127
  | some job =>
      let endings := match job.progress with
        | .ended endings => endings
        | .starting _ _ => []
      if ¬ job.reaped then
        endings.forM Run.mourn
        Run.resume true
      let older := (jobs.dropWhile (·.number ≠ number)).map (·.number)
      modify fun shell => { shell with
        jobs := shell.jobs.map fun job => { job with
          reaped := job.reaped || older.contains job.number
          waited := job.waited || job.number = number } }
      return (endings.getLast?.map Run.statusOf).getD 0

def wait (arguments : List ByteText) : Run Nat := do
  let names ← Choices.afterMark arguments
  if names.isEmpty then
    let jobs := (← get).jobs
    modify fun shell => { shell with
      jobs := jobs.map fun job => { job with reaped := true, waited := true } }
    if jobs.any (!·.reaped) then Run.resume true
    return 0
  else
    names.foldlM
      (fun status name => do
        if name.head? = some '%' then awaitJob (← job (some name) false).number
        else
          let process ← Choices.count name
          let found := (← get).jobs.find? fun job => job.processes.getLast? = some process
          match found with
          | some job => awaitJob job.number
          | none => return status)
      127

def strike (signal : Nat) (job : Job Shell) : Job Shell :=
  -- A job that has not come to its end has made nothing ready for a signal.
  let deaf := [Signal.interrupt, Signal.quit]
  if Run.isAtWork job && !Signal.isHarmless signal && !deaf.contains signal then
    { job with progress := .ended (job.processes.map fun _ => .killed signal) }
  else job

def killUsage : String :=
  "Usage: kill [-s sigspec | -signum | -sigspec] [pid | job]... or\nkill -l [exitstatus]"

def firstProcess : Nat := 1

def send (signal process : Nat) : Run Bool := do
  let shell ← get
  let console := shell.console
  if process = console.number then
    Run.receive signal
    return true
  else if process = firstProcess ∨ process = Console.startNumber - 1 then return true
  else if console.others.any (·.number = process) then
    set { shell with console := { console with machine := console.machine.send process signal } }
    return true
  else
    let isMeant (job : Job Shell) : Bool := !job.reaped && job.processes.contains process
    let struck := shell.jobs.map fun job => if isMeant job then strike signal job else job
    let kept := struck.flatMap Run.sourcesOf
    let lost := kept.foldl List.erase (shell.jobs.flatMap Run.sourcesOf)
    set { shell with
      console := { console with machine := console.machine.redeem lost }
      jobs := struck }
    return shell.jobs.any isMeant

def sendTo (signal : Nat) (argument : ByteText) : Run Bool := do
  -- A group has no process that could be found.
  match argument with
  | '%' :: _ =>
      let _ ← job (some argument) false
      return false
  | '-' :: group =>
      let _ ← Choices.count group
      return false
  | _ => send signal (← Choices.count argument)

def sendAll (signal : Nat) (arguments : List ByteText) : Run Nat :=
  arguments.foldlM
    (fun status argument => do
      if ← sendTo signal argument then return status
      else
        Run.complain (Run.text "No such process" ++ Run.newline)
        return 1)
    0

def nameSignals (arguments : List ByteText) : Run Nat := do
  match arguments with
  | [] =>
      Run.print (Run.text "0\n")
      (List.range' 1 (Signal.bound - 1)).forM fun signal =>
        Run.print (Run.text (Signal.name signal) ++ Run.newline)
  | argument :: _ =>
      let number ← Choices.count argument
      let signal := if 128 < number then number - 128 else number
      if signal = 0 ∨ Signal.bound ≤ signal then
        Run.abort (Run.text "invalid signal number or exit status: " ++ argument)
      Run.print (Run.text (Signal.name signal) ++ Run.newline)
  return 0

def kill (arguments : List ByteText) : Run Nat := do
  let usage : Run Nat := Run.abort (Run.text killUsage)
  let obey (lists : Bool) (signal : Option Nat) (rest : List ByteText) : Run Nat :=
    if lists then if signal.isSome && !rest.isEmpty then usage else nameSignals rest
    else if rest.isEmpty then usage
    else sendAll (signal.getD Signal.usual) rest
  match arguments with
  | [] => usage
  | ('-' :: option) :: rest =>
      match Signal.named? 1 option with
      | some signal => obey false (some signal) rest
      | none =>
          let (chosen, rest) ← Choices.read "ls:" arguments
          let signals ← (chosen.filter (·.1 = 's')).mapM fun (_, name) =>
            match Signal.named? 1 name with
            | some signal => return signal
            | none => Run.abort (Run.text "invalid signal number or name: " ++ name)
          obey (chosen.any (·.1 = 'l')) signals.getLast? rest
  | _ => obey false none arguments

def setTrap (action : Option ByteText) (signal : Nat) : Run Unit :=
  -- Signals that were ignored from the start stay so.
  modify fun shell =>
    let traps := shell.traps.filter (·.1 ≠ signal)
    let traps := match action with
      | some action => (signal, action) :: traps
      | none => traps
    let ignored := shell.console.ignored.filter (· ≠ signal)
    let ignored := if action = some [] ∧ signal ≠ 0 then signal :: ignored else ignored
    let ignored := if shell.deaf.contains signal then shell.console.ignored else ignored
    { shell with traps, console := { shell.console with ignored } }

def setTraps (action : Option ByteText) : List ByteText → Run Nat
  | [] => return 0
  | name :: rest => do
      match Signal.named? 0 name with
      | some signal =>
          setTrap action signal
          setTraps action rest
      | none =>
          Run.tell Console.errorStream
            (Run.text "trap: " ++ name ++ Run.text ": bad trap" ++ Run.newline)
          return 1

def trap (arguments : List ByteText) : Run Nat := do
  match ← Choices.afterMark arguments with
  | [] =>
      let traps := (← get).traps
      (List.range Signal.bound).forM fun signal =>
        match traps.lookup signal with
        | some action =>
            Run.print (Run.text "trap -- " ++ Search.quoted action ++
              Run.text (" " ++ Signal.name signal) ++ Run.newline)
        | none => return
      return 0
  | [name] => setTraps none [name]
  | first :: rest =>
      if (Signal.numbered? first).isSome then setTraps none (first :: rest)
      else setTraps (if first = ['-'] then none else some first) rest

/-- A limit that a process runs under: on a resource, or else on its descriptors. -/
structure Limit where
  letter : Char
  name : String
  unit : Nat
  resource : Option Resource

def limits : List Limit :=
  [⟨'t', "time(seconds)", 1, some .time⟩, ⟨'f', "file(blocks)", 512, some .fileSize⟩,
   ⟨'d', "data(kbytes)", 1024, some .data⟩, ⟨'s', "stack(kbytes)", 1024, some .stack⟩,
   ⟨'c', "coredump(blocks)", 512, some .core⟩, ⟨'m', "memory(kbytes)", 1024, some .memory⟩,
   ⟨'l', "locked memory(kbytes)", 1024, some .lockedMemory⟩,
   ⟨'p', "process", 1, some .processes⟩, ⟨'n', "nofiles", 1, none⟩,
   ⟨'v', "vmemory(kbytes)", 1024, some .space⟩, ⟨'w', "locks", 1, some .locks⟩,
   ⟨'r', "rtprio", 1, some .priority⟩]

def Limit.bounds (limit : Limit) (console : Console) : Bounds :=
  match limit.resource with
  | some resource => console.boundsOf resource
  | none => ⟨some console.process.limit.toNat, some console.ceiling.toNat⟩

def unbounded : Nat := 0xFFFFFFFFFFFFFFFF

def Limit.text (limit : Limit) : Option Nat → ByteText
  | none => Run.text "unlimited"
  | some bound => ByteText.ofInt (Int64.ofNat (bound / limit.unit)).toInt

def Limit.asked? (limit : Limit) (argument : ByteText) : Option Nat :=
  if argument = Run.text "unlimited" then some unbounded
  else if argument.all Char.isDigit then
    some (ByteText.decimal argument * limit.unit % (unbounded + 1))
  else none

def mostDescriptors : Nat := 1048576

def Limit.refusal? (limit : Limit) (before bounds : Bounds) : Option SystemFault :=
  if Bounds.exceeds bounds.soft bounds.hard then some .invalid
  else if limit.resource.isNone && Bounds.exceeds bounds.hard (some mostDescriptors) then
    some .notPermitted
  else if Bounds.exceeds bounds.hard before.hard then some .notPermitted
  else none

def Limit.set (limit : Limit) (bounds : Bounds) (console : Console) : Console :=
  match limit.resource with
  | some resource =>
      { console with bounds := (resource, bounds) :: console.bounds.filter (·.1 ≠ resource) }
  | none =>
      let number (bound : Option Nat) : Int := bound.getD unbounded
      { console with
        ceiling := number bounds.hard
        process := { console.process with limit := number bounds.soft } }

def ulimit (arguments : List ByteText) : Run Nat := do
  let letters := "HSa" ++ String.ofList (limits.map Limit.letter)
  let (chosen, rest) ← Choices.read letters arguments
  let chosen := chosen.map Prod.fst
  let kinds := chosen.filter fun letter => letter = 'H' || letter = 'S'
  let hard := kinds.getLast? ≠ some 'S'
  let soft := kinds.getLast? ≠ some 'H'
  let all := chosen.contains 'a'
  let wanted := (chosen.filter fun letter => limits.any (·.letter = letter)).getLast?.getD 'f'
  let console := (← get).console
  let line (limit : Limit) : ByteText :=
    let bounds := limit.bounds console
    limit.text (if soft then bounds.soft else bounds.hard) ++ Run.newline
  match rest, limits.find? (·.letter = wanted) with
  | [], found =>
      if all then
        limits.forM fun limit =>
          let name := limit.name.toList ++ List.replicate (20 - limit.name.length) ' '
          Run.print (name ++ ' ' :: line limit)
      else (found.map line).forM Run.print
  | _, none => return 0
  | argument :: others, some limit =>
      if all || !others.isEmpty then Run.abort (Run.text "too many arguments")
      match limit.asked? argument with
      | none => Run.abort (Run.text "bad number")
      | some asked =>
          let bound := if asked = unbounded then none else some asked
          let before := limit.bounds console
          let bounds : Bounds :=
            ⟨if soft then bound else before.soft, if hard then bound else before.hard⟩
          match limit.refusal? before bounds with
          | some fault =>
              Run.abort (Run.text ("error setting limit (" ++ fault.reason ++ ")"))
          | none => Run.changeConsole (limit.set bounds)
  return 0

def maskLetters (mask : Nat) : ByteText :=
  let class_ (name : Char) (shift : Nat) : ByteText :=
    let bits := mask >>> shift
    let letter (bit : Nat) (letter : Char) : ByteText := if bits / bit % 2 = 0 then [letter] else []
    name :: '=' :: (letter 4 'r' ++ letter 2 'w' ++ letter 1 'x')
  class_ 'u' 6 ++ ',' :: class_ 'g' 3 ++ ',' :: class_ 'o' 0

def octal (mask : Nat) : ByteText :=
  let digits := Nat.toDigits 8 mask
  List.replicate (4 - digits.length) '0' ++ digits

def classes (letters : ByteText) : Nat :=
  let has (letter : Char) : Bool := letters.contains letter || letters.contains 'a'
  let positions := (if has 'u' then 64 else 0) + (if has 'g' then 8 else 0) +
    (if has 'o' then 1 else 0)
  if positions = 0 then 73 else positions

def permissions (before : Nat) (letters : ByteText) : Nat :=
  let bits : Char → Nat
    | 'r' => 4
    | 'w' => 2
    | 'x' => 1
    | 'u' => before / 64 % 8
    | 'g' => before / 8 % 8
    | 'o' => before % 8
    | 'X' => if before % 2 = 1 ∨ before / 8 % 2 = 1 ∨ before / 64 % 2 = 1 then 1 else 0
    | _ => 0
  letters.foldl (fun sum letter => sum ||| bits letter) 0

def changed (before : Nat) : Nat → Nat → Nat → ByteText → Option Nat
  -- The classes that were named hold until a comma.
  | 0, _, _, _ => none
  | count + 1, positions, permitted, text =>
      let named := text.takeWhile "augo".toList.contains
      let positions := if named = [] ∧ positions ≠ 0 then positions else
        if positions = 0 then classes named else positions ||| classes named
      match text.drop named.length with
      | sign :: rest =>
          if ¬ "=+-".toList.contains sign then none
          else
            let letters := rest.takeWhile "rwxugoXs".toList.contains
            let value := permissions before letters * positions
            let whole := positions * 7
            let permitted := match sign with
              | '+' => permitted ||| value
              | '-' => permitted - (permitted &&& value)
              | _ => value ||| (permitted - (permitted &&& whole))
            match rest.drop letters.length with
            | [] => some permitted
            | ',' :: rest => changed before count 0 permitted rest
            | next :: rest =>
                if "=+-".toList.contains next then
                  changed before count positions permitted (next :: rest)
                else none
      | [] => some permitted

def umask (arguments : List ByteText) : Run Nat := do
  let (chosen, rest) ← Choices.read "S" arguments
  let mask := (← get).console.mask
  match rest with
  | [] => Run.print ((if chosen.isEmpty then octal mask else maskLetters mask) ++ Run.newline)
  | argument :: _ =>
      if (argument.headD ' ').isDigit then
        if argument.all fun char => '0' ≤ char && char ≤ '7' then
          Run.changeConsole ({ · with mask := Numeral.value 8 argument % 512 })
        else Run.abort (Run.text "Illegal number: " ++ argument)
      else if argument ≠ [] then
        match changed (511 - mask) (argument.length + 1) 0 (511 - mask) argument with
        | some permitted => Run.changeConsole ({ · with mask := 511 - permitted % 512 })
        | none => Run.abort (Run.text "Illegal mode: " ++ argument)
  return 0

def times (_ : List ByteText) : Run Nat := do
  -- The time that has been used is not measured.
  Run.print (Run.text "0m0.000000s 0m0.000000s\n0m0.000000s 0m0.000000s\n")
  return 0

end DescriptorReaper.Shell.Jobs
