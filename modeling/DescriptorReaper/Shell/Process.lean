import DescriptorReaper.Shell.State

/-!
Processes that a shell starts, and what becomes of it in the end. Each process runs to its end
before the shell goes on, and leaves its end, what it did to the things that all processes share,
and perhaps a signal. A signal sets off an action between two commands.
-/

namespace DescriptorReaper.Run

def resume (someEnded : Bool) : Run Unit := do
  let shell ← get
  let (signals, machine) := shell.console.machine.notice shell.console.number
  set { shell with console := { shell.console with machine } }
  signals.forM receive
  if someEnded then receive Shell.Signal.child

def isStarting (job : Job Shell) : Bool :=
  match job.progress with
  | .starting _ _ => true
  | .ended _ => false

def hasTraps (shell : Shell) : Bool := shell.traps.any (·.2 ≠ [])

section Traps

variable (obey : ByteText → Run Unit)

def act (status signal : Nat) : Run Unit := do
  -- What is being passed over puts the action off.
  let shell ← get
  if shell.caught.contains signal && shell.skip.isNone then
    set { shell with caught := shell.caught.filter (· ≠ signal) }
    match shell.traps.lookup signal with
    | some action =>
        obey action
        if (← get).skip ≠ some (.returning true) then setStatus status
    | none => return

def actAll : Run Unit := do
  -- The actions see the status at hand, and leave it.
  let shell ← get
  if shell.caught ≠ [] then
    let status := shell.saved.getD shell.status
    set { shell with saved := some status }
    (List.range Shell.Signal.bound).forM (act obey status)
    modify fun after => { after with saved := shell.saved }

def undoRedirections (lasting : Bool) (shell : Shell) : Shell :=
  match shell.kept with
  | [] => shell
  | kept :: rest =>
      let undo (console : Console) : Int × Option Int → Console
        | (fd, none) => if lasting then console else console.detach fd
        | (fd, some number) =>
            let console :=
              match lasting, console.target? number with
              | false, some target =>
                  if fd < console.process.limit then console.attach fd target else console
              | _, _ => console
            console.detach number
      { shell with console := kept.foldl undo shell.console, kept := rest }

def undoAll (shell : Shell) : Nat → Shell
  | 0 => shell
  | count + 1 => undoAll (undoRedirections false shell) count

def lastStatus (halt : Halt) (shell : Shell) : Nat :=
  if halt = .exit then shell.saved.getD shell.status else shell.status

def close (halt : Halt) (shell : Shell) : Ending × Shell :=
  let status := lastStatus halt shell
  let shell := undoAll shell shell.kept.length
  let shell := { shell with
    status, skip := none, loops := 0, saved := some status, isTracing := false, within := none }
  match shell.traps.lookup 0 with
  | none => (.exited (status % 256), shell)
  | some action =>
      let start := { shell with traps := shell.traps.filter (·.1 ≠ 0) }
      match (obey action).run start with
      | (.ok (), shell) => (.exited (shell.saved.getD status % 256), shell)
      | (.error (.gone ending), shell) => (ending, shell)
      | (.error halt, shell) => (.exited (lastStatus halt shell % 256), shell)

/-- Run a process to its end. -/
def ending (work : Run Unit) (shell : Shell) : Ending × Shell :=
  match work.run shell with
  | (.ok (), shell) => close obey .over shell
  | (.error (.gone ending), shell) => (ending, shell)
  | (.error halt, shell) => close obey halt shell

def forked (shell : Shell) (number : Nat) : Shell :=
  -- It takes no actions that the shell would take, it does not undo what the shell will undo, and
  -- it knows nothing of other processes but those that wait for it.
  let console := shell.sources.foldl Console.detach shell.console
  { shell with
    console := { console with
      number
      parent := shell.console.number
      others := shell.console.presence .shell :: shell.console.others }
    traps := shell.traps.filter (·.2 = [])
    caught := []
    jobs := []
    left := []
    kept := []
    readLine := shell.mainLine
    sources := [] }

def effort : Nat := 25

/-- Run work in a process of its own, which has a number and is made ready first. Jobs that it
leaves behind go on without it. Its work counts for the shell too. -/
def apart (number : Nat) (prepare : Shell → Shell) (work : Run Unit) : Run Ending := do
  let shell ← get
  let start := prepare (forked shell number)
  let (ending, after) := ending obey work start
  set { shell with
    patience := shell.patience - (start.patience - after.patience) - effort
    console := { shell.console with machine := after.console.machine }
    left := shell.left ++ after.left ++ after.jobs.reverse.filter isStarting }
  return ending

end Traps

def nextNumber : Run Nat := do
  let shell ← get
  let (number, machine) := shell.console.machine.process
  set { shell with console := { shell.console with machine } }
  return number

def isAtWork (job : Job Shell) : Bool :=
  match job.progress with
  | .starting _ _ => true
  | .ended endings => !job.reaped && endings.getLast? = some (.killed Shell.Signal.pipe)

def reap (jobs : List (Job Shell)) : List (Job Shell) :=
  jobs.map fun job => if isAtWork job then job else { job with reaped := true }

def statusOf : Ending → Nat
  | .exited status => status
  | .killed signal => 128 + signal

def mourn : Ending → Run Unit
  | .killed signal => do
      if signal ≠ Shell.Signal.interrupt ∧ signal ≠ Shell.Signal.pipe then
        tell Console.errorStream (text (Shell.Signal.words signal) ++ newline)
  | .exited _ => return

/-- Wait for processes that have just ended; the last one gives the status. -/
def await (endings : List Ending) : Run Nat := do
  modify fun shell => { shell with jobs := reap shell.jobs }
  endings.forM mourn
  resume true
  return (endings.getLast?.map statusOf).getD 0

def freeJob (jobs : List (Job Shell)) : Nat × List (Job Shell) :=
  -- A job that has been waited for gives its number up.
  let isTaken (number : Nat) : Bool :=
    jobs.any fun job => job.number = number && !(job.reaped && job.waited)
  let free := ((List.range (jobs.length + 1)).map (· + 1)).find? (!isTaken ·)
  let number := free.getD 1
  (number, jobs.filter (·.number ≠ number))

def sourcesOf (job : Job Shell) : List Pipe :=
  match job.progress with
  | .starting start _ => start.console.sources
  | .ended _ => []

def addJob (processes : List Nat) (task : Task) : Run Unit := do
  let shell ← get
  let (number, jobs) := freeJob shell.jobs
  let progress : Progress Shell := .starting { shell with jobs := [], left := [] } task
  let job : Job Shell := { number, processes, progress }
  set { shell with
    console := { shell.console with machine := shell.console.machine.promise (sourcesOf job) }
    jobs := job :: jobs
    lastChild := processes.getLast?.or shell.lastChild }

def makeRoom : Run Unit := modify fun shell => { shell with jobs := (freeJob shell.jobs).2 }

def launch (spawn : Spawn) (inPlace : Bool) (program : Program) (name : ByteText)
    (arguments : List ByteText) : Run Nat := do
  let shell ← get
  let start (console : Console) : Ending × Console :=
    spawn program name.bytes (arguments.map ByteText.bytes)
      { console.takeOver with environment := shell.environment }
  if inPlace then
    let (ending, console) := start shell.console
    set { shell with console }
    throw (.gone ending)
  else
    let number ← nextNumber
    let (ending, after) := start (forked (← get) number).console
    makeRoom
    modify fun shell => { shell with
      patience := shell.patience - effort
      console := { shell.console with machine := after.machine } }
    await [ending]

end DescriptorReaper.Run
