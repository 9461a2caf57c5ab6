import DescriptorReaper.Bounds
import DescriptorReaper.Installation
import DescriptorReaper.LogFilter
import DescriptorReaper.Machine
import DescriptorReaper.ProcessState

/-!
A process seen from outside: what its descriptors refer to, the environment it was started in, and
how it logs. Writing to a stream that is closed loses the text without an error; a stream on a full
device breaks a program off that insists on its text. An event becomes a line on the error stream
at the moment it is emitted, so what is emitted after that stream is closed is never seen.
-/

namespace DescriptorReaper

structure Console where
  home : Place
  process : ProcessState
  links : List (Int × Target)
  -- Descriptors that are closed when another program takes over.
  hidden : List Int := []
  environment : List (String × Bytes)
  directory : Place
  ignored : List Nat := []
  number : Nat
  parent : Nat
  command : List Bytes := []
  title : Option Bytes := none
  -- The limit that the limit on descriptors may be raised to.
  ceiling : Int
  bounds : List (Resource × Bounds) := []
  mask : Nat
  others : List Installation.Presence := []
  filter : LogFilter := []
  -- Why a line that had to be written could not be.
  failure : Option SystemFault := none
  machine : Machine

namespace Console

def inputStream : Int := 0

def outputStream : Int := 1

def errorStream : Int := 2

def newline : UInt8 := 10

def target? (console : Console) (fd : Int) : Option Target :=
  if fd ∈ console.process.table then console.links.lookup fd else none

def boundsOf (console : Console) (resource : Resource) : Bounds :=
  (console.bounds.lookup resource).getD (.usual resource)

def testimony (console : Console) : Testimony where
  number := console.number
  parent := console.parent
  command := console.command
  title := console.title
  environment := console.environment
  mask := console.mask
  bounds := console.boundsOf
  descriptors := ⟨some console.process.limit.toNat, some console.ceiling.toNat⟩
  ignored := console.ignored

def presence (console : Console) (program : Program) : Installation.Presence where
  number := console.number
  program
  testimony := console.testimony
  directory := console.directory
  descriptors := console.process.table.fds.filterMap fun fd =>
    (console.links.lookup fd).map fun target => (fd, target)

def view (console : Console) (program : Program) : Installation.View where
  home := console.home
  self := console.presence program
  others := console.others
  made := console.machine.contents.map (·.1)

def sources (console : Console) : List Pipe :=
  console.links.filterMap fun (fd, target) =>
    target.source?.filter fun _ => fd ∈ console.process.table

def isRead (console : Console) (pipe : Pipe) : Bool :=
  -- Whoever starts a run reads the pipes of the run.
  match pipe with
  | .output | .errors => true
  | .laid _ =>
      !console.machine.isStuffed pipe &&
        (console.sources.contains pipe || console.machine.promised.contains pipe ||
          console.others.any fun presence =>
            presence.descriptors.any fun (_, target) => target.source? = some pipe)

def attach (console : Console) (fd : Int) (target : Target) : Console :=
  { console with
    process := { console.process with table := console.process.table.insert fd }
    links := (fd, target) :: console.links.filter (·.1 ≠ fd)
    hidden := console.hidden.filter (· ≠ fd) }

def attachHidden (console : Console) (fd : Int) (target : Target) : Console :=
  let console := console.attach fd target
  { console with hidden := fd :: console.hidden }

def detach (console : Console) (fd : Int) : Console :=
  { console with
    process := { console.process with table := console.process.table.erase fd }
    hidden := console.hidden.filter (· ≠ fd) }

def takeOver (console : Console) : Console :=
  { console with
    process := { console.process with table := console.process.table.eraseAll console.hidden }
    hidden := [] }

def free? (console : Console) (low : Int) : Option Int :=
  let number := Ascending.firstGap low (console.process.table.fds.filter (low ≤ ·))
  if number < console.process.limit then some number else none

structure Opening where
  access : Access
  creates : Bool := false
  truncates : Bool := false
  fresh : Bool := false
  deriving DecidableEq, Repr

def openPlace (console : Console) (place : Place) (access : Access) : Target × Console :=
  let (opening, machine) := console.machine.opening
  (.file place access opening, { console with machine })

def make (console : Console) (view : Installation.View) (path : Bytes) (access : Access) :
    Except SystemFault (Target × Console) :=
  -- The directories of processes take no new files.
  let names := Installation.components path
  match view.walkPath true names.dropLast, names.getLast? with
  | .ok ⟨place, .directory⟩, some name =>
      if path = [] then .error .notFound
      else if place.head? = some "proc" then .error .notFound
      else if place.head? = some "sys" then .error .permissionDenied
      else
        let place := place ++ [Utf8.display name]
        .ok ({ console with machine := console.machine.setContent place .empty }.openPlace place access)
  | .ok _, _ => .error .notDirectory
  | .error fault, _ => .error fault

def keeps (console : Console) (place : Place) : Bool :=
  console.machine.contents.any (·.1 = place) ||
    (SystemTree.isFile place && place.head? ≠ some "proc" && place.head? ≠ some "sys")

def openFound (console : Console) (view : Installation.View) (found : Installation.Found)
    (opening : Opening) : Except SystemFault (Target × Console) :=
  let ⟨place, node⟩ := found
  let writes := opening.access.writes
  let opened (console : Console) : Except SystemFault (Target × Console) :=
    .ok (console.openPlace place opening.access)
  match node with
  | .pipe pipe => .ok (.pipe pipe opening.access, console)
  | .directory => if writes then .error .isDirectory else opened console
  | .device => if place = ["dev", "tty"] then .error .noDevice else opened console
  | .file =>
      if writes && SystemTree.isGuarded place then .error .permissionDenied
      else if opening.truncates && console.keeps place then
        opened { console with machine := console.machine.setContent place .empty }
      else opened console
  | .program program =>
      let running := view.self :: view.others
      if writes && running.any (·.program = program) then .error .textBusy else opened console
  | .link => opened console

def slashFault? (view : Installation.View) (path : Bytes) : Option SystemFault :=
  let names := ((Installation.components path).reverse.dropWhile (· = [])).reverse
  let last := names.getLast?.getD [46]
  if path.getLast? ≠ some 47 || Installation.longestPath < path.length || last = [46] ||
      last = [46, 46] then none
  else
    match view.walkPath true names.dropLast with
    | .ok ⟨_, .directory⟩ => some .isDirectory
    | .ok _ => some .notDirectory
    | .error fault => some fault

def openPath (console : Console) (program : Program) (path : Bytes) (opening : Opening) :
    Except SystemFault (Target × Console) :=
  let view := console.view program
  match if opening.creates then slashFault? view path else none with
  | some fault => .error fault
  | none =>
      match view.resolve path with
      | .ok found => if opening.fresh then .error .exists else console.openFound view found opening
      | .error .notFound =>
          if opening.creates then console.make view path opening.access else .error .notFound
      | .error fault => .error fault

def putUnkept (console : Console) (place : Place) (text : Bytes) : Option SystemFault × Console :=
  -- Of what the system tells, little can be told to it.
  match (console.view .shell).owner? place with
  | some (presence, ["comm"]) =>
      if presence.number = console.number then
        (none, { console with title := some text })
      else (some .invalid, console)
  | some _ => (some .invalid, console)
  | none =>
      if place.head? = some "proc" ∧ SystemTree.isFile place ∧ place.length = 2 then
        (some .inputOutput, console)
      else (none, console)

def content (console : Console) (place : Place) : ByteArray :=
  match console.machine.contents.lookup place with
  | some content => content
  | none => ⟨((console.view .shell).told place).toArray⟩

def room? (console : Console) (place : Place) (opening : Nat) (access : Access) : Option Nat :=
  let start := if access.appends then (console.content place).size
    else console.machine.position opening
  (console.boundsOf .fileSize).soft.map (· - start)

/-- Write text to a descriptor. What fits is written even if the rest is not. -/
def put (console : Console) (fd : Int) (text : Bytes) : Option SystemFault × Console :=
  match console.target? fd with
  | none => (some .badDescriptor, console)
  | some target =>
      if ¬ target.access.writes then (some .badDescriptor, console)
      else
        match target with
        | .pipe pipe _ =>
            if text = [] ∨ console.isRead pipe then
              (none, { console with machine := console.machine.writePipe pipe text })
            else (some .brokenPipe, console)
        | .file place access opening =>
            if place = Target.fullPlace then
              (if text = [] then none else some .noSpace, console)
            else if console.keeps place then
              let room := (console.room? place opening access).getD text.length
              let part := text.take room
              let before := console.content place
              let machine := console.machine.writeFile place before opening access.appends part
              (if part.length < text.length then some .tooLarge else none,
                if text ≠ [] ∧ part = [] then console else { console with machine })
            else console.putUnkept place text

/-- Write text that only a closed stream may lose. -/
def insist (console : Console) (fd : Int) (text : Bytes) : Console :=
  match console.put fd text with
  | (none, console) | (some .badDescriptor, console) => console
  | (some fault, console) => { console with failure := console.failure.or (some fault) }

def get (console : Console) (fd : Int) (count : Nat) : Except SystemFault (Bytes × Console) :=
  match console.target? fd with
  | none => .error .badDescriptor
  | some target =>
      if ¬ target.access.reads then .error .badDescriptor
      else
        match target with
        | .pipe pipe _ =>
            let (text, machine) := console.machine.readPipe pipe count
            .ok (text, { console with machine })
        | .file place _ opening =>
            match (console.view .shell).node? place with
            | some .directory => .error .isDirectory
            | some .device =>
                if place = ["dev", "zero"] ∨ place = Target.fullPlace then
                  .ok (List.replicate count 0, console)
                else .ok ([], console)
            | _ =>
                let (text, machine) := console.machine.readFile (console.content place) opening count
                .ok (text, { console with machine })

def line (text : String) : Bytes := Utf8.encode text ++ [newline]

def received (console : Console) (pipe : Pipe) : Bytes := console.machine.waiting pipe

def logVariable : String := "RUST_LOG"

def searchVariable : String := "PATH"

/-- Log by what the environment asks for, or else by the verbosity. -/
def startLogging (console : Console) (verbosity : Nat) : Console :=
  match LogFilter.choose (console.environment.lookup logVariable) verbosity with
  | some filter => { console with filter }
  | none => { console with failure := some .invalid }

def openStandard? (console : Console) : Option Console :=
  let missing := [inputStream, outputStream, errorStream].filter (· ∉ console.process.table)
  let opened := missing.foldl
    (fun console fd =>
      let (target, console) :=
        console.openPlace Target.nullPlace { reads := true, writes := true }
      console.attach fd target)
    console
  if missing.all (· < console.process.limit) then some opened else none

def startDirectory : Place := ["srv"]

def startNumber : Nat := 4194303

def startEnvironment (logging : Option Bytes) : List (String × Bytes) :=
  let usual := [("HOME", Utf8.encode "/root"), ("NO_COLOR", Utf8.encode "1"),
    (searchVariable, Utf8.encode "/usr/local/sbin:/usr/local/bin:/usr/sbin:/usr/bin:/sbin:/bin")]
  (logging.map fun value => (logVariable, value)).toList ++ usual

def standard (home : Place) (limit : Int) (logging : Option Bytes) : Console where
  home
  process := ⟨.standard, limit⟩
  links :=
    [(inputStream, .file Target.nullPlace .reading 0), (outputStream, .pipe .output .writing),
     (errorStream, .pipe .errors .writing)]
  environment := startEnvironment logging
  directory := startDirectory
  number := startNumber
  parent := startNumber - 1
  ceiling := 1048576
  mask := 18
  machine := { openings := 1, nextProcess := startNumber + 1 }

def withFile (console : Console) (fd : Int) (path : String) : Console :=
  match console.openPath .reaper (Utf8.encode path) { access := .reading } with
  | .ok (target, console) => console.attach fd target
  | .error _ => console

/-- A process as it is started, with files opened one after the other, so that the path of a later
one may lead through an earlier one. -/
def start (home : Place) (files : List (Int × String)) (limit : Int) (logging : Option Bytes) :
    Console :=
  files.foldl (fun console (fd, path) => console.withFile fd path) (standard home limit logging)

instance : Kernel Console where
  offersRange console :=
    let (answer, process) := Kernel.offersRange console.process
    (answer, { console with process })
  offersDir dir console :=
    let (answer, process) := Kernel.offersDir dir console.process
    (answer, { console with process })
  closeRange low console :=
    let (answer, process) := Kernel.closeRange low console.process
    (answer, { console with process })
  close fd console :=
    let (answer, process) := Kernel.close fd console.process
    (answer, { console with process })
  snapshot dir console :=
    let (answer, process) := Kernel.snapshot dir console.process
    (answer, { console with process })
  limit console :=
    let (answer, process) := Kernel.limit console.process
    (answer, { console with process })
  emit event console :=
    if console.filter.enables event then console.insist errorStream (line event.line)
    else console

end Console

end DescriptorReaper
