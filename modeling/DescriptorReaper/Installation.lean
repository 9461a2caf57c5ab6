import DescriptorReaper.Decimal
import DescriptorReaper.SystemFault
import DescriptorReaper.SystemTree
import DescriptorReaper.Testimony

/-!
What a path leads to. A path is walked one component at a time from the root or from the directory
of a process, and a link on the way is followed; a walk follows so many links and no more. A
command name with a slash is a path, and any other is looked up along a search path. Only programs
can be executed, and every way a name can fail to denote one has its own cause.

A walk may lead through what a process has open: every process has a directory that holds a link
for each of its descriptors, and a descriptor of a directory can be walked through.
-/

namespace DescriptorReaper

/-- The programs that can be executed. -/
inductive Program where
  | reaper
  | lister
  | echo
  | succeed
  | fail
  | shell
  deriving DecidableEq, Repr

namespace Installation

/-- What stands at a place of the file tree. -/
inductive Node where
  | directory
  | file
  | device
  | pipe (pipe : Pipe)
  | program (program : Program)
  | link
  deriving DecidableEq, Repr

def usualHome : Place := ["usr", "local", "bin"]

def place (home : Place) : Program → Place
  | .reaper => home ++ ["closefrom"]
  | .lister => home ++ ["lsfd"]
  | .echo => ["usr", "bin", "echo"]
  | .succeed => ["usr", "bin", "true"]
  | .fail => ["usr", "bin", "false"]
  | .shell => ["usr", "bin", "dash"]

def path (home : Place) (program : Program) : String := (place home program).path

def programs : List Program := [.reaper, .lister, .echo, .succeed, .fail, .shell]

def node? (home spot : Place) : Option Node :=
  if SystemTree.isDirectory spot || spot.isPrefixOf home then some .directory
  else if SystemTree.isFile spot then some .file
  else if spot ∈ SystemTree.devices then some .device
  else (programs.find? (place home · = spot)).map .program

def processDirectories : List String :=
  ["attr", "fd", "fdinfo", "map_files", "net", "ns", "task"]

def processFiles : List String :=
  ["arch_status", "auxv", "cgroup", "clear_refs", "cmdline", "comm", "coredump_filter", "cpuset",
   "environ", "gid_map", "io", "limits", "loginuid", "maps", "mem", "mountinfo", "mounts",
   "mountstats", "numa_maps", "oom_adj", "oom_score", "oom_score_adj", "pagemap", "personality",
   "projid_map", "sched", "schedstat", "sessionid", "setgroups", "smaps", "smaps_rollup", "stack",
   "stat", "statm", "status", "syscall", "timens_offsets", "timers", "timerslack_ns", "uid_map",
   "wchan"]

def namespaces : List String :=
  ["cgroup", "ipc", "mnt", "net", "pid", "pid_for_children", "time", "time_for_children", "user",
   "uts"]

structure Presence where
  number : Nat
  program : Program
  testimony : Testimony
  directory : Place
  descriptors : List (Int × Target)

def Presence.target? (presence : Presence) (name : String) : Option Target :=
  let digits := Utf8.encode name
  match Decimal.natural? digits with
  | some number =>
      if Decimal.digits number = digits then presence.descriptors.lookup (number : Int) else none
  | none => none

/-- What a process sees: itself, the processes that wait for it, and files that were made. -/
structure View where
  home : Place
  self : Presence
  others : List Presence
  made : List Place

structure Found where
  place : Place
  node : Node
  deriving DecidableEq, Repr

inductive Leap where
  | along (link : SystemTree.Link)
  | straight (found : Found)

def View.standing? (view : View) (spot : Place) : Option Node :=
  if spot ∈ view.made then some .file else node? view.home spot

def processNode? (presence : Presence) : List String → Option Node
  | [] => some .directory
  | [name] =>
      if name ∈ processDirectories then some .directory
      else if name ∈ processFiles then some .file
      else none
  | ["fdinfo", name] => (presence.target? name).map fun _ => .file
  | _ => none

def View.owner? (view : View) (spot : Place) : Option (Presence × List String) :=
  -- Each process is its own only thread.
  match spot with
  | "proc" :: owner :: within =>
      let named := (view.self :: view.others).find? fun presence =>
        toString presence.number = owner
      named.map fun presence =>
        match within with
        | "task" :: thread :: within =>
            if thread = owner then (presence, within) else (presence, "task" :: thread :: within)
        | within => (presence, within)
  | _ => none

def View.node? (view : View) (spot : Place) : Option Node :=
  match view.owner? spot with
  | some (presence, within) => processNode? presence within
  | none => view.standing? spot

def View.behind (view : View) (spot : Place) : Target → Found
  | .pipe pipe _ => ⟨spot, .pipe pipe⟩
  | .file place _ _ => ⟨place, (view.node? place).getD .file⟩

def View.processLeap? (view : View) (presence : Presence) (spot : Place) :
    List String → Option Leap
  | ["cwd"] => some (.straight ⟨presence.directory, .directory⟩)
  | ["root"] => some (.straight ⟨[], .directory⟩)
  | ["exe"] => 
      some (.straight ⟨place view.home presence.program, .program presence.program⟩)
  | ["fd", name] => (presence.target? name).map fun target => .straight (view.behind spot target)
  | ["ns", name] => if name ∈ namespaces then some (.straight ⟨spot, .file⟩) else none
  | _ => none

def View.leap? (view : View) (spot : Place) : Option Leap :=
  let number := toString view.self.number
  match view.owner? spot with
  | some (presence, within) => view.processLeap? presence spot within
  | none =>
      if spot = ["proc", "self"] then some (.along ⟨false, [number]⟩)
      else if spot = ["proc", "thread-self"] then some (.along ⟨false, [number, "task", number]⟩)
      else (SystemTree.links.lookup spot).map .along

def components : Bytes → List Bytes
  | [] => [[]]
  | byte :: rest =>
      match components rest with
      | [] => [[byte]]
      | first :: others => if byte = 47 then [] :: first :: others else (byte :: first) :: others

def longestName : Nat := 255

def longestPath : Nat := 4095

def mostLinks : Nat := 40

def absence (directory : Place) (name : Bytes) : SystemFault :=
  if longestName < name.length ∧ directory.head? ≠ some "proc" then .nameTooLong else .notFound

/-- Walk on from a place. Only a directory can be walked through, even by an empty component; a link
at the very end may be left alone. -/
def View.walk (view : View) (followsLast : Bool) (left : Nat) (found : Found)
    (names : List Bytes) : Except SystemFault Found :=
  match names with
  | [] => .ok found
  | name :: rest =>
      if found.node ≠ .directory then .error .notDirectory
      else if name = [] ∨ name = [46] then view.walk followsLast left found rest
      else if name = [46, 46] then
        view.walk followsLast left ⟨found.place.dropLast, .directory⟩ rest
      else
        let spot := found.place ++ [Utf8.display name]
        match view.leap? spot with
        | some leap =>
            if rest = [] ∧ ¬ followsLast then .ok ⟨spot, .link⟩
            else
              match left with
              | 0 => .error .tooManyLinks
              | left + 1 =>
                  match leap with
                  | .straight found => view.walk followsLast left found rest
                  | .along link =>
                      let start := if link.fromRoot then [] else found.place
                      view.walk followsLast left ⟨start, .directory⟩
                        (link.names.map Utf8.encode ++ rest)
        | none =>
            match view.node? spot with
            | some node => view.walk followsLast left ⟨spot, node⟩ rest
            | none => .error (absence found.place name)
termination_by (left, names.length)

def View.walkPath (view : View) (followsLast : Bool) (names : List Bytes) :
    Except SystemFault Found :=
  let start := if names.head? = some [] then [] else view.self.directory
  view.walk followsLast mostLinks ⟨start, .directory⟩ names

def View.reach (view : View) (followsLast : Bool) (path : Bytes) : Except SystemFault Found :=
  if path = [] then .error .notFound
  else if longestPath < path.length then .error .nameTooLong
  else view.walkPath followsLast (components path)

def View.resolve (view : View) (path : Bytes) : Except SystemFault Found := view.reach true path

def View.isLink (view : View) (path : Bytes) : Bool :=
  match view.reach false path with
  | .ok found => found.node = .link
  | .error _ => false

def View.told (view : View) (spot : Place) : Bytes :=
  match view.owner? spot with
  | some (presence, within) =>
      presence.testimony.file (presence.number = view.self.number) within
  | none => SystemTree.text spot

def runnable : Except SystemFault Found → Except SystemFault Program
  | .ok ⟨_, .program program⟩ => .ok program
  | .ok _ => .error .permissionDenied
  | .error fault => .error fault

def searchParts : Bytes → List Bytes
  | [] => [[]]
  | byte :: rest =>
      match searchParts rest with
      | [] => [[byte]]
      | first :: others => if byte = 58 then [] :: first :: others else (byte :: first) :: others

def nameIn (part name : Bytes) : Bytes := if part = [] then name else part ++ 47 :: name

def longestPart : Nat := 4095

/-- Look a bare name up. That nothing is found counts only when nothing else is wrong with a later
part; that something may not be executed counts in the end; any other fault ends the search. A part
that is passed over counts as an empty one unless it is the last. The path of what was found comes
with it. -/
def View.search (view : View) (name : Bytes) :
    List Bytes → SystemFault → Bool → Except SystemFault (Bytes × Program)
  | [], fault, denied => .error (if denied then .permissionDenied else fault)
  | part :: rest, before, denied =>
      let isLong : Bool := longestPart < part.length
      if isLong && rest.isEmpty then .error (if denied then .permissionDenied else before)
      else
        let path := nameIn (if isLong then [] else part) name
        match runnable (view.resolve path) with
        | .ok program => .ok (path, program)
        | .error .permissionDenied => view.search name rest .permissionDenied true
        | .error .notFound => view.search name rest .notFound denied
        | .error .notDirectory => view.search name rest .notDirectory denied
        | .error other => .error other

def usualSearch : Bytes := Utf8.encode "/bin:/usr/bin"

def View.find (view : View) (search : Option Bytes) (name : Bytes) :
    Except SystemFault (Bytes × Program) :=
  -- What no directory can hold is cut off a name that is looked up.
  if 47 ∈ name then (runnable (view.resolve name)).map fun program => (name, program)
  else if name = [] then .error .notFound
  else
    view.search (name.take (longestName + 1)) (searchParts (search.getD usualSearch)) .none false

def View.names (view : View) (directory : Place) : List String :=
  let above := (List.range (view.home.length + 1)).map view.home.take
  let others := SystemTree.devices ++ above ++ programs.map (place view.home) ++
    SystemTree.links.map (·.1) ++ view.made
  let children := others.filter fun spot => spot ≠ [] ∧ spot.dropLast = directory
  let named := (SystemTree.names directory ++ children.map fun spot => spot.getLastD "").eraseDups
  match view.owner? directory with
  | some (presence, []) =>
      processDirectories ++ processFiles ++ ["cwd", "exe", "root"] ++ named.filter fun name =>
        name ≠ toString presence.number
  | some (_, ["ns"]) => namespaces
  | some (presence, ["fd"]) | some (presence, ["fdinfo"]) =>
      presence.descriptors.map fun (fd, _) => toString fd
  | some (presence, ["task"]) => [toString presence.number]
  | _ =>
      if directory = ["proc"] then
        "self" :: "thread-self" :: toString view.self.number ::
          view.others.map (toString ·.number) ++ named
      else named

end Installation

end DescriptorReaper
