import DescriptorReaper.Kernel

/-!
A kernel whose answers are scripted. It has a table, and its script says which calls exist, which
fail, what the listing shows, which closes fail, and which descriptors go away along with others.
-/

namespace DescriptorReaper

structure RangeFault where
  error : Errno
  closesFrom : Option Int := none
  deriving DecidableEq, Repr

/-- How the close of an open descriptor fails; it may release the descriptor all the same. -/
structure CloseFault where
  fd : Int
  error : Errno
  releases : Bool
  deriving DecidableEq, Repr

/-- Closing `fd`, or trying to, takes the descriptors `taken` away. -/
structure SideClose where
  fd : Int
  taken : List Int
  deriving DecidableEq, Repr

inductive SnapshotSource where
  | live (kind : Option EntryKind) (descending : Bool)
  | fixed (snapshot : Snapshot)
  | failing (error : Errno)
  deriving DecidableEq, Repr

/-- A table and the script that decides what becomes of calls on it. -/
structure World where
  table : Table := .standard
  offersRange : Bool := true
  rangeFault : Option RangeFault := none
  dirs : List ListingDir := [.procSelfFd]
  listing : SnapshotSource := .live (some .symlink) false
  limit : Except Errno (Option Int) := .ok (some 64)
  closeFaults : List CloseFault := []
  sideCloses : List SideClose := []

namespace World

def closeFault? (world : World) (fd : Int) : Option CloseFault :=
  world.closeFaults.reverse.find? (·.fd = fd)

def takenWith (world : World) (fd : Int) : List Int :=
  ((world.sideCloses.reverse.find? (·.fd = fd)).map (·.taken)).getD []

def closeAnswer (world : World) (fd : Int) : Except Errno Unit :=
  if fd ∈ world.table then
    match world.closeFault? fd with
    | some fault => .error fault.error
    | none => .ok ()
  else .error .ebadf

def releases (world : World) (fd : Int) : Bool :=
  match world.closeFault? fd with
  | some fault => fault.releases
  | none => true

def tableAfterClose (world : World) (fd : Int) : Table :=
  let table := if world.releases fd then world.table.erase fd else world.table
  table.eraseAll (world.takenWith fd)

def rangeAnswer (world : World) : Except Errno Unit :=
  match world.rangeFault with
  | none => .ok ()
  | some fault => .error fault.error

/-- The table after a range call, which may fail after a part of its work. -/
def tableAfterRange (world : World) (low : Int) : Table :=
  match world.rangeFault with
  | none => world.table.closeFrom low
  | some fault =>
      match fault.closesFrom with
      | none => world.table
      | some start => world.table.closeFrom (max low start)

def snapshot (world : World) : Except Errno Snapshot :=
  match world.listing with
  | .live kind descending => .ok (.ofTable world.table kind descending)
  | .fixed snapshot => .ok snapshot
  | .failing error => .error error

instance : Kernel World where
  offersRange world := (world.offersRange, world)
  offersDir dir world := (decide (dir ∈ world.dirs), world)
  closeRange low world := (world.rangeAnswer, { world with table := world.tableAfterRange low })
  close fd world := (world.closeAnswer fd, { world with table := world.tableAfterClose fd })
  snapshot _ world := (world.snapshot, world)
  limit world := (world.limit, world)
  emit _ world := world

structure Change where
  table : Option Table := none
  offersRange : Option Bool := none
  rangeFault : Option (Option RangeFault) := none
  dirs : Option (List ListingDir) := none
  listing : Option SnapshotSource := none
  limit : Option (Except Errno (Option Int)) := none
  closeFaults : Option (List CloseFault) := none
  sideCloses : Option (List SideClose) := none

def Change.apply (change : Change) (world : World) : World where
  table := change.table.getD world.table
  offersRange := change.offersRange.getD world.offersRange
  rangeFault := change.rangeFault.getD world.rangeFault
  dirs := change.dirs.getD world.dirs
  listing := change.listing.getD world.listing
  limit := change.limit.getD world.limit
  closeFaults := change.closeFaults.getD world.closeFaults
  sideCloses := change.sideCloses.getD world.sideCloses

end World

end DescriptorReaper
