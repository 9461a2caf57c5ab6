import DescriptorReaper.Decimal
import DescriptorReaper.Table

/-!
Snapshots of the listing of open descriptors. An entry names a descriptor when its kind allows it
and its name is a plain numeral within 32 bits; the candidates of a snapshot are the descriptors
named, once each, ascending.
-/

namespace DescriptorReaper

/-- The greatest number that a descriptor can have. -/
def maxDescriptor : Int := 2147483647

inductive EntryKind where
  | symlink
  | charDevice
  | directory
  | other
  deriving DecidableEq, Repr

structure Entry where
  name : Bytes
  /-- Missing when the filesystem reports no kinds. -/
  kind : Option EntryKind
  deriving DecidableEq, Repr

/-- A complete snapshot. -/
structure Snapshot where
  /-- The descriptor the listing was read through. It is closed by now, but its number may stand
  among the entries. -/
  handle : Int
  entries : List Entry
  deriving DecidableEq, Repr

/-- The descriptor that a name denotes: signs, blanks and numbers beyond 32 bits denote none. -/
def descriptor? (name : Bytes) : Option Int :=
  match Decimal.natural? name with
  | some number => if (number : Int) ≤ maxDescriptor then some number else none
  | none => none

def Entry.descriptor? (entry : Entry) : Option Int :=
  match entry.kind with
  | some .directory | some .other => none
  | some .symlink | some .charDevice | none => DescriptorReaper.descriptor? entry.name

namespace Snapshot

/-- The descriptors from `low` up that the snapshot names, ascending. -/
def candidates (snapshot : Snapshot) (low : Int) : List Int :=
  Ascending.collect ((snapshot.entries.filterMap Entry.descriptor?).filter (low ≤ ·))

def descriptors (snapshot : Snapshot) : List Int :=
  (snapshot.candidates 0).filter (· ≠ snapshot.handle)

def ofTable (table : Table) (kind : Option EntryKind) (descending : Bool) : Snapshot :=
  let handle := table.lowestFree
  let numbers := (table.insert handle).fds
  let directory := kind.map fun _ => EntryKind.directory
  { handle
    entries := [⟨Utf8.encode ".", directory⟩, ⟨Utf8.encode "..", directory⟩] ++
      (if descending then numbers.reverse else numbers).map fun fd =>
        ⟨Decimal.signedDigits fd, kind⟩ }

def nameAtMost : Bytes → Bytes → Bool
  | [], _ => true
  | _ :: _, [] => false
  | first :: rest, other :: others =>
      if first = other then nameAtMost rest others else first < other

def sortedByName (snapshot : Snapshot) : Snapshot :=
  { snapshot with
    entries := snapshot.entries.mergeSort fun left right => nameAtMost left.name right.name }

end Snapshot

end DescriptorReaper
