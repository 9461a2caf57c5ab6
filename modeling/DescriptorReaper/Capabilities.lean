/-!
The strategies for closing descriptors and what a system offers for them. The tiers are ordered
from the fastest strategy to the slowest; a restriction to a tier takes every faster one away and
never adds one.
-/

namespace DescriptorReaper

/-- A closing strategy, fastest first. -/
inductive Tier where
  | rangeCall
  | listing
  | bruteForce
  deriving DecidableEq, Repr

namespace Tier

def all : List Tier := [.rangeCall, .listing, .bruteForce]

def rank : Tier → Nat
  | .rangeCall => 0
  | .listing => 1
  | .bruteForce => 2

instance : LE Tier where
  le left right := left.rank ≤ right.rank

instance (left right : Tier) : Decidable (left ≤ right) :=
  inferInstanceAs (Decidable (left.rank ≤ right.rank))

instance : Ord Tier where
  compare left right := compare left.rank right.rank

def name : Tier → String
  | .rangeCall => "close-range"
  | .listing => "fd-dir"
  | .bruteForce => "brute-force"

def label : Tier → String
  | .rangeCall => "CloseRange"
  | .listing => "FdDir"
  | .bruteForce => "BruteForce"

def ofName? (name : String) : Option Tier := all.find? (·.name == name)

def unknownName : String := "Matching variant not found"

end Tier

/-- A directory that lists the open descriptors of the process that reads it. -/
inductive ListingDir where
  | procSelfFd
  | devFd
  deriving DecidableEq, Repr

namespace ListingDir

def path : ListingDir → String
  | .procSelfFd => "/proc/self/fd"
  | .devFd => "/dev/fd"

def label : ListingDir → String
  | .procSelfFd => "ProcSelfFd"
  | .devFd => "DevFd"

def all : List ListingDir := [.procSelfFd, .devFd]

def ofPath? (path : String) : Option ListingDir := all.find? (·.path == path)

def native : ListingDir := .procSelfFd

end ListingDir

/-- Which of the strategies faster than brute force may be used. -/
structure Capabilities where
  rangeCall : Bool
  listingDir : Option ListingDir
  deriving DecidableEq, Repr

namespace Capabilities

def none : Capabilities := ⟨false, Option.none⟩

/-- Disable every strategy faster than a tier. -/
def noFasterThan (caps : Capabilities) (tier : Tier) : Capabilities where
  rangeCall := caps.rangeCall && decide (tier ≤ .rangeCall)
  listingDir := caps.listingDir.filter fun _ => decide (tier ≤ .listing)

def restrict (caps : Capabilities) : Option Tier → Capabilities
  | some tier => caps.noFasterThan tier
  | Option.none => caps

def label (caps : Capabilities) : String :=
  let dir := match caps.listingDir with
    | some dir => "Some(" ++ dir.label ++ ")"
    | Option.none => "None"
  "Capabilities \x7b close_range: " ++ toString caps.rangeCall ++ ", fd_dir: " ++ dir ++ " \x7d"

end Capabilities

end DescriptorReaper
