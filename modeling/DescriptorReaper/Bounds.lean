/-!
What a process may use of the system, its descriptors apart. Each resource has two bounds: the one
that holds, and the one that a process may raise it to.
-/

namespace DescriptorReaper

inductive Resource where
  | time
  | fileSize
  | data
  | stack
  | core
  | memory
  | lockedMemory
  | processes
  | space
  | locks
  | priority
  deriving DecidableEq, Repr

/-- Two bounds; one that is not there does not bound anything. -/
structure Bounds where
  soft : Option Nat := none
  hard : Option Nat := none
  deriving DecidableEq, Repr

namespace Bounds

def usual : Resource → Bounds
  | .stack => { soft := some 8388608 }
  | .core => { soft := some 0 }
  | .lockedMemory => { soft := some 8388608, hard := some 8388608 }
  | .priority => { soft := some 0, hard := some 0 }
  | _ => {}

def exceeds : Option Nat → Option Nat → Bool
  | _, none => false
  | none, some _ => true
  | some left, some right => right < left

def argumentSpace (stack : Option Nat) : Nat :=
  let most := 6291456
  max 131072 (min most ((stack.map (· / 4)).getD most))

def longestArgument : Nat := 131072

/-- May a program of a path be started with some arguments and definitions of variables? Each text
ends with a byte, and each but the path takes the place of a number besides. -/
def admits (stack : Option Nat) (path : List UInt8) (texts : List (List UInt8)) : Bool :=
  let sizes := texts.map fun text => text.length + 1
  let whole := sizes.foldl (· + ·) (path.length + 1) + 8 * texts.length
  sizes.all (· ≤ longestArgument) && whole ≤ argumentSpace stack

end Bounds

end DescriptorReaper
