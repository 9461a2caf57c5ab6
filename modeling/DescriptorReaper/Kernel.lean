import DescriptorReaper.Event
import DescriptorReaper.Snapshot

/-!
The system that descriptors are closed on. A kernel is a state together with the calls that
closing needs; every call answers and leaves the next state. Whatever runs over a kernel also
reports events to it, and the kernel decides what becomes of them.

A recorder turns any kernel into one that keeps the calls with their answers, and the events.
-/

namespace DescriptorReaper

/-- The calls that closing needs, each on a state and to the next state. -/
class Kernel (σ : Type) where
  /-- Can a whole range be closed in one call? -/
  offersRange : σ → Bool × σ
  /-- Is the directory there to be read? -/
  offersDir : ListingDir → σ → Bool × σ
  /-- Close every descriptor from a number up. -/
  closeRange : Int → σ → Except Errno Unit × σ
  /-- Close one descriptor. -/
  close : Int → σ → Except Errno Unit × σ
  /-- Take a snapshot of the listing. -/
  snapshot : ListingDir → σ → Except Errno Snapshot × σ
  /-- The descriptor limit, missing when it is indeterminate. -/
  limit : σ → Except Errno (Option Int) × σ
  /-- Take notice of an event. -/
  emit : Event → σ → σ

/-- A call and its answer. -/
inductive Call where
  | offersRange (answer : Bool)
  | offersDir (dir : ListingDir) (answer : Bool)
  | closeRange (low : Int) (answer : Except Errno Unit)
  | close (fd : Int) (answer : Except Errno Unit)
  | snapshot (dir : ListingDir) (answer : Except Errno Snapshot)
  | limit (answer : Except Errno (Option Int))

/-- A kernel with the record of what was asked of it and what was reported to it, oldest first. -/
structure Recorded (σ : Type) where
  state : σ
  calls : Array Call
  events : Array Event

namespace Recorded

variable {σ : Type}

def start (state : σ) : Recorded σ := ⟨state, #[], #[]⟩

def noteCall (recorded : Recorded σ) (call : Call) (state : σ) : Recorded σ :=
  { recorded with state, calls := recorded.calls.push call }

instance [Kernel σ] : Kernel (Recorded σ) where
  offersRange recorded :=
    let (answer, state) := Kernel.offersRange recorded.state
    (answer, recorded.noteCall (.offersRange answer) state)
  offersDir dir recorded :=
    let (answer, state) := Kernel.offersDir dir recorded.state
    (answer, recorded.noteCall (.offersDir dir answer) state)
  closeRange low recorded :=
    let (answer, state) := Kernel.closeRange low recorded.state
    (answer, recorded.noteCall (.closeRange low answer) state)
  close fd recorded :=
    let (answer, state) := Kernel.close fd recorded.state
    (answer, recorded.noteCall (.close fd answer) state)
  snapshot dir recorded :=
    let (answer, state) := Kernel.snapshot dir recorded.state
    (answer, recorded.noteCall (.snapshot dir answer) state)
  limit recorded :=
    let (answer, state) := Kernel.limit recorded.state
    (answer, recorded.noteCall (.limit answer) state)
  emit event recorded :=
    { recorded with
      state := Kernel.emit event recorded.state
      events := recorded.events.push event }

end Recorded

end DescriptorReaper
