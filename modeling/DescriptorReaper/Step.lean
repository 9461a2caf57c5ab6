import DescriptorReaper.LogFilter
import DescriptorReaper.Reaper

/-!
Single steps of a run, on any kernel: a call by itself, or one of the library's operations. Each
step has a result, and what it did to the kernel can be reported.
-/

namespace DescriptorReaper

inductive CapsSource where
  | given (caps : Capabilities)
  | detected

/-- Where capabilities come from, and the tier they are restricted to. -/
structure CapsChoice where
  source : CapsSource
  tier : Option Tier := none

def CapsChoice.resolve {σ : Type} [Kernel σ] (choice : CapsChoice) (state : σ) :
    Capabilities × σ :=
  match choice.source with
  | .given caps => (caps.restrict choice.tier, state)
  | .detected =>
      let (caps, state) := Capabilities.detect state
      (caps.restrict choice.tier, state)

inductive Step where
  | offersRange
  | offersDir (dir : ListingDir)
  | closeRange (low : Int)
  | close (fd : Int)
  | snapshot (dir : ListingDir)
  | limit
  | detect
  | reap (caps : CapsChoice) (lowfd : Int)
  | closeFrom (caps : CapsChoice) (lowfd : Int)
  | closeFromDetected (lowfd : Int)
  | openDescriptors (dir : ListingDir)

inductive Result where
  | nothing
  | number (value : Int)
  | truth (value : Bool)
  | caps (caps : Capabilities)
  | tier (tier : Tier)
  | closed (answer : Except Errno Unit)
  | limit (answer : Except Errno (Option Int))
  | snapshot (answer : Except Errno Snapshot)
  | descriptors (answer : Except Errno (List Int))
  | filter (filter : LogFilter)

def Step.run {σ : Type} [Kernel σ] (step : Step) (state : σ) : Result × σ :=
  match step with
  | .offersRange =>
      let (answer, state) := Kernel.offersRange state
      (.truth answer, state)
  | .offersDir dir =>
      let (answer, state) := Kernel.offersDir dir state
      (.truth answer, state)
  | .closeRange low =>
      let (answer, state) := Kernel.closeRange low state
      (.closed answer, state)
  | .close fd =>
      let (answer, state) := Kernel.close fd state
      (.closed answer, state)
  | .snapshot dir =>
      let (answer, state) := Kernel.snapshot dir state
      (.snapshot answer, state)
  | .limit =>
      let (answer, state) := Kernel.limit state
      (.limit answer, state)
  | .detect =>
      let (caps, state) := Capabilities.detect state
      (.caps caps, state)
  | .reap choice lowfd =>
      let (caps, state) := choice.resolve state
      let (tier, state) := caps.reap lowfd state
      (.tier tier, state)
  | .closeFrom choice lowfd =>
      let (caps, state) := choice.resolve state
      (.nothing, caps.closeFrom lowfd state)
  | .closeFromDetected lowfd => (.nothing, DescriptorReaper.closeFrom lowfd state)
  | .openDescriptors dir =>
      let (answer, state) := DescriptorReaper.openDescriptors dir state
      (.descriptors answer, state)

/-- What can be told of a step afterwards. -/
structure Report where
  result : Result
  calls : List Call
  events : List Event
  table : Table

def Step.report {σ : Type} [Kernel σ] (step : Step) (state : σ) (table : σ → Table) : Report × σ :=
  let (result, recorded) := step.run (Recorded.start state)
  (⟨result, recorded.calls.toList, recorded.events.toList, table recorded.state⟩, recorded.state)

end DescriptorReaper
