import DescriptorReaper.ProcessState
import DescriptorReaper.Step
import DescriptorReaper.World

/-!
Runs of many steps: on a scripted kernel, whose script may change between steps, and in a process,
which may open descriptors, move its limit and start logging.
-/

namespace DescriptorReaper

namespace World

inductive Action where
  | rescript (change : Change)
  | openAt (fd : Int)
  | openLowest
  | perform (step : Step)

def Action.run (action : Action) (world : World) : Report × World :=
  match action with
  | .rescript change =>
      let world := change.apply world
      (⟨.nothing, [], [], world.table⟩, world)
  | .openAt fd =>
      let world := { world with table := world.table.insert fd }
      (⟨.number fd, [], [], world.table⟩, world)
  | .openLowest =>
      let fd := world.table.lowestFree
      let world := { world with table := world.table.insert fd }
      (⟨.number fd, [], [], world.table⟩, world)
  | .perform step => step.report world World.table

/-- Run a whole session and report every step. -/
def session : List Action → World → List Report
  | [], _ => []
  | action :: rest, world =>
      let (report, world) := action.run world
      report :: session rest world

end World

namespace ProcessState

inductive Action where
  | openAt (fd : Int)
  | setLimit (limit : Int)
  | startLogging (verbosity : Nat)
  | perform (step : Step)

/-- A process with its environment's filter, and the filter it logs by once logging has started. -/
structure Run where
  process : ProcessState
  environment : Option Bytes
  filter : Option LogFilter := none

def Action.run (action : Action) (run : Run) : Report × Run :=
  match action with
  | .openAt fd =>
      let process := run.process.openAt fd
      (⟨.nothing, [], [], process.table⟩, { run with process })
  | .setLimit limit =>
      let process := { run.process with limit }
      (⟨.number 0, [], [], process.table⟩, { run with process })
  | .startLogging verbosity =>
      -- The first start decides; later ones change nothing.
      let filter := run.filter.getD ((LogFilter.choose run.environment verbosity).getD [])
      (⟨.filter filter, [], [], run.process.table⟩, { run with filter := some filter })
  | .perform step =>
      let (report, process) := step.report run.process ProcessState.table
      (report, { run with process })

def session : List Action → Run → List Report
  | [], _ => []
  | action :: rest, run =>
      let (report, run) := action.run run
      report :: session rest run

end ProcessState

end DescriptorReaper
