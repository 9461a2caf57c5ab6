import DescriptorReaper.Kernel

/-!
A real process as the kernel sees it: its table and the soft limit on descriptors. The limit bounds
the numbers that new descriptors get and nothing else, so descriptors at or above a lowered limit
stay open and can be closed.
-/

namespace DescriptorReaper

/-- A table of descriptors under a limit. -/
structure ProcessState where
  table : Table
  limit : Int
  deriving DecidableEq

namespace ProcessState

def usualLimit : Int := 256

/-- A threshold as the range call takes it: an unsigned word of 32 bits, so that a negative one
lies above every descriptor. -/
def rangeStart (low : Int) : Int := low % 4294967296

def closeAnswer (process : ProcessState) (fd : Int) : Except Errno Unit :=
  if fd ∈ process.table then .ok () else .error .ebadf

def openAt (fd : Int) (process : ProcessState) : ProcessState :=
  if 0 ≤ fd ∧ fd < process.limit then { process with table := process.table.insert fd }
  else process

def snapshot (process : ProcessState) : Except Errno Snapshot :=
  if process.table.lowestFree < process.limit then
    .ok (.ofTable process.table (some .symlink) false)
  else .error .emfile

instance : Kernel ProcessState where
  offersRange process := (true, process)
  offersDir _ process := (true, process)
  closeRange low process :=
    (.ok (), { process with table := process.table.closeFrom (rangeStart low) })
  close fd process := (process.closeAnswer fd, { process with table := process.table.erase fd })
  snapshot _ process := (process.snapshot, process)
  limit process := (.ok (some process.limit), process)
  emit _ process := process

end ProcessState

end DescriptorReaper
