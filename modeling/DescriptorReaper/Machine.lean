import DescriptorReaper.Target
import DescriptorReaper.Utf8

/-!
What the processes of a run share: what waits in pipes, what files hold, how far each opening of a
file has got, and signals on their way. Openings and processes are numbered in the order in which
they come about.
-/

namespace DescriptorReaper

/-- What has been written into a pipe and not been read. -/
structure Backlog where
  front : Bytes := []
  back : List Bytes := []
  size : Nat := 0

namespace Backlog

def text (backlog : Backlog) : Bytes :=
  if backlog.back.isEmpty then backlog.front
  else backlog.front ++ backlog.back.reverse.flatten

def write (backlog : Backlog) (text : Bytes) : Backlog :=
  { backlog with back := text :: backlog.back, size := backlog.size + text.length }

def read (backlog : Backlog) (count : Nat) : Bytes × Backlog :=
  let text := backlog.text
  (text.take count, { front := text.drop count, size := backlog.size - count })

end Backlog

structure Machine where
  held : List (Pipe × Backlog) := []
  contents : List (Place × ByteArray) := []
  positions : List (Nat × Nat) := []
  openings : Nat := 0
  pipes : Nat := 0
  nextProcess : Nat
  promised : List Pipe := []
  signals : List (Nat × Nat) := []

namespace Machine

def backlog (machine : Machine) (pipe : Pipe) : Backlog := (machine.held.lookup pipe).getD {}

def setBacklog (machine : Machine) (pipe : Pipe) (backlog : Backlog) : Machine :=
  { machine with held := (pipe, backlog) :: machine.held.filter (·.1 ≠ pipe) }

def waiting (machine : Machine) (pipe : Pipe) : Bytes := (machine.backlog pipe).text

def readPipe (machine : Machine) (pipe : Pipe) (count : Nat) : Bytes × Machine :=
  let (taken, backlog) := (machine.backlog pipe).read count
  (taken, machine.setBacklog pipe backlog)

def writePipe (machine : Machine) (pipe : Pipe) (text : Bytes) : Machine :=
  machine.setBacklog pipe ((machine.backlog pipe).write text)

def mostWaiting : Nat := 4194304

def isStuffed (machine : Machine) (pipe : Pipe) : Bool :=
  mostWaiting < (machine.backlog pipe).size

def drain (machine : Machine) (pipe : Pipe) : Machine :=
  { machine with held := machine.held.filter (·.1 ≠ pipe) }

def setContent (machine : Machine) (place : Place) (text : ByteArray) : Machine :=
  { machine with contents := (place, text) :: machine.contents.filter (·.1 ≠ place) }

def position (machine : Machine) (opening : Nat) : Nat :=
  (machine.positions.lookup opening).getD 0

def setPosition (machine : Machine) (opening position : Nat) : Machine :=
  { machine with
    positions := (opening, position) :: machine.positions.filter (·.1 ≠ opening) }

def readFile (machine : Machine) (content : ByteArray) (opening count : Nat) : Bytes × Machine :=
  let start := machine.position opening
  let found := (content.extract start (start + count)).toList
  (found, machine.setPosition opening (start + found.length))

def writeFile (machine : Machine) (place : Place) (before : ByteArray) (opening : Nat)
    (appends : Bool) (text : Bytes) : Machine :=
  let start := if appends then before.size else machine.position opening
  let gap : ByteArray := ⟨Array.replicate (start - before.size) 0⟩
  let stop := start + text.length
  let whole := before.extract 0 start ++ gap ++ ⟨text.toArray⟩ ++ before.extract stop before.size
  (machine.setContent place whole).setPosition opening stop

def opening (machine : Machine) : Nat × Machine :=
  (machine.openings, { machine with openings := machine.openings + 1 })

def pipe (machine : Machine) : Pipe × Machine :=
  (.laid machine.pipes, { machine with pipes := machine.pipes + 1 })

/-- Processes will get to work that read from pipes. -/
def promise (machine : Machine) (pipes : List Pipe) : Machine :=
  { machine with promised := pipes ++ machine.promised }

def redeem (machine : Machine) (pipes : List Pipe) : Machine :=
  { machine with promised := pipes.foldl List.erase machine.promised }

def process (machine : Machine) : Nat × Machine :=
  (machine.nextProcess, { machine with nextProcess := machine.nextProcess + 1 })

def send (machine : Machine) (process signal : Nat) : Machine :=
  { machine with signals := machine.signals ++ [(process, signal)] }

def notice (machine : Machine) (process : Nat) : List Nat × Machine :=
  let mine := machine.signals.filter (·.1 = process)
  (mine.map (·.2), { machine with signals := machine.signals.filter (·.1 ≠ process) })

end Machine

end DescriptorReaper
