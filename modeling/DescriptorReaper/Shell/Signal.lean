import DescriptorReaper.ByteText

/-!
Signals by number, by name, and in the words of the system.
-/

namespace DescriptorReaper.Shell.Signal

def child : Nat := 17

def kill : Nat := 9

def pipe : Nat := 13

def interrupt : Nat := 2

def quit : Nat := 3

def terminate : Nat := 15

def usual : Nat := 15

def bound : Nat := 65

def firstNames : List String :=
  -- The first one stands for the end of a process.
  ["EXIT", "HUP", "INT", "QUIT", "ILL", "TRAP", "ABRT", "BUS", "FPE", "KILL", "USR1", "SEGV",
   "USR2", "PIPE", "ALRM", "TERM", "16", "CHLD", "CONT", "STOP", "TSTP", "TTIN", "TTOU", "URG",
   "XCPU", "XFSZ", "VTALRM", "PROF", "WINCH", "IO", "PWR", "SYS", "32", "33", "RTMIN"]

def name (signal : Nat) : String :=
  match firstNames[signal]? with
  | some name => name
  | none =>
      if signal < 50 then "RTMIN+" ++ toString (signal - 34)
      else if signal < 64 then "RTMAX-" ++ toString (64 - signal)
      else "RTMAX"

def numbered? (word : ByteText) : Option Nat :=
  (ByteText.natural? word).filter (· < bound)

def named? (least : Nat) (word : ByteText) : Option Nat :=
  let capitals := word.map Char.toUpper
  (numbered? word).or <|
    (List.range bound).find? fun signal => least ≤ signal && (name signal).toList = capitals

def firstWords : List String :=
  ["Unknown signal 0", "Hangup", "Interrupt", "Quit", "Illegal instruction",
   "Trace/breakpoint trap", "Aborted", "Bus error", "Floating point exception", "Killed",
   "User defined signal 1", "Segmentation fault", "User defined signal 2", "Broken pipe",
   "Alarm clock", "Terminated", "Stack fault", "Child exited", "Continued", "Stopped (signal)",
   "Stopped", "Stopped (tty input)", "Stopped (tty output)", "Urgent I/O condition",
   "CPU time limit exceeded", "File size limit exceeded", "Virtual timer expired",
   "Profiling timer expired", "Window changed", "I/O possible", "Power failure", "Bad system call",
   "Unknown signal 32", "Unknown signal 33"]

def words (signal : Nat) : String :=
  (firstWords[signal]?).getD ("Real-time signal " ++ toString (signal - 34))

/-- Does a process live on when it gets the signal and does nothing about it? A process that is
stopped is taken to go on at once. -/
def isHarmless (signal : Nat) : Bool := [0, 17, 18, 19, 20, 21, 22, 23, 28].contains signal

def isDeclined (signal : Nat) : Bool := signal = quit || signal = terminate

def isFinal (signal : Nat) : Bool := signal = kill || signal = 19

end DescriptorReaper.Shell.Signal
