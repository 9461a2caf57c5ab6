import DescriptorReaper.Bounds
import DescriptorReaper.Utf8

/-!
What the files in the directory of a process say about it. A file that says more than is known of a
process says nothing.
-/

namespace DescriptorReaper

structure Testimony where
  number : Nat
  parent : Nat
  command : List Bytes
  title : Option Bytes := none
  environment : List (String × Bytes)
  mask : Nat
  bounds : Resource → Bounds
  descriptors : Bounds
  ignored : List Nat

namespace Testimony

def longestTitle : Nat := 15

def shortTitle (testimony : Testimony) : Bytes :=
  let name := testimony.command.headD []
  let last := (name.reverse.takeWhile (· ≠ 47)).reverse
  (testimony.title.getD last).take longestTitle

def line (text : String) : Bytes := Utf8.encode text ++ [10]

def escaped (title : Bytes) : Bytes :=
  title.flatMap fun byte => if byte = 10 then [92, 110] else if byte = 92 then [92, 92] else [byte]

def placed (width : Nat) (text : String) : String :=
  text ++ String.ofList (List.replicate (width - text.length) ' ')

def boundText (bound : Option Nat) : String := (bound.map toString).getD "unlimited"

def limits (testimony : Testimony) : Bytes :=
  let row (name soft hard unit : String) : Bytes :=
    line (placed 25 name ++ " " ++ placed 20 soft ++ " " ++ placed 20 hard ++ " " ++
      if unit = "" then "" else placed 10 unit)
  let entry (name : String) (bounds : Bounds) (unit : String) : Bytes :=
    row ("Max " ++ name) (boundText bounds.soft) (boundText bounds.hard) unit
  let of (name : String) (resource : Resource) (unit : String) : Bytes :=
    entry name (testimony.bounds resource) unit
  let always (name : String) (bound : Option Nat) (unit : String) : Bytes :=
    entry name ⟨bound, bound⟩ unit
  row "Limit" "Soft Limit" "Hard Limit" "Units" ++ of "cpu time" .time "seconds" ++
    of "file size" .fileSize "bytes" ++ of "data size" .data "bytes" ++
    of "stack size" .stack "bytes" ++ of "core file size" .core "bytes" ++
    of "resident set" .memory "bytes" ++ of "processes" .processes "processes" ++
    entry "open files" testimony.descriptors "files" ++
    of "locked memory" .lockedMemory "bytes" ++ of "address space" .space "bytes" ++
    of "file locks" .locks "locks" ++ always "pending signals" none "signals" ++
    always "msgqueue size" (some 819200) "bytes" ++ always "nice priority" (some 0) "" ++
    of "realtime priority" .priority "" ++ always "realtime timeout" none "us"

def octal (mask : Nat) : String :=
  let digits := Nat.toDigits 8 mask
  String.ofList (List.replicate (4 - digits.length) '0' ++ digits)

def signalSet (signals : List Nat) : String :=
  let bits := signals.foldl (fun bits signal => bits ||| 1 <<< (signal - 1)) 0
  let digits := Nat.toDigits 16 bits
  String.ofList (List.replicate (16 - digits.length) '0' ++ digits)

def condition (isAwake : Bool) : String × String :=
  if isAwake then ("R", "running") else ("S", "sleeping")

def status (testimony : Testimony) (isAwake : Bool) : Bytes :=
  let (letter, word) := condition isAwake
  let number := toString testimony.number
  Utf8.encode "Name:\t" ++ escaped testimony.shortTitle ++ [10] ++
    ["Umask:\t" ++ octal testimony.mask, "State:\t" ++ letter ++ " (" ++ word ++ ")",
      "Tgid:\t" ++ number, "Ngid:\t0", "Pid:\t" ++ number,
      "PPid:\t" ++ toString testimony.parent, "TracerPid:\t0", "Uid:\t0\t0\t0\t0",
      "Gid:\t0\t0\t0\t0", "FDSize:\t64", "Groups:\t0 ", "NStgid:\t" ++ number,
      "NSpid:\t" ++ number, "Threads:\t1", "SigPnd:\t" ++ signalSet [],
      "ShdPnd:\t" ++ signalSet [], "SigBlk:\t" ++ signalSet [],
      "SigIgn:\t" ++ signalSet testimony.ignored].flatMap line

/-- What a file of the process holds. -/
def file (testimony : Testimony) (isAwake : Bool) : List String → Bytes
  | ["cmdline"] => testimony.command.flatMap (· ++ [0])
  | ["comm"] => testimony.shortTitle ++ [10]
  | ["environ"] =>
      testimony.environment.flatMap fun (name, value) => Utf8.encode name ++ 61 :: value ++ [0]
  | ["limits"] => testimony.limits
  | ["stat"] =>
      Utf8.encode (toString testimony.number ++ " (") ++ testimony.shortTitle ++
        line (") " ++ (condition isAwake).1 ++ " " ++ toString testimony.parent)
  | ["status"] => testimony.status isAwake
  | ["uid_map"] | ["gid_map"] | ["projid_map"] => line "         0          0 4294967295"
  | ["cgroup"] => line "0::/"
  | ["coredump_filter"] => line "00000033"
  | ["cpuset"] => line "/"
  | ["loginuid"] | ["sessionid"] => Utf8.encode "4294967295"
  | ["oom_adj"] | ["oom_score_adj"] => line "0"
  | ["personality"] => line "00000000"
  | ["setgroups"] => line "allow"
  | ["timerslack_ns"] => line "50000"
  | ["wchan"] => Utf8.encode "0"
  | _ => []

end Testimony

end DescriptorReaper
