/-!
Faults of calls on files and programs, as the system numbers and words them.
-/

namespace DescriptorReaper

inductive SystemFault where
  | none
  | notPermitted
  | notFound
  | inputOutput
  | noDevice
  | argumentsTooLong
  | badDescriptor
  | permissionDenied
  | exists
  | notDirectory
  | isDirectory
  | invalid
  | tooManyOpen
  | textBusy
  | tooLarge
  | noSpace
  | brokenPipe
  | nameTooLong
  | tooManyLinks
  deriving DecidableEq, Repr

namespace SystemFault

def reason : SystemFault → String
  | .none => "Success"
  | .notPermitted => "Operation not permitted"
  | .notFound => "No such file or directory"
  | .inputOutput => "Input/output error"
  | .noDevice => "No such device or address"
  | .argumentsTooLong => "Argument list too long"
  | .badDescriptor => "Bad file descriptor"
  | .permissionDenied => "Permission denied"
  | .exists => "File exists"
  | .notDirectory => "Not a directory"
  | .isDirectory => "Is a directory"
  | .invalid => "Invalid argument"
  | .tooManyOpen => "Too many open files"
  | .textBusy => "Text file busy"
  | .tooLarge => "File too large"
  | .noSpace => "No space left on device"
  | .brokenPipe => "Broken pipe"
  | .nameTooLong => "File name too long"
  | .tooManyLinks => "Too many levels of symbolic links"

def number : SystemFault → Nat
  | .none => 0
  | .notPermitted => 1
  | .notFound => 2
  | .inputOutput => 5
  | .noDevice => 6
  | .argumentsTooLong => 7
  | .badDescriptor => 9
  | .permissionDenied => 13
  | .exists => 17
  | .notDirectory => 20
  | .isDirectory => 21
  | .invalid => 22
  | .tooManyOpen => 24
  | .textBusy => 26
  | .tooLarge => 27
  | .noSpace => 28
  | .brokenPipe => 32
  | .nameTooLong => 36
  | .tooManyLinks => 40

def text (fault : SystemFault) : String :=
  fault.reason ++ " (os error " ++ toString fault.number ++ ")"

def signal? : SystemFault → Option Nat
  | .brokenPipe => some 13
  | .tooLarge => some 25
  | _ => Option.none

end SystemFault

end DescriptorReaper
