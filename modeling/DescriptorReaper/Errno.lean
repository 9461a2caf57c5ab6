/-!
The errors that a system call on descriptors can answer, with their symbolic names and texts.
-/

namespace DescriptorReaper

inductive Errno where
  | eperm | enoent | eintr | eio | ebadf | eagain | enomem | eacces | ebusy
  | enotdir | einval | enfile | emfile | enospc | enosys | eloop | eopnotsupp | edquot
  deriving DecidableEq, Repr

namespace Errno

def all : List Errno :=
  [.eperm, .enoent, .eintr, .eio, .ebadf, .eagain, .enomem, .eacces, .ebusy,
   .enotdir, .einval, .enfile, .emfile, .enospc, .enosys, .eloop, .eopnotsupp, .edquot]

def name : Errno → String
  | .eperm => "EPERM"
  | .enoent => "ENOENT"
  | .eintr => "EINTR"
  | .eio => "EIO"
  | .ebadf => "EBADF"
  | .eagain => "EAGAIN"
  | .enomem => "ENOMEM"
  | .eacces => "EACCES"
  | .ebusy => "EBUSY"
  | .enotdir => "ENOTDIR"
  | .einval => "EINVAL"
  | .enfile => "ENFILE"
  | .emfile => "EMFILE"
  | .enospc => "ENOSPC"
  | .enosys => "ENOSYS"
  | .eloop => "ELOOP"
  | .eopnotsupp => "EOPNOTSUPP"
  | .edquot => "EDQUOT"

def text : Errno → String
  | .eperm => "Operation not permitted"
  | .enoent => "No such file or directory"
  | .eintr => "Interrupted system call"
  | .eio => "I/O error"
  | .ebadf => "Bad file number"
  | .eagain => "Try again"
  | .enomem => "Out of memory"
  | .eacces => "Permission denied"
  | .ebusy => "Device or resource busy"
  | .enotdir => "Not a directory"
  | .einval => "Invalid argument"
  | .enfile => "File table overflow"
  | .emfile => "Too many open files"
  | .enospc => "No space left on device"
  | .enosys => "Function not implemented"
  | .eloop => "Too many symbolic links encountered"
  | .eopnotsupp => "Operation not supported on transport endpoint"
  | .edquot => "Quota exceeded"

def ofName? (name : String) : Option Errno := all.find? (·.name == name)

/-- Name and words together, as a log line shows them. -/
def describe (error : Errno) : String := error.name ++ ": " ++ error.text

end Errno

end DescriptorReaper
