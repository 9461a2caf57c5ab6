/-!
What descriptors refer to: pipes, and places of the file tree that were opened to be read, to be
written, or both.
-/

namespace DescriptorReaper

/-- A place of the file tree: component names from the root. -/
abbrev Place := List String

def Place.path (place : Place) : String :=
  if place = [] then "/" else place.foldl (fun path name => path ++ "/" ++ name) ""

inductive Pipe where
  | output
  | errors
  | laid (number : Nat)
  deriving DecidableEq, Repr

structure Access where
  reads : Bool := false
  writes : Bool := false
  appends : Bool := false
  deriving DecidableEq, Repr

def Access.reading : Access := { reads := true }

def Access.writing : Access := { writes := true }

/-- What a descriptor refers to. Descriptors that come from one opening of a file share its number,
and with it the position in the file. -/
inductive Target where
  | pipe (pipe : Pipe) (access : Access)
  | file (place : Place) (access : Access) (opening : Nat)
  deriving DecidableEq, Repr

namespace Target

def nullPlace : Place := ["dev", "null"]

def fullPlace : Place := ["dev", "full"]

def text : Target → String
  | .pipe _ _ => "pipe:[*]"
  | .file place _ _ => place.path

def access : Target → Access
  | .pipe _ access => access
  | .file _ access _ => access

def source? : Target → Option Pipe
  | .pipe laid access => if access.reads then some laid else none
  | .file _ _ _ => none

end Target

end DescriptorReaper
