import DescriptorReaper.Capabilities
import DescriptorReaper.Errno

/-!
What the library reports while it works. Each event has a level, a target that filters go by, a
message and named fields.
-/

namespace DescriptorReaper

/-- Severity, gravest first. -/
inductive Level where
  | error
  | warn
  | info
  | debug
  | trace
  deriving DecidableEq, Repr

namespace Level

def all : List Level := [.error, .warn, .info, .debug, .trace]

def rank : Level → Nat
  | .error => 1
  | .warn => 2
  | .info => 3
  | .debug => 4
  | .trace => 5

instance : LE Level where
  le left right := left.rank ≤ right.rank

instance (left right : Level) : Decidable (left ≤ right) :=
  inferInstanceAs (Decidable (left.rank ≤ right.rank))

def name : Level → String
  | .error => "ERROR"
  | .warn => "WARN"
  | .info => "INFO"
  | .debug => "DEBUG"
  | .trace => "TRACE"

def word : Level → String
  | .error => "error"
  | .warn => "warn"
  | .info => "info"
  | .debug => "debug"
  | .trace => "trace"

end Level

inductive Value where
  | number (value : Int)
  | truth (value : Bool)
  | text (value : String)
  deriving DecidableEq, Repr

def Value.display : Value → String
  | .number value => toString value
  | .truth value => toString value
  | .text value => value

inductive Event where
  | detected (caps : Capabilities)
  | negativeThreshold (lowfd : Int)
  | rangeClosed (low : Int)
  | rangeFailed (low : Int) (error : Errno)
  | listingClosed (low : Int) (closed : Nat) (dir : ListingDir)
  | listingFailed (low : Int) (error : Errno) (dir : ListingDir)
  | alreadyClosed (fd : Int) (handle : Bool)
  | closeFailed (fd : Int) (error : Errno)
  | limitUnknown (error : Errno)
  | bruteForced (low : Int) (closed : Nat)
  deriving DecidableEq, Repr

namespace Event

def level : Event → Level
  | .negativeThreshold _ => .warn
  | .alreadyClosed _ _ | .closeFailed _ _ => .trace
  | .detected _ | .rangeClosed _ | .rangeFailed _ _ | .listingClosed _ _ _
  | .listingFailed _ _ _ | .limitUnknown _ | .bruteForced _ _ => .debug

def target : Event → String
  | .detected _ => "closefrom::caps"
  | _ => "closefrom::reap"

def message : Event → String
  | .detected _ => "detected descriptor capabilities"
  | .negativeThreshold _ => "negative lowfd; closing from 0 instead"
  | .rangeClosed _ => "closed descriptors with close_range"
  | .rangeFailed _ _ => "close_range failed"
  | .listingClosed _ _ _ => "closed descriptors from listing"
  | .listingFailed _ _ _ => "could not list descriptors"
  | .alreadyClosed _ _ => "already closed"
  | .closeFailed _ _ => "close failed"
  | .limitUnknown _ => "sysconf(_SC_OPEN_MAX) failed"
  | .bruteForced _ _ => "closed descriptors by brute force"

def quoted (dir : ListingDir) : String := "\"" ++ dir.path ++ "\""

def fields : Event → List (String × Value)
  | .detected caps => [("caps", .text caps.label)]
  | .negativeThreshold lowfd => [("lowfd", .number lowfd)]
  | .rangeClosed low => [("lowfd", .number low)]
  | .rangeFailed low error => [("lowfd", .number low), ("error", .text error.describe)]
  | .listingClosed low closed dir =>
      [("lowfd", .number low), ("closed", .number closed), ("dir", .text (quoted dir))]
  | .listingFailed low error dir =>
      [("lowfd", .number low), ("error", .text error.describe), ("dir", .text (quoted dir))]
  | .alreadyClosed fd handle => [("fd", .number fd), ("handle", .truth handle)]
  | .closeFailed fd error => [("fd", .number fd), ("error", .text error.describe)]
  | .limitUnknown error => [("error", .text error.describe)]
  | .bruteForced low closed => [("lowfd", .number low), ("closed", .number closed)]

def carries (event : Event) (name : String) : Bool :=
  name = "message" || (event.fields.map (·.1)).contains name

/-- The event as one line of a log: the level filled to five columns, the message, the fields. -/
def line (event : Event) : String :=
  let level := event.level.name
  let blanks := String.ofList (List.replicate (5 - level.length) ' ')
  let shown := event.fields.map fun field => " " ++ field.1 ++ "=" ++ field.2.display
  blanks ++ level ++ " " ++ event.message ++ String.join shown

end Event

end DescriptorReaper
