import DescriptorReaper.Arguments
import DescriptorReaper.Capabilities
import DescriptorReaper.Decimal

/-!
The options of the two programs: one closes descriptors and then runs a command, the other lists
the descriptors it was given.
-/

namespace DescriptorReaper

open Arguments (Effect Grammar)
open Styled (heading literal)

def louder (verbosity : Nat) : Nat := min (verbosity + 1) 255

def louderOption : String := "-v..."

def textValue (value : Bytes) : Except UsageError String :=
  if Utf8.isText value then .ok (Utf8.display value) else .error .notText

/-- What the closing program is asked to do. -/
structure ReapSettings where
  lowfd : Option Int := none
  tier : Option Tier := none
  verbosity : Nat := 0
  deriving DecidableEq, Repr

namespace ReapSettings

def lowfdOption : String := "--lowfd <LOWFD>"

def tierOption : String := "--tier <TIER>"

def usualLowfd : Int := 3

def threshold (settings : ReapSettings) : Int := settings.lowfd.getD usualLowfd

def setLowfd (value : Bytes) (settings : ReapSettings) : Except UsageError ReapSettings :=
  if settings.lowfd.isSome then .error (.repeated lowfdOption)
  else
    match textValue value with
    | .error error => .error error
    | .ok text =>
        match Decimal.narrowed .word32 value with
        | .error fault => .error (.invalidValue text lowfdOption fault.message)
        | .ok lowfd => .ok { settings with lowfd := some lowfd }

def setTier (value : Bytes) (settings : ReapSettings) : Except UsageError ReapSettings :=
  if settings.tier.isSome then .error (.repeated tierOption)
  else
    match textValue value with
    | .error error => .error error
    | .ok text =>
        match Tier.ofName? text with
        | none => .error (.invalidValue text tierOption Tier.unknownName)
        | some tier => .ok { settings with tier := some tier }

def raise (settings : ReapSettings) : Except UsageError ReapSettings :=
  .ok { settings with verbosity := louder settings.verbosity }

def letter : Char → Option (Effect ReapSettings)
  | 'l' => some (.valued lowfdOption setLowfd)
  | 't' => some (.valued tierOption setTier)
  | 'v' => some (.flag louderOption raise)
  | 'h' => some .help
  | _ => none

def words : List (String × Effect ReapSettings) :=
  [("lowfd", .valued lowfdOption setLowfd), ("tier", .valued tierOption setTier), ("help", .help)]

def grammar : Grammar ReapSettings where
  letter
  words
  takesCommand := true

def read (arguments : List Bytes) : Except Stop (ReapSettings × List Bytes) :=
  Arguments.read grammar {} arguments

def usage (name : String) : UsageError.Usage :=
  ⟨name, [lowfdOption, tierOption, louderOption], true⟩

def help (name : String) : List Styled :=
  ["Close inherited file descriptors, then run a command",
   "",
   (usage name).line [],
   "",
   heading "Arguments:",
   "  [COMMAND]...  command to run afterwards.  Without one, print the descriptors left open",
   "",
   heading "Options:",
   "  " ++ literal "-l" ++ ", " ++ literal "--lowfd" ++
     " <LOWFD>  lowest descriptor to close [default: 3]",
   "  " ++ literal "-t" ++ ", " ++ literal "--tier" ++
     " <TIER>    skip faster strategies: close-range, fd-dir or brute-force",
   "  " ++ literal "-v" ++ "...                log more; repeat for even more",
   "  " ++ literal "-h" ++ ", " ++ literal "--help" ++ "           Print help"]

end ReapSettings

/-- What the listing program is asked to do. -/
structure ListSettings where
  long : Bool := false
  verbosity : Nat := 0
  deriving DecidableEq, Repr

namespace ListSettings

def longOption : String := "-l"

def setLong (settings : ListSettings) : Except UsageError ListSettings :=
  if settings.long then .error (.repeated longOption) else .ok { settings with long := true }

def raise (settings : ListSettings) : Except UsageError ListSettings :=
  .ok { settings with verbosity := louder settings.verbosity }

def letter : Char → Option (Effect ListSettings)
  | 'l' => some (.flag longOption setLong)
  | 'v' => some (.flag louderOption raise)
  | 'h' => some .help
  | _ => none

def words : List (String × Effect ListSettings) := [("help", .help)]

def grammar : Grammar ListSettings where
  letter
  words
  takesCommand := false

def read (arguments : List Bytes) : Except Stop (ListSettings × List Bytes) :=
  Arguments.read grammar {} arguments

def usage (name : String) : UsageError.Usage := ⟨name, [longOption, louderOption], false⟩

def help (name : String) : List Styled :=
  [(usage name).line [],
   "",
   heading "Options:",
   "  " ++ literal "-l" ++ "          also print what each descriptor refers to",
   "  " ++ literal "-v" ++ "...       log more; repeat for even more",
   "  " ++ literal "-h" ++ ", " ++ literal "--help" ++ "  Print help"]

end ListSettings

end DescriptorReaper
