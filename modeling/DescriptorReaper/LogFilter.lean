import DescriptorReaper.Alphanumeric
import DescriptorReaper.Decimal
import DescriptorReaper.Event
import DescriptorReaper.Pieces
import DescriptorReaper.RegularExpression

/-!
Which events are shown. A filter is a list of directives, each a threshold for the targets that
begin with some text, perhaps only for events with a field of some name. The directive with the
longest such text decides, then one that asks for a field before one that does not, then the field
whose name comes last, and of equal ones the last. A filter is read whole or not at all: one
directive that means nothing spoils the text it stands in.
-/

namespace DescriptorReaper

/-- Up to which level events are shown whose target begins with `target`; no level shows nothing. -/
structure Directive where
  target : List Char
  threshold : Option Level
  field : Option (List Char) := none
  inSpan : Bool := false
  deriving DecidableEq, Repr

inductive FilterFault where
  | meaningless
  -- The text is cut within a character, which nothing recovers from.
  | severed
  deriving DecidableEq, Repr

def numbered? : Nat → Option (Option Level)
  | 0 => some none
  | count + 1 => Level.all[count]?.map some

def threshold? (word : List Char) : Option (Option Level) :=
  let numeral := match word with
    | '+' :: digits => digits
    | digits => digits
  match Decimal.natural? (Utf8.encode (String.ofList numeral)) with
  | some number => numbered? number
  | none =>
      let lower := word.map Char.toLower
      if lower = "off".toList then some none
      else (Level.all.find? (·.word.toList = lower)).map some

namespace Directive

def size (text : List Char) : Nat := text.foldl (fun bytes char => bytes + char.utf8Size) 0

def dropBytes? : Nat → List Char → Option (List Char)
  | 0, text => some text
  | _ + 1, [] => none
  | bytes, char :: rest =>
      if char.utf8Size ≤ bytes then dropBytes? (bytes - char.utf8Size) rest else none

def takeBytes? : Nat → List Char → Option (List Char)
  | 0, _ => some []
  | _ + 1, [] => none
  | bytes, char :: rest =>
      if char.utf8Size ≤ bytes then
        (takeBytes? (bytes - char.utf8Size) rest).map (char :: ·)
      else none

def between (text : List Char) (first last : Nat) : Except FilterFault (List Char) :=
  match (dropBytes? first text).bind (takeBytes? (last - first)) with
  | some found => .ok found
  | none => .error .severed

def since (text : List Char) (first : Nat) : Except FilterFault (List Char) :=
  match dropBytes? first text with
  | some found => .ok found
  | none => .error .severed

def levelPart (word : List Char) : Except FilterFault (Option Level) :=
  if word = [] then .ok (some .trace)
  else
    match threshold? word with
    | some threshold => .ok threshold
    | none => .error .meaningless

def opens (char : Char) : Bool :=
  Alphanumeric.isAlphanumeric char || char = '-' || char = ':' || char = '_'

def isBlank (char : Char) : Bool := RegularExpression.isBlank char

def trimmed (text : List Char) : List Char :=
  ((text.dropWhile isBlank).reverse.dropWhile isBlank).reverse

def isFraction (text : List Char) : Bool :=
  let whole := text.takeWhile Char.isDigit
  let (part, rest) := match text.drop whole.length with
    | '.' :: rest => (rest.takeWhile Char.isDigit, rest.dropWhile Char.isDigit)
    | rest => ([], rest)
  let exponent := match rest with
    | [] => true
    | mark :: rest =>
        let digits := match rest with
          | '+' :: digits | '-' :: digits => digits
          | digits => digits
        (mark = 'e' || mark = 'E') && decide (digits ≠ []) && digits.all Char.isDigit
  (decide (whole ≠ []) || decide (part ≠ [])) && exponent

def isPositive : List Char → Bool
  | '+' :: rest =>
      ["inf", "infinity", "nan"].contains (String.ofList (rest.map Char.toLower)) || isFraction rest
  | _ => false

def isValue (text : List Char) : Bool := isPositive text || RegularExpression.isWellFormed text

def fieldPart (text : List Char) : Except FilterFault (List Char × Bool) :=
  if text = [] then .error .meaningless
  else
    match pieces '=' text with
    | name :: value :: _ => if isValue value then .ok (name, true) else .error .meaningless
    | parts => .ok (parts.headD [], false)

def spanPart (text : List Char) (start : Nat) (inside : List Char) (directive : Directive) :
    Except FilterFault (Directive × List Char) := do
  -- The answer has the directive so far and what follows the brackets.
  let name := inside.takeWhile fun char => char ≠ ']' && char ≠ '\x7b'
  let first := start + size name
  match inside.drop name.length with
  | [] => throw .meaningless
  | ']' :: rest =>
      let _ ← between text start first
      return ({ directive with inSpan := true }, rest)
  | _ :: braced =>
      let named := decide ((← between text start first) ≠ [])
      let shown := braced.takeWhile (· ≠ '\x7d')
      match braced.drop shown.length with
      | [] => throw .meaningless
      | _ :: after =>
          let (field, valued) ← fieldPart (← between text (first + 1) (first + 1 + size shown))
          match after with
          | ']' :: rest =>
              return ({ directive with field := some field, inSpan := named || valued }, rest)
          | _ => throw .meaningless

/-- Read one directive: a threshold for every target, or a target, perhaps spans and fields in
brackets, and their threshold. Blanks around the text are no part of its shape; yet every part is
cut from the text as it stands, at the places that the shape gives. -/
def read (text : List Char) : Except FilterFault Directive := do
  let shape := trimmed text
  let head := shape.takeWhile fun char => char ≠ '=' && char ≠ '['
  let place (rest : List Char) : Nat := size shape - size rest
  if ¬ head.head?.all opens then throw .meaningless
  match shape.drop head.length with
  | [] =>
      if head = [] then throw .meaningless
      match threshold? text with
      | some threshold => return { target := [], threshold }
      | none => return { target := text, threshold := some .trace }
  | '=' :: level =>
      if head = [] then throw .meaningless
      let target ← between text 0 (size head)
      return { target, threshold := ← levelPart (← since text (place level)) }
  | _ :: inside =>
      let target ← if head = [] then pure [] else between text 0 (size head)
      let (directive, rest) ←
        spanPart text (place inside) inside { target, threshold := some .trace }
      match rest with
      | [] => return directive
      | '=' :: level =>
          return { directive with threshold := ← levelPart (← since text (place level)) }
      | _ => throw .meaningless

def covers (directive : Directive) (target : List Char) (carries : List Char → Bool) : Bool :=
  !directive.inSpan && directive.target.isPrefixOf target && directive.field.all carries

def notBefore : List Char → List Char → Bool
  | _, [] => true
  | [], _ :: _ => false
  | left :: lefts, right :: rights => right < left || (left = right && notBefore lefts rights)

def yieldsTo (left right : Directive) : Bool :=
  if left.target.length ≠ right.target.length then left.target.length < right.target.length
  else
    match left.field, right.field with
    | none, _ => true
    | some _, none => false
    | some left, some right => notBefore right left

end Directive

abbrev LogFilter := List Directive

namespace LogFilter

def read (text : List Char) : Except FilterFault LogFilter :=
  ((pieces ',' text).filter (· ≠ [])).mapM Directive.read

def stronger (chosen : Option Directive) (candidate : Directive) : Option Directive :=
  match chosen with
  | some current => if current.yieldsTo candidate then some candidate else chosen
  | none => some candidate

/-- The directive that decides about a target. Events stand in no span here, so directives for spans
have no say. -/
def deciding? (filter : LogFilter) (target : List Char) (carries : List Char → Bool) :
    Option Directive :=
  (filter.filter (·.covers target carries)).foldl stronger none

def shows (filter : LogFilter) (target : String) (carries : List Char → Bool) (level : Level) :
    Bool :=
  match (filter.deciding? target.toList carries).bind (·.threshold) with
  | some threshold => decide (level ≤ threshold)
  | none => false

def enables (filter : LogFilter) (event : Event) : Bool :=
  filter.shows event.target (fun name => event.carries (String.ofList name)) event.level

def enabledLevels (filter : LogFilter) (target : String) : List Level :=
  Level.all.filter (filter.shows target fun _ => true)

def verbosityLevel : Nat → Level
  | 0 => .warn
  | 1 => .info
  | 2 => .debug
  | _ => .trace

def ofVerbosity (verbosity : Nat) : LogFilter :=
  [{ target := [], threshold := some (verbosityLevel verbosity) }]

/-- The environment decides if it holds a filter; else the verbosity flags do. There is no filter at
all if the one in the environment is cut within a character. -/
def choose (environment : Option Bytes) (verbosity : Nat) : Option LogFilter :=
  match environment with
  | none => some (ofVerbosity verbosity)
  | some bytes =>
      if ¬ Utf8.isText bytes then some (ofVerbosity verbosity)
      else
        match read (Utf8.display bytes).toList with
        | .ok filter => some filter
        | .error .meaningless => some (ofVerbosity verbosity)
        | .error .severed => none

end LogFilter

end DescriptorReaper
