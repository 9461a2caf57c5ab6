import DescriptorReaper.Shell.Arithmetic
import DescriptorReaper.Shell.Names
import DescriptorReaper.Shell.Strip

/-!
Words turned into what they stand for. Parameters, expressions and scripts are replaced by their
values; what comes of them outside quotes is cut into fields; and a field with wildcards stands for
the names of files that match it. A word that is not wanted is not looked at.
-/

namespace DescriptorReaper.Shell.Expansion

open Script (Part Use Word)

structure Manner where
  apart : Bool := false
  used : Bool := false
  home : Bool := false
  homes : Bool := false

def home? (shell : Shell) (user : ByteText) : Option ByteText :=
  if user = [] then shell.value? "HOME"
  else (Account.home? (String.ofList user)).map String.toList

def tilde? (shell : Shell) (manner : Manner) (isLast : Bool) (text : ByteText) :
    Option (ByteText × ByteText) :=
  -- The name of a user has to end within the text unless the text ends the word.
  match text with
  | '~' :: rest =>
      let user := rest.takeWhile fun char => char ≠ '/' && !(manner.homes && char = ':')
      let after := rest.drop user.length
      if after = [] && !isLast then none
      else (home? shell user).map fun home => (home, after)
  | _ => none

def stretch (cutting : Cutting) (guarded : Bool) (text : ByteText) : Stretch :=
  ⟨cutting, Item.ofText guarded text⟩

def withHomes (shell : Shell) (manner : Manner) (isLast : Bool) : Nat → Bool → ByteText → Expanded
  | 0, _, _ | _, _, [] => []
  | count + 1, atStart, text =>
      match if atStart then tilde? shell manner isLast text else none with
      | some (home, after) =>
          stretch .whole true home :: withHomes shell manner isLast count false after
      | none =>
          let cutting := if manner.used then Cutting.atCuts else .whole
          let before := if manner.homes then text.takeWhile (· ≠ ':') else text
          let rest := text.drop before.length
          stretch cutting false (before ++ rest.take 1) ::
            withHomes shell manner isLast count true (rest.drop 1)

def optionLetters : List Char := "pubaCEVvxsnmiIfe".toList

/-- The arguments with what stands between them: their ends, if they stay apart, or else the first
of the characters at which fields are cut. Outside quotes it is a blank in either case if no
variable names those characters. -/
def arguments (shell : Shell) (quoted apart all : Bool) : List Item :=
  let between : List Item :=
    if apart && quoted && all then [.stop]
    else if apart && !quoted && (shell.value? "IFS").isSome then [.stop]
    else (shell.cuts.take 1).map (.char · quoted)
  let texts := shell.arguments.map (Item.ofText quoted)
  (texts.intersperse between).flatten

def value? (shell : Shell) (quoted apart : Bool) (name : String) : Option (List Item) :=
  let text (text : ByteText) : Option (List Item) := some (Item.ofText quoted text)
  match ByteText.natural? name.toList with
  | some 0 => text shell.name
  | some position => shell.arguments[position - 1]?.map (Item.ofText quoted)
  | none =>
      match name with
      | "#" => text (ByteText.ofInt shell.arguments.length)
      | "?" => text (ByteText.ofInt shell.status)
      | "$" => text (ByteText.ofInt shell.number)
      | "-" => text (optionLetters.filter shell.has)
      | "!" => shell.lastChild.bind fun number => text (ByteText.ofInt number)
      | "@" => some (arguments shell quoted apart true)
      | "*" => some (arguments shell quoted apart false)
      | name => (shell.value? name).map (Item.ofText quoted)

def valueStretch (shell : Shell) (quoted : Bool) (name : String) (value : List Item) : Stretch :=
  if ¬ quoted then ⟨.atCuts, value⟩
  else if name = "@" ∧ shell.arguments ≠ [] then ⟨.atStops, value⟩
  else ⟨.whole, value⟩

def withoutLastLines (printed : ByteText) : ByteText :=
  ((printed.filter (· ≠ '\x00')).reverse.dropWhile (· = '\n')).reverse

def missing (name : String) (orNull : Bool) : ByteText :=
  Run.text (name ++ ": parameter not set" ++ if orNull then " or null" else "")

def demandSet (name : String) : Run Unit := do
  if (← get).has 'u' then Run.abort (missing name false)

variable (capture : Script.Command → Run ByteText)

def parameter (expand : Manner → Word → Run Expanded) (manner : Manner) (quoted : Bool)
    (name : String) (use : Use) : Run (Expanded × Bool) := do
  let shell ← get
  let value := value? shell quoted manner.apart name
  let isSet (emptyToo : Bool) : Bool :=
    match value with
    | some items => !(emptyToo && items.isEmpty)
    | none => false
  let own : Expanded := (value.map (valueStretch shell quoted name)).toList
  let word (word : Word) : Run (Expanded × Bool) :=
    return (← expand { manner with used := !quoted, home := true } word, false)
  let textOf (word : Word) : Run ByteText := return (← expand { home := true } word).plain
  let cutting := if quoted then Cutting.whole else .atCuts
  match use with
  | .unknown _ => Run.abort (Run.text "Bad substitution")
  | .value =>
      if ¬ isSet false then demandSet name
      return (own, false)
  | .ending rest =>
      if ¬ isSet true then demandSet name
      return ((if isSet true then own else []) ++ (← expand manner rest), true)
  | .length =>
      if ¬ isSet false then demandSet name
      let length := (value.getD []).length
      return ([stretch cutting quoted (ByteText.ofInt length)], false)
  | .otherwise emptyToo other => if isSet emptyToo then return (own, false) else word other
  | .instead emptyToo other =>
      if isSet emptyToo then word other else return ([⟨cutting, []⟩], false)
  | .assigning emptyToo other =>
      if isSet emptyToo then return (own, false)
      else
        Run.assignNamed name.toList (← textOf other)
        let shell ← get
        let value := value? shell quoted manner.apart name
        return ((value.map (valueStretch shell quoted name)).toList, false)
  | .demanding emptyToo other =>
      if isSet emptyToo then return (own, false)
      else if other.isEmpty then Run.abort (missing name emptyToo)
      else Run.abort (name.toList ++ Run.text ": " ++ (← textOf other))
  | .trimmed atEnd greedy pattern =>
      match value with
      | none =>
          demandSet name
          return ([], false)
      | some items =>
          let pattern ← expand { home := true } pattern
          let char (item : Item) : Char := item.char?.getD '\x00'
          let left :=
            if items.contains .stop then Strip.trim pattern.items atEnd greedy items
            else Pattern.trim (Pattern.ofWritten pattern.written) char atEnd greedy items
          return ([valueStretch shell quoted name left], false)

def sequence (expand : Manner → Word → Run Expanded) (manner : Manner) :
    Bool → Bool → List Part → Run Expanded
  -- All arguments in quotes of their own are no field at all if there are none.
  | _, _, [] => return []
  | _, false, .mark :: .parameter true "@" .value :: .mark :: rest => do
      let (first, _) ← parameter expand manner true "@" .value
      return first ++ (← sequence expand manner false false rest)
  | _, inQuotes, .mark :: rest =>
      return ⟨.whole, [.mark]⟩ :: (← sequence expand manner false (!inQuotes) rest)
  | _, inQuotes, .text true chars :: rest =>
      return stretch .whole true chars :: (← sequence expand manner false inQuotes rest)
  | isFirst, inQuotes, .text false chars :: rest => do
      let atStart := isFirst && manner.home
      let first := withHomes (← get) manner rest.isEmpty (chars.length + 1) atStart chars
      return first ++ (← sequence expand manner false inQuotes rest)
  | _, inQuotes, .parameter quoted name use :: rest => do
      let (first, ends) ← parameter expand manner quoted name use
      if ends then return first
      else return first ++ (← sequence expand manner false inQuotes rest)
  | _, inQuotes, .output quoted script :: rest => do
      let printed := withoutLastLines (← capture script)
      let first := stretch (if quoted then .whole else .atCuts) quoted printed
      return first :: (← sequence expand manner false inQuotes rest)
  | _, inQuotes, .sum quoted expression :: rest => do
      let value ← Arithmetic.value (← expand {} expression).plain
      let first := stretch (if quoted then .whole else .atCuts) quoted (ByteText.ofInt value)
      return first :: (← sequence expand manner false inQuotes rest)

def deepest : Nat := 1000000

/-- What a word stands for before it is cut. -/
def expand : Nat → Manner → Word → Run Expanded
  | 0, _, _ => return []
  | count + 1, manner, word => sequence capture (expand count) manner true false word

def fields (word : Word) : Run (List ByteText) := do
  let expanded ← expand capture deepest { apart := true, home := true } word
  let shell ← get
  let found := Fields.cut shell.cuts none expanded
  if shell.has 'f' then return found.map plain
  else return found.flatMap (Names.ofField shell.console)

def whole (word : Word) : Run ByteText :=
  return (← expand capture deepest { home := true } word).plain

def assigned (word : Word) : Run ByteText :=
  return (← expand capture deepest { home := true, homes := true } word).plain

def document (word : Word) : Run ByteText :=
  return (← expand capture deepest {} word).plain

def pattern (word : Word) : Run (List Pattern.Item) :=
  return Pattern.ofWritten (← expand capture deepest { home := true } word).written

end DescriptorReaper.Shell.Expansion
