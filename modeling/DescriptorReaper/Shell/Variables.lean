import DescriptorReaper.Shell.Choices
import DescriptorReaper.Shell.Fields
import DescriptorReaper.Shell.Search

/-!
The built-in commands that deal with variables, arguments and options.
-/

namespace DescriptorReaper.Shell.Variables

def split (argument : ByteText) : ByteText × Option ByteText :=
  let name := argument.takeWhile (· ≠ '=')
  match argument.drop name.length with
  | _ :: value => (name, some value)
  | [] => (name, none)

def named (name : ByteText) : Run String :=
  if ByteText.isName name then return String.ofList name else Run.badName name

def shown (start : String) (name : String) (value : Option ByteText) : ByteText :=
  let value := match value with
    | some value => '=' :: Search.quoted value
    | none => []
  Run.text start ++ name.toList ++ value ++ Run.newline

def mark (exported fixed : Bool) (argument : ByteText) : Run Unit := do
  match split argument with
  | (name, some value) => Run.assignMarked (← named name) value exported fixed
  | (name, none) =>
      let text := String.ofList name
      match (← get).bindings.lookup text with
      | some entry =>
          modify (·.setVariable text { entry with
            exported := entry.exported || exported, fixed := entry.fixed || fixed })
      | none =>
          let name ← named name
          modify (·.setVariable name { value := none, exported, fixed })

def marking (command : String) (exported fixed : Bool) (arguments : List ByteText) : Run Nat := do
  let (chosen, names) ← Choices.first "p" arguments
  if chosen.isNone && !names.isEmpty then names.forM (mark exported fixed)
  else
    (← get).sortedVariables.forM fun (name, entry) => do
      if exported && entry.exported || fixed && entry.fixed then
        Run.print (shown (command ++ " ") name entry.value)
  return 0

def makeLocal (arguments : List ByteText) : Run Nat := do
  -- Only the name of a new variable without a value is looked at.
  if (← get).frames.isEmpty then Run.abort (Run.text "not in a function")
  arguments.forM fun argument => do
    if argument = ['-'] then Run.keepOptions
    else
      let (name, value) := split argument
      let isKnown := ((← get).bindings.lookup (String.ofList name)).isSome
      let name ← if value.isSome || isKnown then pure (String.ofList name) else named name
      Run.makeLocal name
      match value with
      | some value => Run.assign name value
      | none =>
          if ((← get).bindings.lookup name).isNone then modify (·.setVariable name {})
  return 0

def unset (arguments : List ByteText) : Run Nat := do
  let (chosen, names) ← Choices.read "vf" arguments
  let isFunction := (chosen.getLast?.map Prod.fst) = some 'f'
  names.forM fun name => do
    if isFunction then
      modify fun shell => { shell with
        functions := shell.functions.filter (·.1 ≠ String.ofList name) }
    else
      let name ← named (split name).1
      if name = "OPTIND" then Run.notice name []
      Run.unset name
      if name = Console.searchVariable then modify fun shell => { shell with found := [] }
  return 0

def shift (arguments : List ByteText) : Run Nat := do
  let count ← match arguments with
    | argument :: _ => Choices.count argument
    | [] => pure 1
  if (← get).arguments.length < count then Run.abort (Run.text "can't shift that many")
  modify fun shell =>
    { shell with arguments := shell.arguments.drop count, position := {} }
  return 0

def options : List (String × Char) :=
  [("errexit", 'e'), ("noglob", 'f'), ("ignoreeof", 'I'), ("interactive", 'i'), ("monitor", 'm'),
   ("noexec", 'n'), ("stdin", 's'), ("xtrace", 'x'), ("verbose", 'v'), ("vi", 'V'), ("emacs", 'E'),
   ("noclobber", 'C'), ("allexport", 'a'), ("notify", 'b'), ("nounset", 'u'), ("privileged", 'p'),
   ("nolog", '1'), ("debug", '2')]

def turn (isOn : Bool) (letter : Char) : Run Unit :=
  modify fun shell =>
    let others := shell.options.filter (· ≠ letter)
    let excluded := if isOn && letter = 'V' then ['E'] else if isOn && letter = 'E' then ['V'] else []
    { shell with
      options := (if isOn then [letter] else []) ++ others.filter (!excluded.contains ·)
      unsaid := shell.unsaid.filter fun other => other ≠ letter && !excluded.contains other }

def turnLetter (isOn : Bool) (letter : Char) : Run Unit :=
  if !letter.isDigit && options.any (·.2 = letter) then turn isOn letter
  else Run.abort (Run.text "Illegal option -" ++ [letter])

def turnNamed (isOn : Bool) (name : ByteText) : Run Unit :=
  match options.lookup (String.ofList name) with
  | some letter => turn isOn letter
  | none => Run.abort (Run.text "Illegal option -o " ++ name)

def showOptions (inWords : Bool) : Run Unit := do
  -- Options that nothing has been said about yet show as if they were on.
  let shell ← get
  if inWords then Run.print (Run.text "Current option settings\n")
  options.forM fun (name, letter) =>
    let isOn := shell.has letter || shell.unsaid.contains letter
    Run.print <|
      if inWords then
        name.toList ++ List.replicate (16 - name.length) ' ' ++
          Run.text (if isOn then "on\n" else "off\n")
      else Run.text ("set " ++ (if isOn then "-o " else "+o ")) ++ name.toList ++ Run.newline

def startingLetters : List Char := ['c', 'l']

def obeyLetters (isStarting isOn : Bool) : List Char → List ByteText →
    Run (List Char × List ByteText)
  -- What means something only to a shell that starts is left to it.
  | [], rest => return ([], rest)
  | letter :: more, rest => do
      if isStarting && startingLetters.contains letter then
        let (chosen, rest) ← obeyLetters isStarting isOn more rest
        return (letter :: chosen, rest)
      else if letter = 'o' then
        match rest with
        | name :: rest =>
            turnNamed isOn name
            obeyLetters isStarting isOn more rest
        | [] =>
            showOptions isOn
            obeyLetters isStarting isOn more []
      else
        turnLetter isOn letter
        obeyLetters isStarting isOn more rest

structure Setting where
  chosen : List Char := []
  rest : List ByteText
  isMarked : Bool := false

def obey (isStarting : Bool) : Nat → List ByteText → Run Setting
  | 0, rest => return { rest }
  | _, [] => return { rest := [] }
  | count + 1, argument :: rest => do
      let go (isOn : Bool) (letters : List Char) : Run Setting := do
        let (chosen, rest) ← obeyLetters isStarting isOn letters rest
        let later ← obey isStarting count rest
        return { later with chosen := chosen ++ later.chosen }
      match argument with
      | ['-'] =>
          if !isStarting then
            turn false 'x'
            turn false 'v'
          return { rest }
      | ['-', '-'] => return { rest, isMarked := true }
      | '-' :: letters => go true letters
      | '+' :: letters => go false letters
      | _ => return { rest := argument :: rest }

def refuseJobs : Run Unit := do
  if (← get).has 'm' then
    Run.complain (Run.text "can't access tty; job control turned off")
    turn false 'm'

def set (arguments : List ByteText) : Run Nat := do
  if arguments.isEmpty then
    (← get).sortedVariables.forM fun (name, entry) => do
      if entry.value.isSome then Run.print (shown "" name entry.value)
    return 0
  else
    let setting ← obey false (arguments.length + 1) arguments
    refuseJobs
    if setting.isMarked || !setting.rest.isEmpty then
      modify fun shell => { shell with arguments := setting.rest, position := {} }
    return 0

structure Line where
  expanded : Expanded := []
  isWhole : Bool

def readLine (raw : Bool) : Nat → Bool → List Item → Run Line
  -- A character after a backslash may not be cut.
  | 0, _, items => return ⟨[⟨.atCuts, items.reverse⟩], false⟩
  | count + 1, escaped, items => do
      let console := (← get).console
      match console.get Console.inputStream 1 with
      | .ok ([byte], console) =>
          modify fun shell => { shell with console }
          let char := Char.ofNat byte.toNat
          if char = '\x00' then readLine raw count escaped items
          else if escaped then
            let later ← readLine raw count false []
            let whole : Expanded := if char = '\n' then [] else [⟨.whole, [.char char true]⟩]
            return { later with expanded := ⟨.atCuts, items.reverse⟩ :: whole ++ later.expanded }
          else if char = '\x5c' && !raw then readLine raw count true items
          else if char = '\n' then return ⟨[⟨.atCuts, items.reverse⟩], true⟩
          else readLine raw count false (.char char true :: items)
      | _ => return ⟨[⟨.atCuts, items.reverse⟩], false⟩

def longestLine : Nat := 1000000

def give : List ByteText → List ByteText → Run Unit
  | [], _ => return
  | name :: names, fields => do
      Run.assignNamed name (fields.headD [])
      give names fields.tail

def read (arguments : List ByteText) : Run Nat := do
  let (chosen, names) ← Choices.read "p:r" arguments
  if names.isEmpty then Run.abort (Run.text "arg count")
  let line ← readLine (chosen.any (·.1 = 'r')) longestLine false []
  let fields := Fields.cut (← get).cuts (some names.length) line.expanded
  give names (fields.map plain)
  return if line.isWhole then 0 else 1

def nextOption (position : OptionPosition) (options : List ByteText) :
    Nat × Option (Char × ByteText) :=
  let before := options[position.argument - 2]?.getD []
  let within : ByteText :=
    match position.letter with
    | some letter => if 1 < position.argument then before.drop letter else []
    | none => []
  match within with
  | letter :: rest => (position.argument - 1, some (letter, rest))
  | [] =>
      let argument := position.argument - 1
      match options[argument]? with
      | some ['-', '-'] => (argument + 1, none)
      | some ('-' :: letter :: rest) => (argument + 1, some (letter, rest))
      | _ => (argument, none)

structure OptionRead where
  letter : Char
  value : Option ByteText
  argument : Nat
  goesOn : Bool
  complaint : ByteText := []

/-- Read an option that letters allow. A colon at their front keeps complaints away. -/
def readOption (letters : ByteText) (options : List ByteText) (argument : Nat) (letter : Char)
    (rest : ByteText) : OptionRead :=
  let isQuiet := letters.head? = some ':'
  let blamed : Option ByteText := if isQuiet then some [letter] else none
  match (Choices.known letters).lookup letter with
  | none =>
      { letter := '?', argument, value := blamed, goesOn := true
        complaint := Run.text "Illegal option -" ++ [letter] }
  | some false => { letter, argument, value := some [], goesOn := true }
  | some true =>
      if rest ≠ [] then { letter, argument, value := some rest, goesOn := false }
      else
        match options[argument]? with
        | some value => { letter, argument := argument + 1, value := some value, goesOn := false }
        | none =>
            { letter := if isQuiet then ':' else '?', argument, value := blamed, goesOn := false
              complaint := Run.text "No arg for -" ++ letter :: Run.text " option" }

def noteOptions (name : ByteText) (letter : Char) (argument : Nat) (within : Option Nat) :
    Run Unit := do
  let before := ((← get).bindings.lookup "OPTIND").getD {}
  if before.fixed then Run.abort (Run.readOnly "OPTIND")
  let value := some (ByteText.ofInt (argument + 1))
  modify (·.setVariable "OPTIND" { before with value })
  Run.assignNamed name [letter]
  modify fun shell => { shell with position := ⟨argument + 1, within⟩ }

def getopts (arguments : List ByteText) : Run Nat := do
  -- After a fault, reading begins anew.
  match arguments with
  | letters :: name :: given =>
      let shell ← get
      let options := if given.isEmpty then shell.arguments else given
      let isPast : Bool := options.length + 1 < shell.position.argument
      let (argument, found) := nextOption (if isPast then {} else shell.position) options
      modify fun shell => { shell with position := {} }
      match found with
      | none =>
          noteOptions name '?' argument none
          return 1
      | some (letter, rest) =>
          let read := readOption letters options argument letter rest
          match read.value with
          | some value => Run.assign "OPTARG" value
          | none =>
              Run.tell Console.errorStream (read.complaint ++ Run.newline)
              Run.unset "OPTARG"
          let whole := options[argument - 1]?.getD []
          let within := if read.goesOn then some (whole.length - rest.length) else none
          noteOptions name read.letter read.argument within
          return 0
  | _ => Run.abort (Run.text "Usage: getopts optstring var [arg...]")

end DescriptorReaper.Shell.Variables
