import DescriptorReaper.Alphanumeric

/-!
Which texts are regular expressions that an automaton can be built for. Nothing is matched here: a
filter may ask for the values of fields by such expressions, and an expression that cannot be read
spoils the filter.

Characters are scalar values of all scripts, but nothing is known about them: there are no kinds of
characters, no borders of words and no letter cases, unless the expression asks for bytes. An
expression nests at most so deep.
-/

namespace DescriptorReaper.RegularExpression

/-- What the settings of an expression change about how it is read. -/
structure Mode where
  -- Blanks between the parts mean nothing, and a comment ends with its line.
  spaced : Bool := false
  -- Classes hold characters of all scripts; else bytes.
  wide : Bool := true
  folded : Bool := false
  deriving DecidableEq, Repr

def Mode.takesCharacters (mode : Mode) : Bool := !(mode.wide && mode.folded)

def deepest : Nat := 250

/-- The parts read so far of one branch, the latest first, each by how deep it nests; a change of
mode counts as a part that cannot be repeated. -/
abbrev Parts := List (Option Nat)

def Parts.depth (parts : Parts) : Nat :=
  let inner := (parts.map (·.getD 0)).foldl max 0
  if parts.length < 2 then inner else inner + 1

def branchesDepth (branches : List Parts) : Nat :=
  let inner := (branches.map Parts.depth).foldl max 0
  if branches.length < 2 then inner else inner + 1

def isBlank (char : Char) : Bool :=
  let code := char.toNat
  (9 ≤ code && code ≤ 13) || code = 0x20 || code = 0x85 || code = 0xA0 || code = 0x1680 ||
    (0x2000 ≤ code && code ≤ 0x200A) || code = 0x2028 || code = 0x2029 || code = 0x202F ||
    code = 0x205F || code = 0x3000

def skip (mode : Mode) : List Char → List Char
  | [] => []
  | char :: rest =>
      if ¬ mode.spaced then char :: rest
      else if isBlank char then skip mode rest
      else if char = '#' then comment mode rest
      else char :: rest
where
  comment (mode : Mode) : List Char → List Char
    | [] => []
    | char :: rest => if char = '\n' then skip mode rest else comment mode rest

def isMeta (char : Char) : Bool := "\x5c.+*?()|[]\x7b\x7d^$#&-~".toList.contains char

def isEscapable (char : Char) : Bool :=
  isMeta char || (char.toNat < 128 && !char.isAlphanum && char ≠ '<' && char ≠ '>')

inductive Primitive where
  | literal (code : Nat)
  | set
  | place
  | border
  deriving DecidableEq, Repr

def hexDigit? (char : Char) : Option Nat :=
  if char.isDigit then some (char.toNat - 48)
  else if 'a' ≤ char && char ≤ 'f' then some (char.toNat - 87)
  else if 'A' ≤ char && char ≤ 'F' then some (char.toNat - 55)
  else none

def hexNumber (mode : Mode) : Nat → Nat → List Char → Option (Nat × List Char)
  | 0, number, rest => some (number, rest)
  | count + 1, number, text =>
      match skip mode text with
      | char :: rest =>
          match hexDigit? char with
          | some digit => hexNumber mode count (16 * number + digit) rest
          | none => none
      | [] => none

def numbered? (mode : Mode) (count : Nat) (text : List Char) : Option (Primitive × List Char) :=
  match hexNumber mode count 0 text with
  | some (code, rest) =>
      if ¬ Nat.isValidChar code then none
      else if mode.wide || code < 128 || count ≠ 2 then some (.literal code, rest)
      else none
  | none => none

def controls : List (Char × Nat) := [('a', 7), ('t', 9), ('n', 10), ('v', 11), ('f', 12), ('r', 13)]

def escaped? (mode : Mode) (text : List Char) : Option (Primitive × List Char) :=
  -- There are no references back to groups. Only bytes have kinds, and what is not of a kind would
  -- be no text.
  match text with
  | [] => none
  | char :: rest =>
      if char.isDigit then none
      else if char = 'x' then numbered? mode 2 rest
      else if char = 'u' then numbered? mode 4 rest
      else if char = 'U' then numbered? mode 8 rest
      else if "dsw".toList.contains char then if mode.wide then none else some (.set, rest)
      else if isEscapable char then some (.literal char.toNat, rest)
      else if let some code := controls.lookup char then some (.literal code, rest)
      else if char = 'A' || char = 'z' then some (.place, rest)
      else if "bB<>".toList.contains char then some (.border, rest)
      else none

def namedClasses : List String :=
  ["alnum", "alpha", "ascii", "blank", "cntrl", "digit", "graph", "lower", "print", "punct",
   "space", "upper", "word", "xdigit"]

def afterNamedClass? (text : List Char) : Option (Bool × List Char) :=
  match text with
  | ':' :: rest =>
      let negated := rest.head? = some '^'
      let rest := if negated then rest.drop 1 else rest
      let name := rest.takeWhile (· ≠ ':')
      match rest.drop name.length with
      | ':' :: ']' :: after =>
          if namedClasses.contains (String.ofList name) then some (negated, after) else none
      | _ => none
  | _ => none

def member? (mode : Mode) (text : List Char) : Option (Primitive × List Char) := do
  let (found, rest) ← match text with
    | [] => none
    | '\x5c' :: rest => escaped? mode rest
    | char :: rest => some (.literal char.toNat, rest)
  let fits : Bool := match found with
    | .literal code => mode.takesCharacters && (mode.wide || code < 128)
    | .set => true
    | .place | .border => false
  if fits then some (found, rest) else none

def classHead (mode : Mode) (text : List Char) : Bool × Nat × List Char :=
  let text := skip mode text
  let (negated, text) := match text with
    | '^' :: rest => (true, skip mode rest)
    | text => (false, text)
  match hyphens 0 text.length text with
  | (0, ']' :: rest) => (negated, 1, skip mode rest)
  | (count, text) => (negated, count, text)
where
  hyphens (found : Nat) : Nat → List Char → Nat × List Char
    | count + 1, '-' :: rest => hyphens (found + 1) count (skip mode rest)
    | _, text => (found, text)

structure Members where
  -- How deep what stands before the last operator nests.
  left : Option Nat := none
  -- How many members stand after it, and how deep they nest.
  count : Nat := 0
  depth : Nat := 0

def Members.last (members : Members) : Nat :=
  if members.count < 2 then members.depth else members.depth + 1

def Members.whole (members : Members) : Nat :=
  match members.left with
  | some left => max left members.last + 1
  | none => members.last

def Members.add (members : Members) (depth : Nat) : Members :=
  { members with count := members.count + 1, depth := max members.depth depth }

def class? (mode : Mode) : Nat → Members → List Char → Option (Nat × List Char)
  -- A class of bytes may not be negated, for then it would hold bytes that are no characters.
  | 0, _, _ => none
  | count + 1, members, text =>
      match skip mode text with
      | [] => none
      | ']' :: rest => some (members.whole, rest)
      | '[' :: rest =>
          match afterNamedClass? rest with
          | some (negated, rest) =>
              if mode.takesCharacters && (mode.wide || !negated) then
                class? mode count (members.add 0) rest
              else none
          | none => do
              let (negated, literals, rest) := classHead mode rest
              if negated && !mode.wide || literals ≠ 0 && !mode.takesCharacters then none
              let (depth, rest) ← class? mode count { count := literals } rest
              class? mode count (members.add (depth + 1)) rest
      | '&' :: '&' :: rest | '-' :: '-' :: rest | '~' :: '~' :: rest =>
          class? mode count { left := some members.whole } rest
      | text => do
          let (first, rest) ← member? mode text
          let rest := skip mode rest
          let ranges := rest.head? = some '-' &&
            match skip mode (rest.drop 1) with
            | ']' :: _ | '-' :: _ => false
            | _ => true
          if ranges then
            match first, ← member? mode (skip mode (rest.drop 1)) with
            | .literal low, (.literal high, rest) =>
                if low ≤ high then class? mode count (members.add 0) rest else none
            | _, _ => none
          else class? mode count (members.add 0) rest

def isSetting (char : Char) : Bool := "imsUuRx".toList.contains char

def settings? (mode : Mode) (off : Bool) (seen : List Char) :
    List Char → Option (Mode × Bool × Bool × List Char)
  -- No setting is given twice, and a hyphen stands before at least one.
  | [] => none
  | char :: rest =>
      if char = ')' || char = ':' then
        if seen.head? = some '-' then none else some (mode, char = ')', seen = [], rest)
      else if seen.contains char then none
      else if char = '-' then settings? mode true (char :: seen) rest
      else if isSetting char then
        let mode := match char with
          | 'x' => { mode with spaced := !off }
          | 'u' => { mode with wide := !off }
          | 'i' => { mode with folded := !off }
          | _ => mode
        settings? mode off (char :: seen) rest
      else none

def inGroupName (first : Bool) (char : Char) : Bool :=
  char = '_' ||
    if first then Alphanumeric.isAlphabetic char
    else char = '.' || char = '[' || char = ']' || Alphanumeric.isAlphanumeric char

inductive Opening where
  | settings (mode : Mode)
  | group (mode : Mode) (name : Option (List Char))

def opening? (mode : Mode) (names : List (List Char)) (text : List Char) :
    Option (Opening × List Char) :=
  -- There is no looking ahead or back.
  match skip mode text with
  | '?' :: 'P' :: '<' :: rest => named rest
  | '?' :: '<' :: rest => named rest
  | '?' :: rest =>
      match settings? mode false [] rest with
      | some (inner, true, none?, rest) => if none? then none else some (.settings inner, rest)
      | some (inner, false, _, rest) => some (.group inner none, rest)
      | none => none
  | text => some (.group mode none, text)
where
  named (text : List Char) : Option (Opening × List Char) :=
    let name := text.takeWhile (· ≠ '>')
    let wellNamed := match name with
      | [] => false
      | first :: others => inGroupName true first && others.all (inGroupName false)
    match text.drop name.length with
    | '>' :: rest =>
        if wellNamed && !names.contains name then some (.group mode (some name), rest) else none
    | _ => none

def add? (mode : Mode) (parts : Parts) (found : Primitive) : Option Parts :=
  let fits : Bool := match found with
    | .literal _ => mode.takesCharacters
    | .set | .place => true
    | .border => !mode.wide
  if fits then some (some 0 :: parts) else none

/-- Read branches up to the end, or to the parenthesis that closes a group. The answer has the names
of groups, how deep the branches nest, whether a parenthesis was met, and the rest. -/
def branches? : Nat → Mode → List (List Char) → List Parts → Parts → List Char →
    Option (List (List Char) × Nat × Bool × List Char)
  | 0, _, _, _, _, _ => none
  | count + 1, mode, names, done, parts, text =>
      let goOn (parts : Parts) (rest : List Char) := branches? count mode names done parts rest
      match skip mode text with
      | [] => some (names, branchesDepth (parts :: done), false, [])
      | ')' :: rest => some (names, branchesDepth (parts :: done), true, rest)
      | '|' :: rest => branches? count mode names (parts :: done) [] rest
      | '(' :: rest =>
          match opening? mode names rest with
          | none => none
          | some (.settings mode, rest) => branches? count mode names done (none :: parts) rest
          | some (.group inner name, rest) =>
              match branches? count inner (name.toList ++ names) [] [] rest with
              | some (names, depth, true, rest) =>
                  branches? count mode names done (some (depth + 1) :: parts) rest
              | _ => none
      | '[' :: rest =>
          let (negated, literals, rest) := classHead mode rest
          if negated && !mode.wide || literals ≠ 0 && !mode.takesCharacters then none
          else
            match class? mode count { count := literals } rest with
            | some (depth, rest) => goOn (some (depth + 1) :: parts) rest
            | none => none
      | '?' :: rest | '*' :: rest | '+' :: rest =>
          match parts with
          | some depth :: before =>
              let rest := if rest.head? = some '?' then rest.drop 1 else rest
              goOn (some (depth + 1) :: before) rest
          | _ => none
      | '\x7b' :: _ => none
      | '\x5c' :: rest =>
          match escaped? mode rest with
          | some (primitive, rest) => (add? mode parts primitive).bind (goOn · rest)
          | none => none
      | '.' :: rest => if mode.wide then goOn (some 0 :: parts) rest else none
      | '^' :: rest | '$' :: rest => (add? mode parts .place).bind (goOn · rest)
      | char :: rest => (add? mode parts (.literal char.toNat)).bind (goOn · rest)

/-- Can an automaton be built for the text? A counted repetition needs a brace that closes it, which
the places where expressions stand do not let in. -/
def isWellFormed (text : List Char) : Bool :=
  match branches? (text.length + 1) {} [] [] [] text with
  | some (_, depth, false, _) => depth ≤ deepest
  | _ => false

end DescriptorReaper.RegularExpression
