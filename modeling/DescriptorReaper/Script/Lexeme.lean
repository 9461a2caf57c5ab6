import DescriptorReaper.Script.Input

/-!
Words and documents read character by character. What a character means depends on what stands
around it: quotes keep it from its use, braces hold what is done with a parameter, and the lines of
a document are taken as if they stood in quotes. Scripts inside a word are read by whoever reads
commands.
-/

namespace DescriptorReaper.Script

/-- What stands around the text at hand. -/
inductive Around where
  | nothing
  | braces
  | quotes (inBraces : Bool)
  -- Braces inside of quotes. Quotes in them change nothing but whether a brace closes.
  | quotedBraces (flipped : Bool)
  | document
  | sum (depth : Nat)

namespace Around

def isQuoted : Around → Bool
  | .nothing | .braces => false
  | _ => true

def inBraces : Around → Bool
  | .nothing | .document | .sum _ => false
  | .braces | .quotedBraces _ => true
  | .quotes inBraces => inBraces

def used (around : Around) : Around := if around.isQuoted then .quotedBraces false else .braces

end Around

namespace Reading

def singleQuote : Char := '\x27'

def doubleQuote : Char := '\x22'

def backslash : Char := '\x5c'

def backquote : Char := '\x60'

def opensBrace : Char := '\x7b'

def closesBrace : Char := '\x7d'

def endsWord (char : Char) : Bool := " \t\n;&|<>()".toList.contains char

def namesAlone (char : Char) : Bool := char.isDigit || "@*#?$!-".toList.contains char

def unended (around : Around) (inDocument : Bool) : Option String :=
  let brace := "Missing '\x7d'"
  let quote := "Unterminated quoted string"
  match around with
  | .nothing | .document => none
  | .braces => some brace
  | .quotes _ | .quotedBraces _ => some (if inDocument then brace else quote)
  | .sum _ => some "Missing '))'"

def yieldsTo (around : Around) (inDocument : Bool) (char : Char) : Bool :=
  char = backslash || char = backquote || char = '$' ||
    (char = doubleQuote && !(inDocument && !around.inBraces)) ||
    (char = closesBrace && around.inBraces)

def spanFrom (test : Char → Bool) : Nat → ByteText → Reading ByteText
  | 0, found => return found.reverse
  | count + 1, found => do
      match ← look with
      | some char =>
          if test char then
            skip
            spanFrom test count (char :: found)
          else return found.reverse
      | none => return found.reverse

def span (test : Char → Bool) : Reading ByteText := spanFrom test plenty []

def singleQuoted : Nat → ByteText → Reading ByteText
  | 0, _ => fail "Unterminated quoted string"
  | count + 1, found => do
      match ← peek with
      | none => fail "Unterminated quoted string"
      | some char =>
          skip
          if char = singleQuote then return found.reverse
          else
            if char = '\n' then nextLine
            singleQuoted count (char :: found)

def backquoted (quoted : Bool) : Nat → ByteText → Reading ByteText
  | 0, _ => fail "EOF in backquote substitution"
  | count + 1, found => do
      match ← look with
      | none => fail "EOF in backquote substitution"
      | some char =>
          skip
          if char = backquote then return found.reverse
          else if char = backslash then
            match ← peek with
            | none => fail "EOF in backquote substitution"
            | some next =>
                skip
                if next = backslash || next = backquote || next = '$' ||
                    (quoted && next = doubleQuote) then
                  backquoted quoted count (next :: found)
                else backquoted quoted count (next :: char :: found)
          else
            if char = '\n' then nextLine
            backquoted quoted count (char :: found)

def startLine (pending : Pending) : Reading (Option ByteText) := do
  -- There is no answer for the line that ends the document, which counts as a line even if the text
  -- ends with it. A line end that a backslash would take away stays if tabs before it have been
  -- dropped.
  if ¬ pending.plain then joinLines plenty
  let hasTabs ← if pending.stripped then skipTabs plenty false else pure false
  let _ ← peek
  match pending.ending with
  | none => return some []
  | some ending =>
      let text ← textAhead (ending ++ ['\n'])
      let rest := text.drop ending.length
      if ending.isPrefixOf text && rest.head?.all (· = '\n') then
        (ending ++ rest.take 1).forM fun _ => skip
        endLine
        return none
      else
        let kept := [backslash, '\n']
        if hasTabs && !pending.plain && kept.isPrefixOf (← textAhead kept) then
          kept.forM fun _ => skip
          return some kept
        else return some []
where
  skipTabs : Nat → Bool → Reading Bool
    | 0, found => return found
    | count + 1, found => do
        if (← peek) = some '\t' then
          skip
          skipTabs count true
        else return found

def plainLines (pending : Pending) (lineStart : Bool) : Nat → ByteText → Reading ByteText
  | 0, found => return found.reverse
  | count + 1, found => do
      let started ← if lineStart then startLine pending else pure (some [])
      if started.isNone then return found.reverse
      else
        match ← peek with
        | none => return found.reverse
        | some char =>
            skip
            if char = '\n' then nextLine
            plainLines pending (char = '\n') count (char :: found)

def useOf (emptyToo : Bool) (letter : Char) (word : Word) : Use :=
  match letter with
  | '-' => .otherwise emptyToo word
  | '+' => .instead emptyToo word
  | '=' => .assigning emptyToo word
  | '?' => .demanding emptyToo word
  | _ => .unknown word

def bracedName : Reading (Option String × Bool) := do
  match ← look with
  | none => return (none, false)
  | some char =>
      if ByteText.opensName char then return (String.ofList (← span ByteText.inName), false)
      else if char.isDigit then return (String.ofList (← span Char.isDigit), false)
      else if char = closesBrace then return (none, false)
      else
        skip
        if char ≠ '#' then return (if namesAlone char then char.toString else none, false)
        else
          match ← look with
          | none => return (some "#", false)
          | some next =>
              if ByteText.opensName next then
                return (String.ofList (← span ByteText.inName), true)
              else if next.isDigit then
                return (String.ofList (← span Char.isDigit), true)
              else if next = closesBrace then return (some "#", false)
              else
                -- The length of a parameter only if its name is all there is.
                let before := (← get).strands
                skip
                if (← look) = some closesBrace then
                  return (if namesAlone next then next.toString else none, true)
                else
                  modify fun input => { input with strands := before }
                  return (some "#", false)

variable (nested : Bool → Reading Command)

mutual

def stretch (pending : Option Pending) : Nat → Around → Draft → Reading Word
  | 0, _, _ => fail "word unexpected"
  | count + 1, around, found => do
      let quoted := around.isQuoted
      match ← look with
      | none =>
          match unended around pending.isSome with
          | some complaint => fail complaint
          | none => return found.word
      | some char =>
          let keep := skip *> stretch pending count around (found.add quoted char)
          if char = '\n' then
            match around with
            | .nothing => return found.word
            | around =>
                skip
                nextLine
                let found := found.add quoted char
                match pending with
                | none => stretch none count around found
                | some document =>
                    match ← startLine document with
                    | none =>
                        match unended around true with
                        | some complaint => fail complaint
                        | none => return found.word
                    | some kept =>
                        stretch pending count around (kept.foldl (·.add quoted ·) found)
          else if char = backslash then
            skip
            match ← peek with
            | none => stretch pending count around (found.add true char)
            | some next =>
                skip
                if ¬ quoted || yieldsTo around pending.isSome next then
                  stretch pending count around (found.add true next)
                else stretch pending count around ((found.add true char).add true next)
          else if char = '$' then
            skip
            let parts ← dollar pending count around
            stretch pending count around (parts.foldl Draft.push found)
          else if char = backquote then
            if (← get).expected.endMark then keep
            else
              skip
              let text ← backquoted quoted plenty []
              let script ← elsewhere text (nested true)
              stretch pending count around (found.attach (.output quoted script))
          else
            match around with
            | .nothing | .braces =>
                if char = singleQuote then
                  skip
                  let inside := [.mark, .text true (← singleQuoted plenty []), .mark]
                  stretch pending count around (inside.foldl Draft.attach found)
                else if char = doubleQuote then
                  skip
                  let inside ← stretch pending count (.quotes around.inBraces) {}
                  let inside := .mark :: inside ++ [.mark]
                  stretch pending count around (inside.foldl Draft.attach found)
                else
                  match around with
                  | .braces => if char = closesBrace then skip *> return found.word else keep
                  | _ => if endsWord char then return found.word else keep
            | .quotes _ => if char = doubleQuote then skip *> return found.word else keep
            | .quotedBraces flipped =>
                if char = doubleQuote then
                  skip
                  stretch pending count (.quotedBraces !flipped) (found.attach .mark)
                else if char = closesBrace && !flipped then skip *> return found.word
                else keep
            | .document => keep
            | .sum depth =>
                let more := found.add true char
                if char = '(' then skip *> stretch pending count (.sum (depth + 1)) more
                else if char = ')' then
                  skip
                  match depth with
                  | depth + 1 => stretch pending count (.sum depth) more
                  | 0 =>
                      if ← taken ')' then return found.word
                      else stretch pending count (.sum 0) more
                else keep

def dollar (pending : Option Pending) : Nat → Around → Reading Word
  | 0, _ => fail "word unexpected"
  | count + 1, around => do
      let quoted := around.isQuoted
      let alone : Word := [.text quoted ['$']]
      if (← get).expected.endMark then return alone
      else
        match ← look with
        | none => return alone
        | some char =>
            if char = '(' then
              skip
              if ← taken '(' then
                return [.sum quoted (← stretch pending count (.sum 0) {})]
              else return [.output quoted (← nested false)]
            else if char = opensBrace then
              skip
              return [← braced pending count around]
            else if ByteText.opensName char then
              let name ← span ByteText.inName
              return [.parameter quoted (String.ofList name) .value]
            else if namesAlone char then
              skip
              return [.parameter quoted char.toString .value]
            else return alone

def braced (pending : Option Pending) : Nat → Around → Reading Part
  | 0, _ => fail "word unexpected"
  | count + 1, around => do
      let parameter (name : String) (use : Use) : Part := .parameter around.isQuoted name use
      let word (around : Around) : Reading Word := stretch pending count around {}
      match ← bracedName with
      | (none, _) => return parameter "" (.unknown (← word around.used))
      | (some name, true) =>
          let isWhole := (← look) = some closesBrace
          let rest ← word around.used
          return parameter name (if isWhole then .length else .unknown rest)
      | (some name, false) =>
          match ← look with
          | none => return parameter name (.unknown (← word around.used))
          | some char =>
              skip
              if char = closesBrace then return parameter name .value
              else if char = '%' || char = '#' then
                let greedy ← taken char
                return parameter name (.trimmed (char = '%') greedy (← word .braces))
              else if char = ':' then
                match ← look with
                | none => return parameter name (.unknown (← word around.used))
                | some letter =>
                    skip
                    let rest ← word around.used
                    if letter = closesBrace then return parameter name (.ending rest)
                    else return parameter name (useOf true letter rest)
              else return parameter name (useOf false char (← word around.used))

end

def redirectionSign (named : Option Nat) : Reading Awaited := do
  if ← taken '>' then
    let fd := named.getD 1
    if ← taken '>' then return .path fd .append
    else if ← taken '|' then return .path fd .clobber
    else if ← taken '&' then return .path fd .copy
    else return .path fd .write
  else
    skip
    let fd := named.getD 0
    if ← taken '<' then return .document fd (← taken '-')
    else if ← taken '&' then return .path fd .copy
    else if ← taken '>' then return .path fd .update
    else return .path fd .read

def named? : Word → Option (Option Nat)
  | [] => some none
  | [.text false [digit]] => if digit.isDigit then some (some (ByteText.decimal [digit])) else none
  | _ => none

def skipBlanks : Nat → Reading Unit
  | 0 => return
  | count + 1 => do
      match ← look with
      | some char =>
          if char = ' ' || char = '\t' then
            skip
            skipBlanks count
          else if char = '#' then skipComment plenty
          else return
      | none => return
where
  skipComment : Nat → Reading Unit
    | 0 => return
    | count + 1 => do
        match ← peek with
        | some char =>
            if char = '\n' then return
            else
              skip
              skipComment count
        | none => return

def maybeDouble (char : Char) : Reading Token := do
  skip
  if ← taken char then return .sign (String.ofList [char, char])
  else return .sign char.toString

/-- The next token of the text. -/
def lexeme : Reading Token := do
  askIfDue
  skipBlanks plenty
  match ← look with
  | none => return .finish
  | some char =>
      if char = '\n' then
        skip
        endLine
        return .newline
      else if char = '&' || char = '|' || char = ';' then maybeDouble char
      else if char = '(' || char = ')' then
        skip
        return .sign char.toString
      else
        let word ← stretch nested none plenty .nothing {}
        let next ← peek
        match named? word, next with
        | some named, some '<' | some named, some '>' =>
            let awaited ← redirectionSign named
            modify fun input => { input with awaited }
            return .redirection
        | _, _ =>
            modify fun input => { input with word }
            return .word

def documentWord (document : Pending) : Reading Word := do
  askIfDue
  if document.plain then return [.text true (← plainLines document true plenty [])]
  else
    match ← startLine document with
    | none => return []
    | some kept =>
        stretch nested (some document) plenty .document (kept.foldl (·.add true ·) {})

def documents : Reading Unit := do
  let pending := (← get).pending
  modify fun input => { input with pending := [] }
  pending.forM fun document => do
    let word ← documentWord nested document
    modify fun input => { input with documents := (document.number, word) :: input.documents }

end Reading

end DescriptorReaper.Script
