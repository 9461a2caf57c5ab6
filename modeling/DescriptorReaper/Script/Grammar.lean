import DescriptorReaper.Script.Lexeme

/-!
Commands read from tokens. A script is read a line at a time, so that what stands on earlier lines
is run before a later line is found to make no sense; a line is read on as long as it holds the
beginning of something. A word may turn out to be an alias, whose text is then read in its place.
-/

namespace DescriptorReaper.Script

def Word.unquoted (word : Word) : ByteText :=
  word.flatMap fun
    | .text _ chars => chars
    | _ => []

def special : List String :=
  [".", ":", "break", "continue", "eval", "exec", "exit", "export", "local", "readonly", "return",
   "set", "shift", "times", "trap", "unset"]

namespace Reading

def keywords : List String :=
  ["!", "case", "do", "done", "elif", "else", "esac", "fi", "for", "if", "in", "then", "until",
   "while", "\x7b", "\x7d"]

def quote (text : String) : String := "\"" ++ text ++ "\""

def shown : Token → String
  | .finish => "end of file"
  | .newline => "newline"
  | .sign text => quote text
  | .redirection => "redirection"
  | .word => "word"

def unexpected {α : Type} (wanted : Option Token) : Reading α := do
  let wish := match wanted with
    | some token => " (expecting " ++ shown token ++ ")"
    | none => ""
  fail (shown (← get).token ++ " unexpected" ++ wish)

def expect (expected : Expected) : Reading Unit := modify fun input => { input with expected }

def command? : Expected := { keywords := true, aliases := true }

def commandBelow? : Expected := { command? with pastLines := true }

def hold : Reading Unit := modify fun input => { input with isHeld := true }

section Tokens

variable (nested : Bool → Reading Command)

def raw : Reading Token := do
  let input ← get
  if input.isHeld then
    set { input with isHeld := false }
    return input.token
  else
    let token ← lexeme nested
    modify fun input => { input with token }
    return token

def pastLines : Nat → Token → Reading Token
  -- Documents begin where a line ends.
  | 0, token => return token
  | count + 1, token => do
      if token = .newline then
        documents nested
        expect {}
        pastLines count (← raw nested)
      else return token

def aliased? (input : Input) (name : ByteText) : Option ByteText :=
  if input.spent.contains name || input.strands.any (·.standsFor = some name) then none
  else input.aliases.lookup name

def tokenOf : Nat → Expected → Reading Token
  | 0, _ => return .finish
  | count + 1, kinds => do
      let token ← raw nested
      let token ← if kinds.pastLines then pastLines nested plenty token else pure token
      let now := (← get).expected
      expect {}
      let keyword := kinds.keywords || now.keywords
      let aliases := kinds.aliases || now.aliases
      match token, (← get).word.bare? with
      | .word, some text =>
          if keyword && keywords.contains (String.ofList text) then
            let token := Token.sign (String.ofList text)
            modify fun input => { input with token }
            return token
          else if aliases then
            match aliased? (← get) text with
            | some value =>
                if value ≠ [] then
                  let leadsOn := value.getLast?.any fun char => char = ' ' || char = '\t'
                  prepend { text := value, standsFor := some text, leadsOn }
                tokenOf count { kinds with keywords := keyword, aliases }
            | none => return token
          else return token
      | _, _ => return token

def token : Reading Token := do tokenOf nested plenty (← get).expected

def tookSign (text : String) : Reading Bool := do
  if (← token nested) = .sign text then return true
  else
    hold
    return false

def demand (text : String) : Reading Unit := do
  if (← token nested) ≠ .sign text then unexpected (some (.sign text))

def target : Reading Redirection := do
  match (← get).awaited with
  | .path fd direction =>
      if (← token nested) ≠ .word then unexpected none
      return .path fd direction (← get).word
  | .document fd stripped =>
      expect { endMark := true }
      if (← token nested) ≠ .word then unexpected none
      let input ← get
      let number := input.documentCount
      let pending : Pending :=
        { number, stripped, plain := input.word.bare?.isNone
          ending := some input.word.unquoted }
      set { input with
        pending := input.pending ++ [pending]
        documentCount := number + 1 }
      return .document fd number

def redirections : Nat → Reading (List Redirection)
  | 0 => return []
  | count + 1 => do
      if (← token nested) = .redirection then
        let first ← target nested
        return first :: (← redirections count)
      else
        hold
        return []

def words : Nat → List Word → Reading (List Word)
  | 0, found => return found.reverse
  | count + 1, found => do
      if (← token nested) = .word then
        let word := (← get).word
        words count (word :: found)
      else return found.reverse

def patterns : Nat → Reading (List Word)
  | 0 => return []
  | count + 1 => do
      let first := (← get).word
      if (← token nested) = .sign "|" then
        let _ ← token nested
        return first :: (← patterns count)
      else return [first]

def loopName : Reading String := do
  let isWord := (← token nested) = .word
  match (← get).word.bare? with
  | some name =>
      if isWord && ByteText.isName name then return String.ofList name
      else fail "Bad for loop variable"
  | none => fail "Bad for loop variable"

end Tokens

def endsList (token : Token) : Bool :=
  let ends := [")", ";;", "do", "done", "elif", "else", "esac", "fi", "then", "\x7d"]
  match token with
  | .finish => true
  | .sign text => ends.contains text
  | _ => false

/-- How far a list of commands goes. -/
inductive Extent where
  | line
  | some
  | any
  deriving DecidableEq

structure Simple where
  assignments : List (String × Word) := []
  words : List Word := []
  redirections : List Redirection := []

def Simple.command (simple : Simple) (line : Nat) : Command :=
  .simple line simple.assignments.reverse simple.words.reverse simple.redirections.reverse

def Simple.name? (simple : Simple) : Option Word :=
  match simple with
  | ⟨[], [name], []⟩ => some name
  | _ => none

def after (before : Option Command) (command : Command) : Command :=
  match before with
  | some before => .sequence before command
  | none => command

def functionName (word : Word) : Reading String := do
  match word.bare? with
  | some name =>
      let text := String.ofList name
      if ByteText.isName name && !special.contains text then return text
      else fail "Bad function name"
  | none => fail "Bad function name"

mutual

/-- A script inside a word: between backquotes, or else up to a closing parenthesis. Documents that
it leaves open have no text. -/
def substitution : Nat → Bool → Reading Command
  | 0, _ => unexpected none
  | count + 1, isOld => do
      let pending := (← get).pending
      modify fun input => { input with pending := [] }
      let body ← list count .any none
      if ¬ isOld then
        demand (substitution count) ")"
        elsewhere [] (documents (substitution count))
      modify fun input => { input with pending, isHeld := false, expected := {} }
      return body.getD .nothing

def list : Nat → Extent → Option Command → Reading (Option Command)
  | 0, _, _ => unexpected none
  | count + 1, extent, before => do
      let nested := substitution count
      expect (if extent = .line then command? else commandBelow?)
      let first ← token nested
      if first = .newline then
        documents nested
        return before
      else if first = .finish then
        documents nested
        hold
        return before
      else
        hold
        let mayEnd := match extent with
          | .line => false
          | .some => before.isSome
          | .any => true
        if mayEnd && endsList first then return before
        else
          let next ← joined count (← pipeline count)
          let sign ← token nested
          let next := if sign = .sign "&" then .background next else next
          let whole := after before next
          match sign with
          | .newline =>
              hold
              list count extent (some whole)
          | .sign "&" | .sign ";" => list count extent (some whole)
          | .finish =>
              documents nested
              hold
              return some whole
          | _ =>
              if extent = .line then unexpected none
              else
                hold
                return some whole

def joined : Nat → Command → Reading Command
  | 0, _ => unexpected none
  | count + 1, first => do
      match ← token (substitution count) with
      | .sign "&&" =>
          expect commandBelow?
          joined count (.both first (← pipeline count))
      | .sign "||" =>
          expect commandBelow?
          joined count (.either first (← pipeline count))
      | _ =>
          hold
          return first

def pipeline : Nat → Reading Command
  | 0 => unexpected none
  | count + 1 => do
      let negated ← tookSign (substitution count) "!"
      if negated then expect command?
      let first ← command count
      let others ← piped count
      let whole := if others.isEmpty then first else .piped (first :: others)
      return if negated then .negated whole else whole

def piped : Nat → Reading (List Command)
  | 0 => unexpected none
  | count + 1 => do
      if ← tookSign (substitution count) "|" then
        expect commandBelow?
        let next ← command count
        return next :: (← piped count)
      else return []

def block : Nat → Reading Command
  | 0 => unexpected none
  | count + 1 => return (← list count .some none).getD .nothing

def command : Nat → Reading Command
  | 0 => unexpected none
  | count + 1 => do
      let nested := substitution count
      let line := (← get).line
      let closing (body : Command) : Reading Command := do
        expect command?
        let found ← redirections nested plenty
        return if found.isEmpty then body else body.with line found
      match ← token nested with
      | .sign "if" =>
          let body ← branch count
          demand nested "fi"
          closing body
      | .sign "while" =>
          let condition ← block count
          demand nested "do"
          let body ← block count
          demand nested "done"
          closing (.loop true condition body)
      | .sign "until" =>
          let condition ← block count
          demand nested "do"
          let body ← block count
          demand nested "done"
          closing (.loop false condition body)
      | .sign "for" =>
          let name ← loopName nested
          expect commandBelow?
          let fields ←
            if (← token nested) = .sign "in" then
              let fields ← words nested plenty []
              let last := (← get).token
              if last ≠ .newline ∧ last ≠ .sign ";" then unexpected none
              pure fields
            else
              if (← get).token ≠ .sign ";" then hold
              pure [Word.arguments]
          expect commandBelow?
          demand nested "do"
          let body ← block count
          demand nested "done"
          closing (.each line name fields body)
      | .sign "case" =>
          if (← token nested) ≠ .word then unexpected (some .word)
          let word := (← get).word
          expect commandBelow?
          demand nested "in"
          closing (.select line word (← cases count))
      | .sign "(" =>
          let body ← block count
          demand nested ")"
          expect command?
          return .subshell line body (← redirections nested plenty)
      | .sign "\x7b" =>
          let body ← block count
          demand nested "\x7d"
          closing body
      | .word | .redirection =>
          hold
          expect { aliases := true }
          simple (← get).line count {}
      | _ => unexpected none

def branch : Nat → Reading Command
  | 0 => unexpected none
  | count + 1 => do
      let nested := substitution count
      let condition ← block count
      demand nested "then"
      let consequence ← block count
      match ← token nested with
      | .sign "elif" => return .branch condition consequence (← branch count)
      | .sign "else" => return .branch condition consequence (← block count)
      | _ =>
          hold
          return .branch condition consequence .nothing

def cases : Nat → Reading (List (List Word × Command))
  | 0 => unexpected none
  | count + 1 => do
      let nested := substitution count
      expect { pastLines := true, keywords := true }
      let first ← token nested
      if first = .sign "esac" then return []
      else
        if first = .sign "(" then
          let _ ← token nested
        let found ← patterns nested plenty
        if (← get).token ≠ .sign ")" then unexpected (some (.sign ")"))
        let body := (← list count .any none).getD .nothing
        expect { pastLines := true, keywords := true }
        match ← token nested with
        | .sign "esac" => return [(found, body)]
        | .sign ";;" => return (found, body) :: (← cases count)
        | _ => unexpected (some (.sign ";;"))

def simple (line : Nat) : Nat → Simple → Reading Command
  | 0, _ => unexpected none
  | count + 1, found => do
      let nested := substitution count
      let opened : Expected := { aliases := found.words.isEmpty }
      match ← token nested with
      | .word =>
          let word := (← get).word
          let found := match if found.words.isEmpty then word.assignment? else none with
            | some assignment => { found with assignments := assignment :: found.assignments }
            | none => { found with words := word :: found.words }
          expect { aliases := found.words.isEmpty }
          simple line count found
      | .redirection =>
          let next ← target nested
          expect opened
          simple line count { found with redirections := next :: found.redirections }
      | .sign "(" =>
          match found.name? with
          | some word =>
              demand nested ")"
              let name ← functionName word
              expect commandBelow?
              return .define name (← command count)
          | none =>
              hold
              return found.command line
      | _ =>
          hold
          return found.command line

end

/-- The next line of commands, unless the script is at its end. -/
def line? : Reading (Option Command) := do
  modify fun input => { input with isHeld := false, expected := {}, pending := [] }
  let found ← list plenty .line none
  match found with
  | some command => return some command
  | none =>
      if (← get).token = .finish then return none else return some .nothing

def prompt : Reading Word :=
  let whole : Pending := { number := 0, stripped := false, plain := false, ending := none }
  stretch (substitution plenty) (some whole) plenty .document {}

end Reading

end DescriptorReaper.Script
