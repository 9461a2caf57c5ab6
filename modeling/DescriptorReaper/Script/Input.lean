import DescriptorReaper.Script

/-!
What a script is read from. An alias puts its text in front of what is left to read; it is in use
until reading has gone on past that text, and as long as it is, its name stands for itself. Every
step of reading may find a fault, and knows the line that it stands on.
-/

namespace DescriptorReaper.Script

inductive Sight where
  | line (text : ByteText)
  | more
  deriving DecidableEq, Repr

inductive Token where
  | finish
  | newline
  | sign (text : String)
  | redirection
  | word
  deriving DecidableEq, Repr

/-- Text to be read, and the alias it stands for. -/
structure Strand where
  text : ByteText
  standsFor : Option ByteText := none
  -- The word after an alias is looked up as well if the alias ends with a blank.
  leadsOn : Bool := false
  isFile : Bool := false
  -- Nothing of the line at hand has been read.
  isUntouched : Bool := true

inductive Awaited where
  | path (fd : Nat) (direction : Direction)
  | document (fd : Nat) (stripped : Bool)

/-- A document whose text is still to come. -/
structure Pending where
  number : Nat
  stripped : Bool
  plain : Bool
  ending : Option ByteText

structure Expected where
  pastLines : Bool := false
  keywords : Bool := false
  aliases : Bool := false
  endMark : Bool := false

structure Input where
  strands : List Strand
  line : Nat := 1
  -- Aliases whose text has just been read to its end.
  spent : List ByteText := []
  expected : Expected := {}
  token : Token := .newline
  isHeld : Bool := false
  word : Word := []
  awaited : Awaited := .path 0 .read
  pending : List Pending := []
  documents : List (Nat × Word) := []
  documentCount : Nat := 0
  aliases : List (ByteText × ByteText) := []
  asks : Bool := false
  -- A line has ended, and the next one is asked for when there is need of it.
  isAskDue : Bool := false
  seen : List Sight := []
  -- The text of a file did not go on where more of it was looked for.
  isDry : Bool := false

/-- Why a script cannot be read: a complaint, the line that it is about, and how far reading has
got. -/
structure Fault where
  line : Nat
  complaint : String
  input : Input

namespace Input

def ofFile : Input := { strands := [{ text := [], isFile := true }] }

def extend (input : Input) (text : ByteText) : Input :=
  let more (strand : Strand) : Strand :=
    if strand.isFile then { strand with text := strand.text ++ text } else strand
  { input with strands := input.strands.map more }

end Input

abbrev Reading := StateT Input (Except Fault)

namespace Reading

def fail {α : Type} (complaint : String) : Reading α := do
  let input ← get
  throw ⟨input.line, "Syntax error: " ++ complaint, input⟩

def settle : List Strand → Input → Input
  | strand :: next :: rest, input =>
      if strand.text = [] then
        settle (next :: rest) { input with
          strands := next :: rest
          spent := strand.standsFor.toList ++ input.spent
          expected := { input.expected with
            aliases := input.expected.aliases || strand.leadsOn } }
      else input
  | _, input => input

def firstLine (text : ByteText) : ByteText :=
  let line := text.takeWhile (· ≠ '\n')
  if line.length < text.length then line ++ ['\n'] else line

def see (input : Input) : Input :=
  match input.strands with
  | strand :: rest =>
      if strand.isFile && strand.isUntouched && !strand.text.isEmpty then
        { input with
          strands := { strand with isUntouched := false } :: rest
          seen := .line (firstLine strand.text) :: input.seen }
      else input
  | [] => input

def runDry (input : Input) : Input :=
  { input with isDry := input.isDry || input.strands.getLast?.any (·.isFile) }

def peek : Reading (Option Char) := do
  modify fun input => see (settle input.strands input)
  match (← get).strands.head?.bind fun strand => strand.text.head? with
  | some char => return some char
  | none =>
      modify runDry
      return none

def skip : Reading Unit :=
  modify fun input =>
    let input := see input
    match input.strands with
    | strand :: rest =>
        let isUntouched := strand.text.head? = some '\n'
        { input with
          strands := { strand with text := strand.text.tail, isUntouched } :: rest, spent := [] }
    | [] => input

def ask : Reading Unit :=
  modify fun input => { input with isAskDue := false, seen := .more :: input.seen }

def nextLine : Reading Unit := do
  modify fun input => { input with line := input.line + 1 }
  if (← get).asks then ask

def endLine : Reading Unit :=
  modify fun input => { input with line := input.line + 1, isAskDue := input.asks }

def askIfDue : Reading Unit := do
  if (← get).isAskDue then ask

def prepend (strand : Strand) : Reading Unit :=
  modify fun input => { input with strands := strand :: input.strands }

def textAhead (other : ByteText) : Reading ByteText := do
  let text := ((← get).strands.head?.map (·.text)).getD []
  if text.length < other.length && text.isPrefixOf other then modify runDry
  return text

def joinLines : Nat → Reading Unit
  | 0 => return
  | count + 1 => do
      if (← peek) = some '\x5c' then
        match ← textAhead ['\x5c', '\n'] with
        | _ :: '\n' :: _ =>
            skip
            skip
            nextLine
            joinLines count
        | _ => return

def plenty : Nat := 1000000

def look : Reading (Option Char) := do
  joinLines plenty
  peek

def taken (char : Char) : Reading Bool := do
  if (← look) = some char then
    skip
    return true
  else return false

def elsewhere {α : Type} (text : ByteText) (work : Reading α) : Reading α := fun before =>
  -- The lines of the other text have numbers of their own, and none is asked for.
  let back (after : Input) : Input :=
    { after with
      strands := before.strands, line := before.line, spent := before.spent, isHeld := false
      asks := before.asks }
  match work.run { before with strands := [{ text }], line := 1, asks := false } with
  | .ok (result, after) => .ok (result, back after)
  | .error fault => .error { fault with input := back fault.input }

end Reading

end DescriptorReaper.Script
