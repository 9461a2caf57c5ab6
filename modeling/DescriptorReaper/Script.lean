import DescriptorReaper.ByteText

/-!
Scripts as a shell reads them: words, commands made of words, and the ways in which commands are
joined. A word may hold scripts of its own, which are run for their output.
-/

namespace DescriptorReaper.Script

inductive Direction where
  | read
  | write
  | clobber
  | append
  | update
  | copy
  deriving DecidableEq, Repr

mutual

/-- How a word uses the value of a parameter. Some uses have two forms, of which one takes an empty
value for none. -/
inductive Use where
  | value
  | length
  -- Another word where there is no value.
  | otherwise (emptyToo : Bool) (word : List Part)
  -- Another word where there is a value.
  | instead (emptyToo : Bool) (word : List Part)
  | assigning (emptyToo : Bool) (word : List Part)
  | demanding (emptyToo : Bool) (word : List Part)
  | trimmed (atEnd greedy : Bool) (pattern : List Part)
  -- The value and then some words, where the whole word ends.
  | ending (word : List Part)
  | unknown (word : List Part)

/-- A stretch of a word. What stands outside quotes may be cut into fields and matched with
names. -/
inductive Part where
  | text (quoted : Bool) (chars : ByteText)
  -- A quote stands here, so that there is a field even if it is empty.
  | mark
  | parameter (quoted : Bool) (name : String) (use : Use)
  | output (quoted : Bool) (script : Command)
  | sum (quoted : Bool) (expression : List Part)

/-- What a redirection leads to. -/
inductive Redirection where
  | path (fd : Nat) (direction : Direction) (target : List Part)
  | document (fd : Nat) (number : Nat)

inductive Command where
  | nothing
  | simple (line : Nat) (assignments : List (String × List Part)) (words : List (List Part))
      (redirections : List Redirection)
  | negated (command : Command)
  | piped (commands : List Command)
  | both (first second : Command)
  | either (first second : Command)
  | sequence (first second : Command)
  | background (command : Command)
  | subshell (line : Nat) (body : Command) (redirections : List Redirection)
  | redirected (line : Nat) (body : Command) (redirections : List Redirection)
  | branch (condition consequence alternative : Command)
  | loop (wanted : Bool) (condition body : Command)
  | each (line : Nat) (name : String) (words : List (List Part)) (body : Command)
  | select (line : Nat) (word : List Part) (cases : List (List (List Part) × Command))
  | define (name : String) (body : Command)

end

abbrev Word := List Part

structure Draft where
  parts : List Part := []
  quoted : Bool := false
  text : ByteText := []

namespace Draft

def allParts (draft : Draft) : List Part :=
  if draft.text.isEmpty then draft.parts else .text draft.quoted draft.text.reverse :: draft.parts

def word (draft : Draft) : Word := draft.allParts.reverse

def add (draft : Draft) (quoted : Bool) (char : Char) : Draft :=
  if draft.quoted = quoted then { draft with text := char :: draft.text }
  else { parts := draft.allParts, quoted, text := [char] }

def attach (draft : Draft) (part : Part) : Draft :=
  { draft with parts := part :: draft.allParts, text := [] }

def push (draft : Draft) : Part → Draft
  | .text quoted chars => chars.foldl (fun draft char => draft.add quoted char) draft
  | part => draft.attach part

end Draft

def Word.bare? : Word → Option ByteText
  | [] => some []
  | [.text false chars] => some chars
  | _ => none

def Word.assignment? : Word → Option (String × Word)
  | .text false chars :: rest =>
      let name := chars.takeWhile ByteText.inName
      match chars.drop name.length with
      | '=' :: value =>
          if ByteText.isName name then
            let start : Word := if value = [] then [] else [.text false value]
            some (String.ofList name, start ++ rest)
          else none
      | _ => none
  | _ => none

def Command.with (line : Nat) (redirections : List Redirection) : Command → Command
  -- A part that runs apart has these redirections instead of its own.
  | .subshell line body _ => .subshell line body redirections
  | body => .redirected line body redirections

def Word.arguments : Word := [.mark, .parameter true "@" .value, .mark]

end DescriptorReaper.Script
