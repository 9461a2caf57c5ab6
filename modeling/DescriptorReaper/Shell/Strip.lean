import DescriptorReaper.Shell.Fields

/-!
Arguments that stay apart, and an end of all of them dropped by one pattern. They are laid out on a
strip with an end between them, and a character that quotes guard has a sign before it if it could
mean something in a pattern. What is matched ends at the next end. If there are signs in the first
argument, a copy of it without them is laid out after the pattern; a search from the back then runs
over the copy and on beyond its start, and drops as many items of the arguments as it has passed.
-/

namespace DescriptorReaper.Shell

namespace Item

def sign : Char := '\x81'

def quotesSign : Char := '\x88'

def isSigned (char : Char) (guarded : Bool) : Bool :=
  -- Signs themselves always get one.
  (sign ≤ char && char ≤ quotesSign) || (guarded && "!*-/:=?[\x5c]~".toList.contains char)

def laid : Item → ByteText
  | .char own guarded => if isSigned own guarded then [sign, own] else [own]
  | .mark => [quotesSign]
  | .stop => ['\x00']

def inPattern : Item → ByteText
  | .char own guarded => if isSigned own guarded then ['\x5c', own] else [own]
  | .mark => []
  | .stop => ['\x00']

end Item

structure Strip where
  -- What a search from the back has before it, the last first.
  before : ByteText
  -- The pattern in use with an end after it, which covers the pattern as it was laid out.
  pattern : ByteText
  first : ByteText
  copied : Bool

namespace Strip

def upToEnd (text : ByteText) : ByteText := text.takeWhile (· ≠ '\x00')

def accepts (pattern text : ByteText) : Bool :=
  Pattern.accepts (Pattern.ofWritten ((upToEnd pattern).map (⟨·, false⟩))) text

/-- The strip for arguments and a pattern. -/
def ofItems (items pattern : List Item) : Strip :=
  let first := items.takeWhile (· ≠ .stop)
  let copied := first.any fun item => item.laid.length ≠ 1
  let laid := items.flatMap Item.laid
  let inUse := pattern.flatMap Item.inPattern ++ ['\x00']
  let pattern := inUse ++ (pattern.flatMap Item.laid ++ ['\x00']).drop inUse.length
  let before := if copied then laid ++ '\x00' :: pattern ++ plain first else laid
  { before := before.reverse, pattern, first := plain first, copied }

def searchBack (test : ByteText → Bool) : Nat → ByteText → ByteText → Option Nat
  | left, before, after =>
      if test (upToEnd after) then some left
      else
        match left, before with
        | left + 1, char :: before => searchBack test left before (char :: after)
        | _, _ => none

def searchStart (strip : Strip) : Nat → Nat → Option Nat
  -- A place before the copy of the argument ends the pattern.
  | left, passed =>
      let length := if strip.copied then strip.first.length else strip.before.length
      let found :=
        if passed ≤ length then accepts strip.pattern (strip.first.take (length - passed))
        else
          accepts (strip.pattern.take (strip.pattern.length - (passed - length))) strip.first
      if found then some left
      else
        match left with
        | left + 1 => searchStart strip left (passed + 1)
        | 0 => none

/-- Drop what a pattern matches from the front or the end of arguments, as little or as much as can
be. Only the first argument is searched from its front. -/
def trim (pattern : List Item) (atEnd greedy : Bool) (items : List Item) : List Item :=
  let strip := ofItems items pattern
  let first := strip.first
  let places := List.range (first.length + 1)
  let place :=
    match atEnd, greedy with
    | true, false => searchBack (accepts strip.pattern) items.length strip.before []
    | true, true => places.find? fun place => accepts strip.pattern (first.drop place)
    | false, false => places.find? fun place => accepts strip.pattern (first.take place)
    | false, true => searchStart strip items.length 0
  match place with
  | some place => if atEnd then items.take place else items.drop place
  | none => items

end Strip

end DescriptorReaper.Shell
