import DescriptorReaper.ByteText

/-!
Numerals as a shell reads them: after blanks a sign, then digits whose base the first of them tell,
and a value that a word of 64 bits holds.
-/

namespace DescriptorReaper.Shell

namespace Numeral

def isBlank (char : Char) : Bool := char = ' ' || ('\t' ≤ char && char ≤ '\r')

def digit (char : Char) : Nat :=
  if char.isDigit then char.toNat - 48
  else if 'a' ≤ char && char ≤ 'f' then char.toNat - 87
  else if 'A' ≤ char && char ≤ 'F' then char.toNat - 55
  else 16

def value (base : Nat) (digits : ByteText) : Nat :=
  digits.foldl (fun total char => base * total + digit char) 0

def digits (base : Nat) (text : ByteText) : ByteText := text.takeWhile fun char => digit char < base

def magnitude? (text : ByteText) : Option (Nat × ByteText) :=
  let plain (base : Nat) (text : ByteText) : Option (Nat × ByteText) :=
    let found := digits base text
    if found = [] then none else some (value base found, text.drop found.length)
  match text with
  | '0' :: mark :: rest =>
      if mark = 'x' || mark = 'X' then (plain 16 rest).or (plain 8 text) else plain 8 text
  | '0' :: _ => plain 8 text
  | _ => plain 10 text

def least : Int := -9223372036854775808

def greatest : Int := 9223372036854775807

/-- The integer at the front of a text, which may be too great for a word, and what follows it. -/
def integer? (text : ByteText) : Option (Int × ByteText) :=
  let start := text.dropWhile isBlank
  let (negative, unsigned) := match start with
    | '-' :: rest => (true, rest)
    | '+' :: rest => (false, rest)
    | rest => (false, rest)
  (magnitude? unsigned).map fun (magnitude, rest) =>
    (if negative then -(magnitude : Int) else magnitude, rest)

def held (number : Int) : Int :=
  if number < least then least else if greatest < number then greatest else number

def fits (number : Int) : Bool := decide (least ≤ number ∧ number ≤ greatest)

def whole? (text : ByteText) : Option Int :=
  if text.all isBlank then some 0
  else
    match integer? text with
    | some (number, rest) => if fits number && rest.all isBlank then some number else none
    | none => none

def greatestCount : Nat := 2147483647

def count? (text : ByteText) : Option Nat :=
  let start := text.dropWhile isBlank
  let (negative, unsigned) := match start with
    | '-' :: rest => (true, rest)
    | '+' :: rest => (false, rest)
    | rest => (false, rest)
  let found := digits 10 unsigned
  let count := value 10 found
  let isCount : Bool := found ≠ [] && (unsigned.drop found.length).all isBlank
  if isCount && count ≤ greatestCount && (!negative || count = 0) then some count else none

theorem held_fits (number : Int) : fits (held number) = true := by
  apply decide_eq_true
  unfold held least greatest
  split
  · omega
  · split <;> omega

end Numeral

end DescriptorReaper.Shell
