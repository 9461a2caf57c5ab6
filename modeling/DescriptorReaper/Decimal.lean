import DescriptorReaper.Utf8

/-!
Decimal numerals over bytes. A digit string has one exact value whatever its length, a number is
written without leading zeros, and a signed numeral is read under explicit limits, so that nothing
ever wraps.
-/

namespace DescriptorReaper.Decimal

def isDigit (byte : UInt8) : Bool := 48 ≤ byte && byte ≤ 57

def digit (byte : UInt8) : Nat := byte.toNat - 48

def value (digits : Bytes) : Nat := digits.foldl (fun total byte => 10 * total + digit byte) 0

def digits (number : Nat) : Bytes :=
  if number < 10 then [UInt8.ofNat (48 + number)]
  else digits (number / 10) ++ [UInt8.ofNat (48 + number % 10)]

def signedDigits (number : Int) : Bytes :=
  if number < 0 then 45 :: digits number.natAbs else digits number.natAbs

def natural? (text : Bytes) : Option Nat :=
  if text ≠ [] ∧ text.all isDigit then some (value text) else none

structure Range where
  least : Int
  greatest : Int
  deriving DecidableEq, Repr

def Range.word32 : Range := ⟨-2147483648, 2147483647⟩

def Range.word64 : Range := ⟨-9223372036854775808, 9223372036854775807⟩

/-- Why a signed numeral has no value. -/
inductive Fault where
  | empty
  | invalidDigit
  | tooLarge
  | tooSmall
  | outside (number : Int) (range : Range)
  deriving DecidableEq, Repr

def Fault.message : Fault → String
  | .empty => "cannot parse integer from empty string"
  | .invalidDigit => "invalid digit found in string"
  | .tooLarge => "number too large to fit in target type"
  | .tooSmall => "number too small to fit in target type"
  | .outside number range =>
      toString number ++ " is not in " ++ toString range.least ++ "..=" ++ toString range.greatest

def magnitude (range : Range) (negative : Bool) (text : Bytes) : Except Fault Int :=
  -- The value of the digits leaves the range before the first other byte is reached, or that byte
  -- is the fault.
  let run := text.takeWhile isDigit
  let number : Int := if negative then -(value run) else value run
  if range.greatest < number then .error .tooLarge
  else if number < range.least then .error .tooSmall
  else if run = [] ∨ run.length < text.length then .error .invalidDigit
  else .ok number

/-- Read an optional sign and digits. -/
def integer (range : Range) : Bytes → Except Fault Int
  | [] => .error .empty
  | 43 :: rest => magnitude range false rest
  | 45 :: rest => magnitude range true rest
  | text => magnitude range false text

def narrowed (range : Range) (text : Bytes) : Except Fault Int :=
  match integer .word64 text with
  | .error fault => .error fault
  | .ok number =>
      if range.least ≤ number ∧ number ≤ range.greatest then .ok number
      else .error (.outside number range)

end DescriptorReaper.Decimal
