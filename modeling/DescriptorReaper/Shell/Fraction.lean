import DescriptorReaper.Shell.Numeral

/-!
Fractions as text. A fraction is held as a floating-point number of double precision: a mantissa of
53 bits and a power of two. Its exact value is written with as many digits as are asked for; a value
in the middle goes to the even digit.
-/

namespace DescriptorReaper.Shell

/-- A floating-point value: a mantissa with a power of two, or none that is finite. -/
inductive Fraction where
  | finite (negative : Bool) (mantissa : Nat) (power : Int)
  | infinite (negative : Bool)
  | undefined (negative : Bool)
  deriving DecidableEq, Repr

namespace Fraction

def rounded (numerator denominator : Nat) : Nat :=
  let quotient := numerator / denominator
  let twice := 2 * (numerator % denominator)
  if twice < denominator then quotient
  else if denominator < twice then quotient + 1
  else quotient + quotient % 2

def scaled (base numerator denominator : Nat) (power : Int) : Nat × Nat :=
  if 0 ≤ power then (numerator * base.pow power.toNat, denominator)
  else (numerator, denominator * base.pow power.natAbs)

def mantissaBits : Nat := 53

def leastPower : Int := -1074

def bound : Int := 1024

def powerFor (numerator denominator : Nat) : Int :=
  let guess : Int := (Nat.log2 numerator : Int) - Nat.log2 denominator - (mantissaBits - 1 : Nat)
  let (top, bottom) := scaled 2 numerator denominator (-guess)
  max leastPower (if top / bottom < Nat.pow 2 (mantissaBits - 1) then guess - 1 else guess)

/-- The floating-point value nearest to a number, and whether the number is too great or too small
to be told from it. -/
def nearest (negative : Bool) (numerator denominator : Nat) : Fraction × Bool :=
  if numerator = 0 then (.finite negative 0 leastPower, false)
  else
    let power := powerFor numerator denominator
    let (top, bottom) := scaled 2 numerator denominator (-power)
    let mantissa := rounded top bottom
    if bound ≤ power + Nat.log2 mantissa then (.infinite negative, true)
    else
      let isTiny : Bool := mantissa < Nat.pow 2 (mantissaBits - 1)
      (.finite negative mantissa power, isTiny && top % bottom ≠ 0)

def ofNat (number : Nat) : Fraction := (nearest false number 1).1

def padded (width : Nat) (digits : ByteText) : ByteText :=
  List.replicate (width - digits.length) '0' ++ digits

def pointed (places : Nat) (always : Bool) (digits : ByteText) : ByteText :=
  let digits := padded (places + 1) digits
  let (front, back) := digits.splitAt (digits.length - places)
  if back = [] ∧ ¬ always then front else front ++ '.' :: back

def fixed (places : Nat) (always : Bool) (numerator denominator : Nat) : ByteText :=
  pointed places always (ByteText.ofInt (rounded (numerator * Nat.pow 10 places) denominator))

def magnitude (numerator denominator : Nat) : Int :=
  let length (number : Nat) : Int := (ByteText.ofInt number).length
  let guess := length numerator - length denominator
  let (top, bottom) := scaled 10 numerator denominator (-guess)
  if top < bottom then guess - 1 else guess

def digitsOf (places : Nat) (numerator denominator : Nat) : ByteText × Int :=
  if numerator = 0 then (List.replicate (places + 1) '0', 0)
  else
    let power := magnitude numerator denominator
    let (top, bottom) := scaled 10 numerator denominator (places - power)
    let digits := ByteText.ofInt (rounded top bottom)
    if digits.length = places + 2 then (digits.take (places + 1), power + 1) else (digits, power)

def exponent (power : Int) : ByteText :=
  (if power < 0 then '-' else '+') :: padded 2 (ByteText.ofInt power.natAbs)

def scientific (places : Nat) (always : Bool) (numerator denominator : Nat) : ByteText :=
  let (digits, power) := digitsOf places numerator denominator
  pointed places always digits ++ 'e' :: exponent power

def withoutLastZeros (text : ByteText) : ByteText :=
  if text.contains '.' then
    let cut := (text.reverse.dropWhile (· = '0')).reverse
    if cut.getLast? = some '.' then cut.dropLast else cut
  else text

def general (digits : Nat) (always : Bool) (numerator denominator : Nat) : ByteText :=
  let digits := max digits 1
  let (found, power) := digitsOf (digits - 1) numerator denominator
  let trimmed (text : ByteText) : ByteText := if always then text else withoutLastZeros text
  if power < -4 ∨ (digits : Int) ≤ power then
    trimmed (pointed (digits - 1) always found) ++ 'e' :: exponent power
  else trimmed (fixed (digits - 1 - power).toNat always numerator denominator)

def hexPlaces : Nat := 13

def hexadecimal (places : Option Nat) (always : Bool) (mantissa : Nat) (power : Int) : ByteText :=
  let isTiny : Bool := mantissa < Nat.pow 2 (mantissaBits - 1)
  let whole := if isTiny then mantissa else Nat.pow 16 hexPlaces + mantissa % Nat.pow 16 hexPlaces
  let kept := min hexPlaces (places.getD hexPlaces)
  let digits := Nat.toDigits 16 (rounded whole (Nat.pow 16 (hexPlaces - kept)))
  let text := pointed kept false digits
  let text := if places.isNone then withoutLastZeros text else text
  let text := if always && !text.contains '.' then text ++ ['.'] else text
  let more := places.getD 0 - kept
  let text := if more ≠ 0 && !text.contains '.' then text ++ ['.'] else text
  let shown : Int := if mantissa = 0 then 0 else power + hexPlaces * 4
  text ++ List.replicate more '0' ++ 'p' :: (if shown < 0 then '-' else '+') ::
    ByteText.ofInt shown.natAbs

def mantissa? (base : Nat) (text : ByteText) : Option (Nat × Nat × ByteText) :=
  let whole := Numeral.digits base text
  let afterWhole := text.drop whole.length
  let (part, rest) := match afterWhole with
    | '.' :: rest =>
        let part := Numeral.digits base rest
        (part, rest.drop part.length)
    | rest => ([], rest)
  if whole = [] ∧ part = [] then none
  else some (Numeral.value base (whole ++ part), part.length, rest)

def powerAfter (mark : Char) (text : ByteText) : Int × ByteText :=
  match text with
  | [] => (0, [])
  | char :: rest =>
      if char.toLower ≠ mark then (0, text)
      else
        let (sign, digits) : Int × ByteText := match rest with
          | '-' :: rest => (-1, rest)
          | '+' :: rest => (1, rest)
          | rest => (1, rest)
        let found := Numeral.digits 10 digits
        if found = [] then (0, text)
        else (sign * min (ByteText.decimal found) 100000, digits.drop found.length)

def afterWord? (word : String) (text : ByteText) : Option ByteText :=
  if (text.take word.length).map Char.toLower = word.toList then some (text.drop word.length)
  else none

def afterNote (text : ByteText) : ByteText :=
  match text with
  | '(' :: rest =>
      match rest.dropWhile ByteText.inName with
      | ')' :: after => after
      | _ => text
  | _ => text

/-- The number at the front of a text, what follows it, and whether it is too great or too small
to be held. -/
def read? (text : ByteText) : Option (Fraction × ByteText × Bool) :=
  let start := text.dropWhile Numeral.isBlank
  let (negative, unsigned) := match start with
    | '-' :: rest => (true, rest)
    | '+' :: rest => (false, rest)
    | rest => (false, rest)
  let decimal : Option (Fraction × ByteText × Bool) :=
    (mantissa? 10 unsigned).map fun (mantissa, places, rest) =>
      let (power, rest) := powerAfter 'e' rest
      let (top, bottom) := scaled 10 mantissa 1 (power - places)
      let (value, lost) := nearest negative top bottom
      (value, rest, lost)
  let marked : Option (Fraction × ByteText × Bool) :=
    ((afterWord? "0x" unsigned).bind (mantissa? 16)).map fun (mantissa, places, rest) =>
      let (power, rest) := powerAfter 'p' rest
      let (top, bottom) := scaled 2 mantissa 1 (power - 4 * places)
      let (value, lost) := nearest negative top bottom
      (value, rest, lost)
  let infinite : Option (Fraction × ByteText × Bool) :=
    ((afterWord? "infinity" unsigned).or (afterWord? "inf" unsigned)).map fun rest =>
      (.infinite negative, rest, false)
  let undefined : Option (Fraction × ByteText × Bool) :=
    (afterWord? "nan" unsigned).map fun rest => (.undefined negative, afterNote rest, false)
  (marked.or decimal).or (infinite.or undefined)

end Fraction

end DescriptorReaper.Shell
