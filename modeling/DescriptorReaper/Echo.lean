import DescriptorReaper.Decimal

/-!
The text that `echo` prints. There are two of the name: the program reads leading options and
obeys escapes only when asked to; the one that a shell has built in knows a single option and always
obeys them.
-/

namespace DescriptorReaper.Echo

def joined : List Bytes → Bytes
  | [] => []
  | [last] => last
  | first :: rest => first ++ 32 :: joined rest

def newline : UInt8 := 10

def backslash : UInt8 := 92

def isOctal (byte : UInt8) : Bool := 48 ≤ byte && byte ≤ 55

def hexDigit? (byte : UInt8) : Option Nat :=
  if Decimal.isDigit byte then some (Decimal.digit byte)
  else if 97 ≤ byte && byte ≤ 102 then some (byte.toNat - 87)
  else if 65 ≤ byte && byte ≤ 70 then some (byte.toNat - 55)
  else none

def octal (digits : Bytes) : UInt8 :=
  UInt8.ofNat (digits.foldl (fun total byte => 8 * total + Decimal.digit byte) 0)

def control? : Char → Option UInt8
  | 'a' => some 7
  | 'b' => some 8
  | 'f' => some 12
  | 'n' => some 10
  | 'r' => some 13
  | 't' => some 9
  | 'v' => some 11
  | '\x5c' => some 92
  | _ => none

def escape (extended : Bool) (text : Bytes) : Bytes × Nat :=
  match text with
  | [] => ([backslash], 0)
  | first :: rest =>
      match control? (Char.ofNat first.toNat) with
      | some byte => ([byte], 1)
      | none =>
          if first = 48 then
            let digits := (rest.take 3).takeWhile isOctal
            ([octal digits], 1 + digits.length)
          else if isOctal first then
            let digits := (text.take 3).takeWhile isOctal
            ([octal digits], digits.length)
          else if first = 101 then ([27], 1)
          else if extended && first = 120 then
            let digits := ((rest.take 2).map hexDigit?).takeWhile Option.isSome
            if digits = [] then ([backslash], 0)
            else
              let code := digits.foldl (fun total digit => 16 * total + digit.getD 0) 0
              ([UInt8.ofNat code], 1 + digits.length)
          else ([backslash], 0)

def obeyedAfter (extended : Bool) : Nat → Bytes → Bytes × Bool
  -- The order to stop ends the text; the answer says whether it was given.
  | _, [] => ([], false)
  | covered + 1, _ :: rest => obeyedAfter extended covered rest
  | 0, byte :: rest =>
      if byte ≠ backslash then
        let (later, stops) := obeyedAfter extended 0 rest
        (byte :: later, stops)
      else if rest.head? = some 99 then ([], true)
      else
        let (bytes, length) := escape extended rest
        let (later, stops) := obeyedAfter extended length rest
        (bytes ++ later, stops)

def obeyed (extended : Bool) (text : Bytes) : Bytes × Bool := obeyedAfter extended 0 text

structure Options where
  leftOpen : Bool := false
  escapes : Bool := false

def letters : Bytes := [69, 101, 110]

def Options.obey (options : Options) (letter : UInt8) : Options :=
  if letter = 110 then { options with leftOpen := true }
  else { options with escapes := letter = 101 }

def readOptions (options : Options) : List Bytes → Options × List Bytes
  | [] => (options, [])
  | argument :: rest =>
      match argument with
      | 45 :: given =>
          if given ≠ [] ∧ given.all letters.contains then
            readOptions (given.foldl Options.obey options) rest
          else (options, argument :: rest)
      | _ => (options, argument :: rest)

def ended (text : Bytes × Bool) (leftOpen : Bool) : Bytes :=
  text.1 ++ if text.2 || leftOpen then [] else [newline]

/-- What the program prints. Where it keeps to the standard, it takes options only after the one
that the standard has, and always obeys escapes. -/
def text (keepsStandard : Bool) (arguments : List Bytes) : Bytes :=
  let takesOptions : Bool := !keepsStandard || arguments.head? = some [45, 110]
  let (options, words) := if takesOptions then readOptions {} arguments else ({}, arguments)
  let whole := joined words
  let obeys := options.escapes || keepsStandard
  ended (if obeys then obeyed true whole else (whole, false)) options.leftOpen

def builtinText : List Bytes → Bytes
  | [45, 110] :: words => ended (obeyed false (joined words)) true
  | words => ended (obeyed false (joined words)) false

end DescriptorReaper.Echo
