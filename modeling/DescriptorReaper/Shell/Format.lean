import DescriptorReaper.Echo
import DescriptorReaper.Shell.Fraction

/-!
The text that `printf` prints. A format is text with directives, each of which takes an argument and
shows it in some form; the format is gone over as often as arguments last. What an argument that is
no number comes to is printed nevertheless, with a complaint.
-/

namespace DescriptorReaper.Shell.Format

structure Manner where
  flags : ByteText := []
  width : Nat := 0
  precision : Option Nat := none

namespace Manner

def has (manner : Manner) (flag : Char) : Bool := manner.flags.contains flag

def fill (manner : Manner) (text : ByteText) : ByteText :=
  let blanks := List.replicate (manner.width - text.length) ' '
  if manner.has '-' then text ++ blanks else blanks ++ text

def fillNumber (manner : Manner) (zeros : Bool) (start digits : ByteText) : ByteText :=
  if zeros && manner.has '0' && !manner.has '-' then
    start ++ List.replicate (manner.width - start.length - digits.length) '0' ++ digits
  else manner.fill (start ++ digits)

def sign (manner : Manner) (negative : Bool) : ByteText :=
  if negative then ['-']
  else if manner.has '+' then ['+']
  else if manner.has ' ' then [' ']
  else []

def digits (manner : Manner) (text : ByteText) : ByteText :=
  match manner.precision with
  | some 0 => if text = ['0'] then [] else text
  | some precision => Fraction.padded precision text
  | none => text

def signed (manner : Manner) (number : Int) : ByteText :=
  manner.fillNumber manner.precision.isNone (manner.sign (number < 0))
    (manner.digits (ByteText.ofInt number.natAbs))

def unsigned (manner : Manner) (letter : Char) (number : Nat) : ByteText :=
  let base := match letter with
    | 'o' => 8
    | 'x' | 'X' => 16
    | _ => 10
  let plain := Nat.toDigits base number
  let text := manner.digits (if letter = 'X' then plain.map Char.toUpper else plain)
  let marked := manner.has '#'
  let text := if marked && letter = 'o' && text.head? ≠ some '0' then '0' :: text else text
  let start := if marked && number ≠ 0 && base = 16 then ['0', letter] else []
  manner.fillNumber manner.precision.isNone start text

def fraction (manner : Manner) (letter : Char) (value : Fraction) : ByteText :=
  let always := manner.has '#'
  let precision := manner.precision.getD 6
  let cased (text : ByteText) : ByteText := if letter.isUpper then text.map Char.toUpper else text
  match value with
  | .finite negative mantissa power =>
      let (numerator, denominator) := Fraction.scaled 2 mantissa 1 power
      let sign := manner.sign negative
      let (start, text) := match letter.toLower with
        | 'f' => (sign, Fraction.fixed precision always numerator denominator)
        | 'e' => (sign, Fraction.scientific precision always numerator denominator)
        | 'a' =>
            let text := Fraction.hexadecimal manner.precision always mantissa power
            (sign ++ cased ['0', 'x'], text)
        | _ => (sign, Fraction.general precision always numerator denominator)
      manner.fillNumber true start (cased text)
  | .infinite negative =>
      manner.fillNumber false (manner.sign negative) (cased "inf".toList)
  | .undefined negative =>
      manner.fillNumber false (manner.sign negative) (cased "nan".toList)

def text (manner : Manner) (text : ByteText) : ByteText :=
  manner.fill (match manner.precision with
    | some precision => text.take precision
    | none => text)

end Manner

structure State where
  printed : ByteText := []
  arguments : List ByteText
  complaints : List ByteText := []

inductive Stop where
  | ordered
  | faulty (complaint : ByteText)

abbrev Printing := StateT State (Except (Stop × State))

def stop {α : Type} (reason : Stop) : Printing α := do throw (reason, ← get)

def print (text : ByteText) : Printing Unit :=
  modify fun state => { state with printed := text.reverse ++ state.printed }

def complain (argument : ByteText) (complaint : String) : Printing Unit :=
  modify fun state =>
    { state with complaints := state.complaints ++ [argument ++ ": ".toList ++ complaint.toList] }

def argument? : Printing (Option ByteText) := do
  let state ← get
  set { state with arguments := state.arguments.tail }
  return state.arguments.head?

def quoted? : ByteText → Option Nat
  | '\x27' :: rest | '\x22' :: rest => some ((rest.head?.map Char.toNat).getD 0)
  | _ => none

def check (argument : ByteText) (rest : Option ByteText) (lost : Bool) : Printing Unit :=
  match rest with
  | none => if argument ≠ [] then complain argument "expected numeric value" else pure ()
  | some (_ :: _) => complain argument "not completely converted"
  | some [] => if lost then complain argument "Numerical result out of range" else pure ()

def number (limit : Int → Int) : Printing Int := do
  match ← argument? with
  | none => return 0
  | some argument =>
      match quoted? argument with
      | some code => return code
      | none =>
          match Numeral.integer? argument with
          | none =>
              check argument none false
              return 0
          | some (value, rest) =>
              let held := limit value
              check argument rest (held ≠ value)
              return held

def greatestUnsigned : Int := 18446744073709551615

def heldUnsigned (number : Int) : Int :=
  if number < -greatestUnsigned ∨ greatestUnsigned < number then greatestUnsigned else number

def fraction : Printing Fraction := do
  match ← argument? with
  | none => return .ofNat 0
  | some argument =>
      match quoted? argument with
      | some code => return .ofNat code
      | none =>
          match Fraction.read? argument with
          | none =>
              check argument none false
              return .ofNat 0
          | some (value, rest, lost) =>
              check argument rest lost
              return value

def size (text : ByteText) : Printing (Option Int × ByteText) := do
  let isSize (char : Char) : Bool := char = '*' || char.isDigit
  let named := text.takeWhile isSize
  let rest := text.drop named.length
  if named.head? = some '*' then return (some (← number Numeral.held), rest)
  else if named = [] then return (none, rest)
  else return (some (ByteText.decimal (named.filter Char.isDigit)), rest)

def display (manner : Manner) (letter : Char) (written : ByteText) : Printing Unit := do
  match letter with
  | 'd' | 'i' => print (manner.signed (← number Numeral.held))
  | 'o' | 'u' | 'x' | 'X' =>
      let value := (← number heldUnsigned) % (greatestUnsigned + 1)
      print (manner.unsigned letter value.toNat)
  | 'a' | 'A' | 'e' | 'E' | 'f' | 'F' | 'g' | 'G' => print (manner.fraction letter (← fraction))
  | 'c' =>
      let text := (← argument?).getD []
      print (manner.fill [text.headD '\x00'])
  | 's' => print (manner.text ((← argument?).getD []))
  | 'b' =>
      let (bytes, stops) := Echo.obeyed false (ByteText.bytes ((← argument?).getD []))
      print (manner.text (ByteText.ofBytes bytes))
      if stops then stop .ordered
  | _ => stop (.faulty (written ++ ": invalid directive".toList))

def directive (text : ByteText) : Printing ByteText := do
  let flags := text.takeWhile "#-+ 0".toList.contains
  let (width, rest) ← size (text.drop flags.length)
  let (precision, rest) ← match rest with
    | '.' :: rest => do
        let (precision, rest) ← size rest
        pure (some (precision.getD 0), rest)
    | rest => pure (none, rest)
  match rest with
  | [] => stop (.faulty "missing format character".toList)
  | letter :: after =>
      let width := width.getD 0
      let manner : Manner :=
        { flags := if width < 0 then '-' :: flags else flags
          width := width.natAbs
          precision := match precision with
            | some precision => if precision < 0 then none else some precision.toNat
            | none => none }
      display manner letter ('%' :: text.take (text.length - after.length))
      return after

def escape (text : ByteText) : ByteText × ByteText :=
  let octal := (text.take 3).takeWhile fun char => '0' ≤ char && char ≤ '7'
  if octal ≠ [] then
    ([Char.ofNat (Numeral.value 8 octal % 256)], text.drop octal.length)
  else
    let (bytes, length) := Echo.escape false (ByteText.bytes (text.take 1))
    (ByteText.ofBytes bytes, text.drop length)

def pass : Nat → ByteText → Printing Unit
  | 0, _ | _, [] => return
  | count + 1, char :: rest => do
      if char = '\x5c' then
        let (text, rest) := escape rest
        print text
        pass count rest
      else if char = '%' then
        match rest with
        | '%' :: rest =>
            print ['%']
            pass count rest
        | rest => pass count (← directive rest)
      else
        print [char]
        pass count rest

def passes (format : ByteText) : Nat → Printing Unit
  | 0 => return
  | count + 1 => do
      let before := (← get).arguments.length
      pass (format.length + 1) format
      let after := (← get).arguments.length
      if after ≠ 0 ∧ after < before then passes format count

/-- What was printed, what is to be complained about, and why printing stopped early if a format
makes no sense. -/
structure Outcome where
  printed : ByteText
  complaints : List ByteText
  fault : Option ByteText

def run (format : ByteText) (arguments : List ByteText) : Outcome :=
  match (passes format (arguments.length + 1)).run { arguments } with
  | .ok (_, state) => ⟨state.printed.reverse, state.complaints, none⟩
  | .error (.ordered, state) => ⟨state.printed.reverse, state.complaints, none⟩
  | .error (.faulty complaint, state) => ⟨state.printed.reverse, state.complaints, some complaint⟩

end DescriptorReaper.Shell.Format
