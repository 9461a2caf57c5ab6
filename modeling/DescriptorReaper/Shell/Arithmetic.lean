import DescriptorReaper.Shell.Numeral
import DescriptorReaper.Shell.State

/-!
The value of an arithmetic expression. It is found while the expression is read, so that a fault
of the first part is noticed before a later part makes no sense. Numbers are words of 64 bits and
wrap around; what a condition leaves aside is read but changes nothing.
-/

namespace DescriptorReaper.Shell.Arithmetic

inductive Token where
  | finish
  | number (value : Int)
  | name (name : String)
  | sign (text : String)
  | strange
  deriving DecidableEq, Repr

/-- An expression being read: what is left of it, and the token that was read last. -/
structure Sum where
  whole : ByteText
  rest : ByteText
  last : Token := .finish

abbrev Summing := StateT Sum Run

def signs : List String :=
  ["<<=", ">>=", "<<", ">>", "<=", ">=", "==", "!=", "&&", "||", "+=", "-=", "*=", "/=", "%=", "&=",
   "|=", "^=", "=", "<", ">", "&", "|", "^", "~", "!", "*", "/", "%", "+", "-", "(", ")", "?", ":"]

def isBlank (char : Char) : Bool := char = ' ' || char = '\t' || char = '\n'

def token (text : ByteText) : Token × ByteText :=
  let text := text.dropWhile isBlank
  match text with
  | [] => (.finish, [])
  | char :: rest =>
      if char.isDigit then
        match Numeral.integer? text with
        | some (number, rest) => (.number (Numeral.held number), rest)
        | none => (.strange, rest)
      else if ByteText.opensName char then
        let name := text.takeWhile ByteText.inName
        (.name (String.ofList name), text.drop name.length)
      else
        match signs.find? (·.toList.isPrefixOf text) with
        | some sign => (.sign sign, text.drop sign.length)
        | none => (.strange, rest)

def next : Summing Token := do
  let sum ← get
  let (last, rest) := token sum.rest
  set { sum with rest, last }
  return last

def last (token : Token) : Summing Unit := modify fun sum => { sum with last := token }

def fail {α : Type} (complaint : String) : Summing α := do
  let sum ← get
  Run.abort (Run.text ("arithmetic expression: " ++ complaint ++ ": \"") ++ sum.whole ++ ['"'])

def wrapped (number : Int) : Int := (Int64.ofInt number).toInt

def rank? : Token → Option Nat
  | .sign "*" | .sign "/" | .sign "%" => some 0
  | .sign "+" | .sign "-" => some 1
  | .sign "<<" | .sign ">>" => some 2
  | .sign "<" | .sign "<=" | .sign ">" | .sign ">=" => some 3
  | .sign "==" | .sign "!=" => some 4
  | .sign "&" => some 5
  | .sign "^" => some 6
  | .sign "|" => some 7
  | _ => none

def loosest : Nat := 8

def truth (holds : Bool) : Int := if holds then 1 else 0

def overflowSignal : Nat := 8

def divide (remainder : Bool) (left right : Int) : Summing Int := do
  if right = 0 then fail "division by zero"
  else if left = Numeral.least ∧ right = -1 then throw (.gone (.killed overflowSignal))
  else return if remainder then left.tmod right else left.tdiv right

def apply (operator : String) (left right : Int) : Summing Int := do
  let bits (combine : Int64 → Int64 → Int64) : Int :=
    (combine (Int64.ofInt left) (Int64.ofInt right)).toInt
  match operator with
  | "*" => return wrapped (left * right)
  | "/" => divide false left right
  | "%" => divide true left right
  | "+" => return wrapped (left + right)
  | "-" => return wrapped (left - right)
  | "<<" => return bits (· <<< ·)
  | ">>" => return bits (· >>> ·)
  | "<" => return truth (left < right)
  | "<=" => return truth (left ≤ right)
  | ">" => return truth (left > right)
  | ">=" => return truth (left ≥ right)
  | "==" => return truth (left = right)
  | "!=" => return truth (left ≠ right)
  | "&" => return bits (· &&& ·)
  | "^" => return bits (· ^^^ ·)
  | _ => return bits (· ||| ·)

def applied? : Token → Option String
  | .sign text =>
      if ["<<=", ">>=", "+=", "-=", "*=", "/=", "%=", "&=", "|=", "^="].contains text then
        some (text.dropEnd 1).toString
      else none
  | _ => none

def numberIn (name : String) : Summing Int := do
  let value := ((← getThe Shell).value? name).getD []
  match Numeral.whole? value with
  | some number => return number
  | none => Run.abort (Run.text "Illegal number: " ++ value)

def operatorOf : Token → String
  | .sign text => text
  | _ => ""

mutual

def primary (idle : Bool) : Nat → Token → Summing Int
  | 0, _ => fail "expecting primary"
  | count + 1, first => do
      match first with
      | .sign "(" =>
          let value ← assignment idle count (← next)
          if (← get).last ≠ .sign ")" then fail "expecting ')'"
          let _ ← next
          return value
      | .number value =>
          let _ ← next
          return value
      | .name name =>
          let _ ← next
          if idle then return 0 else numberIn name
      | .sign "+" => primary idle count (← next)
      | .sign "-" => return wrapped (-(← primary idle count (← next)))
      | .sign "!" => return truth ((← primary idle count (← next)) = 0)
      | .sign "~" => return -(← primary idle count (← next)) - 1
      | _ => fail "expecting primary"

def binaryFrom (idle : Bool) : Nat → Int → Token → Nat → Summing Int
  | 0, value, _, _ => return value
  | count + 1, left, operator, bound => do
      let right ← primary idle count (← next)
      let rank := (rank? operator).getD loosest
      let following := (← get).last
      let right ←
        if (rank? following).any (· < rank) then binaryFrom idle count right following rank
        else pure right
      let value ← if idle then pure right else apply (operatorOf operator) left right
      let following := (← get).last
      match rank? following with
      | some further =>
          if further < bound then binaryFrom idle count value following bound else return value
      | none => return value

def binary (idle : Bool) : Nat → Token → Summing Int
  | 0, _ => fail "expecting primary"
  | count + 1, first => do
      let value ← primary idle count first
      let following := (← get).last
      if (rank? following).isSome then binaryFrom idle count value following loosest
      else return value

def conjunction (idle : Bool) : Nat → Token → Summing Int
  | 0, _ => fail "expecting primary"
  | count + 1, first => do
      let left ← binary idle count first
      if (← get).last ≠ .sign "&&" then return left
      else
        let right ← conjunction (idle || left = 0) count (← next)
        return truth (left ≠ 0 && right ≠ 0)

def disjunction (idle : Bool) : Nat → Token → Summing Int
  | 0, _ => fail "expecting primary"
  | count + 1, first => do
      let left ← conjunction idle count first
      if (← get).last ≠ .sign "||" then return left
      else
        let right ← disjunction (idle || left ≠ 0) count (← next)
        return truth (left ≠ 0 || right ≠ 0)

def conditional (idle : Bool) : Nat → Token → Summing Int
  | 0, _ => fail "expecting primary"
  | count + 1, first => do
      let condition ← disjunction idle count first
      if (← get).last ≠ .sign "?" then return condition
      else
        let consequence ← assignment (idle || condition = 0) count (← next)
        if (← get).last ≠ .sign ":" then fail "expecting ':'"
        let alternative ← conditional (idle || condition ≠ 0) count (← next)
        return if condition ≠ 0 then consequence else alternative

def assignment (idle : Bool) : Nat → Token → Summing Int
  | 0, _ => fail "expecting primary"
  | count + 1, first => do
      let before ← get
      match first with
      | .name name =>
          let sign ← next
          let operator? := applied? sign
          if sign = .sign "=" ∨ operator?.isSome then
            let value ← assignment idle count (← next)
            if idle then return value
            else
              let value ← match operator? with
                | some operator => apply operator (← numberIn name) value
                | none => pure value
              Run.assign name (ByteText.ofInt value)
              return value
          else
            set before
            conditional idle count first
      | _ => conditional idle count first

end

/-- The value of an expression. Between two tokens reading goes down less than ten steps. -/
def value (text : ByteText) : Run Int := do
  let whole : Summing Int := do
    let value ← assignment false (10 * text.length + 10) (← next)
    if (← get).last ≠ .finish then fail "expecting EOF"
    return value
  return (← whole.run { whole := text, rest := text }).1

end DescriptorReaper.Shell.Arithmetic
