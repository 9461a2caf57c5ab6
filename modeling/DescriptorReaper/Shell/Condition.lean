import DescriptorReaper.Console
import DescriptorReaper.Shell.Numeral

/-!
Conditions on texts, numbers and files, as the command `test` decides them. A condition that cannot
be read is neither true nor false but has a complaint. What an operand means depends on those after
it, and on how many there are.
-/

namespace DescriptorReaper.Shell.Condition

open Installation (Found Node View)

abbrev Judged := Except ByteText

inductive Operator where
  | unary
  | binary
  | not
  | and
  | or
  | opens
  | closes
  deriving DecidableEq, Repr

def unaryLetters : List Char := "rwxefdcbpugkstzhLSOGn".toList

def binaryNames : List String :=
  ["=", "!=", "<", ">", "-eq", "-ne", "-gt", "-ge", "-lt", "-le", "-nt", "-ot", "-ef"]

def operator? (operand : ByteText) : Option Operator :=
  match operand with
  | ['!'] => some .not
  | ['('] => some .opens
  | [')'] => some .closes
  | ['-', 'a'] => some .and
  | ['-', 'o'] => some .or
  | ['-', letter] => if unaryLetters.contains letter then some .unary else none
  | operand => if binaryNames.contains (String.ofList operand) then some .binary else none

def emptyFiles : List Place :=
  [["etc", "environment"], ["etc", "machine-id"], ["etc", "subgid"], ["etc", "subuid"],
   ["var", "log", "btmp"], ["var", "log", "faillog"], ["var", "log", "lastlog"],
   ["var", "log", "wtmp"]]

def foreign : List Place :=
  [["dev", "tty"], ["etc", "gshadow"], ["etc", "gshadow-"], ["etc", "shadow"], ["etc", "shadow-"],
   ["var", "local"], ["var", "log", "btmp"], ["var", "log", "lastlog"], ["var", "log", "wtmp"],
   ["var", "mail"]]

def grouping : List Place := [["var", "local"], ["var", "mail"]]

def sticky : List Place := [["tmp"], ["var", "tmp"], ["dev", "mqueue"], ["dev", "shm"], ["run", "lock"]]

def holdsAnything (console : Console) (found : Found) : Bool :=
  let isProcess := found.place.head? = some "proc"
  match found.node with
  | .program _ => true
  | .directory => !isProcess && found.place.head? ≠ some "sys"
  | .file =>
      if console.machine.contents.any (·.1 = found.place) then
        (console.content found.place).size ≠ 0
      else !isProcess && !emptyFiles.contains found.place
  | _ => false

def holdsOf (console : Console) (letter : Char) (found : Found) : Bool :=
  -- Every file may be read, and all belong to the one who runs the shell.
  match letter, found.node with
  | 'e', _ | 'r', _ | 'O', _ => true
  | 'w', _ => found.place.head? = some "sys" || !SystemTree.isGuarded found.place
  | 'G', _ => !foreign.contains found.place
  | 'd', .directory | 'c', .device | 'f', .file | 'f', .program _ => true
  | 'x', .directory | 'x', .program _ => true
  | 'p', .pipe _ => true
  | 'g', .directory => grouping.contains found.place
  | 'k', .directory => sticky.contains found.place
  | 's', _ => holdsAnything console found
  | _, _ => false

def isRecent (console : Console) (found : Found) : Bool :=
  -- What the system tells is told anew.
  found.place.head? = some "proc" || found.place = Console.startDirectory ||
    console.machine.contents.any (·.1 = found.place)

def illegalNumber (operand : ByteText) : ByteText := "Illegal number: ".toList ++ operand

def number (operand : ByteText) : Judged Int :=
  let start := operand.dropWhile Numeral.isBlank
  let (negative, unsigned) := match start with
    | '-' :: rest => (true, rest)
    | '+' :: rest => (false, rest)
    | rest => (false, rest)
  let digits := unsigned.takeWhile Char.isDigit
  let value : Int := ByteText.decimal digits
  let value := if negative then -value else value
  let isWhole := (unsigned.drop digits.length).all Numeral.isBlank
  if digits ≠ [] && isWhole && Numeral.fits value then .ok value
  else .error (illegalNumber operand)

def unary (console : Console) (letter : Char) (operand : ByteText) : Judged Bool :=
  match letter with
  | 'n' => .ok (operand ≠ [])
  | 'z' => .ok (operand = [])
  | 't' => (number operand).map fun _ => false
  | 'h' | 'L' => .ok ((console.view .shell).isLink operand.bytes)
  | letter =>
      match (console.view .shell).resolve operand.bytes with
      | .ok found => .ok (holdsOf console letter found)
      | .error _ => .ok false

def compareNumbers (name : String) (left right : Int) : Bool :=
  match name with
  | "-eq" => left = right
  | "-ne" => left ≠ right
  | "-lt" => left < right
  | "-le" => left ≤ right
  | "-gt" => left > right
  | _ => left ≥ right

def isSame (left right : Found) : Bool :=
  match left.node, right.node with
  | .pipe pipe, .pipe other => pipe = other
  | _, _ => left.place = right.place

def binary (console : Console) (name : String) (left right : ByteText) : Judged Bool :=
  let view := console.view .shell
  match name with
  | "=" => .ok (left = right)
  | "!=" => .ok (left ≠ right)
  | "<" => .ok (left.before right)
  | ">" => .ok (right.before left)
  | "-nt" | "-ot" =>
      let (newer, older) := if name = "-nt" then (left, right) else (right, left)
      match view.resolve newer.bytes, view.resolve older.bytes with
      | .ok newer, .ok older => .ok (isRecent console newer && !isRecent console older)
      | _, _ => .ok false
  | "-ef" =>
      match view.resolve left.bytes, view.resolve right.bytes with
      | .ok found, .ok other => .ok (isSame found other)
      | _, _ => .ok false
  | name => do return compareNumbers name (← number left) (← number right)

inductive Lexeme where
  | finish
  | operand
  | operator (operator : Operator)
  deriving DecidableEq, Repr

def lexeme : List ByteText → Lexeme
  | [] => .finish
  | first :: rest =>
      match operator? first with
      | none => .operand
      | some .unary =>
          match rest with
          | [] => .operand
          | [_] => .operator .unary
          | next :: _ => if operator? next = some .binary then .operand else .operator .unary
      | some .opens => if rest = [] then .operand else .operator .opens
      | some operator => .operator operator

abbrev Front := Judged (Bool × List ByteText)

def expected (name : ByteText) : ByteText := name ++ ": argument expected".toList

def simple (console : Console) (operands : List ByteText) : Front :=
  match operands with
  | [] => .ok (false, [])
  | first :: rest =>
      match lexeme operands, rest with
      | .operator .unary, operand :: _ => do
          return (← unary console (first.getLastD ' ') operand, rest)
      | .operator .unary, [] => .error (expected first)
      | _, name :: after =>
          if lexeme rest = .operator .binary then
            match after with
            | right :: _ => do
                return (← binary console (String.ofList name) first right, after)
            | [] => .error (expected name)
          else .ok (first ≠ [], operands)
      | _, [] => .ok (first ≠ [], operands)

mutual

def disjunction (console : Console) : Nat → List ByteText → Front
  | 0, operands => .ok (false, operands)
  | count + 1, operands => do
      let (holds, last) ← conjunction console count operands
      if lexeme (last.drop 1) = .operator .or then
        let (other, last) ← disjunction console count (last.drop 2)
        return (holds || other, last)
      else return (holds, last)

def conjunction (console : Console) : Nat → List ByteText → Front
  | 0, operands => .ok (false, operands)
  | count + 1, operands => do
      let (holds, last) ← negation console count operands
      if lexeme (last.drop 1) = .operator .and then
        let (other, last) ← conjunction console count (last.drop 2)
        return (holds && other, last)
      else return (holds, last)

def negation (console : Console) : Nat → List ByteText → Front
  | 0, operands => .ok (false, operands)
  | count + 1, operands =>
      match lexeme operands with
      | .operator .not => do
          let inner := operands.drop 1
          if inner = [] then return (true, operands)
          else
            let (holds, last) ← negation console count inner
            return (!holds, last)
      | .operator .opens => do
          let inside := operands.drop 1
          if lexeme inside = .operator .closes then return (false, inside)
          else
            let (holds, last) ← disjunction console count inside
            if lexeme (last.drop 1) = .operator .closes then return (holds, last.drop 1)
            else throw "closing paren expected".toList
      | _ => simple console operands

end

def whole (console : Console) (operands : List ByteText) : Judged Bool := do
  let (holds, last) ← disjunction console (4 * operands.length + 4) operands
  match last with
  | name :: _ :: _ =>
      let unexpected := "unexpected operator".toList
      throw (if name = [] then unexpected else name ++ ": ".toList ++ unexpected)
  | _ => return holds

/-- Judge all operands as one condition; none at all are false. Of three operands around a
comparison the middle one decides what they mean. -/
def judge (console : Console) (operands : List ByteText) : Judged Bool :=
  match operands with
  | [] => .ok false
  | [left, name, right] =>
      if operator? name = some .binary then binary console (String.ofList name) left right
      else if left = ['('] ∧ right = [')'] then whole console [name]
      else if left = ['!'] then
        -- Two negations in a row are looked at from left to right.
        (whole console [name, right]).map not
      else whole console operands
  | [first, second, third, fourth] =>
      if first = ['('] ∧ fourth = [')'] then whole console [second, third]
      else if first = ['!'] then
        if operator? third = some .binary then
          (binary console (String.ofList third) second fourth).map not
        else if second = ['('] ∧ fourth = [')'] then (whole console [third]).map not
        else if second = ['!'] then (whole console [third, fourth]).map not
        else (whole console [second, third, fourth]).map not
      else whole console operands
  | _ => whole console operands

end DescriptorReaper.Shell.Condition
