import DescriptorReaper.Terminal

/-!
Text of which some spans stand out. Where colours are wanted a terminal is given orders before and
after each of these, and all text goes to it as it is. Elsewhere the text is shown plainly, so that
what a user wrote gives no orders either.
-/

namespace DescriptorReaper

inductive Style where
  | plain
  | heading
  | alarm
  | literal
  | good
  | bad
  deriving DecidableEq, Repr

def Style.orders : Style → List Nat
  | .plain => []
  | .heading => [1, 4]
  | .alarm => [1, 31]
  | .literal => [1]
  | .good => [32]
  | .bad => [33]

/-- Text in one style. -/
structure Span where
  style : Style := .plain
  text : String
  deriving DecidableEq, Repr

def Span.order (number : Nat) : String := "\x1b[" ++ toString number ++ "m"

def Span.coloured (span : Span) : String :=
  match span.style.orders with
  | [] => span.text
  | orders => String.join (orders.map order) ++ span.text ++ order 0

abbrev Styled := List Span

namespace Styled

instance : Coe String Styled := ⟨fun text => [{ text }]⟩

def styled (style : Style) (text : String) : Styled := [⟨style, text⟩]

def heading : String → Styled := styled .heading

def literal : String → Styled := styled .literal

def good : String → Styled := styled .good

def bad : String → Styled := styled .bad

def text (coloured : Bool) (line : Styled) : String :=
  String.join (line.map fun span => if coloured then span.coloured else Terminal.plain span.text)

end Styled

end DescriptorReaper
