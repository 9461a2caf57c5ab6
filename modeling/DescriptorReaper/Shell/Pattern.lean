import DescriptorReaper.ByteText

/-!
Patterns that text is matched with. A pattern is written with characters of which some are guarded,
by quotes or by a backslash before them, and stand for themselves. Of the others a question mark
stands for any character, a star for any text, and a set in brackets for one of its members; an
opening bracket that no set follows stands for itself.
-/

namespace DescriptorReaper.Shell

structure Written where
  char : Char
  guarded : Bool
  deriving DecidableEq, Repr

namespace Pattern

inductive Kind where
  | alnum
  | alpha
  | blank
  | cntrl
  | digit
  | graph
  | lower
  | print
  | punct
  | space
  | upper
  | xdigit
  deriving DecidableEq, Repr

namespace Kind

def ofName? : String → Option Kind
  | "alnum" => some .alnum
  | "alpha" => some .alpha
  | "blank" => some .blank
  | "cntrl" => some .cntrl
  | "digit" => some .digit
  | "graph" => some .graph
  | "lower" => some .lower
  | "print" => some .print
  | "punct" => some .punct
  | "space" => some .space
  | "upper" => some .upper
  | "xdigit" => some .xdigit
  | _ => none

def isGraph (char : Char) : Bool := '!' ≤ char && char ≤ '~'

def holds (kind : Kind) (char : Char) : Bool :=
  match kind with
  | .alnum => char.isAlphanum
  | .alpha => char.isAlpha
  | .blank => char = ' ' || char = '\t'
  | .cntrl => char < ' ' || char = '\x7f'
  | .digit => char.isDigit
  | .graph => isGraph char
  | .lower => char.isLower
  | .print => char = ' ' || isGraph char
  | .punct => isGraph char && !char.isAlphanum
  | .space => char = ' ' || ('\t' ≤ char && char ≤ '\r')
  | .upper => char.isUpper
  | .xdigit => char.isDigit || ('a' ≤ char && char ≤ 'f') || ('A' ≤ char && char ≤ 'F')

end Kind

inductive Member where
  | range (least greatest : Char)
  | ofKind (kind : Kind)
  deriving DecidableEq, Repr

def rank (char : Char) : Int := if char.toNat < 128 then char.toNat else char.toNat - 256

def Member.holds (member : Member) (char : Char) : Bool :=
  match member with
  | .range least greatest => rank least ≤ rank char && rank char ≤ rank greatest
  | .ofKind kind => kind.holds char

/-- A piece of a pattern. -/
inductive Item where
  | exactly (char : Char)
  | anyOne
  | anyMany
  | oneOf (inverted : Bool) (members : List Member)
  deriving DecidableEq, Repr

def guard : List Written → List Written
  | ⟨'\x5c', false⟩ :: next :: rest => { next with guarded := true } :: guard rest
  | first :: rest => first :: guard rest
  | [] => []

def kind? : List Written → Option (Kind × List Written)
  | ⟨':', false⟩ :: rest =>
      let name := rest.takeWhile fun written => written ≠ ⟨':', false⟩
      match rest.drop name.length with
      | ⟨':', false⟩ :: ⟨']', false⟩ :: after =>
          if name.any (·.guarded) then none
          else (Kind.ofName? (String.ofList (name.map (·.char)))).map fun kind => (kind, after)
      | _ => none
  | _ => none

def members? : Nat → List Written → Option (List Member × List Written)
  -- The first character never ends the set.
  | 0, _ | _, [] => none
  | count + 1, first :: rest =>
      let goOn (member : Member) (rest : List Written) : Option (List Member × List Written) :=
        match rest with
        | ⟨']', false⟩ :: after => some ([member], after)
        | rest => (members? count rest).map fun (members, after) => (member :: members, after)
      let single : Option (List Member × List Written) :=
        match rest with
        | ⟨'-', false⟩ :: last :: after =>
            if last = ⟨']', false⟩ then goOn (.range first.char first.char) rest
            else goOn (.range first.char last.char) after
        | rest => goOn (.range first.char first.char) rest
      if first = ⟨'[', false⟩ then
        match kind? rest with
        | some (kind, after) => goOn (.ofKind kind) after
        | none => single
      else single

def set? (text : List Written) : Option (Item × List Written) :=
  let (inverted, inside) := match text with
    | ⟨'!', false⟩ :: rest => (true, rest)
    | text => (false, text)
  (members? (inside.length + 1) inside).map fun (members, after) => (.oneOf inverted members, after)

def items : Nat → List Written → List Item
  | 0, _ | _, [] => []
  | count + 1, ⟨char, guarded⟩ :: rest =>
      if guarded then .exactly char :: items count rest
      else
        match char with
        | '?' => .anyOne :: items count rest
        | '*' => .anyMany :: items count rest
        | '[' =>
            match set? rest with
            | some (item, after) => item :: items count after
            | none => .exactly '[' :: items count rest
        | char => .exactly char :: items count rest

def ofWritten (text : List Written) : List Item := items (text.length + 1) (guard text)

def Item.takes (item : Item) (char : Char) : Bool :=
  match item with
  | .exactly own => own = char
  | .anyOne | .anyMany => true
  | .oneOf inverted members => members.any (·.holds char) != inverted

def anyEnd (test : ByteText → Bool) : ByteText → Bool
  | [] => test []
  | first :: rest => test (first :: rest) || anyEnd test rest

/-- Does a pattern match a whole text? -/
def accepts : List Item → ByteText → Bool
  | [], text => text.isEmpty
  | .anyMany :: rest, text => anyEnd (accepts rest) text
  | item :: rest, first :: text => item.takes first && accepts rest text
  | _ :: _, [] => false

def leftBy (test : ByteText → Bool) (longest : Bool) : Nat → Option Nat → ByteText → Option Nat
  | passed, found, [] => if test [] then some passed else found
  | passed, found, first :: rest =>
      let found := if test (first :: rest) then some passed else found
      if longest && found.isSome then found else leftBy test longest (passed + 1) found rest

def trim {α : Type} (pattern : List Item) (char : α → Char) (atEnd greedy : Bool)
    (value : List α) : List α :=
  -- The front is the end of the value read backwards.
  let trimEnd (pattern : List Item) (value : List α) : List α :=
    match leftBy (accepts pattern) greedy 0 none (value.map char) with
    | some count => value.take count
    | none => value
  if atEnd then trimEnd pattern value else (trimEnd pattern.reverse value.reverse).reverse

theorem accepts_anyMany (text : ByteText) : accepts [.anyMany] text = true := by
  induction text with
  | nil => rfl
  | cons first rest ih =>
      simp only [accepts, anyEnd] at ih ⊢
      simp [ih]

/-- Text that is guarded throughout matches itself and nothing else. -/
theorem accepts_exactly (own text : ByteText) :
    accepts (own.map Item.exactly) text = true ↔ text = own := by
  induction own generalizing text with
  | nil => cases text <;> simp [accepts]
  | cons first rest ih =>
      cases text with
      | nil => simp [accepts]
      | cons char text =>
          simp only [List.map_cons, accepts, Item.takes, Bool.and_eq_true, decide_eq_true_eq,
            ih, List.cons.injEq]
          exact ⟨fun ⟨same, others⟩ => ⟨same.symm, others⟩,
            fun ⟨same, others⟩ => ⟨same.symm, others⟩⟩

end Pattern

end DescriptorReaper.Shell
