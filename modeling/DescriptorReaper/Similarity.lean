/-!
How alike two words are. A character of one word has a partner in the other that is the same
character at about the same place, and no character is the partner of two. Words are alike when most
of their characters have partners, in the same order.
-/

namespace DescriptorReaper.Similarity

def partner? (char : Char) (other : List Char) (first last : Nat) (taken : List Nat) : Option Nat :=
  ((List.range last).filter (first ≤ ·)).find? fun place =>
    other[place]? = some char && !taken.contains place

def partners (other : List Char) (reach : Nat) : Nat → List Char → List Nat → List (Char × Nat)
  -- Only characters that find a partner have an entry.
  | _, [], _ => []
  | place, char :: rest, taken =>
      let last := min other.length (place + reach + 1)
      match partner? char other (place - reach) last taken with
      | some found => (char, found) :: partners other reach (place + 1) rest (found :: taken)
      | none => partners other reach (place + 1) rest taken

structure Likeness where
  numerator : Nat
  denominator : Nat
  deriving DecidableEq, Repr

/-- How alike two words are: the mean of three shares, which of the characters of each word have
partners, and which partners stand in order. Words without partners are not alike at all. -/
def likeness (word other : List Char) : Likeness :=
  let reach := max word.length other.length / 2 - 1
  let found := partners other reach 0 word []
  let count := found.length
  let places := (found.map (·.2)).mergeSort (· ≤ ·)
  let crossed := (found.zip places).countP fun ((char, _), place) => other[place]? ≠ some char
  let kept := count - crossed / 2
  let sizes := word.length * other.length
  if count = 0 then ⟨0, 1⟩
  else
    ⟨count * count * other.length + count * count * word.length + kept * sizes, 3 * count * sizes⟩

def Likeness.below (left right : Likeness) : Bool :=
  left.numerator * right.denominator < right.numerator * left.denominator

def Likeness.suggests (likeness : Likeness) : Bool :=
  7 * likeness.denominator ≤ 10 * likeness.numerator

def suggestion? (word : String) (known : List String) : Option String :=
  let graded := known.map fun name => (likeness word.toList name.toList, name)
  let fitting := graded.filter fun (likeness, _) => likeness.suggests
  (fitting.foldl
    (fun (chosen : Option (Likeness × String)) candidate =>
      match chosen with
      | some best => if candidate.1.below best.1 then chosen else some candidate
      | none => some candidate)
    none).map (·.2)

end DescriptorReaper.Similarity
