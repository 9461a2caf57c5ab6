import DescriptorReaper.Utf8

/-!
Text whose characters stand for single bytes. Scripts are read, cut and matched byte by byte, and
what they do with a byte does not depend on the character that it may be a part of.
-/

namespace DescriptorReaper

/-- Text of characters that stand for one byte each. -/
abbrev ByteText := List Char

namespace ByteText

def ofBytes (bytes : Bytes) : ByteText := bytes.map fun byte => Char.ofNat byte.toNat

def bytes (text : ByteText) : Bytes := text.map fun char => UInt8.ofNat char.toNat

def ofString (text : String) : ByteText := ofBytes (Utf8.encode text)

def display (text : ByteText) : String := Utf8.display text.bytes

theorem bytes_ofBytes (bytes : Bytes) : (ofBytes bytes).bytes = bytes := by
  induction bytes with
  | nil => rfl
  | cons byte rest ih =>
      have valid : byte.toNat.isValidChar := Or.inl (by have := byte.toNat_lt; omega)
      have same : (Char.ofNat byte.toNat).toNat = byte.toNat := by
        rw [Char.ofNat, dif_pos valid]
        rfl
      simp only [ofBytes, ByteText.bytes, List.map_cons, List.map_map] at ih ⊢
      rw [same, ih]
      simp

def opensName (char : Char) : Bool := char.isAlpha || char = '_'

def inName (char : Char) : Bool := char.isAlphanum || char = '_'

def isName : ByteText → Bool
  | [] => false
  | first :: rest => opensName first && rest.all inName

def decimal (digits : ByteText) : Nat :=
  digits.foldl (fun total digit => 10 * total + (digit.toNat - '0'.toNat)) 0

def natural? (text : ByteText) : Option Nat :=
  if text ≠ [] ∧ text.all Char.isDigit then some (decimal text) else none

def ofInt (number : Int) : ByteText := (toString number).toList

def before : ByteText → ByteText → Bool
  | _, [] => false
  | [], _ :: _ => true
  | left :: lefts, right :: rights => left < right || (left = right && before lefts rights)

def joined (separator : ByteText) : List ByteText → ByteText
  | [] => []
  | [last] => last
  | first :: rest => first ++ separator ++ joined separator rest

end ByteText

end DescriptorReaper
