/-!
Bytes and the text they encode. A character is a lead byte and the continuation bytes that the
lead asks for, each from a range of its own. Where bytes encode nothing, the longest run that
could have begun a character counts as one malformed piece.
-/

namespace DescriptorReaper

abbrev Bytes := List UInt8

namespace Utf8

structure ByteRange where
  least : UInt8
  greatest : UInt8

def ByteRange.contains (range : ByteRange) (byte : UInt8) : Bool :=
  range.least ≤ byte && byte ≤ range.greatest

def continuation : ByteRange := ⟨0x80, 0xBF⟩

def following? (lead : UInt8) : Option (List ByteRange) :=
  if lead < 0x80 then some []
  else if lead < 0xC2 then none
  else if lead < 0xE0 then some [continuation]
  else if lead = 0xE0 then some [⟨0xA0, 0xBF⟩, continuation]
  else if lead = 0xED then some [⟨0x80, 0x9F⟩, continuation]
  else if lead < 0xF0 then some [continuation, continuation]
  else if lead = 0xF0 then some [⟨0x90, 0xBF⟩, continuation, continuation]
  else if lead < 0xF4 then some [continuation, continuation, continuation]
  else if lead = 0xF4 then some [⟨0x80, 0x8F⟩, continuation, continuation]
  else none

def matching : List ByteRange → Bytes → Bytes
  | range :: ranges, byte :: rest =>
      if range.contains byte then byte :: matching ranges rest else []
  | _, _ => []

def codePoint (lead : UInt8) (tail : Bytes) : Nat :=
  let payload := match tail.length with
    | 0 => lead.toNat
    | 1 => lead.toNat % 0x20
    | 2 => lead.toNat % 0x10
    | _ => lead.toNat % 0x08
  tail.foldl (fun code byte => code * 0x40 + byte.toNat % 0x40) payload

/-- The piece of text at the front: its character, none if malformed, and how many bytes after
the lead belong to it. -/
def piece (lead : UInt8) (rest : Bytes) : Option Char × Nat :=
  match following? lead with
  | none => (none, 0)
  | some ranges =>
      let tail := matching ranges rest
      if tail.length = ranges.length then (some (Char.ofNat (codePoint lead tail)), tail.length)
      else (none, tail.length)

def decodeAfter : Nat → Bytes → List (Option Char)
  | _, [] => []
  | covered + 1, _ :: rest => decodeAfter covered rest
  | 0, lead :: rest => (piece lead rest).1 :: decodeAfter (piece lead rest).2 rest

/-- The pieces in order; a malformed one has no character. -/
def decode (bytes : Bytes) : List (Option Char) := decodeAfter 0 bytes

def isText (bytes : Bytes) : Bool := (decode bytes).all Option.isSome

/-- The text that is shown for any bytes: each malformed piece becomes the replacement
character. -/
def display (bytes : Bytes) : String :=
  String.ofList ((decode bytes).map (·.getD '\uFFFD'))

def uncons? : Bytes → Option (Char × Bytes)
  | [] => none
  | lead :: rest => (piece lead rest).1.map fun char => (char, rest.drop (piece lead rest).2)

def encode (text : String) : Bytes := text.toList.flatMap String.utf8EncodeChar

theorem uncons?_shorter {bytes rest : Bytes} {char : Char}
    (split : uncons? bytes = some (char, rest)) : rest.length < bytes.length := by
  cases bytes with
  | nil => simp [uncons?] at split
  | cons lead tail =>
      simp only [uncons?, Option.map_eq_some_iff, Prod.mk.injEq] at split
      obtain ⟨_, _, _, cut⟩ := split
      subst cut
      simp only [List.length_drop, List.length_cons]
      omega

end Utf8

end DescriptorReaper
