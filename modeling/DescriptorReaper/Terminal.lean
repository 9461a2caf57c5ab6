/-!
Text as it is shown where no terminal obeys it. A terminal takes some characters for orders: single
controls, and sequences that an escape character opens. What is shown keeps the printing characters
and the blanks of the text and drops the orders.

A sequence ends with the first character that its kind takes for its last. A blank inside a sequence
is shown and takes what follows along, up to the next character that is dropped; the sequence then
goes on from there.
-/

namespace DescriptorReaper.Terminal

def escape : Char := '\x1b'

def bell : Char := '\x07'

def cancels (char : Char) : Bool := char = '\x18' || char = '\x1a'

def closing : UInt8 := 0x9C

/-- Where in an order the text stands. -/
inductive State where
  | text
  | escaped
  -- After an escape and a mark that asks for one more character.
  | marked
  | control
  | device
  -- After the numbers in such a head, which one more mark may spoil.
  | deviceNumbered
  -- After the marks in such a head, which one more number spoils.
  | deviceMarked
  -- In a body that is quoted for the device, or that is spoiled.
  | quoted
  | setting
  deriving DecidableEq, Repr

def within (first last char : Char) : Bool := first ≤ char && char ≤ last

def opened (char : Char) : State :=
  if within ' ' '/' char then .marked
  else if char = '[' then .control
  else if char = ']' then .setting
  else if char = 'P' then .device
  else if char = 'X' || char = '^' || char = '_' then .quoted
  else if within '0' '~' char then .text
  else .escaped

def afterHead (state : State) (char : Char) : State :=
  if within ' ' '/' char then .deviceMarked
  else if within '@' '~' char then .quoted
  else state

def after (state : State) (char : Char) : State :=
  -- An escape opens a new sequence wherever it stands.
  if cancels char then .text
  else if char = escape then .escaped
  else
    match state with
    | .text => .text
    | .escaped => opened char
    | .marked => if within '0' '~' char then .text else .marked
    | .control => if within '@' '~' char then .text else .control
    | .device => if within '0' '?' char then .deviceNumbered else afterHead .device char
    | .deviceNumbered => if within '<' '?' char then .quoted else afterHead .deviceNumbered char
    | .deviceMarked => if within '0' '?' char then .quoted else afterHead .deviceMarked char
    | .quoted => if closing ∈ String.utf8EncodeChar char then .text else .quoted
    | .setting => if char = bell then .text else .setting

def isBlank (char : Char) : Bool :=
  char = ' ' || char = '\t' || char = '\n' || char = '\x0c' || char = '\r'

def shows (char : Char) : Bool := isBlank char || (' ' < char && char ≠ '\x7f')

def shownIn (state : State) (char : Char) : Bool :=
  -- Inside a sequence only a blank is shown, and only where the sequence lets controls through.
  match state with
  | .text => shows char
  | .escaped | .marked | .control => isBlank char && char ≠ ' '
  | .device | .deviceNumbered | .deviceMarked | .quoted | .setting => false

def afterShown (state : State) (char : Char) : State := if '\x7f' < char then .text else state

/-- Drop what is not shown. While characters are being shown, each next one is looked at as if no
sequence were open. -/
def plainFrom (state : State) (showing : Bool) : List Char → List Char
  | [] => []
  | char :: rest =>
      if showing && shows char || shownIn state char then
        char :: plainFrom (afterShown state char) true rest
      else plainFrom (after state char) false rest

def plain (text : String) : String := String.ofList (plainFrom .text false text.toList)

/-- Text without controls is shown as it stands. -/
theorem plainFrom_text {text : List Char} (visible : ∀ char ∈ text, shows char = true)
    (showing : Bool) : plainFrom .text showing text = text := by
  induction text generalizing showing with
  | nil => rfl
  | cons char rest ih =>
      have first := visible char (by simp)
      have others : ∀ later ∈ rest, shows later = true := fun later member =>
        visible later (by simp [member])
      have stays : afterShown .text char = .text := by simp [afterShown]
      simp [plainFrom, shownIn, first, stays, ih others]

theorem plain_text {text : String} (visible : ∀ char ∈ text.toList, shows char = true) :
    plain text = text := by
  simp [plain, plainFrom_text visible]

end DescriptorReaper.Terminal
