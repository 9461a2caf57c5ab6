import DescriptorReaper.Shell.Choices
import DescriptorReaper.Shell.Search

/-!
The directory of a shell. A shell remembers the way by which it got there, links and all, and takes
the way back from what it remembers.
-/

namespace DescriptorReaper.Shell.Places

def names (path : ByteText) : List ByteText := (pieces '/' path).filter (· ≠ [])

def settled (names : List ByteText) : List ByteText :=
  names.foldl
    (fun before name =>
      if name = ['.'] then before
      else if name = ['.', '.'] then before.dropLast
      else before ++ [name])
    []

/-- Where a path leads from a directory, as far as its names tell. A path that begins with just two
slashes goes on to do so. -/
def goal (directory path : ByteText) : ByteText :=
  let whole := if path.head? = some '/' then path else directory ++ '/' :: path
  let start : ByteText := match whole with
    | '/' :: '/' :: rest => if rest.head? = some '/' then ['/'] else ['/', '/']
    | _ => ['/']
  start ++ ByteText.joined ['/'] (settled (names whole))

def isPhysical (chosen : List (Char × ByteText)) : Bool :=
  (chosen.getLast?.map Prod.fst) = some 'P'

def physical (shell : Shell) : ByteText := ByteText.ofString (Place.path shell.console.directory)

def publish (name : String) (value : ByteText) : Run Unit := Run.assignMarked name value true false

def go (physically : Bool) (path : ByteText) : Run Bool := do
  let shell ← get
  let target := if physically then path else goal shell.directory path
  match shell.view.resolve target.bytes with
  | .ok ⟨directory, .directory⟩ =>
      publish "OLDPWD" shell.directory
      modify fun shell => Search.stale
        { shell with console := { shell.console with directory }, directory := target }
      if physically then modify fun shell => { shell with directory := physical shell }
      publish "PWD" (← get).directory
      return true
  | _ => return false

def isDirect (path : ByteText) : Bool :=
  match path with
  | ['.'] | ['.', '.'] => true
  | '/' :: _ | '.' :: '/' :: _ | '.' :: '.' :: '/' :: _ => true
  | _ => false

def along (view : Installation.View) (path : ByteText) : List Bytes → Option (ByteText × Bool)
  | [] => none
  | part :: rest =>
      let whole := Installation.nameIn part path.bytes
      match view.resolve whole with
      | .ok ⟨_, .directory⟩ => some (ByteText.ofBytes whole, part ≠ [])
      | _ => along view path rest

def change (arguments : List ByteText) : Run Nat := do
  let (chosen, rest) ← Choices.read "LP" arguments
  let shell ← get
  let (path, isBack) := match rest.head? with
    | none => ((shell.value? "HOME").getD [], false)
    | some ['-'] => ((shell.value? "OLDPWD").getD [], true)
    | some path => (path, false)
  let search := Installation.searchParts ((shell.value? "CDPATH").getD []).bytes
  let wanted := if path = [] then ['.'] else path
  let (target, isNamed) :=
    if isDirect path then (path, false)
    else (along shell.view wanted search).getD (wanted, false)
  if ← go (isPhysical chosen) target then
    if isBack || isNamed then Run.print ((← get).directory ++ Run.newline)
    return 0
  else Run.abort (Run.text "can't cd to " ++ wanted)

def say (arguments : List ByteText) : Run Nat := do
  let (chosen, _) ← Choices.read "LP" arguments
  let shell ← get
  Run.print ((if isPhysical chosen then physical shell else shell.directory) ++ Run.newline)
  return 0

end DescriptorReaper.Shell.Places
