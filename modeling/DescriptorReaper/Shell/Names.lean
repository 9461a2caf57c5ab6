import DescriptorReaper.Console
import DescriptorReaper.Shell.Fields

/-!
The names of files that a pattern matches. A pattern is looked up a part of the path at a time: a
part without wildcards stands for itself, and for any other a directory is read, which takes a
descriptor as long as that goes on. Names that begin with a dot are matched only by a pattern that
does so too.
-/

namespace DescriptorReaper.Shell.Names

def parts : List Written → List (List Written)
  | [] => [[]]
  | written :: rest =>
      match parts rest with
      | [] => [[written]]
      | first :: others =>
          if written.char = '/' then [] :: first :: others else (written :: first) :: others

def opensSet (rest : List Written) : Bool :=
  let inside := if rest.head? = some ⟨'!', false⟩ then rest.tail else rest
  (inside.drop 1).contains ⟨']', false⟩

def isWild : List Written → Bool
  | [] => false
  | ⟨char, guarded⟩ :: rest =>
      !guarded && (char = '*' || char = '?' || (char = '[' && opensSet rest)) || isWild rest

def text (part : List Written) : ByteText := part.map (·.char)

def listing? (console : Console) (path : ByteText) : Option (List ByteText × Console) :=
  let path := if path = [] then ['.'] else path
  match console.free? 0, console.openPath .shell (ByteText.bytes path) { access := .reading } with
  | some fd, .ok (target, console) =>
      let console := console.attachHidden fd target
      match target with
      | .file place _ _ =>
          let view := console.view .shell
          if view.node? place = some .directory then
            some (("." :: ".." :: view.names place).map ByteText.ofString, console)
          else none
      | .pipe _ _ => none
  | _, _ => none

def matching (console : Console) (start : ByteText) : List (List Written) → List ByteText
  -- The path ends with a slash unless nothing comes before the parts.
  | [] => []
  | part :: rest =>
      if ¬ isWild part then
        if rest = [] then
          let path := start ++ text part
          let stands := match (console.view .shell).reach false (ByteText.bytes path) with
            | .ok _ => true
            | .error _ => false
          if stands then [path] else []
        else matching console (start ++ text part ++ ['/']) rest
      else
        match listing? console start with
        | none => []
        | some (names, console) =>
            let pattern := Pattern.ofWritten part
            let opensDot := (part.head?.map (·.char)) = some '.'
            let found := names.filter fun name =>
              (opensDot || name.head? ≠ some '.') && Pattern.accepts pattern name
            if rest = [] then found.map (start ++ ·)
            else found.flatMap fun name => matching console (start ++ name ++ ['/']) rest

/-- The fields that a field stands for: the names that it matches, or itself if there are none. -/
def ofField (console : Console) (field : List Item) : List ByteText :=
  let pattern := parts (Pattern.guard (field.filterMap Item.written?))
  if ¬ pattern.any isWild then [plain field]
  else
    match matching console [] pattern with
    | [] => [plain field]
    | found => found.mergeSort fun left right => !ByteText.before right left

end DescriptorReaper.Shell.Names
