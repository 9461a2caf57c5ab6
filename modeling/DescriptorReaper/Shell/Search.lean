import DescriptorReaper.Script.Grammar
import DescriptorReaper.Shell.State

/-!
What a command name stands for: a word of the language, an alias, a function, a built-in command or
a program. Programs are looked up along the search path, and where they were found is remembered.
-/

namespace DescriptorReaper.Shell.Search

def special : List String := Script.special

def plain : List String :=
  ["[", "alias", "bg", "cd", "chdir", "command", "echo", "false", "fg", "getopts", "hash", "jobs",
   "kill", "printf", "pwd", "read", "test", "true", "type", "ulimit", "umask", "unalias", "wait"]

def assigning : List String := ["alias", "export", "local", "readonly"]

def isBuiltin (name : String) : Bool := special.contains name || plain.contains name

/-- Look a name up in the parts of a search path. What stands there but is no program counts as a
fault until another one is met. -/
def along (view : Installation.View) (name : Bytes) :
    List Bytes → SystemFault → Except SystemFault (Bytes × Program)
  | [], fault => .error fault
  | part :: rest, fault =>
      let path := Installation.nameIn part name
      match view.resolve path with
      | .ok ⟨_, .program program⟩ => .ok (path, program)
      | .ok _ => along view name rest .permissionDenied
      | .error .notFound | .error .notDirectory => along view name rest fault
      | .error other => along view name rest other

def usual : ByteText :=
  ByteText.ofString "/usr/local/sbin:/usr/local/bin:/usr/sbin:/usr/bin:/sbin:/bin"

def program (view : Installation.View) (search name : ByteText) :
    Except SystemFault (ByteText × Program) :=
  (along view name.bytes (Installation.searchParts search.bytes) .notFound).map
    fun (path, program) => (ByteText.ofBytes path, program)

def reason : SystemFault → String
  | .notFound | .notDirectory => "not found"
  | fault => fault.reason

def status : SystemFault → Nat
  | .notFound | .notDirectory | .tooManyLinks | .nameTooLong => 127
  | _ => 126

def searchPath (shell : Shell) : ByteText := (shell.value? Console.searchVariable).getD []

def track (name path : ByteText) (shell : Shell) : Shell :=
  if shell.found.any (·.name = name) then
    { shell with
      found := shell.found.map fun tracked =>
        if tracked.name = name then { name, path } else tracked }
  else { shell with found := shell.found ++ [{ name, path }] }

def stale (shell : Shell) : Shell :=
  { shell with found := shell.found.map fun tracked => { tracked with isStale := true } }

def slot (size : Nat) (name : ByteText) : Nat :=
  (name.foldl (fun sum char => sum + char.toNat) (16 * (name.headD '\x00').toNat)) % 32768 % size

def ordered {α : Type} (size : Nat) (name : α → ByteText) (items : List α) : List α :=
  items.mergeSort fun left right => slot size (name left) ≤ slot size (name right)

/-- A program by the name of a command. It is looked up along the search path of the shell, or along
another one, which leaves no trace. -/
def find (search : Option ByteText) (name : ByteText) :
    Run (Except SystemFault (ByteText × Program)) := do
  let shell ← get
  let found := program shell.view (search.getD (searchPath shell)) name
  match search, found with
  | none, .ok (path, _) => modify (track name path)
  | _, _ => pure ()
  return found

def complain (name : ByteText) (fault : SystemFault) : Run Unit :=
  Run.complain (name ++ Run.text (": " ++ reason fault))

def quoted (text : ByteText) : ByteText :=
  let quote := '\x27'
  let rec inside : Nat → ByteText → ByteText
    | 0, _ => []
    | count + 1, text =>
        let plain := text.takeWhile (· ≠ quote)
        let rest := text.drop plain.length
        let quotes := rest.takeWhile (· = quote)
        let start := quote :: plain ++ [quote]
        if quotes = [] then start
        else
          let marked := start ++ '\x22' :: quotes ++ ['\x22']
          let rest := rest.drop quotes.length
          if rest = [] then marked else marked ++ inside count rest
  inside (text.length + 1) text

def aliasLine (name value : ByteText) : ByteText :=
  name ++ '=' :: quoted value ++ Run.newline

def describe (search : Option ByteText) (inWords : Bool) (name : ByteText) : Run Nat := do
  let shell ← get
  let say (short long : ByteText) : Run Nat := do
    Run.print ((if inWords then name ++ long else short) ++ Run.newline)
    return 0
  let text := String.ofList name
  let tracked := if search.isNone then shell.found.find? (·.name = name) else none
  if Script.Reading.keywords.contains text then say name (Run.text " is a shell keyword")
  else
    match shell.aliases.lookup name with
    | some value =>
        if inWords then say [] (Run.text " is an alias for " ++ value)
        else
          Run.print (Run.text "alias " ++ aliasLine name value)
          return 0
    | none =>
        match tracked with
        | some tracked => say tracked.path (Run.text " is a tracked alias for " ++ tracked.path)
        | none =>
            let isPath := name.contains '/'
            if ¬ isPath ∧ (shell.functions.lookup text).isSome then
              say name (Run.text " is a shell function")
            else if ¬ isPath ∧ special.contains text then
              say name (Run.text " is a special shell builtin")
            else if ¬ isPath ∧ plain.contains text then
              say name (Run.text " is a shell builtin")
            else
              let found ← if isPath then
                  pure ((shell.view.resolve name.bytes).map fun _ => name)
                else
                  let found ← find search name
                  pure (found.map Prod.fst)
              match found with
              | .ok path => say path (Run.text " is " ++ path)
              | .error _ =>
                  if inWords then Run.print (name ++ Run.text ": not found" ++ Run.newline)
                  return 127

end DescriptorReaper.Shell.Search
