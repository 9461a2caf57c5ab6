import DescriptorReaper.Shell.Expansion
import DescriptorReaper.Shell.Process

/-!
Redirections carried out. What a redirection opens takes the lowest free descriptor before it takes
the one that it is meant for. A descriptor whose former target is to come back is moved out of the
way, to a number that no script names and no program gets to see; where there is no such number, the
descriptor is lost.
-/

namespace DescriptorReaper.Shell.Redirect

open Script (Direction Redirection Word)

variable (capture : Script.Command → Run ByteText)

def source (text : ByteText) : Run (Option Int) := do
  match text with
  | ['-'] => return none
  | [digit] =>
      if digit.isDigit then return some (ByteText.decimal [digit]) else bad
  | _ => bad
where
  bad : Run (Option Int) := do
    modify fun shell => { shell with line := shell.readLine }
    Run.abort (Run.text "Syntax error: Bad fd number")

def aim : Redirection → Run (Int × Aim)
  | .document fd number => return (fd, .document (((← get).documents.lookup number).getD []))
  | .path fd .copy target => return (fd, .copy (← source (← Expansion.whole capture target)))
  | .path fd direction target => return (fd, .path direction (← Expansion.whole capture target))

def creates (direction : Direction) : Bool := direction ≠ .read

def unopened {α : Type} (direction : Direction) (path : ByteText) (fault : SystemFault) : Run α :=
  let reason := match fault with
    | .notFound | .notDirectory =>
        if creates direction then "Directory nonexistent" else "No such file"
    | fault => fault.reason
  let attempt := if creates direction then "cannot create " else "cannot open "
  Run.abort (Run.text attempt ++ path ++ Run.text (": " ++ reason))

def opening (shell : Shell) (direction : Direction) (path : ByteText) :
    Except SystemFault Console.Opening :=
  let creating : Access → Console.Opening := fun access => { access, creates := true }
  let anew : Console.Opening := { creating .writing with truncates := true }
  match direction with
  | .read => .ok { access := .reading }
  | .update => .ok (creating { reads := true, writes := true })
  | .append => .ok (creating { writes := true, appends := true })
  | .clobber | .copy => .ok anew
  | .write =>
      if ¬ shell.has 'C' then .ok anew
      else
        match shell.view.resolve path.bytes with
        | .ok ⟨_, .file⟩ | .ok ⟨_, .program _⟩ => .error .exists
        | .ok _ => .ok (creating .writing)
        | .error _ => .ok { anew with fresh := true }

def openPath (direction : Direction) (path : ByteText) : Run Int := do
  let shell ← get
  match shell.console.free? 0 with
  | none => unopened direction path .tooManyOpen
  | some fd =>
      let opened := do
        let opening ← opening shell direction path
        shell.console.openPath .shell path.bytes opening
      match opened with
      | .ok (target, console) =>
          set { shell with console := console.attach fd target }
          return fd
      | .error fault => unopened direction path fault

def layPipe : Run (Pipe × Int × Int) := do
  let shell ← get
  let (pipe, machine) := shell.console.machine.pipe
  let failure : Run (Pipe × Int × Int) := Run.abort (Run.text "Pipe call failed")
  match shell.console.free? 0 with
  | none => failure
  | some reader =>
      let console := { shell.console with machine }.attach reader (.pipe pipe .reading)
      match console.free? 0 with
      | none => failure
      | some writer =>
          set { shell with console := console.attach writer (.pipe pipe .writing) }
          return (pipe, reader, writer)

def openDocument (word : Word) : Run Int := do
  let (_, reader, writer) ← layPipe
  let text ← Expansion.document capture word
  Run.tell writer text
  Run.changeConsole (·.detach writer)
  return reader

def reserved : Int := 10

def moveAway (fd : Int) : Run (Option Int) := do
  let console := (← get).console
  match console.target? fd with
  | none => return none
  | some target =>
      Run.changeConsole (·.detach fd)
      match console.free? reserved with
      | some number =>
          Run.changeConsole (·.attachHidden number target)
          return some number
      | none =>
          let fault : SystemFault :=
            if console.process.limit ≤ reserved then .invalid else .tooManyOpen
          Run.abort (ByteText.ofInt fd ++ Run.text (": " ++ fault.reason))

/-- Let what a descriptor refers to come back when the innermost redirections end. A descriptor that
was opened in its own place was closed before. -/
def keep (fd : Int) (opened : Option Int) : Run Unit := do
  match (← get).kept with
  | kept :: _ =>
      if kept.all (·.1 ≠ fd) then
        let place ← if opened = some fd then pure none else moveAway fd
        modify fun shell =>
          match shell.kept with
          | kept :: rest => { shell with kept := ((fd, place) :: kept) :: rest }
          | [] => shell
  | [] => return

def copy (fd source : Int) : Run Unit := do
  let console := (← get).console
  match console.target? source with
  | some target =>
      if fd < console.process.limit then Run.changeConsole (·.attach fd target) else bad
  | none => bad
where
  bad : Run Unit :=
    Run.abort (ByteText.ofInt source ++ Run.text (": " ++ SystemFault.badDescriptor.reason))

def settle (fd opened : Int) : Run Unit := do
  -- Out of reach the descriptor gets nothing.
  if opened ≠ fd then
    Run.changeConsole fun console =>
      let console := match console.target? opened with
        | some target =>
            if fd < console.process.limit then console.attach fd target else console
        | none => console
      console.detach opened

def perform (temporary : Bool) (fd : Int) (aim : Aim) : Run Unit := do
  let keep (opened : Option Int) : Run Unit := if temporary then keep fd opened else pure ()
  match aim with
  | .copy (some source) =>
      if source ≠ fd then
        keep (some source)
        copy fd source
  | .copy none =>
      keep none
      Run.changeConsole (·.detach fd)
  | .path direction path =>
      let opened ← openPath direction path
      keep (some opened)
      settle fd opened
  | .document word =>
      let opened ← openDocument capture word
      keep (some opened)
      settle fd opened

def aims (redirections : List Redirection) : Run (List (Int × Aim)) :=
  redirections.mapM (aim capture)

/-- Carry out redirections for good. -/
def performAll (aims : List (Int × Aim)) : Run Unit :=
  aims.forM fun (fd, aim) => perform capture false fd aim

def enter (aims : List (Int × Aim)) : Run Bool := do
  if aims.isEmpty then return true
  else
    modify fun shell => { shell with kept := [] :: shell.kept }
    fun shell =>
      match (aims.forM fun (fd, aim) => perform capture true fd aim).run shell with
      | (.ok (), shell) => (.ok true, shell)
      | (.error .fault, shell) => (.ok false, { shell with status := 2 })
      | (.error halt, shell) => (.error halt, shell)

def traceStream (shell : Shell) (redirected : Bool) : Int :=
  match redirected, shell.kept with
  | true, kept :: _ => ((kept.lookup Console.errorStream).join).getD Console.errorStream
  | _, _ => Console.errorStream

def leave (redirected lasting : Bool) : Run Unit :=
  if redirected then modify (Run.undoRedirections lasting) else pure ()

end DescriptorReaper.Shell.Redirect
