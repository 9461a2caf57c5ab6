import DescriptorReaper.Shell.Builtin
import DescriptorReaper.Shell.Redirect

/-!
The shell: commands are run in order, their redirections hold as long as they run, and the programs
among them run as processes of their own. What a command may consist of is run by the same rules, so
that every rule is given the rules as an argument, and they are tied together at the end. A script
that nests too deep or goes round too often is taken never to end by itself.
-/

namespace DescriptorReaper.Shell

open Script (Command Redirection Word)

structure Manner where
  tested : Bool := false
  last : Bool := false

/-- The rules by which commands are run. -/
structure Rules where
  evaluate : Manner → Command → Run Unit
  goOn : Run Unit
  prompt : String → Run ByteText

def blockSize : Nat := 8192

def respite : Nat := 5000

def brief : Nat := 300000

def endless : Halt := .gone (.killed Signal.pipe)

def mostCalls : Nat := 1000

def deepest : Nat := 60000

def bottomless : Halt := .gone (.killed 11)

section Rules

variable (spawn : Spawn) (rules : Rules)

def tellPrompt (name : String) : Run Unit := do
  Run.tell Console.errorStream (← rules.prompt name)

def showSights (seen : List Script.Sight) : Run Unit :=
  seen.reverse.forM fun
    | .line text => do
        if (← get).has 'v' then Run.tell Console.errorStream text
    | .more => tellPrompt rules "PS2"

def mostRefusals : Nat := 50

def goesOnAtEnd (refusals : Nat) : Run Bool := do
  let shell ← get
  if refusals = 0 then return false
  else if shell.has 'I' then
    Run.tell Console.errorStream (Run.text "\nUse \"exit\" to leave shell.\n")
    return true
  else
    if shell.has 'i' then Run.tell Console.errorStream Run.newline
    return false

def block? (fd : Int) : Run (Option Bytes) := do
  let shell ← get
  match shell.console.get fd blockSize with
  | .ok ([], _) | .error _ => return none
  | .ok (bytes, console) =>
      set { shell with console }
      return some bytes

def noteMain (input : Script.Input) : Run Unit :=
  modify fun shell => { shell with unread := input.strands, mainLine := input.line }

def nextLine (isMain : Bool) (source : Option Int) :
    Nat → Script.Input → Run (Option Command × Script.Input)
  -- If more of the script is looked for than is at hand, the line is read again with the next
  -- block.
  | 0, _ => throw endless
  | count + 1, input => do
      let outcome := Script.Reading.line?.run { input with isDry := false }
      let reached := match outcome with
        | .ok (_, input) => input
        | .error fault => fault.input
      let more ← match source with
        | some fd => if reached.isDry then block? fd else pure none
        | none => pure none
      match more, outcome with
      | some bytes, _ =>
          nextLine isMain source count (input.extend (ByteText.ofBytes (bytes.filter (· ≠ 0))))
      | none, outcome =>
          showSights rules reached.seen
          if isMain then noteMain reached
          match outcome with
          | .ok (command, input) => return (command, input)
          | .error fault =>
              modify fun shell => { shell with line := fault.line }
              Run.abort fault.complaint.toList

def lines (manner : Manner) (isMain : Bool) (source : Option Int) (refusals : Nat) :
    Nat → Nat → Script.Input → Run Nat
  | 0, status, _ => return status
  | count + 1, status, input => do
      modify fun shell => { shell with isAtEnd := false, isAskDue := false }
      let asks := isMain && (← get).has 'i'
      if asks then tellPrompt rules "PS1"
      let shell ← get
      let input := { input with
        aliases := shell.aliases, documents := [], documentCount := shell.documentCount, seen := []
        asks, isAskDue := false }
      match ← nextLine rules isMain source Script.Reading.plenty input with
      | (none, input) =>
          modify fun shell => { shell with isAtEnd := true }
          if isMain then
            if ← goesOnAtEnd refusals then
              lines manner isMain source (refusals - 1) count status input
            else return status
          else return status
      | (some command, input) =>
          modify fun shell => { shell with
            readLine := input.line
            isAtEnd := input.isHeld
            isAskDue := input.isAskDue
            documents := input.documents ++ shell.documents
            documentCount := input.documentCount }
          rules.evaluate manner command
          let shell ← get
          let status := match command with
            | .nothing => status
            | _ => shell.status
          if shell.skip.isSome then return status
          else lines manner isMain source mostRefusals count status input

def obey (manner : Manner) (isMain : Bool) (source : Option Int) (input : Script.Input) : Run Nat := do
  let before := (← get).readLine
  Run.always (fun shell => { shell with readLine := before })
    (lines rules manner isMain source mostRefusals Script.Reading.plenty 0 input)

def obeyText (manner : Manner) (text : ByteText) : Run Nat :=
  obey rules manner false none { strands := [{ text }] }

def act (text : ByteText) : Run Unit := do
  let _ ← obeyText rules {} text

def apart (number : Nat) (prepare : Shell → Shell) (work : Run Unit) : Run Ending :=
  Run.apart (act rules) number prepare work

def capture : Command → Run ByteText
  | .nothing => return []
  | command => do
      let (pipe, reader, writer) ← Redirect.layPipe
      Run.changeConsole (·.detach writer)
      rules.goOn
      Run.makeRoom
      let prepare (shell : Shell) : Shell :=
        let console := shell.console.detach reader
        { shell with console := console.attach Console.outputStream (.pipe pipe .writing) }
      let ending ← apart rules (← Run.nextNumber) prepare (rules.evaluate { last := true } command)
      rules.goOn
      let printed := (← get).console.received pipe
      Run.changeConsole fun console =>
        { console.detach reader with machine := console.machine.drain pipe }
      let outputStatus ← Run.await [ending]
      modify fun shell => { shell with outputStatus }
      return ByteText.ofBytes printed

def fieldsOf (word : Word) : Run (List ByteText) := Expansion.fields (capture rules) word

def redirected (manner : Manner) (line : Nat) (redirections : List Redirection) (body : Run Unit) :
    Run Unit := do
  modify fun shell => { shell with line }
  let aims ← Redirect.aims (capture rules) redirections
  let isRedirected := !redirections.isEmpty
  if ← Redirect.enter (capture rules) aims then
    body
    Redirect.leave isRedirected false
  else
    Redirect.leave isRedirected false
    Run.actAll (act rules)
    let shell ← get
    if shell.has 'e' && !manner.tested && shell.status ≠ 0 then throw .over

def subshell (manner : Manner) (line : Nat) (body : Command) (redirections : List Redirection) :
    Run Unit := do
  -- A process that would end with the command is that process already, unless it has actions left
  -- to take.
  modify fun shell => { shell with line }
  let aims ← Redirect.aims (capture rules) redirections
  let work : Run Unit := do
    Redirect.performAll (capture rules) aims
    rules.evaluate { manner with last := true } body
  if manner.last && !Run.hasTraps (← get) then work
  else
    rules.goOn
    Run.makeRoom
    let ending ← apart rules (← Run.nextNumber) id work
    Run.setStatus (← Run.await [ending])

def detached (shell : Shell) : Shell :=
  let typed := [Signal.interrupt, Signal.quit]
  { shell with
    deaf := typed ++ shell.deaf
    patience := min brief shell.patience
    console := { shell.console with ignored := typed ++ shell.console.ignored } }

def withoutInput (shell : Shell) : Shell :=
  let (target, console) := shell.console.openPlace Target.nullPlace .reading
  { shell with console := console.attach Console.inputStream target }

def lookUp : Command → Run Unit
  | .simple _ _ (word :: _) _ => do
      let shell ← get
      match Word.bare? word with
      | some name =>
          let text := String.ofList name
          if ByteText.isName name && !Search.isBuiltin text &&
              (shell.functions.lookup text).isNone then
            let _ ← Search.find none name
      | none => return
  | _ => return

def hasRoom (console : Console) : Nat → Bool
  | 0 => true
  | count + 1 =>
      match console.free? 0 with
      | some fd => hasRoom (console.attach fd (.pipe .output .reading)) count
      | none => false

/-- Run commands as processes, which have numbers, and each of which reads what the one before it
writes. -/
def stages (isDetached tested : Bool) : Option Pipe → List (Nat × Command) → Run (List Ending)
  | _, [] => return []
  | source, (number, command) :: rest => do
      lookUp command
      let console := (← get).console
      let (pipe, machine) := console.machine.pipe
      let needed := if source.isSome then 3 else 2
      if !rest.isEmpty && !hasRoom console needed then Run.abort (Run.text "Pipe call failed")
      let machine := machine.redeem source.toList
      Run.changeConsole ({ · with
        machine := if rest.isEmpty then machine else machine.promise [pipe] })
      let prepare (shell : Shell) : Shell :=
        let shell := if isDetached then detached shell else shell
        let shell := if isDetached && source.isNone then withoutInput shell else shell
        let console := match source with
          | some source => shell.console.attach Console.inputStream (.pipe source .reading)
          | none => shell.console
        if rest.isEmpty then { shell with console }
        else
          { shell with
            patience := min brief shell.patience
            console := console.attach Console.outputStream (.pipe pipe .writing) }
      let ending ← apart rules number prepare (rules.evaluate { tested, last := true } command)
      rules.goOn
      let drained (source : Pipe) : Run Unit :=
        Run.changeConsole fun console =>
          { console with machine := console.machine.drain source }
      source.forM drained
      return ending :: (← stages isDetached tested (some pipe) rest)

def numbered (commands : List Command) : Run (List (Nat × Command)) :=
  commands.mapM fun command => return (← Run.nextNumber, command)

def pipeline (manner : Manner) (commands : List Command) : Run Unit := do
  rules.goOn
  Run.makeRoom
  let endings ← stages rules false manner.tested none (← numbered commands)
  Run.setStatus (← Run.await endings)

def background (command : Command) : Run Unit := do
  let alone (aims : List (Int × Aim)) (body : Command) : Run Unit := do
    Run.addJob [← Run.nextNumber] (.alone aims body)
  match command with
  | .piped commands =>
      let numbers := (← numbered commands).map Prod.fst
      Run.addJob numbers (.piped commands)
  | .redirected line body redirections =>
      modify fun shell => { shell with line }
      alone (← Redirect.aims (capture rules) redirections) body
  | command => alone [] command
  Run.setStatus 0

def work (numbers : List Nat) : Task → Run (List Ending)
  | .alone aims body => do
      let prepare (shell : Shell) : Shell := withoutInput (detached shell)
      let endings ← numbers.mapM fun number =>
        apart rules number prepare do
          Redirect.performAll (capture rules) aims
          rules.evaluate { last := true } body
      rules.goOn
      return endings
  | .piped commands => stages rules true false none (numbers.zip commands)

def begin (job : Job Shell) : Run (List Ending) := do
  match job.progress with
  | .ended endings => return endings
  | .starting start task =>
      let shared := (← get).console.machine.redeem (Run.sourcesOf job)
      let console := { start.console with machine := shared }
      let (result, after) := (work rules job.processes task).run { start with console }
      Run.changeConsole fun console => { console with machine := after.console.machine }
      match result with
      | .ok endings => return endings
      | .error _ => return []

def advance : Run Unit := do
  let left := (← get).left
  modify fun shell => { shell with left := [] }
  left.forM fun job => do
    let _ ← begin rules job
  (← get).jobs.reverse.forM fun job => do
    let endings ← begin rules job
    let finish (other : Job Shell) : Job Shell :=
      if other.number = job.number then { other with progress := .ended endings } else other
    modify fun shell => { shell with jobs := shell.jobs.map finish }

inductive Onward where
  | on
  | again
  | out
  | away
  deriving DecidableEq

def onward : Run Onward := do
  let shell ← get
  let go (skip : Option Skip) (onward : Onward) : Run Onward := do
    set { shell with skip }
    return onward
  match shell.skip with
  | none => return .on
  | some (.returning _) => return .away
  | some (.breaking (count + 2)) => go (some (.breaking (count + 1))) .out
  | some (.continuing (count + 2)) => go (some (.continuing (count + 1))) .out
  | some (.breaking _) => go none .out
  | some (.continuing _) => go none .again

def rest : Run Unit := do
  let shell ← get
  if shell.jobs.any Run.isStarting || !shell.left.isEmpty then
    rules.goOn
    Run.resume true

def rounds (manner : Manner) (wanted : Bool) (condition body : Command) : Nat → Nat → Run Nat
  | 0, _ => throw endless
  | count + 1, status => do
      if (count + 1) % respite = 0 then rest rules
      if (← get).patience = 0 then throw endless
      modify fun shell => { shell with patience := shell.patience - 1 }
      rules.evaluate { tested := true } condition
      let judged := (← get).status
      match ← onward with
      | .away => return judged
      | .out => return status
      | .again => rounds manner wanted condition body count status
      | .on =>
          if (judged = 0) ≠ wanted then return status
          else
            rules.evaluate { tested := manner.tested } body
            let status := (← get).status
            match ← onward with
            | .on | .again => rounds manner wanted condition body count status
            | .out | .away => return status

def turns (manner : Manner) (name : String) (body : Command) : Nat → List ByteText → Run Nat
  | status, [] => return status
  | _, field :: rest => do
      Run.assign name field
      rules.evaluate { tested := manner.tested } body
      let status := (← get).status
      match ← onward with
      | .on | .again => turns manner name body status rest
      | .out | .away => return status

def looping (work : Run Nat) : Run Unit := do
  modify fun shell => { shell with loops := shell.loops + 1 }
  let status ← work
  modify fun shell => { shell with loops := shell.loops - 1, status }

def chosen (text : ByteText) : List (List Word × Command) → Run (Option Command)
  | [] => return none
  | (patterns, command) :: rest => do
      let hit ← patterns.anyM fun pattern =>
        return Pattern.accepts (← Expansion.pattern (capture rules) pattern) text
      if hit then return some command else chosen text rest

def call (manner : Manner) (body : Command) (arguments : List ByteText) : Run Nat := do
  let before ← get
  set { before with calls := before.calls + 1 }
  if mostCalls ≤ before.calls then
    Run.abort (Run.text "Maximum function recursion depth (" ++ ByteText.ofInt mostCalls ++
      Run.text ") reached")
  let leave (shell : Shell) : Shell :=
    { shell with
      arguments := before.arguments, position := before.position, loops := before.loops
      calls := shell.calls - 1
      skip := match shell.skip with
        | some (.returning _) => none
        | skip => skip }
  modify fun shell => { shell with arguments, position := {}, loops := 0 }
  Run.always leave (rules.evaluate { tested := manner.tested } body)
  return (← get).status

def openScript (path : ByteText) : Run Int := do
  let fd ← Redirect.openPath .read path
  let place ← if fd < Redirect.reserved then Redirect.moveAway fd else pure (some fd)
  let place := place.getD fd
  modify fun shell => { shell with sources := place :: shell.sources }
  return place

def runFile (isNamed : Bool) (path : ByteText) : Run Nat := do
  let place ← openScript path
  if isNamed then modify fun shell => { shell with within := some path }
  let status ← obey rules {} false (some place) .ofFile
  modify fun shell =>
    { shell with
      console := (shell.sources.take 1).foldl Console.detach shell.console
      sources := shell.sources.drop 1
      skip := match shell.skip with
        | some (.returning _) => none
        | skip => skip }
  return status

def dot (arguments : List ByteText) : Run Nat := do
  match ← Choices.afterMark arguments with
  | [] => return 0
  | name :: _ =>
      let shell ← get
      let view := shell.view
      let stands (path : Bytes) : Bool :=
        match view.resolve path with
        | .ok ⟨_, .file⟩ | .ok ⟨_, .program _⟩ => true
        | _ => false
      let parts := Installation.searchParts (Search.searchPath shell).bytes
      let path ←
        if name.contains '/' then pure name
        else
          match (parts.map (Installation.nameIn · name.bytes)).find? stands with
          | some path => pure (ByteText.ofBytes path)
          | none => Run.abort (name ++ Run.text ": not found")
      runFile rules true path

def isStartable (shell : Shell) (path : ByteText) (arguments : List ByteText) : Bool :=
  let definitions := shell.environment.map fun (name, value) => Utf8.encode name ++ 61 :: value
  Bounds.admits (shell.console.boundsOf .stack).soft path.bytes
    (arguments.map ByteText.bytes ++ definitions)

def become (arguments : List ByteText) : Run Nat := do
  match arguments with
  | [] => return 0
  | name :: arguments =>
      let shell ← get
      let found :=
        if name.contains '/' then
          (Installation.runnable (shell.view.resolve name.bytes)).map fun program => (name, program)
        else Search.program shell.view (Search.searchPath shell) name
      let failure (fault : SystemFault) : Run Nat := do
        Search.complain name fault
        Run.setStatus (Search.status fault)
        throw .over
      match found with
      | .ok (path, program) =>
          if isStartable shell path (name :: arguments) then
            rules.goOn
            Run.launch spawn true program name arguments
          else failure .argumentsTooLong
      | .error fault => failure fault

def external (manner : Manner) (search : Option ByteText) (name : ByteText)
    (arguments : List ByteText) : Run Nat := do
  -- A process that ends with the program becomes it, unless it has actions left to take.
  let shell ← get
  let inPlace := manner.last && !Run.hasTraps shell
  let failure (fault : SystemFault) : Run Nat := do
    Search.complain name fault
    let status := Search.status fault
    if inPlace then
      Run.setStatus status
      throw .over
    else
      Run.makeRoom
      Run.await [.exited status]
  let launch (path : ByteText) (program : Program) : Run Nat := do
    rules.goOn
    if isStartable (← get) path (name :: arguments) then
      Run.launch spawn inPlace program name arguments
    else failure .argumentsTooLong
  if name.contains '/' then
    match Installation.runnable (shell.view.resolve name.bytes) with
    | .ok program => launch name program
    | .error fault =>
        rules.goOn
        failure fault
  else
    match ← Search.find search name with
    | .ok (path, program) => launch path program
    | .error fault =>
        Search.complain name fault
        return 127

def builtin (manner : Manner) (name : String) (arguments : List ByteText) : Run Nat :=
  match name with
  | "eval" =>
      if arguments.isEmpty then return 0
      else obeyText rules { tested := manner.tested } (ByteText.joined [' '] arguments)
  | "." => dot rules arguments
  | "exec" => become spawn rules arguments
  | "wait" => do
      if (← get).jobs.any Run.isStarting then rules.goOn
      Jobs.wait arguments
  | name =>
      match Builtin.named? name with
      | some run => run arguments
      | none => return 0

def runBuiltin (isSpecial : Bool) (name : ByteText) (work : Run Nat) : Run Nat := fun shell =>
  -- Unless the command is special, a fault is its status.
  let (result, after) := work.run { shell with within := some name }
  let (flushed, after) := Run.flush.run after
  let (result, after) : Except Halt Nat × Shell := match flushed, result with
    | .error halt, _ => (.error halt, after)
    | .ok true, .ok status => (.ok status, after)
    | .ok false, .ok status =>
        let complaint := name ++ Run.text ": I/O error"
        (.ok (status ||| 1), (Run.complain complaint |>.run after).2)
    | .ok _, .error .fault =>
        if isSpecial then (.error .fault, after) else (.ok after.status, after)
    | .ok _, .error halt => (.error halt, after)
  (result, { after with within := shell.within })

inductive Callee where
  | builtin (name : String)
  | function (body : Command)
  | program

def callee (shell : Shell) (plainly : Bool) (name : ByteText) : Callee :=
  let text := String.ofList name
  if name.contains '/' then .program
  else
    match if plainly then none else shell.functions.lookup text with
    | some body => .function body
    | none => if Search.isBuiltin text then .builtin text else .program

structure Gathered where
  fields : List ByteText
  words : List Word

def gather (count : Nat) : List ByteText → List Word → Run Gathered
  | fields, [] => return ⟨fields, []⟩
  | fields, word :: rest => do
      if count ≤ fields.length then return ⟨fields, word :: rest⟩
      else gather count (fields ++ (← fieldsOf rules word)) rest

def pastOptions : Nat → Nat → Option ByteText → Gathered →
    Run (Option (Nat × Option ByteText) × Gathered)
  | 0, _, _, gathered => return (none, gathered)
  | count + 1, index, search, gathered => do
      let gathered ← gather rules (index + 1) gathered.fields gathered.words
      match gathered.fields[index]? with
      | none => return (none, gathered)
      | some ['-', '-'] =>
          let gathered ← gather rules (index + 2) gathered.fields gathered.words
          if index + 1 < gathered.fields.length then return (some (index + 1, search), gathered)
          else return (none, gathered)
      | some ('-' :: first :: letters) =>
          if (first :: letters).all (· = 'p') then
            pastOptions count (index + 1) (some Search.usual) gathered
          else return (none, gathered)
      | some _ => return (some (index, search), gathered)

structure Call where
  callee : Callee
  fields : List ByteText
  start : Nat
  search : Option ByteText
  words : List Word

def resolved : Nat → Nat → Option ByteText → Gathered → Run Call
  | 0, start, search, gathered => return ⟨.program, gathered.fields, start, search, gathered.words⟩
  | count + 1, start, search, gathered => do
      let found := callee (← get) (0 < start) (gathered.fields[start]?.getD [])
      match found with
      | .builtin "command" =>
          let (next, gathered) ←
            pastOptions rules Script.Reading.plenty (start + 1) search gathered
          match next with
          | some (start, search) => resolved count start search gathered
          | none => return ⟨found, gathered.fields, start, search, gathered.words⟩
      | _ => return ⟨found, gathered.fields, start, search, gathered.words⟩

def argumentFields (assigns : Bool) (word : Word) : Run (List ByteText) := do
  match if assigns then Word.assignment? word else none with
  | some (name, value) =>
      return [name.toList ++ '=' :: (← Expansion.assigned (capture rules) value)]
  | none => fieldsOf rules word

def trace (stream : Int) (shown : List ByteText) : Run Unit := do
  let shell ← get
  if shell.has 'x' && !shell.isTracing then
    set { shell with isTracing := true }
    let start ← rules.prompt "PS4"
    modify fun shell => { shell with isTracing := false }
    Run.tell stream (start ++ ByteText.joined [' '] shown ++ Run.newline)

def assignAll (locally exported : Bool) (assignments : List (String × Word)) :
    Run (List ByteText) :=
  assignments.mapM fun (name, word) => do
    let value ← Expansion.assigned (capture rules) word
    if locally then
      Run.makeLocal name
      Run.assignMarked name value true false
    else Run.assignMarked name value exported false
    return name.toList ++ '=' :: value

def lastArgument : String := "_"

/-- Run a simple command: words first, then redirections, then assignments. A shell that asks for
commands remembers the last argument afterwards. -/
def simple (manner : Manner) (line : Nat) (assignments : List (String × Word))
    (words : List Word) (redirections : List Redirection) : Run Unit := do
  modify fun shell => { shell with line, outputStatus := 0 }
  let gathered ← gather rules 1 [] words
  let first := callee (← get) false (gathered.fields.headD [])
  let isSpecial : Bool := match first with
    | .builtin name => !gathered.fields.isEmpty && Search.special.contains name
    | _ => false
  let call ← resolved rules (words.length + 1) 0 none gathered
  let assigns := match call.callee with
    | .builtin name => Search.assigning.contains name
    | _ => false
  let others ← call.words.mapM (argumentFields rules assigns)
  let fields := call.fields ++ others.flatten
  let own := fields.drop call.start
  let isExec := match call.callee with
    | .builtin "exec" => true
    | _ => false
  let before ← get
  let remembered := if before.has 'i' && before.calls = 0 then fields.getLast? else none
  let locally := !fields.isEmpty && !isSpecial
  if locally then modify fun shell => { shell with frames := {} :: shell.frames }
  let isRedirected := !redirections.isEmpty
  let aims ← Redirect.aims (capture rules) redirections
  let entered ← Redirect.enter (capture rules) aims
  let status ←
    if !entered then
      if isSpecial then throw .fault
      pure 2
    else
      let given ← assignAll rules locally (isExec && 1 < own.length) assignments
      trace rules (Redirect.traceStream (← get) isRedirected) (given ++ fields)
      match own with
      | [] => pure (← get).outputStatus
      | name :: arguments =>
          match call.callee with
          | .builtin text => runBuiltin isSpecial name (builtin spawn rules manner text arguments)
          | .function body => call' body arguments
          | .program => external spawn rules manner call.search name arguments
  let after ← get
  let inner := after.kept.length - before.kept.length - (if isRedirected then 1 else 0)
  modify (Run.undoAll · inner)
  Redirect.leave isRedirected isExec
  Run.leave (after.frames.length - before.frames.length)
  remembered.forM (Run.assign lastArgument)
  Run.setStatus status
where
  call' (body : Command) (arguments : List ByteText) : Run Nat :=
    call rules manner body arguments

def isFatal : Command → Bool
  | .simple _ _ _ _ | .piped _ | .subshell _ _ _ => true
  | _ => false

def perform (manner : Manner) : Command → Run Unit
  | .nothing => return
  | .simple line assignments words redirections =>
      simple spawn rules manner line assignments words redirections
  | .negated command => do
      rules.evaluate { tested := true } command
      Run.setStatus (if (← get).status = 0 then 1 else 0)
  | .piped commands => pipeline rules manner commands
  | .both first second => do
      rules.evaluate { tested := true } first
      let shell ← get
      if shell.status = 0 && shell.skip.isNone then rules.evaluate manner second
  | .either first second => do
      rules.evaluate { tested := true } first
      let shell ← get
      if shell.status ≠ 0 && shell.skip.isNone then rules.evaluate manner second
  | .sequence first second => do
      rules.evaluate { tested := manner.tested } first
      if (← get).skip.isNone then rules.evaluate manner second
  | .background command => background rules command
  | .subshell line body redirections => subshell rules manner line body redirections
  | .redirected line body redirections =>
      redirected rules manner line redirections (rules.evaluate { tested := manner.tested } body)
  | .branch condition consequence alternative => do
      rules.evaluate { tested := true } condition
      let shell ← get
      if shell.skip.isNone then
        if shell.status = 0 then rules.evaluate manner consequence
        else
          match alternative with
          | .nothing => Run.setStatus 0
          | alternative => rules.evaluate manner alternative
  | .loop wanted condition body =>
      looping do rounds rules manner wanted condition body (← get).patience 0
  | .each line name words body => do
      modify fun shell => { shell with line }
      let fields ← words.mapM (fieldsOf rules)
      looping (turns rules manner name body 0 fields.flatten)
  | .select line word cases => do
      modify fun shell => { shell with line }
      let text ← Expansion.whole (capture rules) word
      match ← chosen rules text cases with
      | none | some .nothing => Run.setStatus 0
      | some command => rules.evaluate manner command
  | .define name body => do
      modify fun shell => { shell with
        functions := (name, body) :: shell.functions.filter (·.1 ≠ name), status := 0 }

end Rules

/-- Run a command and what signals set off around it. -/
def evaluate (spawn : Spawn) (within : Rules) (manner : Manner) (command : Command) : Run Unit := do
  Run.actAll (act within)
  if ¬ (← get).has 'n' then perform spawn within manner command
  Run.actAll (act within)
  let shell ← get
  if shell.has 'e' && isFatal command && !manner.tested && shell.status ≠ 0 then throw .over
  if manner.last then throw .over

def promptOf (within : Rules) (name : String) : Run ByteText := fun shell =>
  -- If the script at hand was read to its end, a script in the value takes that for its own end.
  let value := (shell.value? name).getD []
  let input : Script.Input :=
    { strands := [{ text := value }]
      isHeld := shell.isAtEnd, token := .finish, isAskDue := shell.isAskDue }
  let work : Run ByteText :=
    match Script.Reading.prompt.run input with
    | .error fault => do
        modify fun shell => { shell with
          line := fault.line, isAtEnd := false, isAskDue := fault.input.isAskDue }
        showSights within fault.input.seen
        Run.abort fault.complaint.toList
    | .ok (word, input) => do
        modify fun shell => { shell with isAtEnd := input.isHeld, isAskDue := input.isAskDue }
        showSights within input.seen
        Expansion.document (capture within) word
  match work.run shell with
  | (.error .fault, shell) => (.ok value, shell)
  | outcome => outcome

/-- The rules for commands that nest so deep. -/
def rules (spawn : Spawn) : Nat → Rules
  | 0 => { evaluate := fun _ _ => throw bottomless, goOn := return, prompt := fun _ => return [] }
  | depth + 1 =>
      { evaluate := fun manner command shell => evaluate spawn (rules spawn depth) manner command shell
        goOn := fun shell => advance (rules spawn depth) shell
        prompt := fun name shell => promptOf (rules spawn depth) name shell }

def initial (value : ByteText) : Variable := { value := some value }

def startingDirectory (console : Console) : ByteText :=
  let actual := ByteText.ofString (Place.path console.directory)
  match console.environment.lookup "PWD" with
  | some told =>
      let isTrue : Bool := told.head? = some 47 &&
        match (console.view .shell).resolve told with
        | .ok ⟨place, .directory⟩ => place = console.directory
        | _ => false
      if isTrue then ByteText.ofBytes told else actual
  | none => actual

def fresh (console : Console) (name : ByteText) : Shell :=
  let given := console.environment.filter fun (name, _) => ByteText.isName name.toList
  let bindings := given.map fun (name, value) =>
    (name, { value := some (ByteText.ofBytes value), exported := true : Variable })
  let directory := startingDirectory console
  let own : List (String × ByteText) :=
    [("IFS", usualCuts), ("OPTIND", ['1']), ("PPID", ByteText.ofInt console.parent),
     ("PS1", Run.text "# "), ("PS2", Run.text "> "), ("PS4", Run.text "+ ")]
  let shell : Shell :=
    { console, name, bindings, directory, number := console.number, deaf := console.ignored }
  let shell := own.foldl
    (fun shell (name, value) =>
      let isPrompt : Bool := name.startsWith "PS"
      match shell.bindings.lookup name with
      | some entry =>
          if isPrompt then shell else shell.setVariable name { entry with value := some value }
      | none => shell.setVariable name (initial value))
    shell
  shell.setVariable "PWD" { value := some directory, exported := true }

def runMain (rules : Rules) (place : Int) : Run Unit := do
  let shell ← get
  let input : Script.Input := { Script.Input.ofFile with line := shell.mainLine }
  let input := if shell.unread.isEmpty then input else { input with strands := shell.unread }
  let _ ← obey rules {} true (some place) input

def afterFault (strands : List Script.Strand) : List Script.Strand :=
  -- The strand that is being read is dropped, and so is all that is at hand of a file after its
  -- line.
  (strands.drop 1).map fun strand =>
    if strand.isFile then { strand with text := Script.Reading.firstLine strand.text } else strand

def recovered (sources : List Int) (shell : Shell) : Shell :=
  let shell := Run.undoAll shell shell.kept.length
  let others := shell.sources.filter (!sources.contains ·)
  leaveAll (shell.frames.length + 1) { shell with
    console := others.foldl Console.detach shell.console
    unread := afterFault shell.unread
    sources, skip := none, loops := 0, within := none, saved := none, isTracing := false }
where
  leaveAll : Nat → Shell → Shell
    | 0, shell => shell
    | count + 1, shell =>
        match (Run.leave shell.frames.length).run shell with
        | (.ok (), shell) => shell
        | (.error _, shell) => leaveAll count shell

def mostFaults : Nat := 1000

/-- A shell that asks for commands goes on with other work after a fault. The count bounds the
faults. -/
def surviving (others : Run Unit) : Nat → Run Unit → Run Unit
  | 0, _ => throw endless
  | count + 1, work => fun shell =>
      let goOn (after : Shell) (more : Run Unit) : Except Halt Unit × Shell :=
        (surviving others count (more *> others)).run (recovered shell.sources after)
      match work.run shell with
      | (.error .fault, after) =>
          if after.isAsking then goOn after (return) else (.error .fault, after)
      | (.error .interrupted, after) => goOn after (Run.tell Console.errorStream Run.newline)
      | outcome => outcome

def prepare (rules : Rules) : Run Unit := do
  let shell ← get
  if shell.has 'i' && (shell.value? "ENV").any (!·.isEmpty) then
    let path ← rules.prompt "ENV"
    match shell.view.resolve path.bytes with
    | .ok _ =>
        let _ ← runFile rules false path
    | .error _ => return

def settle (arguments : List ByteText) : Run Variables.Setting := fun shell =>
  -- What has been shown of the options is written in any case.
  let unsaid := Variables.options.map Prod.snd
  let (result, after) :=
    (Variables.obey true (arguments.length + 1) arguments).run { shell with unsaid }
  let (_, after) := Run.flush.run after
  let options := if after.unsaid.contains 'm' && after.has 'i' then ['m'] else []
  (result, { after with unsaid := [], options := options ++ after.options })

def proceed (spawn : Spawn) (arguments : List ByteText) : Run Unit := do
  let rules := rules spawn deepest
  let setting ← settle arguments
  let isGiven := setting.chosen.contains 'c'
  let takeArguments (rest : List ByteText) : Run Unit :=
    modify fun shell => { shell with
      name := rest.headD shell.name, arguments := rest.drop 1 }
  let runInput : Run Unit := runMain rules Console.inputStream
  let surviving (others work : Run Unit) : Run Unit := do
    Variables.refuseJobs
    surviving others mostFaults (prepare rules *> work)
  match setting.rest with
  | [] =>
      if isGiven then Run.abort (Run.text "-c requires an argument")
      Variables.turn true 's'
      surviving runInput runInput
  | first :: rest =>
      if isGiven then
        takeArguments rest
        surviving runInput do
          act rules first
          let shell ← get
          if shell.has 's' && shell.skip.isNone then runInput
      else if (← get).has 's' then
        modify fun shell => { shell with arguments := setting.rest }
        surviving runInput runInput
      else
        let place ← openScript first
        takeArguments setting.rest
        surviving (runMain rules place) (runMain rules place)

/-- Run a shell to its end. -/
def start (spawn : Spawn) (name : Bytes) (arguments : List Bytes) (console : Console) :
    Ending × Console :=
  let shell := fresh console (ByteText.ofBytes name)
  let rules := rules spawn deepest
  let (ending, shell) :=
    Run.ending (act rules) (proceed spawn (arguments.map ByteText.ofBytes)) shell
  (ending, (rules.goOn.run shell).2.console)

end DescriptorReaper.Shell
