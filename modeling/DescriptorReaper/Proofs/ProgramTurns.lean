import DescriptorReaper.Program
import DescriptorReaper.Proofs.ConsoleStreams
import DescriptorReaper.Proofs.InstalledPaths
import DescriptorReaper.Proofs.OptionReading

/-!
What single programs do in a process that is ready for them. The closing program closes, and then
either prints what it left open or leaves the process to another program, which finds it ready
again. The listing program only prints.
-/

namespace DescriptorReaper

/-- The verbosity has no say in whether there is a filter. -/
theorem LogFilter.choose_isSome (environment : Option Bytes) (first second : Nat) :
    (choose environment first).isSome = (choose environment second).isSome := by
  unfold choose
  split
  · rfl
  · split
    · rfl
    · split <;> rfl

namespace Bounds

theorem total_le_of_sublist {parts texts : List (List UInt8)} (within : parts.Sublist texts)
    {part whole : Nat} (atMost : part ≤ whole) :
    (parts.map fun text => text.length + 1).foldl (· + ·) part ≤
      (texts.map fun text => text.length + 1).foldl (· + ·) whole := by
  induction within generalizing part whole with
  | slnil => exact atMost
  | cons text _ ih =>
      rw [List.map_cons, List.foldl_cons]
      exact ih (by omega)
  | cons_cons text _ ih =>
      rw [List.map_cons, List.map_cons, List.foldl_cons, List.foldl_cons]
      exact ih (by omega)

/-- A program may be started with fewer arguments than another. -/
theorem admits_of_sublist {stack : Option Nat} {path part : List UInt8}
    {texts parts : List (List UInt8)} (shorter : part.length ≤ path.length)
    (within : parts.Sublist texts) (fits : admits stack path texts = true) :
    admits stack part parts = true := by
  simp only [admits, Bool.and_eq_true, decide_eq_true_eq, List.all_eq_true] at fits ⊢
  obtain ⟨each, whole⟩ := fits
  have less := total_le_of_sublist within (Nat.add_le_add_right shorter 1)
  have fewer := within.length_le
  refine ⟨fun size member => ?_, by omega⟩
  obtain ⟨text, listed, rfl⟩ := List.mem_map.mp member
  exact each _ (List.mem_map.mpr ⟨text, within.subset listed, rfl⟩)

end Bounds

namespace Console

/-- May a program of a path be started in the process with some arguments? -/
def Admits (console : Console) (path : Bytes) (arguments : List Bytes) : Prop :=
  Bounds.admits (console.boundsOf .stack).soft path (path :: arguments ++
    console.environment.map fun definition =>
      Utf8.encode definition.1 ++ 61 :: definition.2) = true

theorem Inherits.admits {before after : Console} (inherits : before.Inherits after) {path : Bytes}
    {arguments : List Bytes} (fits : before.Admits path arguments) :
    after.Admits path arguments := by
  rw [Admits, boundsOf, inherits.bounds, inherits.environment]
  exact fits

theorem Admits.fewer {console : Console} {path part : Bytes} {arguments remaining : List Bytes}
    (fits : console.Admits path arguments) (shorter : part.length ≤ path.length)
    (within : (part :: remaining).Sublist (path :: arguments)) : console.Admits part remaining :=
  Bounds.admits_of_sublist shorter (within.append (List.Sublist.refl _)) fits

variable {console : Console}

/-- There is a number for one more descriptor if the lowest free one lies below the limit. -/
theorem free_zero (console : Console) : (console.free? 0).isNone =
    decide (console.process.limit ≤ console.process.table.lowestFree) := by
  rw [free?, Ascending.firstGap_filter (Int.le_refl 0)]
  change (if console.process.table.lowestFree < console.process.limit
    then some console.process.table.lowestFree else none).isNone = _
  by_cases room : console.process.table.lowestFree < console.process.limit
  · rw [if_pos room, decide_eq_false (by omega)]
    rfl
  · rw [if_neg room, decide_eq_true (by omega)]
    rfl

/-- Where all standard streams are open, none has to be opened. -/
theorem open_standard
    (standard : ∀ fd ∈ [inputStream, outputStream, errorStream], fd ∈ console.process.table) :
    console.openStandard? = some console := by
  have nothing : [inputStream, outputStream, errorStream].filter
      (· ∉ console.process.table) = [] := by
    refine List.filter_eq_nil_iff.mpr fun fd member missing => ?_
    exact of_decide_eq_true missing (standard fd member)
  rw [openStandard?, nothing]
  rfl

variable (ready : console.Ready)
include ready

theorem Ready.start_logging (verbosity : Nat) :
    ∃ filter, console.startLogging verbosity = { console with filter } := by
  have chosen := ready.filters
  rw [LogFilter.choose_isSome _ 0 verbosity, Option.isSome_iff_exists] at chosen
  obtain ⟨filter, chosen⟩ := chosen
  exact ⟨filter, by rw [startLogging, chosen]⟩

end Console

namespace Program

open Console (inputStream outputStream errorStream)

theorem run_ends {spawn : Spawn} {program : Program} {name : Bytes} {arguments : List Bytes}
    {console after : Console} {ending : Ending}
    (ended : turn spawn program name arguments console = (.ends ending, after)) :
    runWith spawn program name arguments console = (ending, after) := by
  rw [runWith]
  split
  next taken =>
    rw [ended] at taken
    cases taken
    rfl
  next taken =>
    rw [ended] at taken
    cases taken

theorem run_becomes {spawn : Spawn} {program next : Program} {name called : Bytes}
    {arguments rest : List Bytes} {console after : Console}
    (passed : turn spawn program name arguments console = (.becomes next called rest, after)) :
    runWith spawn program name arguments console = runWith spawn next called rest after := by
  rw [runWith]
  split
  next taken =>
    rw [passed] at taken
    cases taken
  next taken =>
    rw [passed] at taken
    cases taken
    rfl

variable {console : Console}

def working (console : Console) (name : Bytes) (arguments : List Bytes) : Console :=
  { console with
    command := name :: arguments
    title := none
    ignored := pipeSignal :: console.ignored.filter (· ≠ pipeSignal)
    filter := []
    failure := none }

section Standard

variable (standard : ∀ fd ∈ [inputStream, outputStream, errorStream], fd ∈ console.process.table)
  (room : console.process.table.lowestFree < console.process.limit)
include standard room

/-- Where the standard streams are open and a descriptor is to be had, either program that works on
descriptors begins its work. -/
theorem turn_working (spawn : Spawn) (name : Bytes) (arguments : List Bytes) :
    (∀ settings command, ReapSettings.read arguments = .ok (settings, command) →
        turn spawn .reaper name arguments console =
          reap settings command (working console name arguments)) ∧
      (∀ settings command, ListSettings.read arguments = .ok (settings, command) →
        turn spawn .lister name arguments console = list settings (working console name arguments)) ∧
      ∀ stop, ReapSettings.read arguments = .error stop →
        turn spawn .reaper name arguments console =
          answer (ReapSettings.help (calledName name)) (ReapSettings.usage (calledName name)) stop
            (working console name arguments) := by
  let named := { console with command := name :: arguments, title := none }
  have goesOn : ¬ (named.free? 0).isNone = true := by
    rw [Console.free_zero, decide_eq_true_eq]
    exact Int.not_le.mpr room
  have begins (work : Console → Turn × Console) :
      prepared named work = work (working console name arguments) := by
    have opened : named.openStandard? = some named := Console.open_standard standard
    rw [prepared, opened]
    rfl
  refine ⟨fun settings command read => ?_, fun settings command read => ?_, fun stop read => ?_⟩
  · unfold turn
    dsimp only
    rw [if_neg goesOn, begins, read]
  · unfold turn
    dsimp only
    rw [if_neg goesOn, begins, read]
  · unfold turn
    dsimp only
    rw [if_neg goesOn, begins, read]

end Standard

section Streams

variable {fd : Int} {pipe : Pipe} (streams : console.Streams fd pipe)
  (read : ∀ console : Console, console.isRead pipe = true)
include streams read

/-- What is said gets into the pipe or is lost, and the program ends as it is to end. -/
theorem say_streams (ending : Ending) (lines : List String) :
    say fd ending lines console = (.ends ending,
      if console.Reaches fd pipe then console.piped pipe lines else console) := by
  by_cases reaches : console.Reaches fd pipe
  · rw [if_pos reaches]
    induction lines generalizing console with
    | nil => rfl
    | cons text lines ih =>
        rw [say, Console.put_streams streams read, if_pos reaches]
        exact @ih (console.piped pipe [text]) streams reaches
  · rw [if_neg reaches]
    induction lines with
    | nil => rfl
    | cons text lines ih =>
        rw [say, Console.put_streams streams read, if_neg reaches]
        exact ih

theorem listing_streams (long : Bool) (fds : List Int) :
    fds.foldl (fun console number =>
        console.insist fd (Console.line (listingLine console long number))) console =
      if console.Reaches fd pipe then console.piped pipe (fds.map (listingLine console long))
      else console := by
  by_cases reaches : console.Reaches fd pipe
  · rw [if_pos reaches]
    induction fds generalizing console with
    | nil => rfl
    | cons number fds ih =>
        rw [List.foldl_cons, Console.insist_streams streams read, if_pos reaches]
        exact @ih (console.piped pipe [listingLine console long number]) streams reaches
  · rw [if_neg reaches]
    induction fds with
    | nil => rfl
    | cons number fds ih =>
        rw [List.foldl_cons, Console.insist_streams streams read, if_neg reaches, ih]

end Streams

theorem print_open_streams (streams : console.Streams outputStream .output)
    (room : console.process.table.lowestFree < console.process.limit)
    (whole : console.failure = none) (dir : ListingDir) (long : Bool) :
    printOpen (some dir) long console = (.ends (.exited 0),
      if console.Reaches outputStream .output then
        console.piped .output ((Snapshot.ofTable console.process.table (some .symlink)
          false).descriptors.map (listingLine console long))
      else console) := by
  have listed : openDescriptors dir console =
      (.ok (Snapshot.ofTable console.process.table (some .symlink) false).descriptors, console) := by
    have call : Kernel.snapshot dir console = (console.process.snapshot, console) := rfl
    rw [openDescriptors, call, ProcessState.snapshot, if_pos room]
  have unfailed (lines : List String) : (if console.Reaches outputStream .output then
      console.piped .output lines else console).failure = none := by
    split <;> exact whole
  rw [printOpen, listed]
  dsimp only
  rw [listing_streams streams fun _ => rfl, ended, unfailed]

variable (ready : console.Ready)

theorem listing_line_long {fd : Int} {target : Target}
    (linked : console.links.lookup fd = some target) :
    listingLine console true fd = toString fd ++ "\t" ++ target.text := by
  rw [listingLine, if_pos rfl, linked]

theorem listing_line_inherits {before after : Console} (inherits : before.Inherits after)
    (long : Bool) : listingLine after long = listingLine before long := by
  funext fd
  rw [listingLine, inherits.links]
  rfl

include ready

/-- What is printed of the open descriptors goes through, and the program ends well. -/
theorem print_open_ready (whole : console.failure = none) (dir : ListingDir) (long : Bool) :
    ∃ after, printOpen (some dir) long console = (.ends (.exited 0), after) ∧
      after.received .output =
        (console.process.table.fds.map (listingLine console long)).flatMap Console.line := by
  have reaches : console.Reaches outputStream .output :=
    ⟨ready.standard _ (by decide), ready.printed⟩
  have streams : console.Streams outputStream .output := reaches.streams
  refine ⟨_, print_open_streams streams ready.room whole dir long, ?_⟩
  rw [if_pos reaches, Console.received_piped, ready.unwritten,
    Snapshot.descriptors_table console.process.table ready.numbers]
  rfl

theorem reap_ready (whole : console.failure = none) (settings : ReapSettings)
    (above : errorStream < settings.threshold) (fits : settings.threshold ≤ maxDescriptor) :
    ∃ closed, console.Inherits closed ∧ closed.failure = none ∧
      closed.process =
        { console.process with table := console.left settings.tier settings.threshold } ∧
      reap settings [] console = printOpen (some .native) false closed ∧
      ∀ name arguments, reap settings (name :: arguments) console =
        execute name arguments closed := by
  obtain ⟨filter, logging⟩ := ready.start_logging settings.verbosity
  obtain ⟨steady, process⟩ := ready.closed whole filter settings.tier above fits
  refine ⟨_, steady.inherits, steady.whole, process, ?_, fun name arguments => ?_⟩
  · rw [reap, logging]
    dsimp only
    rw [steady.whole]
    rfl
  · rw [reap, logging]
    dsimp only
    rw [steady.whole]
    rfl

/-- The listing program prints what is open, and ends well. -/
theorem list_ready (whole : console.failure = none) (settings : ListSettings) :
    ∃ after, list settings console = (.ends (.exited 0), after) ∧
      after.received .output =
        (console.process.table.fds.map (listingLine console settings.long)).flatMap Console.line := by
  obtain ⟨filter, logging⟩ := ready.start_logging settings.verbosity
  have steady : console.Steady (Capabilities.detect { console with filter }).2 :=
    (Console.steady_undisturbed ready.logged).detect _
      ⟨{ Console.Inherits.refl console with }, ready.standard _ (by decide), whole⟩
  have same : (Capabilities.detect { console with filter }).2.process = console.process :=
    (Console.process_projects.emit _ { console with filter }).symm
  have readyStill := ready.same_process steady.inherits same
  obtain ⟨after, printed, written⟩ := print_open_ready readyStill steady.whole .native settings.long
  refine ⟨after, ?_, ?_⟩
  · rw [list, logging]
    dsimp only
    rw [steady.whole]
    exact printed
  · rw [written, same, listing_line_inherits steady.inherits]

/-- A program of this project takes the place of another in a process that is ready. -/
theorem execute_ready {program : Program} (tool : program ∈ Installation.tools)
    (plain : Installation.Plain console.home) {arguments : List Bytes}
    (fits : console.Admits (Utf8.encode (Installation.path console.home program)) arguments) :
    ∃ after, execute (Utf8.encode (Installation.path console.home program)) arguments console =
        (.becomes program (Utf8.encode (Installation.path console.home program)) arguments, after) ∧
      console.Inherits after ∧ after.process = console.process := by
  let resumed := { console with ignored := console.ignored.filter (· ≠ pipeSignal) }
  have fresh : (resumed.view .reaper).made = [] := by
    change console.machine.contents.map (·.1) = []
    rw [ready.contents]
    rfl
  have found := plain.find_tool fresh rfl tool (console.environment.lookup Console.searchVariable)
  refine ⟨resumed.takeOver, ?_, ?_, ?_⟩
  · unfold execute
    dsimp only
    rw [found]
    dsimp only
    exact if_pos fits
  · exact { Console.Inherits.refl console with hidden := ready.hidden.symm }
  · change { console.process with table := console.process.table.eraseAll console.hidden } = _
    rw [ready.hidden]
    exact console.process.without_nil

/-- Either program that works on descriptors begins its work in a process that is as it was. -/
theorem turn_ready (spawn : Spawn) (name : Bytes) (arguments : List Bytes) :
    ∃ given, console.Inherits given ∧ given.process = console.process ∧ given.failure = none ∧
      (∀ settings command, ReapSettings.read arguments = .ok (settings, command) →
        turn spawn .reaper name arguments console = reap settings command given) ∧
      (∀ settings command, ListSettings.read arguments = .ok (settings, command) →
        turn spawn .lister name arguments console = list settings given) ∧
      ∀ stop, ReapSettings.read arguments = .error stop →
        turn spawn .reaper name arguments console =
          answer (ReapSettings.help (calledName name)) (ReapSettings.usage (calledName name)) stop
            given :=
  ⟨working console name arguments, { Console.Inherits.refl console with }, rfl, rfl,
    turn_working ready.standard ready.room spawn name arguments⟩

/-- A command line that cannot be used is answered with a complaint, and nothing is closed. -/
theorem turn_refused (spawn : Spawn) (name : Bytes) {arguments : List Bytes} {error : UsageError}
    (refused : ReapSettings.read arguments = .error (.usage error)) :
    ∃ after, turn spawn .reaper name arguments console = (.ends (.exited 2), after) ∧
      after.process = console.process := by
  obtain ⟨given, inherits, same, -, -, -, answers⟩ := turn_ready ready spawn name arguments
  have readyStill := ready.same_process inherits same
  have reaches : given.Reaches errorStream .errors :=
    ⟨readyStill.standard _ (by decide), readyStill.logged⟩
  have said := say_streams reaches.streams (fun _ => rfl)
    (.exited 2) ((error.report (ReapSettings.usage (calledName name))).map
      (Styled.text (isColoured given)))
  rw [if_pos reaches] at said
  exact ⟨_, (answers _ refused).trans said, same⟩

end Program

end DescriptorReaper
