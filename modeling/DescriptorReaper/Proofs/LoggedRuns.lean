import DescriptorReaper.Proofs.ProgramTurns
import DescriptorReaper.Proofs.StartEnvironment
import DescriptorReaper.Proofs.WrittenLines

/-!
What a run logs. The run of a program is seen through one that does not log: it keeps the events
that come while the error stream leads to a reader, all of them, and its process does what the
program's process does. So whatever the filter, the closes and the answers are the same, the stream
goes quiet at the same event, and the lines are those of the kept events that the filter lets
through.
-/

namespace DescriptorReaper

/-- A process, and the events that came while its error stream was heard. The stream leads to a
reader or does not, as long as it is open. -/
structure Overheard (logged : Bool) where
  process : ProcessState
  heard : List Event

namespace Overheard

variable {logged : Bool}

instance : Kernel (Overheard logged) where
  offersRange overheard :=
    let called := Kernel.offersRange overheard.process
    (called.1, { overheard with process := called.2 })
  offersDir dir overheard :=
    let called := Kernel.offersDir dir overheard.process
    (called.1, { overheard with process := called.2 })
  closeRange low overheard :=
    let called := Kernel.closeRange low overheard.process
    (called.1, { overheard with process := called.2 })
  close fd overheard :=
    let called := Kernel.close fd overheard.process
    (called.1, { overheard with process := called.2 })
  snapshot dir overheard :=
    let called := Kernel.snapshot dir overheard.process
    (called.1, { overheard with process := called.2 })
  limit overheard :=
    let called := Kernel.limit overheard.process
    (called.1, { overheard with process := called.2 })
  emit event overheard :=
    if logged = true ∧ Console.errorStream ∈ overheard.process.table then
      { overheard with heard := overheard.heard ++ [event] }
    else overheard

def reaped (logged : Bool) (process : ProcessState) (tier : Option Tier) (lowfd : Int) :
    Overheard logged :=
  let detected := Capabilities.detect (⟨process, []⟩ : Overheard logged)
  (detected.1.restrict tier).closeFrom lowfd detected.2

theorem emit_process (event : Event) (overheard : Overheard logged) :
    (Kernel.emit event overheard).process = overheard.process := by
  change (if _ then _ else overheard : Overheard logged).process = _
  split <;> rfl

/-- Nothing is opened while descriptors are closed, and the limit stays. -/
theorem shrinks (process : ProcessState) (low : Int) :
    Kernel.KeptFrom low fun overheard : Overheard logged =>
      overheard.process.limit = process.limit ∧
        ∀ fd ∈ overheard.process.table, fd ∈ process.table where
  offersRange _ kept := kept
  offersDir _ _ kept := kept
  snapshot _ _ kept := kept
  limit _ kept := kept
  emit event overheard kept := by
    rw [emit_process]
    exact kept
  closeRange _ kept := ⟨kept.1, fun fd member => kept.2 fd (Table.mem_closeFrom.mp member).1⟩
  close _ _ _ kept := ⟨kept.1, fun fd member => kept.2 fd (Table.mem_erase.mp member).1⟩

theorem reaped_room {process : ProcessState} (room : process.table.lowestFree < process.limit)
    (tier : Option Tier) (lowfd : Int) :
    (reaped logged process tier lowfd).process.table.lowestFree <
      (reaped logged process tier lowfd).process.limit := by
  have kept : Kernel.KeptFrom (max lowfd 0) fun overheard : Overheard logged => _ :=
    shrinks process (max lowfd 0)
  obtain ⟨limit, within⟩ := reap_preserves _ lowfd kept _
    (kept.toUndisturbed.detect (⟨process, []⟩ : Overheard logged) ⟨rfl, fun _ member => member⟩)
  exact limit ▸ Int.lt_of_le_of_lt (Table.lowestFree_le_of_subset within) room

end Overheard

namespace Console

variable {console : Console}

section Telling

variable {logged : Bool}

def telling (console : Console) (overheard : Overheard logged) : Console :=
  { console with process := overheard.process }.piped .errors
    ((overheard.heard.filter console.filter.enables).map Event.line)

variable (streams : console.Streams errorStream .errors)
  (leads : logged = decide (console.links.lookup errorStream = some (.pipe .errors .writing)))
include streams leads

theorem emit_telling (event : Event) (overheard : Overheard logged) :
    Kernel.emit event (console.telling overheard) =
      console.telling (Kernel.emit event overheard) := by
  have reaches_iff : (console.telling overheard).Reaches errorStream .errors ↔
      logged = true ∧ errorStream ∈ overheard.process.table := by
    have open_iff : logged = true ↔
        console.links.lookup errorStream = some (.pipe .errors .writing) :=
      (Bool.eq_iff_iff.mp leads).trans decide_eq_true_iff
    exact and_comm.trans (and_congr_left' open_iff.symm)
  have streamed : (console.telling overheard).Streams errorStream .errors := streams
  have written := insist_streams streamed (fun _ => rfl) event.line
  change (if console.filter.enables event then
    (console.telling overheard).insist errorStream (line event.line)
    else console.telling overheard) = console.telling (if logged = true ∧
      errorStream ∈ overheard.process.table then _ else overheard)
  rw [written]
  simp only [reaches_iff]
  -- The event is kept exactly if its line arrives; whether there is a line is for the filter to
  -- say.
  by_cases reaches : logged = true ∧ errorStream ∈ overheard.process.table
  · rw [if_pos reaches, if_pos reaches]
    by_cases shown : console.filter.enables event = true
    · rw [if_pos shown]
      simp [telling, piped, List.filter_append, shown]
    · rw [if_neg shown]
      simp [telling, piped, List.filter_append, shown]
  · rw [if_neg reaches, if_neg reaches]
    split <;> rfl

theorem telling_projects : Kernel.Projects (telling console : Overheard logged → Console) where
  offersRange _ := rfl
  offersDir _ _ := rfl
  closeRange _ _ := rfl
  close _ _ := rfl
  snapshot _ _ := rfl
  limit _ := rfl
  emit := emit_telling streams leads

theorem closed_telling (tier : Option Tier) (lowfd : Int) :
    let detected := Capabilities.detect console
    detected.1.listingDir = some .native ∧
      (detected.1.restrict tier).closeFrom lowfd detected.2 =
        console.telling (Overheard.reaped logged console.process tier lowfd) := by
  have projects := telling_projects streams leads
  let asked := Capabilities.detect (⟨console.process, []⟩ : Overheard logged)
  have detected : Capabilities.detect console = (asked.1, console.telling asked.2) :=
    projects.detect ⟨console.process, []⟩
  dsimp only
  rw [detected]
  exact ⟨rfl, congrArg Prod.snd (projects.reap (asked.1.restrict tier) lowfd asked.2)⟩

end Telling

/-- A process whose standard streams are open, each leading into its pipe or to where nothing can be
written, and that has written nothing yet. -/
structure Fresh (console : Console) : Prop where
  standard : ∀ fd ∈ [inputStream, outputStream, errorStream], fd ∈ console.process.table
  printed : console.Streams outputStream .output
  logged : console.Streams errorStream .errors
  unwritten : ∀ pipe, console.received pipe = []

def logs (console : Console) : Bool :=
  decide (console.links.lookup errorStream = some (.pipe .errors .writing))

def overheard (console : Console) (settings : ReapSettings) : Overheard console.logs :=
  .reaped console.logs console.process settings.tier settings.threshold

end Console

namespace Program

open Console (outputStream errorStream line)

variable {console : Console}

def openLines (process : ProcessState) : List String :=
  (Snapshot.ofTable process.table (some .symlink) false).descriptors.map toString

def printedLines (console : Console) (process : ProcessState) : List String :=
  if { console with process }.Reaches outputStream .output then openLines process else []

section Closing

variable (fresh : console.Fresh)
include fresh

/-- What the closing program has come to before it prints: it is left what was overheard, and has
told of that what its filter lets through. -/
theorem reap_telling (settings : ReapSettings) :
    let told := (console.startLogging settings.verbosity).telling (console.overheard settings)
    reap settings [] console =
      if told.failure.isSome then (.ends (ended told), told)
      else printOpen (some .native) false told := by
  have links : (console.startLogging settings.verbosity).links = console.links := by
    unfold Console.startLogging
    split <;> rfl
  have process : (console.startLogging settings.verbosity).process = console.process := by
    unfold Console.startLogging
    split <;> rfl
  have streams : (console.startLogging settings.verbosity).Streams errorStream .errors := by
    rw [Console.Streams, links]
    exact fresh.logged
  have leads : console.logs = decide ((console.startLogging settings.verbosity).links.lookup
      errorStream = some (.pipe .errors .writing)) := by
    rw [links]
    rfl
  obtain ⟨listing, closed⟩ :=
    Console.closed_telling streams leads settings.tier settings.threshold
  rw [process] at closed
  rw [reap]
  dsimp only
  rw [listing, closed]
  rfl

theorem reap_logged (room : console.process.table.lowestFree < console.process.limit)
    (whole : console.failure = none) {settings : ReapSettings} {filter : LogFilter}
    (chosen : LogFilter.choose (console.environment.lookup Console.logVariable)
      settings.verbosity = some filter) :
    let left := console.overheard settings
    ∃ after, reap settings [] console = (.ends (.exited 0), after) ∧
      after.received .output = (printedLines console left.process).flatMap line ∧
      after.received .errors =
        ((left.heard.filter filter.enables).map Event.line).flatMap line := by
  let left := console.overheard settings
  let told := ({ console with filter } : Console).telling left
  have started : console.startLogging settings.verbosity = { console with filter } := by
    rw [Console.startLogging, chosen]
  have unfailed : told.failure = none := whole
  have streams : told.Streams outputStream .output := fresh.printed
  have printed := print_open_streams streams
    (Overheard.reaped_room room settings.tier settings.threshold) unfailed .native false
  have output : told.received .output = [] :=
    (Console.received_piped_elsewhere (by decide) _).trans (fresh.unwritten .output)
  have errors : told.received .errors =
      ((left.heard.filter filter.enables).map Event.line).flatMap line := by
    refine (Console.received_piped _).trans ?_
    exact congrArg (· ++ _) (fresh.unwritten .errors)
  rw [reap_telling fresh, started]
  dsimp only
  rw [if_neg (unfailed ▸ Bool.false_ne_true), printed]
  refine ⟨_, rfl, ?_⟩
  -- The log is complete before anything is printed, so that the two pipes do not mix.
  by_cases reaches : { console with process := left.process }.Reaches outputStream .output
  · have reached : told.Reaches outputStream .output := reaches
    rw [if_pos reached, printedLines, if_pos reaches, Console.received_piped, output,
      Console.received_piped_elsewhere (by decide), errors]
    exact ⟨rfl, rfl⟩
  · have unreached : ¬ told.Reaches outputStream .output := reaches
    rw [if_neg unreached, printedLines, if_neg reaches, output, errors]
    exact ⟨rfl, rfl⟩

/-- A filter that cannot be read breaks the program off before it prints. -/
theorem reap_severed {settings : ReapSettings}
    (severed : LogFilter.choose (console.environment.lookup Console.logVariable)
      settings.verbosity = none) :
    ∃ after, reap settings [] console = (.ends (.exited 101), after) ∧
      after.received .output = [] := by
  have started : console.startLogging settings.verbosity =
      { console with failure := some .invalid } := by
    rw [Console.startLogging, severed]
  rw [reap_telling fresh, started]
  exact ⟨_, rfl, (Console.received_piped_elsewhere (by decide) _).trans (fresh.unwritten .output)⟩

end Closing

theorem outcome_ends {program : Program} {arguments : List Bytes} {after : Console}
    {ending : Ending} (sane : ending ≠ .exited 2)
    (ended : ∀ spawn, turn spawn program (Utf8.encode (Installation.path console.home program))
      arguments console = (.ends ending, after)) :
    outcome program arguments console =
      ⟨ending, textLines (after.received .output), textLines (after.received .errors)⟩ := by
  have run : run deepest = runWith (run 1999) := rfl
  rw [outcome, run, run_ends (ended _)]
  dsimp only
  rw [if_neg sane]

/-- A program that finds no descriptor for its libraries says only that, in the same words wherever
they are installed alike. -/
theorem outcome_unlinked (home : Place) :
    ∃ complaint : String, ∀ console : Console, console.home = home → console.Fresh →
      console.process.limit ≤ console.process.table.lowestFree → ∀ arguments,
        outcome .reaper arguments console = ⟨.exited 127, [],
          if console.Reaches errorStream .errors then textLines (line complaint) else []⟩ := by
  let name := Utf8.encode (Installation.path home .reaper)
  let complaint := Utf8.display name ++ ": error while loading shared libraries: " ++
    library .reaper ++ ": cannot open shared object file: Error 24"
  refine ⟨complaint, fun console housed fresh full arguments => ?_⟩
  subst housed
  let named := { console with command := name :: arguments, title := none }
  have stops : (named.free? 0).isNone = true := by
    rw [Console.free_zero]
    exact decide_eq_true full
  have streams : named.Streams errorStream .errors := fresh.logged
  have ended (spawn : Spawn) : turn spawn .reaper name arguments console = (.ends (.exited 127),
      if named.Reaches errorStream .errors then named.piped .errors [complaint] else named) := by
    unfold turn
    dsimp only
    rw [if_pos stops, unlinked, say_streams streams fun _ => rfl]
  have silent : textLines [] = [] := rfl
  have nothing (pipe : Pipe) : named.received pipe = [] := fresh.unwritten pipe
  rw [outcome_ends (by decide) ended]
  by_cases reaches : console.Reaches errorStream .errors
  · have reached : named.Reaches errorStream .errors := reaches
    rw [if_pos reached, if_pos reaches, Console.received_piped,
      Console.received_piped_elsewhere (by decide), nothing, nothing, List.flatMap_singleton,
      List.nil_append, silent]
  · have unreached : ¬ named.Reaches errorStream .errors := reaches
    rw [if_neg unreached, if_neg reaches, nothing, nothing, silent]

section Outcome

variable (fresh : console.Fresh) (room : console.process.table.lowestFree < console.process.limit)
include fresh room

theorem outcome_logged {arguments : List Bytes} {settings : ReapSettings} {filter : LogFilter}
    (read : ReapSettings.read arguments = .ok (settings, []))
    (chosen : LogFilter.choose (console.environment.lookup Console.logVariable)
      settings.verbosity = some filter) :
    let left := console.overheard settings
    outcome .reaper arguments console =
      ⟨.exited 0, printedLines console left.process,
        (left.heard.filter filter.enables).map Event.line⟩ := by
  let name := Utf8.encode (Installation.path console.home .reaper)
  have freshStill : (working console name arguments).Fresh := { fresh with }
  obtain ⟨after, ended, output, errors⟩ :
      ∃ after, reap settings [] (working console name arguments) = (.ends (.exited 0), after) ∧
        after.received .output =
          (printedLines console (console.overheard settings).process).flatMap line ∧
        after.received .errors =
          (((console.overheard settings).heard.filter filter.enables).map Event.line).flatMap line :=
    reap_logged freshStill room rfl chosen
  have printed : ∀ text ∈ printedLines console (console.overheard settings).process,
      OneLine text := by
    intro text member
    unfold printedLines at member
    split at member
    · obtain ⟨fd, -, rfl⟩ := List.mem_map.mp member
      exact one_line_number fd
    · cases member
  have logged : ∀ text ∈ ((console.overheard settings).heard.filter filter.enables).map Event.line,
      OneLine text := by
    intro text member
    obtain ⟨event, -, rfl⟩ := List.mem_map.mp member
    exact one_line_event event
  rw [outcome_ends (by decide) fun spawn =>
    ((turn_working fresh.standard room spawn name arguments).1 settings [] read).trans ended,
    output, errors]
  rw [text_lines_written printed, text_lines_written logged]

theorem outcome_severed {arguments : List Bytes} {settings : ReapSettings}
    (read : ReapSettings.read arguments = .ok (settings, []))
    (severed : LogFilter.choose (console.environment.lookup Console.logVariable)
      settings.verbosity = none) :
    (outcome .reaper arguments console).ending = .exited 101 ∧
      (outcome .reaper arguments console).output = [] := by
  let name := Utf8.encode (Installation.path console.home .reaper)
  have freshStill : (working console name arguments).Fresh := { fresh with }
  obtain ⟨after, ended, output⟩ := reap_severed freshStill severed
  rw [outcome_ends (by decide) fun spawn =>
    ((turn_working fresh.standard room spawn name arguments).1 settings [] read).trans ended,
    output]
  exact ⟨rfl, rfl⟩

end Outcome

end Program

end DescriptorReaper
