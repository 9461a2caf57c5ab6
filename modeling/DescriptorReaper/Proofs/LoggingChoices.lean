import Mathlib
import DescriptorReaper.Proofs.LoggedRuns

/-!
What is to be logged is chosen from outside, and makes no difference to what a program does. Two
runs that differ in that choice alone end alike and print the same, and of two filters the narrower
one leaves those lines of the other's run that it lets through itself.
-/

namespace DescriptorReaper

namespace LogFilter

/-- Among events of the same target and with the same fields, a filter lets no level through that
another one holds back. -/
def Within (first second : LogFilter) : Prop :=
  ∀ (event : Event) (level : Level),
    first.shows event.target (fun name => event.carries (String.ofList name)) level = true →
      second.shows event.target (fun name => event.carries (String.ofList name)) level = true

theorem shows_fieldless {filter : LogFilter} (plain : ∀ directive ∈ filter, directive.field = none)
    (target : String) (carries others : List Char → Bool) (level : Level) :
    filter.shows target carries level = filter.shows target others level := by
  have same : filter.filter (·.covers target.toList carries) =
      filter.filter (·.covers target.toList others) := by
    refine List.filter_congr fun directive member => ?_
    rw [Directive.covers, Directive.covers, plain directive member]
    rfl
  rw [shows, shows, deciding?, deciding?, same]

theorem mem_enabled_levels {filter : LogFilter} {target : String} {level : Level} :
    level ∈ filter.enabledLevels target ↔ filter.shows target (fun _ => true) level = true := by
  have listed : level ∈ Level.all := by
    cases level <;> decide
  rw [enabledLevels, List.mem_filter]
  exact and_iff_right listed

/-- For filters that do not ask for fields, it is a matter of the levels that are shown of either
target. -/
theorem within_iff_levels {first second : LogFilter}
    (plain : ∀ filter ∈ [first, second], ∀ directive ∈ filter, directive.field = none) :
    first.Within second ↔
      ∀ target ∈ ["closefrom::caps", "closefrom::reap"],
        ∀ level ∈ first.enabledLevels target, level ∈ second.enabledLevels target := by
  have firstPlain := shows_fieldless (plain first (by simp))
  have secondPlain := shows_fieldless (plain second (by simp))
  constructor
  · intro within target listed level member
    rw [mem_enabled_levels] at member ⊢
    have targets : ∃ event : Event, event.target = target := by
      simp only [List.mem_cons, List.not_mem_nil, or_false] at listed
      rcases listed with rfl | rfl
      · exact ⟨.detected .none, rfl⟩
      · exact ⟨.rangeClosed 0, rfl⟩
    obtain ⟨event, rfl⟩ := targets
    rw [secondPlain _ _ fun name => event.carries (String.ofList name)]
    exact within event level (firstPlain _ _ _ level ▸ member)
  · intro levels event level shown
    have listed : event.target ∈ ["closefrom::caps", "closefrom::reap"] := by
      cases event <;> simp [Event.target]
    rw [secondPlain _ _ fun _ => true]
    have member := levels event.target listed level
    rw [mem_enabled_levels, mem_enabled_levels] at member
    exact member (firstPlain _ _ _ level ▸ shown)

theorem within_trace (filter : LogFilter) : filter.Within (ofVerbosity 3) := by
  intro event level _
  cases level <;> rfl

end LogFilter

namespace Console

variable {console : Console}

theorem Streams.attach {stream fd : Int} {pipe : Pipe} {target : Target}
    (streams : console.Streams stream pipe) (unwritten : target.access.writes = false) :
    (console.attach fd target).Streams stream pipe := by
  intro linked found
  change ((fd, target) :: console.links.filter (·.1 ≠ fd)).lookup stream = some linked at found
  rw [List.lookup_cons] at found
  by_cases same : stream = fd
  · rw [beq_iff_eq.mpr same] at found
    cases found
    exact Or.inr unwritten
  · rw [beq_eq_false_iff_ne.mpr same] at found
    exact streams linked ((lookup_filter_other console.links same).symm.trans found)

theorem Fresh.with_file (fresh : console.Fresh) (fd : Int) (path : String) :
    (console.withFile fd path).Fresh := by
  unfold withFile
  split
  next target next opened =>
    obtain ⟨⟨openings, rfl⟩, access⟩ := open_path_reading opened
    have unwritten : target.access.writes = false := by
      rw [access]
      rfl
    exact {
      standard := fun stream listed => Table.mem_insert.mpr (Or.inr (fresh.standard stream listed))
      printed := Streams.attach fresh.printed unwritten
      logged := Streams.attach fresh.logged unwritten
      unwritten := fresh.unwritten }
  next => exact fresh

theorem start_fresh (home : Place) (files : List (Int × String)) (limit : Int)
    (logging : Option Bytes) : (start home files limit logging).Fresh := by
  have standard : (standard home limit logging).Fresh := {
    standard := by
      change ∀ fd ∈ [inputStream, outputStream, errorStream], fd ∈ Table.standard
      decide
    printed := fun target found => Or.inl (Option.some.inj found).symm
    logged := fun target found => Or.inl (Option.some.inj found).symm
    unwritten := fun _ => rfl }
  -- A file that takes the place of a standard stream is open for reading, so nothing gets through
  -- it.
  exact start_induction home limit logging Fresh files standard fun _ file _ fresh =>
    fresh.with_file file.1 file.2

end Console

/-- A call of the closing program without a command, in an environment that may ask for something to
be logged. -/
structure LoggedCall where
  arguments : List Bytes
  logging : Option Bytes
  settings : ReapSettings
  read : ReapSettings.read arguments = .ok (settings, [])

namespace LoggedCall

def filter? (call : LoggedCall) : Option LogFilter :=
  LogFilter.choose call.logging call.settings.verbosity

variable (call : LoggedCall) (home : Place) (files : List (Int × String)) (limit : Int)

def start : Console := Console.start home files limit call.logging

def outcome : Outcome := Program.outcome .reaper call.arguments (call.start home files limit)

def overheard : Overheard (Console.start home files limit none).logs :=
  (Console.start home files limit none).overheard call.settings

def HasRoom : Prop := (Console.start home files limit none).process.table.lowestFree < limit

theorem has_room_iff : HasRoom home files limit ↔
    (Console.start home files limit none).process.table.lowestFree <
      (Console.start home files limit none).process.limit := by
  rw [Console.start_limit, HasRoom]

theorem start_eq : call.start home files limit =
    (Console.start home files limit none).within (Console.startEnvironment call.logging) :=
  Console.start_within home files limit call.logging none

theorem fresh : ((Console.start home files limit none).within
    (Console.startEnvironment call.logging)).Fresh :=
  call.start_eq home files limit ▸ Console.start_fresh home files limit call.logging

theorem environment_chooses :
    LogFilter.choose ((Console.startEnvironment call.logging).lookup Console.logVariable)
      call.settings.verbosity = call.filter? := by
  have wanted : (Console.startEnvironment call.logging).lookup Console.logVariable =
      call.logging := by
    cases call.logging <;> rfl
  rw [wanted, filter?]

section Room

variable (room : HasRoom home files limit)
include room

theorem outcome_chosen {filter : LogFilter} (chosen : call.filter? = some filter) :
    let left := call.overheard home files limit
    call.outcome home files limit =
      ⟨.exited 0, Program.printedLines (Console.start home files limit none) left.process,
        (left.heard.filter filter.enables).map Event.line⟩ := by
  rw [outcome, start_eq]
  exact Program.outcome_logged (call.fresh home files limit)
    ((has_room_iff home files limit).mp room) call.read (call.environment_chooses.trans chosen)

theorem outcome_severed (severed : call.filter? = none) :
    (call.outcome home files limit).ending = .exited 101 ∧
      (call.outcome home files limit).output = [] := by
  rw [outcome, start_eq]
  exact Program.outcome_severed (call.fresh home files limit)
    ((has_room_iff home files limit).mp room) call.read (call.environment_chooses.trans severed)

end Room

theorem outcome_full (full : ¬ HasRoom home files limit) :
    ∃ errors, ∀ call : LoggedCall, call.outcome home files limit = ⟨.exited 127, [], errors⟩ := by
  let bare := Console.start home files limit none
  obtain ⟨complaint, unlinked⟩ := Program.outcome_unlinked bare.home
  rw [has_room_iff] at full
  refine ⟨if bare.Reaches Console.errorStream .errors
    then textLines (Console.line complaint) else [], fun call => ?_⟩
  rw [outcome, start_eq]
  exact unlinked (bare.within (Console.startEnvironment call.logging)) rfl
    (call.fresh home files limit) (Int.not_lt.mp full) call.arguments

/-- Two calls end alike exactly if both have something to log by or neither has. -/
theorem ends_alike_iff (first second : LoggedCall) (room : HasRoom home files limit) :
    (first.outcome home files limit).ending = (second.outcome home files limit).ending ↔
      (first.filter?.isSome ↔ second.filter?.isSome) := by
  have ending (call : LoggedCall) : (call.outcome home files limit).ending =
      if call.filter?.isSome then .exited 0 else .exited 101 := by
    cases chosen : call.filter? with
    | none => exact (call.outcome_severed home files limit room chosen).1
    | some filter => rw [call.outcome_chosen home files limit room chosen]; rfl
  rw [ending, ending]
  by_cases one : first.filter?.isSome <;> by_cases other : second.filter?.isSome <;>
    simp [one, other]

/-- Logging interferes only where it breaks the program off, so that two calls that close alike end
alike exactly if both have something to log by or neither has. If both have, they print the same. A
program that finds no descriptor for its libraries complains of that alike. Else the errors are the
log, and if one filter is within the other, then its log holds those events of the other log that it
lets through, in the same order, wherever the log ends because its stream is closed. -/
theorem logging_interferes_only_severed (first second : LoggedCall)
    (threshold : first.settings.threshold = second.settings.threshold)
    (tier : first.settings.tier = second.settings.tier) :
    let one := first.outcome home files limit
    let other := second.outcome home files limit
    (HasRoom home files limit →
      (one.ending = other.ending ↔ (first.filter?.isSome ↔ second.filter?.isSome))) ∧
    ∀ narrow wide, first.filter? = some narrow → second.filter? = some wide →
      one.ending = other.ending ∧ one.output = other.output ∧
        (narrow.Within wide →
          (other.ending = .exited 127 ∧ one.errors = other.errors) ∨
          (other.ending = .exited 0 ∧ ∃ logged : List Event,
            (∀ event ∈ logged, wide.enables event = true) ∧
              other.errors = logged.map Event.line ∧
              one.errors = (logged.filter narrow.enables).map Event.line)) := by
  intro one other
  refine ⟨fun room => ends_alike_iff home files limit first second room,
    fun narrow wide firstChosen secondChosen => ?_⟩
  by_cases room : HasRoom home files limit
  -- Both overhear the same events, for closing hangs on the threshold and the tier alone.
  · have alike : first.overheard home files limit = second.overheard home files limit := by
      rw [overheard, overheard, Console.overheard, Console.overheard, threshold, tier]
    have ones : one = _ := first.outcome_chosen home files limit room firstChosen
    have others : other = _ := second.outcome_chosen home files limit room secondChosen
    rw [alike] at ones
    rw [ones, others]
    refine ⟨rfl, rfl, fun within => Or.inr ⟨rfl, _, fun event member => ?_, rfl, ?_⟩⟩
    · exact (List.mem_filter.mp member).2
    · rw [List.filter_filter]
      refine congrArg (List.map Event.line) (List.filter_congr fun event _ => ?_)
      by_cases shown : narrow.enables event = true
      · have passes : wide.enables event = true := within event event.level shown
        rw [shown, passes]
        rfl
      · rw [Bool.not_eq_true] at shown
        rw [shown]
        rfl
  · obtain ⟨errors, unlinked⟩ := outcome_full home files limit room
    have ones : one = _ := unlinked first
    have others : other = _ := unlinked second
    rw [ones, others]
    exact ⟨rfl, rfl, fun _ => Or.inl ⟨rfl, rfl⟩⟩

def terse : LoggedCall where
  arguments := [Utf8.encode "-l-1", Utf8.encode "-tfd-dir"]
  logging := some (Utf8.encode "closefrom::reap=warn")
  settings := { lowfd := some (-1), tier := some .listing }
  read := by cbv

def chatty : LoggedCall where
  arguments := [Utf8.encode "-vvv", Utf8.encode "-tfd-dir", Utf8.encode "-l-1"]
  logging := none
  settings := { lowfd := some (-1), verbosity := 3, tier := some .listing }
  read := by cbv

theorem terse_as_chatty :
    let narrow : LogFilter := [{ target := "closefrom::reap".toList, threshold := some .warn }]
    let wide := LogFilter.ofVerbosity 3
    let files := [(5, "/dev/null"), (9, "/etc")]
    let one := terse.outcome Installation.usualHome files 64
    let other := chatty.outcome Installation.usualHome files 64
    terse.settings.threshold = chatty.settings.threshold ∧
      terse.settings.tier = chatty.settings.tier ∧
      HasRoom Installation.usualHome files 64 ∧
      (one.ending = other.ending ↔ (terse.filter?.isSome ↔ chatty.filter?.isSome)) ∧
      terse.filter? = some narrow ∧ chatty.filter? = some wide ∧ narrow.Within wide ∧
      one.ending = other.ending ∧ one.output = other.output ∧
      ((other.ending = .exited 127 ∧ one.errors = other.errors) ∨
        (other.ending = .exited 0 ∧ ∃ logged : List Event,
          (∀ event ∈ logged, wide.enables event = true) ∧
            other.errors = logged.map Event.line ∧
            one.errors = (logged.filter narrow.enables).map Event.line)) := by
  intro narrow wide files one other
  have room : HasRoom Installation.usualHome files 64 := by
    have table : (Console.start Installation.usualHome [(5, "/dev/null"), (9, "/etc")] 64
        none).process.table.fds = [0, 1, 2, 5, 9] := by cbv
    rw [HasRoom, Table.lowestFree, table]
    decide
  have narrowChosen : terse.filter? = some narrow := by decide +kernel
  have wideChosen : chatty.filter? = some wide := rfl
  have within : narrow.Within wide := narrow.within_trace
  obtain ⟨alike_iff, alike⟩ := logging_interferes_only_severed Installation.usualHome files 64
    terse chatty rfl rfl
  obtain ⟨ending, output, errors⟩ := alike narrow wide narrowChosen wideChosen
  exact ⟨rfl, rfl, room, alike_iff room, narrowChosen, wideChosen, within, ending, output,
    errors within⟩

def severed : LoggedCall where
  arguments := [Utf8.encode "-l100"]
  logging := some (Utf8.encode "\u3000\u00e9=debug")
  settings := { lowfd := some 100 }
  read := by cbv

def unasked : LoggedCall := { severed with logging := none }

/-- The program breaks off over that, and ends well if nothing is asked for. -/
theorem severed_breaks_off :
    let files := [(2, "/dev/null")]
    (severed.outcome Installation.usualHome files 256).ending = .exited 101 ∧
      (unasked.outcome Installation.usualHome files 256).ending = .exited 0 := by
  have room : HasRoom Installation.usualHome [(2, "/dev/null")] 256 := by
    have table : (Console.start Installation.usualHome [(2, "/dev/null")] 256
        none).process.table.fds = [0, 1, 2] := by cbv
    rw [HasRoom, Table.lowestFree, table]
    decide
  have asked : severed.filter? = none := by decide +kernel
  have free : unasked.filter? = some (LogFilter.ofVerbosity 0) := rfl
  refine ⟨(severed.outcome_severed _ _ _ room asked).1, ?_⟩
  rw [unasked.outcome_chosen _ _ _ room free]

end LoggedCall

end DescriptorReaper
