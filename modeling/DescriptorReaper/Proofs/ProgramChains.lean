import Mathlib
import DescriptorReaper.Proofs.CommandLines
import DescriptorReaper.Proofs.WrittenLines

/-!
Chains of the closing program. Each link closes, and leaves the process to the next. What is spared
by all links is what a single link with the lowest threshold spares, so the chain prints what that
link prints, and so does a listing program that comes last.
-/

namespace DescriptorReaper

namespace Chain

open Arguments (Form)

def options (wish : Option (Form × Tier)) (low : Int) : List Bytes :=
  (match wish with
    | some (form, tier) => form.words 116 "tier" (Utf8.encode tier.name)
    | none => []) ++ Form.separate.words 108 "lowfd" (Decimal.signedDigits low)

inductive Last where
  | nothing
  | listing (long : Bool)
  deriving DecidableEq, Repr

def Last.long : Last → Bool
  | .nothing => false
  | .listing long => long

def Last.words (home : Place) : Last → List Bytes
  | .nothing => []
  | .listing long =>
      Utf8.encode (Installation.path home .lister) :: if long then [Utf8.encode "-l"] else []

/-- The arguments of a chain: links with the path of the closing program in between. -/
def words (home : Place) (wish : Option (Form × Tier)) (thresholds : List Int) (last : Last) :
    List Bytes :=
  [Utf8.encode (Installation.path home .reaper)].intercalate (thresholds.map (options wish)) ++
    last.words home

def later (home : Place) (wish : Option (Form × Tier)) (rest : List Int) (last : Last) :
    List Bytes :=
  rest.flatMap (fun low => Utf8.encode (Installation.path home .reaper) :: options wish low) ++
    last.words home

variable {home : Place} {wish : Option (Form × Tier)}

theorem words_cons (first : Int) (rest : List Int) (last : Last) :
    words home wish (first :: rest) last = options wish first ++ later home wish rest last := by
  have joined : [Utf8.encode (Installation.path home .reaper)].intercalate
      ((first :: rest).map (options wish)) = options wish first ++
        rest.flatMap fun low => Utf8.encode (Installation.path home .reaper) :: options wish low := by
    induction rest generalizing first with
    | nil => simp [List.intercalate]
    | cons next rest ih =>
        rw [List.flatMap_cons, List.cons_append, ← ih next]
        simp [List.intercalate]
  rw [words, joined, later, List.append_assoc]

/-- A link is read up to the command that follows it. -/
theorem read_options {low : Int} (nonneg : 0 ≤ low) (fits : low ≤ maxDescriptor)
    {command : List Bytes}
    (plain : ∀ first ∈ command.head?, Arguments.shape first = .plain) :
    ReapSettings.read (options wish low ++ command) =
      .ok ({ lowfd := some low, tier := wish.map (·.2) }, command) := by
  obtain ⟨number, rfl⟩ := Int.eq_ofNat_of_zero_le nonneg
  have digits : Decimal.signedDigits (number : Int) = Decimal.digits number := by
    rw [Decimal.signedDigits, if_neg (by omega)]
    rfl
  let items : List ReapSettings.Item :=
    (wish.toList.map fun asked => .valued .tier 0 asked.1 (Utf8.encode asked.2.name)) ++
      [.valued .lowfd 0 .separate (Decimal.digits number)]
  have written : options wish number = items.flatMap ReapSettings.Item.words := by
    cases wish with
    | none =>
        rw [options, digits]
        rfl
    | some asked =>
        rw [options, digits]
        change _ = asked.1.wordsBehind [] _ _ _ ++ _
        rw [Form.words_behind_nothing]
        rfl
  have fit : ∀ item ∈ items, item.Fits := by
    intro item member
    rcases List.mem_append.mp member with given | last
    · obtain ⟨asked, -, rfl⟩ := List.mem_map.mp given
      exact ⟨ReapSettings.tier_name_fits asked.1 asked.2, Or.inl rfl⟩
    · rw [List.mem_singleton.mp last]
      exact ⟨ReapSettings.digits_fit number, Or.inl rfl⟩
  have follows : ReapSettings.Follows command command := by
    cases command with
    | nil => exact .nothing
    | cons first rest => exact .bare rest ((ReapSettings.shape_plain_iff first).mp (plain first rfl))
  have holds : Decimal.Range.word32.Holds number := ⟨by change (-2147483648 : Int) ≤ _; omega, fits⟩
  have lows : ReapSettings.Given ReapSettings.MeansLowfd (ReapSettings.values .lowfd items)
      (some (number : Int)) := by
    cases wish <;> exact ⟨_, rfl, Decimal.spells_digits number, holds⟩
  have tiers : ReapSettings.Given ReapSettings.MeansTier (ReapSettings.values .tier items)
      (wish.map (·.2)) := by
    cases wish with
    | none => rfl
    | some asked => exact ⟨_, rfl, rfl⟩
  have flags : ReapSettings.flagCount items = 0 := by cases wish <;> rfl
  have applied : ReapSettings.applyAll items {} = .ok _ :=
    ReapSettings.apply_all_given items lows tiers (fun _ => rfl) (fun _ => rfl) (Nat.zero_le _)
  rw [flags, Option.or_none, Option.or_none] at applied
  rw [written, ReapSettings.read_items fit follows, applied]
  rfl

theorem shape_path {home : Place} {program : Program} (tool : program ∈ Installation.tools) :
    Arguments.shape (Utf8.encode (Installation.path home program)) = .plain := by
  have below : Installation.place home program ≠ [] := by simp [Installation.place_tool home tool]
  obtain ⟨name, above, split⟩ := List.exists_cons_of_ne_nil below
  rw [Installation.path, Installation.encode_path below, split, List.flatMap_cons, List.cons_append]
  have noHyphen : (47 : UInt8) ≠ Arguments.hyphen := by decide
  generalize Utf8.encode name ++ above.flatMap (fun name => 47 :: Utf8.encode name) = rest
  cases rest with
  | nil => rfl
  | cons second rest => rw [Arguments.shape, if_pos noHyphen]

section Turns

open Program

variable (wish) {console : Console} (ready : console.Ready) (spawn : Spawn) (name : Bytes)
include ready

/-- A link closes, and then prints or runs what follows it. -/
theorem link_closes {low : Int} (above : 3 ≤ low) (fits : low ≤ maxDescriptor)
    {command : List Bytes}
    (plain : ∀ first ∈ command.head?, Arguments.shape first = .plain) :
    ∃ closed, console.Inherits closed ∧ closed.Ready ∧ closed.failure = none ∧
      closed.process = { console.process with table := console.left (wish.map (·.2)) low } ∧
      (command = [] → turn spawn .reaper name (options wish low ++ command) console =
        printOpen (some .native) false closed) ∧
      ∀ first rest, command = first :: rest →
        turn spawn .reaper name (options wish low ++ command) console =
          execute first rest closed := by
  have nonneg : 0 ≤ low := by omega
  have beyond : Console.errorStream < low := by
    rw [Console.errorStream]
    omega
  obtain ⟨given, inherits, same, whole, begins, -⟩ :=
    turn_ready ready spawn name (options wish low ++ command)
  have begun := begins _ _ (read_options nonneg fits plain)
  obtain ⟨closed, kept, unfailed, process, prints, runs⟩ :=
    reap_ready (ready.same_process inherits same) whole
      { lowfd := some low, tier := wish.map (·.2) } beyond fits
  have process : closed.process =
      { console.process with table := console.left (wish.map (·.2)) low } := by
    rw [process, Console.left, Console.left, same]
    rfl
  refine ⟨closed, inherits.trans kept, ?_, unfailed, process, ?_, ?_⟩
  · refine ready.pass_on (inherits.trans kept) (fun fd member => ?_) fun fd member => ?_
    · rw [process] at member
      exact (Console.mem_left.mp member).1
    · rw [process]
      refine Console.mem_left.mpr ⟨ready.standard fd member, Or.inl ?_⟩
      have standard : ∀ stream ∈ [Console.inputStream, Console.outputStream, Console.errorStream],
          stream < 3 := by decide
      have := standard fd member
      change fd < low
      omega
  · rintro rfl
    exact begun.trans prints
  · rintro first rest rfl
    exact begun.trans (runs first rest)

/-- A link on its own prints what it spares. -/
theorem turn_alone {low : Int} (above : 3 ≤ low) (fits : low ≤ maxDescriptor) :
    ∃ after, turn spawn .reaper name (options wish low) console = (.ends (.exited 0), after) ∧
      after.received .output = ((console.left (wish.map (·.2)) low).fds.map
        (listingLine console false)).flatMap Console.line := by
  have plain : ∀ first ∈ ([] : List Bytes).head?, Arguments.shape first = .plain := by simp
  obtain ⟨closed, inherits, readyClosed, unfailed, process, prints, -⟩ :=
    link_closes wish ready spawn name above fits plain
  obtain ⟨after, printed, written⟩ := print_open_ready readyClosed unfailed .native false
  rw [List.append_nil] at prints
  refine ⟨after, (prints rfl).trans printed, ?_⟩
  rw [written, process, listing_line_inherits inherits]

/-- A link before a program leaves it the process, with what the link spares. -/
theorem turn_link {low : Int} (above : 3 ≤ low) (fits : low ≤ maxDescriptor) (program : Program)
    (tool : program ∈ Installation.tools) (plain : Installation.Plain console.home)
    {arguments : List Bytes}
    (admitted : console.Admits (Utf8.encode (Installation.path console.home program)) arguments) :
    ∃ after, turn spawn .reaper name (options wish low ++
        Utf8.encode (Installation.path console.home program) :: arguments) console =
        (.becomes program (Utf8.encode (Installation.path console.home program)) arguments, after) ∧
      after.Ready ∧ console.Inherits after ∧
      after.process = { console.process with table := console.left (wish.map (·.2)) low } := by
  have command : ∀ first ∈ (Utf8.encode (Installation.path console.home program) ::
      arguments).head?, Arguments.shape first = .plain := by
    intro first member
    cases member
    exact shape_path tool
  obtain ⟨closed, inherits, readyClosed, -, process, -, runs⟩ :=
    link_closes wish ready spawn name above fits command
  obtain ⟨after, taken, kept, same⟩ := execute_ready readyClosed tool
    (inherits.home ▸ plain) (inherits.home ▸ inherits.admits admitted)
  rw [inherits.home] at taken
  exact ⟨after, (runs _ _ rfl).trans taken, readyClosed.same_process kept same,
    inherits.trans kept, same.trans process⟩

/-- The listing program prints what is open. -/
theorem turn_listing (long : Bool) :
    ∃ after, turn spawn .lister name (if long then [Utf8.encode "-l"] else []) console =
        (.ends (.exited 0), after) ∧
      after.received .output =
        (console.process.table.fds.map (listingLine console long)).flatMap Console.line := by
  have read : ListSettings.read (if long then [Utf8.encode "-l"] else []) =
      .ok ({ long }, []) := by
    cases long with
    | false => rfl
    | true => cbv
  obtain ⟨given, inherits, same, whole, -, begins, -⟩ := turn_ready ready spawn name _
  obtain ⟨after, printed, written⟩ :=
    list_ready (ready.same_process inherits same) whole { long }
  refine ⟨after, (begins _ _ read).trans printed, ?_⟩
  rw [written, same, listing_line_inherits inherits]

end Turns

theorem later_cons (next : Int) (rest : List Int) (last : Last) :
    later home wish (next :: rest) last =
      Utf8.encode (Installation.path home .reaper) :: words home wish (next :: rest) last := by
  rw [words_cons, later, later, List.flatMap_cons, List.cons_append, List.cons_append,
    List.append_assoc]

theorem later_sublist (rest : List Int) (last : Last) :
    (later home wish rest last).Sublist (later home wish rest (.listing true)) := by
  refine (List.Sublist.refl _).append ?_
  cases last with
  | nothing => exact List.nil_sublist _
  | listing long =>
      cases long with
      | false => exact (List.nil_sublist _).cons_cons _
      | true => exact List.Sublist.refl _

/-- A whole chain prints what all its links spare. -/
theorem run_chain (spawn : Spawn) (last : Last) (first : Int) (rest : List Int)
    {console : Console} (ready : console.Ready) (plain : Installation.Plain console.home)
    (each : ∀ low ∈ first :: rest, 3 ≤ low ∧ low ≤ maxDescriptor)
    (admitted : console.Admits (Utf8.encode (Installation.path console.home .reaper))
      (later console.home wish rest last)) (name : Bytes) :
    ∃ after, Program.runWith spawn .reaper name (words console.home wish (first :: rest) last)
        console = (.exited 0, after) ∧
      after.received .output = ((console.left (wish.map (·.2)) (rest.foldl min first)).fds.map
        (Program.listingLine console last.long)).flatMap Console.line := by
  obtain ⟨above, fits⟩ := each first List.mem_cons_self
  induction rest generalizing first console name with
  | nil =>
      rw [words_cons]
      cases last with
      | nothing =>
          obtain ⟨after, ended, written⟩ := turn_alone wish ready spawn name above fits
          rw [show later console.home wish [] .nothing = [] from rfl, List.append_nil]
          exact ⟨after, Program.run_ends ended, written⟩
      | listing long =>
          have enough := admitted.fewer (Installation.lister_shorter console.home) (List.Sublist.cons _
            (List.Sublist.refl (later console.home wish [] (.listing long))))
          obtain ⟨between, passed, readyStill, inherits, process⟩ :=
            turn_link wish ready spawn name above fits .lister (by decide)
              plain enough
          obtain ⟨after, ended, written⟩ := turn_listing readyStill spawn
            (Utf8.encode (Installation.path console.home .lister)) long
          refine ⟨after, (Program.run_becomes passed).trans (Program.run_ends ended), ?_⟩
          rw [written, process, Program.listing_line_inherits inherits]
          rfl
  | cons next rest ih =>
      rw [words_cons, later_cons]
      rw [later_cons] at admitted
      have enough := admitted.fewer (Nat.le_refl _) (List.Sublist.cons _ (List.Sublist.refl _))
      obtain ⟨between, passed, readyStill, inherits, process⟩ :=
        turn_link wish ready spawn name above fits .reaper (by decide) plain enough
      have eachLater : ∀ low ∈ next :: rest, 3 ≤ low ∧ low ≤ maxDescriptor := fun low member =>
        each low (List.mem_cons_of_mem first member)
      have admittedLater : between.Admits (Utf8.encode (Installation.path between.home .reaper))
          (later between.home wish rest last) := by
        rw [inherits.home]
        refine inherits.admits (enough.fewer (Nat.le_refl _) (List.Sublist.cons_cons _ ?_))
        rw [words_cons]
        exact List.sublist_append_right _ _
      obtain ⟨after, ended, written⟩ := ih next readyStill (inherits.home ▸ plain) eachLater
        admittedLater (Utf8.encode (Installation.path console.home .reaper))
        (eachLater next List.mem_cons_self).1 (eachLater next List.mem_cons_self).2
      rw [inherits.home] at ended
      refine ⟨after, (Program.run_becomes passed).trans ended, ?_⟩
      rw [written, Console.left_twice process, Program.listing_line_inherits inherits,
        List.foldl_cons, List.foldl_assoc]

def beforeTab (line : String) : String := String.ofList (line.toList.takeWhile (· ≠ '\t'))

theorem before_tab_number (fd : Int) (rest : String) :
    beforeTab (toString fd ++ "\t" ++ rest) = toString fd := by
  have noTab : '\t' ∉ (toString fd).toList := not_mem_number (by decide) (by decide) fd
  have all : ∀ char ∈ (toString fd).toList, decide (char ≠ '\t') = true := fun char member =>
    decide_eq_true fun same => noTab (same ▸ member)
  rw [beforeTab, String.append_assoc, String.toList_append, List.takeWhile_append_of_pos all,
    String.toList_append]
  change String.ofList ((toString fd).toList ++ []) = _
  rw [List.append_nil, String.ofList_toList]

/-- Before the tabs, the lines that tell what descriptors refer to are their numbers. -/
theorem before_tabs {console : Console} {fds : List Int}
    (linked : ∀ fd ∈ fds, ∃ target, console.links.lookup fd = some target) :
    (fds.map (Program.listingLine console true)).map beforeTab = fds.map toString ∧
      ∀ line ∈ fds.map (Program.listingLine console true), '\t' ∈ line.toList := by
  constructor
  · rw [List.map_map]
    refine List.map_congr_left fun fd member => ?_
    obtain ⟨target, found⟩ := linked fd member
    rw [Function.comp_apply, Program.listing_line_long found, before_tab_number]
  · intro line member
    obtain ⟨fd, listed, rfl⟩ := List.mem_map.mp member
    obtain ⟨target, found⟩ := linked fd listed
    rw [Program.listing_line_long found]
    simp

section Outcome

variable (wish) (first : Int) (rest : List Int) {console : Console} (ready : console.Ready)
  (plain : Installation.Plain console.home)
  (each : ∀ low ∈ first :: rest, 3 ≤ low ∧ low ≤ maxDescriptor)
include ready plain each

theorem outcome_lines (last : Last)
    (admitted : console.Admits (Utf8.encode (Installation.path console.home .reaper))
      (later console.home wish rest last))
    (whole : ∀ fd ∈ console.process.table, OneLine (Program.listingLine console last.long fd)) :
    let outcome := Program.outcome .reaper (words console.home wish (first :: rest) last) console
    outcome.ending = .exited 0 ∧
      outcome.output = (console.left (wish.map (·.2)) (rest.foldl min first)).fds.map
        (Program.listingLine console last.long) := by
  obtain ⟨after, ended, written⟩ := run_chain (Program.run 1999) last first rest ready plain each
    admitted (Utf8.encode (Installation.path console.home .reaper))
  have lines : ∀ line ∈ (console.left (wish.map (·.2)) (rest.foldl min first)).fds.map
      (Program.listingLine console last.long), OneLine line := by
    intro line member
    obtain ⟨fd, left, rfl⟩ := List.mem_map.mp member
    exact whole fd (Console.mem_left.mp left).1
  have run : Program.run Program.deepest = Program.runWith (Program.run 1999) := rfl
  rw [Program.outcome, run, ended]
  refine ⟨rfl, ?_⟩
  change textLines (after.received .output) = _
  rw [written, text_lines_written lines]

theorem outcome_numbers (last : Last) (short : last.long = false)
    (admitted : console.Admits (Utf8.encode (Installation.path console.home .reaper))
      (later console.home wish rest last)) :
    let outcome := Program.outcome .reaper (words console.home wish (first :: rest) last) console
    outcome.ending = .exited 0 ∧
      outcome.output =
        (console.left (wish.map (·.2)) (rest.foldl min first)).fds.map toString := by
  have whole : ∀ fd ∈ console.process.table,
      OneLine (Program.listingLine console last.long fd) := by
    rw [short]
    exact fun fd _ => one_line_number fd
  have lines := outcome_lines wish first rest ready plain each last admitted whole
  rw [short] at lines
  exact lines

theorem outcome_targets
    (linked : ∀ fd ∈ console.process.table, ∃ target, console.links.lookup fd = some target)
    (targets : ∀ fd target, console.links.lookup fd = some target → OneLine target.text)
    (admitted : console.Admits (Utf8.encode (Installation.path console.home .reaper))
      (later console.home wish rest (.listing true))) :
    let outcome := Program.outcome .reaper
      (words console.home wish (first :: rest) (.listing true)) console
    outcome.ending = .exited 0 ∧
      outcome.output.map beforeTab =
        (console.left (wish.map (·.2)) (rest.foldl min first)).fds.map toString ∧
      ∀ line ∈ outcome.output, '\t' ∈ line.toList := by
  have whole : ∀ fd ∈ console.process.table, OneLine (Program.listingLine console true fd) := by
    intro fd present
    obtain ⟨target, found⟩ := linked fd present
    rw [Program.listing_line_long found]
    exact one_line_append (one_line_append (one_line_number fd) (by decide))
      (targets fd target found)
  intro outcome
  have lines : outcome.ending = .exited 0 ∧ outcome.output = _ :=
    outcome_lines wish first rest ready plain each (.listing true) admitted whole
  rw [lines.2]
  exact ⟨lines.1, before_tabs fun fd left => linked fd (Console.mem_left.mp left).1⟩

end Outcome

end Chain

open Chain in
/-- A chain prints what the link with its lowest threshold prints on its own: what is open below
that threshold, and under brute force what lies beyond its reach. A listing program that comes last
prints the same, or the same before the tabs if it tells what descriptors refer to. All this is
about command lines that are not too long to be started at all. -/
theorem chain_as_lowest_link (home : Place) (files : List (Int × String)) (limit : Int)
    (logging : Option Bytes) (wish : Option (Arguments.Form × Tier)) (thresholds : List Int)
    (least : Int) (plain : Installation.Plain home)
    (extra : ∀ file ∈ files, 3 ≤ file.1 ∧ file.1 ≤ maxDescriptor)
    (opened : ∀ file ∈ files, file.1 ∈ (Console.start home files limit logging).process.table)
    (room : (Console.start home files limit logging).process.table.lowestFree < limit)
    (filters : (LogFilter.choose logging 0).isSome = true)
    (each : ∀ low ∈ thresholds, 3 ≤ low ∧ low ≤ maxDescriptor)
    (found : thresholds.min? = some least)
    (admitted : (Console.start home files limit logging).Admits
      (Utf8.encode (Installation.path home .reaper))
      (words home wish thresholds (.listing true))) :
    let start := Console.start home files limit logging
    let outcome (thresholds : List Int) (last : Last) :=
      Program.outcome .reaper (words home wish thresholds last) start
    ∃ fds : List Int, Ascending fds ∧
      (∀ fd, fd ∈ fds ↔ (fd ∈ [0, 1, 2] ∨ fd ∈ files.map (·.1)) ∧
        (fd < least ∨ wish.map (·.2) = some .bruteForce ∧ min limit maxDescriptor ≤ fd)) ∧
      ((outcome [least] .nothing).ending = .exited 0 ∧
        (outcome [least] .nothing).output = fds.map toString) ∧
      (∀ last, last.long = false → (outcome thresholds last).ending = .exited 0 ∧
        (outcome thresholds last).output = fds.map toString) ∧
      ((∀ fd target, start.links.lookup fd = some target → OneLine target.text) →
        (outcome thresholds (.listing true)).ending = .exited 0 ∧
          (outcome thresholds (.listing true)).output.map beforeTab = fds.map toString ∧
          ∀ line ∈ (outcome thresholds (.listing true)).output, '\t' ∈ line.toList) := by
  intro start outcome
  have started : start.Started home limit logging (files.map (·.1)) :=
    Console.start_started home limit logging files fun file member => (extra file member).1
  have ready : start.Ready := Console.start_ready extra room filters
  have plainStart : Installation.Plain start.home := started.home ▸ plain
  have openedAll : ∀ fd ∈ files.map (·.1), fd ∈ start.process.table := by
    intro fd member
    obtain ⟨file, among, rfl⟩ := List.mem_map.mp member
    exact opened file among
  cases thresholds with
  | nil => cases found
  | cons first rest =>
      have lowest : rest.foldl min first = least := Option.some.inj found
      have eachLeast : ∀ low ∈ [least], 3 ≤ low ∧ low ≤ maxDescriptor := fun low member =>
        each low (List.mem_singleton.mp member ▸ List.min?_mem found)
      -- Whatever is run on the way has fewer arguments than the whole command line.
      have enough (last : Last) : start.Admits (Utf8.encode (Installation.path start.home .reaper))
          (later start.home wish rest last) := by
        rw [started.home]
        refine admitted.fewer (Nat.le_refl _) (List.Sublist.cons_cons _ ?_)
        rw [words_cons]
        exact (later_sublist rest last).trans (List.sublist_append_right _ _)
      have enoughAlone := (enough .nothing).fewer (Nat.le_refl _)
        (List.Sublist.cons_cons _ (List.nil_sublist _))
      have alone := outcome_numbers wish least [] ready plainStart eachLeast .nothing rfl enoughAlone
      have numbers (last : Last) (short : last.long = false) :=
        outcome_numbers wish first rest ready plainStart each last short (enough last)
      have named (targets) := outcome_targets wish first rest ready plainStart each started.linked
        targets (enough (.listing true))
      rw [started.home] at alone
      simp only [started.home, lowest] at numbers named
      exact ⟨(start.left (wish.map (·.2)) least).fds, (start.left _ _).ascending,
        fun fd => started.mem_left openedAll, alone, numbers, named⟩

def Chain.crowdedFiles : List (Int × String) := [(4, "/dev/null"), (9, "/etc")]

def Chain.crowded : Console := Console.start Installation.usualHome crowdedFiles 8 none

def Chain.crowdedWords (last : Chain.Last) : List Bytes :=
  words Installation.usualHome (some (.wordAssigned, .bruteForce)) [7, 4, 5] last

open Chain in
theorem crowded_chain_keeps_nine :
    crowded.process.table.fds = [0, 1, 2, 4, 9] ∧
      (Program.outcome .reaper (crowdedWords .nothing) crowded).output = ["0", "1", "2", "9"] ∧
      (Program.outcome .reaper (crowdedWords (.listing true)) crowded).output.map beforeTab =
        ["0", "1", "2", "9"] := by
  have table : crowded.process.table.fds = [0, 1, 2, 4, 9] := by cbv
  have room : crowded.process.table.lowestFree < 8 := by
    change Ascending.firstGap 0 crowded.process.table.fds < 8
    rw [table]
    decide
  have opened : ∀ file ∈ crowdedFiles, file.1 ∈ crowded.process.table := by
    change ∀ file ∈ crowdedFiles, file.1 ∈ crowded.process.table.fds
    rw [table]
    decide
  have admitted : crowded.Admits (Utf8.encode (Installation.path Installation.usualHome .reaper))
      (crowdedWords (.listing true)) := by
    unfold Console.Admits
    cbv
  have targets : ∀ fd target, crowded.links.lookup fd = some target → OneLine target.text := by
    have links : crowded.links = [(9, .file ["etc"] .reading 2),
        (4, .file Target.nullPlace .reading 1), (0, .file Target.nullPlace .reading 0),
        (1, .pipe .output .writing), (2, .pipe .errors .writing)] := by
      cbv
    have each : ∀ link ∈ crowded.links, OneLine link.2.text := by
      rw [links]
      decide
    intro fd target linked
    obtain ⟨before, after, split, -⟩ := List.lookup_eq_some_iff.mp linked
    exact each (fd, target) (by rw [split]; simp)
  obtain ⟨fds, ascending, member, -, short, long⟩ := chain_as_lowest_link Installation.usualHome
    crowdedFiles 8 none (some (.wordAssigned, .bruteForce)) [7, 4, 5] 4
    Installation.usual_home_plain (by decide) opened room rfl (by decide) rfl admitted
  have listed : fds = [0, 1, 2, 9] := by
    refine Ascending.eq_of_mem_iff ascending (by decide) fun fd => (member fd).trans ?_
    simp only [crowdedFiles, List.map_cons, List.map_nil, List.mem_cons, List.not_mem_nil, or_false,
      Option.map_some, true_and]
    rw [show min 8 maxDescriptor = 8 from rfl]
    omega
  have printed : fds.map toString = ["0", "1", "2", "9"] := by
    rw [listed]
    rfl
  exact ⟨table, (short .nothing rfl).2.trans printed, (long targets).2.1.trans printed⟩

end DescriptorReaper
