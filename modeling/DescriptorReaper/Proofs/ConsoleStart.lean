import DescriptorReaper.Proofs.ConsoleReap

/-!
How a process starts. Each file that can be opened takes its number, and nothing else changes by
that, so that a process that starts with a number free below its limit is ready for the programs.
-/

namespace DescriptorReaper.Console

variable {home : Place} {limit : Int} {logging : Option Bytes}

structure Started (console : Console) (home : Place) (limit : Int) (logging : Option Bytes)
    (numbers : List Int) : Prop where
  home : console.home = home
  limit : console.process.limit = limit
  environment : console.environment = startEnvironment logging
  hidden : console.hidden = []
  bounds : console.bounds = []
  contents : console.machine.contents = []
  unwritten : console.received .output = []
  printed : console.links.lookup outputStream = some (.pipe .output .writing)
  logged : console.links.lookup errorStream = some (.pipe .errors .writing)
  standard : ∀ fd ∈ [inputStream, outputStream, errorStream], fd ∈ console.process.table
  within : ∀ fd ∈ console.process.table,
    fd ∈ [inputStream, outputStream, errorStream] ∨ fd ∈ numbers
  linked : ∀ fd ∈ console.process.table, ∃ target, console.links.lookup fd = some target

theorem standard_started (numbers : List Int) :
    (standard home limit logging).Started home limit logging numbers where
  home := rfl
  limit := rfl
  environment := rfl
  hidden := rfl
  bounds := rfl
  contents := rfl
  unwritten := rfl
  printed := rfl
  logged := rfl
  standard := by
    change ∀ fd ∈ [inputStream, outputStream, errorStream], fd ∈ Table.standard
    decide
  within fd member := Or.inl (Table.mem_ofList.mp member)
  linked fd member := by
    have listed : fd ∈ [inputStream, outputStream, errorStream] := Table.mem_ofList.mp member
    simp only [List.mem_cons, List.not_mem_nil, or_false] at listed
    rcases listed with rfl | rfl | rfl <;> exact ⟨_, rfl⟩

/-- Opening a file for reading takes a number for the opening and changes nothing else. -/
theorem open_found_reading {console next : Console} {view : Installation.View}
    {found : Installation.Found} {target : Target}
    (opened : console.openFound view found { access := .reading } = .ok (target, next)) :
    (∃ openings, next = { console with machine := { console.machine with openings } }) ∧
      target.access = .reading := by
  have place (place : Place)
      (opened : (Except.ok (console.openPlace place .reading) :
        Except SystemFault (Target × Console)) = .ok (target, next)) :
      (∃ openings, next = { console with machine := { console.machine with openings } }) ∧
        target.access = .reading := by
    cases opened
    exact ⟨⟨_, rfl⟩, rfl⟩
  obtain ⟨spot, node⟩ := found
  cases node with
  | pipe pipe =>
      cases opened
      exact ⟨⟨console.machine.openings, rfl⟩, rfl⟩
  | directory => exact place spot opened
  | device =>
      change (if spot = ["dev", "tty"] then Except.error SystemFault.noDevice
        else Except.ok (console.openPlace spot .reading)) = _ at opened
      split at opened
      · cases opened
      · exact place spot opened
  | file => exact place spot opened
  | program program => exact place spot opened
  | link => exact place spot opened

theorem open_path_reading {console next : Console} {program : Program} {path : Bytes}
    {target : Target}
    (opened : console.openPath program path { access := .reading } = .ok (target, next)) :
    (∃ openings, next = { console with machine := { console.machine with openings } }) ∧
      target.access = .reading := by
  unfold openPath at opened
  dsimp only at opened
  rw [if_neg Bool.false_ne_true] at opened
  dsimp only at opened
  split at opened
  next found _ =>
    rw [if_neg Bool.false_ne_true] at opened
    exact open_found_reading opened
  next =>
    rw [if_neg Bool.false_ne_true] at opened
    cases opened
  next => cases opened

namespace Started

variable {numbers : List Int} {console : Console} (started : console.Started home limit logging numbers)
include started

theorem attach {fd : Int} (extra : 3 ≤ fd) (member : fd ∈ numbers) (target : Target) :
    (console.attach fd target).Started home limit logging numbers := by
  have above : ∀ stream ∈ [inputStream, outputStream, errorStream], stream ≠ fd := by
    intro stream listed
    have low : ∀ stream ∈ [inputStream, outputStream, errorStream], stream < 3 := by decide
    have := low stream listed
    omega
  have elsewhere (other : Int) (apart : other ≠ fd) :
      (console.attach fd target).links.lookup other = console.links.lookup other := by
    change ((fd, target) :: console.links.filter (·.1 ≠ fd)).lookup other = _
    rw [List.lookup_cons, beq_eq_false_iff_ne.mpr apart]
    exact lookup_filter_other console.links apart
  refine { started with hidden := ?_, printed := ?_, logged := ?_, standard := ?_, within := ?_, linked := ?_ }
  · change console.hidden.filter (· ≠ fd) = []
    rw [started.hidden]
    rfl
  · rw [elsewhere _ (above _ (by decide)), started.printed]
  · rw [elsewhere _ (above _ (by decide)), started.logged]
  · exact fun stream listed => Table.mem_insert.mpr (Or.inr (started.standard stream listed))
  · intro other present
    rcases Table.mem_insert.mp present with new | old
    · exact Or.inr (new ▸ member)
    · exact started.within other old
  · intro other present
    by_cases apart : other = fd
    · subst apart
      exact ⟨target, by simp [Console.attach]⟩
    · rw [elsewhere other apart]
      exact started.linked other ((Table.mem_insert.mp present).resolve_left apart)

theorem with_file {fd : Int} (extra : 3 ≤ fd) (member : fd ∈ numbers) (path : String) :
    (console.withFile fd path).Started home limit logging numbers := by
  unfold withFile
  split
  next target next opened =>
    obtain ⟨⟨openings, rfl⟩, -⟩ := open_path_reading opened
    have kept : Started { console with machine := { console.machine with openings } }
        home limit logging numbers := { started with }
    exact kept.attach extra member target
  next => exact started

/-- What is left, of the standard streams and of the files that were opened. -/
theorem mem_left (opened : ∀ fd ∈ numbers, fd ∈ console.process.table) {tier : Option Tier}
    {low fd : Int} :
    fd ∈ console.left tier low ↔
      (fd ∈ [inputStream, outputStream, errorStream] ∨ fd ∈ numbers) ∧ Spares tier limit low fd := by
  rw [Console.mem_left, started.limit]
  refine and_congr_left fun _ => ⟨started.within fd, ?_⟩
  rintro (stream | extra)
  · exact started.standard fd stream
  · exact opened fd extra

end Started

variable (home limit logging) in
/-- What holds at first and is kept by every file that is opened holds at the start. -/
theorem start_induction (invariant : Console → Prop) (files : List (Int × String))
    (first : invariant (standard home limit logging))
    (step : ∀ console, ∀ file ∈ files, invariant console →
      invariant (console.withFile file.1 file.2)) :
    invariant (start home files limit logging) := by
  suffices reached : ∀ console, invariant console →
      invariant (files.foldl (fun console file => console.withFile file.1 file.2) console) from
    reached _ first
  induction files with
  | nil => exact fun _ holds => holds
  | cons file files ih =>
      intro console holds
      exact ih (fun console later member => step console later (List.mem_cons_of_mem _ member)) _
        (step console file List.mem_cons_self holds)

variable (home limit logging) in
theorem start_started (files : List (Int × String)) (extra : ∀ file ∈ files, 3 ≤ file.1) :
    (start home files limit logging).Started home limit logging (files.map (·.1)) := by
  let numbers := files.map (·.1)
  exact start_induction home limit logging (Started · home limit logging numbers) files
    (standard_started numbers) fun _ file member started =>
      started.with_file (extra file member) (List.mem_map.mpr ⟨file, member, rfl⟩) file.2

variable (home limit logging) in
theorem start_limit (files : List (Int × String)) :
    (start home files limit logging).process.limit = limit := by
  refine start_induction home limit logging (·.process.limit = limit) files rfl
    fun console file _ same => ?_
  unfold withFile
  split
  next opened =>
    obtain ⟨⟨openings, rfl⟩, -⟩ := open_path_reading opened
    exact same
  next => exact same

/-- A process that starts with a free number below its limit is ready for the programs. -/
theorem start_ready {files : List (Int × String)}
    (extra : ∀ file ∈ files, 3 ≤ file.1 ∧ file.1 ≤ maxDescriptor)
    (room : (start home files limit logging).process.table.lowestFree < limit)
    (filters : (LogFilter.choose logging 0).isSome = true) :
    (start home files limit logging).Ready := by
  have started := start_started home limit logging files fun file member => (extra file member).1
  refine { started with numbers := fun fd member => ?_, room := ?_, filters := ?_ }
  · have standard : ∀ stream ∈ [inputStream, outputStream, errorStream],
        0 ≤ stream ∧ stream ≤ maxDescriptor := by decide
    rcases started.within fd member with listed | opened
    · exact standard fd listed
    · obtain ⟨file, among, rfl⟩ := List.mem_map.mp opened
      have := extra file among
      omega
  · rw [started.limit]
    exact room
  · rw [started.environment]
    cases logging <;> exact filters

end DescriptorReaper.Console
