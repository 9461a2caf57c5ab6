import DescriptorReaper.Proofs.ScriptedReap

/-!
What a sweep leaves, under any failures. A run closes what the range call takes, and then each
number that its tier visits goes: released if its close releases it, and along with it what the
script takes away. No answer to one close keeps the sweep from the next number, and the order of the
visits makes no difference to the table.
-/

namespace DescriptorReaper

namespace World

theorem range_call_leaves (world : World) (caps : Capabilities) (low : Int) :
    (if caps.rangeCall then (Kernel.closeRange low world).2 else world) =
      world.afterRange caps low := by
  rw [afterRange]
  cases caps.rangeCall <;> rfl

end World

/-- Every number of the sweep is tried once, in ascending order: those that the listing names from
the threshold up, or all those from there to the bound. The table left is the one that the range
call left, less what these closes release and less what they take along. -/
theorem reap_leaves_residue (world : World) (caps : Capabilities) (lowfd : Int) :
    let low := max lowfd 0
    let start := if caps.rangeCall then (Kernel.closeRange low world).2 else world
    let run := caps.reap lowfd world
    let attempts := (caps.reap lowfd (Recorded.start world)).2.closes.map Prod.fst
    (run.1 = .rangeCall → attempts = []) ∧
      (run.1 = .listing → ∃ shown, start.snapshot = .ok shown ∧ attempts = shown.candidates low ∧
        ∀ fd, fd ∈ attempts ↔ low ≤ fd ∧ ∃ entry ∈ shown.entries, entry.descriptor? = some fd) ∧
      (run.1 = .bruteForce → ∀ fd, fd ∈ attempts ↔ low ≤ fd ∧ fd < bound world.limit) ∧
      Ascending attempts ∧
      (∀ fd, fd ∈ run.2.table ↔
        fd ∈ start.table ∧ ¬ (fd ∈ attempts ∧ world.releases fd = true) ∧
          ¬ ∃ other ∈ attempts, fd ∈ world.takenWith other) ∧
      ∀ (note : Int → Errno → Option Event) (order : List Int),
        (∀ fd, fd ∈ order ↔ fd ∈ attempts) → (sweep note order 0 start).2.table = run.2.table := by
  intro low start run attempts
  have begun : start = world.afterRange caps low := world.range_call_leaves caps low
  -- The tier is the script's business, so the attempts can be named before the run.
  have ended : run.1 = world.tier caps := congrArg Prod.fst (World.reap_eq caps lowfd world)
  have tried : attempts = start.visited low run.1 := by
    rw [begun, ended]
    exact World.reap_attempts caps lowfd world
  have left : run.2 = start.afterSweep attempts := by
    rw [tried, ended, begun]
    exact congrArg Prod.snd (World.reap_eq caps lowfd world)
  refine ⟨fun whole => ?_, fun listed => ?_, fun counted fd => ?_, ?_, fun fd => ?_,
    fun note order same => ?_⟩
  · rw [tried, whole, World.visited]
  · obtain ⟨-, -, shown, taken⟩ := (world.tier_eq_listing caps low).mp (ended.symm.trans listed)
    rw [← begun] at taken
    refine ⟨shown, taken, ?_, fun fd => ?_⟩
    · rw [tried, listed, World.visited, taken]
    · rw [tried, listed]
      exact start.mem_visited_listing low taken fd
  · rw [tried, counted, start.mem_visited_numbers, begun]
    rfl
  · rw [tried]
    exact start.visited_ascending low run.1
  · have releases : start.releases fd = world.releases fd := by rw [begun]; rfl
    have taken : ∀ other, start.takenWith other = world.takenWith other := by
      rw [begun]
      exact fun _ => rfl
    rw [left, World.mem_after_sweep]
    simp only [releases, taken, not_and, Bool.not_eq_true, not_exists]
  · rw [World.sweep_eq, left, World.after_sweep_congr start same]

/-- The close of 5 fails and keeps it, the close of 6 fails and releases it, and 4 takes 9 and 1
along. The listing names 6 twice and out of order. -/
def World.entangled : World where
  table := .ofList [0, 1, 2, 4, 5, 6, 9]
  listing := .fixed ⟨3, [⟨[54], none⟩, ⟨[48, 54], none⟩, ⟨[53], some .symlink⟩, ⟨[52], none⟩]⟩
  closeFaults := [⟨5, .eintr, false⟩, ⟨6, .eio, true⟩]
  sideCloses := [⟨4, [9, 1]⟩]

def World.unlisted : World :=
  { World.entangled with
    rangeFault := some ⟨.eintr, some 8⟩, listing := .failing .enoent, limit := .ok (some 7) }

theorem entangled_leaves_residue :
    let run := (Capabilities.mk false (some .devFd)).reap 4 World.entangled
    let lastRun := (Capabilities.mk true (some .devFd)).reap 2 World.unlisted
    let numbers := ((Capabilities.mk true (some .devFd)).reap 2
      (Recorded.start World.unlisted)).2.closes.map Prod.fst
    run.1 = .listing ∧ 1 ∉ run.2.table ∧
      (sweep (fun _ _ => none) [6, 5, 4, 5] 0 World.entangled).2.table = run.2.table ∧
      lastRun.1 = .bruteForce ∧ numbers = [2, 3, 4, 5, 6] ∧
      ∀ fd ∈ World.unlisted.table.fds, fd ∈ lastRun.2.table ↔ fd = 0 ∨ fd = 5 := by
  intro run lastRun numbers
  have listed : run.1 = .listing := by decide
  have counted : lastRun.1 = .bruteForce := by decide
  obtain ⟨-, named, -, -, residue, unordered⟩ :=
    reap_leaves_residue World.entangled ⟨false, some .devFd⟩ 4
  obtain ⟨shown, taken, attempts, -⟩ := named listed
  cases taken
  rw [attempts, show Snapshot.candidates _ _ = [4, 5, 6] by decide] at residue unordered
  obtain ⟨-, -, limited, ascending, lastResidue, -⟩ :=
    reap_leaves_residue World.unlisted ⟨true, some .devFd⟩ 2
  have tried := Ascending.eq_of_mem_iff ascending (by decide : Ascending [2, 3, 4, 5, 6])
    fun fd => by
      rw [limited counted, show bound World.unlisted.limit = 7 from rfl]
      simp only [List.mem_cons, List.not_mem_nil, or_false]
      omega
  rw [tried] at lastResidue
  refine ⟨listed, fun left => ?_, unordered (fun _ _ => none) [6, 5, 4, 5] fun fd => ?_, counted,
    tried, fun fd => ?_⟩
  · exact ((residue 1).mp left).2.2 ⟨4, by decide, by decide⟩
  · simp only [List.mem_cons, List.not_mem_nil, or_false]
    omega
  · rw [lastResidue fd]
    revert fd
    decide

end DescriptorReaper
