import DescriptorReaper.Proofs.ScriptedReap

/-!
Reaping twice. The listing of the table that a first run leaves may be read through another handle,
so a second run may try a number for a new reason. But the lowest free number of a smaller table was
free before or has been freed by the first run, and was tried by it either way. So the second run
tries nothing new, and what the first run could not close it cannot close either.
-/

namespace DescriptorReaper.World

/-- A run on a part of the table visits nothing that a run on the whole of it does not. -/
theorem visited_of_subset (world : World) (smaller : Table)
    (within : ∀ fd ∈ smaller, fd ∈ world.table) (low : Int) (tier : Tier) (fd : Int)
    (member : fd ∈ ({ world with table := smaller } : World).visited low tier) :
    fd ∈ world.visited low tier := by
  cases tier with
  | rangeCall => exact member
  | bruteForce => exact member
  | listing =>
      simp only [visited, snapshot] at member ⊢
      cases source : world.listing with
      | fixed shown => simpa only [source] using member
      | failing error => simpa only [source] using member
      | live kind descending =>
          simp only [source] at member ⊢
          obtain ⟨naming, reached, nonneg, fits, shown⟩ :=
            (Snapshot.mem_table_candidates smaller low fd kind descending).mp member
          refine (Snapshot.mem_table_candidates world.table low fd kind descending).mpr
            ⟨naming, reached, nonneg, fits, ?_⟩
          rcases shown with present | handle
          · exact Or.inl (within fd present)
          · rw [handle]
            exact Table.lowestFree_of_subset within

/-- A world whose table is no larger than what the range call leaves is left as it is by it. -/
theorem after_range_settled (world : World) (caps : Capabilities) (low : Int) (settled : Table)
    (within : ∀ fd ∈ settled, fd ∈ (world.afterRange caps low).table) :
    ({ world with table := settled } : World).afterRange caps low =
      { world with table := settled } := by
  refine table_congr { world with table := settled } fun fd => ?_
  refine (mem_after_range { world with table := settled } caps low fd).trans ?_
  constructor
  · exact And.left
  · intro present
    exact ⟨present, ((world.mem_after_range caps low fd).mp (within fd present)).2⟩

section Again

variable (world : World) (fds again : List Int) (within : ∀ fd ∈ again, fd ∈ fds)
include within

-- What survived the first closes of these numbers survives any further closes of them.
theorem close_again_idle (fd : Int) (member : fd ∈ again) :
    (world.afterSweep fds).afterClose fd = world.afterSweep fds := by
  refine table_congr (world.afterSweep fds) fun other => ?_
  refine (mem_after_close (world.afterSweep fds) fd other).trans ?_
  constructor
  · exact And.left
  · intro left
    obtain ⟨-, kept, spared⟩ := (world.mem_after_sweep fds other).mp left
    refine ⟨left, ?_, spared fd (within fd member)⟩
    rintro rfl
    exact kept (within other member)

-- A number still open was not released, so its close failed before and fails again.
theorem close_again_fails (fd : Int) (member : fd ∈ again) :
    ((world.afterSweep fds).closeAnswer fd).isOk = false := by
  rw [closeAnswer]
  by_cases left : fd ∈ (world.afterSweep fds).table
  · obtain ⟨-, kept, -⟩ := (world.mem_after_sweep fds fd).mp left
    have stays : (world.afterSweep fds).releases fd = false := kept (within fd member)
    rw [if_pos left]
    rw [releases] at stays
    cases found : (world.afterSweep fds).closeFault? fd with
    | none =>
        rw [found] at stays
        cases stays
    | some fault => rfl
  · rw [if_neg left]
    rfl

theorem sweep_again_idle : (world.afterSweep fds).afterSweep again = world.afterSweep fds := by
  refine table_congr (world.afterSweep fds) fun fd => ?_
  refine (mem_after_sweep (world.afterSweep fds) again fd).trans ?_
  constructor
  · exact And.left
  · intro left
    obtain ⟨-, kept, spared⟩ := (world.mem_after_sweep fds fd).mp left
    exact ⟨left, fun member => kept (within fd member),
      fun other member => spared other (within other member)⟩

theorem sweep_again_counts_none : (world.afterSweep fds).closedBy again = 0 :=
  closed_by_idle again (world.afterSweep fds) (close_again_idle world fds again within)
    (close_again_fails world fds again within)

end Again

/-- A second run comes to the same tier, leaves the world as the first one left it, and has closed
nothing to tell of. -/
theorem reap_again (world : World) (caps : Capabilities) (lowfd : Int) :
    caps.reap lowfd (caps.reap lowfd world).2 = caps.reap lowfd world ∧
      (caps.reap lowfd (Recorded.start (caps.reap lowfd world).2)).2.counts =
        if (caps.reap lowfd world).1 = .rangeCall then [] else [0] := by
  have first := reap_eq caps lowfd world
  let start := world.afterRange caps (max lowfd 0)
  let left := start.afterSweep (world.attempts caps lowfd)
  have within : ∀ fd ∈ left.table, fd ∈ start.table := fun fd member =>
    ((start.mem_after_sweep _ fd).mp member).1
  have settled : left.afterRange caps (max lowfd 0) = left :=
    after_range_settled world caps (max lowfd 0) left.table within
  have visits : ∀ fd ∈ left.attempts caps lowfd, fd ∈ world.attempts caps lowfd := by
    intro fd member
    rw [attempts, settled] at member
    exact visited_of_subset start left.table within (max lowfd 0) (world.tier caps) fd member
  constructor
  · rw [first, reap_eq, settled, sweep_again_idle start _ _ visits]
    rfl
  · rw [first, (reap_swept caps lowfd (Recorded.start left)).tells]
    have idle : left.closedBy (left.attempts caps lowfd) = 0 :=
      sweep_again_counts_none start _ _ visits
    rw [attempts, settled] at idle
    change [] ++ _ = _
    rw [List.nil_append, show (Recorded.start left).state = left from rfl, settled, idle]
    rfl

end DescriptorReaper.World
