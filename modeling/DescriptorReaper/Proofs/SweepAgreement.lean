import DescriptorReaper.Proofs.CallOrder
import DescriptorReaper.Proofs.Independence

/-!
The sweep of the listing and the sweep of numbers do the same work. Most numbers below the bound are
not open, and the listing names its own handle, which is not open either. Told apart from these, the
closes that meet an open descriptor are the same in both sweeps, in the same order and with the same
answers, as long as no close takes other descriptors along.
-/

namespace DescriptorReaper.World

/-- Of closes that are made one after the other from a world on, those that meet an open descriptor,
or those that do not. -/
def meeting (isOpen : Bool) :
    List (Int × Except Errno Unit) → World → List (Int × Except Errno Unit)
  | [], _ => []
  | close :: rest, world =>
      let later := meeting isOpen rest (world.afterClose close.1)
      if decide (close.1 ∈ world.table) = isOpen then close :: later else later

theorem mem_after_lone_close {world : World} (lone : world.Lone) (fd member : Int)
    (other : member ≠ fd) : member ∈ (world.afterClose fd).table ↔ member ∈ world.table := by
  rw [mem_after_close, lone fd]
  constructor
  · exact And.left
  · intro present
    exact ⟨present, fun same => absurd same other, List.not_mem_nil⟩

-- Each number comes up once, and the closes before it are of other numbers, so what is open when
-- its turn comes was open at the start.
theorem meeting_answers {world : World} (lone : world.Lone) (isOpen : Bool) (fds : List Int)
    (sorted : Ascending fds) :
    meeting isOpen (answers fds world) world =
      (fds.filter fun fd => decide (fd ∈ world.table) = isOpen).map fun fd =>
        (fd, world.closeAnswer fd) := by
  induction fds generalizing world with
  | nil => rfl
  | cons fd rest ih =>
      obtain ⟨below, tail⟩ := List.pairwise_cons.mp sorted
      have loneLater : (world.afterClose fd).Lone := lone
      have untouched : ∀ later ∈ rest,
          (later ∈ (world.afterClose fd).table ↔ later ∈ world.table) := by
        intro later member
        have after := below later member
        exact mem_after_lone_close lone fd later (by omega)
      have later : meeting isOpen (answers rest (world.afterClose fd)) (world.afterClose fd) =
          (rest.filter fun fd => decide (fd ∈ world.table) = isOpen).map fun fd =>
            (fd, world.closeAnswer fd) := by
        rw [ih loneLater tail]
        have kept : rest.filter (fun other =>
              decide (decide (other ∈ (world.afterClose fd).table) = isOpen)) =
            rest.filter fun other => decide (decide (other ∈ world.table) = isOpen) := by
          refine List.filter_congr fun other member => ?_
          simp only [untouched other member]
        rw [kept]
        refine List.map_congr_left fun other member => ?_
        have present := untouched other (List.mem_filter.mp member).1
        have faults : (world.afterClose fd).closeFault? other = world.closeFault? other := rfl
        simp only [closeAnswer, present, faults]
      simp only [answers, meeting, later]
      by_cases meets : decide (fd ∈ world.table) = isOpen
      · rw [if_pos meets, List.filter_cons_of_pos (by simpa using meets), List.map_cons]
      · rw [if_neg meets, List.filter_cons_of_neg (by simpa using meets)]

/-- Only closes that meet an open descriptor count. -/
theorem closed_by_meeting (world : World) (fds : List Int) :
    world.closedBy fds =
      (meeting true (answers fds world) world).countP fun answer => answer.2.isOk := by
  induction fds generalizing world with
  | nil => rfl
  | cons fd rest ih =>
      have tail := ih (world.afterClose fd)
      rw [closedBy] at tail ⊢
      simp only [answers, meeting, List.countP_cons, tail]
      by_cases present : fd ∈ world.table
      · simp [present, List.countP_cons]
      · have refused : world.closeAnswer fd = .error .ebadf := by rw [closeAnswer, if_neg present]
        simp [present, refused, Except.isOk, Except.toBool]

theorem bound_positive (answer : Except Errno (Option Int)) : 0 < bound answer := by
  have assumed : 0 < assumedLimit := by decide
  cases answer with
  | error _ => exact assumed
  | ok limit =>
      cases limit with
      | none => exact assumed
      | some limit =>
          rw [bound]
          split
          next positive => exact Int.lt_min.mpr ⟨positive, by decide⟩
          next => exact assumed

section Bounded

variable {world : World} (bounded : ∀ fd ∈ world.table, fd < bound world.limit)
include bounded

/-- Below the bound a number is left for the handle of the listing, or the bound itself is. -/
theorem lowest_free_bounded : world.table.lowestFree ≤ bound world.limit := by
  refine Int.not_lt.mp fun beyond => ?_
  have nonneg := Int.le_of_lt (bound_positive world.limit)
  have present := bounded _ (Table.mem_of_lt_lowestFree nonneg beyond)
  omega

variable {kind : Option EntryKind} {shown : Snapshot} (taken : world.snapshot = .ok shown)
  (shows : shown.Shows world.table kind) (naming : kind ∈ EntryKind.naming) {low : Int}
  (nonneg : 0 ≤ low)
include taken shows naming nonneg

theorem mem_shown_visited (fd : Int) :
    fd ∈ world.visited low .listing ↔
      low ≤ fd ∧ (fd ∈ world.table ∨ fd = world.table.lowestFree) := by
  have fits := bound_fits world.limit
  have handle := lowest_free_bounded bounded
  simp only [visited, taken]
  rw [shows.mem_candidates]
  constructor
  · rintro ⟨-, reached, -, -, listed⟩
    exact ⟨reached, listed⟩
  · rintro ⟨reached, listed⟩
    refine ⟨naming, reached, by omega, ?_, listed⟩
    rcases listed with present | rfl
    · have := bounded fd present
      omega
    · omega

/-- Of the numbers that are open, both sweeps visit the same, in the same order. -/
theorem open_visited :
    (world.visited low .listing).filter (fun fd => decide (decide (fd ∈ world.table) = true)) =
      (world.visited low .bruteForce).filter
        (fun fd => decide (decide (fd ∈ world.table) = true)) := by
  refine Ascending.eq_of_mem_iff ((world.visited_ascending low .listing).filter _)
    ((world.visited_ascending low .bruteForce).filter _) fun fd => ?_
  simp only [List.mem_filter, decide_eq_true_eq,
    mem_shown_visited bounded taken shows naming nonneg]
  constructor
  · rintro ⟨⟨reached, -⟩, present⟩
    exact ⟨mem_interval.mpr ⟨reached, bounded fd present⟩, present⟩
  · rintro ⟨counted, present⟩
    exact ⟨⟨(mem_interval.mp counted).1, Or.inl present⟩, present⟩

/-- The one number that the listing names without need is that of its handle. -/
theorem closed_visited :
    (world.visited low .listing).filter (fun fd => decide (decide (fd ∈ world.table) = false)) =
      if low ≤ shown.handle then [shown.handle] else [] := by
  rw [shows.handle]
  have absent := world.table.lowestFree_not_mem
  refine Ascending.eq_of_mem_iff ((world.visited_ascending low .listing).filter _) ?_ fun fd => ?_
  · split <;> simp [Ascending]
  · simp only [List.mem_filter, decide_eq_true_eq, decide_eq_false_iff_not,
      mem_shown_visited bounded taken shows naming nonneg]
    constructor
    · rintro ⟨⟨reached, present | rfl⟩, missing⟩
      · exact absurd present missing
      · rw [if_pos reached]
        exact List.mem_singleton_self _
    · intro member
      split at member
      next reached =>
        rw [List.mem_singleton.mp member]
        exact ⟨⟨reached, Or.inr rfl⟩, absent⟩
      next => cases member

end Bounded

theorem sweep_listing_closes (dir : ListingDir) (low : Int) (world : World) :
    (sweepListing dir low (Recorded.start world)).2.closes =
      answers (world.visited low .listing) world :=
  Recorded.closes_of_calls _ [.snapshot dir world.snapshot] _ (by simp [Call.closing?])
    (sweep_listing_calls dir low (Recorded.start world))

theorem sweep_numbers_closes (low : Int) (world : World) :
    (sweepNumbers low (Recorded.start world)).2.closes =
      answers (world.visited low .bruteForce) world :=
  Recorded.closes_of_calls _ [.limit world.limit] _ (by simp [Call.closing?])
    (sweep_numbers_calls low (Recorded.start world))

/-- What is closed by a sweep hangs on the open descriptors among its numbers alone. -/
theorem after_sweep_open {world : World} (lone : world.Lone) (fds : List Int) :
    world.afterSweep (fds.filter fun fd => decide (fd ∈ world.table) = true) =
      world.afterSweep fds := by
  refine table_congr world fun fd => ?_
  refine (mem_after_sweep world _ fd).trans (Iff.trans ?_ (mem_after_sweep world fds fd).symm)
  refine and_congr_right fun present => ?_
  have untaken : ∀ other, fd ∉ world.takenWith other := by
    intro other
    rw [lone other]
    exact List.not_mem_nil
  simp [List.mem_filter, present, untaken]

end DescriptorReaper.World

namespace DescriptorReaper

/-- Where the listing shows the table, in whatever order, and the bound lies above all that is open,
the sweeps of the listing and of the numbers make the same closes of open descriptors, in the same
order and with the same answers, tell the same count and leave the same world. Of numbers that are
not open, the sweep of the listing tries its handle, once, if it reaches that low, and nothing else.
-/
theorem sweeps_agree (world : World) (lone : world.Lone) (kind : Option EntryKind)
    (naming : kind ∈ EntryKind.naming) (shown : Snapshot) (taken : world.snapshot = .ok shown)
    (shows : shown.Shows world.table kind) (bounded : ∀ fd ∈ world.table, fd < bound world.limit)
    (dir : ListingDir) (low : Int) (nonneg : 0 ≤ low) :
    let listed := sweepListing dir low (Recorded.start world)
    let counted := sweepNumbers low (Recorded.start world)
    World.meeting true listed.2.closes world = World.meeting true counted.2.closes world ∧
      listed.1 = .ok counted.1 ∧
      listed.2.state = counted.2.state ∧
      World.meeting false listed.2.closes world =
        if low ≤ shown.handle then [(shown.handle, .error .ebadf)] else [] := by
  intro listed counted
  have sorted := world.visited_ascending low
  have sameOpen := World.open_visited bounded taken shows naming nonneg
  have listedCloses : listed.2.closes = _ := World.sweep_listing_closes dir low world
  have countedCloses : counted.2.closes = _ := World.sweep_numbers_closes low world
  have sameMeeting : World.meeting true listed.2.closes world =
      World.meeting true counted.2.closes world := by
    rw [listedCloses, countedCloses, World.meeting_answers lone true _ (sorted .listing),
      World.meeting_answers lone true _ (sorted .bruteForce), sameOpen]
  -- What the sweeps come to is told on the world itself; the record is only kept along with it.
  have listedRun : (.ok _, _) = (listed.1, listed.2.state) :=
    (world.sweep_listing_shown dir low _ taken).symm.trans
      (Recorded.state_projects.sweep_listing dir low (Recorded.start world))
  have countedRun : (_, _) = (counted.1, counted.2.state) :=
    (world.sweep_numbers_eq low).symm.trans
      (Recorded.state_projects.sweep_numbers low (Recorded.start world))
  obtain ⟨listedCount, listedState⟩ := Prod.mk.inj listedRun
  obtain ⟨count, state⟩ := Prod.mk.inj countedRun
  refine ⟨sameMeeting, ?_, ?_, ?_⟩
  · rw [listedCloses, countedCloses] at sameMeeting
    rw [← listedCount, ← count, World.closed_by_meeting, World.closed_by_meeting, sameMeeting]
  · rw [← listedState, ← state, ← World.after_sweep_open lone, sameOpen,
      World.after_sweep_open lone]
  · rw [listedCloses, World.meeting_answers lone false _ (sorted .listing),
      World.closed_visited bounded taken shows naming nonneg]
    have refused : world.closeAnswer shown.handle = .error .ebadf := by
      rw [World.closeAnswer, shows.handle, if_neg world.table.lowestFree_not_mem]
    split
    · rw [List.map_singleton, refused]
    · rfl

def Snapshot.scrambled : Snapshot :=
  ⟨3, ["9", "3", "..", "0", "5", "1", "7", ".", "4", "2"].map fun name => ⟨Utf8.encode name, none⟩⟩

def World.chipped : World where
  table := .ofList [0, 1, 2, 4, 5, 7, 9]
  listing := .fixed .scrambled
  limit := .ok (some 12)
  closeFaults := [⟨5, .eintr, false⟩, ⟨4, .ebadf, true⟩]

theorem chipped_sweeps_agree :
    World.chipped.Lone ∧ none ∈ EntryKind.naming ∧ World.chipped.snapshot = .ok .scrambled ∧
      Snapshot.scrambled.Shows World.chipped.table none ∧
      (∀ fd ∈ World.chipped.table, fd < bound World.chipped.limit) ∧ (0 : Int) ≤ 2 ∧
      (sweepListing .devFd 2 (Recorded.start World.chipped)).1 =
        .ok (sweepNumbers 2 (Recorded.start World.chipped)).1 ∧
      (sweepNumbers 2 (Recorded.start World.chipped)).1 = 3 ∧
      World.meeting false (sweepListing .devFd 2 (Recorded.start World.chipped)).2.closes
        World.chipped = [(3, .error .ebadf)] := by
  have lone : World.chipped.Lone := fun _ => rfl
  have naming : none ∈ EntryKind.naming := by decide
  have entries : (Snapshot.ofTable World.chipped.table none false).entries =
      [".", "..", "0", "1", "2", "3", "4", "5", "7", "9"].map fun name =>
        ⟨Utf8.encode name, none⟩ := by
    cbv
  have shows : Snapshot.scrambled.Shows World.chipped.table none := by
    refine ⟨by decide, ?_⟩
    rw [entries]
    decide
  have bounded : ∀ fd ∈ World.chipped.table, fd < bound World.chipped.limit := by
    change ∀ fd ∈ [0, 1, 2, 4, 5, 7, 9], fd < 12
    decide
  obtain ⟨-, sameCount, -, idle⟩ :=
    sweeps_agree World.chipped lone none naming .scrambled rfl shows bounded .devFd 2 (by decide)
  exact ⟨lone, naming, rfl, shows, bounded, by decide, sameCount, by decide, idle⟩

end DescriptorReaper
