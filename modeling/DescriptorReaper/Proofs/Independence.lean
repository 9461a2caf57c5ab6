import DescriptorReaper.Proofs.ScriptedReap

/-!
Reaping where no close takes other descriptors along. What becomes of a descriptor that is open is
then settled by the script, the capabilities and the threshold, whatever else is open: the listing
may show more or less of the table, and its handle may get another number, but it shows this one.
So runs with several thresholds do together what one run with the least of them does.
-/

namespace DescriptorReaper

def Capabilities.reapEach {σ : Type} [Kernel σ] (caps : Capabilities) (thresholds : List Int)
    (state : σ) : σ :=
  thresholds.foldl (fun state lowfd => (caps.reap lowfd state).2) state

namespace World

def Reaches (world : World) : Tier → Int → Prop
  | .rangeCall, _ => False
  | .listing, fd => match world.listing with
      | .live kind _ => kind ∈ EntryKind.naming ∧ 0 ≤ fd ∧ fd ≤ maxDescriptor
      | .fixed snapshot => ∃ entry ∈ snapshot.entries, entry.descriptor? = some fd
      | .failing _ => False
  | .bruteForce, fd => fd < bound world.limit

theorem mem_visited (world : World) (low : Int) (tier : Tier) (fd : Int)
    (present : fd ∈ world.table) :
    fd ∈ world.visited low tier ↔ low ≤ fd ∧ world.Reaches tier fd := by
  cases tier with
  | rangeCall => simp [visited, Reaches]
  | bruteForce => exact mem_interval
  | listing =>
      simp only [visited, snapshot, Reaches]
      cases world.listing with
      | live kind descending =>
          refine (Snapshot.mem_table_candidates world.table low fd kind descending).trans ?_
          simp only [present, true_or, and_true]
          exact and_left_comm
      | fixed shown => exact shown.mem_candidates low fd
      | failing error => simp

/-- Does a run from a number up leave a descriptor alone? -/
def Spares (world : World) (caps : Capabilities) (low fd : Int) : Prop :=
  (caps.rangeCall = true → world.escapes low fd = true) ∧
    (low ≤ fd → world.Reaches (world.tier caps) fd → world.releases fd = false)

theorem Spares.below_range {world : World} {caps : Capabilities} {low fd : Int}
    (spared : world.Spares caps low fd) (whole : world.tier caps = .rangeCall) : fd < low := by
  obtain ⟨ranged, noFault⟩ := (world.tier_eq_range caps).mp whole
  have escaped := spared.1 ranged
  rwa [escapes, noFault, decide_eq_true_eq] at escaped

/-- No close takes other descriptors along. -/
def Lone (world : World) : Prop := ∀ fd, world.takenWith fd = []

theorem mem_reap {world : World} (lone : world.Lone) (caps : Capabilities) (lowfd fd : Int) :
    fd ∈ (caps.reap lowfd world).2.table ↔
      fd ∈ world.table ∧ world.Spares caps (max lowfd 0) fd := by
  have untaken : ∀ other, fd ∉ (world.afterRange caps (max lowfd 0)).takenWith other := by
    intro other taken
    rw [show (world.afterRange caps (max lowfd 0)).takenWith other = [] from lone other] at taken
    cases taken
  rw [reap_eq, mem_after_sweep, attempts]
  constructor
  · rintro ⟨ranged, kept, -⟩
    obtain ⟨present, escapes⟩ := (world.mem_after_range caps _ fd).mp ranged
    refine ⟨present, escapes, fun above reached => kept ?_⟩
    exact (mem_visited _ _ _ fd ranged).mpr ⟨above, reached⟩
  · rintro ⟨present, escapes, kept⟩
    have ranged := (world.mem_after_range caps _ fd).mpr ⟨present, escapes⟩
    refine ⟨ranged, fun visited => ?_, fun other _ => untaken other⟩
    obtain ⟨above, reached⟩ := (mem_visited _ _ _ fd ranged).mp visited
    exact kept above reached

theorem escapes_min (world : World) (first second fd : Int) :
    world.escapes (min first second) fd = true ↔
      world.escapes first fd = true ∧ world.escapes second fd = true := by
  simp only [escapes]
  cases world.rangeFault with
  | none =>
      simp only [decide_eq_true_eq]
      omega
  | some fault =>
      obtain ⟨error, start⟩ := fault
      cases start with
      | none => simp
      | some start =>
          simp only [decide_eq_true_eq]
          omega

-- Where the range call breaks off, each threshold closes another part, but the parts add up.
theorem spares_min (world : World) (caps : Capabilities) (first second fd : Int) :
    world.Spares caps (min first second) fd ↔
      world.Spares caps first fd ∧ world.Spares caps second fd := by
  simp only [Spares, escapes_min]
  constructor
  · rintro ⟨escapes, kept⟩
    exact ⟨⟨fun ranged => (escapes ranged).1, fun above => kept (by omega)⟩,
      ⟨fun ranged => (escapes ranged).2, fun above => kept (by omega)⟩⟩
  · rintro ⟨⟨escapesFirst, keptFirst⟩, ⟨escapesSecond, keptSecond⟩⟩
    refine ⟨fun ranged => ⟨escapesFirst ranged, escapesSecond ranged⟩, fun above => ?_⟩
    rcases Int.le_total first second with order | order
    · exact keptFirst (by omega)
    · exact keptSecond (by omega)

theorem reap_script (world : World) (caps : Capabilities) (lowfd : Int) :
    caps.reap lowfd world =
      (world.tier caps, { world with table := (caps.reap lowfd world).2.table }) := by
  rw [reap_eq]
  rfl

theorem reap_reap {world : World} (lone : world.Lone) (caps : Capabilities) (first second : Int) :
    caps.reap second (caps.reap first world).2 = caps.reap (min first second) world := by
  let middle : World := { world with table := (caps.reap first world).2.table }
  have between : (caps.reap first world).2 = middle := by rw [reap_script]
  have clamped : max (min first second) 0 = min (max first 0) (max second 0) := by omega
  rw [between, reap_script middle, reap_script world caps (min first second)]
  refine congrArg (Prod.mk (world.tier caps)) (table_congr world fun fd => ?_)
  have loneMiddle : middle.Lone := lone
  rw [mem_reap loneMiddle, mem_reap lone caps (min first second), clamped, spares_min, ← and_assoc]
  exact and_congr_left fun _ => mem_reap lone caps first fd

theorem reap_each_cons {world : World} (lone : world.Lone) (caps : Capabilities) (first : Int)
    (rest : List Int) :
    caps.reapEach (first :: rest) world = (caps.reap (rest.foldl min first) world).2 := by
  induction rest generalizing first with
  | nil => rfl
  | cons next rest ih =>
      have merged : caps.reapEach (first :: next :: rest) world =
          caps.reapEach (min first next :: rest) world := by
        simp only [Capabilities.reapEach, List.foldl_cons, reap_reap lone]
      rw [merged, ih, List.foldl_cons]

end World

/-- Two runs come to the tier and leave the world that one run with the lower of their thresholds
does, so that their order makes no difference; and so do any number of runs. -/
theorem thresholds_compose (world : World) (lone : world.Lone) (caps : Capabilities) :
    (∀ first second,
        caps.reap second (caps.reap first world).2 = caps.reap (min first second) world) ∧
      (∀ first second, (caps.reap second (caps.reap first world).2).2.table =
        (caps.reap first (caps.reap second world).2).2.table) ∧
      ∀ thresholds least, thresholds.min? = some least →
        caps.reapEach thresholds world = (caps.reap least world).2 := by
  refine ⟨World.reap_reap lone caps, fun first second => ?_, ?_⟩
  · rw [World.reap_reap lone, World.reap_reap lone, Int.min_comm]
  · intro thresholds least found
    cases thresholds with
    | nil => cases found
    | cons first rest =>
        have same : rest.foldl min first = least := Option.some_inj.mp found
        rw [World.reap_each_cons lone, same]

def World.frayed : World where
  table := .ofList [0, 1, 2, 4, 5, 7, 9]
  rangeFault := some ⟨.eintr, some 6⟩
  listing := .live none true
  limit := .ok (some 8)
  closeFaults := [⟨5, .eintr, false⟩, ⟨4, .eio, true⟩]

theorem frayed_thresholds_compose :
    World.frayed.Lone ∧ [7, -3, 8, 4].min? = some (-3) ∧
      (Capabilities.mk true (some .devFd)).reapEach [7, -3, 8, 4] World.frayed =
        ((Capabilities.mk true (some .devFd)).reap (-3) World.frayed).2 := by
  have lone : World.frayed.Lone := fun _ => rfl
  obtain ⟨-, -, each⟩ := thresholds_compose World.frayed lone ⟨true, some .devFd⟩
  exact ⟨lone, rfl, each [7, -3, 8, 4] (-3) rfl⟩

end DescriptorReaper
