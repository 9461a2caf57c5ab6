import DescriptorReaper.Proofs.Independence

/-!
A faster strategy never closes less. A sweep of the listing comes to every descriptor that brute
force could come to, and the range call to more still. When either fails part of the way, the next
strategy goes over everything again, so that a run which may use more of them leaves no descriptor
open that a run with fewer would close.
-/

namespace DescriptorReaper

/-- What one may use, the other may use too, if perhaps through another directory. -/
structure Capabilities.Within (fewer more : Capabilities) : Prop where
  rangeCall : fewer.rangeCall = true → more.rangeCall = true
  listing : fewer.listingDir.isSome = true → more.listingDir.isSome = true

namespace Capabilities

theorem no_faster_within (caps : Capabilities) (tier : Tier) :
    (caps.noFasterThan tier).Within caps where
  rangeCall allowed := (Bool.and_eq_true_iff.mp allowed).1
  listing allowed := by
    rw [noFasterThan] at allowed
    cases offered : caps.listingDir with
    | none => simp [offered] at allowed
    | some dir => rfl

theorem no_faster_antitone (caps : Capabilities) {faster slower : Tier} (order : faster ≤ slower) :
    (caps.noFasterThan slower).Within (caps.noFasterThan faster) where
  rangeCall allowed := by
    simp only [noFasterThan, Bool.and_eq_true, decide_eq_true_eq] at allowed ⊢
    exact ⟨allowed.1, Nat.le_trans order allowed.2⟩
  listing allowed := by
    simp only [noFasterThan] at allowed ⊢
    cases offered : caps.listingDir with
    | none => simp [offered] at allowed
    | some dir =>
        have reached : slower ≤ .listing := by simpa [offered, Option.filter] using allowed
        have within : faster ≤ .listing := Nat.le_trans order reached
        simp [Option.filter, within]

end Capabilities

/-- The listing shows the table, in entries of a kind that names descriptors, or cannot be read. -/
def SnapshotSource.Faithful : SnapshotSource → Prop
  | .live kind _ => kind ∈ EntryKind.naming
  | .fixed _ => False
  | .failing _ => True

namespace World

theorem tier_swept (world : World) (caps : Capabilities) (swept : world.tier caps ≠ .rangeCall) :
    world.tier caps = world.sweepTier caps := by
  rw [tier]
  exact if_neg fun whole => swept (if_pos whole)

theorem reaches_swept (world : World) (caps : Capabilities) (fd : Int)
    (reached : world.Reaches (world.tier caps) fd) :
    world.tier caps = world.sweepTier caps := by
  refine world.tier_swept caps fun whole => ?_
  rw [whole] at reached
  exact reached

-- The listing names all that brute force can come to, since the bound is a descriptor's number.
theorem reaches_live (world : World) {kind : Option EntryKind} {descending : Bool}
    (live : world.listing = .live kind descending) (naming : kind ∈ EntryKind.naming)
    (caps : Capabilities) (fd : Int) (nonneg : 0 ≤ fd) :
    world.Reaches (world.sweepTier caps) fd ↔
      fd ≤ maxDescriptor ∧ (caps.listingDir.isSome = true ∨ fd < bound world.limit) := by
  cases offered : caps.listingDir with
  | none =>
      have most := bound_fits world.limit
      simp only [sweepTier, offered, Reaches, Option.isSome_none, Bool.false_eq_true, false_or]
      omega
  | some dir =>
      simp only [sweepTier, offered, live, Reaches, Option.isSome_some, true_or, and_true]
      exact ⟨fun named => named.2.2, fun fits => ⟨naming, nonneg, fits⟩⟩

theorem reaches_within (world : World) (faithful : world.listing.Faithful)
    {fewer more : Capabilities} (within : fewer.Within more) (fd : Int) (nonneg : 0 ≤ fd)
    (reached : world.Reaches (world.sweepTier fewer) fd) :
    world.Reaches (world.sweepTier more) fd := by
  cases source : world.listing with
  | fixed shown =>
      rw [source] at faithful
      exact faithful.elim
  | failing error =>
      -- The work is left to brute force under either capabilities.
      have bruteForce : ∀ caps, world.sweepTier caps = .bruteForce := fun caps =>
        world.sweep_tier_unlisted caps error (by rw [snapshot, source])
      rwa [bruteForce] at reached ⊢
  | live kind descending =>
      rw [source] at faithful
      rw [world.reaches_live source faithful _ fd nonneg] at reached ⊢
      exact ⟨reached.1, reached.2.imp_left within.listing⟩

theorem spares_within (world : World) (faithful : world.listing.Faithful)
    {fewer more : Capabilities} (within : fewer.Within more) (low fd : Int) (nonneg : 0 ≤ low)
    (spared : world.Spares more low fd) : world.Spares fewer low fd := by
  refine ⟨fun ranged => spared.1 (within.rangeCall ranged), fun above reached => ?_⟩
  by_cases whole : world.tier more = .rangeCall
  · have below := spared.below_range whole
    omega
  · rw [world.reaches_swept fewer fd reached] at reached
    refine spared.2 above ?_
    rw [world.tier_swept more whole]
    exact world.reaches_within faithful within fd (by omega) reached

theorem reap_within {world : World} (lone : world.Lone) (faithful : world.listing.Faithful)
    {fewer more : Capabilities} (within : fewer.Within more) (lowfd : Int) :
    ∀ fd ∈ (more.reap lowfd world).2.table, fd ∈ (fewer.reap lowfd world).2.table := by
  intro fd left
  obtain ⟨present, spared⟩ := (mem_reap lone more lowfd fd).mp left
  exact (mem_reap lone fewer lowfd fd).mpr ⟨present,
    world.spares_within faithful within _ fd (Int.le_max_right lowfd 0) spared⟩

end World

/-- What is left under some capabilities is left under fewer, so that a restriction to a tier leaves
the more open the slower the tier is. -/
theorem faster_closes_no_less (world : World) (lone : world.Lone)
    (faithful : world.listing.Faithful) (lowfd : Int) :
    (∀ fewer more : Capabilities, fewer.Within more →
      ∀ fd ∈ (more.reap lowfd world).2.table, fd ∈ (fewer.reap lowfd world).2.table) ∧
      ∀ (caps : Capabilities) (faster slower : Tier), faster ≤ slower →
        (∀ fd ∈ (caps.reap lowfd world).2.table,
          fd ∈ ((caps.noFasterThan faster).reap lowfd world).2.table) ∧
        ∀ fd ∈ ((caps.noFasterThan faster).reap lowfd world).2.table,
          fd ∈ ((caps.noFasterThan slower).reap lowfd world).2.table :=
  ⟨fun _ _ within => World.reap_within lone faithful within lowfd,
    fun caps faster _ order =>
      ⟨World.reap_within lone faithful (caps.no_faster_within faster) lowfd,
        World.reap_within lone faithful (caps.no_faster_antitone order) lowfd⟩⟩

theorem frayed_faster_closes_no_less :
    World.frayed.Lone ∧ World.frayed.listing.Faithful ∧
      Capabilities.none.Within ⟨true, some .procSelfFd⟩ ∧
      (∀ fd ∈ ((Capabilities.mk true (some .procSelfFd)).reap 3 World.frayed).2.table,
        fd ∈ (Capabilities.none.reap 3 World.frayed).2.table) ∧
      9 ∈ (Capabilities.none.reap 3 World.frayed).2.table ∧
      9 ∉ ((Capabilities.mk true (some .procSelfFd)).reap 3 World.frayed).2.table := by
  have lone : World.frayed.Lone := fun _ => rfl
  have faithful : World.frayed.listing.Faithful := by
    change none ∈ EntryKind.naming
    decide
  have within : Capabilities.none.Within ⟨true, some .procSelfFd⟩ :=
    ⟨fun _ => rfl, fun _ => rfl⟩
  obtain ⟨inclusion, -⟩ := faster_closes_no_less World.frayed lone faithful 3
  refine ⟨lone, faithful, within, inclusion _ _ within, by decide, fun left => ?_⟩
  obtain ⟨-, escapes, -⟩ := (World.mem_reap lone ⟨true, some .procSelfFd⟩ 3 9).mp left
  exact absurd (escapes rfl) (by decide)

end DescriptorReaper
