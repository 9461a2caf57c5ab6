import DescriptorReaper.Proofs.Independence

/-!
Complete closing. Where failures are honest, that is, a failing close still releases its descriptor
and the listing shows the table or cannot be read, every strategy and every way from one to the next
leads to the same table: what was open below the threshold, and nothing else.
-/

namespace DescriptorReaper

/-- A world that lets reaping do its work. The range call may fail after any part of it, the listing
may be unreadable, and closes may report errors. -/
structure World.Cooperative (world : World) (caps : Capabilities) (lowfd : Int) : Prop where
  numbers : ∀ fd ∈ world.table, 0 ≤ fd ∧ fd ≤ maxDescriptor
  listing : (∃ error, world.listing = .failing error) ∨
    ∃ kind ∈ EntryKind.naming, ∃ descending, world.listing = .live kind descending
  released : ∀ fd ∈ world.table, ∀ fault, world.closeFault? fd = some fault → fault.releases = true
  alone : ∀ fd, world.takenWith fd = []
  -- If it comes to brute force, the bound lies above what the range call has left open.
  bounded : (caps.reap lowfd world).1 = .bruteForce →
    ∀ fd ∈ (world.afterRange caps (max lowfd 0)).table, fd < bound world.limit

namespace World.Cooperative

variable {world : World} {caps : Capabilities} {lowfd : Int}
  (cooperative : world.Cooperative caps lowfd)
include cooperative

theorem releases (fd : Int) (present : fd ∈ world.table) : world.releases fd = true := by
  rw [World.releases]
  cases found : world.closeFault? fd with
  | none => rfl
  | some fault => exact cooperative.released fd present fault found

-- Unless the range call did it all, the sweep comes to all that is left open: a listing shows it,
-- and the bound of brute force lies above it.
theorem reaches (fd : Int) (present : fd ∈ (world.afterRange caps (max lowfd 0)).table)
    (swept : world.tier caps ≠ .rangeCall) : world.Reaches (world.tier caps) fd := by
  have fits := cooperative.numbers fd ((world.mem_after_range caps _ fd).mp present).1
  have below := cooperative.bounded
  rw [World.reap_eq] at below
  cases ended : world.tier caps with
  | rangeCall => exact absurd ended swept
  | bruteForce => exact below ended fd present
  | listing =>
      rcases cooperative.listing with ⟨error, failing⟩ | ⟨kind, naming, descending, live⟩
      · have bruteForced := world.sweep_tier_unlisted caps error (by rw [World.snapshot, failing])
        rw [World.tier, bruteForced] at ended
        split at ended <;> cases ended
      · simp only [World.Reaches, live]
        exact ⟨naming, fits⟩

theorem spares_iff (fd : Int) (present : fd ∈ world.table) :
    world.Spares caps (max lowfd 0) fd ↔ fd < max lowfd 0 := by
  constructor
  · intro spared
    by_cases whole : world.tier caps = .rangeCall
    · exact spared.below_range whole
    · refine Int.not_le.mp fun above => ?_
      have left := (world.mem_after_range caps (max lowfd 0) fd).mpr ⟨present, spared.1⟩
      have stays := spared.2 above (cooperative.reaches fd left whole)
      rw [cooperative.releases fd present] at stays
      cases stays
  · intro below
    exact ⟨fun _ => world.escapes_below _ fd below, fun above => absurd above (by omega)⟩

theorem mem_reap (fd : Int) :
    fd ∈ (caps.reap lowfd world).2.table ↔ fd ∈ world.table ∧ fd < max lowfd 0 :=
  (World.mem_reap cooperative.alone caps lowfd fd).trans
    (and_congr_right (cooperative.spares_iff fd))

end World.Cooperative

/-- After reaping, exactly what was open below the threshold is open, so that any other strategy, on
a world that fails in other ways, leaves the same table. -/
theorem reap_leaves_below_threshold (world : World) (caps : Capabilities) (lowfd : Int)
    (cooperative : world.Cooperative caps lowfd) :
    (∀ fd, fd ∈ (caps.reap lowfd world).2.table ↔ fd ∈ world.table ∧ fd < max lowfd 0) ∧
      (caps.closeFrom lowfd world).table = (caps.reap lowfd world).2.table ∧
      ∀ (other : World) (others : Capabilities), other.table = world.table →
        other.Cooperative others lowfd →
          (others.reap lowfd other).2.table = (caps.reap lowfd world).2.table := by
  refine ⟨cooperative.mem_reap, rfl, fun other others same otherCooperative => ?_⟩
  refine Table.ext fun fd => ?_
  rw [otherCooperative.mem_reap, cooperative.mem_reap, same]

def World.brokenOff : World where
  table := .ofList [0, 1, 2, 5, 7, 90]
  rangeFault := some ⟨.eintr, some 7⟩
  listing := .failing .emfile
  closeFaults := [⟨5, .eio, true⟩]

theorem reap_broken_off_leaves_below :
    (World.brokenOff.Cooperative ⟨true, some .devFd⟩ 2) ∧
      ∀ fd, fd ∈ ((Capabilities.mk true (some .devFd)).reap 2 World.brokenOff).2.table ↔
        fd ∈ World.brokenOff.table ∧ fd < 2 := by
  have cooperative : World.brokenOff.Cooperative ⟨true, some .devFd⟩ 2 := by
    refine ⟨?_, Or.inl ⟨.emfile, rfl⟩, ?_, fun _ => rfl, fun _ => ?_⟩
    · change ∀ fd ∈ [0, 1, 2, 5, 7, 90], _
      decide
    · change ∀ fd ∈ [0, 1, 2, 5, 7, 90], _
      decide
    · change ∀ fd ∈ [0, 1, 2, 5], _
      decide
  exact ⟨cooperative, (reap_leaves_below_threshold _ _ 2 cooperative).1⟩

end DescriptorReaper
