import DescriptorReaper.Proofs.Candidates
import DescriptorReaper.Reaper

/-!
What reaping preserves, on any kernel. A property that no question to the system disturbs, and that
survives the range call from a number and every single close from that number up, survives a whole
run of reaping with that number for its clamped threshold, whichever strategies it goes through.
-/

namespace DescriptorReaper

variable {σ : Type} [Kernel σ]

/-- No question to the system and no event disturbs the property. -/
structure Kernel.Undisturbed (invariant : σ → Prop) : Prop where
  offersRange : ∀ state, invariant state → invariant (Kernel.offersRange state).2
  offersDir : ∀ dir state, invariant state → invariant (Kernel.offersDir dir state).2
  snapshot : ∀ dir state, invariant state → invariant (Kernel.snapshot dir state).2
  limit : ∀ state, invariant state → invariant (Kernel.limit state).2
  emit : ∀ event state, invariant state → invariant (Kernel.emit event state)

/-- Nor does closing from `low` up, in one call or one number at a time. -/
structure Kernel.KeptFrom (low : Int) (invariant : σ → Prop) : Prop
    extends Kernel.Undisturbed invariant where
  closeRange : ∀ state, invariant state → invariant (Kernel.closeRange low state).2
  close : ∀ fd, low ≤ fd → ∀ state, invariant state → invariant (Kernel.close fd state).2

variable {invariant : σ → Prop}

namespace Kernel.Undisturbed

variable (undisturbed : Kernel.Undisturbed invariant)
include undisturbed

theorem detect (state : σ) (holds : invariant state) :
    invariant (Capabilities.detect state).2 := by
  apply undisturbed.emit
  apply undisturbed.offersDir
  exact undisturbed.offersRange state holds

theorem open_descriptors (dir : ListingDir) (state : σ) (holds : invariant state) :
    invariant (openDescriptors dir state).2 := by
  have asked := undisturbed.snapshot dir state holds
  unfold openDescriptors
  generalize Kernel.snapshot dir state = outcome at asked ⊢
  obtain ⟨answer, next⟩ := outcome
  cases answer with
  | error _ => exact asked
  | ok _ => exact asked

end Kernel.Undisturbed

namespace Kernel.KeptFrom

variable {low : Int} (kept : Kernel.KeptFrom low invariant)
include kept

-- The numbers still to be visited are all the induction is on; no answer stops it.
theorem sweep (note : Int → Errno → Option Event) (fds : List Int)
    (reached : ∀ fd ∈ fds, low ≤ fd) (closed : Nat) (state : σ) (holds : invariant state) :
    invariant (sweep note fds closed state).2 := by
  induction fds generalizing closed state with
  | nil => exact holds
  | cons fd rest ih =>
      have tail := ih fun later member => reached later (List.mem_cons_of_mem fd member)
      have head := kept.close fd (reached fd List.mem_cons_self) state holds
      simp only [DescriptorReaper.sweep]
      generalize Kernel.close fd state = outcome at head ⊢
      obtain ⟨answer, next⟩ := outcome
      cases answer with
      | ok _ => exact tail (closed + 1) next head
      | error error =>
          cases noted : note fd error with
          | none => simpa only [noted] using tail closed next head
          | some event =>
              simpa only [noted] using tail closed _ (kept.emit event next head)

theorem sweep_listing (dir : ListingDir) (state : σ) (holds : invariant state) :
    invariant (sweepListing dir low state).2 := by
  have asked := kept.snapshot dir state holds
  unfold sweepListing
  generalize Kernel.snapshot dir state = outcome at asked ⊢
  obtain ⟨answer, next⟩ := outcome
  cases answer with
  | error _ => exact asked
  | ok snapshot =>
      refine kept.sweep _ _ (fun fd member => ?_) 0 next asked
      exact ((snapshot.mem_candidates low fd).mp member).1

theorem sweep_numbers (state : σ) (holds : invariant state) :
    invariant (sweepNumbers low state).2 := by
  have asked := kept.limit state holds
  unfold sweepNumbers
  generalize Kernel.limit state = outcome at asked ⊢
  obtain ⟨answer, next⟩ := outcome
  have reached : ∀ fd ∈ interval low (bound answer), low ≤ fd := fun fd member =>
    (mem_interval.mp member).1
  cases answer with
  | error error => exact kept.sweep _ _ reached 0 _ (kept.emit _ next asked)
  | ok _ => exact kept.sweep _ _ reached 0 next asked

theorem reap_numbers (state : σ) (holds : invariant state) :
    invariant (Capabilities.reapNumbers low state).2 :=
  kept.emit _ _ (kept.sweep_numbers state holds)

theorem reap_listing (caps : Capabilities) (state : σ) (holds : invariant state) :
    invariant (caps.reapListing low state).2 := by
  unfold Capabilities.reapListing
  cases caps.listingDir with
  | none => exact kept.reap_numbers state holds
  | some dir =>
      have swept := kept.sweep_listing dir state holds
      dsimp only
      generalize sweepListing dir low state = outcome at swept ⊢
      obtain ⟨answer, next⟩ := outcome
      cases answer with
      | ok _ => exact kept.emit _ next swept
      | error _ => exact kept.reap_numbers _ (kept.emit _ next swept)

theorem reap_range (caps : Capabilities) (state : σ) (holds : invariant state) :
    invariant (caps.reapRange low state).2 := by
  unfold Capabilities.reapRange
  by_cases ranged : caps.rangeCall = true
  · rw [if_pos ranged]
    have called := kept.closeRange state holds
    generalize Kernel.closeRange low state = outcome at called ⊢
    obtain ⟨answer, next⟩ := outcome
    cases answer with
    | ok _ => exact kept.emit _ next called
    | error _ => exact kept.reap_listing caps _ (kept.emit _ next called)
  · rw [if_neg ranged]
    exact kept.reap_listing caps state holds

end Kernel.KeptFrom

/-- Reaping preserves what closing from its clamped threshold up preserves. -/
theorem reap_preserves (caps : Capabilities) (lowfd : Int)
    (kept : Kernel.KeptFrom (max lowfd 0) invariant) (state : σ) (holds : invariant state) :
    invariant (caps.reap lowfd state).2 := by
  rw [Capabilities.reap_clamped]
  refine kept.reap_range caps _ (Capabilities.warned_cases invariant (fun _ => ?_) fun _ => holds)
  exact kept.emit _ state holds

end DescriptorReaper
