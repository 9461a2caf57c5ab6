import DescriptorReaper.Proofs.EventStream

/-!
How a run comes to brute force, on any kernel. Each faster strategy is missing or fails, and leaves
a state to the next one. So a run that ends in brute force is brute force from the state that is
left in the end, and on the way there no number is closed by itself and no count is told.
-/

namespace DescriptorReaper

variable {σ τ : Type} [Kernel σ] [Kernel τ]

open Kernel (emit)

def pastLimit (state : σ) : σ :=
  match Kernel.limit state with
  | (.ok _, next) => next
  | (.error error, next) => emit (.limitUnknown error) next

namespace Capabilities

def pastRange (caps : Capabilities) (low : Int) (state : σ) : σ :=
  if caps.rangeCall then
    match Kernel.closeRange low state with
    | (.ok _, next) => next
    | (.error error, next) => emit (.rangeFailed low error) next
  else state

def pastListing (caps : Capabilities) (low : Int) (state : σ) : σ :=
  match caps.listingDir with
  | Option.none => state
  | some dir => match Kernel.snapshot dir state with
      | (.ok _, next) => next
      | (.error error, next) => emit (.listingFailed low error dir) next

/-- The state that a run begins brute force in, if it comes to it. -/
def lastRung (caps : Capabilities) (lowfd : Int) (state : σ) : σ :=
  caps.pastListing (max lowfd 0) (caps.pastRange (max lowfd 0) (warned lowfd state))

theorem reap_listing_last (caps : Capabilities) (low : Int) (state : σ)
    (last : (caps.reapListing low state).1 = .bruteForce) :
    caps.reapListing low state = reapNumbers low (caps.pastListing low state) := by
  unfold reapListing pastListing at *
  cases offered : caps.listingDir with
  | none => rfl
  | some dir =>
      simp only [offered, sweepListing] at last ⊢
      generalize Kernel.snapshot dir state = outcome at last ⊢
      obtain ⟨answer, next⟩ := outcome
      cases answer with
      | ok shown => cases last
      | error error => rfl

theorem reap_range_last (caps : Capabilities) (low : Int) (state : σ)
    (last : (caps.reapRange low state).1 = .bruteForce) :
    caps.reapRange low state =
      reapNumbers low (caps.pastListing low (caps.pastRange low state)) := by
  rw [reapRange] at last ⊢
  rw [pastRange]
  by_cases ranged : caps.rangeCall = true
  · rw [if_pos ranged] at last ⊢
    rw [if_pos ranged]
    generalize Kernel.closeRange low state = outcome at last ⊢
    obtain ⟨answer, next⟩ := outcome
    cases answer with
    | ok done => cases last
    | error error => exact caps.reap_listing_last low _ last
  · rw [if_neg ranged] at last ⊢
    rw [if_neg ranged]
    exact caps.reap_listing_last low state last

/-- A run that ends in brute force has come to it by the last rung. -/
theorem reap_last (caps : Capabilities) (lowfd : Int) (state : σ)
    (last : (caps.reap lowfd state).1 = .bruteForce) :
    caps.reap lowfd state = reapNumbers (max lowfd 0) (caps.lastRung lowfd state) := by
  rw [reap_clamped] at last ⊢
  exact caps.reap_range_last _ _ last

end Capabilities

namespace Kernel.Projects

variable {view : σ → τ} (projects : Kernel.Projects view)
include projects

theorem past_limit (state : σ) : pastLimit (view state) = view (pastLimit state) := by
  simp only [pastLimit, projects.limit]
  obtain ⟨answer, next⟩ := Kernel.limit state
  cases answer with
  | ok limit => rfl
  | error error => exact projects.emit _ next

theorem past_range (caps : Capabilities) (low : Int) (state : σ) :
    caps.pastRange low (view state) = view (caps.pastRange low state) := by
  by_cases ranged : caps.rangeCall = true
  · simp only [Capabilities.pastRange, if_pos ranged, projects.closeRange]
    obtain ⟨answer, next⟩ := Kernel.closeRange low state
    cases answer with
    | ok done => rfl
    | error error => exact projects.emit _ next
  · simp only [Capabilities.pastRange, if_neg ranged]

theorem past_listing (caps : Capabilities) (low : Int) (state : σ) :
    caps.pastListing low (view state) = view (caps.pastListing low state) := by
  cases listed : caps.listingDir with
  | none => simp only [Capabilities.pastListing, listed]
  | some dir =>
      simp only [Capabilities.pastListing, listed, projects.snapshot]
      obtain ⟨answer, next⟩ := Kernel.snapshot dir state
      cases answer with
      | ok shown => rfl
      | error error => exact projects.emit _ next

theorem last_rung (caps : Capabilities) (lowfd : Int) (state : σ) :
    caps.lastRung lowfd (view state) = view (caps.lastRung lowfd state) := by
  rw [Capabilities.lastRung, projects.warned, projects.past_range, projects.past_listing]
  rfl

end Kernel.Projects

namespace Recorded

namespace Idle

variable {before after : Recorded σ} (idle : before.Idle after)
include idle

theorem past_range (caps : Capabilities) (low : Int) : before.Idle (caps.pastRange low after) := by
  rw [Capabilities.pastRange]
  by_cases ranged : caps.rangeCall = true
  · have called (answer : Except Errno Unit) := idle.call (.closeRange low answer) rfl
    rw [if_pos ranged, close_range_eq]
    cases (Kernel.closeRange low after.state).1 with
    | ok done => exact called _ _
    | error error => exact (called _ _).event (.rangeFailed low error) rfl
  · rw [if_neg ranged]
    exact idle

theorem past_listing (caps : Capabilities) (low : Int) :
    before.Idle (caps.pastListing low after) := by
  rw [Capabilities.pastListing]
  cases caps.listingDir with
  | none => exact idle
  | some dir =>
      have called (answer : Except Errno Snapshot) := idle.call (.snapshot dir answer) rfl
      dsimp only
      rw [snapshot_eq]
      cases (Kernel.snapshot dir after.state).1 with
      | ok shown => exact called _ _
      | error error => exact (called _ _).event (.listingFailed low error dir) rfl

theorem past_limit : before.Idle (pastLimit after) := by
  have called (answer : Except Errno (Option Int)) := idle.call (.limit answer) rfl
  rw [pastLimit, limit_eq]
  cases (Kernel.limit after.state).1 with
  | ok limit => exact called _ _
  | error error => exact (called _ _).event (.limitUnknown error) rfl

theorem last_rung (caps : Capabilities) (lowfd : Int) : before.Idle (caps.lastRung lowfd after) :=
  ((idle.warned lowfd).past_range caps _).past_listing caps _

end Idle

end Recorded

end DescriptorReaper
