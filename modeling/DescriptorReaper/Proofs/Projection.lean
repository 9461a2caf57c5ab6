import DescriptorReaper.Reaper

/-!
One kernel seen through another. A view that every call and every event commutes with carries whole
runs over: reaping on the full state, looked at through the view, is reaping on what the view shows.
Forgetting a record is such a view, so keeping a record never changes what is recorded.
-/

namespace DescriptorReaper

variable {σ τ : Type} [Kernel σ] [Kernel τ]

/-- Calls answer the same on what the view shows, and lead to what the view shows afterwards. -/
structure Kernel.Projects (view : σ → τ) : Prop where
  offersRange : ∀ state,
    Kernel.offersRange (view state) = Prod.map id view (Kernel.offersRange state)
  offersDir : ∀ dir state,
    Kernel.offersDir dir (view state) = Prod.map id view (Kernel.offersDir dir state)
  closeRange : ∀ low state,
    Kernel.closeRange low (view state) = Prod.map id view (Kernel.closeRange low state)
  close : ∀ fd state, Kernel.close fd (view state) = Prod.map id view (Kernel.close fd state)
  snapshot : ∀ dir state,
    Kernel.snapshot dir (view state) = Prod.map id view (Kernel.snapshot dir state)
  limit : ∀ state, Kernel.limit (view state) = Prod.map id view (Kernel.limit state)
  emit : ∀ event state, Kernel.emit event (view state) = view (Kernel.emit event state)

namespace Kernel.Projects

variable {view : σ → τ} (projects : Kernel.Projects view)
include projects

theorem detect (state : σ) :
    Capabilities.detect (view state) = Prod.map id view (Capabilities.detect state) := by
  simp only [Capabilities.detect, projects.offersRange, projects.offersDir, projects.emit, Prod.map,
    id]

theorem open_descriptors (dir : ListingDir) (state : σ) :
    openDescriptors dir (view state) = Prod.map id view (openDescriptors dir state) := by
  simp only [openDescriptors, projects.snapshot]
  obtain ⟨answer, next⟩ := Kernel.snapshot dir state
  cases answer <;> rfl

theorem sweep (note : Int → Errno → Option Event) (fds : List Int) (closed : Nat) (state : σ) :
    sweep note fds closed (view state) = Prod.map id view (sweep note fds closed state) := by
  induction fds generalizing closed state with
  | nil => rfl
  | cons fd rest ih =>
      simp only [DescriptorReaper.sweep, projects.close]
      obtain ⟨answer, next⟩ := Kernel.close fd state
      cases answer with
      | ok _ => exact ih (closed + 1) next
      | error error =>
          cases noted : note fd error with
          | none => simpa only [Prod.map_apply, id, noted] using ih closed next
          | some event =>
              simp only [Prod.map_apply, id, noted, projects.emit]
              exact ih closed (Kernel.emit event next)

theorem sweep_listing (dir : ListingDir) (low : Int) (state : σ) :
    sweepListing dir low (view state) = Prod.map id view (sweepListing dir low state) := by
  simp only [sweepListing, projects.snapshot]
  obtain ⟨answer, next⟩ := Kernel.snapshot dir state
  cases answer with
  | error _ => rfl
  | ok snapshot => simp only [Prod.map, id, projects.sweep]

theorem sweep_numbers (low : Int) (state : σ) :
    sweepNumbers low (view state) = Prod.map id view (sweepNumbers low state) := by
  simp only [sweepNumbers, projects.limit]
  obtain ⟨answer, next⟩ := Kernel.limit state
  cases answer with
  | error error => simp only [Prod.map_apply, id, projects.emit, projects.sweep]
  | ok _ => simp only [Prod.map_apply, id, projects.sweep]

theorem reap_numbers (low : Int) (state : σ) :
    Capabilities.reapNumbers low (view state) =
      Prod.map id view (Capabilities.reapNumbers low state) := by
  simp only [Capabilities.reapNumbers, projects.sweep_numbers, Prod.map, id, projects.emit]

theorem reap_listing (caps : Capabilities) (low : Int) (state : σ) :
    caps.reapListing low (view state) = Prod.map id view (caps.reapListing low state) := by
  cases listed : caps.listingDir with
  | none => simpa only [Capabilities.reapListing, listed] using projects.reap_numbers low state
  | some dir =>
      simp only [Capabilities.reapListing, listed, projects.sweep_listing]
      obtain ⟨answer, next⟩ := sweepListing dir low state
      cases answer with
      | ok closed => simp only [Prod.map_apply, id, projects.emit]
      | error error => simp only [Prod.map_apply, id, projects.emit, projects.reap_numbers]

theorem reap_range (caps : Capabilities) (low : Int) (state : σ) :
    caps.reapRange low (view state) = Prod.map id view (caps.reapRange low state) := by
  by_cases ranged : caps.rangeCall = true
  · simp only [Capabilities.reapRange, if_pos ranged, projects.closeRange]
    obtain ⟨answer, next⟩ := Kernel.closeRange low state
    cases answer with
    | ok _ => simp only [Prod.map_apply, id, projects.emit]
    | error error => simp only [Prod.map_apply, id, projects.emit, projects.reap_listing]
  · simpa only [Capabilities.reapRange, if_neg ranged] using projects.reap_listing caps low state

theorem warned (lowfd : Int) (state : σ) :
    Capabilities.warned lowfd (view state) = view (Capabilities.warned lowfd state) := by
  by_cases negative : lowfd < 0
  · simp only [Capabilities.warned, if_pos negative, projects.emit]
  · simp only [Capabilities.warned, if_neg negative]

/-- A whole run on the full state is, through the view, the run on what the view shows. -/
theorem reap (caps : Capabilities) (lowfd : Int) (state : σ) :
    caps.reap lowfd (view state) = Prod.map id view (caps.reap lowfd state) := by
  rw [Capabilities.reap_clamped, Capabilities.reap_clamped, projects.warned, projects.reap_range]

end Kernel.Projects

namespace Recorded

/-- A record never changes what it records. -/
theorem state_projects : Kernel.Projects (Recorded.state : Recorded σ → σ) where
  offersRange _ := rfl
  offersDir _ _ := rfl
  closeRange _ _ := rfl
  close _ _ := rfl
  snapshot _ _ := rfl
  limit _ := rfl
  emit _ _ := rfl

end Recorded

end DescriptorReaper
