import DescriptorReaper.Proofs.Candidates
import DescriptorReaper.Proofs.Projection
import DescriptorReaper.Proofs.ScriptedSweep

/-!
Reaping in a scripted kernel. The script alone decides which tier a run ends in. The range call,
where there is one, closes what lies in its reach, and the sweep of that tier then works on the
table that is left: its record holds one close for each number visited, and the count that it
reports is the number of those that succeed.
-/

namespace DescriptorReaper

def Call.closing? : Call → Option (Int × Except Errno Unit)
  | .close fd answer => some (fd, answer)
  | .offersRange _ | .offersDir _ _ | .closeRange _ _ | .snapshot _ _ | .limit _ => none

def Event.count? : Event → Option Nat
  | .listingClosed _ closed _ | .bruteForced _ closed => some closed
  | .detected _ | .negativeThreshold _ | .rangeClosed _ | .rangeFailed _ _ | .listingFailed _ _ _
  | .alreadyClosed _ _ | .closeFailed _ _ | .limitUnknown _ => none

namespace Recorded

variable {σ : Type}

def closes (recorded : Recorded σ) : List (Int × Except Errno Unit) :=
  recorded.calls.toList.filterMap Call.closing?

def counts (recorded : Recorded σ) : List Nat := recorded.events.toList.filterMap Event.count?

theorem closes_note_call (recorded : Recorded σ) (call : Call) (state : σ) :
    (recorded.noteCall call state).closes = recorded.closes ++ call.closing?.toList := by
  cases noted : call.closing? <;> simp [closes, noteCall, noted]

theorem closes_note_other (recorded : Recorded σ) (call : Call) (state : σ)
    (other : call.closing? = none) : (recorded.noteCall call state).closes = recorded.closes := by
  rw [closes_note_call, other]
  exact List.append_nil _

variable [Kernel σ]

theorem closes_emit (recorded : Recorded σ) (event : Event) :
    (Kernel.emit event recorded).closes = recorded.closes := rfl

theorem counts_emit (recorded : Recorded σ) (event : Event) :
    (Kernel.emit event recorded).counts = recorded.counts ++ event.count?.toList := by
  cases noted : event.count? <;> simp [counts, Kernel.emit, noted]

theorem counts_emit_silent (recorded : Recorded σ) (event : Event) (silent : event.count? = none) :
    (Kernel.emit event recorded).counts = recorded.counts := by
  rw [counts_emit, silent]
  exact List.append_nil _

structure Idle (before after : Recorded σ) : Prop where
  closes : after.closes = before.closes
  counts : after.counts = before.counts

namespace Idle

omit [Kernel σ] in
theorem refl (recorded : Recorded σ) : recorded.Idle recorded := ⟨rfl, rfl⟩

variable {before after : Recorded σ} (idle : before.Idle after)
include idle

omit [Kernel σ] in
theorem call (call : Call) (other : call.closing? = none) (state : σ) :
    before.Idle (after.noteCall call state) where
  closes := (after.closes_note_other call state other).trans idle.closes
  counts := idle.counts

theorem event (event : Event) (silent : event.count? = none) :
    before.Idle (Kernel.emit event after) where
  closes := idle.closes
  counts := (after.counts_emit_silent event silent).trans idle.counts

theorem warned (lowfd : Int) : before.Idle (Capabilities.warned lowfd after) :=
  Capabilities.warned_cases before.Idle (fun _ => idle.event _ rfl) fun _ => idle

end Idle

end Recorded

namespace World

def escapes (world : World) (low fd : Int) : Bool :=
  match world.rangeFault with
  | none => fd < low
  | some fault => match fault.closesFrom with
      | none => true
      | some start => fd < max low start

theorem mem_table_after_range (world : World) (low fd : Int) :
    fd ∈ world.tableAfterRange low ↔ fd ∈ world.table ∧ world.escapes low fd = true := by
  rw [tableAfterRange, escapes]
  cases world.rangeFault with
  | none => simp
  | some fault =>
      obtain ⟨error, start⟩ := fault
      cases start <;> simp

theorem escapes_below (world : World) (low fd : Int) (below : fd < low) :
    world.escapes low fd = true := by
  rw [escapes]
  cases world.rangeFault with
  | none => exact decide_eq_true below
  | some fault =>
      obtain ⟨error, start⟩ := fault
      cases start with
      | none => rfl
      | some start => exact decide_eq_true (by omega)

def afterRange (world : World) (caps : Capabilities) (low : Int) : World :=
  { world with table := if caps.rangeCall then world.tableAfterRange low else world.table }

theorem mem_after_range (world : World) (caps : Capabilities) (low fd : Int) :
    fd ∈ (world.afterRange caps low).table ↔
      fd ∈ world.table ∧ (caps.rangeCall = true → world.escapes low fd = true) := by
  rw [afterRange]
  cases caps.rangeCall with
  | false => simp
  | true => simp [mem_table_after_range]

def sweepTier (world : World) (caps : Capabilities) : Tier :=
  match caps.listingDir, world.listing with
  | none, _ | some _, .failing _ => .bruteForce
  | some _, .live _ _ | some _, .fixed _ => .listing

/-- The tier that a run ends in. Neither table nor threshold has a say in it. -/
def tier (world : World) (caps : Capabilities) : Tier :=
  if caps.rangeCall ∧ world.rangeFault = none then .rangeCall else world.sweepTier caps

theorem sweep_tier_not_range (world : World) (caps : Capabilities) :
    world.sweepTier caps ≠ .rangeCall := by
  rw [sweepTier]
  split <;> simp

theorem sweep_tier_listed (world : World) (caps : Capabilities) (dir : ListingDir)
    (shown : Snapshot) (offered : caps.listingDir = some dir) (taken : world.snapshot = .ok shown) :
    world.sweepTier caps = .listing := by
  rw [sweepTier, offered]
  rw [snapshot] at taken
  cases source : world.listing with
  | live kind descending => rfl
  | fixed listed => rfl
  | failing error =>
      rw [source] at taken
      cases taken

theorem sweep_tier_unlisted (world : World) (caps : Capabilities) (error : Errno)
    (failed : world.snapshot = .error error) : world.sweepTier caps = .bruteForce := by
  rw [sweepTier]
  rw [snapshot] at failed
  cases source : world.listing with
  | live kind descending =>
      rw [source] at failed
      cases failed
  | fixed listed =>
      rw [source] at failed
      cases failed
  | failing error => cases caps.listingDir <;> rfl

theorem tier_eq_range (world : World) (caps : Capabilities) :
    world.tier caps = .rangeCall ↔ caps.rangeCall = true ∧ world.rangeFault = none := by
  rw [tier]
  by_cases whole : caps.rangeCall = true ∧ world.rangeFault = none
  · simp [whole]
  · simp only [whole, if_false, iff_false]
    exact world.sweep_tier_not_range caps

theorem tier_eq_listing (world : World) (caps : Capabilities) (low : Int) :
    world.tier caps = .listing ↔ world.tier caps ≠ .rangeCall ∧ caps.listingDir.isSome = true ∧
      ∃ shown, (world.afterRange caps low).snapshot = .ok shown := by
  constructor
  · intro listed
    have swept : world.sweepTier caps = .listing := by
      rw [tier] at listed
      split at listed
      · cases listed
      · exact listed
    refine ⟨by rw [listed]; decide, ?_⟩
    rw [sweepTier] at swept
    simp only [snapshot, afterRange]
    cases offered : caps.listingDir with
    | none => rw [offered] at swept; cases swept
    | some dir =>
        refine ⟨rfl, ?_⟩
        rw [offered] at swept
        cases source : world.listing with
        | live kind descending => exact ⟨_, rfl⟩
        | fixed shown => exact ⟨_, rfl⟩
        | failing error => rw [source] at swept; cases swept
  · rintro ⟨unranged, offered, shown, taken⟩
    obtain ⟨dir, offered⟩ := Option.isSome_iff_exists.mp offered
    have swept : world.tier caps = world.sweepTier caps := by
      rw [tier] at unranged ⊢
      exact if_neg fun whole => unranged (if_pos whole)
    rw [swept]
    exact (world.afterRange caps low).sweep_tier_listed caps dir shown offered taken

/-- The numbers that the sweep of a tier visits, in order. -/
def visited (world : World) (low : Int) : Tier → List Int
  | .rangeCall => []
  | .listing => match world.snapshot with
      | .ok snapshot => snapshot.candidates low
      | .error _ => []
  | .bruteForce => interval low (bound world.limit)

theorem visited_ascending (world : World) (low : Int) (tier : Tier) :
    Ascending (world.visited low tier) := by
  cases tier with
  | rangeCall => exact List.Pairwise.nil
  | listing =>
      rw [visited]
      cases world.snapshot with
      | ok snapshot => exact snapshot.candidates_ascending low
      | error _ => exact List.Pairwise.nil
  | bruteForce => exact interval_ascending low _

theorem mem_visited_listing (world : World) (low : Int) {shown : Snapshot}
    (taken : world.snapshot = .ok shown) (fd : Int) :
    fd ∈ world.visited low .listing ↔
      low ≤ fd ∧ ∃ entry ∈ shown.entries, entry.descriptor? = some fd := by
  rw [visited, taken]
  exact shown.mem_candidates low fd

theorem mem_visited_numbers (world : World) (low fd : Int) :
    fd ∈ world.visited low .bruteForce ↔ low ≤ fd ∧ fd < bound world.limit :=
  mem_interval

/-- An outcome that the sweep of a tier leads to, from a world and a record of closes and counts.
What survives is left, and the record holds each close with its answer and one more count. -/
structure Swept (start : World) (closes : List (Int × Except Errno Unit)) (counts : List Nat)
    (low : Int) (tier : Tier) (outcome : Tier × Recorded World) : Prop where
  ends : outcome.1 = tier
  leaves : outcome.2.state = start.afterSweep (start.visited low tier)
  records : outcome.2.closes = closes ++ answers (start.visited low tier) start
  tells : outcome.2.counts =
    counts ++ if tier = .rangeCall then [] else [start.closedBy (start.visited low tier)]

-- What a sweep notes of a failure makes no difference to anything but the events.
theorem recorded_visit (note : Int → Errno → Option Event)
    (silent : ∀ fd error event, note fd error = some event → event.count? = none)
    (fd : Int) (rest : List Int) (closed : Nat) (recorded : Recorded World) :
    ∃ next : Recorded World,
      sweep note (fd :: rest) closed recorded =
        sweep note rest (closed + if (recorded.state.closeAnswer fd).isOk then 1 else 0) next ∧
      next.state = recorded.state.afterClose fd ∧
      next.closes = recorded.closes ++ [(fd, recorded.state.closeAnswer fd)] ∧
      next.counts = recorded.counts := by
  have call : Kernel.close fd recorded = (recorded.state.closeAnswer fd,
      recorded.noteCall (.close fd (recorded.state.closeAnswer fd))
        (recorded.state.afterClose fd)) := rfl
  rw [sweep, call]
  cases recorded.state.closeAnswer fd with
  | ok done => exact ⟨_, rfl, rfl, Recorded.closes_note_call _ _ _, rfl⟩
  | error error =>
      dsimp only
      cases noted : note fd error with
      | none => exact ⟨_, rfl, rfl, Recorded.closes_note_call _ _ _, rfl⟩
      | some event =>
          exact ⟨_, rfl, rfl, Recorded.closes_note_call recorded _ (recorded.state.afterClose fd),
            Recorded.counts_emit_silent _ event (silent fd error event noted)⟩

theorem recorded_sweep (note : Int → Errno → Option Event)
    (silent : ∀ fd error event, note fd error = some event → event.count? = none)
    (fds : List Int) (closed : Nat) (recorded : Recorded World) :
    (sweep note fds closed recorded).1 = closed + recorded.state.closedBy fds ∧
      (sweep note fds closed recorded).2.state = recorded.state.afterSweep fds ∧
      (sweep note fds closed recorded).2.closes =
        recorded.closes ++ answers fds recorded.state ∧
      (sweep note fds closed recorded).2.counts = recorded.counts := by
  have viewed := Recorded.state_projects.sweep note fds closed recorded
  rw [sweep_eq] at viewed
  refine ⟨(congrArg Prod.fst viewed).symm, (congrArg Prod.snd viewed).symm, ?_⟩
  clear viewed
  -- The count and the table come from the plain world; only the record needs an induction.
  induction fds generalizing closed recorded with
  | nil => exact ⟨(List.append_nil _).symm, rfl⟩
  | cons fd rest ih =>
      obtain ⟨next, step, state, closes, counts⟩ :=
        recorded_visit note silent fd rest closed recorded
      have tail := ih (closed + if (recorded.state.closeAnswer fd).isOk then 1 else 0) next
      rw [step, tail.1, tail.2, state, closes, counts, answers, List.append_assoc]
      exact ⟨rfl, rfl⟩

-- Nothing that a sweep reports of a single failure tells of a count.
theorem listing_note_silent (handle fd : Int) (error : Errno) (event : Event)
    (noted : listingNote handle fd error = some event) : event.count? = none := by
  cases error <;> cases noted <;> rfl

-- Both sweeping tiers end alike, with one event that tells the count, so one lemma does for both.
theorem swept_of_sweep (note : Int → Errno → Option Event)
    (silent : ∀ fd error event, note fd error = some event → event.count? = none)
    (low : Int) (tier : Tier) (sweeping : tier ≠ .rangeCall) (recorded : Recorded World)
    (done : Nat → Event) (tells : ∀ closed, (done closed).count? = some closed) :
    Swept recorded.state recorded.closes recorded.counts low tier
      (let (closed, next) := sweep note (recorded.state.visited low tier) 0 recorded
      (tier, Kernel.emit (done closed) next)) := by
  obtain ⟨closed, state, closes, counts⟩ :=
    recorded_sweep note silent (recorded.state.visited low tier) 0 recorded
  refine ⟨rfl, state, closes, ?_⟩
  dsimp only
  rw [Recorded.counts_emit, counts, tells, closed, Nat.zero_add, if_neg sweeping]
  rfl

theorem reap_numbers_swept (low : Int) (recorded : Recorded World) :
    Swept recorded.state recorded.closes recorded.counts low .bruteForce
      (Capabilities.reapNumbers low recorded) := by
  let asked := recorded.noteCall (.limit recorded.state.limit) recorded.state
  have asking : recorded.Idle asked := (Recorded.Idle.refl recorded).call _ rfl _
  have call : Kernel.limit recorded = (recorded.state.limit, asked) := rfl
  -- An unknown limit leaves an event behind, so the sweep may start from one of two records.
  have swept : ∀ ready : Recorded World, ready.state = recorded.state → recorded.Idle ready →
      Swept recorded.state recorded.closes recorded.counts low .bruteForce
        (let (closed, next) := sweep (fun _ _ => none)
          (interval low (bound recorded.state.limit)) 0 ready
        (.bruteForce, Kernel.emit (.bruteForced low closed) next)) := by
    intro ready state idle
    rw [← state, ← idle.closes, ← idle.counts]
    exact swept_of_sweep (fun _ _ => none) (fun _ _ _ noted => by cases noted) low .bruteForce
      (by decide) ready (.bruteForced low) (fun _ => rfl)
  rw [Capabilities.reapNumbers, sweepNumbers, call]
  cases answered : recorded.state.limit with
  | ok limit =>
      rw [answered] at swept
      exact swept asked rfl asking
  | error error =>
      rw [answered] at swept
      exact swept _ rfl (asking.event _ rfl)

theorem reap_listing_swept (caps : Capabilities) (low : Int) (recorded : Recorded World) :
    Swept recorded.state recorded.closes recorded.counts low (recorded.state.sweepTier caps)
      (caps.reapListing low recorded) := by
  rw [Capabilities.reapListing]
  cases offered : caps.listingDir with
  | none =>
      rw [sweepTier, offered]
      exact reap_numbers_swept low recorded
  | some dir =>
      let asked := recorded.noteCall (.snapshot dir recorded.state.snapshot) recorded.state
      have asking : recorded.Idle asked := (Recorded.Idle.refl recorded).call _ rfl _
      have call : Kernel.snapshot dir recorded = (recorded.state.snapshot, asked) := rfl
      simp only [sweepListing, call]
      cases taken : recorded.state.snapshot with
      | ok shown =>
          have visits : shown.candidates low = asked.state.visited low .listing := by
            rw [show asked.state = recorded.state from rfl, visited, taken]
          have swept := swept_of_sweep (listingNote shown.handle) (listing_note_silent shown.handle)
            low .listing (by decide) asked (fun closed => .listingClosed low closed dir)
            (fun _ => rfl)
          rw [← visits, asking.closes] at swept
          rw [recorded.state.sweep_tier_listed caps dir shown offered taken]
          exact swept
      | error error =>
          have swept := reap_numbers_swept low (Kernel.emit (.listingFailed low error dir) asked)
          have silent := asking.event (.listingFailed low error dir) rfl
          rw [silent.closes, silent.counts] at swept
          rw [recorded.state.sweep_tier_unlisted caps error taken]
          exact swept

theorem reap_range_swept (caps : Capabilities) (low : Int) (recorded : Recorded World) :
    Swept (recorded.state.afterRange caps low) recorded.closes recorded.counts low
      (recorded.state.tier caps) (caps.reapRange low recorded) := by
  by_cases ranged : caps.rangeCall = true
  · let called := recorded.noteCall (.closeRange low recorded.state.rangeAnswer)
      { recorded.state with table := recorded.state.tableAfterRange low }
    have calling : recorded.Idle called := (Recorded.Idle.refl recorded).call _ rfl _
    have call : Kernel.closeRange low recorded = (recorded.state.rangeAnswer, called) := rfl
    have left : recorded.state.afterRange caps low = called.state := by
      rw [afterRange, if_pos ranged]
      rfl
    rw [Capabilities.reapRange, if_pos ranged, call, left]
    cases noted : recorded.state.rangeFault with
    | none =>
        have answered : recorded.state.rangeAnswer = .ok () := by rw [rangeAnswer, noted]
        rw [answered, tier, if_pos ⟨ranged, noted⟩]
        -- The range call has done it all, and there is nothing left to visit.
        refine ⟨rfl, (after_sweep_nil _).symm, ?_, Recorded.counts_emit _ _⟩
        exact calling.closes.trans (List.append_nil _).symm
    | some fault =>
        have answered : recorded.state.rangeAnswer = .error fault.error := by
          rw [rangeAnswer, noted]
        have swept := reap_listing_swept caps low
          (Kernel.emit (.rangeFailed low fault.error) called)
        have silent := calling.event (.rangeFailed low fault.error) rfl
        rw [silent.closes, silent.counts] at swept
        rw [answered, tier, if_neg (by simp [noted])]
        exact swept
  · have left : recorded.state.afterRange caps low = recorded.state := by
      rw [afterRange, if_neg ranged]
    rw [Capabilities.reapRange, if_neg ranged, left, tier, if_neg (fun both => ranged both.1)]
    exact reap_listing_swept caps low recorded

-- Events leave no trace in a scripted kernel, and a warning is one.
theorem warned_state (lowfd : Int) (recorded : Recorded World) :
    (Capabilities.warned lowfd recorded).state = recorded.state :=
  Capabilities.warned_cases (fun ready : Recorded World => ready.state = recorded.state)
    (fun _ => rfl) fun _ => rfl

/-- A whole run under a record: the range call does its part, and the tier's sweep the rest. -/
theorem reap_swept (caps : Capabilities) (lowfd : Int) (recorded : Recorded World) :
    Swept (recorded.state.afterRange caps (max lowfd 0)) recorded.closes recorded.counts
      (max lowfd 0) (recorded.state.tier caps) (caps.reap lowfd recorded) := by
  have swept := reap_range_swept caps (max lowfd 0) (Capabilities.warned lowfd recorded)
  have silent := (Recorded.Idle.refl recorded).warned lowfd
  rw [warned_state, silent.closes, silent.counts] at swept
  rw [Capabilities.reap_clamped]
  exact swept

theorem reap_ends (caps : Capabilities) (lowfd : Int) (world : World) :
    (caps.reap lowfd (Recorded.start world)).1 = world.tier caps :=
  (reap_swept caps lowfd (Recorded.start world)).ends

def attempts (world : World) (caps : Capabilities) (lowfd : Int) : List Int :=
  (world.afterRange caps (max lowfd 0)).visited (max lowfd 0) (world.tier caps)

theorem reap_attempts (caps : Capabilities) (lowfd : Int) (world : World) :
    (caps.reap lowfd (Recorded.start world)).2.closes.map Prod.fst = world.attempts caps lowfd := by
  rw [(reap_swept caps lowfd (Recorded.start world)).records]
  exact answers_numbers _ _

theorem reap_eq (caps : Capabilities) (lowfd : Int) (world : World) :
    caps.reap lowfd world =
      (world.tier caps,
        (world.afterRange caps (max lowfd 0)).afterSweep (world.attempts caps lowfd)) := by
  have viewed := Recorded.state_projects.reap caps lowfd (Recorded.start world)
  have swept := reap_swept caps lowfd (Recorded.start world)
  exact viewed.trans (Prod.ext swept.ends swept.leaves)

end World

end DescriptorReaper
