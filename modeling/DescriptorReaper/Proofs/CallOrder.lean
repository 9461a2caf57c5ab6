import DescriptorReaper.Proofs.ScriptedReap

/-!
The calls of a run, in their order. A run asks in the order of its tiers, and asks nothing more once
a tier has done the work: the range call if it may be used, a snapshot if the listing may be, the
limit if all else has failed, and then it closes numbers one by one. Which numbers is settled before
the first close, by the snapshot or by the limit alone.
-/

namespace DescriptorReaper

def Call.ofClose (close : Int × Except Errno Unit) : Call := .close close.1 close.2

theorem Recorded.closes_of_calls {σ : Type} (recorded : Recorded σ) (asked : List Call)
    (closes : List (Int × Except Errno Unit)) (others : ∀ call ∈ asked, call.closing? = none)
    (made : recorded.calls.toList = asked ++ closes.map Call.ofClose) : recorded.closes = closes := by
  have none : asked.filterMap Call.closing? = [] := List.filterMap_eq_nil_iff.mpr others
  have each : (closes.map Call.ofClose).filterMap Call.closing? = closes := by
    rw [List.filterMap_map]
    exact List.filterMap_some
  rw [Recorded.closes, made, List.filterMap_append, none, each]
  rfl

namespace World

theorem sweep_calls (note : Int → Errno → Option Event) (fds : List Int) (closed : Nat)
    (recorded : Recorded World) :
    (sweep note fds closed recorded).2.calls.toList =
      recorded.calls.toList ++ (answers fds recorded.state).map Call.ofClose := by
  induction fds generalizing closed recorded with
  | nil => exact (List.append_nil _).symm
  | cons fd rest ih =>
      let made := recorded.noteCall (.close fd (recorded.state.closeAnswer fd))
        (recorded.state.afterClose fd)
      have call : Kernel.close fd recorded = (recorded.state.closeAnswer fd, made) := rfl
      have calls : made.calls.toList =
          recorded.calls.toList ++ [Call.ofClose (fd, recorded.state.closeAnswer fd)] :=
        Array.toList_push
      have tail : ∀ (closed : Nat) (next : Recorded World), next.state = made.state →
          next.calls = made.calls →
          (sweep note rest closed next).2.calls.toList = recorded.calls.toList ++
            (answers (fd :: rest) recorded.state).map Call.ofClose := by
        intro closed next state same
        rw [ih closed next, state, same, calls, List.append_assoc]
        rfl
      rw [sweep, call]
      cases recorded.state.closeAnswer fd with
      | ok _ => exact tail (closed + 1) made rfl rfl
      | error error =>
          dsimp only
          cases note fd error with
          | none => exact tail closed made rfl rfl
          | some event => exact tail closed _ rfl rfl

theorem sweep_listing_shown (world : World) (dir : ListingDir) (low : Int) (shown : Snapshot)
    (taken : world.snapshot = .ok shown) :
    sweepListing dir low world = (.ok (world.closedBy (world.visited low .listing)),
      world.afterSweep (world.visited low .listing)) := by
  have call : Kernel.snapshot dir world = (world.snapshot, world) := rfl
  rw [sweepListing, call, visited, taken]
  dsimp only
  rw [sweep_eq, Nat.zero_add]

theorem sweep_listing_unread (world : World) (dir : ListingDir) (low : Int) (error : Errno)
    (failed : world.snapshot = .error error) :
    sweepListing dir low world = (.error error, world) := by
  have call : Kernel.snapshot dir world = (world.snapshot, world) := rfl
  rw [sweepListing, call, failed]

theorem sweep_numbers_eq (world : World) (low : Int) :
    sweepNumbers low world = (world.closedBy (world.visited low .bruteForce),
      world.afterSweep (world.visited low .bruteForce)) := by
  have call : Kernel.limit world = (world.limit, world) := rfl
  rw [sweepNumbers, call, visited]
  cases world.limit with
  | ok limit => exact (sweep_eq _ _ 0 world).trans (by rw [Nat.zero_add])
  | error error => exact (sweep_eq _ _ 0 world).trans (by rw [Nat.zero_add])

def closings (world : World) (low : Int) (tier : Tier) : List Call :=
  (answers (world.visited low tier) world).map Call.ofClose

theorem sweep_listing_calls (dir : ListingDir) (low : Int) (recorded : Recorded World) :
    (sweepListing dir low recorded).2.calls.toList =
      recorded.calls.toList ++ .snapshot dir recorded.state.snapshot ::
        recorded.state.closings low .listing := by
  let asked := recorded.noteCall (.snapshot dir recorded.state.snapshot) recorded.state
  have call : Kernel.snapshot dir recorded = (recorded.state.snapshot, asked) := rfl
  have calls : asked.calls.toList =
      recorded.calls.toList ++ [.snapshot dir recorded.state.snapshot] := Array.toList_push
  rw [sweepListing, call, closings, visited]
  cases taken : recorded.state.snapshot with
  | error error => rw [calls, taken]; rfl
  | ok shown =>
      rw [taken] at calls
      rw [sweep_calls, calls, List.append_assoc]
      rfl

theorem sweep_numbers_calls (low : Int) (recorded : Recorded World) :
    (sweepNumbers low recorded).2.calls.toList =
      recorded.calls.toList ++ .limit recorded.state.limit ::
        recorded.state.closings low .bruteForce := by
  let asked := recorded.noteCall (.limit recorded.state.limit) recorded.state
  have call : Kernel.limit recorded = (recorded.state.limit, asked) := rfl
  have calls : asked.calls.toList = recorded.calls.toList ++ [.limit recorded.state.limit] :=
    Array.toList_push
  rw [sweepNumbers, call, closings, visited]
  cases answered : recorded.state.limit with
  | ok limit =>
      rw [answered] at calls
      rw [sweep_calls, calls, List.append_assoc]
      rfl
  | error error =>
      rw [answered] at calls
      rw [sweep_calls]
      change asked.calls.toList ++ _ = _
      rw [calls, List.append_assoc]
      rfl

def listingTrace (world : World) (caps : Capabilities) (low : Int) : List Call :=
  let tier := world.sweepTier caps
  caps.listingDir.toList.map (.snapshot · world.snapshot) ++
    (if tier = .bruteForce then [.limit world.limit] else []) ++ world.closings low tier

/-- The calls of a run, each with its answer. -/
def trace (world : World) (caps : Capabilities) (low : Int) : List Call :=
  let left := world.afterRange caps low
  let tier := world.tier caps
  (if caps.rangeCall then [.closeRange low world.rangeAnswer] else []) ++
    (if tier = .rangeCall then [] else caps.listingDir.toList.map (.snapshot · left.snapshot)) ++
    (if tier = .bruteForce then [.limit world.limit] else []) ++ left.closings low tier

theorem reap_numbers_calls (low : Int) (recorded : Recorded World) :
    (Capabilities.reapNumbers low recorded).2.calls.toList =
      recorded.calls.toList ++ .limit recorded.state.limit ::
        recorded.state.closings low .bruteForce :=
  sweep_numbers_calls low recorded

theorem closings_unread (world : World) (low : Int) (error : Errno)
    (failed : world.snapshot = .error error) : world.closings low .listing = [] := by
  rw [closings, visited, failed]
  rfl

theorem reap_listing_calls (caps : Capabilities) (low : Int) (recorded : Recorded World) :
    (caps.reapListing low recorded).2.calls.toList =
      recorded.calls.toList ++ recorded.state.listingTrace caps low := by
  rw [Capabilities.reapListing, listingTrace]
  cases offered : caps.listingDir with
  | none =>
      have tier : recorded.state.sweepTier caps = .bruteForce := by rw [sweepTier, offered]
      rw [tier]
      exact reap_numbers_calls low recorded
  | some dir =>
      have viewed := Recorded.state_projects.sweep_listing dir low recorded
      have calls := sweep_listing_calls dir low recorded
      dsimp only
      generalize sweepListing dir low recorded = outcome at viewed calls ⊢
      obtain ⟨answer, next⟩ := outcome
      cases taken : recorded.state.snapshot with
      | ok shown =>
          rw [sweep_listing_shown _ dir low shown taken] at viewed
          have answered : .ok _ = answer := congrArg Prod.fst viewed
          subst answered
          rw [recorded.state.sweep_tier_listed caps dir shown offered taken]
          exact calls.trans (by rw [taken]; rfl)
      | error error =>
          rw [sweep_listing_unread _ dir low error taken] at viewed
          have answered : .error error = answer := congrArg Prod.fst viewed
          have unchanged : recorded.state = next.state := congrArg Prod.snd viewed
          subst answered
          rw [recorded.state.sweep_tier_unlisted caps error taken]
          have bruteForced := reap_numbers_calls low
            (Kernel.emit (.listingFailed low error dir) next)
          refine bruteForced.trans ?_
          change next.calls.toList ++ .limit next.state.limit :: next.state.closings low _ = _
          rw [← unchanged, calls, closings_unread _ low error taken, taken, List.append_assoc]
          rfl

/-- Once the range call is out of the way, a trace goes on like that of a run without one. -/
theorem trace_swept (world : World) (caps : Capabilities) (low : Int)
    (swept : world.tier caps = world.sweepTier caps) :
    world.trace caps low =
      (if caps.rangeCall then [.closeRange low world.rangeAnswer] else []) ++
        (world.afterRange caps low).listingTrace caps low := by
  rw [trace, swept, if_neg (world.sweep_tier_not_range caps)]
  simp only [listingTrace, List.append_assoc]
  rfl

theorem reap_range_calls (caps : Capabilities) (low : Int) (recorded : Recorded World) :
    (caps.reapRange low recorded).2.calls.toList =
      recorded.calls.toList ++ recorded.state.trace caps low := by
  rw [Capabilities.reapRange]
  by_cases ranged : caps.rangeCall = true
  · let called := recorded.noteCall (.closeRange low recorded.state.rangeAnswer)
      { recorded.state with table := recorded.state.tableAfterRange low }
    have call : Kernel.closeRange low recorded = (recorded.state.rangeAnswer, called) := rfl
    have left : recorded.state.afterRange caps low = called.state := by
      rw [afterRange, if_pos ranged]
      rfl
    have calls : called.calls.toList =
        recorded.calls.toList ++ [.closeRange low recorded.state.rangeAnswer] :=
      Array.toList_push
    rw [if_pos ranged, call]
    cases noted : recorded.state.rangeFault with
    | none =>
        have answered : recorded.state.rangeAnswer = .ok () := by rw [rangeAnswer, noted]
        have whole : recorded.state.tier caps = .rangeCall :=
          (recorded.state.tier_eq_range caps).mpr ⟨ranged, noted⟩
        rw [trace, whole, if_pos ranged, answered]
        rw [answered] at calls
        exact calls
    | some fault =>
        have answered : recorded.state.rangeAnswer = .error fault.error := by
          rw [rangeAnswer, noted]
        have swept : recorded.state.tier caps = recorded.state.sweepTier caps := by
          rw [tier, if_neg (by simp [noted])]
        rw [trace_swept _ caps low swept, left, if_pos ranged, ← List.append_assoc, ← calls,
          answered]
        exact reap_listing_calls caps low (Kernel.emit (.rangeFailed low fault.error) called)
  · have left : recorded.state.afterRange caps low = recorded.state := by
      rw [afterRange, if_neg ranged]
    have swept : recorded.state.tier caps = recorded.state.sweepTier caps := by
      rw [tier, if_neg fun whole => ranged whole.1]
    rw [trace_swept _ caps low swept, left, if_neg ranged, if_neg ranged, List.nil_append]
    exact reap_listing_calls caps low recorded

/-- A run makes the calls of its trace, and no others. -/
theorem reap_calls (caps : Capabilities) (lowfd : Int) (recorded : Recorded World) :
    (caps.reap lowfd recorded).2.calls.toList =
      recorded.calls.toList ++ recorded.state.trace caps (max lowfd 0) := by
  have uncalled : (Capabilities.warned lowfd recorded).calls = recorded.calls :=
    Capabilities.warned_cases (fun ready : Recorded World => ready.calls = recorded.calls)
      (fun _ => rfl) fun _ => rfl
  rw [Capabilities.reap_clamped, reap_range_calls, warned_state, uncalled]

theorem range_answer_ok (world : World) :
    world.rangeAnswer = .ok () ↔ world.rangeFault = none := by
  rw [rangeAnswer]
  cases world.rangeFault <;> simp

end World

/-- A run makes the range call if it may, goes on to a snapshot if it may and must, asks for the
limit if nothing else has worked, and only then closes numbers, each once and ascending. The
snapshot, or the limit, says which, whatever becomes of the closes: a run in another world that gets
the same answer there tries the same numbers. -/
theorem reap_climbs_down (world : World) (caps : Capabilities) (lowfd : Int) :
    let low := max lowfd 0
    let left := world.afterRange caps low
    let run := caps.reap lowfd (Recorded.start world)
    let attempts := run.2.closes.map Prod.fst
    run.2.calls.toList =
        (if caps.rangeCall then [.closeRange low world.rangeAnswer] else []) ++
          (if run.1 = .rangeCall then [] else caps.listingDir.toList.map (.snapshot · left.snapshot)) ++
          (if run.1 = .bruteForce then [.limit world.limit] else []) ++
          run.2.closes.map Call.ofClose ∧
      (run.1 = .rangeCall ↔ caps.rangeCall = true ∧ world.rangeAnswer = .ok ()) ∧
      (run.1 = .listing ↔ run.1 ≠ .rangeCall ∧ caps.listingDir.isSome = true ∧
        ∃ shown, left.snapshot = .ok shown) ∧
      Ascending attempts ∧
      (run.1 = .rangeCall → attempts = []) ∧
      (∀ shown, run.1 = .listing → left.snapshot = .ok shown → attempts = shown.candidates low) ∧
      (run.1 = .bruteForce → attempts = interval low (bound world.limit) ∧
        ∀ fd, fd ∈ attempts ↔ low ≤ fd ∧ fd < bound world.limit) ∧
      ∀ (other : World) (others : Capabilities) (otherfd : Int),
        let otherRun := others.reap otherfd (Recorded.start other)
        max otherfd 0 = low → otherRun.1 = run.1 →
          (run.1 = .listing → (other.afterRange others low).snapshot = left.snapshot) →
          (run.1 = .bruteForce → other.limit = world.limit) →
          otherRun.2.closes.map Prod.fst = attempts := by
  intro low left run attempts
  have ended : run.1 = world.tier caps := World.reap_ends caps lowfd world
  have tried : attempts = left.visited low (world.tier caps) :=
    World.reap_attempts caps lowfd world
  have closes : run.2.closes = World.answers (left.visited low (world.tier caps)) left :=
    (World.reap_swept caps lowfd (Recorded.start world)).records
  rw [ended, tried]
  refine ⟨?_, ?_, world.tier_eq_listing caps low, left.visited_ascending low _, ?_, ?_, ?_, ?_⟩
  · rw [closes]
    exact World.reap_calls caps lowfd (Recorded.start world)
  · rw [world.tier_eq_range, world.range_answer_ok]
  · intro whole
    rw [whole]
    rfl
  · intro shown listed taken
    rw [listed, World.visited, taken]
  · intro counted
    rw [counted]
    exact ⟨rfl, fun fd => left.mem_visited_numbers low fd⟩
  · intro other others otherfd otherRun sameLow sameTier sameShown sameLimit
    have otherEnded : otherRun.1 = other.tier others := World.reap_ends others otherfd other
    rw [World.reap_attempts others otherfd other, World.attempts, sameLow, ← otherEnded, sameTier]
    cases tier : world.tier caps with
    | rangeCall => rfl
    | listing => rw [World.visited, World.visited, sameShown tier]
    | bruteForce =>
        change interval low (bound other.limit) = interval low (bound world.limit)
        rw [sameLimit tier]

def World.stale : World where
  table := .ofList [0, 1, 2, 5, 9]
  rangeFault := some ⟨.eperm, none⟩
  listing := .fixed ⟨3, [⟨[57], none⟩, ⟨[53], some .charDevice⟩, ⟨[51], some .symlink⟩]⟩
  closeFaults := [⟨5, .eio, false⟩, ⟨9, .eintr, false⟩]

def World.deserted : World where
  table := .ofList [0, 77]
  listing := World.stale.listing
  sideCloses := [⟨3, [5, 77]⟩]

def World.barren : World where
  table := .ofList [0, 1, 3, 6, 9]
  rangeFault := some ⟨.eintr, some 8⟩
  listing := .failing .enoent
  limit := .ok (some 4)
  sideCloses := [⟨2, [3, 6]⟩]

theorem stale_and_deserted_climb_alike :
    let run := (Capabilities.mk true (some .procSelfFd)).reap 3 (Recorded.start World.stale)
    let otherRun := (Capabilities.mk false (some .devFd)).reap 3 (Recorded.start World.deserted)
    let lastRun := (Capabilities.mk true (some .devFd)).reap (-4) (Recorded.start World.barren)
    otherRun.1 = run.1 ∧ World.deserted.snapshot = World.stale.snapshot ∧
      otherRun.2.closes.map Prod.fst = run.2.closes.map Prod.fst ∧
      run.2.closes.map Prod.fst = [3, 5, 9] ∧ lastRun.1 = .bruteForce ∧
      lastRun.2.closes.map Prod.fst = [0, 1, 2, 3] := by
  intro run otherRun lastRun
  have listed : run.1 = .listing := by decide
  have otherListed : otherRun.1 = .listing := by decide
  obtain ⟨-, -, -, -, -, named, -, alike⟩ :=
    reap_climbs_down World.stale ⟨true, some .procSelfFd⟩ 3
  have counted : lastRun.1 = .bruteForce := by decide
  obtain ⟨-, -, -, ascending, -, -, numbers, -⟩ :=
    reap_climbs_down World.barren ⟨true, some .devFd⟩ (-4)
  refine ⟨otherListed.trans listed.symm, rfl, ?_, named _ listed rfl, counted, ?_⟩
  · exact alike World.deserted ⟨false, some .devFd⟩ 3 rfl (otherListed.trans listed.symm)
      (fun _ => rfl) (fun counted => absurd (listed.symm.trans counted) (by decide))
  · refine Ascending.eq_of_mem_iff ascending (by decide) fun fd => ?_
    rw [(numbers counted).2 fd, show bound World.barren.limit = 4 from rfl]
    simp only [List.mem_cons, List.not_mem_nil, or_false]
    omega

end DescriptorReaper
