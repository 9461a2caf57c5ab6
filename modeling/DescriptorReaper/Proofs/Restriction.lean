import DescriptorReaper.Proofs.CallOrder

/-!
To be kept from a strategy is as good as to see it fail. A run that is restricted to a tier makes
the calls of a run without the restriction in a world where the faster strategies fail and do
nothing, apart from the calls to these, and it leaves the same table.
-/

namespace DescriptorReaper

def Call.tier : Call → Tier
  | .closeRange _ _ => .rangeCall
  | .snapshot _ _ => .listing
  | .offersRange _ | .offersDir _ _ | .close _ _ | .limit _ => .bruteForce

def Call.noFasterThan (tier : Tier) (calls : List Call) : List Call :=
  calls.filter fun call => decide (tier ≤ call.tier)

theorem Call.no_faster_append (tier : Tier) (front back : List Call) :
    Call.noFasterThan tier (front ++ back) =
      Call.noFasterThan tier front ++ Call.noFasterThan tier back :=
  List.filter_append front back

theorem Capabilities.no_faster_than_range (caps : Capabilities) :
    caps.noFasterThan .rangeCall = caps := by
  cases caps with
  | mk allowed dir => cases allowed <;> cases dir <;> rfl

theorem Capabilities.range_restricted (caps : Capabilities) {tier : Tier}
    (slower : tier ≠ .rangeCall) : (caps.noFasterThan tier).rangeCall = false := by
  cases tier with
  | rangeCall => exact absurd rfl slower
  | listing => exact Bool.and_false _
  | bruteForce => exact Bool.and_false _

namespace World

/-- The world in which every strategy faster than a tier fails without doing anything. -/
def hindered (world : World) (rangeError listingError : Errno) : Tier → World
  | .rangeCall => world
  | .listing => { world with rangeFault := some ⟨rangeError, none⟩ }
  | .bruteForce =>
      { world with
        rangeFault := some ⟨rangeError, none⟩
        listing := .failing listingError }

-- What answers a close is the table and the script for closes, which a hindrance leaves alone.
theorem answers_hindered (world : World) (rangeError listingError : Errno) (tier : Tier)
    (fds : List Int) :
    answers fds (world.hindered rangeError listingError tier) = answers fds world := by
  induction fds generalizing world with
  | nil => rfl
  | cons fd rest ih =>
      have later := ih (world.afterClose fd)
      cases tier with
      | rangeCall => rfl
      | listing => exact congrArg (List.cons (fd, world.closeAnswer fd)) later
      | bruteForce => exact congrArg (List.cons (fd, world.closeAnswer fd)) later

section Hindered

variable (world : World) (caps : Capabilities) (rangeError listingError : Errno) (low : Int)

theorem after_range_hindered (tier : Tier) (slower : tier ≠ .rangeCall) :
    (world.hindered rangeError listingError tier).afterRange caps low =
      world.hindered rangeError listingError tier := by
  cases tier with
  | rangeCall => exact absurd rfl slower
  | listing => cases caps with | mk allowed dir => cases allowed <;> rfl
  | bruteForce => cases caps with | mk allowed dir => cases allowed <;> rfl

theorem tier_hindered (tier : Tier) (slower : tier ≠ .rangeCall) :
    (world.hindered rangeError listingError tier).tier caps =
      (world.hindered rangeError listingError tier).sweepTier caps := by
  rw [World.tier]
  refine if_neg fun whole => ?_
  cases tier with
  | rangeCall => exact slower rfl
  | listing => cases whole.2
  | bruteForce => cases whole.2

theorem sweep_tier_hindered (tier : Tier) :
    world.sweepTier (caps.noFasterThan tier) =
      (world.hindered rangeError listingError tier).sweepTier caps := by
  cases caps with
  | mk allowed dir => cases tier <;> cases dir <;> rfl

theorem closings_kept (kept tier : Tier) :
    Call.noFasterThan kept (world.closings low tier) = world.closings low tier := by
  refine List.filter_eq_self.mpr fun call member => ?_
  obtain ⟨close, -, rfl⟩ := List.mem_map.mp member
  cases kept <;> rfl

theorem visited_hindered (tier : Tier) :
    (world.hindered rangeError listingError tier).visited low
        (world.sweepTier (caps.noFasterThan tier)) =
      world.visited low (world.sweepTier (caps.noFasterThan tier)) := by
  cases caps with
  | mk allowed dir => cases tier <;> cases dir <;> rfl

-- The listing is asked on both sides unless it is too fast itself, and then it fails on one of
-- them.
theorem listing_trace_hindered (tier : Tier) :
    world.listingTrace (caps.noFasterThan tier) low =
      Call.noFasterThan tier
        ((world.hindered rangeError listingError tier).listingTrace caps low) := by
  have sameTier := world.sweep_tier_hindered caps rangeError listingError tier
  have sameClosings : (world.hindered rangeError listingError tier).closings low
      (world.sweepTier (caps.noFasterThan tier)) =
        world.closings low (world.sweepTier (caps.noFasterThan tier)) := by
    rw [closings, closings, visited_hindered, answers_hindered]
  have snapshots : (caps.noFasterThan tier).listingDir.toList.map (Call.snapshot · world.snapshot) =
      Call.noFasterThan tier (caps.listingDir.toList.map
        (Call.snapshot · (world.hindered rangeError listingError tier).snapshot)) := by
    cases caps with
    | mk allowed dir => cases tier <;> cases dir <;> rfl
  have limits : ∀ asked : Prop, [Decidable asked] →
      (if asked then [.limit world.limit] else []) = Call.noFasterThan tier
        (if asked then [.limit (world.hindered rangeError listingError tier).limit] else []) := by
    intro asked decided
    split <;> cases tier <;> rfl
  rw [listingTrace, listingTrace, ← sameTier, sameClosings, snapshots, limits,
    Call.no_faster_append, Call.no_faster_append, closings_kept]

section Slower

variable {tier : Tier} (slower : tier ≠ .rangeCall)
include slower

theorem tier_restricted_slower :
    world.tier (caps.noFasterThan tier) = world.sweepTier (caps.noFasterThan tier) := by
  rw [World.tier, caps.range_restricted slower]
  exact if_neg fun whole => Bool.false_ne_true whole.1

theorem after_range_restricted : world.afterRange (caps.noFasterThan tier) low = world := by
  rw [afterRange, caps.range_restricted slower]
  rfl

theorem range_call_dropped :
    Call.noFasterThan tier (if caps.rangeCall then
      [.closeRange low (world.hindered rangeError listingError tier).rangeAnswer] else []) = [] := by
  split
  · cases tier with
    | rangeCall => exact absurd rfl slower
    | listing => rfl
    | bruteForce => rfl
  · rfl

end Slower

theorem trace_hindered (tier : Tier) :
    world.trace (caps.noFasterThan tier) low =
      Call.noFasterThan tier ((world.hindered rangeError listingError tier).trace caps low) := by
  by_cases slower : tier ≠ .rangeCall
  · rw [trace_swept _ _ low (world.tier_restricted_slower caps slower),
      world.after_range_restricted caps low slower, caps.range_restricted slower,
      trace_swept _ caps low (world.tier_hindered caps rangeError listingError tier slower),
      after_range_hindered _ _ _ _ _ _ slower, Call.no_faster_append,
      world.range_call_dropped caps rangeError listingError low slower, ← listing_trace_hindered]
    rfl
  · obtain rfl := Decidable.not_not.mp slower
    have all : ∀ calls, Call.noFasterThan .rangeCall calls = calls := fun calls =>
      List.filter_eq_self.mpr fun call _ => by cases call <;> rfl
    rw [caps.no_faster_than_range, all]
    rfl

theorem tier_restricted (tier : Tier) :
    world.tier (caps.noFasterThan tier) =
      (world.hindered rangeError listingError tier).tier caps := by
  by_cases slower : tier ≠ .rangeCall
  · rw [world.tier_restricted_slower caps slower,
      world.tier_hindered caps rangeError listingError tier slower, sweep_tier_hindered]
  · obtain rfl := Decidable.not_not.mp slower
    rw [caps.no_faster_than_range]
    rfl

theorem restricted_no_faster (tier : Tier) : tier ≤ world.tier (caps.noFasterThan tier) := by
  by_cases slower : tier ≠ .rangeCall
  · rw [world.tier_restricted_slower caps slower]
    cases tier with
    | rangeCall => exact absurd rfl slower
    | listing =>
        have swept := world.sweep_tier_not_range (caps.noFasterThan .listing)
        cases ended : world.sweepTier (caps.noFasterThan .listing) with
        | rangeCall => exact absurd ended swept
        | listing => decide
        | bruteForce => decide
    | bruteForce =>
        cases caps with
        | mk allowed dir => cases dir <;> exact Nat.le_refl _
  · obtain rfl := Decidable.not_not.mp slower
    exact Nat.zero_le _

/-- The table that a restricted run leaves. -/
theorem table_restricted (tier : Tier) :
    let left := world.afterRange (caps.noFasterThan tier) low
    let hindered := (world.hindered rangeError listingError tier).afterRange caps low
    let swept := world.tier (caps.noFasterThan tier)
    (left.afterSweep (left.visited low swept)).table =
      (hindered.afterSweep (hindered.visited low swept)).table := by
  intro left hindered swept
  by_cases slower : tier ≠ .rangeCall
  · have stays : left = world := world.after_range_restricted caps low slower
    have hinders : hindered = world.hindered rangeError listingError tier :=
      world.after_range_hindered caps rangeError listingError low tier slower
    have ended : swept = world.sweepTier (caps.noFasterThan tier) :=
      world.tier_restricted_slower caps slower
    rw [stays, hinders, ended, visited_hindered]
    cases tier <;> rfl
  · obtain rfl := Decidable.not_not.mp slower
    have same : left = hindered := by
      change world.afterRange (caps.noFasterThan .rangeCall) low = _
      rw [caps.no_faster_than_range]
      rfl
    rw [same]

end Hindered

end World

/-- A run that is restricted to a tier comes to the same tier as a run that sees all faster
strategies fail, makes the same calls but for those to the faster strategies, and leaves the same
table. It never ends in a faster tier, nor makes a call to one. -/
theorem restriction_is_failure (world : World) (caps : Capabilities) (tier : Tier) (lowfd : Int)
    (rangeError listingError : Errno) :
    let restricted := (caps.noFasterThan tier).reap lowfd (Recorded.start world)
    let hindered :=
      caps.reap lowfd (Recorded.start (world.hindered rangeError listingError tier))
    restricted.1 = hindered.1 ∧
      restricted.2.calls.toList = Call.noFasterThan tier hindered.2.calls.toList ∧
      restricted.2.state.table = hindered.2.state.table ∧
      tier ≤ restricted.1 ∧
      ∀ call ∈ restricted.2.calls.toList, tier ≤ call.tier := by
  intro restricted hindered
  have calls : restricted.2.calls.toList = Call.noFasterThan tier hindered.2.calls.toList := by
    have left := World.reap_calls (caps.noFasterThan tier) lowfd (Recorded.start world)
    have right := World.reap_calls caps lowfd
      (Recorded.start (world.hindered rangeError listingError tier))
    exact left.trans ((world.trace_hindered caps rangeError listingError _ tier).trans
      (congrArg (Call.noFasterThan tier) right.symm))
  have left := World.reap_swept (caps.noFasterThan tier) lowfd (Recorded.start world)
  have right := World.reap_swept caps lowfd
    (Recorded.start (world.hindered rangeError listingError tier))
  have sameTier := world.tier_restricted caps rangeError listingError tier
  refine ⟨left.ends.trans (sameTier.trans right.ends.symm), calls, ?_, ?_, ?_⟩
  · have leaves := right.leaves
    change hindered.2.state = _ at leaves
    rw [show (Recorded.start (world.hindered rangeError listingError tier)).state.tier caps = _
      from sameTier.symm] at leaves
    rw [leaves, show restricted.2.state = _ from left.leaves]
    exact world.table_restricted caps rangeError listingError (max lowfd 0) tier
  · rw [show restricted.1 = _ from left.ends]
    exact world.restricted_no_faster caps tier
  · intro call member
    rw [calls] at member
    exact of_decide_eq_true (List.mem_filter.mp member).2

theorem stale_restricted_as_hindered :
    let restricted := ((Capabilities.mk true (some .devFd)).noFasterThan .listing).reap 3
      (Recorded.start World.stale)
    let hindered := (Capabilities.mk true (some .devFd)).reap 3
      (Recorded.start (World.stale.hindered .einval .enoent .listing))
    restricted.2.calls.toList = Call.noFasterThan .listing hindered.2.calls.toList ∧
      Call.close 3 (.error .ebadf) ∈ restricted.2.calls.toList ∧
      Tier.listing ≤ (Call.close 3 (.error .ebadf)).tier := by
  intro restricted hindered
  have member : Call.close 3 (.error .ebadf) ∈ restricted.2.calls.toList :=
    List.mem_of_getElem? (i := 1) rfl
  obtain ⟨-, calls, -, -, slow⟩ :=
    restriction_is_failure World.stale ⟨true, some .devFd⟩ .listing 3 .einval .enoent
  exact ⟨calls, member, slow _ member⟩

end DescriptorReaper
