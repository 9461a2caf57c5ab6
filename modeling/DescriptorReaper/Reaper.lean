import DescriptorReaper.Kernel

/-!
Closing every descriptor from a threshold up, on any kernel. The strategies form a ladder: one
call for the whole range, then a sweep over a snapshot of the listing, then a sweep over every
number below the descriptor limit. A strategy that is missing or fails hands over to the next, and
the last one always does the work.
-/

namespace DescriptorReaper

variable {σ : Type} [Kernel σ]

open Kernel (emit)

/-- Ask the system what it offers. -/
def Capabilities.detect (state : σ) : Capabilities × σ :=
  let (rangeCall, state) := Kernel.offersRange state
  let (listed, state) := Kernel.offersDir .native state
  let caps : Capabilities := ⟨rangeCall, if listed then some .native else Option.none⟩
  (caps, emit (.detected caps) state)

/-- Close each number in turn, whatever became of the ones before, and count the closes that
succeed on top of `closed`. A failure may be worth an event. -/
def sweep (note : Int → Errno → Option Event) : List Int → Nat → σ → Nat × σ
  | [], closed, state => (closed, state)
  | fd :: rest, closed, state =>
      match Kernel.close fd state with
      | (.ok _, state) => sweep note rest (closed + 1) state
      | (.error error, state) =>
          match note fd error with
          | some event => sweep note rest closed (emit event state)
          | none => sweep note rest closed state

def listingNote (handle fd : Int) : Errno → Option Event
  -- The handle that the listing was read through is closed by then.
  | .ebadf => some (.alreadyClosed fd (decide (fd = handle)))
  | error => some (.closeFailed fd error)

def sweepListing (dir : ListingDir) (low : Int) (state : σ) : Except Errno Nat × σ :=
  -- The snapshot is complete before the first close.
  match Kernel.snapshot dir state with
  | (.error error, state) => (.error error, state)
  | (.ok snapshot, state) =>
      let (closed, state) := sweep (listingNote snapshot.handle) (snapshot.candidates low) 0 state
      (.ok closed, state)

def assumedLimit : Int := 256

/-- Where brute force stops, for an answer about the limit: the limit, held to the numbers that a
descriptor can have. -/
def bound : Except Errno (Option Int) → Int
  | .ok (some limit) => if 0 < limit then min limit maxDescriptor else assumedLimit
  | .ok none | .error _ => assumedLimit

theorem bound_fits (answer : Except Errno (Option Int)) : bound answer ≤ maxDescriptor := by
  have assumed : assumedLimit ≤ maxDescriptor := by decide
  cases answer with
  | error _ => exact assumed
  | ok limit =>
      cases limit with
      | none => exact assumed
      | some limit =>
          rw [bound]
          split
          · exact Int.min_le_right limit maxDescriptor
          · exact assumed

def interval (low high : Int) : List Int :=
  (List.range (high - low).toNat).map fun (offset : Nat) => low + offset

theorem mem_interval {low high fd : Int} : fd ∈ interval low high ↔ low ≤ fd ∧ fd < high := by
  simp only [interval, List.mem_map, List.mem_range]
  constructor
  · rintro ⟨offset, small, rfl⟩
    omega
  · rintro ⟨reached, below⟩
    exact ⟨(fd - low).toNat, by omega, by omega⟩

theorem interval_ascending (low high : Int) : Ascending (interval low high) := by
  refine List.pairwise_map.mpr (List.Pairwise.imp ?_ List.pairwise_lt_range)
  intro earlier later before
  omega

def sweepNumbers (low : Int) (state : σ) : Nat × σ :=
  -- Most numbers are not open, so no failure of a close is worth an event.
  let (answer, state) := Kernel.limit state
  let state := match answer with
    | .error error => emit (.limitUnknown error) state
    | .ok _ => state
  sweep (fun _ _ => none) (interval low (bound answer)) 0 state

namespace Capabilities

def reapNumbers (low : Int) (state : σ) : Tier × σ :=
  let (closed, state) := sweepNumbers low state
  (.bruteForce, emit (.bruteForced low closed) state)

def reapListing (caps : Capabilities) (low : Int) (state : σ) : Tier × σ :=
  match caps.listingDir with
  | Option.none => reapNumbers low state
  | some dir =>
      match sweepListing dir low state with
      | (.ok closed, state) => (.listing, emit (.listingClosed low closed dir) state)
      | (.error error, state) => reapNumbers low (emit (.listingFailed low error dir) state)

def reapRange (caps : Capabilities) (low : Int) (state : σ) : Tier × σ :=
  if caps.rangeCall then
    match Kernel.closeRange low state with
    | (.ok _, state) => (.rangeCall, emit (.rangeClosed low) state)
    | (.error error, state) => caps.reapListing low (emit (.rangeFailed low error) state)
  else caps.reapListing low state

/-- Close every descriptor numbered `lowfd` or higher, and tell which tier did it. A negative
threshold is taken for 0. -/
def reap (caps : Capabilities) (lowfd : Int) (state : σ) : Tier × σ :=
  if lowfd < 0 then caps.reapRange 0 (emit (.negativeThreshold lowfd) state)
  else caps.reapRange lowfd state

def warned (lowfd : Int) (state : σ) : σ :=
  if lowfd < 0 then emit (.negativeThreshold lowfd) state else state

theorem warned_cases (property : σ → Prop) {lowfd : Int} {state : σ}
    (negative : lowfd < 0 → property (emit (.negativeThreshold lowfd) state))
    (otherwise : ¬ lowfd < 0 → property state) : property (warned lowfd state) := by
  by_cases below : lowfd < 0
  · rw [warned, if_pos below]
    exact negative below
  · rw [warned, if_neg below]
    exact otherwise below

/-- Whatever the threshold, a run goes through the ladder from the clamped one. -/
theorem reap_clamped (caps : Capabilities) (lowfd : Int) (state : σ) :
    caps.reap lowfd state = caps.reapRange (max lowfd 0) (warned lowfd state) := by
  rw [reap, warned]
  by_cases negative : lowfd < 0
  · rw [if_pos negative, if_pos negative, show max lowfd 0 = 0 by omega]
  · rw [if_neg negative, if_neg negative, show max lowfd 0 = lowfd by omega]

def closeFrom (caps : Capabilities) (lowfd : Int) (state : σ) : σ := (caps.reap lowfd state).2

end Capabilities

/-- Close every descriptor numbered `lowfd` or higher by the best means that the system offers. -/
def closeFrom (lowfd : Int) (state : σ) : σ :=
  let (caps, state) := Capabilities.detect state
  caps.closeFrom lowfd state

/-- The open descriptors as a directory lists them, the reading handle left out. -/
def openDescriptors (dir : ListingDir) (state : σ) : Except Errno (List Int) × σ :=
  match Kernel.snapshot dir state with
  | (.error error, state) => (.error error, state)
  | (.ok snapshot, state) => (.ok snapshot.descriptors, state)

end DescriptorReaper
