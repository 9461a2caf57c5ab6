import DescriptorReaper.Proofs.Candidates
import DescriptorReaper.ProcessState
import DescriptorReaper.Reaper

/-!
Closing in a real process. A close there releases its number and takes nothing along, so a sweep
leaves the table without the numbers that it visits. The range call and the listing miss nothing,
but the listing can only be read while the lowest free number lies below the limit. Brute force
stops at the limit too, and what was opened before the limit was lowered stays open above it.
-/

namespace DescriptorReaper.ProcessState

def without (process : ProcessState) (fds : List Int) : ProcessState :=
  { process with table := process.table.eraseAll fds }

def keep (process : ProcessState) (test : Int → Bool) : ProcessState :=
  { process with table := process.table.keep test }

theorem table_congr (process : ProcessState) {left right : Table}
    (same : ∀ fd, fd ∈ left ↔ fd ∈ right) :
    { process with table := left } = { process with table := right } := by
  rw [Table.ext same]

theorem without_nil (process : ProcessState) : process.without [] = process :=
  table_congr process fun fd => by simp

theorem without_cons (process : ProcessState) (fd : Int) (rest : List Int) :
    (process.without [fd]).without rest = process.without (fd :: rest) := by
  refine table_congr process fun member => ?_
  simp only [without, Table.mem_eraseAll, List.mem_cons, List.not_mem_nil, or_false, not_or,
    and_assoc]

theorem close_eq (process : ProcessState) (fd : Int) :
    Kernel.close fd process = (process.closeAnswer fd, process.without [fd]) := by
  refine congrArg (Prod.mk (process.closeAnswer fd)) (table_congr process fun member => ?_)
  simp

-- Whatever the answer to a close, the number is not open afterwards, and events leave no trace.
theorem sweep_state (note : Int → Errno → Option Event) (fds : List Int) (closed : Nat)
    (process : ProcessState) : (sweep note fds closed process).2 = process.without fds := by
  induction fds generalizing closed process with
  | nil => exact process.without_nil.symm
  | cons fd rest ih =>
      rw [sweep, close_eq, ← without_cons process fd rest]
      cases process.closeAnswer fd with
      | ok _ => exact ih (closed + 1) (process.without [fd])
      | error error =>
          dsimp only
          cases note fd error with
          | none => exact ih closed (process.without [fd])
          | some event => exact ih closed (process.without [fd])

/-- Where brute force stops: at the limit, as far as a descriptor can lie there. A limit that is not
positive does not count. -/
def reach (process : ProcessState) : Int :=
  if 0 < process.limit then min process.limit maxDescriptor else 256

def Lists (process : ProcessState) (caps : Capabilities) : Prop :=
  caps.listingDir.isSome = true ∧ process.table.lowestFree < process.limit

instance (process : ProcessState) (caps : Capabilities) : Decidable (process.Lists caps) :=
  inferInstanceAs (Decidable (_ ∧ _))

def visited (process : ProcessState) (caps : Capabilities) (low : Int) : List Int :=
  if process.Lists caps then (Snapshot.ofTable process.table (some .symlink) false).candidates low
  else interval low process.reach

theorem reap_numbers_state (process : ProcessState) (low : Int) :
    (Capabilities.reapNumbers low process).2 = process.without (interval low process.reach) :=
  sweep_state (fun _ _ => none) (interval low process.reach) 0 process

theorem reap_listing_state (process : ProcessState) (caps : Capabilities) (low : Int) :
    (caps.reapListing low process).2 = process.without (process.visited caps low) := by
  have call : ∀ dir, Kernel.snapshot dir process = (process.snapshot, process) := fun _ => rfl
  rw [Capabilities.reapListing]
  cases offered : caps.listingDir with
  | none =>
      have unlisted : ¬ process.Lists caps := fun lists => by simp [Lists, offered] at lists
      rw [visited, if_neg unlisted]
      exact process.reap_numbers_state low
  | some dir =>
      dsimp only
      rw [sweepListing, call]
      by_cases room : process.table.lowestFree < process.limit
      · rw [snapshot, if_pos room, visited, if_pos ⟨by rw [offered]; rfl, room⟩]
        exact sweep_state _ _ 0 process
      · rw [snapshot, if_neg room, visited, if_neg fun lists => room lists.2]
        exact process.reap_numbers_state low

theorem reap_clamps (process : ProcessState) (caps : Capabilities) (lowfd : Int) :
    caps.reap lowfd process = caps.reapRange (max lowfd 0) process := by
  have unmoved : Capabilities.warned lowfd process = process :=
    Capabilities.warned_cases (· = process) (fun _ => rfl) fun _ => rfl
  rw [Capabilities.reap_clamped, unmoved]

/-- A strategy faster than brute force does the work, and misses nothing. -/
def Surveys (process : ProcessState) (caps : Capabilities) : Prop :=
  caps.rangeCall = true ∨ process.Lists caps

instance (process : ProcessState) (caps : Capabilities) : Decidable (process.Surveys caps) :=
  inferInstanceAs (Decidable (_ ∨ _))

section Numbers

variable (process : ProcessState) (numbers : ∀ fd ∈ process.table, 0 ≤ fd ∧ fd ≤ maxDescriptor)
include numbers

-- The listing names its own handle too, but that is not open any more, so it makes no difference.
theorem mem_visited (caps : Capabilities) (low fd : Int) (present : fd ∈ process.table) :
    fd ∈ process.visited caps low ↔ low ≤ fd ∧ (process.Lists caps ∨ fd < process.reach) := by
  obtain ⟨nonneg, fits⟩ := numbers fd present
  rw [visited]
  by_cases lists : process.Lists caps
  · rw [if_pos lists, Snapshot.mem_table_candidates]
    simp [EntryKind.naming, nonneg, fits, present, lists]
  · rw [if_neg lists, mem_interval]
    simp only [lists, false_or]

theorem reap_range_state (caps : Capabilities) (low : Int) (nonneg : 0 ≤ low)
    (fits : low ≤ maxDescriptor) :
    (caps.reapRange low process).2 =
      process.keep fun fd => fd < low ∨ ¬ process.Surveys caps ∧ process.reach ≤ fd := by
  rw [Capabilities.reapRange]
  by_cases ranged : caps.rangeCall = true
  · have whole : rangeStart low = low := by
      rw [maxDescriptor] at fits
      rw [rangeStart]
      omega
    have call : Kernel.closeRange low process =
        (.ok (), { process with table := process.table.closeFrom (rangeStart low) }) := rfl
    rw [if_pos ranged, call, whole]
    refine process.table_congr fun fd => ?_
    simp [Surveys, ranged]
  · rw [if_neg ranged, reap_listing_state]
    refine process.table_congr fun fd => ?_
    rw [Table.mem_eraseAll, Table.mem_keep, decide_eq_true_eq]
    refine and_congr_right fun present => ?_
    rw [process.mem_visited numbers caps low fd present]
    by_cases lists : process.Lists caps
    · simp only [Surveys, lists, or_true, true_or, and_true, not_true, false_and, or_false]
      omega
    · simp only [Surveys, lists, ranged, Bool.false_eq_true, or_self, false_or, not_false_iff,
        true_and]
      omega

theorem close_from_keeps (caps : Capabilities) (lowfd : Int) (fits : lowfd ≤ maxDescriptor) :
    caps.closeFrom lowfd process =
      process.keep fun fd => fd < max lowfd 0 ∨ ¬ process.Surveys caps ∧ process.reach ≤ fd := by
  rw [Capabilities.closeFrom, reap_clamps]
  exact process.reap_range_state numbers caps (max lowfd 0) (Int.le_max_right lowfd 0)
    (Int.max_le.mpr ⟨fits, by decide⟩)

theorem mem_close_from (caps : Capabilities) (lowfd : Int) (fits : lowfd ≤ maxDescriptor)
    (fd : Int) :
    fd ∈ (caps.closeFrom lowfd process).table ↔ fd ∈ process.table ∧
      (fd < max lowfd 0 ∨ ¬ process.Surveys caps ∧ process.reach ≤ fd) := by
  rw [process.close_from_keeps numbers caps lowfd fits]
  refine Table.mem_keep.trans ?_
  rw [decide_eq_true_eq]

end Numbers

/-- A run closes everything from the threshold up exactly if a faster strategy can do the work, or
all that is open there lies within the reach of brute force. A limit lowered below an open
descriptor is beyond it. -/
theorem close_from_complete_iff (process : ProcessState) (caps : Capabilities) (lowfd : Int)
    (numbers : ∀ fd ∈ process.table, 0 ≤ fd ∧ fd ≤ maxDescriptor) (fits : lowfd ≤ maxDescriptor) :
    (∀ fd ∈ (caps.closeFrom lowfd process).table, fd < max lowfd 0) ↔
      process.Surveys caps ∨ ∀ fd ∈ process.table, max lowfd 0 ≤ fd → fd < process.reach := by
  have left := process.mem_close_from numbers caps lowfd fits
  constructor
  · intro complete
    by_cases surveys : process.Surveys caps
    · exact Or.inl surveys
    · refine Or.inr fun fd present reached => Int.not_le.mp fun beyond => ?_
      have := complete fd ((left fd).mpr ⟨present, Or.inr ⟨surveys, beyond⟩⟩)
      omega
  · intro within fd stays
    obtain ⟨present, below | ⟨blind, beyond⟩⟩ := (left fd).mp stays
    · exact below
    · rcases within with surveys | reached
      · exact absurd surveys blind
      · refine Int.not_le.mp fun above => ?_
        have := reached fd present above
        omega

def lowered : ProcessState := ⟨.ofList [0, 1, 2, 10], 3⟩

/-- Brute force, asked for or fallen back on, leaves 10 open. -/
theorem lowered_limit_leaves_open :
    (∀ fd ∈ lowered.table, 0 ≤ fd ∧ fd ≤ maxDescriptor) ∧
      10 ∈ (Capabilities.none.closeFrom 3 lowered).table ∧
      10 ∈ ((Capabilities.mk false (some .procSelfFd)).closeFrom 3 lowered).table := by
  refine ⟨?_, by decide, by decide⟩
  change ∀ fd ∈ [0, 1, 2, 10], _
  decide

def gapped : ProcessState := ⟨.ofList [0, 1, 3, 10], 3⟩

theorem gapped_listing_completes :
    (∀ fd ∈ gapped.table, 0 ≤ fd ∧ fd ≤ maxDescriptor) ∧ 1 ≤ maxDescriptor ∧
      ∀ fd ∈ ((Capabilities.mk false (some .procSelfFd)).closeFrom 1 gapped).table, fd < 1 := by
  have numbers : ∀ fd ∈ gapped.table, 0 ≤ fd ∧ fd ≤ maxDescriptor := by
    change ∀ fd ∈ [0, 1, 3, 10], _
    decide
  refine ⟨numbers, by decide, ?_⟩
  exact (close_from_complete_iff gapped _ 1 numbers (by decide)).mpr
    (Or.inl (Or.inr ⟨rfl, by decide⟩))

/-- A run closes everything from the threshold up if a faster strategy can do the work, and what
lies below the reach of brute force if not. What is detected always includes the range call, which
by itself would close nothing from a negative number up. -/
theorem close_from_residue (process : ProcessState) (caps : Capabilities) (lowfd : Int)
    (numbers : ∀ fd ∈ process.table, 0 ≤ fd ∧ fd ≤ maxDescriptor) (fits : lowfd ≤ maxDescriptor) :
    (process.Surveys caps → caps.closeFrom lowfd process = process.keep (· < max lowfd 0)) ∧
      (¬ process.Surveys caps → caps.closeFrom lowfd process =
        process.keep fun fd => fd < max lowfd 0 ∨ process.reach ≤ fd) ∧
      closeFrom lowfd process = process.keep (· < max lowfd 0) ∧
      ∀ low, Decimal.Range.word32.least ≤ low → low < 0 →
        Kernel.closeRange low process = (.ok (), process) := by
  have run := fun caps => process.close_from_keeps numbers caps lowfd fits
  refine ⟨fun surveys => ?_, fun blind => ?_, ?_, fun low least negative => ?_⟩
  · rw [run caps]
    simp only [surveys, not_true, false_and, or_false]
  · rw [run caps]
    simp only [blind, not_false_iff, true_and]
  · have ranged : process.Surveys ⟨true, some .native⟩ := Or.inl rfl
    have detected : closeFrom lowfd process =
        (Capabilities.mk true (some .native)).closeFrom lowfd process := rfl
    rw [detected, run]
    simp only [ranged, not_true, false_and, or_false]
  · -- As an unsigned word the number lies above every descriptor.
    refine congrArg (Prod.mk (Except.ok ())) (process.table_congr fun fd => ?_)
    rw [Table.mem_closeFrom, rangeStart]
    refine and_iff_left_of_imp fun present => ?_
    have highest := (numbers fd present).2
    rw [maxDescriptor] at highest
    change -2147483648 ≤ low at least
    omega

def unlimited : ProcessState := ⟨.ofList [0, 1, 2, 10, 300], 0⟩

theorem unlimited_residue :
    (∀ fd ∈ unlimited.table, 0 ≤ fd ∧ fd ≤ maxDescriptor) ∧ -1 ≤ maxDescriptor ∧
      ((Capabilities.mk false (some .devFd)).closeFrom (-1) unlimited).table.fds = [300] ∧
      (closeFrom (-1) unlimited).table.fds = [] ∧
      Kernel.closeRange (-1) unlimited = (.ok (), unlimited) := by
  have numbers : ∀ fd ∈ unlimited.table, 0 ≤ fd ∧ fd ≤ maxDescriptor := by
    change ∀ fd ∈ [0, 1, 2, 10, 300], _
    decide
  obtain ⟨-, blind, detected, ranged⟩ :=
    close_from_residue unlimited ⟨false, some .devFd⟩ (-1) numbers (by decide)
  refine ⟨numbers, by decide, ?_, ?_, ranged (-1) (by decide) (by decide)⟩
  · rw [blind (by decide)]
    decide
  · rw [detected]
    decide

end DescriptorReaper.ProcessState
