import DescriptorReaper.ProcessState
import DescriptorReaper.Proofs.LastRung

/-!
The sweep over numbers, on any kernel. It is a loop on a counter of 32 bits that goes up one by one
from the clamped threshold to the bound. No step of it wraps around, so each number in between is
tried exactly once, in its order, and the loop comes to its end. Where only open descriptors can be
closed and no close opens any, at most as many closes succeed as descriptors in the range were open.
-/

namespace DescriptorReaper

variable {σ : Type} [Kernel σ]

theorem interval_nothing (low : Int) : interval low (low + (0 : Nat)) = [] := by
  simp [interval]

theorem interval_next (low : Int) (steps : Nat) :
    interval low (low + (steps + 1 : Nat)) = interval low (low + steps) ++ [low + steps] := by
  have before : (low + (steps : Int) - low).toNat = steps := by omega
  have behind : (low + ((steps + 1 : Nat) : Int) - low).toNat = steps + 1 := by omega
  rw [interval, interval, before, behind, List.range_succ, List.map_append]
  rfl

theorem interval_steps (low high : Int) :
    interval low (low + (high - low).toNat) = interval low high := by
  have same : (low + ((high - low).toNat : Int) - low).toNat = (high - low).toNat := by omega
  rw [interval, interval, same]

theorem sweep_append (note : Int → Errno → Option Event) (fds more : List Int) (closed : Nat)
    (state : σ) :
    sweep note (fds ++ more) closed state =
      sweep note more (sweep note fds closed state).1 (sweep note fds closed state).2 := by
  induction fds generalizing closed state with
  | nil => rfl
  | cons fd rest ih =>
      simp only [List.cons_append, sweep]
      obtain ⟨answer, next⟩ := Kernel.close fd state
      cases answer with
      | ok done => exact ih (closed + 1) next
      | error error =>
          dsimp only
          cases note fd error with
          | none => exact ih closed next
          | some event => exact ih closed (Kernel.emit event next)

def passed (low high : Int) (start : σ) : Nat × σ :=
  sweep (fun _ _ => none) (interval low high) 0 start

def turn (low : Int) (start : σ) (fd : Int) : Except Errno Unit :=
  (Kernel.close fd (passed low fd start).2).1

theorem passed_nothing (low : Int) (start : σ) : passed low (low + (0 : Nat)) start = (0, start) := by
  rw [passed, interval_nothing]
  rfl

theorem passed_next (low : Int) (steps : Nat) (start : σ) :
    passed low (low + (steps + 1 : Nat)) start =
      ((passed low (low + steps) start).1 + (if (turn low start (low + steps)).isOk then 1 else 0),
        (Kernel.close (low + steps) (passed low (low + steps) start).2).2) := by
  rw [passed, interval_next, sweep_append]
  change sweep (fun _ _ => none) [low + (steps : Int)] (passed low (low + steps) start).1
    (passed low (low + steps) start).2 = _
  rw [turn, sweep]
  obtain ⟨answer, next⟩ := Kernel.close (low + steps) (passed low (low + steps) start).2
  cases answer with
  | ok done => rfl
  | error error => rfl

theorem sweep_numbers_passed (low : Int) (state : σ) :
    sweepNumbers low state = passed low (bound (Kernel.limit state).1) (pastLimit state) := by
  rw [sweepNumbers, pastLimit]
  obtain ⟨answer, next⟩ := Kernel.limit state
  cases answer with
  | ok limit => rfl
  | error error => rfl

theorem passed_steps (low high : Int) (start : σ) :
    passed low (low + (high - low).toNat) start = passed low high start := by
  rw [passed, interval_steps]
  rfl

theorem passed_count (low : Int) (steps : Nat) (start : σ) :
    (passed low (low + steps) start).1 =
      (interval low (low + steps)).countP fun fd => (turn low start fd).isOk := by
  induction steps with
  | zero => rw [passed_nothing, interval_nothing, List.countP_nil]
  | succ steps ih => rw [passed_next, interval_next, List.countP_append, List.countP_singleton, ih]

namespace Recorded

theorem passed_idle (low high : Int) (recorded : Recorded σ) :
    (passed low high recorded).2.closes = recorded.closes ++
        (interval low high).map (fun fd => (fd, turn low recorded.state fd)) ∧
      (passed low high recorded).2.counts = recorded.counts := by
  rw [← passed_steps, ← interval_steps]
  induction (high - low).toNat with
  | zero =>
      rw [passed_nothing, interval_nothing]
      exact ⟨(List.append_nil _).symm, rfl⟩
  | succ steps ih =>
      -- A record never changes what it records, so the answer noted is the one without a record.
      have viewed : (passed low (low + steps) recorded).2.state =
          (passed low (low + steps) recorded.state).2 :=
        (congrArg Prod.snd (state_projects.sweep _ (interval low (low + steps)) 0 recorded)).symm
      rw [passed_next, close_eq, closes_note_call, viewed, ih.1, interval_next, List.map_append,
        List.append_assoc]
      exact ⟨rfl, ih.2⟩

end Recorded

/-- A sweep over numbers under way, with the number that is next in 32 bits. -/
structure NumberLoop (σ : Type) where
  counter : Int32
  stop : Int32
  closed : Nat
  state : σ

namespace NumberLoop

def begun (low stop : Int32) (start : σ) : NumberLoop σ := ⟨low, stop, 0, start⟩

def next (loop : NumberLoop σ) : NumberLoop σ :=
  let (answer, state) := Kernel.close loop.counter.toInt loop.state
  { loop with
    counter := loop.counter + 1
    closed := loop.closed + if answer.isOk then 1 else 0
    state }

def step? (loop : NumberLoop σ) : Option (NumberLoop σ) :=
  if loop.counter < loop.stop then some loop.next else none

def after? : Nat → NumberLoop σ → Option (NumberLoop σ)
  | 0, loop => some loop
  | steps + 1, loop => (after? steps loop).bind step?

structure Stands (low stop : Int32) (start : σ) (steps : Nat) (loop : NumberLoop σ) : Prop where
  counter : loop.counter.toInt = low.toInt + steps
  stop : loop.stop = stop
  closed : loop.closed = (passed low.toInt (low.toInt + steps) start).1
  state : loop.state = (passed low.toInt (low.toInt + steps) start).2

variable {low stop : Int32} {start : σ}

theorem next_closed (loop : NumberLoop σ) :
    loop.next.closed =
      loop.closed + if (Kernel.close loop.counter.toInt loop.state).1.isOk then 1 else 0 := rfl

theorem next_state (loop : NumberLoop σ) :
    loop.next.state = (Kernel.close loop.counter.toInt loop.state).2 := rfl

theorem stands_begun : (begun low stop start).Stands low stop start 0 where
  counter := (Int.add_zero _).symm
  stop := rfl
  closed := by rw [passed_nothing, begun]
  state := by rw [passed_nothing, begun]

omit [Kernel σ] in
theorem counter_advances {counter : Int32} (below : counter < stop) :
    (counter + 1).toInt = counter.toInt + 1 := by
  have smaller := Int32.lt_iff_toInt_lt.mp below
  have highest := stop.toInt_lt
  have least := counter.le_toInt
  rw [Int32.toInt_add, Int32.toInt_one]
  exact Int.bmod_eq_of_le (by omega) (by omega)

theorem Stands.next {steps : Nat} {loop : NumberLoop σ} (stands : loop.Stands low stop start steps)
    (further : loop.counter < loop.stop) : loop.next.Stands low stop start (steps + 1) where
  counter := by
    have advanced : loop.next.counter.toInt = loop.counter.toInt + 1 := counter_advances further
    rw [advanced, stands.counter]
    omega
  stop := stands.stop
  closed := by rw [next_closed, passed_next, turn, stands.counter, stands.closed, stands.state]
  state := by rw [next_state, passed_next, stands.counter, stands.state]

theorem Stands.further_iff {steps : Nat} {loop : NumberLoop σ}
    (stands : loop.Stands low stop start steps) :
    loop.counter < loop.stop ↔ low.toInt + steps < stop.toInt := by
  rw [Int32.lt_iff_toInt_lt, stands.counter, stands.stop]

-- The induction is on the steps made; that the counter has not wrapped around by then is what tells
-- the next step from the last.
theorem after_stands (low stop : Int32) (start : σ) (steps : Nat)
    (within : steps ≤ (stop.toInt - low.toInt).toNat) :
    ∃ loop, after? steps (begun low stop start) = some loop ∧
      loop.Stands low stop start steps := by
  induction steps with
  | zero => exact ⟨_, rfl, stands_begun⟩
  | succ steps ih =>
      obtain ⟨loop, run, stands⟩ := ih (by omega)
      have further := stands.further_iff.mpr (by omega)
      refine ⟨loop.next, ?_, stands.next further⟩
      rw [after?, run]
      exact if_pos further

/-- The loop is over after some rounds. On its way the counter goes through one number after the
other, none of them negative or beyond the highest descriptor, and those below it have had their
turn. -/
structure RunsOut (low stop : Int32) (start : σ) (rounds : Nat) (ended : NumberLoop σ) : Prop where
  reaches : after? rounds (begun low stop start) = some ended
  halts : ended.step? = none
  counts : ∀ steps ≤ rounds, ∃ loop, after? steps (begun low stop start) = some loop ∧
    loop.counter.toInt = low.toInt + steps ∧ 0 ≤ loop.counter.toInt ∧
    loop.counter.toInt ≤ maxDescriptor ∧
    loop.state = (passed low.toInt loop.counter.toInt start).2

theorem runs_out (low stop : Int32) (nonneg : 0 ≤ low.toInt) (start : σ) :
    ∃ ended, RunsOut low stop start (stop.toInt - low.toInt).toNat ended ∧
      (ended.closed, ended.state) = passed low.toInt stop.toInt start := by
  obtain ⟨ended, reaches, stands⟩ := after_stands low stop start _ (Nat.le_refl _)
  have closed := stands.closed
  have left := stands.state
  rw [passed_steps] at closed left
  refine ⟨ended, ⟨reaches, ?_, fun steps within => ?_⟩, Prod.ext closed left⟩
  · refine if_neg fun further => ?_
    have below := stands.further_iff.mp further
    omega
  · obtain ⟨loop, run, stands⟩ := after_stands low stop start steps within
    have counter := stands.counter
    have highest := loop.counter.toInt_lt
    refine ⟨loop, run, counter, by omega, ?_, by rw [counter]; exact stands.state⟩
    rw [maxDescriptor]
    omega

end NumberLoop

/-- Only an open descriptor can be closed, and a close opens none. -/
structure Kernel.Tabled (table : σ → Table) : Prop where
  meets : ∀ fd state, (Kernel.close fd state).1.isOk = true → fd ∈ table state
  shrinks : ∀ fd state, ∀ member ∈ table (Kernel.close fd state).2, member ∈ table state

theorem World.tabled : Kernel.Tabled World.table where
  meets fd world done := (world.released_of_ok fd done).1
  shrinks fd world member present := ((world.mem_after_close fd member).mp present).1

theorem ProcessState.tabled : Kernel.Tabled ProcessState.table where
  meets fd process done := by
    refine Decidable.byContradiction fun absent => ?_
    change (process.closeAnswer fd).isOk = true at done
    rw [closeAnswer, if_neg absent] at done
    cases done
  shrinks fd process member present := (Table.mem_erase.mp present).1

def Table.between (table : Table) (low high : Int) : Table :=
  table.keep fun fd => low ≤ fd ∧ fd < high

theorem Table.mem_between {table : Table} {low high fd : Int} :
    fd ∈ table.between low high ↔ fd ∈ table ∧ low ≤ fd ∧ fd < high := by
  simp [between]

section Counting

variable {table : σ → Table} (tabled : Kernel.Tabled table)
include tabled

theorem passed_within (low : Int) (steps : Nat) (start : σ) :
    ∀ fd ∈ table (passed low (low + steps) start).2, fd ∈ table start := by
  induction steps with
  | zero =>
      rw [passed_nothing]
      exact fun _ present => present
  | succ steps ih =>
      intro fd present
      rw [passed_next] at present
      exact ih fd (tabled.shrinks _ _ fd present)

theorem open_of_turn (low : Int) (start : σ) (fd : Int) (done : (turn low start fd).isOk = true) :
    fd ∈ table (passed low fd start).2 ∧ fd ∈ table start := by
  have present := tabled.meets fd _ done
  refine ⟨present, ?_⟩
  rw [← passed_steps] at present
  exact passed_within tabled low _ start fd present

/-- The numbers that are closed are those open descriptors in the range whose turn closes them. -/
theorem closed_numbers (low high : Int) (start : σ) :
    (interval low high).filter (fun fd => (turn low start fd).isOk) =
      ((table start).between low high).fds.filter (fun fd => (turn low start fd).isOk) := by
  refine Ascending.eq_of_mem_iff ((interval_ascending low high).filter _)
    (((table start).between low high).ascending.filter _) fun fd => ?_
  rw [List.mem_filter, List.mem_filter, mem_interval]
  refine and_congr_left fun done => ?_
  have present := (open_of_turn tabled low start fd done).2
  exact (Iff.trans Table.mem_between (and_iff_right present)).symm

theorem passed_open (low high : Int) (start : σ) :
    (passed low high start).1 =
      ((table start).between low high).fds.countP fun fd => (turn low start fd).isOk := by
  rw [← passed_steps, passed_count, interval_steps, List.countP_eq_length_filter,
    closed_numbers tabled, ← List.countP_eq_length_filter]

/-- At most as many closes succeed as descriptors of the range were open, and exactly as many if
each of them is still open in its turn and closed by it. -/
theorem passed_closes (low high : Int) (start : σ) :
    (passed low high start).1 ≤ ((table start).between low high).fds.length ∧
      ((passed low high start).1 = ((table start).between low high).fds.length ↔
        ∀ fd ∈ (table start).between low high,
          fd ∈ table (passed low fd start).2 ∧ (turn low start fd).isOk = true) := by
  have counted := passed_open tabled low high start
  rw [counted]
  refine ⟨List.countP_le_length, List.countP_eq_length.trans ?_⟩
  constructor
  · intro done fd member
    exact ⟨(open_of_turn tabled low start fd (done fd member)).1, done fd member⟩
  · intro done fd member
    exact (done fd member).2

end Counting

theorem bound_of_positive (limit : Int) (positive : 0 < limit) :
    bound (.ok (some limit)) = min limit 2147483647 := if_pos positive

theorem bound_otherwise (answer : Except Errno (Option Int))
    (otherwise : ∀ limit, answer = .ok (some limit) → limit ≤ 0) : bound answer = 256 := by
  cases answer with
  | error error => rfl
  | ok limit =>
      cases limit with
      | none => rfl
      | some limit =>
          have small := otherwise limit rfl
          exact if_neg (by omega)

theorem bound_word (answer : Except Errno (Option Int)) :
    (Int32.ofInt (bound answer)).toInt = bound answer := by
  have positive := World.bound_positive answer
  have fits := bound_fits answer
  rw [maxDescriptor] at fits
  exact Int32.toInt_ofInt_of_le (by omega) (by omega)

theorem clamped_word (lowfd : Int32) :
    (if lowfd < 0 then 0 else lowfd).toInt = max lowfd.toInt 0 := by
  have negative : lowfd < 0 ↔ lowfd.toInt < 0 := Int32.lt_iff_toInt_lt
  by_cases below : lowfd.toInt < 0
  · rw [if_pos (negative.mpr below), Int32.toInt_zero]
    omega
  · rw [if_neg (below ∘ negative.mp)]
    omega

/-- A run that ends in brute force has closed what lies below the bound, and tells how many. -/
theorem reap_passed (caps : Capabilities) (lowfd : Int) (state : σ)
    (last : (caps.reap lowfd state).1 = .bruteForce) :
    caps.reap lowfd state =
      let swept := passed (max lowfd 0) (bound (Kernel.limit (caps.lastRung lowfd state)).1)
        (pastLimit (caps.lastRung lowfd state))
      (.bruteForce, Kernel.emit (.bruteForced (max lowfd 0) swept.1) swept.2) := by
  rw [caps.reap_last lowfd state last, Capabilities.reapNumbers, sweep_numbers_passed]

theorem recorded_passed (caps : Capabilities) (lowfd : Int) (state : σ)
    (last : (caps.reap lowfd state).1 = .bruteForce) :
    let low := max lowfd 0
    let start := pastLimit (caps.lastRung lowfd state)
    let high := bound (Kernel.limit (caps.lastRung lowfd state)).1
    let run := caps.reap lowfd (Recorded.start state)
    run.2.closes = (interval low high).map (fun fd => (fd, turn low start fd)) ∧
      run.2.counts = [(passed low high start).1] := by
  intro low start high run
  -- Under a record brute force begins where it does without one, with nothing closed or told so
  -- far.
  let arrived := caps.lastRung lowfd (Recorded.start state)
  have reached : arrived.state = caps.lastRung lowfd state :=
    (Recorded.state_projects.last_rung caps lowfd (Recorded.start state)).symm
  have begun : (pastLimit arrived).state = start := by
    rw [← Recorded.state_projects.past_limit, reached]
  have answered : (Kernel.limit arrived).1 = (Kernel.limit (caps.lastRung lowfd state)).1 := by
    rw [Recorded.limit_eq, reached]
  have idle : (Recorded.start state).Idle (pastLimit arrived) :=
    (Recorded.Idle.last_rung ⟨rfl, rfl⟩ caps lowfd).past_limit
  have ends : run.1 = .bruteForce :=
    (congrArg Prod.fst (Recorded.state_projects.reap caps lowfd (Recorded.start state))).symm.trans
      last
  obtain ⟨closes, counts⟩ := Recorded.passed_idle low high (pastLimit arrived)
  have viewed : passed low high start =
      Prod.map id Recorded.state (passed low high (pastLimit arrived)) := by
    rw [← begun]
    exact Recorded.state_projects.sweep _ _ 0 _
  have left : run.2 = Kernel.emit (.bruteForced low (passed low high start).1)
      (passed low high (pastLimit arrived)).2 := by
    have told := congrArg Prod.snd (reap_passed caps lowfd (Recorded.start state) ends)
    refine told.trans ?_
    dsimp only
    rw [answered, viewed]
    rfl
  rw [left, Recorded.closes_emit, closes, Recorded.counts_emit, counts, idle.closes, idle.counts,
    begun]
  exact ⟨rfl, rfl⟩

/-- A run that comes to brute force tries the numbers from its clamped threshold up to the bound,
once each, in ascending order and no others. The bound is the limit as far as a descriptor can lie
below it, and 256 when no positive limit is told. A counter of 32 bits does it without ever wrapping
around. No more closes succeed than descriptors of the range were open when the sweep began, and
exactly as many if each of them is still open in its turn and its close is answered well. -/
theorem brute_force_covers_range {table : σ → Table} (tabled : Kernel.Tabled table)
    (caps : Capabilities) (lowfd : Int32) (state : σ)
    (last : (caps.reap lowfd.toInt state).1 = .bruteForce) :
    let low := max lowfd.toInt 0
    let answer := (Kernel.limit (caps.lastRung lowfd.toInt state)).1
    let start := pastLimit (caps.lastRung lowfd.toInt state)
    let run := caps.reap lowfd.toInt (Recorded.start state)
    let attempts := run.2.closes.map Prod.fst
    ∃ (first stop : Int32) (ended : NumberLoop σ),
      first.toInt = low ∧
      (∀ limit, answer = .ok (some limit) → 0 < limit → stop.toInt = min limit 2147483647) ∧
      ((∀ limit, answer = .ok (some limit) → limit ≤ 0) → stop.toInt = 256) ∧
      (Ascending attempts ∧ (∀ fd, fd ∈ attempts ↔ low ≤ fd ∧ fd < stop.toInt) ∧
        (∀ fd ∈ attempts, 0 ≤ fd ∧ fd ≤ maxDescriptor) ∧
        (attempts.length : Int) = max 0 (stop.toInt - low) ∧
        run.2.closes = attempts.map fun fd => (fd, turn low start fd)) ∧
      NumberLoop.RunsOut first stop start attempts.length ended ∧
      (sweepNumbers low (caps.lastRung lowfd.toInt state) = (ended.closed, ended.state) ∧
        caps.reap lowfd.toInt state =
          (.bruteForce, Kernel.emit (.bruteForced low ended.closed) ended.state) ∧
        run.2.counts = [ended.closed]) ∧
      ended.closed ≤ ((table start).between low stop.toInt).fds.length ∧
      (ended.closed = ((table start).between low stop.toInt).fds.length ↔
        ∀ fd ∈ (table start).between low stop.toInt,
          fd ∈ table (passed low fd start).2 ∧ (turn low start fd).isOk = true) := by
  intro low answer start run attempts
  obtain ⟨closes, counts⟩ := recorded_passed caps lowfd.toInt state last
  have first := clamped_word lowfd
  have stop := bound_word answer
  have tried : attempts = interval low (bound answer) := by
    rw [show attempts = run.2.closes.map Prod.fst from rfl, closes, List.map_map]
    exact List.map_id _
  have size : attempts.length = (bound answer - low).toNat := by
    rw [tried, interval, List.length_map, List.length_range]
  obtain ⟨ended, out, swept⟩ := NumberLoop.runs_out _ (Int32.ofInt (bound answer))
    (show 0 ≤ (if lowfd < 0 then 0 else lowfd).toInt by omega) start
  rw [first, stop] at out swept
  have closed : ended.closed = (passed low (bound answer) start).1 := congrArg Prod.fst swept
  have left : ended.state = (passed low (bound answer) start).2 := congrArg Prod.snd swept
  refine ⟨_, Int32.ofInt (bound answer), ended, first, fun limit told positive => ?_,
    fun otherwise => ?_, ⟨?_, fun fd => ?_, fun fd member => ?_, ?_, ?_⟩, ?_, ⟨?_, ?_, ?_⟩, ?_⟩
  · rw [stop, told, bound_of_positive limit positive]
  · rw [stop, bound_otherwise answer otherwise]
  · rw [tried]
    exact interval_ascending low _
  · rw [tried, stop]
    exact mem_interval
  · have fits := bound_fits answer
    rw [tried, mem_interval] at member
    omega
  · rw [size, stop]
    omega
  · rw [tried]
    exact closes
  · rw [size]
    exact out
  · rw [sweep_numbers_passed]
    exact swept.symm
  · rw [closed, left]
    exact reap_passed caps lowfd.toInt state last
  · rw [closed]
    exact counts
  · rw [closed, stop]
    exact passed_closes tabled low _ start

def World.topmost : World where
  table := .ofList [0, 1, 2147483640, 2147483642, 2147483644, 2147483647]
  rangeFault := some ⟨.enosys, none⟩
  listing := .failing .emfile
  limit := .ok (some 9223372036854775807)
  closeFaults := [⟨2147483642, .eio, true⟩]
  sideCloses := [⟨2147483641, [2147483644]⟩]

theorem topmost_covers_range :
    ((Capabilities.mk true (some .devFd)).reap 2147483639 World.topmost).1 = .bruteForce ∧
      Kernel.Tabled World.table ∧
      ((Capabilities.mk true (some .devFd)).reap 2147483639
        (Recorded.start World.topmost)).2.closes.length = 8 ∧
      ∃ ended : NumberLoop World,
        NumberLoop.RunsOut 2147483639 2147483647 World.topmost 8 ended ∧ ended.closed < 3 := by
  have last : ((Capabilities.mk true (some .devFd)).reap (2147483639 : Int32).toInt
      World.topmost).1 = .bruteForce := by decide
  obtain ⟨first, stop, ended, atLow, limited, -, ⟨-, -, -, size, -⟩, out, -, atMost, exactly⟩ :=
    brute_force_covers_range World.tabled ⟨true, some .devFd⟩ 2147483639 World.topmost last
  have lowest : first = 2147483639 := Int32.toInt_inj.mp (atLow.trans (by decide))
  have highest : stop = 2147483647 :=
    Int32.toInt_inj.mp ((limited 9223372036854775807 rfl (by decide)).trans (by decide))
  subst lowest highest
  have rounds : ((Capabilities.mk true (some .devFd)).reap 2147483639
      (Recorded.start World.topmost)).2.closes.length = 8 := by
    rw [List.length_map] at size
    have eight : max 0 ((2147483647 : Int32).toInt - max (2147483639 : Int32).toInt 0) = 8 := by
      decide
    rw [eight] at size
    exact Int.ofNat_inj.mp size
  rw [List.length_map] at out
  have three : (World.topmost.table.between 2147483639 2147483647).fds.length = 3 := by decide
  -- By its turn 2147483644 is not open any more, so not all three are closed.
  have short : ended.closed ≠ 3 := fun all => by
    have still := (exactly.mp (all.trans three.symm) 2147483644 (by decide)).1
    exact absurd still (by decide)
  refine ⟨last, World.tabled, rounds, ended, rounds ▸ out, ?_⟩
  exact Nat.lt_of_le_of_ne (Nat.le_trans atMost (Nat.le_of_eq three)) short

end DescriptorReaper
