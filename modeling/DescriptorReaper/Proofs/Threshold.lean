import DescriptorReaper.Proofs.Preservation
import DescriptorReaper.Proofs.ScriptedReap
import DescriptorReaper.Session

/-!
Nothing below the threshold is touched, in whole sessions. One step of reaping closes only from its
clamped threshold up, whatever the listing and the limit say, and takes descriptors out of the table
but never puts one in; the steps that look close nothing. So a descriptor that every later threshold
lies above, and that nothing else takes away, is open at the end.
-/

namespace DescriptorReaper

def Call.Above (low : Int) : Call → Prop
  | .closeRange start _ => start = low
  | .close fd _ => low ≤ fd
  | .offersRange _ | .offersDir _ _ | .snapshot _ _ | .limit _ => True

def Call.asks : Call → Bool
  | .closeRange _ _ | .close _ _ => false
  | .offersRange _ | .offersDir _ _ | .snapshot _ _ | .limit _ => true

def Step.threshold? : Step → Option Int
  | .reap _ lowfd | .closeFrom _ lowfd | .closeFromDetected lowfd => some (max lowfd 0)
  | .offersRange | .offersDir _ | .closeRange _ | .close _ | .snapshot _ | .limit | .detect
  | .openDescriptors _ => none

section Preserved

variable {σ : Type} [Kernel σ] {invariant : σ → Prop}

theorem resolve_preserves (undisturbed : Kernel.Undisturbed invariant) (choice : CapsChoice)
    (state : σ) (holds : invariant state) : invariant (choice.resolve state).2 := by
  rw [CapsChoice.resolve]
  cases choice.source with
  | given caps => exact holds
  | detected => exact undisturbed.detect state holds

theorem step_preserves (step : Step) (low : Int) (reaps : step.threshold? = some low)
    (kept : Kernel.KeptFrom low invariant) (state : σ) (holds : invariant state) :
    invariant (step.run state).2 := by
  cases step <;> cases reaps
  case reap choice lowfd =>
    exact reap_preserves _ lowfd kept _ (resolve_preserves kept.toUndisturbed choice state holds)
  case closeFrom choice lowfd =>
    exact reap_preserves _ lowfd kept _ (resolve_preserves kept.toUndisturbed choice state holds)
  case closeFromDetected lowfd =>
    exact reap_preserves _ lowfd kept _ (kept.toUndisturbed.detect state holds)

end Preserved

namespace Recorded

variable {σ : Type} [Kernel σ]

theorem calls_undisturbed {allowed : Call → Prop}
    (asking : ∀ call, call.asks = true → allowed call) :
    Kernel.Undisturbed fun recorded : Recorded σ => ∀ call ∈ recorded.calls, allowed call := by
  have noted : ∀ (recorded : Recorded σ) (call : Call) (state : σ), call.asks = true →
      (∀ call ∈ recorded.calls, allowed call) →
        ∀ other ∈ (recorded.noteCall call state).calls, allowed other := by
    intro recorded call state asks holds other member
    rcases Array.mem_push.mp member with old | new
    · exact holds other old
    · exact asking other (new ▸ asks)
  exact {
    offersRange := fun recorded => noted recorded _ _ rfl
    offersDir := fun _ recorded => noted recorded _ _ rfl
    snapshot := fun _ recorded => noted recorded _ _ rfl
    limit := fun recorded => noted recorded _ _ rfl
    emit := fun _ _ holds => holds }

-- Outside the questions, a record grows by the range call and by closes from the number up only.
theorem calls_kept {allowed : Call → Prop} (low : Int)
    (asking : ∀ call, call.asks = true → allowed call)
    (ranging : ∀ answer, allowed (.closeRange low answer))
    (closing : ∀ fd answer, low ≤ fd → allowed (.close fd answer)) :
    Kernel.KeptFrom low fun recorded : Recorded σ => ∀ call ∈ recorded.calls, allowed call where
  toUndisturbed := calls_undisturbed asking
  closeRange recorded holds call member := by
    rcases Array.mem_push.mp member with old | new
    · exact holds call old
    · exact new ▸ ranging _
  close fd reached recorded holds call member := by
    rcases Array.mem_push.mp member with old | new
    · exact holds call old
    · exact new ▸ closing fd _ reached

theorem state_kept {invariant : σ → Prop} {low : Int} (kept : Kernel.KeptFrom low invariant) :
    Kernel.KeptFrom low fun recorded : Recorded σ => invariant recorded.state where
  offersRange recorded := kept.offersRange recorded.state
  offersDir dir recorded := kept.offersDir dir recorded.state
  snapshot dir recorded := kept.snapshot dir recorded.state
  limit recorded := kept.limit recorded.state
  emit event recorded := kept.emit event recorded.state
  closeRange recorded := kept.closeRange recorded.state
  close fd reached recorded := kept.close fd reached recorded.state

end Recorded

namespace World

theorem table_shrinks (low : Int) (table : Table) :
    Kernel.KeptFrom low fun world : World => ∀ fd ∈ world.table, fd ∈ table where
  offersRange _ holds := holds
  offersDir _ _ holds := holds
  snapshot _ _ holds := holds
  limit _ holds := holds
  emit _ _ holds := holds
  closeRange world holds fd member := holds fd ((world.mem_table_after_range low fd).mp member).1
  close other _ world holds fd member := holds fd ((world.mem_after_close other fd).mp member).1

/-- The descriptor is open, and no close of another takes it along. -/
def Holds (world : World) (fd : Int) : Prop :=
  fd ∈ world.table ∧ ∀ side ∈ world.sideCloses, fd ∉ side.taken

theorem Holds.not_taken {world : World} {fd : Int} (holds : world.Holds fd) (other : Int) :
    fd ∉ world.takenWith other := by
  intro taken
  rw [takenWith] at taken
  cases found : world.sideCloses.reverse.find? (·.fd = other) with
  | none =>
      rw [found] at taken
      cases taken
  | some side =>
      rw [found] at taken
      exact holds.2 side (List.mem_reverse.mp (List.mem_of_find?_eq_some found)) taken

theorem Holds.close {world : World} {fd : Int} (holds : world.Holds fd) (other : Int)
    (different : fd ≠ other) : (world.afterClose other).Holds fd := by
  refine ⟨(world.mem_after_close other fd).mpr ⟨holds.1, fun same => ?_, ?_⟩, holds.2⟩
  · exact absurd same different
  · exact holds.not_taken other

theorem Holds.close_range {world : World} {fd : Int} (holds : world.Holds fd) (low : Int)
    (below : fd < low) : ({ world with table := world.tableAfterRange low } : World).Holds fd :=
  ⟨(world.mem_table_after_range low fd).mpr ⟨holds.1, world.escapes_below low fd below⟩, holds.2⟩

-- The script's own side closes spare the descriptor, so a number below the threshold stays.
theorem held_below (fd low : Int) (below : fd < low) :
    Kernel.KeptFrom low fun world : World => world.Holds fd where
  offersRange _ holds := holds
  offersDir _ _ holds := holds
  snapshot _ _ holds := holds
  limit _ holds := holds
  emit _ _ holds := holds
  closeRange _ holds := holds.close_range low below
  close other reached _ holds := holds.close other (by omega)

end World

/-- The step closes nothing at the number, and no range that it lies in. -/
def Step.Spares (fd : Int) : Step → Prop
  | .reap _ lowfd | .closeFrom _ lowfd | .closeFromDetected lowfd => fd < max lowfd 0
  | .closeRange low => fd < low
  | .close other => fd ≠ other
  | .offersRange | .offersDir _ | .snapshot _ | .limit | .detect | .openDescriptors _ => True

namespace World

/-- Nor does the action replace the table by one without the number, or script a close that takes it
along. -/
def Action.Spares (fd : Int) : Action → Prop
  | .rescript change =>
      (∀ table, change.table = some table → fd ∈ table) ∧
        ∀ sides, change.sideCloses = some sides → ∀ side ∈ sides, fd ∉ side.taken
  | .openAt _ | .openLowest => True
  | .perform step => step.Spares fd

theorem step_spares (fd : Int) (step : Step) (world : World) (spares : step.Spares fd)
    (holds : world.Holds fd) : (step.run (Recorded.start world)).2.state.Holds fd := by
  have kept : ∀ low, fd < low →
      Kernel.KeptFrom low fun recorded : Recorded World => recorded.state.Holds fd :=
    fun low below => Recorded.state_kept (held_below fd low below)
  -- What only asks keeps the descriptor under any threshold; one just above it is at hand.
  have undisturbed := (kept (fd + 1) (by omega)).toUndisturbed
  cases step with
  | offersRange => exact holds
  | offersDir dir => exact holds
  | snapshot dir => exact holds
  | limit => exact holds
  | closeRange low => exact holds.close_range low spares
  | close other => exact holds.close other spares
  | detect => exact undisturbed.detect (Recorded.start world) holds
  | openDescriptors dir => exact undisturbed.open_descriptors dir (Recorded.start world) holds
  | reap choice lowfd =>
      exact step_preserves (.reap choice lowfd) _ rfl (kept _ spares) (Recorded.start world) holds
  | closeFrom choice lowfd =>
      exact step_preserves (.closeFrom choice lowfd) _ rfl (kept _ spares) (Recorded.start world)
        holds
  | closeFromDetected lowfd =>
      exact step_preserves (.closeFromDetected lowfd) _ rfl (kept _ spares) (Recorded.start world)
        holds

theorem action_spares (fd : Int) (action : Action) (world : World) (spares : action.Spares fd)
    (holds : world.Holds fd) : (action.run world).2.Holds fd := by
  cases action with
  | openAt other => exact ⟨Table.mem_insert.mpr (Or.inr holds.1), holds.2⟩
  | openLowest => exact ⟨Table.mem_insert.mpr (Or.inr holds.1), holds.2⟩
  | perform step => exact step_spares fd step world spares holds
  | rescript change =>
      obtain ⟨present, untaken⟩ := spares
      constructor
      · change fd ∈ change.table.getD world.table
        cases replaced : change.table with
        | none => exact holds.1
        | some table => exact present table replaced
      · change ∀ side ∈ change.sideCloses.getD world.sideCloses, fd ∉ side.taken
        cases scripted : change.sideCloses with
        | none => exact holds.2
        | some sides => exact untaken sides scripted

theorem report_table (action : Action) (world : World) :
    (action.run world).1.table = (action.run world).2.table := by
  cases action <;> rfl

def after (actions : List Action) (world : World) : World :=
  actions.foldl (fun world action => (action.run world).2) world

structure Move where
  before : World
  action : Action
  report : Report
  after : World

def moves : List Action → World → List Move
  | [], _ => []
  | action :: rest, world =>
      ⟨world, action, (action.run world).1, (action.run world).2⟩ :: moves rest (action.run world).2

theorem moves_reports (actions : List Action) (world : World) :
    (moves actions world).map Move.report = session actions world := by
  induction actions generalizing world with
  | nil => rfl
  | cons action rest ih => exact congrArg (List.cons (action.run world).1) (ih (action.run world).2)

theorem move_runs (actions : List Action) (world : World) (move : Move)
    (member : move ∈ moves actions world) :
    move.action.run move.before = (move.report, move.after) := by
  induction actions generalizing world with
  | nil => cases member
  | cons action rest ih =>
      rcases List.mem_cons.mp member with head | later
      · rw [head]
      · exact ih (action.run world).2 later

/-- A descriptor that a session spares stays open, after every action of it. -/
theorem session_spares (fd : Int) (actions : List Action) (world : World)
    (spares : ∀ action ∈ actions, action.Spares fd) (holds : world.Holds fd) :
    (after actions world).Holds fd ∧ ∀ report ∈ session actions world, fd ∈ report.table := by
  induction actions generalizing world with
  | nil => exact ⟨holds, fun _ member => nomatch member⟩
  | cons action rest ih =>
      have next := action_spares fd action world (spares action List.mem_cons_self) holds
      have tail := ih (action.run world).2
        (fun later member => spares later (List.mem_cons_of_mem action member)) next
      refine ⟨tail.1, fun report member => ?_⟩
      change report ∈ (action.run world).1 :: session rest (action.run world).2 at member
      rcases List.mem_cons.mp member with head | later
      · rw [head, report_table]
        exact next.1
      · exact tail.2 report later

-- The record starts empty, so what holds of all calls allowed holds of all calls made.
theorem step_calls_above (step : Step) (low : Int) (reaps : step.threshold? = some low)
    (world : World) : ∀ call ∈ (step.report world World.table).1.calls, call.Above low := by
  have kept : Kernel.KeptFrom low
      fun recorded : Recorded World => ∀ call ∈ recorded.calls, call.Above low :=
    Recorded.calls_kept low (fun call asks => by cases call <;> trivial)
      (fun _ => rfl) (fun _ _ reached => reached)
  have all := step_preserves step low reaps kept (Recorded.start world)
    (fun _ member => absurd member (Array.not_mem_empty _))
  exact fun call member => all call (Array.mem_toList_iff.mp member)

theorem step_table_shrinks (step : Step) (low : Int) (reaps : step.threshold? = some low)
    (world : World) : ∀ fd ∈ (step.report world World.table).2.table, fd ∈ world.table :=
  step_preserves step low reaps (Recorded.state_kept (table_shrinks low world.table))
    (Recorded.start world) (fun _ member => member)

theorem looking_only_asks (step : Step)
    (looks : step = .detect ∨ ∃ dir, step = .openDescriptors dir) (world : World) :
    ∀ call ∈ (step.report world World.table).1.calls, call.asks = true := by
  have undisturbed : Kernel.Undisturbed
      fun recorded : Recorded World => ∀ call ∈ recorded.calls, call.asks = true :=
    Recorded.calls_undisturbed fun _ asks => asks
  have none : ∀ call ∈ (Recorded.start world).calls, call.asks = true :=
    fun _ member => absurd member (Array.not_mem_empty _)
  intro call member
  rcases looks with rfl | ⟨dir, rfl⟩
  · exact undisturbed.detect (Recorded.start world) none call (Array.mem_toList_iff.mp member)
  · exact undisturbed.open_descriptors dir (Recorded.start world) none call
      (Array.mem_toList_iff.mp member)

/-- In every session, a step that reaps closes nothing below its clamped threshold, makes the range
call with that threshold only, which its reading as an unsigned word preserves, and opens nothing;
the steps that detect and list close nothing. So a descriptor that is open at some point, and that
the actions from there on spare, is open after each of them. -/
theorem session_never_below (world : World) (actions : List Action) :
    (moves actions world).map Move.report = session actions world ∧
      (∀ move ∈ moves actions world, ∀ step, move.action = .perform step →
        (∀ low, step.threshold? = some low →
          (∀ fd answer, .close fd answer ∈ move.report.calls → low ≤ fd) ∧
          (∀ start answer, .closeRange start answer ∈ move.report.calls →
            start = low ∧ 0 ≤ start ∧
              (start ≤ maxDescriptor → ProcessState.rangeStart start = start)) ∧
          ∀ fd ∈ move.after.table, fd ∈ move.before.table) ∧
        ((step = .detect ∨ ∃ dir, step = .openDescriptors dir) →
          ∀ call ∈ move.report.calls,
            (∀ fd answer, call ≠ .close fd answer) ∧
              ∀ start answer, call ≠ .closeRange start answer)) ∧
      ∀ earlier later fd, actions = earlier ++ later → (after earlier world).Holds fd →
        (∀ action ∈ later, action.Spares fd) →
          fd ∈ (after actions world).table ∧
            ∀ report ∈ session later (after earlier world), fd ∈ report.table := by
  refine ⟨moves_reports actions world, fun move member step performed => ?_, ?_⟩
  · have run := move_runs actions world move member
    rw [performed] at run
    have report : move.report = (step.report move.before World.table).1 :=
      (congrArg Prod.fst run).symm
    have left : move.after = (step.report move.before World.table).2 :=
      (congrArg Prod.snd run).symm
    rw [report, left]
    constructor
    · intro low reaps
      have above := step_calls_above step low reaps move.before
      have nonneg : 0 ≤ low := by
        cases step <;> cases reaps <;> exact Int.le_max_right _ 0
      refine ⟨fun fd answer called => above _ called, fun start answer called => ?_,
        step_table_shrinks step low reaps move.before⟩
      have same : start = low := above _ called
      refine ⟨same, by omega, fun fits => ?_⟩
      rw [maxDescriptor] at fits
      rw [ProcessState.rangeStart]
      omega
    · intro looks call called
      have asks := looking_only_asks step looks move.before call called
      constructor
      · rintro fd answer rfl
        cases asks
      · rintro start answer rfl
        cases asks
  · intro earlier later fd split holds spares
    have kept := session_spares fd later (after earlier world) spares holds
    rw [split, after, List.foldl_append]
    exact ⟨kept.1.1, kept.2⟩

def hostile : World where
  table := .ofList [0, 1, 2, 3, 7, 9]
  listing := .fixed ⟨2, [⟨[45, 50], none⟩, ⟨[43, 50], none⟩, ⟨[50], none⟩, ⟨[48, 48, 55], none⟩,
    ⟨[52, 50, 57, 52, 57, 54, 55, 50, 57, 56], none⟩]⟩
  limit := .ok (some (-5))
  closeFaults := [⟨7, .eio, false⟩]

def hostileActions : List Action :=
  [.perform (.reap ⟨.given ⟨false, some .procSelfFd⟩, none⟩ 3), .openLowest,
    .rescript { listing := some (.live none true) },
    .perform (.closeFrom ⟨.detected, some .bruteForce⟩ 8), .perform .detect]

theorem hostile_session_keeps_two :
    hostile.Holds 2 ∧ (∀ action ∈ hostileActions, action.Spares 2) ∧
      2 ∈ (after hostileActions hostile).table := by
  have holds : hostile.Holds 2 := by
    constructor <;> decide
  have spares : ∀ action ∈ hostileActions, action.Spares 2 := by
    simp only [hostileActions, List.forall_mem_cons]
    refine ⟨?first, ?opens, ?rescripts, ?last, ?detects, List.forall_mem_nil _⟩
    case first =>
      exact Int.lt_of_lt_of_le (by decide) (Int.le_max_left 3 0)
    case opens =>
      trivial
    case rescripts =>
      exact ⟨fun _ given => (nomatch given), fun _ given => (nomatch given)⟩
    case last =>
      exact Int.lt_of_lt_of_le (by decide) (Int.le_max_left 8 0)
    case detects =>
      trivial
  obtain ⟨-, -, kept⟩ := session_never_below hostile hostileActions
  exact ⟨holds, spares, (kept [] hostileActions 2 rfl holds spares).1⟩

end World

end DescriptorReaper
