import DescriptorReaper.Reaper
import DescriptorReaper.World

/-!
A sweep in a scripted kernel, told without its steps. Each close changes the table that the next one
meets, but what a close releases or takes along is the script's business alone. So a descriptor that
was open is gone after the sweep exactly if one of the numbers visited releases it or takes it
along, and neither the order of the visits nor the answers to earlier ones matter to the table.
-/

namespace DescriptorReaper.World

theorem table_congr (world : World) {left right : Table} (same : ∀ fd, fd ∈ left ↔ fd ∈ right) :
    { world with table := left } = { world with table := right } := by
  rw [Table.ext same]

def afterClose (world : World) (fd : Int) : World :=
  { world with table := world.tableAfterClose fd }

theorem mem_after_close (world : World) (fd member : Int) :
    member ∈ (world.afterClose fd).table ↔
      member ∈ world.table ∧ (member = fd → world.releases fd = false) ∧
        member ∉ world.takenWith fd := by
  simp only [afterClose, tableAfterClose, Table.mem_eraseAll]
  by_cases released : world.releases fd = true
  · simp [released, and_assoc]
  · simp [released]

/-- Is a descriptor neither released nor taken along by closes of these numbers? -/
def survives (world : World) (fds : List Int) (fd : Int) : Bool :=
  !(fds.contains fd && world.releases fd) &&
    fds.all fun other => !(world.takenWith other).contains fd

/-- The world after closes of these numbers, in whatever order. -/
def afterSweep (world : World) (fds : List Int) : World :=
  { world with table := world.table.keep (world.survives fds) }

theorem mem_after_sweep (world : World) (fds : List Int) (fd : Int) :
    fd ∈ (world.afterSweep fds).table ↔
      fd ∈ world.table ∧ (fd ∈ fds → world.releases fd = false) ∧
        ∀ other ∈ fds, fd ∉ world.takenWith other := by
  simp [afterSweep, survives, Decidable.imp_iff_not_or]

theorem after_sweep_nil (world : World) : world.afterSweep [] = world :=
  table_congr world fun fd => by simp [survives]

-- A close leaves the script alone, so what the rest of the sweep releases and takes is known
-- before.
theorem after_sweep_cons (world : World) (fd : Int) (rest : List Int) :
    (world.afterClose fd).afterSweep rest = world.afterSweep (fd :: rest) := by
  refine table_congr world fun member => ?_
  have left := mem_after_sweep (world.afterClose fd) rest member
  have right := mem_after_sweep world (fd :: rest) member
  rw [mem_after_close] at left
  refine left.trans (Iff.trans ?_ right.symm)
  constructor
  · rintro ⟨⟨present, kept, spared⟩, keptLater, sparedLater⟩
    refine ⟨present, fun visited => ?_, fun other visited => ?_⟩
    · rcases List.mem_cons.mp visited with same | later
      · rw [same]
        exact kept same
      · exact keptLater later
    · rcases List.mem_cons.mp visited with same | later
      · rw [same]
        exact spared
      · exact sparedLater other later
  · rintro ⟨present, kept, spared⟩
    refine ⟨⟨present, fun same => ?_, spared fd List.mem_cons_self⟩,
      fun later => kept (List.mem_cons_of_mem fd later),
      fun other later => spared other (List.mem_cons_of_mem fd later)⟩
    rw [← same]
    exact kept (same ▸ List.mem_cons_self)

theorem after_sweep_congr (world : World) {left right : List Int}
    (same : ∀ fd, fd ∈ left ↔ fd ∈ right) : world.afterSweep left = world.afterSweep right := by
  refine table_congr world fun fd => ?_
  refine (mem_after_sweep world left fd).trans (Iff.trans ?_ (mem_after_sweep world right fd).symm)
  simp only [same]

def answers : List Int → World → List (Int × Except Errno Unit)
  | [], _ => []
  | fd :: rest, world => (fd, world.closeAnswer fd) :: answers rest (world.afterClose fd)

theorem answers_numbers (world : World) (fds : List Int) :
    (answers fds world).map Prod.fst = fds := by
  induction fds generalizing world with
  | nil => rfl
  | cons fd rest ih => exact congrArg (List.cons fd) (ih (world.afterClose fd))

def closedBy (world : World) (fds : List Int) : Nat :=
  (answers fds world).countP fun answer => answer.2.isOk

-- Events leave no trace here, so it makes no difference what a sweep notes of a failure.
theorem sweep_cons (note : Int → Errno → Option Event) (fd : Int) (rest : List Int) (closed : Nat)
    (world : World) :
    sweep note (fd :: rest) closed world =
      sweep note rest (closed + if (world.closeAnswer fd).isOk then 1 else 0)
        (world.afterClose fd) := by
  have call : Kernel.close fd world = (world.closeAnswer fd, world.afterClose fd) := rfl
  rw [sweep, call]
  cases world.closeAnswer fd with
  | ok _ => rfl
  | error error =>
      dsimp only
      cases note fd error with
      | none => rfl
      | some event => rfl

/-- A sweep visits all of its numbers, counts the closes that succeed, and leaves what survives. -/
theorem sweep_eq (note : Int → Errno → Option Event) (fds : List Int) (closed : Nat)
    (world : World) :
    sweep note fds closed world = (closed + world.closedBy fds, world.afterSweep fds) := by
  induction fds generalizing closed world with
  | nil => rw [after_sweep_nil]; rfl
  | cons fd rest ih =>
      rw [sweep_cons, ih, after_sweep_cons]
      simp only [closedBy, answers, List.countP_cons]
      rw [Nat.add_assoc, Nat.add_comm (ite _ _ _)]

theorem closed_by_idle (fds : List Int) (world : World)
    (idle : ∀ fd ∈ fds, world.afterClose fd = world)
    (failing : ∀ fd ∈ fds, (world.closeAnswer fd).isOk = false) : world.closedBy fds = 0 := by
  induction fds with
  | nil => rfl
  | cons fd rest ih =>
      have tail := ih (fun later member => idle later (List.mem_cons_of_mem fd member))
        (fun later member => failing later (List.mem_cons_of_mem fd member))
      rw [closedBy, answers, idle fd List.mem_cons_self, List.countP_cons_of_neg]
      · exact tail
      · rw [failing fd List.mem_cons_self]
        decide

end DescriptorReaper.World
