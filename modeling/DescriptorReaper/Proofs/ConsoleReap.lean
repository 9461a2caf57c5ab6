import DescriptorReaper.Console
import DescriptorReaper.Proofs.Preservation
import DescriptorReaper.Proofs.ProcessReap
import DescriptorReaper.Proofs.Projection

/-!
Closing by a program. What the program closes is what the process closes, whatever it logs
meanwhile, and as long as its error stream stays open, logging leaves no trace but the lines. All
else stays as it was, and so does what has been written to the output.
-/

namespace DescriptorReaper

theorem lookup_filter_other {α β : Type} [DecidableEq α] (pairs : List (α × β)) {key other : α}
    (apart : other ≠ key) : (pairs.filter (·.1 ≠ key)).lookup other = pairs.lookup other := by
  induction pairs with
  | nil => rfl
  | cons pair pairs ih =>
      obtain ⟨first, value⟩ := pair
      by_cases same : first = key
      · rw [List.filter_cons_of_neg (by simp [same]), ih, List.lookup_cons, same,
          beq_eq_false_iff_ne.mpr apart]
      · rw [List.filter_cons_of_pos (by simp [same]), List.lookup_cons, List.lookup_cons, ih]

theorem Backlog.text_write (backlog : Backlog) (text : Bytes) :
    (backlog.write text).text = backlog.text ++ text := by
  obtain ⟨front, back, size⟩ := backlog
  cases back with
  | nil => simp [Backlog.write, Backlog.text]
  | cons latest back => simp [Backlog.write, Backlog.text]

namespace Machine

theorem waiting_written (machine : Machine) (pipe : Pipe) (text : Bytes) :
    (machine.writePipe pipe text).waiting pipe = machine.waiting pipe ++ text := by
  simp only [waiting, backlog, writePipe, setBacklog, List.lookup_cons, beq_self_eq_true,
    Option.getD_some, Backlog.text_write]

theorem waiting_elsewhere (machine : Machine) {pipe other : Pipe} (apart : other ≠ pipe)
    (text : Bytes) : (machine.writePipe pipe text).waiting other = machine.waiting other := by
  simp only [waiting, backlog, writePipe, setBacklog, List.lookup_cons,
    beq_eq_false_iff_ne.mpr apart, lookup_filter_other _ apart]

end Machine

namespace Console

variable {start console : Console}

theorem put_pipe {fd : Int} {pipe : Pipe} (present : fd ∈ console.process.table)
    (link : console.links.lookup fd = some (.pipe pipe .writing))
    (read : console.isRead pipe = true) (text : Bytes) :
    console.put fd text =
      (none, { console with machine := console.machine.writePipe pipe text }) := by
  have target : console.target? fd = some (.pipe pipe .writing) := by
    rw [target?, if_pos present, link]
  have writes : ¬ ¬ (Target.pipe pipe .writing).access.writes = true := fun closed => closed rfl
  rw [put, target]
  dsimp only
  rw [if_neg writes, if_pos (Or.inr read)]

theorem insist_pipe {fd : Int} {pipe : Pipe} (present : fd ∈ console.process.table)
    (link : console.links.lookup fd = some (.pipe pipe .writing))
    (read : console.isRead pipe = true) (text : Bytes) :
    console.insist fd text =
      { console with machine := console.machine.writePipe pipe text } := by
  rw [insist, put_pipe present link read]

/-- Whatever is written, and wherever it goes, no descriptor is opened or closed by that. -/
theorem put_process (console : Console) (fd : Int) (text : Bytes) :
    (console.put fd text).2.process = console.process := by
  unfold put
  split
  · rfl
  · split
    · rfl
    · split
      · split <;> rfl
      · split
        · rfl
        · split
          · dsimp only
            split <;> rfl
          · unfold putUnkept
            split
            · split <;> rfl
            · rfl
            · split <;> rfl

theorem insist_process (console : Console) (fd : Int) (text : Bytes) :
    (console.insist fd text).process = console.process := by
  have same := console.put_process fd text
  unfold insist
  split
  next written => rwa [written] at same
  next lost => rwa [lost] at same
  next failed => rwa [failed] at same

/-- The process closes as if it logged nothing. -/
theorem process_projects : Kernel.Projects Console.process where
  offersRange _ := rfl
  offersDir _ _ := rfl
  closeRange _ _ := rfl
  close _ _ := rfl
  snapshot _ _ := rfl
  limit _ := rfl
  emit event console := by
    change console.process = (if console.filter.enables event
      then console.insist errorStream (line event.line) else console).process
    split
    · rw [insist_process]
    · rfl

structure Inherits (before after : Console) : Prop where
  home : after.home = before.home
  limit : after.process.limit = before.process.limit
  links : after.links = before.links
  hidden : after.hidden = before.hidden
  environment : after.environment = before.environment
  bounds : after.bounds = before.bounds
  contents : after.machine.contents = before.machine.contents
  written : after.received .output = before.received .output

theorem Inherits.refl (console : Console) : console.Inherits console :=
  ⟨rfl, rfl, rfl, rfl, rfl, rfl, rfl, rfl⟩

theorem Inherits.trans {first second third : Console} (left : first.Inherits second)
    (right : second.Inherits third) : first.Inherits third where
  home := right.home.trans left.home
  limit := right.limit.trans left.limit
  links := right.links.trans left.links
  hidden := right.hidden.trans left.hidden
  environment := right.environment.trans left.environment
  bounds := right.bounds.trans left.bounds
  contents := right.contents.trans left.contents
  written := right.written.trans left.written

structure Steady (start console : Console) : Prop where
  inherits : start.Inherits console
  logs : errorStream ∈ console.process.table
  whole : console.failure = none

section Logging

variable (logged : start.links.lookup errorStream = some (.pipe .errors .writing))
include logged

theorem Steady.emit (steady : start.Steady console) (event : Event) :
    start.Steady (Kernel.emit event console) := by
  change start.Steady (if console.filter.enables event
    then console.insist errorStream (line event.line) else console)
  split
  · have link : console.links.lookup errorStream = some (.pipe .errors .writing) := by
      rw [steady.inherits.links, logged]
    rw [insist_pipe steady.logs link rfl]
    refine ⟨{ steady.inherits with written := ?_ }, steady.logs, steady.whole⟩
    exact (console.machine.waiting_elsewhere (by decide) _).trans steady.inherits.written
  · exact steady

theorem steady_undisturbed : Kernel.Undisturbed (Steady start) where
  offersRange _ steady := steady
  offersDir _ _ steady := steady
  snapshot _ _ steady := steady
  limit _ steady := steady
  emit event _ steady := steady.emit logged event

/-- Closing from above the error stream up leaves logging to go on. -/
theorem steady_kept (low : Int) (above : errorStream < low) (fits : low ≤ maxDescriptor) :
    Kernel.KeptFrom low (Steady start) where
  toUndisturbed := steady_undisturbed logged
  closeRange console steady := by
    refine ⟨{ steady.inherits with }, ?_, steady.whole⟩
    change errorStream ∈ console.process.table.closeFrom (ProcessState.rangeStart low)
    rw [Table.mem_closeFrom, ProcessState.rangeStart]
    rw [maxDescriptor] at fits
    rw [errorStream] at above
    exact ⟨steady.logs, by rw [errorStream]; omega⟩
  close fd reached console steady := by
    refine ⟨{ steady.inherits with }, ?_, steady.whole⟩
    change errorStream ∈ console.process.table.erase fd
    rw [Table.mem_erase]
    exact ⟨steady.logs, by omega⟩

end Logging

/-- A process in which a program of this project does its work undisturbed: the standard streams are
open, what it writes is read, and there is a number for one more descriptor. -/
structure Ready (console : Console) : Prop where
  standard : ∀ fd ∈ [inputStream, outputStream, errorStream], fd ∈ console.process.table
  numbers : ∀ fd ∈ console.process.table, 0 ≤ fd ∧ fd ≤ maxDescriptor
  room : console.process.table.lowestFree < console.process.limit
  printed : console.links.lookup outputStream = some (.pipe .output .writing)
  logged : console.links.lookup errorStream = some (.pipe .errors .writing)
  hidden : console.hidden = []
  bounds : console.bounds = []
  contents : console.machine.contents = []
  unwritten : console.received .output = []
  filters : (LogFilter.choose (console.environment.lookup logVariable) 0).isSome = true

theorem Ready.positive (ready : console.Ready) : 0 < console.process.limit :=
  Int.lt_of_le_of_lt console.process.table.lowestFree_nonneg ready.room

/-- Another program finds the process ready too, if only descriptors above the standard streams are
gone. -/
theorem Ready.pass_on {before after : Console} (ready : before.Ready)
    (inherits : before.Inherits after)
    (within : ∀ fd ∈ after.process.table, fd ∈ before.process.table)
    (standard : ∀ fd ∈ [inputStream, outputStream, errorStream], fd ∈ after.process.table) :
    after.Ready where
  standard := standard
  numbers fd member := ready.numbers fd (within fd member)
  room := Int.lt_of_le_of_lt (Table.lowestFree_le_of_subset within) (inherits.limit ▸ ready.room)
  printed := by rw [inherits.links, ready.printed]
  logged := by rw [inherits.links, ready.logged]
  hidden := inherits.hidden.trans ready.hidden
  bounds := inherits.bounds.trans ready.bounds
  contents := inherits.contents.trans ready.contents
  unwritten := inherits.written.trans ready.unwritten
  filters := by rw [inherits.environment, ready.filters]

theorem Ready.same_process {before after : Console} (ready : before.Ready)
    (inherits : before.Inherits after) (same : after.process = before.process) : after.Ready :=
  ready.pass_on inherits (fun _ member => same ▸ member)
    fun fd member => same ▸ ready.standard fd member

/-- What closing from a number up spares, for a limit on descriptors: what lies below the number,
and under brute force what lies beyond its reach. -/
def Spares (tier : Option Tier) (limit low fd : Int) : Prop :=
  fd < low ∨ tier = some .bruteForce ∧ min limit maxDescriptor ≤ fd

instance (tier : Option Tier) (limit low fd : Int) : Decidable (Spares tier limit low fd) :=
  inferInstanceAs (Decidable (_ ∨ _))

def left (console : Console) (tier : Option Tier) (low : Int) : Table :=
  console.process.table.keep fun fd => Spares tier console.process.limit low fd

theorem mem_left {tier : Option Tier} {low fd : Int} :
    fd ∈ console.left tier low ↔
      fd ∈ console.process.table ∧ Spares tier console.process.limit low fd := by
  rw [left, Table.mem_keep, decide_eq_true_eq]

theorem spares_min (tier : Option Tier) (limit first second fd : Int) :
    Spares tier limit first fd ∧ Spares tier limit second fd ↔
      Spares tier limit (min first second) fd := by
  rw [Spares, Spares, Spares, ← and_or_right]
  refine or_congr_left ?_
  omega

/-- Closing once more leaves what closing from the lower number leaves. -/
theorem left_twice {before after : Console} {tier : Option Tier} {first : Int}
    (process : after.process = { before.process with table := before.left tier first })
    (second : Int) : after.left tier second = before.left tier (min first second) := by
  refine Table.ext fun fd => ?_
  rw [mem_left, process]
  change fd ∈ before.left tier first ∧ Spares tier before.process.limit second fd ↔ _
  rw [mem_left, mem_left, and_assoc, spares_min]

section Closing

variable (ready : console.Ready)
include ready

/-- Restricted to a tier other than brute force, what is detected surveys all descriptors. -/
theorem Ready.surveys_iff (tier : Option Tier) :
    console.process.Surveys ((Capabilities.mk true (some .native)).restrict tier) ↔
      tier ≠ some .bruteForce := by
  have room := ready.room
  cases tier with
  | none => exact ⟨fun _ => by decide, fun _ => Or.inl rfl⟩
  | some tier =>
      cases tier with
      | rangeCall => exact ⟨fun _ => by decide, fun _ => Or.inl rfl⟩
      | listing => exact ⟨fun _ => by decide, fun _ => Or.inr ⟨rfl, room⟩⟩
      | bruteForce =>
          refine ⟨fun surveys => ?_, fun other => absurd rfl other⟩
          rcases surveys with ranged | listed
          · cases ranged
          · cases listed.1

theorem Ready.process_closed (tier : Option Tier) (low : Int) (nonneg : 0 ≤ low)
    (fits : low ≤ maxDescriptor) :
    ((Capabilities.mk true (some .native)).restrict tier).closeFrom low console.process =
      { console.process with table := console.left tier low } := by
  rw [ProcessState.close_from_keeps console.process ready.numbers _ low fits]
  refine congrArg (ProcessState.keep console.process) (funext fun fd => decide_eq_decide.mpr ?_)
  have brute : ¬ tier ≠ some .bruteForce ↔ tier = some .bruteForce := Decidable.not_not
  rw [ready.surveys_iff tier, ProcessState.reach, if_pos ready.positive, brute,
    show max low 0 = low by omega, Spares]

/-- Closing in a program that is ready closes in its process, and leaves no other trace. -/
theorem Ready.closed (whole : console.failure = none) (filter : LogFilter) (tier : Option Tier)
    {low : Int} (above : errorStream < low) (fits : low ≤ maxDescriptor) :
    let detected := Capabilities.detect { console with filter }
    let closed := (detected.1.restrict tier).closeFrom low detected.2
    console.Steady closed ∧
      closed.process = { console.process with table := console.left tier low } := by
  have steady : console.Steady { console with filter } :=
    ⟨{ Inherits.refl console with }, ready.standard _ (by decide), whole⟩
  have asked := (steady_undisturbed ready.logged).detect { console with filter } steady
  have clamped : max low 0 = low := by
    rw [errorStream] at above
    omega
  have kept := steady_kept ready.logged (max low 0) (by omega) (by omega)
  constructor
  · exact reap_preserves _ low kept _ asked
  · have detected : (Capabilities.detect { console with filter }).2.process = console.process :=
      (process_projects.emit _ { console with filter }).symm
    have seen := process_projects.reap ((Capabilities.mk true (some .native)).restrict tier) low
      (Capabilities.detect { console with filter }).2
    rw [detected] at seen
    refine (congrArg Prod.snd seen).symm.trans ?_
    exact ready.process_closed tier low (by omega) fits

end Closing

end Console

end DescriptorReaper
