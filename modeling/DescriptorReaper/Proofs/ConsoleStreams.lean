import DescriptorReaper.Proofs.ConsoleReap

/-!
Streams that lead into a pipe, if anywhere. A line that is written to one gets into the pipe as long
as the descriptor is open, and is lost without a trace after that.
-/

namespace DescriptorReaper.Console

variable {console : Console} {fd : Int} {pipe : Pipe}

def Streams (console : Console) (fd : Int) (pipe : Pipe) : Prop :=
  ∀ target, console.links.lookup fd = some target →
    target = .pipe pipe .writing ∨ target.access.writes = false

def Reaches (console : Console) (fd : Int) (pipe : Pipe) : Prop :=
  fd ∈ console.process.table ∧ console.links.lookup fd = some (.pipe pipe .writing)

instance : Decidable (console.Reaches fd pipe) := inferInstanceAs (Decidable (_ ∧ _))

theorem Reaches.streams (reaches : console.Reaches fd pipe) : console.Streams fd pipe :=
  fun _ link => Or.inl (Option.some.inj (link.symm.trans reaches.2))

def piped (console : Console) (pipe : Pipe) (lines : List String) : Console :=
  { console with
    machine := lines.foldl (fun machine text => machine.writePipe pipe (line text))
      console.machine }

theorem received_piped (lines : List String) :
    (console.piped pipe lines).received pipe = console.received pipe ++ lines.flatMap line := by
  induction lines generalizing console with
  | nil => exact (List.append_nil _).symm
  | cons text lines ih =>
      have first : (console.piped pipe [text]).received pipe = console.received pipe ++ line text :=
        console.machine.waiting_written pipe (line text)
      have rest := @ih (console.piped pipe [text])
      rw [first, List.append_assoc] at rest
      exact rest

theorem received_piped_elsewhere {other : Pipe} (apart : other ≠ pipe) (lines : List String) :
    (console.piped pipe lines).received other = console.received other := by
  induction lines generalizing console with
  | nil => rfl
  | cons text lines ih =>
      have first : (console.piped pipe [text]).received other = console.received other :=
        console.machine.waiting_elsewhere apart (line text)
      have rest := @ih (console.piped pipe [text])
      exact rest.trans first

section Writing

variable (streams : console.Streams fd pipe) (read : ∀ console : Console, console.isRead pipe = true)
include streams read

theorem put_streams (text : String) :
    console.put fd (line text) =
      if console.Reaches fd pipe then (none, console.piped pipe [text])
      else (some .badDescriptor, console) := by
  by_cases reaches : console.Reaches fd pipe
  · rw [if_pos reaches]
    exact put_pipe reaches.1 reaches.2 (read console) (line text)
  · rw [if_neg reaches, put, target?]
    by_cases present : fd ∈ console.process.table
    · rw [if_pos present]
      cases link : console.links.lookup fd with
      | none => rfl
      | some target =>
          rcases streams target link with rfl | unwritten
          · exact absurd ⟨present, link⟩ reaches
          · dsimp only
            rw [if_pos (by simp [unwritten])]
    · rw [if_neg present]

theorem insist_streams (text : String) :
    console.insist fd (line text) =
      if console.Reaches fd pipe then console.piped pipe [text] else console := by
  rw [insist, put_streams streams read]
  by_cases reaches : console.Reaches fd pipe
  · rw [if_pos reaches, if_pos reaches]
  · rw [if_neg reaches, if_neg reaches]

end Writing

end DescriptorReaper.Console
