import DescriptorReaper.Proofs.DescriptorNames
import Mathlib.Data.List.Destutter

/-!
The candidates of a snapshot as a set. What counts is which descriptors the entries name, not in
what order or how often, nor under which spelling, nor through which handle the snapshot was read.
Sorting the numbers in any way and dropping repeats side by side comes to the same list.
-/

namespace DescriptorReaper.Snapshot

/-- An entry of the snapshot names the descriptor. -/
def Names (snapshot : Snapshot) (fd : Int) : Prop :=
  ∃ entry ∈ snapshot.entries, entry.descriptor? = some fd

theorem candidates_congr {snapshot other : Snapshot} {low : Int}
    (same : ∀ fd, low ≤ fd → (other.Names fd ↔ snapshot.Names fd)) :
    other.candidates low = snapshot.candidates low := by
  refine Ascending.eq_of_mem_iff (other.candidates_ascending low)
    (snapshot.candidates_ascending low) fun fd => ?_
  rw [mem_candidates, mem_candidates]
  exact and_congr_right fun reached => same fd reached

/-- The numbers may be put into ascending order by any means: equal ones end up side by side, so
that dropping repeats of a neighbour leaves each once. -/
theorem candidates_arranged (snapshot : Snapshot) (low : Int) {arranged : List Int}
    (order : arranged.Perm ((snapshot.entries.filterMap Entry.descriptor?).filter (low ≤ ·)))
    (ascending : arranged.Pairwise (· ≤ ·)) :
    arranged.destutter (· ≠ ·) = snapshot.candidates low := by
  rw [ascending.destutter_eq_dedup]
  have strictly : Ascending arranged.dedup := by
    refine ((ascending.sublist (List.dedup_sublist arranged)).and (List.nodup_dedup arranged)).imp ?_
    rintro left right ⟨atMost, different⟩
    omega
  refine Ascending.eq_of_mem_iff strictly (snapshot.candidates_ascending low) fun fd => ?_
  rw [List.mem_dedup, order.mem_iff, candidates, Ascending.mem_collect]

/-- An entry that names no descriptor, or one that the snapshot names already. -/
inductive Redundant (snapshot : Snapshot) : Entry → Prop where
  | repeated {entry : Entry} (listed : entry ∈ snapshot.entries) : Redundant snapshot entry
  | wrongKind {entry : Entry} (kind : entry.kind = some .directory ∨ entry.kind = some .other) :
      Redundant snapshot entry
  | nameless {entry : Entry} (none : descriptor? entry.name = none) : Redundant snapshot entry
  | respelled {entry : Entry} {fd : Int} (named : snapshot.Names fd) (zeros : Nat)
      (spelled : entry.name = List.replicate zeros 48 ++ Utf8.encode (toString fd)) :
      Redundant snapshot entry

theorem entry_descriptor_iff (entry : Entry) (fd : Int) :
    entry.descriptor? = some fd ↔
      entry.kind ∈ EntryKind.naming ∧ descriptor? entry.name = some fd := by
  have cut := entry_descriptor entry.name entry.kind
  by_cases naming : entry.kind ∈ EntryKind.naming
  · rw [if_pos naming] at cut
    rw [and_iff_right naming]
    exact (congrArg (· = some fd) cut).to_iff
  · rw [if_neg naming] at cut
    constructor
    · intro named
      cases cut.symm.trans named
    · rintro ⟨kind, -⟩
      exact absurd kind naming

theorem Redundant.names {snapshot : Snapshot} {entry : Entry} (redundant : snapshot.Redundant entry)
    {fd : Int} (named : entry.descriptor? = some fd) : snapshot.Names fd := by
  obtain ⟨naming, denotes⟩ := (entry_descriptor_iff entry fd).mp named
  cases redundant with
  | repeated listed => exact ⟨entry, listed, named⟩
  | wrongKind kind =>
      rcases kind with kind | kind
      · rw [kind] at naming
        exact absurd naming (by decide)
      · rw [kind] at naming
        exact absurd naming (by decide)
  | nameless none =>
      rw [none] at denotes
      cases denotes
  | respelled present zeros spelled =>
      obtain ⟨other, listed, otherNamed⟩ := present
      obtain ⟨-, otherDenotes⟩ := (entry_descriptor_iff other _).mp otherNamed
      obtain ⟨nonneg, fits, -⟩ := (descriptor_iff_zeros other.name _).mp otherDenotes
      rw [Decimal.encode_number] at spelled
      have read := (descriptor_iff_zeros entry.name _).mpr ⟨nonneg, fits, zeros, spelled⟩
      rw [denotes] at read
      cases read
      exact ⟨other, listed, otherNamed⟩

/-- A redundant entry changes nothing, wherever it stands. -/
theorem candidates_redundant {snapshot : Snapshot} {before after : List Entry} {entry : Entry}
    (split : snapshot.entries = before ++ after) (redundant : snapshot.Redundant entry) (low : Int) :
    Snapshot.candidates { snapshot with entries := before ++ entry :: after } low =
      snapshot.candidates low := by
  refine candidates_congr fun fd _ => ?_
  have listed (other : Entry) :
      other ∈ before ++ entry :: after ↔ other = entry ∨ other ∈ snapshot.entries := by
    rw [split, List.mem_append, List.mem_cons, List.mem_append]
    exact or_left_comm
  constructor
  · rintro ⟨other, member, named⟩
    rcases (listed other).mp member with rfl | present
    · exact redundant.names named
    · exact ⟨other, present, named⟩
  · rintro ⟨other, member, named⟩
    exact ⟨other, (listed other).mpr (Or.inr member), named⟩

/-- The candidates are the descriptors from a number up that entries of a naming kind name, in
strictly ascending order. They are the same for any snapshot with these entries, in any order and
number and read through any handle, and an entry adds nothing that is redundant. From a higher
number up there are those that are left of them there. -/
theorem candidates_sorted_set (snapshot : Snapshot) (low : Int) :
    (snapshot.candidates low).Pairwise (· < ·) ∧
      (∀ fd, fd ∈ snapshot.candidates low ↔ low ≤ fd ∧ ∃ entry ∈ snapshot.entries,
        entry.kind ∈ [some .symlink, some .charDevice, none] ∧
          entry.name ≠ [] ∧ (∀ byte ∈ entry.name, 48 ≤ byte ∧ byte ≤ 57) ∧
          fd = (Nat.ofDigits 10 (entry.name.reverse.map fun byte => byte.toNat - 48) : Nat) ∧
          fd ≤ 2147483647) ∧
      (∀ other : Snapshot, (∀ entry, entry ∈ other.entries ↔ entry ∈ snapshot.entries) →
        other.candidates low = snapshot.candidates low) ∧
      (∀ before after entry, snapshot.entries = before ++ after → snapshot.Redundant entry →
        Snapshot.candidates { snapshot with entries := before ++ entry :: after } low =
          snapshot.candidates low) ∧
      ∀ higher, low ≤ higher →
        snapshot.candidates higher = (snapshot.candidates low).filter (higher ≤ ·) := by
  refine ⟨snapshot.candidates_ascending low, fun fd => ?_, fun other same => ?_,
    fun before after entry split redundant => candidates_redundant split redundant low,
    fun higher above => (snapshot.candidates_from low above).symm⟩
  · rw [mem_candidates]
    refine and_congr_right fun _ => exists_congr fun entry => and_congr_right fun _ => ?_
    rw [entry_descriptor_iff, descriptor_iff_digits]
    rfl
  · refine candidates_congr fun fd _ => exists_congr fun entry => ?_
    rw [same entry]

def jumbled : Snapshot where
  handle := 10
  entries :=
    [⟨Utf8.encode "10", some .symlink⟩, ⟨Utf8.encode "007", none⟩, ⟨Utf8.encode "8", some .directory⟩,
      ⟨Utf8.encode "7", some .charDevice⟩, ⟨Utf8.encode "-1", none⟩, ⟨Utf8.encode "2", none⟩]

theorem jumbled_sorted_set :
    let respelled : Entry := ⟨Utf8.encode "00010", none⟩
    let before := jumbled.entries.take 2
    let after := jumbled.entries.drop 2
    jumbled.candidates 3 = [7, 10] ∧
      Snapshot.candidates { handle := 0, entries := jumbled.entries.reverse } 3 = [7, 10] ∧
      Snapshot.candidates { jumbled with entries := before ++ respelled :: after } 3 = [7, 10] ∧
      jumbled.candidates 8 = [10] := by
  intro respelled before after
  obtain ⟨-, -, anyOrder, redundant, higher⟩ := candidates_sorted_set jumbled 3
  have read : jumbled.candidates 3 = [7, 10] := by decide
  have names : jumbled.Names 10 := ⟨⟨Utf8.encode "10", some .symlink⟩, by decide, by decide⟩
  have same : respelled.name = List.replicate 3 48 ++ Utf8.encode (toString 10) := by decide
  refine ⟨read, (anyOrder _ fun entry => List.mem_reverse).trans read,
    (redundant before after respelled rfl (.respelled names 3 same)).trans read, ?_⟩
  rw [higher 8 (by decide), read]
  rfl

end DescriptorReaper.Snapshot
