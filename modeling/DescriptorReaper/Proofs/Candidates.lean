import DescriptorReaper.Proofs.Numerals
import DescriptorReaper.Snapshot

/-!
The candidates of a snapshot are the descriptors that its entries name, from a number up, once each
and ascending. A snapshot of a table names the open descriptors and the handle it was read through,
whatever the order of its entries, provided that they are of a kind that names descriptors at all.
-/

namespace DescriptorReaper

/-- The kinds of entries that name descriptors; a kind that is not reported is one of them. -/
def EntryKind.naming : List (Option EntryKind) := [some .symlink, some .charDevice, none]

theorem descriptor_signed_digits (fd number : Int) :
    descriptor? (Decimal.signedDigits fd) = some number ↔
      number = fd ∧ 0 ≤ fd ∧ fd ≤ maxDescriptor := by
  rw [descriptor?, Decimal.natural_signed_digits]
  by_cases negative : fd < 0
  · rw [if_pos negative]
    simp only [reduceCtorEq, false_iff]
    omega
  · have whole : (fd.natAbs : Int) = fd := by omega
    simp only [if_neg negative, whole]
    by_cases fits : fd ≤ maxDescriptor
    · rw [if_pos fits, Option.some_inj]
      omega
    · rw [if_neg fits]
      simp [fits]

theorem entry_descriptor (name : Bytes) (kind : Option EntryKind) :
    (Entry.mk name kind).descriptor? =
      if kind ∈ EntryKind.naming then descriptor? name else none := by
  cases kind with
  | none => rfl
  | some kind => cases kind <;> rfl

namespace Snapshot

variable (snapshot : Snapshot) (table : Table) (low fd : Int)

theorem mem_candidates :
    fd ∈ snapshot.candidates low ↔
      low ≤ fd ∧ ∃ entry ∈ snapshot.entries, entry.descriptor? = some fd := by
  rw [candidates, Ascending.mem_collect, List.mem_filter, List.mem_filterMap, decide_eq_true_eq,
    and_comm]

theorem candidates_ascending : Ascending (snapshot.candidates low) :=
  Ascending.collect_ascending _

-- The directory itself and its parent stand in the listing too, and name nothing.
theorem table_entry_names (kind : Option EntryKind) (descending : Bool) :
    (∃ entry ∈ (ofTable table kind descending).entries, entry.descriptor? = some fd) ↔
      kind ∈ EntryKind.naming ∧ 0 ≤ fd ∧ fd ≤ maxDescriptor ∧
        (fd ∈ table ∨ fd = table.lowestFree) := by
  have dots : ∀ name ∈ [Utf8.encode ".", Utf8.encode ".."], descriptor? name = none := by
    decide
  have shown : ∀ member, member ∈ (if descending then (table.insert table.lowestFree).fds.reverse
      else (table.insert table.lowestFree).fds) ↔ member ∈ table ∨ member = table.lowestFree := by
    intro member
    have inserted : member ∈ (table.insert table.lowestFree).fds ↔
        member = table.lowestFree ∨ member ∈ table := Table.mem_insert
    cases descending <;> simp [inserted, or_comm]
  constructor
  · rintro ⟨entry, listed, named⟩
    rcases List.mem_append.mp listed with dot | numbered
    · obtain ⟨name, isDot, same⟩ : ∃ name ∈ [Utf8.encode ".", Utf8.encode ".."],
          entry.name = name := by
        simp only [List.mem_cons, List.not_mem_nil, or_false] at dot
        rcases dot with rfl | rfl <;> simp
      rw [show entry = ⟨entry.name, entry.kind⟩ from rfl, entry_descriptor, same,
        dots name isDot, ite_self] at named
      cases named
    · obtain ⟨member, present, rfl⟩ := List.mem_map.mp numbered
      rw [entry_descriptor] at named
      split at named
      next naming =>
        obtain ⟨rfl, nonneg, fits⟩ := (descriptor_signed_digits member fd).mp named
        exact ⟨naming, nonneg, fits, (shown _).mp present⟩
      next => cases named
  · rintro ⟨naming, nonneg, fits, present⟩
    refine ⟨⟨Decimal.signedDigits fd, kind⟩, List.mem_append_right _
      (List.mem_map.mpr ⟨fd, (shown fd).mpr present, rfl⟩), ?_⟩
    rw [entry_descriptor, if_pos naming, descriptor_signed_digits]
    exact ⟨rfl, nonneg, fits⟩

theorem candidates_from {higher : Int} (above : low ≤ higher) :
    (snapshot.candidates low).filter (higher ≤ ·) = snapshot.candidates higher := by
  refine Ascending.eq_of_mem_iff (Ascending.filter _ (snapshot.candidates_ascending low))
    (snapshot.candidates_ascending higher) fun fd => ?_
  rw [List.mem_filter, mem_candidates, mem_candidates, decide_eq_true_eq]
  constructor
  · rintro ⟨⟨-, named⟩, reached⟩
    exact ⟨reached, named⟩
  · rintro ⟨reached, named⟩
    exact ⟨⟨by omega, named⟩, reached⟩

/-- The snapshot is one of a table, with its entries in whatever order. -/
structure Shows (snapshot : Snapshot) (table : Table) (kind : Option EntryKind) : Prop where
  handle : snapshot.handle = table.lowestFree
  entries : snapshot.entries.Perm (ofTable table kind false).entries

theorem shows_table (kind : Option EntryKind) (descending : Bool) :
    (ofTable table kind descending).Shows table kind := by
  refine ⟨rfl, ?_⟩
  cases descending with
  | false => exact List.Perm.refl _
  | true => exact (((List.reverse_perm _).map _).append_left _)

namespace Shows

variable {snapshot : Snapshot} {table : Table} {kind : Option EntryKind}
  (shows : snapshot.Shows table kind)
include shows

theorem names (fd : Int) :
    (∃ entry ∈ snapshot.entries, entry.descriptor? = some fd) ↔
      kind ∈ EntryKind.naming ∧ 0 ≤ fd ∧ fd ≤ maxDescriptor ∧
        (fd ∈ table ∨ fd = table.lowestFree) := by
  rw [← table_entry_names table fd kind false]
  exact exists_congr fun entry => and_congr_left fun _ => shows.entries.mem_iff

/-- What a sweep over a snapshot of the table goes through: the open descriptors from `low` up, and
the handle if it lies there too. -/
theorem mem_candidates (low fd : Int) :
    fd ∈ snapshot.candidates low ↔
      kind ∈ EntryKind.naming ∧ low ≤ fd ∧ 0 ≤ fd ∧ fd ≤ maxDescriptor ∧
        (fd ∈ table ∨ fd = table.lowestFree) := by
  rw [Snapshot.mem_candidates, shows.names]
  exact and_left_comm

/-- A snapshot of a table tells the table, as far as its numbers are those of descriptors. -/
theorem descriptors (naming : kind ∈ EntryKind.naming)
    (numbers : ∀ fd ∈ table, 0 ≤ fd ∧ fd ≤ maxDescriptor) : snapshot.descriptors = table.fds := by
  refine Ascending.eq_of_mem_iff (Ascending.filter _ (snapshot.candidates_ascending 0))
    table.ascending fun fd => ?_
  rw [Snapshot.descriptors, List.mem_filter, shows.mem_candidates, shows.handle, decide_eq_true_eq]
  change _ ↔ fd ∈ table
  constructor
  · rintro ⟨⟨-, -, -, -, present | handle⟩, other⟩
    · exact present
    · exact absurd handle other
  · intro present
    obtain ⟨nonneg, fits⟩ := numbers fd present
    refine ⟨⟨naming, nonneg, nonneg, fits, Or.inl present⟩, ?_⟩
    rintro rfl
    exact table.lowestFree_not_mem present

end Shows

theorem mem_table_candidates (kind : Option EntryKind) (descending : Bool) :
    fd ∈ (ofTable table kind descending).candidates low ↔
      kind ∈ EntryKind.naming ∧ low ≤ fd ∧ 0 ≤ fd ∧ fd ≤ maxDescriptor ∧
        (fd ∈ table ∨ fd = table.lowestFree) :=
  (shows_table table kind descending).mem_candidates low fd

theorem descriptors_table (numbers : ∀ fd ∈ table, 0 ≤ fd ∧ fd ≤ maxDescriptor) :
    (ofTable table (some .symlink) false).descriptors = table.fds :=
  (shows_table table (some .symlink) false).descriptors (by decide) numbers

end Snapshot

end DescriptorReaper
