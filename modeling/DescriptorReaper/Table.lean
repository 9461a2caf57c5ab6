import DescriptorReaper.Ascending

/-!
The table of open descriptors. A table is determined by its members, so two runs leave the same
table exactly when the same descriptors are open after both.
-/

namespace DescriptorReaper

/-- The descriptors a process has open. -/
structure Table where
  fds : List Int
  ascending : Ascending fds
  deriving DecidableEq

namespace Table

instance : Membership Int Table where
  mem table fd := fd ∈ table.fds

instance (fd : Int) (table : Table) : Decidable (fd ∈ table) :=
  inferInstanceAs (Decidable (fd ∈ table.fds))

def ofList (fds : List Int) : Table := ⟨Ascending.collect fds, Ascending.collect_ascending fds⟩

def standard : Table := ofList [0, 1, 2]

def insert (table : Table) (fd : Int) : Table :=
  ⟨Ascending.insert fd table.fds, Ascending.insert_ascending fd table.ascending⟩

def keep (table : Table) (test : Int → Bool) : Table :=
  ⟨table.fds.filter test, table.ascending.filter test⟩

def erase (table : Table) (fd : Int) : Table := table.keep (· ≠ fd)

def eraseAll (table : Table) (fds : List Int) : Table := table.keep (· ∉ fds)

/-- Close every descriptor numbered `low` or higher. -/
def closeFrom (table : Table) (low : Int) : Table := table.keep (· < low)

def lowestFree (table : Table) : Int := Ascending.firstGap 0 table.fds

@[ext] theorem ext {left right : Table} (same : ∀ fd, fd ∈ left ↔ fd ∈ right) : left = right := by
  cases left with
  | mk fds sorted =>
      cases right with
      | mk others sortedOthers =>
          have := Ascending.eq_of_mem_iff sorted sortedOthers same
          subst this
          rfl

@[simp] theorem mem_ofList {fd : Int} {fds : List Int} : fd ∈ ofList fds ↔ fd ∈ fds :=
  Ascending.mem_collect

@[simp] theorem mem_insert {table : Table} {fd member : Int} :
    member ∈ table.insert fd ↔ member = fd ∨ member ∈ table :=
  Ascending.mem_insert

@[simp] theorem mem_keep {table : Table} {test : Int → Bool} {fd : Int} :
    fd ∈ table.keep test ↔ fd ∈ table ∧ test fd = true :=
  List.mem_filter

@[simp] theorem mem_erase {table : Table} {fd member : Int} :
    member ∈ table.erase fd ↔ member ∈ table ∧ member ≠ fd := by
  simp [erase]

@[simp] theorem mem_eraseAll {table : Table} {fds : List Int} {member : Int} :
    member ∈ table.eraseAll fds ↔ member ∈ table ∧ member ∉ fds := by
  simp [eraseAll]

@[simp] theorem mem_closeFrom {table : Table} {low fd : Int} :
    fd ∈ table.closeFrom low ↔ fd ∈ table ∧ fd < low := by
  simp [closeFrom]

theorem lowestFree_nonneg (table : Table) : 0 ≤ table.lowestFree :=
  (Ascending.firstGap_isLeast 0 table.ascending).1

theorem lowestFree_not_mem (table : Table) : table.lowestFree ∉ table :=
  (Ascending.firstGap_isLeast 0 table.ascending).2.1

theorem mem_of_lt_lowestFree {table : Table} {fd : Int} (nonneg : 0 ≤ fd)
    (below : fd < table.lowestFree) : fd ∈ table :=
  (Ascending.firstGap_isLeast 0 table.ascending).2.2 fd nonneg below

theorem lowestFree_le_of_subset {table larger : Table} (within : ∀ fd ∈ table, fd ∈ larger) :
    table.lowestFree ≤ larger.lowestFree := by
  refine Int.not_lt.mp fun below => larger.lowestFree_not_mem ?_
  exact within _ (mem_of_lt_lowestFree larger.lowestFree_nonneg below)

/-- In a smaller table the lowest free number is a freed one, or the one it was before. -/
theorem lowestFree_of_subset {table larger : Table} (within : ∀ fd ∈ table, fd ∈ larger) :
    table.lowestFree ∈ larger ∨ table.lowestFree = larger.lowestFree := by
  by_cases freed : table.lowestFree ∈ larger
  · exact Or.inl freed
  · have notBelow : ¬ table.lowestFree < larger.lowestFree := fun below =>
      freed (mem_of_lt_lowestFree table.lowestFree_nonneg below)
    have notAbove := lowestFree_le_of_subset within
    exact Or.inr (by omega)

end Table

end DescriptorReaper
