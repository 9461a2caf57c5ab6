/-!
Strictly ascending lists of integers: finite sets of numbers, each with one written form.
Insertion keeps the order and drops repeats, so collecting any list yields its members once each,
ascending. Two ascending lists with the same members are the same list.
-/

namespace DescriptorReaper

/-- Every member is smaller than all that follow it. -/
def Ascending (values : List Int) : Prop := values.Pairwise (· < ·)

instance (values : List Int) : Decidable (Ascending values) :=
  inferInstanceAs (Decidable (values.Pairwise _))

namespace Ascending

def insert (value : Int) : List Int → List Int
  | [] => [value]
  | first :: rest =>
      if value < first then value :: first :: rest
      else if value = first then first :: rest
      else first :: insert value rest

def collect (values : List Int) : List Int := values.foldr insert []

def firstGap (next : Int) : List Int → Int
  | [] => next
  | first :: rest =>
      if first < next then firstGap next rest
      else if first = next then firstGap (next + 1) rest
      else next

theorem mem_insert {value member : Int} {values : List Int} :
    member ∈ insert value values ↔ member = value ∨ member ∈ values := by
  induction values with
  | nil => simp [insert]
  | cons first rest ih =>
      simp only [insert]
      split
      · simp
      · split
        next same => subst same; simp
        next => simp only [List.mem_cons, ih]; exact or_left_comm

theorem insert_ascending (value : Int) {values : List Int} (sorted : Ascending values) :
    Ascending (insert value values) := by
  induction values with
  | nil => simp [insert, Ascending]
  | cons first rest ih =>
      obtain ⟨below, tail⟩ := List.pairwise_cons.mp sorted
      simp only [insert]
      split
      next smaller =>
        refine List.pairwise_cons.mpr ⟨fun member found => ?_, sorted⟩
        rcases List.mem_cons.mp found with head | later
        · omega
        · have := below member later
          omega
      next notSmaller =>
        split
        next => exact sorted
        next different =>
          refine List.pairwise_cons.mpr ⟨fun member found => ?_, ih tail⟩
          rcases mem_insert.mp found with new | old
          · omega
          · exact below member old

theorem mem_collect {member : Int} {values : List Int} :
    member ∈ collect values ↔ member ∈ values := by
  induction values with
  | nil => simp [collect]
  | cons first rest ih =>
      change member ∈ insert first (collect rest) ↔ _
      simp [mem_insert, ih]

theorem collect_ascending (values : List Int) : Ascending (collect values) := by
  induction values with
  | nil => simp [collect, Ascending]
  | cons first rest ih => exact insert_ascending first ih

theorem filter {values : List Int} (keep : Int → Bool) (sorted : Ascending values) :
    Ascending (values.filter keep) :=
  List.Pairwise.filter keep sorted

/-- The order leaves no freedom: members determine the list. -/
theorem eq_of_mem_iff {left right : List Int} (sortedLeft : Ascending left)
    (sortedRight : Ascending right) (same : ∀ value, value ∈ left ↔ value ∈ right) :
    left = right := by
  induction left generalizing right with
  | nil =>
      cases right with
      | nil => rfl
      | cons first _ => exact absurd ((same first).mpr List.mem_cons_self) (by simp)
  | cons first rest ih =>
      cases right with
      | nil => exact absurd ((same first).mp List.mem_cons_self) (by simp)
      | cons other others =>
          obtain ⟨belowRest, tail⟩ := List.pairwise_cons.mp sortedLeft
          obtain ⟨belowOthers, tailOthers⟩ := List.pairwise_cons.mp sortedRight
          have heads : first = other := by
            rcases List.mem_cons.mp ((same first).mp List.mem_cons_self) with eq | inOthers
            · exact eq
            · rcases List.mem_cons.mp ((same other).mpr List.mem_cons_self) with eq | inRest
              · exact eq.symm
              · have := belowOthers first inOthers
                have := belowRest other inRest
                omega
          subst heads
          have tails : rest = others := by
            refine ih tail tailOthers fun value => ⟨fun found => ?_, fun found => ?_⟩
            · have kept := (same value).mp (List.mem_cons_of_mem _ found)
              rcases List.mem_cons.mp kept with eq | later
              · have := belowRest value found
                omega
              · exact later
            · have kept := (same value).mpr (List.mem_cons_of_mem _ found)
              rcases List.mem_cons.mp kept with eq | later
              · have := belowOthers value found
                omega
              · exact later
          rw [tails]

/-- The gap is not a member, and everything from `next` up to it is. -/
theorem firstGap_isLeast (next : Int) {values : List Int} (sorted : Ascending values) :
    next ≤ firstGap next values ∧ firstGap next values ∉ values ∧
      ∀ number, next ≤ number → number < firstGap next values → number ∈ values := by
  induction values generalizing next with
  | nil => simp only [firstGap]; exact ⟨Int.le_refl _, by simp, fun _ _ _ => by omega⟩
  | cons first rest ih =>
      obtain ⟨below, tail⟩ := List.pairwise_cons.mp sorted
      simp only [firstGap]
      split
      next smaller =>
        obtain ⟨reached, absent, full⟩ := ih next tail
        refine ⟨reached, ?_, fun number low high => List.mem_cons_of_mem _ (full number low high)⟩
        simp only [List.mem_cons, not_or]
        exact ⟨by omega, absent⟩
      next notSmaller =>
        split
        next same =>
          obtain ⟨reached, absent, full⟩ := ih (next + 1) tail
          refine ⟨by omega, ?_, fun number low high => ?_⟩
          · simp only [List.mem_cons, not_or]
            exact ⟨by omega, absent⟩
          · by_cases head : number = first
            · simp [head]
            · exact List.mem_cons_of_mem _ (full number (by omega) high)
        next different =>
          refine ⟨Int.le_refl _, fun found => ?_, fun _ _ _ => by omega⟩
          rcases List.mem_cons.mp found with eq | later
          · omega
          · have := below next later
            omega

/-- What lies below the start makes no difference. -/
theorem firstGap_filter {least next : Int} (reached : least ≤ next) (values : List Int) :
    firstGap next (values.filter (least ≤ ·)) = firstGap next values := by
  induction values generalizing next with
  | nil => rfl
  | cons first rest ih =>
      by_cases low : least ≤ first
      · rw [List.filter_cons_of_pos (by simpa using low)]
        simp only [firstGap]
        split
        · exact ih reached
        · split
          · exact ih (by omega)
          · rfl
      · rw [List.filter_cons_of_neg (by simpa using low), firstGap, if_pos (by omega)]
        exact ih reached

end Ascending

end DescriptorReaper
