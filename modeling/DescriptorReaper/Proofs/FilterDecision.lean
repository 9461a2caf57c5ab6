import DescriptorReaper.Proofs.DirectiveReading
import DescriptorReaper.Proofs.LoggingChoices
import DescriptorReaper.Session

/-!
By which directive a target is shown. Among directives without fields, the one with the longest
target decides, and of equal ones the last; it is all that the shown levels hang on. So the order of
directives for different targets makes no difference, nor does a directive for a shorter target. In
a process, the first start of the logging decides about all of them.
-/

namespace DescriptorReaper

def Level.upTo : Option Level → List Level
  | none => []
  | some threshold => Level.all.filter (· ≤ threshold)

theorem Level.upTo_grows {less more : Level} (within : less ≤ more) :
    (Level.upTo (some less)).Sublist (Level.upTo (some more)) := by
  rw [upTo, upTo]
  refine List.monotone_filter_right Level.all fun level shown => ?_
  exact decide_eq_true (Nat.le_trans (of_decide_eq_true shown) within)

namespace LogFilter

/-- No directive is for some fields or spans alone. -/
def Unconditional (filter : LogFilter) : Prop :=
  ∀ directive ∈ filter, directive.field = none ∧ directive.inSpan = false

/-- The directive is for a beginning of the target, and none is for a longer beginning, nor one
behind it for the same. -/
def Decides (filter : LogFilter) (target : List Char) (directive : Directive) : Prop :=
  ∃ before after, filter = before ++ directive :: after ∧ directive.target <+: target ∧
    (∀ other ∈ before, other.target <+: target →
      other.target.length ≤ directive.target.length) ∧
    ∀ other ∈ after, other.target <+: target → other.target.length < directive.target.length

variable {filter : LogFilter} {target : List Char} {directive last : Directive}

theorem covers_iff (unconditional : directive.field = none ∧ directive.inSpan = false)
    (target : List Char) (carries : List Char → Bool) :
    directive.covers target carries = true ↔ directive.target <+: target := by
  rw [Directive.covers, unconditional.1, unconditional.2]
  simp

theorem yields_iff {left right : Directive} (leftPlain : left.field = none)
    (rightPlain : right.field = none) :
    left.yieldsTo right = true ↔ left.target.length ≤ right.target.length := by
  rw [Directive.yieldsTo, leftPlain, rightPlain]
  by_cases same : left.target.length = right.target.length
  · simp [same]
  · rw [if_pos same, decide_eq_true_eq]
    omega

theorem deciding_append (filter : LogFilter) (last : Directive) (target : List Char)
    (carries : List Char → Bool) :
    LogFilter.deciding? (filter ++ [last]) target carries =
      if last.covers target carries then stronger (filter.deciding? target carries) last
      else filter.deciding? target carries := by
  rw [deciding?, deciding?, List.filter_append, List.foldl_append, List.filter_singleton]
  cases last.covers target carries <;> rfl

/-- A directive at the end takes over if it is for at least as long a beginning. -/
theorem decides_append :
    Decides (filter ++ [last]) target directive ↔
      (directive = last ∧ last.target <+: target ∧ ∀ other ∈ filter, other.target <+: target →
        other.target.length ≤ last.target.length) ∨
      (filter.Decides target directive ∧
        (last.target <+: target → last.target.length < directive.target.length)) := by
  constructor
  · rintro ⟨before, after, split, matched, earlier, later⟩
    induction after using List.reverseRecOn with
    | nil =>
        obtain ⟨rfl, same⟩ := List.append_inj' split rfl
        cases same
        exact Or.inl ⟨rfl, matched, earlier⟩
    | append_singleton after other _ =>
        rw [← List.cons_append, ← List.append_assoc] at split
        obtain ⟨rfl, same⟩ := List.append_inj' split rfl
        cases same
        exact Or.inr ⟨⟨before, after, rfl, matched, earlier, fun other member =>
          later other (List.mem_append_left _ member)⟩,
          later last (List.mem_append_right _ List.mem_cons_self)⟩
  · rintro (⟨rfl, matched, earlier⟩ | ⟨⟨before, after, rfl, matched, earlier, later⟩, shorter⟩)
    · exact ⟨filter, [], rfl, matched, earlier, by simp⟩
    · refine ⟨before, after ++ [last], by simp, matched, earlier, fun other member => ?_⟩
      rcases List.mem_append.mp member with member | member
      · exact later other member
      · rw [List.mem_singleton.mp member]
        exact shorter

theorem Decides.among (decides : filter.Decides target directive) :
    directive ∈ filter ∧ directive.target <+: target := by
  obtain ⟨before, after, rfl, matched, -⟩ := decides
  exact ⟨List.mem_append_right _ List.mem_cons_self, matched⟩

theorem Decides.longest (decides : filter.Decides target directive) :
    ∀ other ∈ filter, other.target <+: target →
      other.target.length ≤ directive.target.length := by
  obtain ⟨before, after, rfl, -, earlier, later⟩ := decides
  intro other member fits
  rcases List.mem_append.mp member with member | member
  · exact earlier other member fits
  · rcases List.mem_cons.mp member with rfl | member
    · exact Nat.le_refl _
    · exact Nat.le_of_lt (later other member fits)

theorem stronger_some (chosen : Option Directive) (candidate : Directive) :
    stronger chosen candidate ≠ none := by
  cases chosen with
  | none => simp [stronger]
  | some current =>
      rw [stronger]
      split <;> simp

theorem stronger_decides {chosen : Option Directive} (plain : filter.Unconditional)
    (lastPlain : last.field = none) (matched : last.target <+: target)
    (decided : ∀ directive, chosen = some directive ↔ filter.Decides target directive)
    (undecided : chosen = none → ∀ directive ∈ filter, ¬ directive.target <+: target) :
    stronger chosen last = some directive ↔
      LogFilter.Decides (filter ++ [last]) target directive := by
  rw [decides_append]
  cases chosen with
  | none =>
      have unmatched := undecided rfl
      constructor
      · intro same
        cases same
        exact Or.inl ⟨rfl, matched, fun other member fits => absurd fits (unmatched other member)⟩
      · rintro (⟨rfl, -⟩ | ⟨decides, -⟩)
        · rfl
        · exact absurd decides.among.2 (unmatched directive decides.among.1)
  | some current =>
      have decides := (decided current).mp rfl
      have yields := yields_iff (plain current decides.among.1).1 lastPlain
      rw [stronger, ← decided directive, Option.some_inj]
      split
      next taken =>
        have longer := yields.mp taken
        constructor
        · intro same
          cases same
          exact Or.inl ⟨rfl, matched, fun other member fits =>
            Nat.le_trans (decides.longest other member fits) longer⟩
        · rintro (⟨rfl, -⟩ | ⟨rfl, shorter⟩)
          · rfl
          · exact absurd longer (Nat.not_le.mpr (shorter matched))
      next kept =>
        have shorter := Nat.not_le.mp fun longer => kept (yields.mpr longer)
        constructor
        · intro same
          cases same
          exact Or.inr ⟨rfl, fun _ => shorter⟩
        · rintro (⟨rfl, -, longest⟩ | ⟨rfl, -⟩)
          · exact absurd (longest current decides.among.1 decides.among.2)
              (Nat.not_le.mpr shorter)
          · rfl

section Plain

variable (plain : filter.Unconditional) (target : List Char) (carries : List Char → Bool)
include plain

theorem undecided_iff :
    LogFilter.deciding? filter target carries = none ↔
      ∀ directive ∈ filter, ¬ directive.target <+: target := by
  induction filter using List.reverseRecOn with
  | nil => simp [deciding?]
  | append_singleton filter last ih =>
      obtain ⟨earlier, lately⟩ := List.forall_mem_append.mp plain
      have covered := covers_iff (lately last List.mem_cons_self) target carries
      rw [deciding_append, List.forall_mem_append, List.forall_mem_singleton, ← covered]
      split
      next covers =>
        exact ⟨fun none => absurd none (stronger_some _ last), fun none => absurd covers none.2⟩
      next other => rw [ih earlier, and_iff_left other]

/-- Without fields, the directive that is gone by is the one that decides. -/
theorem deciding_iff (directive : Directive) :
    LogFilter.deciding? filter target carries = some directive ↔
      filter.Decides target directive := by
  -- The fold is followed from its end, where the directive stands that came in last.
  induction filter using List.reverseRecOn generalizing directive with
  | nil =>
      constructor
      · intro found
        cases found
      · rintro ⟨before, after, split, -⟩
        cases before <;> cases split
  | append_singleton filter last ih =>
      obtain ⟨earlier, lately⟩ := List.forall_mem_append.mp plain
      have lastPlain := lately last List.mem_cons_self
      have covered := covers_iff lastPlain target carries
      rw [deciding_append]
      split
      next covers =>
        exact stronger_decides earlier lastPlain.1 (covered.mp covers) (ih earlier)
          (undecided_iff earlier target carries).mp
      next other =>
        have unmatched := fun matched => other (covered.mpr matched)
        rw [ih earlier, decides_append]
        constructor
        · exact fun decides => Or.inr ⟨decides, fun matched => absurd matched unmatched⟩
        · rintro (⟨-, matched, -⟩ | ⟨decides, -⟩)
          · exact absurd matched unmatched
          · exact decides

end Plain

theorem enabled_levels_deciding (filter : LogFilter) (target : String) :
    filter.enabledLevels target =
      Level.upTo ((filter.deciding? target.toList fun _ => true).bind (·.threshold)) := by
  rw [enabledLevels]
  unfold shows
  cases (filter.deciding? target.toList fun _ => true).bind (·.threshold) with
  | none => exact List.filter_eq_nil_iff.mpr fun level _ => Bool.false_ne_true
  | some threshold => rfl

theorem enabled_levels_decides (plain : filter.Unconditional) {target : String}
    (decides : filter.Decides target.toList directive) :
    filter.enabledLevels target = Level.upTo directive.threshold := by
  rw [enabled_levels_deciding, (deciding_iff plain _ _ directive).mpr decides]
  rfl

theorem enabled_levels_unmatched (plain : filter.Unconditional) {target : String}
    (unmatched : ∀ directive ∈ filter, ¬ directive.target <+: target.toList) :
    filter.enabledLevels target = [] := by
  rw [enabled_levels_deciding, (undecided_iff plain _ _).mpr unmatched]
  rfl

theorem decides_exists (plain : filter.Unconditional)
    (matched : ∃ directive ∈ filter, directive.target <+: target) :
    ∃ directive, filter.Decides target directive := by
  cases found : filter.deciding? target fun _ => true with
  | none =>
      obtain ⟨directive, member, fits⟩ := matched
      exact absurd fits ((undecided_iff plain target _).mp found directive member)
  | some directive => exact ⟨directive, (deciding_iff plain target _ directive).mp found⟩

/-- Among directives for different targets, the longest one decides wherever it stands. -/
theorem decides_iff_longest (distinct : (filter.map (·.target)).Nodup) :
    filter.Decides target directive ↔
      directive ∈ filter ∧ directive.target <+: target ∧ ∀ other ∈ filter,
        other.target <+: target → other.target.length ≤ directive.target.length := by
  constructor
  · intro decides
    exact ⟨decides.among.1, decides.among.2, decides.longest⟩
  · rintro ⟨member, matched, longest⟩
    obtain ⟨before, after, rfl⟩ := List.append_of_mem member
    refine ⟨before, after, rfl, matched, fun other earlier => ?_, fun other later fits => ?_⟩
    · exact longest other (List.mem_append_left _ earlier)
    · have within := longest other
        (List.mem_append_right _ (List.mem_cons_of_mem _ later)) fits
      refine Nat.lt_of_le_of_ne within fun same => ?_
      have equal := List.IsPrefix.eq_of_length
        (List.prefix_of_prefix_length_le fits matched within) same
      rw [List.map_append, List.map_cons] at distinct
      have absent := (List.nodup_cons.mp (List.nodup_append.mp distinct).2.1).1
      exact absent (equal ▸ List.mem_map_of_mem later)

theorem enabled_levels_perm {others : LogFilter} (plain : filter.Unconditional)
    (distinct : (filter.map (·.target)).Nodup) (perm : filter.Perm others) (target : String) :
    others.enabledLevels target = filter.enabledLevels target := by
  have othersPlain : others.Unconditional := fun directive member =>
    plain directive (perm.mem_iff.mpr member)
  have same : others.deciding? target.toList (fun _ => true) =
      filter.deciding? target.toList fun _ => true := by
    refine Option.ext fun directive => ?_
    rw [deciding_iff othersPlain, deciding_iff plain, decides_iff_longest distinct,
      decides_iff_longest ((perm.map _).nodup_iff.mp distinct)]
    simp only [perm.mem_iff]
  rw [enabled_levels_deciding, enabled_levels_deciding, same]

theorem decides_insert {before after : LogFilter} {added : Directive}
    (decides : Decides (before ++ after) target directive)
    (shorter : added.target.length < directive.target.length) :
    Decides (before ++ added :: after) target directive := by
  obtain ⟨front, back, split, matched, earlier, later⟩ := decides
  -- The directive that decides stands behind the place of the new one or before it.
  rcases List.append_eq_append_iff.mp split with ⟨middle, rfl, rfl⟩ | ⟨middle, rfl, rest⟩
  · refine ⟨before ++ added :: middle, back, by simp, matched, fun other member fits => ?_, later⟩
    simp only [List.mem_append, List.mem_cons] at member earlier
    rcases member with member | rfl | member
    · exact earlier other (Or.inl member) fits
    · exact Nat.le_of_lt shorter
    · exact earlier other (Or.inr member) fits
  · cases middle with
    | nil =>
        cases rest
        refine ⟨front ++ [added], back, by simp, matched, fun other member fits => ?_, later⟩
        rcases List.mem_append.mp member with member | member
        · exact earlier other member fits
        · rw [List.mem_singleton.mp member]
          exact Nat.le_of_lt shorter
    | cons first middle =>
        obtain ⟨rfl, rfl⟩ := List.cons.inj rest
        refine ⟨front, middle ++ added :: after, by simp, matched, earlier,
          fun other member fits => ?_⟩
        simp only [List.mem_append, List.mem_cons] at member
        rcases member with member | rfl | member
        · exact later other (List.mem_append_left after member) fits
        · exact shorter
        · exact later other (List.mem_append_right middle member) fits

theorem verbosity_rank (verbosity : Nat) :
    (verbosityLevel verbosity).rank = min (verbosity + 2) 5 := by
  match verbosity with
  | 0 | 1 | 2 => rfl
  | more + 3 =>
      rw [show verbosityLevel (more + 3) = .trace from rfl, show Level.trace.rank = 5 from rfl]
      omega

theorem verbosity_grows {less more : Nat} (within : less ≤ more) :
    verbosityLevel less ≤ verbosityLevel more := by
  change (verbosityLevel less).rank ≤ (verbosityLevel more).rank
  rw [verbosity_rank, verbosity_rank]
  omega

theorem verbosity_levels (verbosity : Nat) (target : String) :
    (ofVerbosity verbosity).enabledLevels target =
      Level.upTo (some (verbosityLevel verbosity)) := by
  have plain : (ofVerbosity verbosity).Unconditional := by
    intro directive member
    rw [List.mem_singleton.mp member]
    exact ⟨rfl, rfl⟩
  exact enabled_levels_decides plain
    ⟨[], [], rfl, List.nil_prefix, by simp, by simp⟩

theorem unconditional_means {items : List Item} {directives : List Directive}
    (means : List.Forall₂ Item.Means items directives) :
    LogFilter.Unconditional directives := by
  induction means with
  | nil => exact fun directive member => (List.not_mem_nil member).elim
  | cons means _ ih =>
      intro directive member
      rcases List.mem_cons.mp member with rfl | member
      · exact means.unconditional
      · exact ih directive member

end LogFilter

namespace ProcessState

def Action.started? : Action → Option Nat
  | .startLogging verbosity => some verbosity
  | _ => none

end ProcessState

def Result.filter? : Result → Option LogFilter
  | .filter told => some told
  | _ => none

theorem Step.run_filter {σ : Type} [Kernel σ] (step : Step) (state : σ) :
    (step.run state).1.filter? = none := by
  cases step <;> rfl

namespace ProcessState

def told (reports : List Report) : List LogFilter := reports.filterMap (·.result.filter?)

theorem run_decided (action : Action) {run : Run} {filter : LogFilter}
    (decided : run.filter = some filter) :
    (action.run run).1.result.filter? = action.started?.map (fun _ => filter) ∧
      (action.run run).2.filter = some filter := by
  cases action with
  | openAt fd => exact ⟨rfl, decided⟩
  | setLimit limit => exact ⟨rfl, decided⟩
  | startLogging verbosity => simp [Action.run, Action.started?, Result.filter?, decided]
  | perform step => exact ⟨Step.run_filter step _, decided⟩

theorem told_decided (actions : List Action) {run : Run} {filter : LogFilter}
    (decided : run.filter = some filter) :
    told (session actions run) = (actions.filterMap (·.started?)).map fun _ => filter := by
  induction actions generalizing run with
  | nil => rfl
  | cons action actions ih =>
      obtain ⟨answer, remains⟩ := run_decided action decided
      have later := ih remains
      rw [told] at later
      rw [session, told, List.filterMap_cons, List.filterMap_cons, answer, later]
      cases action.started? <;> rfl

/-- The first start chooses by the environment and its verbosity, and the others are told the same.
-/
theorem told_started (actions : List Action) {run : Run} {first : Nat} {later : List Nat}
    {filter : LogFilter} (undecided : run.filter = none)
    (started : actions.filterMap (·.started?) = first :: later)
    (chosen : LogFilter.choose run.environment first = some filter) :
    told (session actions run) = (first :: later).map fun _ => filter := by
  induction actions generalizing run with
  | nil => cases started
  | cons action actions ih =>
      cases action with
      | startLogging verbosity =>
          obtain ⟨rfl, rfl⟩ := List.cons.inj started
          have decides : ((Action.startLogging verbosity).run run).1.result.filter? = some filter ∧
              ((Action.startLogging verbosity).run run).2.filter = some filter := by
            simp [Action.run, Result.filter?, undecided, chosen]
          have others := told_decided actions decides.2
          rw [told] at others
          rw [session, told, List.filterMap_cons, decides.1, others]
          rfl
      | openAt fd => exact ih undecided started chosen
      | setLimit limit => exact ih undecided started chosen
      | perform step =>
          have silent : ((Action.perform step).run run).1.result.filter? = none :=
            Step.run_filter step _
          have others := @ih ((Action.perform step).run run).2 undecided started chosen
          rw [told] at others
          rw [session, told, List.filterMap_cons, silent, others]

end ProcessState

namespace LogFilter

/-- If every item of a filter in the environment means something, then verbosity flags have no say,
and each target is shown up to the threshold of its longest directive, the last one of equal ones;
neither the order of directives for different targets nor one more for a shorter target matters. An
item that means nothing, wherever it stands, leaves all to the verbosity, which is the same for
every target and grows. In a process, what the first start chooses is what all of them get. -/
theorem filter_by_longest_target (items : List Item) (fits : ∀ item ∈ items, item.Fits) :
    (∀ directives, List.Forall₂ Item.Means items directives →
      (∀ verbosity, choose (some (value items)) verbosity = some directives) ∧
      (∀ target : String,
        (∀ directive, Decides directives target.toList directive →
          enabledLevels directives target = Level.upTo directive.threshold) ∧
        ((∃ directive ∈ directives, directive.target <+: target.toList) →
          ∃ directive, Decides directives target.toList directive) ∧
        ((∀ directive ∈ directives, ¬ directive.target <+: target.toList) →
          enabledLevels directives target = [])) ∧
      (∀ others, items.Perm others → (directives.map (·.target)).Nodup →
        ∃ filter, (∀ verbosity, choose (some (value others)) verbosity = some filter) ∧
          ∀ target, enabledLevels filter target = enabledLevels directives target) ∧
      ∀ before after new added, items = before ++ after → new.Fits → Item.Means new added →
        ∃ filter, (∀ verbosity,
            choose (some (value (before ++ new :: after))) verbosity = some filter) ∧
          ∀ (target : String) (directive), Decides directives target.toList directive →
            added.target.length < directive.target.length →
              enabledLevels filter target = enabledLevels directives target) ∧
    ((∃ item ∈ items, ∀ directive, ¬ Item.Means item directive) →
      ∀ verbosity, choose (some (value items)) verbosity = choose none verbosity) ∧
    (∀ verbosity, ∃ filter, choose none verbosity = some filter ∧
      ∀ target, enabledLevels filter target = Level.upTo (some (verbosityLevel verbosity))) ∧
    (∀ less more, less ≤ more → (Level.upTo (some (verbosityLevel less))).Sublist
      (Level.upTo (some (verbosityLevel more)))) ∧
    ∀ process environment actions first later filter,
      actions.filterMap ProcessState.Action.started? = first :: later →
        choose environment first = some filter →
          ProcessState.told (ProcessState.session actions { process, environment }) =
            (first :: later).map fun _ => filter := by
  refine ⟨fun directives means => ?_, fun ⟨spoiler, listed, nothing⟩ verbosity =>
    choose_spoiled fits listed nothing verbosity, fun verbosity =>
    ⟨ofVerbosity verbosity, rfl, verbosity_levels verbosity⟩, fun less more within =>
    Level.upTo_grows (verbosity_grows within), fun process environment actions first later filter
    started chosen => ProcessState.told_started actions rfl started chosen⟩
  have plain := unconditional_means means
  refine ⟨choose_written fits means, fun target => ⟨fun directive =>
    enabled_levels_decides plain, decides_exists plain, enabled_levels_unmatched plain⟩, ?_, ?_⟩
  · intro others perm distinct
    obtain ⟨filter, othersMean, same⟩ := List.perm_comp_forall₂ perm.symm means
    refine ⟨filter, choose_written (fun item member => fits item (perm.mem_iff.mpr member))
      othersMean, fun target => ?_⟩
    exact enabled_levels_perm plain distinct same.symm target
  · rintro before after new added rfl newFits newMeans
    have front := List.forall₂_take before.length means
    have back := List.forall₂_drop before.length means
    rw [List.take_left] at front
    rw [List.drop_left] at back
    have inserted := List.rel_append front (.cons newMeans back)
    have insertedFits : ∀ item ∈ before ++ new :: after, item.Fits := by
      intro item member
      rcases List.mem_append.mp member with earlier | member
      · exact fits item (List.mem_append_left _ earlier)
      · rcases List.mem_cons.mp member with rfl | later
        · exact newFits
        · exact fits item (List.mem_append_right _ later)
    refine ⟨_, choose_written insertedFits inserted, fun target directive decides shorter => ?_⟩
    have whole := List.take_append_drop before.length directives
    rw [enabled_levels_decides plain decides]
    rw [← whole] at decides
    exact enabled_levels_decides (unconditional_means inserted) (decides_insert decides shorter)

def threefold : List Item :=
  [.assigned "closefrom".toList "WARN".toList, .bare "Error".toList,
    .assigned "closefrom::reap".toList "trace".toList]

def threefoldMeaning : LogFilter :=
  [{ target := "closefrom".toList, threshold := some .warn },
    { target := [], threshold := some .error },
    { target := "closefrom::reap".toList, threshold := some .trace }]

def spoiler : Item := .assigned "closefrom".toList "info=debug".toList

theorem threefold_by_longest_target :
    value threefold = Utf8.encode "closefrom=WARN,Error,closefrom::reap=trace" ∧
    (∀ item ∈ threefold ++ [spoiler], item.Fits) ∧
    List.Forall₂ Item.Means threefold threefoldMeaning ∧
    choose (some (value threefold)) 0 = some threefoldMeaning ∧
    choose (some (value threefold)) 255 = some threefoldMeaning ∧
    enabledLevels threefoldMeaning "closefrom::reap" = [.error, .warn, .info, .debug, .trace] ∧
    enabledLevels threefoldMeaning "closefrom::caps" = [.error, .warn] ∧
    enabledLevels threefoldMeaning "other" = [.error] ∧
    (∃ filter, choose (some (value threefold.reverse)) 0 = some filter ∧
      enabledLevels filter "closefrom::caps" = [.error, .warn]) ∧
    (∃ filter, choose (some (value (.assigned "close".toList "off".toList :: threefold))) 0 =
        some filter ∧ enabledLevels filter "closefrom::caps" = [.error, .warn]) ∧
    choose (some (value (threefold ++ [spoiler]))) 2 = choose none 2 ∧
    (∃ filter, choose none 2 = some filter ∧
      enabledLevels filter "other" = [.error, .warn, .info, .debug]) ∧
    ProcessState.told (ProcessState.session
        [.openAt 3, .startLogging 2, .perform .detect, .startLogging 0]
        { process := ⟨Table.standard, 256⟩, environment := some (value threefold) }) =
      [threefoldMeaning, threefoldMeaning] := by
  have spoiledFits : ∀ item ∈ threefold ++ [spoiler], item.Fits := by decide
  have fits : ∀ item ∈ threefold, item.Fits := fun item member =>
    spoiledFits item (List.mem_append_left _ member)
  have means : List.Forall₂ Item.Means threefold threefoldMeaning :=
    .cons (.assigned (by decide) (.level .warn (by decide)))
      (.cons (@Item.Means.of_level _ .error (by decide))
        (.cons (.assigned (by decide) (.level .trace (by decide))) .nil))
  have nothing : ∀ directive, ¬ Item.Means spoiler directive := by
    intro directive means
    cases means with
    | assigned _ stands =>
        have other : threshold? "info=debug".toList = none := by decide
        rw [(threshold_iff _ _).mpr stands] at other
        cases other
  have caps : Decides threefoldMeaning "closefrom::caps".toList
      { target := "closefrom".toList, threshold := some .warn } :=
    ⟨[], _, rfl, by decide, by decide, by decide⟩
  have reap : Decides threefoldMeaning "closefrom::reap".toList
      { target := "closefrom::reap".toList, threshold := some .trace } :=
    ⟨[_, _], [], rfl, by decide, by decide, by decide⟩
  have other : Decides threefoldMeaning "other".toList { target := [], threshold := some .error } :=
    ⟨[_], [_], rfl, by decide, by decide, by decide⟩
  obtain ⟨valid, -, -, -, sessions⟩ := filter_by_longest_target threefold fits
  obtain ⟨chosen, levels, permuted, inserted⟩ := valid threefoldMeaning means
  obtain ⟨-, spoiled, unset, -⟩ := filter_by_longest_target (threefold ++ [spoiler]) spoiledFits
  have warned := (levels "closefrom::caps").1 _ caps
  obtain ⟨reversed, reversedChosen, same⟩ :=
    permuted threefold.reverse threefold.reverse_perm.symm (by decide)
  obtain ⟨wider, widerChosen, kept⟩ := inserted [] threefold
    (.assigned "close".toList "off".toList) _ rfl (by decide)
    (.assigned (by decide) (.off (by decide)))
  obtain ⟨plain, plainChosen, plainLevels⟩ := unset 2
  exact ⟨rfl, spoiledFits, means, chosen 0, chosen 255, (levels "closefrom::reap").1 _ reap, warned,
    (levels "other").1 _ other,
    ⟨reversed, reversedChosen 0, (same "closefrom::caps").trans warned⟩,
    ⟨wider, widerChosen 0, (kept "closefrom::caps" _ caps (by decide)).trans warned⟩,
    spoiled ⟨spoiler, by simp, nothing⟩ 2, ⟨plain, plainChosen, plainLevels "other"⟩,
    sessions _ _ _ 2 [0] threefoldMeaning rfl (chosen 2)⟩

end LogFilter

end DescriptorReaper
