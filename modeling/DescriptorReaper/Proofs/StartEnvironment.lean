import DescriptorReaper.Proofs.ConsoleStart

/-!
What a process is started in makes no difference to what it finds open. Where a path leads does not
hang on what processes tell of themselves, so the files that are opened at the start are the same in
every environment.
-/

namespace DescriptorReaper

namespace Installation

def Presence.retold (testimony : Testimony) (presence : Presence) : Presence :=
  { presence with testimony }

def View.retold (testimony : Testimony) (view : View) : View :=
  { view with
    self := view.self.retold testimony
    others := view.others.map (Presence.retold testimony) }

variable (testimony : Testimony) (view : View)

theorem owner_retold (spot : Place) :
    (view.retold testimony).owner? spot =
      (view.owner? spot).map fun owner => (owner.1.retold testimony, owner.2) := by
  unfold View.owner?
  split
  next owner within =>
    have named : ((view.retold testimony).self :: (view.retold testimony).others).find?
        (fun presence => toString presence.number = owner) =
        ((view.self :: view.others).find? fun presence => toString presence.number = owner).map
          (Presence.retold testimony) := by
      change List.find? _ ((view.self :: view.others).map (Presence.retold testimony)) = _
      rw [List.find?_map]
      rfl
    rw [named, Option.map_map, Option.map_map]
    refine congrArg (Option.map · _) (funext fun presence => ?_)
    dsimp only [Function.comp]
    split
    · split <;> rfl
    · rfl
  next => rfl

theorem node_retold (spot : Place) : (view.retold testimony).node? spot = view.node? spot := by
  unfold View.node?
  rw [owner_retold]
  cases view.owner? spot <;> rfl

theorem process_leap_retold (presence : Presence) (spot : Place) (within : List String) :
    (view.retold testimony).processLeap? (presence.retold testimony) spot within =
      view.processLeap? presence spot within := by
  have behind (target : Target) :
      (view.retold testimony).behind spot target = view.behind spot target := by
    cases target with
    | pipe => rfl
    | file place access opening => rw [View.behind, View.behind, node_retold]
  unfold View.processLeap?
  simp only [behind]
  rfl

theorem leap_retold (spot : Place) : (view.retold testimony).leap? spot = view.leap? spot := by
  unfold View.leap?
  rw [owner_retold]
  cases view.owner? spot with
  | none => rfl
  | some owner => exact process_leap_retold testimony view owner.1 spot owner.2

-- Each step asks what stands at a place and where it leads, and neither hangs on what is told.
theorem walk_retold (followsLast : Bool) (left : Nat) (found : Found) (names : List Bytes) :
    (view.retold testimony).walk followsLast left found names =
      view.walk followsLast left found names := by
  fun_induction view.walk followsLast left found names with
  | case1 => rw [View.walk]
  | case2 left found name rest other => rw [View.walk, if_pos other]
  | case3 left found name rest inside here ih =>
      rw [View.walk, if_neg inside, if_pos here]
      exact ih
  | case4 left found rest inside there ih =>
      rw [View.walk, if_neg inside, if_neg there, if_pos rfl]
      exact ih
  | case5 left found name rest inside there below spot leap leaps last =>
      rw [View.walk, if_neg inside, if_neg there, if_neg below]
      dsimp only
      rw [leap_retold, leaps]
      dsimp only
      rw [if_pos last]
  | case6 found name rest inside there below spot leap leaps goesOn =>
      rw [View.walk, if_neg inside, if_neg there, if_neg below]
      dsimp only
      rw [leap_retold, leaps]
      dsimp only
      rw [if_neg goesOn]
  | case7 found name rest inside there below spot goesOn left target leaps ih =>
      rw [View.walk, if_neg inside, if_neg there, if_neg below]
      dsimp only
      rw [leap_retold, leaps]
      dsimp only
      rw [if_neg goesOn]
      exact ih
  | case8 found name rest inside there below spot goesOn left link start leaps ih =>
      rw [View.walk, if_neg inside, if_neg there, if_neg below]
      dsimp only
      rw [leap_retold, leaps]
      dsimp only
      rw [if_neg goesOn]
      exact ih
  | case9 left found name rest inside there below spot leaps node stands ih =>
      rw [View.walk, if_neg inside, if_neg there, if_neg below]
      dsimp only
      rw [leap_retold, leaps]
      dsimp only
      rw [node_retold, stands]
      exact ih
  | case10 left found name rest inside there below spot leaps stands =>
      rw [View.walk, if_neg inside, if_neg there, if_neg below]
      dsimp only
      rw [leap_retold, leaps]
      dsimp only
      rw [node_retold, stands]

theorem resolve_retold (path : Bytes) :
    (view.retold testimony).resolve path = view.resolve path := by
  have walks (names : List Bytes) :
      (view.retold testimony).walkPath true names = view.walkPath true names :=
    walk_retold testimony view true mostLinks _ names
  rw [View.resolve, View.reach, walks]
  rfl

end Installation

namespace Console

variable (environment : List (String × Bytes)) (console : Console)

def within : Console := { console with environment }

theorem resolve_within (program : Program) (path : Bytes) :
    ((console.within environment).view program).resolve path =
      (console.view program).resolve path := by
  let blank := console.testimony
  have same : ((console.within environment).view program).retold blank =
      (console.view program).retold blank := rfl
  rw [← Installation.resolve_retold blank, same, Installation.resolve_retold blank]

theorem open_found_within (view other : Installation.View) (found : Installation.Found) :
    (console.within environment).openFound view found { access := .reading } =
      (console.openFound other found { access := .reading }).map fun opened =>
        (opened.1, opened.2.within environment) := by
  obtain ⟨spot, node⟩ := found
  cases node with
  | pipe pipe => rfl
  | directory => rfl
  | device =>
      by_cases terminal : spot = ["dev", "tty"]
      · rw [openFound, openFound, if_pos terminal, if_pos terminal]
        rfl
      · rw [openFound, openFound, if_neg terminal, if_neg terminal]
        rfl
  | file => rfl
  | program program => rfl
  | link => rfl

/-- A file is opened for reading in one environment as in another. -/
theorem open_path_within (program : Program) (path : Bytes) :
    (console.within environment).openPath program path { access := .reading } =
      (console.openPath program path { access := .reading }).map fun opened =>
        (opened.1, opened.2.within environment) := by
  unfold openPath
  dsimp only
  rw [if_neg Bool.false_ne_true, if_neg Bool.false_ne_true, resolve_within]
  cases (console.view program).resolve path with
  | error fault => cases fault <;> rfl
  | ok found => exact open_found_within environment console _ _ found

theorem with_file_within (fd : Int) (path : String) :
    (console.within environment).withFile fd path =
      (console.withFile fd path).within environment := by
  rw [withFile, withFile, open_path_within]
  cases console.openPath .reaper (Utf8.encode path) { access := .reading } <;> rfl

/-- A process finds the same open, in whatever environment it starts. -/
theorem start_within (home : Place) (files : List (Int × String)) (limit : Int)
    (logging other : Option Bytes) :
    start home files limit logging =
      (start home files limit other).within (startEnvironment logging) := by
  suffices steps : ∀ console : Console,
      files.foldl (fun console file => console.withFile file.1 file.2)
          (console.within (startEnvironment logging)) =
        (files.foldl (fun console file => console.withFile file.1 file.2) console).within
          (startEnvironment logging) from
    steps (standard home limit other)
  induction files with
  | nil => exact fun _ => rfl
  | cons file files ih =>
      intro console
      rw [List.foldl_cons, List.foldl_cons, with_file_within]
      exact ih _

end Console

end DescriptorReaper
