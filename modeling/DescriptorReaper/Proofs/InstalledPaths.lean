import DescriptorReaper.Installation
import DescriptorReaper.Proofs.EncodedText

/-!
A program is found by the path that it is installed at, if no link and nothing that tells of
processes stands on the way there. Walking such a path goes down one directory at a time.
-/

namespace DescriptorReaper.Installation

def IsName (name : String) : Prop :=
  name ≠ "" ∧ name ≠ "." ∧ name ≠ ".." ∧ '/' ∉ name.toList

instance (name : String) : Decidable (IsName name) := inferInstanceAs (Decidable (_ ∧ _))

def tools : List Program := [.reaper, .lister]

def toolName : Program → String
  | .reaper => "closefrom"
  | _ => "lsfd"

/-- A home that its own path leads straight to. -/
structure Plain (home : Place) : Prop where
  names : ∀ name ∈ home, IsName name
  outside : home.head? ≠ some "proc"
  linkless : ∀ depth ≤ home.length, SystemTree.links.lookup (home.take depth) = none
  short : ∀ program ∈ tools, (Utf8.encode (path home program)).length ≤ longestPath

theorem components_nonempty (path : Bytes) : components path ≠ [] := by
  cases path with
  | nil => exact List.cons_ne_nil _ _
  | cons byte rest =>
      rw [components]
      split
      · exact List.cons_ne_nil _ _
      · split <;> exact List.cons_ne_nil _ _

theorem components_slash {name : Bytes} (clean : 47 ∉ name) (rest : Bytes) :
    components (name ++ 47 :: rest) = name :: components rest := by
  induction name with
  | nil =>
      obtain ⟨first, others, split⟩ := List.exists_cons_of_ne_nil (components_nonempty rest)
      rw [List.nil_append, components, split]
      exact if_pos rfl
  | cons byte name ih =>
      rw [List.mem_cons, not_or] at clean
      rw [List.cons_append, components, ih clean.2]
      exact if_neg (Ne.symm clean.1)

theorem components_last {name : Bytes} (clean : 47 ∉ name) : components name = [name] := by
  induction name with
  | nil => rfl
  | cons byte name ih =>
      rw [List.mem_cons, not_or] at clean
      rw [components, ih clean.2]
      exact if_neg (Ne.symm clean.1)

theorem components_names {name : Bytes} (clean : 47 ∉ name) {names : List String}
    (whole : ∀ name ∈ names, '/' ∉ name.toList) :
    components (name ++ names.flatMap fun name => 47 :: Utf8.encode name) =
      name :: names.map Utf8.encode := by
  induction names generalizing name with
  | nil => rw [List.flatMap_nil, List.append_nil, components_last clean, List.map_nil]
  | cons next names ih =>
      have nextClean : 47 ∉ Utf8.encode next :=
        Utf8.not_mem_encode 47 (by decide) (whole next List.mem_cons_self)
      rw [List.flatMap_cons, List.cons_append, components_slash clean,
        ih nextClean fun later member => whole later (List.mem_cons_of_mem next member),
        List.map_cons]

theorem encode_path {place : Place} (below : place ≠ []) :
    Utf8.encode place.path = place.flatMap fun name => 47 :: Utf8.encode name := by
  have extended (start : String) : Utf8.encode (place.foldl (fun path name => path ++ "/" ++ name)
      start) = Utf8.encode start ++ place.flatMap fun name => 47 :: Utf8.encode name := by
    clear below
    induction place generalizing start with
    | nil => simp
    | cons name place ih =>
        rw [List.foldl_cons, ih, Utf8.encode_append, Utf8.encode_append, List.flatMap_cons,
          List.append_assoc, List.append_assoc, List.cons_append]
        rfl
  rw [Place.path, if_neg below, extended]
  rfl

theorem place_tool (home : Place) {program : Program} (tool : program ∈ tools) :
    place home program = home ++ [toolName program] := by
  simp only [tools, List.mem_cons, List.not_mem_nil, or_false] at tool
  rcases tool with rfl | rfl <;> rfl

theorem lister_shorter (home : Place) :
    (Utf8.encode (path home .lister)).length ≤
      (Utf8.encode (path home .reaper)).length := by
  have written (program : Program) (tool : program ∈ tools) :
      (Utf8.encode (path home program)).length =
        (home.flatMap fun name => 47 :: Utf8.encode name).length + 1 +
          (Utf8.encode (toolName program)).length := by
    rw [path, encode_path (by simp [place_tool home tool]),
      place_tool home tool, List.flatMap_append, List.flatMap_singleton,
      List.length_append, List.length_cons]
    omega
  rw [written .lister (by decide), written .reaper (by decide)]
  refine Nat.add_le_add_left ?_ _
  decide

section Walks

variable {view : View} (fresh : view.made = [])

theorem View.owner_outside {spot : Place} (outside : spot.head? ≠ some "proc") :
    view.owner? spot = none := by
  unfold View.owner?
  split
  next => exact absurd rfl outside
  next => rfl

theorem View.leap_outside {spot : Place} (outside : spot.head? ≠ some "proc")
    (linkless : SystemTree.links.lookup spot = none) : view.leap? spot = none := by
  unfold View.leap?
  rw [View.owner_outside outside]
  dsimp only
  rw [if_neg fun same => outside (congrArg List.head? same),
    if_neg fun same => outside (congrArg List.head? same), linkless, Option.map_none]

include fresh in
theorem View.node_outside {spot : Place} (outside : spot.head? ≠ some "proc") :
    view.node? spot = Installation.node? view.home spot := by
  rw [View.node?, View.owner_outside outside]
  dsimp only
  rw [View.standing?, fresh, if_neg List.not_mem_nil]

/-- One step down. -/
theorem View.walk_down {above : Place} {name : String} (named : IsName name) {node : Node}
    (linkless : view.leap? (above ++ [name]) = none)
    (stands : view.node? (above ++ [name]) = some node) (followsLast : Bool) (left : Nat)
    (rest : List Bytes) :
    view.walk followsLast left ⟨above, .directory⟩ (Utf8.encode name :: rest) =
      view.walk followsLast left ⟨above ++ [name], node⟩ rest := by
  obtain ⟨notEmpty, notHere, notAbove, -⟩ := named
  have other {word : String} (differs : name ≠ word) : Utf8.encode name ≠ Utf8.encode word :=
    fun same => differs (Utf8.encode_injective same)
  have goesOn : ¬ (Utf8.encode name = [] ∨ Utf8.encode name = [46]) :=
    not_or.mpr ⟨other notEmpty, other notHere⟩
  have goesDown : Utf8.encode name ≠ [46, 46] := other notAbove
  rw [View.walk, if_neg (fun differs => differs rfl), if_neg goesOn, if_neg goesDown]
  dsimp only
  rw [Utf8.display_encode, linkless]
  dsimp only
  rw [stands]

end Walks

theorem lists_absent {tree : List (Place × List String)} {name : String}
    (absent : ∀ entry ∈ tree, name ∉ entry.2) (above : Place) :
    SystemTree.lists tree (above ++ [name]) = false := by
  rw [SystemTree.lists, List.getLast?_concat, List.dropLast_concat]
  dsimp only
  induction tree with
  | nil => rfl
  | cons entry tree ih =>
      obtain ⟨place, listed⟩ := entry
      rw [List.lookup_cons]
      cases above == place with
      | true =>
          rw [Bool.eq_false_iff]
          exact fun contained =>
            absent _ List.mem_cons_self (List.contains_iff_mem.mp contained)
      | false => exact ih fun later member => absent later (List.mem_cons_of_mem _ member)

-- No place of the file tree that every system has is called like one of the tools.
theorem tools_apart : ∀ program ∈ tools,
    (∀ entry ∈ SystemTree.directoriesIn, toolName program ∉ entry.2) ∧
      (∀ entry ∈ SystemTree.filesIn, toolName program ∉ entry.2) ∧
      (∀ device ∈ SystemTree.devices, device.getLast? ≠ some (toolName program)) ∧
      ∀ link ∈ SystemTree.links, link.1.getLast? ≠ some (toolName program) := by
  decide

theorem node_tool (home : Place) {program : Program} (tool : program ∈ tools) :
    node? home (place home program) = some (.program program) := by
  obtain ⟨noDirectory, noFile, noDevice, -⟩ := tools_apart program tool
  have deeper : (home ++ [toolName program]).isPrefixOf home = false := by
    rw [Bool.eq_false_iff]
    intro isPart
    have short := (List.isPrefixOf_iff_prefix.mp isPart).length_le
    rw [List.length_append, List.length_singleton] at short
    omega
  have device : home ++ [toolName program] ∉ SystemTree.devices := fun member =>
    noDevice _ member List.getLast?_concat
  have found : programs.find? (place home · = place home program) = some program := by
    simp only [tools, List.mem_cons, List.not_mem_nil, or_false] at tool
    rcases tool with rfl | rfl
    · simp [programs]
    · simp [programs, place]
  rw [node?, found, place_tool home tool, SystemTree.isDirectory, lists_absent noDirectory, deeper,
    SystemTree.isFile, lists_absent noFile, if_neg device]
  simp

namespace Plain

variable {home : Place} (plain : Plain home)
include plain

theorem head_outside (last : List String) (apart : last.head? ≠ some "proc") :
    (home ++ last).head? ≠ some "proc" := by
  have outside := plain.outside
  cases home with
  | nil => exact apart
  | cons first rest => exact outside

variable {view : View} (fresh : view.made = []) (same : view.home = home)
include fresh same

-- The induction goes down the home, from what is above to what is below.
theorem walk_home (above below : Place) (split : above ++ below = home) (left : Nat)
    (rest : List Bytes) :
    view.walk true left ⟨above, .directory⟩ (below.map Utf8.encode ++ rest) =
      view.walk true left ⟨home, .directory⟩ rest := by
  induction below generalizing above with
  | nil =>
      rw [List.append_nil] at split
      rw [split]
      rfl
  | cons name below ih =>
      have whole : (above ++ [name]) ++ below = home := by
        rw [List.append_assoc]
        exact split
      have isTaken : home.take (above ++ [name]).length = above ++ [name] := by
        rw [← whole, List.take_left]
      have outside : (above ++ [name]).head? ≠ some "proc" := by
        have apart := plain.outside
        rw [← whole] at apart
        cases above <;> exact apart
      have linkless : SystemTree.links.lookup (above ++ [name]) = none := by
        have depth : (above ++ [name]).length ≤ home.length := by
          rw [← whole]
          exact (List.prefix_append _ _).length_le
        rw [← isTaken]
        exact plain.linkless _ depth
      have stands : view.node? (above ++ [name]) = some .directory := by
        have isPart : (above ++ [name]).isPrefixOf home = true := by
          rw [List.isPrefixOf_iff_prefix, ← whole]
          exact List.prefix_append _ _
        rw [View.node_outside fresh outside, Installation.node?, same, isPart, Bool.or_true,
          if_pos rfl]
      have named : IsName name := plain.names name (by rw [← split]; simp)
      rw [List.map_cons, List.cons_append,
        View.walk_down named (View.leap_outside outside linkless) stands]
      exact ih _ whole

theorem reach_tool {program : Program} (tool : program ∈ tools) :
    view.resolve (Utf8.encode (path home program)) =
      .ok ⟨place home program, .program program⟩ := by
  have named : IsName (toolName program) := by
    simp only [tools, List.mem_cons, List.not_mem_nil, or_false] at tool
    rcases tool with rfl | rfl <;> decide
  have apart : (home ++ [toolName program]).head? ≠ some "proc" := by
    refine plain.head_outside _ ?_
    simp only [tools, List.mem_cons, List.not_mem_nil, or_false] at tool
    rcases tool with rfl | rfl <;> decide
  have linkless : SystemTree.links.lookup (home ++ [toolName program]) = none := by
    refine List.lookup_eq_none_iff.mpr fun link member => ?_
    rw [bne_iff_ne]
    intro same
    obtain ⟨-, -, -, noLink⟩ := tools_apart program tool
    exact noLink link member (by rw [← same, List.getLast?_concat])
  have stands : view.node? (home ++ [toolName program]) = some (.program program) := by
    rw [View.node_outside fresh apart, same, ← place_tool home tool, node_tool home tool]
  have below : place home program ≠ [] := by simp [place_tool home tool]
  have clean : ∀ name ∈ place home program, '/' ∉ name.toList := by
    intro name member
    rw [place_tool home tool] at member
    rcases List.mem_append.mp member with above | last
    · exact (plain.names name above).2.2.2
    · rw [List.mem_singleton.mp last]
      exact named.2.2.2
  have split : components (Utf8.encode (path home program)) =
      [] :: (home.map Utf8.encode ++ [Utf8.encode (toolName program)]) := by
    have cut := components_names (List.not_mem_nil : 47 ∉ ([] : Bytes)) clean
    rw [List.nil_append, ← encode_path below] at cut
    rw [path, cut, place_tool home tool, List.map_append, List.map_singleton]
  have absolute : Utf8.encode (path home program) ≠ [] := by
    rw [path, encode_path below, place_tool home tool]
    simp
  rw [View.resolve, View.reach, if_neg absolute, if_neg (Nat.not_lt.mpr (plain.short program tool)),
    View.walkPath, split]
  rw [List.head?_cons, if_pos rfl, View.walk, if_neg (fun differs => differs rfl), if_pos (Or.inl rfl),
    plain.walk_home fresh same [] home rfl, View.walk_down named
      (View.leap_outside apart linkless) stands, View.walk, ← place_tool home tool]

/-- In such a home, the path of a program denotes the program. -/
theorem find_tool {program : Program} (tool : program ∈ tools) (search : Option Bytes) :
    view.find search (Utf8.encode (path home program)) =
      .ok (Utf8.encode (path home program), program) := by
  have slash : 47 ∈ Utf8.encode (path home program) := by
    rw [path, encode_path (by simp [place_tool home tool]), place_tool home tool]
    simp
  rw [View.find, if_pos slash, plain.reach_tool fresh same tool]
  rfl

end Plain

theorem usual_home_plain : Plain usualHome := by
  refine ⟨by decide, by decide, by decide, by decide⟩

end DescriptorReaper.Installation
