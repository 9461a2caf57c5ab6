import DescriptorReaper.Shell.Pattern

/-!
Expanded words cut into fields. A word consists of stretches: some stay whole, some are cut at the
characters that a variable names, and some are arguments that stay apart from each other. Blanks
among those characters never make an empty field, and a blank takes others along.
-/

namespace DescriptorReaper.Shell

/-- An item of an expanded word. -/
inductive Item where
  | char (char : Char) (guarded : Bool)
  | mark
  | stop
  deriving DecidableEq, Repr

inductive Cutting where
  | whole
  | atCuts
  | atStops
  deriving DecidableEq, Repr

structure Stretch where
  cutting : Cutting
  items : List Item
  deriving DecidableEq, Repr

abbrev Expanded := List Stretch

namespace Item

def written? : Item → Option Written
  | .char own guarded => some ⟨own, guarded⟩
  | .mark | .stop => none

def char? : Item → Option Char
  | .char own _ => some own
  | .mark | .stop => none

def ofText (guarded : Bool) (text : ByteText) : List Item := text.map (.char · guarded)

end Item

def plain (items : List Item) : ByteText := items.filterMap Item.char?

def Expanded.items (expanded : Expanded) : List Item := expanded.flatMap Stretch.items

def Expanded.plain (expanded : Expanded) : ByteText := Shell.plain expanded.items

def Expanded.written (expanded : Expanded) : List Written := expanded.items.filterMap Item.written?

namespace Fields

structure State where
  complete : List (List Item) := []
  field : List Item := []
  -- A blank has just ended a field, and takes others along.
  afterBlank : Bool := false
  afterStops : Bool := false
  atStops : Bool := false
  most : Option Nat := none
  -- What stays of the last field if nothing follows but what ends fields.
  kept : Option (List Item) := none

def blanks : ByteText := " \t\n".toList

def ends (cuts : ByteText) (item : Item) : Bool × Bool :=
  match item with
  | .char own _ => if cuts.contains own then (true, blanks.contains own) else (false, false)
  | .mark => (false, false)
  | .stop => (true, true)

def State.extend (state : State) (ends blank : Bool) (item : Item) : State :=
  let before := state.field
  let state := { state with field := item :: before }
  if blank then { state with kept := state.kept.or (some before) }
  else
    { state with
      kept := if ends && state.afterBlank then state.kept else none
      afterBlank := false }

def State.take (cuts : ByteText) (state : State) (item : Item) : State :=
  let (isEnd, isBlank) := ends (if state.atStops then [] else cuts) item
  if state.most = some 0 then state.extend isEnd isBlank item
  else if state.afterBlank then
    if isEnd then { state with field := [], afterBlank := isBlank }
    else { state with field := [item], afterBlank := false }
  else if isEnd then
    let afterBlank := isBlank && !(state.afterStops || state.atStops)
    if state.field = [] ∧ afterBlank then state
    else
      match state.most with
      | some 1 =>
          { state with
            most := some 0, afterBlank, kept := some state.field
            field := item :: state.field }
      | most =>
          { state with
            complete := state.field.reverse :: state.complete, field := [], afterBlank
            most := most.map (· - 1) }
  else { state with field := item :: state.field }

def State.stretch (cuts : ByteText) (state : State) (stretch : Stretch) : State :=
  match stretch.cutting with
  | .whole =>
      if stretch.items = [] then state
      else { state with field := stretch.items.reverse ++ state.field }
  | cutting =>
      let start := { state with
        afterBlank := false, afterStops := state.atStops, atStops := cutting = .atStops }
      stretch.items.foldl (take cuts) start

/-- The fields of a word, of which there may be a greatest number. -/
def cut (cuts : ByteText) (most : Option Nat) (expanded : Expanded) : List (List Item) :=
  let state := expanded.foldl (State.stretch cuts) { most }
  let field := (state.kept.getD state.field).reverse
  let complete := if field = [] ∧ ¬ state.atStops then state.complete else field :: state.complete
  complete.reverse

/-- A word that has nothing to be cut is one field, unless it is empty. -/
theorem cut_whole (cuts : ByteText) (items : List Item) (some : items ≠ []) :
    cut cuts none [⟨.whole, items⟩] = [items] := by
  simp [cut, State.stretch, some]

end Fields

end DescriptorReaper.Shell
