import DescriptorReaper.Proofs.SweepAgreement

/-!
What a run reports. Its events follow from its calls and their answers: each strategy that fails is
told of in its turn, a sweep over a snapshot tells of each close that fails, and the last event
tells which tier has done the work, and how many closes succeeded. This holds on any kernel. In a
scripted one where no close takes other descriptors along, these closes and the failing ones that
release their descriptor make up all that is gone after the sweep.
-/

namespace DescriptorReaper

/-- An event as it is shown. -/
structure Notice where
  level : Level
  message : String
  fields : List (String × Value)
  deriving DecidableEq, Repr

def Event.notice (event : Event) : Notice := ⟨event.level, event.message, event.fields⟩

namespace Notice

def threshold (low : Int) : String × Value := ("lowfd", .number low)

def cause (error : Errno) : String × Value := ("error", .text error.describe)

def number (fd : Int) : String × Value := ("fd", .number fd)

def count (closed : Nat) : String × Value := ("closed", .number closed)

def directory (dir : ListingDir) : String × Value := ("dir", .text ("\"" ++ dir.path ++ "\""))

def warning (lowfd : Int) : List Notice :=
  if lowfd < 0 then [⟨.warn, "negative lowfd; closing from 0 instead", [threshold lowfd]⟩] else []

def ofClose (fd : Int) (error : Errno) : Option Int → List Notice
  | none => []
  | some handle =>
      if error = .ebadf then
        [⟨.trace, "already closed", [number fd, ("handle", .truth (decide (fd = handle)))]⟩]
      else [⟨.trace, "close failed", [number fd, cause error]⟩]

/-- What is told of a call in a run from `low` up. -/
def ofCall (low : Int) (handle : Option Int) : Call → List Notice
  | .closeRange _ (.error error) =>
      [⟨.debug, "close_range failed", [threshold low, cause error]⟩]
  | .snapshot dir (.error error) =>
      [⟨.debug, "could not list descriptors", [threshold low, cause error, directory dir]⟩]
  | .limit (.error error) => [⟨.debug, "sysconf(_SC_OPEN_MAX) failed", [cause error]⟩]
  | .close fd (.error error) => ofClose fd error handle
  | .closeRange _ (.ok _) | .snapshot _ (.ok _) | .limit (.ok _) | .close _ (.ok _)
  | .offersRange _ | .offersDir _ _ => []

def handleAfter (handle : Option Int) : Call → Option Int
  | .snapshot _ (.ok shown) => some shown.handle
  | _ => handle

def ofCalls (low : Int) : Option Int → List Call → List Notice
  | _, [] => []
  | handle, call :: rest => ofCall low handle call ++ ofCalls low (handleAfter handle call) rest

def success (low : Int) (closed : Nat) (dir : Option ListingDir) : Tier → Notice
  | .rangeCall => ⟨.debug, "closed descriptors with close_range", [threshold low]⟩
  | .listing =>
      ⟨.debug, "closed descriptors from listing",
        [threshold low, count closed] ++ dir.toList.map directory⟩
  | .bruteForce =>
      ⟨.debug, "closed descriptors by brute force", [threshold low, count closed]⟩

end Notice

namespace Recorded

variable {σ : Type}

def notices (recorded : Recorded σ) : List Notice := recorded.events.toList.map Event.notice

def successes (calls : List Call) : Nat :=
  (calls.filterMap Call.closing?).countP fun close => close.2.isOk

theorem successes_ok (fd : Int) (done : Unit) (calls : List Call) :
    successes (.close fd (.ok done) :: calls) = 1 + successes calls := by
  change List.countP _ ((fd, .ok done) :: calls.filterMap Call.closing?) = _
  rw [List.countP_cons_of_pos rfl, Nat.add_comm]
  rfl

theorem successes_other (call : Call) (other : call.closing? = none) (calls : List Call) :
    successes (call :: calls) = successes calls := by
  rw [successes, List.filterMap_cons_none other]
  rfl

structure Adds (before after : Recorded σ) (calls : List Call) (notices : List Notice) : Prop where
  calls : after.calls.toList = before.calls.toList ++ calls
  notices : after.notices = before.notices ++ notices

theorem Adds.trans {first second third : Recorded σ} {calls more : List Call}
    {notices others : List Notice} (left : first.Adds second calls notices)
    (right : second.Adds third more others) :
    first.Adds third (calls ++ more) (notices ++ others) where
  calls := by rw [right.calls, left.calls, List.append_assoc]
  notices := by rw [right.notices, left.notices, List.append_assoc]

theorem adds_nothing (recorded : Recorded σ) : recorded.Adds recorded [] [] where
  calls := (List.append_nil _).symm
  notices := (List.append_nil _).symm

theorem adds_call (recorded : Recorded σ) (call : Call) (state : σ) :
    recorded.Adds (recorded.noteCall call state) [call] [] where
  calls := Array.toList_push
  notices := (List.append_nil _).symm

/-- A run from a record on tells of its calls, and then of its success. -/
def Told (low : Int) (handle : Option Int) (dir : Option ListingDir) (before : Recorded σ)
    (outcome : Tier × Recorded σ) : Prop :=
  ∃ calls, before.Adds outcome.2 calls
    (Notice.ofCalls low handle calls ++ [Notice.success low (successes calls) dir outcome.1])

/-- A call that closes nothing by itself may come before. -/
theorem Told.after {low : Int} {handle : Option Int} {dir : Option ListingDir}
    {before between : Recorded σ} {outcome : Tier × Recorded σ} {call : Call}
    (adds : before.Adds between [call] (Notice.ofCall low handle call))
    (other : call.closing? = none)
    (told : Told low (Notice.handleAfter handle call) dir between outcome) :
    Told low handle dir before outcome := by
  obtain ⟨calls, later⟩ := told
  refine ⟨call :: calls, ?_⟩
  rw [successes_other call other, Notice.ofCalls, List.append_assoc]
  exact adds.trans later

variable [Kernel σ]

section Calls

variable (recorded : Recorded σ)

theorem close_eq (fd : Int) :
    Kernel.close fd recorded = ((Kernel.close fd recorded.state).1,
      recorded.noteCall (.close fd (Kernel.close fd recorded.state).1)
        (Kernel.close fd recorded.state).2) := rfl

theorem close_range_eq (low : Int) :
    Kernel.closeRange low recorded = ((Kernel.closeRange low recorded.state).1,
      recorded.noteCall (.closeRange low (Kernel.closeRange low recorded.state).1)
        (Kernel.closeRange low recorded.state).2) := rfl

theorem snapshot_eq (dir : ListingDir) :
    Kernel.snapshot dir recorded = ((Kernel.snapshot dir recorded.state).1,
      recorded.noteCall (.snapshot dir (Kernel.snapshot dir recorded.state).1)
        (Kernel.snapshot dir recorded.state).2) := rfl

theorem limit_eq :
    Kernel.limit recorded = ((Kernel.limit recorded.state).1,
      recorded.noteCall (.limit (Kernel.limit recorded.state).1)
        (Kernel.limit recorded.state).2) := rfl

end Calls

theorem adds_event (recorded : Recorded σ) (event : Event) :
    recorded.Adds (Kernel.emit event recorded) [] [event.notice] where
  calls := (List.append_nil _).symm
  notices := by simp [Recorded.notices, Kernel.emit]

-- What a sweep notes of a failure is what is to be told of it, for one handle all the way.
theorem sweep_told (low : Int) (handle : Option Int) (note : Int → Errno → Option Event)
    (tells : ∀ fd error,
      (note fd error).toList.map Event.notice = Notice.ofClose fd error handle)
    (fds : List Int) (closed : Nat) (recorded : Recorded σ) :
    ∃ calls, recorded.Adds (sweep note fds closed recorded).2 calls
        (Notice.ofCalls low handle calls) ∧
      (sweep note fds closed recorded).1 = closed + successes calls := by
  induction fds generalizing closed recorded with
  | nil => exact ⟨[], recorded.adds_nothing, rfl⟩
  | cons fd rest ih =>
      have call := recorded.close_eq fd
      generalize (Kernel.close fd recorded.state).1 = answer,
        (Kernel.close fd recorded.state).2 = state at call
      let made := recorded.noteCall (.close fd answer) state
      have noted := recorded.adds_call (.close fd answer) state
      rw [sweep, call]
      cases answer with
      | ok done =>
          obtain ⟨calls, adds, counted⟩ := ih (closed + 1) made
          refine ⟨.close fd (.ok done) :: calls, noted.trans adds, ?_⟩
          rw [counted, successes_ok, Nat.add_assoc]
      | error error =>
          have told := tells fd error
          dsimp only
          cases noting : note fd error with
          | none =>
              obtain ⟨calls, adds, counted⟩ := ih closed made
              rw [noting] at told
              refine ⟨.close fd (.error error) :: calls, ?_, counted⟩
              rw [Notice.ofCalls, Notice.ofCall, ← told]
              exact noted.trans adds
          | some event =>
              obtain ⟨calls, adds, counted⟩ := ih closed (Kernel.emit event made)
              rw [noting] at told
              refine ⟨.close fd (.error error) :: calls, ?_, counted⟩
              rw [Notice.ofCalls, Notice.ofCall, ← told]
              exact (noted.trans (made.adds_event event)).trans adds

theorem Told.of_sweep {low : Int} {handle : Option Int} {dir : Option ListingDir}
    {note : Int → Errno → Option Event} {tier : Tier} {done : Nat → Event}
    (tells : ∀ fd error,
      (note fd error).toList.map Event.notice = Notice.ofClose fd error handle)
    (ends : ∀ closed, (done closed).notice = Notice.success low closed dir tier)
    (fds : List Int) (recorded : Recorded σ) :
    Told low handle dir recorded (tier, Kernel.emit (done (sweep note fds 0 recorded).1)
      (sweep note fds 0 recorded).2) := by
  obtain ⟨calls, adds, counted⟩ := sweep_told low handle note tells fds 0 recorded
  refine ⟨calls, ?_⟩
  rw [Nat.zero_add] at counted
  have last := (sweep note fds 0 recorded).2.adds_event (done (sweep note fds 0 recorded).1)
  rw [ends, counted] at last
  have whole := adds.trans last
  rw [List.append_nil] at whole
  rw [counted]
  exact whole

theorem reap_numbers_told (low : Int) (dir : Option ListingDir) (recorded : Recorded σ) :
    Told low none dir recorded (Capabilities.reapNumbers low recorded) := by
  have call := recorded.limit_eq
  generalize (Kernel.limit recorded.state).1 = answer,
    (Kernel.limit recorded.state).2 = state at call
  let asked := recorded.noteCall (.limit answer) state
  have noted := recorded.adds_call (.limit answer) state
  have ends (closed : Nat) : (Event.bruteForced low closed).notice =
      Notice.success low closed dir .bruteForce := rfl
  have silent (fd : Int) (error : Errno) :
      (none : Option Event).toList.map Event.notice = Notice.ofClose fd error none := rfl
  have swept (ready : Recorded σ) :=
    Told.of_sweep silent ends (interval low (bound answer)) ready
  rw [Capabilities.reapNumbers, sweepNumbers, call]
  cases answer with
  | ok limit => exact Told.after noted rfl (swept asked)
  | error error =>
      exact Told.after (noted.trans (asked.adds_event (.limitUnknown error))) rfl (swept _)

theorem reap_listing_told (caps : Capabilities) (low : Int) (recorded : Recorded σ) :
    Told low none caps.listingDir recorded (caps.reapListing low recorded) := by
  rw [Capabilities.reapListing]
  cases caps.listingDir with
  | none => exact reap_numbers_told low none recorded
  | some dir =>
      have call := recorded.snapshot_eq dir
      generalize (Kernel.snapshot dir recorded.state).1 = answer,
        (Kernel.snapshot dir recorded.state).2 = state at call
      let asked := recorded.noteCall (.snapshot dir answer) state
      have noted := recorded.adds_call (.snapshot dir answer) state
      simp only [sweepListing, call]
      cases answer with
      | ok shown =>
          have tells : ∀ fd error, (listingNote shown.handle fd error).toList.map Event.notice =
              Notice.ofClose fd error (some shown.handle) := by
            intro fd error
            cases error <;> rfl
          have ends (closed : Nat) : (Event.listingClosed low closed dir).notice =
              Notice.success low closed (some dir) .listing := rfl
          exact Told.after noted rfl (Told.of_sweep tells ends (shown.candidates low) asked)
      | error error =>
          exact Told.after (noted.trans (asked.adds_event (.listingFailed low error dir))) rfl
            (reap_numbers_told low (some dir) _)

theorem reap_range_told (caps : Capabilities) (low : Int) (recorded : Recorded σ) :
    Told low none caps.listingDir recorded (caps.reapRange low recorded) := by
  rw [Capabilities.reapRange]
  by_cases ranged : caps.rangeCall = true
  · have call := recorded.close_range_eq low
    generalize (Kernel.closeRange low recorded.state).1 = answer,
      (Kernel.closeRange low recorded.state).2 = state at call
    let called := recorded.noteCall (.closeRange low answer) state
    have noted := recorded.adds_call (.closeRange low answer) state
    rw [if_pos ranged, call]
    cases answer with
    | ok done => exact ⟨[.closeRange low (.ok done)], noted.trans (called.adds_event _)⟩
    | error error =>
        exact Told.after (noted.trans (called.adds_event (.rangeFailed low error))) rfl
          (reap_listing_told caps low _)
  · rw [if_neg ranged]
    exact reap_listing_told caps low recorded

/-- On any kernel, a run tells of its calls, and of nothing else but a negative threshold. -/
theorem reap_told (caps : Capabilities) (lowfd : Int) (recorded : Recorded σ) :
    ∃ calls, recorded.Adds (caps.reap lowfd recorded).2 calls
      (Notice.warning lowfd ++ Notice.ofCalls (max lowfd 0) none calls ++
        [Notice.success (max lowfd 0) (successes calls) caps.listingDir
          (caps.reap lowfd recorded).1]) := by
  have warns : recorded.Adds (Capabilities.warned lowfd recorded) [] (Notice.warning lowfd) := by
    rw [Notice.warning]
    refine Capabilities.warned_cases (fun ready => recorded.Adds ready [] _) (fun negative => ?_)
      fun otherwise => ?_
    · rw [if_pos negative]
      exact recorded.adds_event (.negativeThreshold lowfd)
    · rw [if_neg otherwise]
      exact recorded.adds_nothing
  rw [Capabilities.reap_clamped]
  obtain ⟨calls, adds⟩ := reap_range_told caps (max lowfd 0) (Capabilities.warned lowfd recorded)
  refine ⟨calls, ?_⟩
  rw [List.append_assoc]
  exact warns.trans adds

end Recorded

theorem Table.length_erase (table : Table) (fd : Int) (present : fd ∈ table) :
    table.fds.length = (table.erase fd).fds.length + 1 := by
  have once : table.fds.Nodup := table.ascending.imp fun before => Int.ne_of_lt before
  have left : (table.erase fd).fds = table.fds.erase fd := by
    rw [once.erase_eq_filter]
    exact List.filter_congr fun other _ => by
      rw [Bool.eq_iff_iff]
      simp
  have some : 0 < table.fds.length := List.length_pos_of_mem present
  rw [left, List.length_erase_of_mem present]
  omega

namespace World

/-- Of closes that are made one after the other from a world on, the number of those that fail and
release an open descriptor all the same. -/
def releasedInError (closes : List (Int × Except Errno Unit)) (world : World) : Nat :=
  (meeting true closes world).countP fun close => !close.2.isOk && world.releases close.1

theorem length_after_lone_close {world : World} (lone : world.Lone) (fd : Int) :
    world.table.fds.length = (world.afterClose fd).table.fds.length +
      if fd ∈ world.table ∧ world.releases fd = true then 1 else 0 := by
  by_cases gone : fd ∈ world.table ∧ world.releases fd = true
  · have left : (world.afterClose fd).table = world.table.erase fd := by
      refine Table.ext fun member => ?_
      rw [mem_after_close, lone fd, gone.2]
      simp
    rw [if_pos gone, left]
    exact world.table.length_erase fd gone.1
  · have left : (world.afterClose fd).table = world.table := by
      refine Table.ext fun member => ?_
      rw [mem_after_close, lone fd]
      simp only [List.not_mem_nil, not_false_eq_true, and_true, and_iff_left_iff_imp]
      intro present same
      rw [same] at present
      rw [Bool.eq_false_iff]
      exact fun released => gone ⟨present, released⟩
    rw [if_neg gone, left, Nat.add_zero]

theorem released_of_ok (world : World) (fd : Int) (succeeds : (world.closeAnswer fd).isOk = true) :
    fd ∈ world.table ∧ world.releases fd = true := by
  rw [closeAnswer] at succeeds
  by_cases present : fd ∈ world.table
  · rw [if_pos present] at succeeds
    rw [releases]
    cases fault : world.closeFault? fd with
    | none => exact ⟨present, rfl⟩
    | some fault =>
        rw [fault] at succeeds
        cases succeeds
  · rw [if_neg present] at succeeds
    cases succeeds

-- A close that releases its descriptor succeeds, or is one that fails all the same.
theorem length_after_sweep {world : World} (lone : world.Lone) (fds : List Int) :
    world.table.fds.length = (world.afterSweep fds).table.fds.length + world.closedBy fds +
      releasedInError (answers fds world) world := by
  induction fds generalizing world with
  | nil =>
      rw [after_sweep_nil]
      rfl
  | cons fd rest ih =>
      have loneLater : (world.afterClose fd).Lone := lone
      have script : (world.afterClose fd).releases = world.releases := rfl
      have first := length_after_lone_close lone fd
      have later := ih loneLater
      rw [after_sweep_cons, closedBy, releasedInError, script] at later
      rw [closedBy, releasedInError, answers, meeting, List.countP_cons]
      dsimp only
      by_cases succeeds : (world.closeAnswer fd).isOk = true
      · obtain ⟨present, released⟩ := world.released_of_ok fd succeeds
        rw [if_pos ⟨present, released⟩] at first
        rw [if_pos succeeds, if_pos (decide_eq_true present),
          List.countP_cons_of_neg (by simp [succeeds])]
        omega
      · have failed : (world.closeAnswer fd).isOk = false := Bool.eq_false_iff.mpr succeeds
        rw [if_neg succeeds]
        by_cases present : fd ∈ world.table
        · rw [if_pos (decide_eq_true present), List.countP_cons]
          simp only [present, failed, Bool.not_false, Bool.true_and, true_and] at first ⊢
          omega
        · have absent : ¬ (fd ∈ world.table ∧ world.releases fd = true) := fun both =>
            present both.1
          rw [if_neg absent] at first
          rw [if_neg (by simp [present])]
          omega

end World

/-- What a run tells is settled by its calls and their answers. In order these are the warning of a
negative threshold, each failure with its cause, and the tier that has done the work, with the
number of closes that have succeeded. As long as no close takes other descriptors along, what the
sweep has removed are these, and those that a failing close has released. -/
theorem events_tell_run (world : World) (caps : Capabilities) (lowfd : Int) :
    let low := max lowfd 0
    let run := caps.reap lowfd (Recorded.start world)
    let closed := run.2.closes.countP fun close => close.2.isOk
    let swept := world.afterRange caps low
    run.2.notices = Notice.warning lowfd ++ Notice.ofCalls low none run.2.calls.toList ++
        [Notice.success low closed caps.listingDir run.1] ∧
      (world.Lone → swept.table.fds.length =
        run.2.state.table.fds.length + closed + World.releasedInError run.2.closes swept) := by
  intro low run closed swept
  constructor
  · obtain ⟨calls, adds⟩ := Recorded.reap_told caps lowfd (Recorded.start world)
    have made : run.2.calls.toList = calls := adds.calls
    have counted : closed = Recorded.successes calls := congrArg Recorded.successes made
    rw [made, counted]
    exact adds.notices
  · intro lone
    have outcome := World.reap_swept caps lowfd (Recorded.start world)
    have closes : run.2.closes = World.answers (world.attempts caps lowfd) swept := outcome.records
    have left : run.2.state = swept.afterSweep (world.attempts caps lowfd) := outcome.leaves
    have loneSwept : swept.Lone := lone
    have counted : closed = swept.closedBy (world.attempts caps lowfd) := by
      rw [World.closedBy, ← closes]
    rw [left, counted, closes]
    exact World.length_after_sweep loneSwept _

def World.worn : World where
  table := .ofList [0, 1, 2, 4, 5, 7, 9]
  rangeFault := some ⟨.eintr, some 6⟩
  listing := .fixed ⟨3, [⟨[53], none⟩, ⟨[48], none⟩, ⟨[51], some .symlink⟩, ⟨[52], none⟩]⟩
  closeFaults := [⟨5, .eintr, false⟩, ⟨4, .eio, true⟩]

theorem worn_events_tell_run :
    World.worn.Lone ∧
      ((Capabilities.mk true (some .devFd)).reap (-3) (Recorded.start World.worn)).2.notices =
        [⟨.warn, "negative lowfd; closing from 0 instead", [("lowfd", .number (-3))]⟩,
          ⟨.debug, "close_range failed",
            [("lowfd", .number 0), ("error", .text "EINTR: Interrupted system call")]⟩,
          ⟨.trace, "already closed", [("fd", .number 3), ("handle", .truth true)]⟩,
          ⟨.trace, "close failed", [("fd", .number 4), ("error", .text "EIO: I/O error")]⟩,
          ⟨.trace, "close failed",
            [("fd", .number 5), ("error", .text "EINTR: Interrupted system call")]⟩,
          ⟨.debug, "closed descriptors from listing",
            [("lowfd", .number 0), ("closed", .number 1), ("dir", .text "\"/dev/fd\"")]⟩] ∧
      (World.worn.afterRange ⟨true, some .devFd⟩ 0).table.fds.length = 3 + 1 + 1 := by
  have lone : World.worn.Lone := fun _ => rfl
  obtain ⟨told, counted⟩ := events_tell_run World.worn ⟨true, some .devFd⟩ (-3)
  exact ⟨lone, told.trans (by decide), (counted lone).trans (by decide)⟩

end DescriptorReaper
