import DescriptorReaper.Proofs.CallOrder

/-!
The two readers of a snapshot. Listing the open descriptors and sweeping over a snapshot go through
the same entries, so what a sweep tries, apart from the handle, is what would be listed from its
threshold up. If the snapshot is one of the table, what is listed is the table.
-/

namespace DescriptorReaper

theorem Snapshot.candidates_listed (snapshot : Snapshot) {low : Int} (nonneg : 0 ≤ low) :
    (snapshot.candidates low).filter (· ≠ snapshot.handle) =
      snapshot.descriptors.filter (low ≤ ·) := by
  rw [Snapshot.descriptors, ← snapshot.candidates_from 0 nonneg, List.filter_filter,
    List.filter_filter]
  exact List.filter_congr fun fd _ => Bool.and_comm _ _

namespace World

theorem open_descriptors_shown (world : World) (dir : ListingDir) {shown : Snapshot}
    (taken : world.snapshot = .ok shown) :
    openDescriptors dir world = (.ok shown.descriptors, world) := by
  have call : Kernel.snapshot dir world = (world.snapshot, world) := rfl
  rw [openDescriptors, call, taken]

theorem open_descriptors_unread (world : World) (dir : ListingDir) {error : Errno}
    (failed : world.snapshot = .error error) :
    openDescriptors dir world = (.error error, world) := by
  have call : Kernel.snapshot dir world = (world.snapshot, world) := rfl
  rw [openDescriptors, call, failed]

-- No other call of a trace takes a snapshot, and one that succeeds is the last before the closes.
theorem snapshot_in_trace (world : World) (caps : Capabilities) (low : Int) {dir : ListingDir}
    {shown : Snapshot} (asked : Call.snapshot dir (.ok shown) ∈ world.trace caps low) :
    world.tier caps = .listing ∧ (world.afterRange caps low).snapshot = .ok shown := by
  rw [trace] at asked
  rcases List.mem_append.mp asked with asked | closing
  · rcases List.mem_append.mp asked with asked | limit
    · rcases List.mem_append.mp asked with ranged | asked
      · split at ranged <;> simp at ranged
      · split at asked
        next => cases asked
        next unranged =>
          obtain ⟨offered, listed, same⟩ := List.mem_map.mp asked
          obtain ⟨rfl, taken⟩ := Call.snapshot.inj same
          refine ⟨(world.tier_eq_listing caps low).mpr ⟨unranged, ?_, shown, taken⟩, taken⟩
          exact Option.isSome_of_mem (Option.mem_toList.mp listed)
    · split at limit <;> simp at limit
  · obtain ⟨close, -, same⟩ := List.mem_map.mp closing
    cases same

end World

/-- A snapshot of the table lists the open descriptors, ascending and without the handle, and no
listing changes anything; one fails only where the snapshot does, and like it. A run that takes a
snapshot tries what any listing of this snapshot would show from the threshold up, and besides it at
most the handle. -/
theorem open_descriptors_match_sweep (world : World) (dir : ListingDir) :
    (∀ kind shown, world.snapshot = .ok shown → shown.Shows world.table kind →
      kind ∈ EntryKind.naming → (∀ fd ∈ world.table, 0 ≤ fd ∧ fd ≤ maxDescriptor) →
      ∃ fds, openDescriptors dir world = (.ok fds, world) ∧ Ascending fds ∧
        shown.handle ∉ fds ∧ ∀ fd, fd ∈ fds ↔ fd ∈ world.table) ∧
    (∀ error, (openDescriptors dir world).1 = .error error ↔
      (Kernel.snapshot dir world).1 = .error error) ∧
    ∀ (caps : Capabilities) (lowfd : Int),
      let low := max lowfd 0
      let run := caps.reap lowfd (Recorded.start world)
      let attempts := run.2.closes.map Prod.fst
      (run.1 = .listing →
        ∃ read shown, Call.snapshot read (.ok shown) ∈ run.2.calls.toList) ∧
      ∀ read shown, Call.snapshot read (.ok shown) ∈ run.2.calls.toList →
        run.1 = .listing ∧
          ∀ other : World, other.snapshot = .ok shown →
            ∃ fds, openDescriptors dir other = (.ok fds, other) ∧
              attempts.filter (· ≠ shown.handle) = fds.filter (low ≤ ·) := by
  refine ⟨fun kind shown taken shows naming numbers => ?_, fun error => ?_, fun caps lowfd => ?_⟩
  · refine ⟨world.table.fds, ?_, world.table.ascending, ?_, fun fd => Iff.rfl⟩
    · rw [world.open_descriptors_shown dir taken, shows.descriptors naming numbers]
    · rw [shows.handle]
      exact world.table.lowestFree_not_mem
  · change _ ↔ world.snapshot = .error error
    cases taken : world.snapshot with
    | ok shown =>
        rw [world.open_descriptors_shown dir taken]
        simp
    | error other =>
        rw [world.open_descriptors_unread dir taken]
        simp
  · intro low run attempts
    have ended : run.1 = world.tier caps := World.reap_ends caps lowfd world
    have calls : run.2.calls.toList = world.trace caps low :=
      World.reap_calls caps lowfd (Recorded.start world)
    rw [ended, calls]
    refine ⟨fun listed => ?_, fun read shown asked => ?_⟩
    · obtain ⟨unranged, offered, shown, taken⟩ := (world.tier_eq_listing caps low).mp listed
      obtain ⟨read, offered⟩ := Option.isSome_iff_exists.mp offered
      refine ⟨read, shown, ?_⟩
      rw [World.trace, if_neg unranged, offered, ← taken]
      simp
    · obtain ⟨listed, taken⟩ := world.snapshot_in_trace caps low asked
      refine ⟨listed, fun other same => ⟨_, other.open_descriptors_shown dir same, ?_⟩⟩
      have tried : attempts = shown.candidates low := by
        refine (World.reap_attempts caps lowfd world).trans ?_
        rw [World.attempts, listed, World.visited, taken]
      rw [tried]
      exact shown.candidates_listed (Int.le_max_right lowfd 0)

def Snapshot.shuffled : Snapshot :=
  ⟨2, ["10", "..", "0", "2", "6", ".", "3", "1"].map fun name => ⟨Utf8.encode name, none⟩⟩

def World.shuffled : World where
  table := .ofList [0, 1, 3, 6, 10]
  rangeFault := some ⟨.eintr, some 20⟩
  listing := .fixed .shuffled

theorem shuffled_lists_open :
    let run := (Capabilities.mk true (some .procSelfFd)).reap 2 (Recorded.start World.shuffled)
    Snapshot.shuffled.Shows World.shuffled.table none ∧ none ∈ EntryKind.naming ∧
      (∀ fd ∈ World.shuffled.table, 0 ≤ fd ∧ fd ≤ maxDescriptor) ∧
      Call.snapshot .procSelfFd (.ok .shuffled) ∈ run.2.calls.toList ∧
      ∃ fds, openDescriptors .devFd World.shuffled = (.ok fds, World.shuffled) ∧
        fds = [0, 1, 3, 6, 10] ∧
        (run.2.closes.map Prod.fst).filter (· ≠ 2) = fds.filter (2 ≤ ·) := by
  intro run
  have entries : (Snapshot.ofTable World.shuffled.table none false).entries =
      [".", "..", "0", "1", "2", "3", "6", "10"].map fun name => ⟨Utf8.encode name, none⟩ := by
    cbv
  have shows : Snapshot.shuffled.Shows World.shuffled.table none := by
    refine ⟨by decide, ?_⟩
    rw [entries]
    decide
  have numbers : ∀ fd ∈ World.shuffled.table, 0 ≤ fd ∧ fd ≤ maxDescriptor := by
    change ∀ fd ∈ [0, 1, 3, 6, 10], _
    decide
  have asked : Call.snapshot .procSelfFd (.ok .shuffled) ∈ run.2.calls.toList :=
    List.mem_of_getElem? (i := 1) rfl
  obtain ⟨lists, -, sweeps⟩ := open_descriptors_match_sweep World.shuffled .devFd
  obtain ⟨fds, listed, ascending, -, member⟩ := lists none _ rfl shows (by decide) numbers
  obtain ⟨-, agrees⟩ := sweeps ⟨true, some .procSelfFd⟩ 2
  obtain ⟨others, listedToo, same⟩ := (agrees _ _ asked).2 World.shuffled rfl
  have one : fds = others := Except.ok.inj (congrArg Prod.fst (listed.symm.trans listedToo))
  refine ⟨shows, by decide, numbers, asked, fds, listed, ?_, one ▸ same⟩
  exact Ascending.eq_of_mem_iff ascending (by decide) fun fd => (member fd).trans Table.mem_ofList

end DescriptorReaper
