import TrapKernel.Proofs.Process.Verify

/-!
# What is shown of a registry

A registry is looked at in two ways: along the links of its queues, and through the slots of its
table. In a sound registry both see the same processes, every one of them once, and the numbers that
the queues and the table keep are the numbers of the processes that are shown.
-/

namespace TrapKernel

/-- What is shown of a process with this handle. -/
def Process.shownAs (id : ProcessId) (p : Process) : ProcessInfo :=
  ⟨id, p.name, p.owner, p.state, p.priority⟩

namespace Registry

open ProcessTable

variable {r : Registry} {order : Order} {i : Nat} {k : QueueKind} {info : ProcessInfo}
  {name : String} {l : List Nat} {state : ProcessState} {who : List ProcessId}

/-! ### The queue of a process -/

theorem info_eq_some : r.info i = some info ↔
    ∃ p, r.table.process? i = some p ∧ p.shownAs (r.table.idAt i) = info :=
  Option.map_eq_some_iff

theorem show_eq_some (hr : r.table.Roster) : r.show name = some info ↔
    ∃ i, r.info i = some info ∧ info.name = name := by
  rw [Registry.show, Option.bind_eq_some_iff]
  constructor
  · rintro ⟨i, position, shown⟩
    obtain ⟨p, process, named⟩ := position_eq_some position
    refine ⟨i, shown, ?_⟩
    obtain ⟨p', process', rfl⟩ := info_eq_some.mp shown
    obtain rfl := Option.some.inj (process.symm.trans process')
    exact named
  · rintro ⟨i, shown, named⟩
    obtain ⟨p, process, rfl⟩ := info_eq_some.mp shown
    exact ⟨i, hr.position_eq_some.mpr ⟨p, process, named⟩, shown⟩

/-- A scan of a queue meets a process that is in its state. -/
theorem Sound.any_members (hs : r.Sound order) (name : String) (k : QueueKind) :
    ((r.members k).any fun i => (r.table.process? i).any (·.name = name)) =
      (r.show name).any (·.state = k.state) := by
  rw [Bool.eq_iff_iff, List.any_eq_true, Option.any_eq_true, hs.toQueued.members k]
  constructor
  · rintro ⟨i, member, named⟩
    obtain ⟨p, process, named⟩ := (Option.any_eq_true _ _).mp named
    obtain ⟨p', process', inK⟩ := stateAt_eq_some.mp (hs.mem_iff.mp member)
    obtain rfl := Option.some.inj (process.symm.trans process')
    refine ⟨p.shownAs (r.table.idAt i), ?_, decide_eq_true inK⟩
    exact (show_eq_some hs.roster).mpr
      ⟨i, info_eq_some.mpr ⟨p, process, rfl⟩, of_decide_eq_true named⟩
  · rintro ⟨info, shown, inK⟩
    obtain ⟨i, shown, named⟩ := (show_eq_some hs.roster).mp shown
    obtain ⟨p, process, rfl⟩ := info_eq_some.mp shown
    refine ⟨i, hs.mem_iff.mpr (stateAt_eq_some.mpr ⟨p, process, of_decide_eq_true inK⟩), ?_⟩
    rw [process]
    exact decide_eq_true named

/-- A process is found in the queue of the state in which it is shown. -/
theorem Sound.find_eq (hs : r.Sound order) (name : String) :
    r.find name = (r.show name).bind fun info => QueueKind.ofState info.state := by
  rw [Registry.find]
  simp only [hs.any_members name]
  cases r.show name with
  | none => rfl
  | some info =>
    simp only [Option.any_some, Option.bind_some]
    cases info.state <;> rfl

/-! ### Lists of processes -/

theorem isSome_info : (r.info i).isSome ↔ r.table.Live i := by
  rw [Registry.info, Option.isSome_map, ProcessTable.Live]

theorem state_of_info (shown : r.info i = some info) : r.stateAt i = some info.state := by
  obtain ⟨p, process, rfl⟩ := info_eq_some.mp shown
  exact stateAt_eq_some.mpr ⟨p, process, rfl⟩

/-- Of every slot that is in use there is something to show. -/
theorem map_id_infos (live : ∀ i ∈ l, r.table.Live i) :
    (l.filterMap r.info).map (·.id) = l.map r.table.idAt := by
  rw [List.map_filterMap, List.filterMap_congr (g := fun i => some (r.table.idAt i)),
    List.filterMap_eq_map']
  intro i hi
  obtain ⟨p, process⟩ := live_iff.mp (live i hi)
  rw [info_eq_some.mpr ⟨p, process, rfl⟩]
  rfl

/-- The processes in a state are counted by their slots. -/
theorem countP_infos (l : List Nat) (state : ProcessState) :
    (l.filterMap r.info).countP (·.state = state) = l.countP (r.stateAt · = some state) := by
  rw [List.countP_filterMap]
  refine List.countP_congr fun i _ => ?_
  cases shown : r.info i with
  | none =>
    have dead := isSome_info.not.mp (Option.not_isSome_iff_eq_none.mpr shown)
    simp only [Option.map_none, Option.getD_none, decide_eq_true_eq, Bool.false_eq_true, false_iff]
    exact fun inState => dead (live_of_stateAt inState)
  | some info => simp [state_of_info shown]

/-- The slots of all processes that are shown. -/
def shownSlots (r : Registry) : List Nat :=
  r.runningSlots ++ QueueKind.searchOrder.flatMap r.members

theorem showAll_eq (r : Registry) : r.showAll = r.shownSlots.filterMap r.info :=
  List.filterMap_append.symm

theorem mem_runningSlots : i ∈ r.runningSlots ↔ r.stateAt i = some .running := mem_slotsIn

namespace Sound

theorem mem_queues (hs : r.Sound order) : i ∈ QueueKind.searchOrder.flatMap r.members ↔
    ∃ k : QueueKind, r.stateAt i = some k.state := by
  rw [List.mem_flatMap]
  constructor
  · rintro ⟨k, -, member⟩
    exact ⟨k, hs.mem_iff.mp (hs.toQueued.members k ▸ member)⟩
  · rintro ⟨k, inK⟩
    refine ⟨k, by cases k <;> decide, ?_⟩
    rw [hs.toQueued.members k]
    exact hs.mem_iff.mpr inK

/-- Every slot in use is shown. -/
theorem mem_shownSlots (hs : r.Sound order) : i ∈ r.shownSlots ↔ r.table.Live i := by
  rw [shownSlots, List.mem_append, mem_runningSlots, hs.mem_queues]
  constructor
  · rintro (running | ⟨k, inK⟩)
    · exact live_of_stateAt running
    · exact live_of_stateAt inK
  · intro live
    obtain ⟨p, process⟩ := live_iff.mp live
    have atI : r.stateAt i = some p.state := stateAt_eq_some.mpr ⟨p, process, rfl⟩
    cases kind : QueueKind.ofState p.state with
    | none =>
      have running : p.state = .running := by
        cases state : p.state <;> rw [state] at kind <;> first | rfl | cases kind
      exact Or.inl (running ▸ atI)
    | some k => exact Or.inr ⟨k, QueueKind.ofState_eq_some.mp kind ▸ atI⟩

/-- None is shown twice. -/
theorem nodup_shownSlots (hs : r.Sound order) : r.shownSlots.Nodup := by
  have apart : QueueKind.searchOrder.Pairwise fun k k' => (r.members k).Disjoint (r.members k') := by
    have distinct : QueueKind.searchOrder.Nodup := by decide
    refine distinct.imp fun {k k'} ne i hi hi' => ne ?_
    rw [hs.toQueued.members] at hi hi'
    exact hs.toQueued.eq_of_mem hi hi'
  have queues : (QueueKind.searchOrder.flatMap r.members).Nodup := by
    refine List.nodup_flatMap.mpr ⟨fun k _ => ?_, apart⟩
    rw [hs.toQueued.members]
    exact (hs.threads k).nodup
  refine List.nodup_append.mpr ⟨nodup_slotsIn r .running, queues, ?_⟩
  rintro i running _ queued rfl
  obtain ⟨k, inK⟩ := hs.mem_queues.mp queued
  rw [mem_runningSlots.mp running, Option.some.injEq] at inK
  cases k <;> cases inK

theorem live_shownSlots (hs : r.Sound order) : ∀ i ∈ r.shownSlots, r.table.Live i := fun _ hi =>
  hs.mem_shownSlots.mp hi

theorem mem_showAll (hs : r.Sound order) : info ∈ r.showAll ↔ ∃ i, r.info i = some info := by
  rw [showAll_eq, List.mem_filterMap]
  constructor
  · rintro ⟨i, -, shown⟩
    exact ⟨i, shown⟩
  · rintro ⟨i, shown⟩
    refine ⟨i, hs.mem_shownSlots.mpr (isSome_info.mp ?_), shown⟩
    rw [shown]
    rfl

theorem length_showAll (hs : r.Sound order) : r.showAll.length = r.count := by
  have slots : r.shownSlots.Perm (r.table.entries.map (·.1)) := by
    refine (List.perm_ext_iff_of_nodup hs.nodup_shownSlots nodup_entries).mpr fun i => ?_
    rw [hs.mem_shownSlots, map_fst_entries, List.mem_filter, List.mem_range, ProcessTable.Live]
    exact ⟨fun live => ⟨Live.lt live, live⟩, And.right⟩
  have shown := congrArg List.length (map_id_infos hs.live_shownSlots)
  rw [List.length_map, List.length_map, ← showAll_eq] at shown
  rw [shown, slots.length_eq, List.length_map, length_entries, Registry.count,
    hs.wellformed.count]

/-- A queue counts the processes that are shown in its state. -/
theorem countP_showAll (hs : r.Sound order) (k : QueueKind) :
    r.showAll.countP (·.state = k.state) = (r.queue k).count := by
  have members : (r.shownSlots.filter (r.stateAt · = some k.state)).Perm (order k) := by
    refine (List.perm_ext_iff_of_nodup (hs.nodup_shownSlots.filter _)
      (hs.threads k).nodup).mpr fun i => ?_
    rw [List.mem_filter, decide_eq_true_eq, hs.mem_iff, hs.mem_shownSlots]
    exact and_iff_right_of_imp live_of_stateAt
  rw [showAll_eq, countP_infos, List.countP_eq_length_filter, members.length_eq,
    (hs.threads k).count]

theorem running_infos : ∀ info ∈ r.runningSlots.filterMap r.info, info.state = .running := by
  intro info member
  obtain ⟨i, running, shown⟩ := List.mem_filterMap.mp member
  exact Option.some.inj ((state_of_info shown).symm.trans (mem_runningSlots.mp running))

theorem queued_infos (hs : r.Sound order) :
    ∀ info ∈ r.snapshot QueueKind.searchOrder, info.state ≠ .running := by
  intro info member running
  obtain ⟨i, queued, shown⟩ := List.mem_filterMap.mp member
  obtain ⟨k, inK⟩ := hs.mem_queues.mp queued
  rw [state_of_info shown, running, Option.some.injEq] at inK
  cases k <;> cases inK

theorem filter_running (hs : r.Sound order) :
    r.showAll.filter (·.state = .running) = r.runningSlots.filterMap r.info := by
  have all : (r.runningSlots.filterMap r.info).filter (·.state = .running) =
      r.runningSlots.filterMap r.info :=
    List.filter_eq_self.mpr fun info member => decide_eq_true (running_infos info member)
  have none : (r.snapshot QueueKind.searchOrder).filter (·.state = .running) = [] :=
    List.filter_eq_nil_iff.mpr fun info member => by simp [hs.queued_infos info member]
  rw [showAll, List.filter_append, all, none, List.append_nil]

theorem filter_queued (hs : r.Sound order) :
    r.showAll.filter (·.state ≠ .running) = r.snapshot QueueKind.searchOrder := by
  have none : (r.runningSlots.filterMap r.info).filter (·.state ≠ .running) = [] :=
    List.filter_eq_nil_iff.mpr fun info member => by simp [running_infos info member]
  have all : (r.snapshot QueueKind.searchOrder).filter (·.state ≠ .running) =
      r.snapshot QueueKind.searchOrder :=
    List.filter_eq_self.mpr fun info member => decide_eq_true (hs.queued_infos info member)
  rw [showAll, List.filter_append, none, all, List.nil_append]

end Sound

theorem snapshot_append (r : Registry) (kinds kinds' : List QueueKind) :
    r.snapshot (kinds ++ kinds') = r.snapshot kinds ++ r.snapshot kinds' := by
  rw [snapshot, List.flatMap_append, List.filterMap_append, snapshot, snapshot]

theorem snapshot_perm (r : Registry) {kinds kinds' : List QueueKind} (perm : kinds.Perm kinds') :
    (r.snapshot kinds).Perm (r.snapshot kinds') := (perm.flatMap_right _).filterMap _

/-! ### What the views have in common -/

/-- The views of a registry agree. -/
structure Consistent (r : Registry) : Prop where
  /-- A process is in the queue of the state in which it is shown, if that has one. -/
  find : ∀ name, r.find name = (r.show name).bind fun info => QueueKind.ofState info.state
  «show» : ∀ name info, r.show name = some info ↔ info ∈ r.showAll ∧ info.name = name
  /-- The processes that are there are shown, and no others. -/
  all : ∀ info, info ∈ r.showAll ↔ ∃ id p, r.get id = some p ∧ info = p.shownAs id
  once : (r.showAll.map (·.id)).Nodup
  runningFirst : r.showAll =
    r.showAll.filter (·.state = .running) ++ r.showAll.filter (·.state ≠ .running)
  queued : (r.showReady ++ r.showBlocked).Perm (r.showAll.filter (·.state ≠ .running))
  lengths : ∀ k, (r.queue k).count = r.showAll.countP (·.state = k.state)
  count : r.count = r.showAll.length

theorem Sound.consistent (hs : r.Sound order) : r.Consistent where
  find := hs.find_eq
  «show» name info := by
    rw [show_eq_some hs.roster, hs.mem_showAll, exists_and_right]
  all info := by
    rw [hs.mem_showAll]
    constructor
    · rintro ⟨i, shown⟩
      obtain ⟨p, process, rfl⟩ := info_eq_some.mp shown
      have resolved := resolve_idAt (live_iff.mpr ⟨p, process⟩)
      exact ⟨r.table.idAt i, p, Option.bind_eq_some_iff.mpr ⟨i, resolved, process⟩, rfl⟩
    · rintro ⟨id, p, got, rfl⟩
      obtain ⟨i, resolved, process⟩ := Option.bind_eq_some_iff.mp got
      exact ⟨i, info_eq_some.mpr ⟨p, process, by rw [idAt_of_resolve resolved]⟩⟩
  once := by
    rw [showAll_eq, map_id_infos hs.live_shownSlots]
    exact hs.nodup_shownSlots.map fun _ _ same => congrArg ProcessId.index same
  runningFirst := by
    rw [hs.filter_running, hs.filter_queued, showAll]
  queued := by
    have kinds : ([.ready, .suspendedReady] ++ [.blocked, .suspendedBlocked] : List QueueKind).Perm
        QueueKind.searchOrder := by decide
    rw [hs.filter_queued, showReady, showBlocked, ← snapshot_append]
    exact r.snapshot_perm kinds
  lengths k := (hs.countP_showAll k).symm
  count := hs.length_showAll.symm

/-- As many are shown running as there are. -/
theorem Runs.length_shown (hr : r.Runs who) :
    (r.showAll.filter (·.state = .running)).length ≤ who.length := by
  obtain ⟨order, hs⟩ := hr.sound
  rw [hs.filter_running, ← hr.length_running]
  exact List.length_filterMap_le _ _

end Registry

end TrapKernel
