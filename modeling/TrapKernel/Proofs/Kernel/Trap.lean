import TrapKernel.Proofs.Kernel.Steps
import TrapKernel.Proofs.Process.Waiting

/-!
# Invariants of a trap

A trap is made of a few steps: the context is saved, a transfer is submitted or a process ends, the
device is polled, the first ready process is taken, and a process that only gave up the processor is
put back. What each of these steps keeps, a whole trap keeps. The steps are told which processes
run: the one that trapped until it is disposed of, and the one that was chosen from then on.
-/

namespace TrapKernel

namespace Kernel

open Registry

variable {P : Kernel → List ProcessId → Prop} {k k' : Kernel} {who : List ProcessId}
  {id : ProcessId}

/-- Between two traps at most one process runs. It is the one that the last trap resumed, unless the
kernel was halted. -/
def BetweenTraps (P : Kernel → List ProcessId → Prop) (k : Kernel) : Prop :=
  ∃ who, who.length ≤ 1 ∧ (k.halted = none → who = k.running.toList) ∧ P k who

theorem BetweenTraps.resumed (h : P k k.running.toList) : BetweenTraps P k := by
  refine ⟨k.running.toList, ?_, fun _ => rfl, h⟩
  cases k.running <;> simp

theorem BetweenTraps.halted (off : k.halted ≠ none) (one : who.length ≤ 1) (h : P k who) :
    BetweenTraps P k := ⟨who, one, fun on => absurd on off, h⟩

/-! ### Leaving -/

/-- What choosing the next process keeps. -/
structure SwitchInvariant (P : Kernel → List ProcessId → Prop) : Prop where
  runs : ∀ {k who}, P k who → k.registry.Runs who
  /-- It is not about the dispatcher's own notes. -/
  notes : ∀ {k who} (running : Option ProcessId) (boot : Option Context) (halted : Option Fatal)
    (switches : Nat), P k who → P { k with running, bootContext := boot, halted, switches } who
  take : ∀ {k who next r}, P k who → k.registry.takeReadyHead = some (next, r) →
    P { k with registry := r } (next :: who)
  requeue : ∀ {k who id}, P k who → id ∈ who → P (k.requeue (some id)) (who.erase id)

namespace SwitchInvariant

theorem switchTo (hP : SwitchInvariant P) (h : P k [id]) :
    ∃ c k', k.switchTo id = (.ok c, k') ∧ P k' k'.running.toList := by
  obtain ⟨c, context⟩ := (hP.runs h).context List.mem_cons_self
  refine ⟨c, { k with running := some id, switches := k.switches + 1 }, ?_, ?_⟩
  · rw [Kernel.switchTo, context]
  · exact hP.notes (some id) k.bootContext k.halted (k.switches + 1) h

theorem leave (hP : SwitchInvariant P) {kept : Option ProcessId} (h : P k kept.toList)
    (off : k.running = none) (saved : Context) :
    BetweenTraps P (k.leave kept saved).2 := by
  have requeue : ∀ {k : Kernel} {who}, P k (who ++ kept.toList) → (∀ id ∈ kept, id ∉ who) →
      P (k.requeue kept) who := by
    intro k who h apart
    cases kept with
    | none => simpa [Kernel.requeue] using h
    | some id =>
      have member : id ∈ who ++ (some id).toList := by simp
      have after := hP.requeue h member
      have erased : (who ++ [id]).erase id = who := by
        rw [List.erase_append_right _ (apart id rfl), List.erase_cons_head, List.append_nil]
      rw [Option.toList_some, erased] at after
      exact after
  unfold Kernel.leave
  split
  · have notes := notes_requeue k kept
    have after : P (k.requeue kept) [] := requeue h (fun _ _ => List.not_mem_nil)
    apply BetweenTraps.resumed
    rw [show (k.requeue kept).running = none from notes.running.trans off]
    exact after
  · cases taken : k.registry.takeReadyHead with
    | some result =>
      obtain ⟨next, registry⟩ := result
      have fresh := ((hP.runs h).takeReadyHead taken).2.1
      have chosen := hP.take h taken
      have after : P (Kernel.requeue { k with registry } kept) [next] := by
        refine requeue chosen fun id member same => fresh ?_
        rw [List.mem_singleton] at same
        rw [← same]
        exact Option.mem_toList.mpr member
      obtain ⟨c, k', switched, running⟩ := hP.switchTo after
      simp only [switched]
      exact BetweenTraps.resumed running
    | none =>
      cases kept with
      | some id =>
        obtain ⟨c, k', switched, running⟩ := hP.switchTo h
        simp only [switched]
        exact BetweenTraps.resumed running
      | none =>
        simp only []
        split
        · apply BetweenTraps.resumed
          rw [off]
          exact h
        · have one : ([] : List ProcessId).length ≤ 1 := Nat.zero_le 1
          exact BetweenTraps.halted (Option.some_ne_none _) one (hP.notes k.running k.bootContext _ k.switches h)

end SwitchInvariant

/-! ### Waiting -/

/-- An invariant that needs to know of the processes only who waits. -/
structure WaitsInvariant (P : Kernel → List ProcessId → Prop) : Prop where
  runs : ∀ {k who}, P k who → k.registry.Runs who
  /-- It is not about the dispatcher's own notes. -/
  notes : ∀ {k who} (running : Option ProcessId) (boot : Option Context) (halted : Option Fatal)
    (switches : Nat), P k who → P { k with running, bootContext := boot, halted, switches } who
  /-- Processes may change in what is not about waiting. -/
  registry : ∀ {k who who' r}, P k who → r.Runs who' → k.registry.SameWaits r →
    P { k with registry := r } who'

namespace WaitsInvariant

theorem save (hP : WaitsInvariant P) (h : P k who) (id : ProcessId) (c : Context) :
    P (k.save id c) who := by
  have runs := hP.runs h
  obtain ⟨order, hs⟩ := runs.sound
  unfold Kernel.save
  cases saved : k.registry.saveContext id c with
  | error e => exact h
  | ok r =>
    obtain ⟨order', sound, steady⟩ := hs.saveContext saved
    exact hP.registry h (runs.steady ⟨order', sound⟩ steady) (.saveContext saved)

theorem requeue (hP : WaitsInvariant P) (h : P k who) (member : id ∈ who) :
    P (k.requeue (some id)) (who.erase id) := by
  have runs := hP.runs h
  obtain ⟨r, requeued, runs', -⟩ := runs.requeueYielded member
  simp only [Kernel.requeue, requeued]
  exact hP.registry h runs' (.requeueYielded (fun _ => runs.stateAt member) requeued)

/-- Choosing the next process changes nothing about waiting. -/
theorem switch (hP : WaitsInvariant P) : SwitchInvariant P where
  runs := hP.runs
  notes := hP.notes
  take := by
    intro k who next r h taken
    have runs := hP.runs h
    obtain ⟨order, hs⟩ := runs.sound
    exact hP.registry h (runs.takeReadyHead taken).1 (hs.sameWaits_takeReadyHead taken)
  requeue := hP.requeue

end WaitsInvariant

/-! ### Whole traps -/

/-- What the steps of a trap keep. -/
structure TrapInvariant (P : Kernel → List ProcessId → Prop) : Prop where
  runs : ∀ {k who}, P k who → k.registry.Runs who
  /-- It is about neither the buffers, nor the request slot, nor the dispatcher's own notes. -/
  notes : ∀ {k who} (shared : Shared) (slot : RequestSlot) (running : Option ProcessId)
    (boot : Option Context) (halted : Option Fatal) (switches : Nat), P k who →
      P { k with shared, slot, running, bootContext := boot, halted, switches } who
  /-- It does not matter which processes run and which wait, if none comes or goes. -/
  registry : ∀ {k who who' r}, P k who → r.Runs who' → k.registry.SameRecords r →
    P { k with registry := r } who'
  /-- The device accepts a transfer of a process that is there. -/
  accept : ∀ {k who t how d s m}, P k who → (∃ i, k.registry.table.resolve t.owner = some i) →
    k.device.submit k.shared k.memory t = .ok (how, d, s, m) →
      P { k with device := d, shared := s, memory := m } who
  /-- The device is asked whether its transfer has ended. -/
  complete : ∀ {k who}, P k who → P { k with
    device := (k.device.checkCompletion k.shared k.memory).2.1
    shared := (k.device.checkCompletion k.shared k.memory).2.2.1
    memory := (k.device.checkCompletion k.shared k.memory).2.2.2 } who
  exit : ∀ {k who id}, P k who → id ∈ who → P (k.exit id) (who.erase id)

namespace TrapInvariant

/-! ### The steps -/

theorem save (hP : TrapInvariant P) (id : ProcessId) (c : Context) (h : P k who) :
    P (k.save id c) who := by
  obtain ⟨r, eq, runs, same⟩ := save_spec (hP.runs h) id c
  rw [eq]
  exact hP.registry h runs same

theorem park (hP : TrapInvariant P) (h : P k who) (member : id ∈ who) :
    P (k.park id) (who.erase id) := by
  obtain ⟨r, eq, runs, same⟩ := park_spec (hP.runs h) member
  rw [eq]
  exact hP.registry h runs same

theorem requeue (hP : TrapInvariant P) (h : P k who) (member : id ∈ who) :
    P (k.requeue (some id)) (who.erase id) := by
  obtain ⟨r, eq, runs, same⟩ := requeue_spec (hP.runs h) member
  rw [eq]
  exact hP.registry h runs same

theorem poll (hP : TrapInvariant P) (h : P k who) : P k.poll who := by
  obtain ⟨r, eq, runs, same⟩ := poll_spec (hP.runs h)
  rw [eq]
  exact hP.registry (hP.complete h) runs same

theorem take (hP : TrapInvariant P) {next : ProcessId} {r : Registry} (h : P k who)
    (taken : k.registry.takeReadyHead = some (next, r)) :
    P { k with registry := r } (next :: who) := by
  obtain ⟨runs, -, same⟩ := (hP.runs h).takeReadyHead taken
  exact hP.registry h runs same

theorem switch (hP : TrapInvariant P) : SwitchInvariant P where
  runs := hP.runs
  notes := fun {k _} running boot halted switches =>
    hP.notes k.shared k.slot running boot halted switches
  take := hP.take
  requeue := hP.requeue

/-- The process that submits a transfer waits for it, unless it is not accepted. -/
theorem submit (hP : TrapInvariant P) {direction : Direction} {device : DeviceId}
    {buffer : BufferId} (h : P k who) (member : id ∈ who) (saved : Context) :
    ∃ kept k', k.startTransfer id direction device buffer saved = (kept, k') ∧
      (kept = some id ∧ P k' who ∨ kept = none ∧ P k' (who.erase id)) := by
  have h := hP.save id saved h
  unfold startTransfer
  generalize k.save id saved = k at h ⊢
  simp only []
  cases submitted : k.device.submit k.shared k.memory ⟨direction, device, buffer, id⟩ with
  | error e =>
    refine ⟨some id, _, rfl, Or.inl ⟨rfl, ?_⟩⟩
    exact hP.notes _ k.slot k.running k.bootContext k.halted k.switches h
  | ok result =>
    obtain ⟨how, d, s, m⟩ := result
    have accepted := hP.accept h ((hP.runs h).resolves id member) submitted
    exact ⟨none, _, rfl, Or.inr ⟨rfl, hP.park accepted member⟩⟩

theorem halt (hP : TrapInvariant P) (fatal : Fatal) (h : P k who) :
    P { k with halted := some fatal } who :=
  hP.notes k.shared k.slot k.running k.bootContext _ k.switches h

/-! ### Entering -/

theorem actOnTransfer (hP : TrapInvariant P) {r : Request} {direction : Direction}
    (on : k.halted = none) (h : P k [id]) (saved : Context) :
    ∃ result k', k.actOnTransfer id r direction saved = (result, k') ∧ k'.running = k.running ∧
      match result with
      | .error fatal => k'.halted = some fatal ∧ P k' [id]
      | .ok kept => k'.halted = none ∧ P k' kept.toList := by
  unfold Kernel.actOnTransfer
  cases r.buffer with
  | none => exact ⟨_, _, rfl, rfl, rfl, hP.halt _ h⟩
  | some buffer =>
    have notes := notes_startTransfer k id direction r.device buffer saved
    obtain ⟨kept, k', started, outcome⟩ :=
      hP.submit h List.mem_cons_self saved
    rw [started] at notes
    simp only [started]
    refine ⟨_, _, rfl, notes.running, notes.halted.trans on, ?_⟩
    rcases outcome with ⟨rfl, after⟩ | ⟨rfl, after⟩
    · exact after
    · rw [List.erase_cons_head] at after
      exact after

theorem act (hP : TrapInvariant P) {request : Option Request} (on : k.halted = none)
    (h : P k [id]) (saved : Context) :
    ∃ result k', k.act id request saved = (result, k') ∧ k'.running = k.running ∧
      match result with
      | .error fatal => k'.halted = some fatal ∧ P k' [id]
      | .ok kept => k'.halted = none ∧ P k' kept.toList := by
  unfold Kernel.act
  cases request with
  | none => exact ⟨_, _, rfl, rfl, rfl, hP.halt _ h⟩
  | some r =>
    simp only []
    cases Operation.ofCode? r.code with
    | none => exact ⟨_, _, rfl, rfl, rfl, hP.halt _ h⟩
    | some operation =>
      cases operation with
      | idle =>
        have notes := notes_save k id saved
        exact ⟨_, _, rfl, notes.running, notes.halted.trans on, hP.save id saved h⟩
      | exit =>
        have notes := notes_exit k id
        have after := hP.exit h List.mem_cons_self
        rw [List.erase_cons_head] at after
        exact ⟨_, _, rfl, notes.running, notes.halted.trans on, after⟩
      | read => exact hP.actOnTransfer on h saved
      | write => exact hP.actOnTransfer on h saved

theorem enter (hP : TrapInvariant P) (on : k.halted = none) (h : P k k.running.toList)
    (saved : Context) :
    ∃ result k', k.enter saved = (result, k') ∧ k'.running = none ∧
      match result with
      | .error fatal => k'.halted = some fatal ∧ ∃ who, who.length ≤ 1 ∧ P k' who
      | .ok kept => k'.halted = none ∧ P k' kept.toList := by
  unfold Kernel.enter
  cases running : k.running with
  | none =>
    rw [running] at h
    refine ⟨_, _, rfl, rfl, on, ?_⟩
    exact hP.notes k.shared k.slot.take.2 none (some saved) k.halted k.switches h
  | some id =>
    rw [running] at h
    let inside : Kernel := { k with slot := k.slot.take.2, running := none }
    have h₁ : P inside [id] :=
      hP.notes k.shared k.slot.take.2 none k.bootContext k.halted k.switches h
    obtain ⟨result, k', acted, off, after⟩ :=
      hP.act (k := inside) on h₁ saved
    refine ⟨result, k', acted, off, ?_⟩
    cases result with
    | error fatal => exact ⟨after.1, [id], Nat.le_refl 1, after.2⟩
    | ok kept => exact after

/-- What every step of a trap keeps, the trap keeps. -/
theorem dispatch (hP : TrapInvariant P) (h : BetweenTraps P k) (saved : Context) :
    BetweenTraps P (k.dispatch saved).2 := by
  unfold Kernel.dispatch
  cases on : k.halted with
  | some fatal => exact h
  | none =>
    obtain ⟨who, -, running, h⟩ := h
    rw [running on] at h
    obtain ⟨result, k₁, entered, off, after⟩ := hP.enter on h saved
    simp only [entered]
    cases result with
    | error fatal =>
      obtain ⟨halted, who, one, after⟩ := after
      refine BetweenTraps.halted ?_ one after
      rw [halted]
      exact Option.some_ne_none fatal
    | ok kept =>
      have notes := notes_poll k₁
      exact hP.switch.leave (hP.poll after.2) (notes.running.trans off) saved

end TrapInvariant

end Kernel

end TrapKernel
