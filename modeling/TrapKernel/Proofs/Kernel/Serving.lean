import TrapKernel.Proofs.Kernel.Asking

/-!
# What a trap does to the device

In its first half a trap submits one transfer at most, or drops those of a process that ends. Then
the device is asked whether its transfer has ended. Whatever else a trap does touches neither the
device nor a buffer, and the slot for requests is empty after it.
-/

namespace TrapKernel

namespace Kernel

variable {k k' k'' : Kernel} {saved : Context} {kept : Option ProcessId} {t : Transfer}

/-- The device and its buffers, the memory and the slot are as before. -/
structure Undisturbed (k k' : Kernel) : Prop where
  device : k'.device = k.device
  shared : k'.shared = k.shared
  memory : k'.memory = k.memory
  slot : k'.slot = k.slot

theorem Undisturbed.refl (k : Kernel) : k.Undisturbed k := ⟨rfl, rfl, rfl, rfl⟩

theorem Undisturbed.trans (h : k.Undisturbed k') (h' : k'.Undisturbed k'') :
    k.Undisturbed k'' where
  device := h'.device.trans h.device
  shared := h'.shared.trans h.shared
  memory := h'.memory.trans h.memory
  slot := h'.slot.trans h.slot

/-! ### The steps -/

theorem undisturbed_save (k : Kernel) (id : ProcessId) (c : Context) :
    k.Undisturbed (k.save id c) := by
  unfold save
  split <;> exact ⟨rfl, rfl, rfl, rfl⟩

theorem undisturbed_park (k : Kernel) (id : ProcessId) : k.Undisturbed (k.park id) := by
  unfold park
  split <;> exact ⟨rfl, rfl, rfl, rfl⟩

theorem undisturbed_requeue (k : Kernel) (kept : Option ProcessId) :
    k.Undisturbed (k.requeue kept) := by
  unfold requeue
  split
  · exact .refl k
  · split <;> exact ⟨rfl, rfl, rfl, rfl⟩

theorem undisturbed_switchTo (k : Kernel) (id : ProcessId) : k.Undisturbed (k.switchTo id).2 := by
  unfold switchTo
  split <;> exact ⟨rfl, rfl, rfl, rfl⟩

theorem undisturbed_leave (k : Kernel) (kept : Option ProcessId) (saved : Context) :
    k.Undisturbed (k.leave kept saved).2 := by
  unfold leave
  split
  · exact k.undisturbed_requeue kept
  · split
    · rename_i next registry _
      have taken : k.Undisturbed { k with registry } := ⟨rfl, rfl, rfl, rfl⟩
      exact (taken.trans (undisturbed_requeue _ kept)).trans (undisturbed_switchTo _ next)
    · split
      · exact k.undisturbed_switchTo _
      · split <;> exact ⟨rfl, rfl, rfl, rfl⟩

/-- The device is asked whether its transfer has ended, and answers what it answers on its own. -/
theorem poll_undisturbed (k : Kernel) : Undisturbed { k with
    device := (k.device.checkCompletion k.shared k.memory).2.1
    shared := (k.device.checkCompletion k.shared k.memory).2.2.1
    memory := (k.device.checkCompletion k.shared k.memory).2.2.2 } k.poll := by
  unfold poll
  simp only []
  split
  · exact ⟨rfl, rfl, rfl, rfl⟩
  · split <;> exact ⟨rfl, rfl, rfl, rfl⟩

/-! ### The first half -/

/-- What the first half of a trap makes of the device and of the buffers. -/
inductive Serves (k : Kernel) : Device → Shared → Prop where
  /-- No transfer is submitted and none is dropped. -/
  | nothing : Serves k k.device k.shared
  /-- The transfers of a process are dropped that wait. -/
  | drops (id : ProcessId) : Serves k (k.device.cancel k.memory id).2.1 k.shared
  | accepts {t how d s m} (asked : k.ask = .transfers t)
      (done : k.device.submit k.shared k.memory t = .ok (how, d, s, m)) : Serves k d s
  /-- The device does not accept the transfer, and its buffer gets the code of the error. -/
  | declines {t e} (asked : k.ask = .transfers t)
      (failed : k.device.submit k.shared k.memory t = .error e) :
      Serves k k.device (k.shared.modifyBuffer t.buffer (·.fail e.code))

/-- The device accepts the transfer, and its owner waits. -/
theorem startTransfer_accepts {how : Submitted} {d : Device} {s : Shared} {m : Memory}
    (done : k.device.submit k.shared k.memory t = .ok (how, d, s, m)) (saved : Context) :
    ∃ k', k.startTransfer t.owner t.direction t.device t.buffer saved = (none, k') ∧
      k'.device = d ∧ k'.shared = s ∧ k'.slot = k.slot := by
  have kept := k.undisturbed_save t.owner saved
  unfold startTransfer
  simp only [kept.device, kept.shared, kept.memory, done]
  have parked := undisturbed_park
    { k.save t.owner saved with device := d, shared := s, memory := m } t.owner
  exact ⟨_, rfl, parked.device, parked.shared, parked.slot.trans kept.slot⟩

/-- The device does not accept the transfer, and its owner keeps the processor. -/
theorem startTransfer_declines {e : SubmitError}
    (failed : k.device.submit k.shared k.memory t = .error e) (saved : Context) :
    k.startTransfer t.owner t.direction t.device t.buffer saved = (some t.owner,
      { k.save t.owner saved with
        shared := k.shared.modifyBuffer t.buffer (·.fail e.code) }) := by
  have kept := k.undisturbed_save t.owner saved
  unfold startTransfer
  simp only [kept.device, kept.shared, kept.memory, failed]

/-- A process that ends takes with it its transfers that wait. -/
theorem exit_drops (k : Kernel) (id : ProcessId) :
    (k.exit id).device = (k.device.cancel k.memory id).2.1 ∧ (k.exit id).shared = k.shared ∧
      (k.exit id).slot = k.slot := by
  unfold exit
  simp only []
  split <;> exact ⟨rfl, rfl, rfl⟩

theorem serves_enter (k : Kernel) (saved : Context) :
    k.Serves (k.enter saved).2.device (k.enter saved).2.shared ∧
      (k.enter saved).2.slot = .empty := by
  rw [enter_eq]
  cases asked : k.ask with
  | nothing => exact ⟨.nothing, rfl⟩
  | invalid id fatal => exact ⟨.nothing, rfl⟩
  | yields id =>
    have kept := k.inside.undisturbed_save id saved
    simp only [kept.device, kept.shared, kept.slot]
    exact ⟨.nothing, rfl⟩
  | exits id =>
    obtain ⟨device, shared, slot⟩ := k.inside.exit_drops id
    simp only [device, shared, slot]
    exact ⟨.drops id, rfl⟩
  | transfers t =>
    cases submitted : k.device.submit k.shared k.memory t with
    | ok result =>
      obtain ⟨how, d, s, m⟩ := result
      obtain ⟨k', started, rfl, rfl, slot⟩ :=
        startTransfer_accepts (k := k.inside) submitted saved
      simp only [started]
      exact ⟨.accepts asked submitted, slot⟩
    | error e =>
      have kept := k.inside.undisturbed_save t.owner saved
      simp only [startTransfer_declines (k := k.inside) submitted saved, kept.device, kept.slot]
      exact ⟨.declines asked submitted, rfl⟩

/-! ### Both halves -/

/-- After the first half the device is asked, and that is all. -/
theorem dispatch_of_ok (on : k.halted = none) (entered : k.enter saved = (.ok kept, k')) :
    k'.poll.Undisturbed (k.dispatch saved).2 := by
  unfold dispatch
  rw [on, entered]
  exact k'.poll.undisturbed_leave kept saved

/-- A trap of a kernel that was halted does nothing. Any other one ends in its first half, or asks
the device after it. -/
theorem dispatch_phases (k : Kernel) (saved : Context) : (k.dispatch saved).2 = k ∨
    k.halted = none ∧ ((k.dispatch saved).2 = (k.enter saved).2 ∨
      (k.enter saved).2.poll.Undisturbed (k.dispatch saved).2) := by
  cases on : k.halted with
  | some fatal =>
    left
    unfold dispatch
    rw [on]
  | none =>
    refine Or.inr ⟨rfl, ?_⟩
    cases entered : k.enter saved with
    | mk result k₁ =>
      cases result with
      | error fatal =>
        left
        unfold dispatch
        rw [on, entered]
      | ok kept => exact Or.inr (dispatch_of_ok on entered)

end Kernel

end TrapKernel
