import TrapKernel.Proofs.Kernel.Ownership
import TrapKernel.Proofs.Kernel.Rounds
import TrapKernel.Proofs.Process.Lineup

/-!
# Who takes over the processor

While nothing is in flight and the kernel does not go home, it depends on the lineup alone which
process a trap resumes: the first one that is ready. The process that trapped has given up the
processor, and lines up again for the next round, or it has ended.
-/

namespace TrapKernel

namespace Kernel

open Registry

variable {k : Kernel} {l : Lineup} {w next : Waiter} {kept : Option Waiter}
  {running ready : List Waiter} {round : Nat}

/-- A kernel that has nothing in flight and goes on, with this lineup. -/
structure Lined (k : Kernel) (l : Lineup) : Prop where
  quiet : k.device.active = none
  stays : k.shutdownRequested = false
  lines : k.registry.Lines l

namespace Lined

/-! ### The second half of a trap -/

/-- The first ready process takes over, and the one that ran lines up behind the others. -/
theorem leave_next (h : k.Lined ⟨kept.toList, next :: ready, [], round⟩)
    (behind : ∀ w ∈ kept, ∀ v ∈ ready, v.ahead w.later = true) (saved : Context) :
    ∃ context k', k.leave (kept.map (·.id)) saved = (.ok context, k') ∧
      k'.running = some next.id ∧
      k'.Lined ⟨[next], ready ++ (kept.map Waiter.later).toList, [], max round next.round⟩ := by
  obtain ⟨registry, taken, lines⟩ := h.lines.takeReadyHead rfl
  unfold leave
  rw [if_neg (Bool.eq_false_iff.mp h.stays), taken]
  cases kept with
  | none =>
    obtain ⟨context, found⟩ := lines.context List.mem_cons_self
    simp only [Option.map_none, requeue, switchTo, found]
    exact ⟨context, _, rfl, rfl, h.quiet, h.stays, by simpa using lines⟩
  | some w =>
    have apart : next.id ≠ w.id := by
      have nodup := lines.nodup_running
      simpa [eq_comm] using nodup
    obtain ⟨registry', done, lines'⟩ := lines.requeueYielded (w := w) List.mem_cons_self
    have left : ([w] ++ [next]).filter (·.id ≠ w.id) = [next] := by simp [apart]
    have last : w.later.join ready = ready ++ [w.later] := Waiter.join_last (behind w rfl)
    dsimp only [Option.toList_some] at lines'
    rw [left, last] at lines'
    obtain ⟨context, found⟩ := lines'.context List.mem_cons_self
    have requeued := requeue_eq (k := { k with registry }) done
    simp only [Option.map_some, requeued, switchTo, found]
    exact ⟨context, _, rfl, rfl, h.quiet, h.stays, lines'⟩

/-- A process that is alone goes on. -/
theorem leave_alone (h : k.Lined ⟨[w], [], [], round⟩) (saved : Context) :
    ∃ context k', k.leave (some w.id) saved = (.ok context, k') ∧ k'.running = some w.id ∧
      k'.Lined ⟨[w], [], [], round⟩ := by
  obtain ⟨context, found⟩ := h.lines.context List.mem_cons_self
  unfold leave
  rw [if_neg (Bool.eq_false_iff.mp h.stays), h.lines.takeReadyHead_none rfl]
  simp only [switchTo, found]
  exact ⟨context, _, rfl, rfl, h.quiet, h.stays, h.lines⟩

/-- When the last process has ended the kernel goes home, if it may. -/
theorem leave_home (h : k.Lined ⟨[], [], [], round⟩) (home : k.config.shutdownOnEmpty = true)
    (saved : Context) :
    ∃ context, k.leave none saved = (.ok context, k) := by
  unfold leave
  rw [if_neg (Bool.eq_false_iff.mp h.stays), h.lines.takeReadyHead_none rfl]
  simp only [if_pos home]
  exact ⟨_, rfl⟩

/-! ### The first half -/

/-- What a trap asks for that starts no transfer, and the process that then keeps the processor. -/
inductive Asks : Ask → List Waiter → Option Waiter → Prop where
  | nothing : Asks .nothing [] none
  | yields (w : Waiter) : Asks (.yields w.id) [w] (some w)
  | exits (w : Waiter) : Asks (.exits w.id) [w] none

theorem enter (h : k.Lined ⟨running, ready, [], round⟩) (asks : Asks k.ask running kept)
    (saved : Context) :
    ∃ k', k.enter saved = (.ok (kept.map (·.id)), k') ∧ k'.running = none ∧
      k'.config = k.config ∧ k'.Lined ⟨kept.toList, ready, [], round⟩ := by
  rw [enter_eq]
  generalize k.ask = ask at asks
  cases asks with
  | nothing => exact ⟨_, rfl, rfl, rfl, h.quiet, h.stays, h.lines⟩
  | yields w =>
    obtain ⟨r, done, lines⟩ := h.lines.saveContext List.mem_cons_self saved
    have saved_eq : k.inside.save w.id saved = { k.inside with registry := r } := save_eq done
    simp only [saved_eq]
    exact ⟨_, rfl, rfl, rfl, h.quiet, h.stays, lines⟩
  | exits w =>
    obtain ⟨r, m, done, lines⟩ := h.lines.destroy rfl (k.inside.cancelTransfers w.id).memory
    have ended : k.inside.exit w.id =
        { k.inside.cancelTransfers w.id with registry := r, memory := m } := by
      have done' : (k.inside.cancelTransfers w.id).registry.destroy
          (k.inside.cancelTransfers w.id).memory w.id = .ok (r, m) := done
      unfold exit
      simp only [done']
    have quiet : (k.inside.cancelTransfers w.id).device.active = none := by
      rw [cancelTransfers_eq, Device.cancel_eq]
      exact h.quiet
    simp only [ended]
    exact ⟨_, rfl, rfl, rfl, quiet, h.stays, lines⟩

/-- After the first half of such a trap the next process is chosen. -/
theorem dispatch_eq (h : k.Lined ⟨running, ready, [], round⟩) (on : k.halted = none)
    (asks : Asks k.ask running kept) (saved : Context) :
    ∃ k' : Kernel, k.dispatch saved = k'.leave (kept.map (·.id)) saved ∧ k'.running = none ∧
      k'.config = k.config ∧ k'.Lined ⟨kept.toList, ready, [], round⟩ := by
  obtain ⟨k', entered, off, config, lined⟩ := h.enter asks saved
  refine ⟨k', ?_, off, config, lined⟩
  unfold Kernel.dispatch
  rw [on, entered]
  exact congrArg (fun polled => polled.leave (kept.map (·.id)) saved) (poll_quiet lined.quiet)

end Lined

end Kernel

end TrapKernel
