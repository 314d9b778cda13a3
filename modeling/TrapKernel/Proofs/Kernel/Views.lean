import TrapKernel.Proofs.Kernel.Scheduling
import TrapKernel.Proofs.Kernel.Single
import TrapKernel.Proofs.Process.Refinement
import TrapKernel.Proofs.Process.Views

/-!
# Whoever looks sees the same

The views of a registry agree after any calls and traps, and those of a kernel after anything that
has happened to it. The dispatcher lets one process run at a time, so at most one is shown to be
running, and that one comes first. If the parts of the dispatcher are called by themselves, more
processes may run; the views agree all the same.
-/

namespace TrapKernel

open Registry

/-- The views of a registry agree, and at most one process is shown to be running. -/
structure Registry.Presents (r : Registry) : Prop extends r.Consistent where
  one : (r.showAll.filter (·.state = .running)).length ≤ 1

theorem Registry.Runs.presents {r : Registry} {who : List ProcessId} (hr : r.Runs who)
    (one : who.length ≤ 1) : r.Presents := by
  obtain ⟨order, sound⟩ := hr.sound
  exact ⟨sound.consistent, hr.length_shown.trans one⟩

theorem Scheduling.Valid.presents {s : Scheduling} (hs : s.Valid) : s.registry.Presents := by
  obtain ⟨who, one, -, runs⟩ := hs
  exact runs.presents one

namespace Kernel

theorem AtRest.presents {k : Kernel} (h : k.AtRest) : k.registry.Presents := by
  obtain ⟨who, one, -, runs⟩ := h.runs
  exact runs.presents one

/-- Whatever was asked of a registry, and whatever has happened to a kernel since it was booted,
whoever looks at it in one way sees what he would see in another. -/
theorem views_agree :
    (∀ calls : List RegistryCall, (calls.foldl Scheduling.call .initial).registry.Presents) ∧
    (∀ (c : KernelConfig) (uart : Uart) (k : Kernel), boot c uart = .ok k →
      ∀ events : List KernelEvent, (events.foldl step k).registry.Presents) ∧
    ∀ calls : List AnyCall, empty.Permits calls → (empty.after calls).Consistent := by
  refine ⟨fun calls => ?_, fun c uart k booted events => ?_, fun calls permitted => ?_⟩
  · exact (Scheduling.valid_calls calls).presents
  · exact (AtRest.steps booted events).presents
  · exact (mirrors_empty.after calls permitted).sound.consistent

/-- Two processes are created and taken from the ready queue, and neither is put back. -/
def crowding : List AnyCall :=
  [⟨_, .create (.bump (.create 2000)) "first" .user 3⟩,
    ⟨_, .create (.bump (.create 2000)) "second" .user 5⟩, ⟨_, .takeReadyHead⟩, ⟨_, .takeReadyHead⟩]

/-- A kernel in which one process runs and two are ready, and a registry in which two run. -/
theorem views_agree_turns :
    (∃ k, boot { processes := [] } (Uart.create com1 true) = .ok k ∧
      (turns.foldl step k).registry.Presents ∧
      (turns.foldl step k).registry.showAll.map (·.name) = ["third", "writer", "reader"] ∧
      (turns.foldl step k).registry.find "reader" = some .ready) ∧
    empty.Permits crowding ∧ (empty.after crowding).Consistent ∧
      ((empty.after crowding).showAll.filter (·.state = .running)).length = 2 := by
  obtain ⟨k, booted⟩ : ∃ k, boot { processes := [] } (Uart.create com1 true) = .ok k :=
    boot_ok rfl rfl (by decide) (by decide) (by decide)
  have ends : ((boot { processes := [] } (Uart.create com1 true)).toOption.map fun k =>
      ((turns.foldl step k).registry.showAll.map (·.name),
        (turns.foldl step k).registry.find "reader")) =
      some (["third", "writer", "reader"], some .ready) := by decide +kernel
  rw [booted] at ends
  obtain ⟨shown, found⟩ := Prod.mk.inj (Option.some.inj ends)
  have permitted : empty.Permits crowding := ⟨trivial, trivial, trivial, trivial, trivial⟩
  refine ⟨⟨k, booted, views_agree.2.1 _ _ k booted turns, shown, found⟩, permitted,
    views_agree.2.2 crowding permitted, ?_⟩
  decide +kernel

end Kernel

end TrapKernel
