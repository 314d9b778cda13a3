import TrapKernel.Proofs.Kernel.Going
import TrapKernel.Proofs.Process.Lineup
import TrapKernel.Simulation.Run

/-!
# How a simulation starts

The processes of the configuration come first, and then one process for each script. When all of
them are there nobody runs, nothing is in flight, and all processes are ready: in order of priority,
and those of the same priority in the order in which they came.
-/

namespace TrapKernel

namespace Simulation

open Registry

variable {file : SimulationFile} {s : Simulation} {k k' : Kernel} {c : KernelConfig}
  {r r' : Registry} {m m' : Memory} {ws : List Waiter}

/-- What a simulation file says of each process, in the order in which they come. -/
def newcomers (file : SimulationFile) : List (String × Nat) :=
  file.kernel.processes.map (fun p => (p.name, p.priority.toNat)) ++
    file.scripts.map fun script => (script.name, script.priority.toNat)

/-- These processes have come, and wait for the first round. -/
structure Waits (ws : List Waiter) (names : List (String × Nat)) : Prop where
  named : ws.map (fun w => (w.name, w.priority)) = names
  first : ∀ w ∈ ws, w.round = 0

namespace Waits

variable {names : List (String × Nat)} {name : String} {priority : Nat}

theorem nil : Waits [] [] := ⟨rfl, nofun⟩

theorem append (h : Waits ws names) (id : ProcessId) (name : String) (priority : Nat) :
    Waits (ws ++ [⟨id, name, priority, 0⟩]) (names ++ [(name, priority)]) := by
  refine ⟨by rw [List.map_append, h.named]; rfl, fun w hw => ?_⟩
  rcases List.mem_append.mp hw with hw | hw
  · exact h.first w hw
  · rw [List.mem_singleton.mp hw]

end Waits

/-! ### The processes of the configuration -/

theorem lines_loadAll {ps : List ProcessConfig} {names : List (String × Nat)}
    (waits : Waits ws names) (h : r.Lines ⟨[], [], ranked Waiter.priority ws, 0⟩)
    (done : Kernel.loadAll r m ps = .ok (r', m')) :
    ∃ ws', Waits ws' (names ++ ps.map fun p => (p.name, p.priority.toNat)) ∧
      r'.Lines ⟨[], [], ranked Waiter.priority ws', 0⟩ := by
  induction ps generalizing r m ws names with
  | nil =>
    cases done
    exact ⟨ws, (List.append_nil names).symm ▸ waits, h⟩
  | cons p ps ih =>
    obtain ⟨⟨id, r₁, m₁⟩, loaded, rest⟩ := ok_of_bind done
    have after := h.load loaded
    rw [Waiter.join_ranked waits.first] at after
    obtain ⟨ws', waits', lines⟩ := ih (waits.append id p.name p.priority.toNat) after rest
    rw [List.append_assoc] at waits'
    exact ⟨ws', waits', lines⟩

/-- When the kernel has come up its processes are ready. -/
theorem lines_boot {uart : Uart} (booted : Kernel.boot c uart = .ok k) :
    ∃ ws, Waits ws (c.processes.map fun p => (p.name, p.priority.toNat)) ∧
      k.registry.Lines ⟨[], ranked Waiter.priority ws, [], 0⟩ := by
  obtain ⟨m, port, record, m₁, r, m₂, -, -, -, loaded, rfl⟩ := Kernel.boot_eq booted
  have nobody : empty.Lines ⟨[], [], ranked Waiter.priority [], 0⟩ := by
    rw [ranked_nil]
    exact lines_empty
  obtain ⟨ws, waits, lines⟩ := lines_loadAll .nil nobody loaded
  refine ⟨ws, waits, ?_⟩
  have order : (ranked Waiter.priority ws).foldl
      (fun line w => Waiter.join { w with round := 0 } line) [] = ranked Waiter.priority ws :=
    Waiter.foldl_join [] (fun w hw => waits.first w (mem_ranked.mp hw))
      (descends_ranked _ ws)
  have resumed := lines.resumeAll
  dsimp only at resumed
  rw [order] at resumed
  exact resumed

/-! ### The scripts -/

/-- A script gets its process, which is resumed at once. -/
theorem lines_loadScripts {scripts : List Script} {slot : Nat} {names : List (String × Nat)}
    (going : k.Going c) (waits : Waits ws names)
    (h : k.registry.Lines ⟨[], ranked Waiter.priority ws, [], 0⟩)
    (done : loadScripts k slot scripts = .ok k') :
    k'.Going c ∧ (∃ registry memory, k' = { k with registry, memory }) ∧
      ∃ ws', Waits ws' (names ++ scripts.map fun script => (script.name, script.priority.toNat)) ∧
        k'.registry.Lines ⟨[], ranked Waiter.priority ws', [], 0⟩ := by
  induction scripts generalizing k slot ws names with
  | nil =>
    obtain rfl := Except.ok.inj done
    exact ⟨going, ⟨k.registry, k.memory, rfl⟩, ws, (List.append_nil names).symm ▸ waits, h⟩
  | cons script scripts ih =>
    rw [loadScripts] at done
    split at done
    · cases done
    rename_i id k₁ loaded
    obtain ⟨id', r, m, loaded', eq⟩ := Kernel.load_ok loaded
    obtain ⟨rfl, rfl⟩ := Prod.mk.inj eq
    have going' := (going.load loaded).resume script.name
    let w : Waiter := ⟨id, script.name, script.priority.toNat, 0⟩
    have nobody : (w.join []).filter (·.id ≠ w.id) = [] := by simp [Waiter.join]
    have joined : w.join (ranked Waiter.priority ws) = ranked Waiter.priority (ws ++ [w]) :=
      Waiter.join_ranked waits.first
    have after := (h.load loaded').resume (w := w) List.mem_cons_self
    dsimp only at after
    rw [nobody, joined] at after
    obtain ⟨going'', ⟨registry, memory, rfl⟩, ws', waits', lines⟩ := ih going'
      (waits.append id script.name script.priority.toNat) after done
    rw [List.append_assoc] at waits'
    exact ⟨going'', ⟨registry, memory, rfl⟩, ws', waits', lines⟩

/-! ### Everything is set up -/

/-- A simulation that has started. -/
structure Started (file : SimulationFile) (s : Simulation) : Prop where
  going : s.kernel.Going file.kernel
  running : s.kernel.running = none
  quiet : s.kernel.device.active = none
  stays : s.kernel.shutdownRequested = false
  programs : s.programs = file.scripts.map fun script => (script.name, script.steps)
  lines : ∃ ws, Waits ws (newcomers file) ∧
    s.kernel.registry.Lines ⟨[], ranked Waiter.priority ws, [], 0⟩

theorem started (done : start file = .ok s) : Started file s := by
  obtain ⟨k, booted, rest⟩ := ok_of_bind done
  obtain ⟨k', loaded, rest⟩ := ok_of_bind rest
  replace booted := Kernel.ok_of_mapError booted
  obtain ⟨ws, waits, lines⟩ := lines_boot booted
  obtain ⟨going, ⟨registry, memory, rfl⟩, ws', waits', lines'⟩ :=
    lines_loadScripts (.boot booted) waits lines loaded
  obtain ⟨m, port, record, m₁, r, m₂, -, -, -, -, rfl⟩ := Kernel.boot_eq booted
  cases rest
  exact ⟨going.outside _ _, rfl, rfl, rfl, rfl, ws', waits', lines'⟩

end Simulation

end TrapKernel
