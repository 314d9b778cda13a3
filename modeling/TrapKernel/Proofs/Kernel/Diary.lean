import TrapKernel.Proofs.Kernel.Single
import TrapKernel.Proofs.Process.Contexts

/-!
# The context that is resumed

A `Diary` goes along with a kernel and writes down where each process came from, and with which
context it trapped last. Whatever happens, every process holds the context of its latest entry, and
the kernel that of the latest trap that no process took. So this is what a trap resumes.
-/

namespace TrapKernel

/-- What a process was last seen with. -/
inductive Past where
  /-- It came, and is to start at `entry`. -/
  | came (entry : UInt32)
  /-- It trapped. -/
  | trapped (saved : Context)

/-- The context with which the process goes on. -/
def Past.context (p : Process) : Past → Context
  | came entry => p.start entry
  | trapped saved => saved

theorem Past.context_of_matter {p p' : Process} (same : p'.matter = p.matter) (past : Past) :
    past.context p' = past.context p := by
  cases past with
  | came entry => exact Process.start_of_matter same entry
  | trapped saved => rfl

/-- A kernel, and what its processes were seen with. -/
structure Diary where
  kernel : Kernel
  /-- What was seen of the processes, the latest first. -/
  pasts : List (ProcessId × Past)
  /-- The context of the latest trap that no process took. -/
  home : Option Context

namespace Diary

/-- The diary begins with the processes of the configuration. -/
def initial (k : Kernel) : Diary where
  kernel := k
  pasts := k.config.processes.filterMap fun c =>
    (k.registry.table.position c.name).map fun i => (k.registry.table.idAt i, .came c.entry)
  home := none

/-- The diary once an event has made `k` of the kernel. -/
def write (d : Diary) (k : Kernel) : Note → Diary
  | .nothing => { d with kernel := k }
  | .arrival id entry => { d with kernel := k, pasts := (id, .came entry) :: d.pasts }
  | .trap saved =>
    { kernel := k
      pasts := (d.kernel.running.map fun id => (id, .trapped saved)).toList ++ d.pasts
      home := if d.kernel.running.isSome then d.home else some saved }

/-- The diary after an event. -/
def step (d : Diary) (e : KernelEvent) : Diary := d.write (d.kernel.step e) (d.kernel.note e)

/-- The context with which the process is to go on. -/
def due (d : Diary) (id : ProcessId) (p : Process) : Option Context :=
  (d.pasts.lookup id).map (·.context p)

theorem kernel_write (d : Diary) (k : Kernel) (n : Note) : (d.write k n).kernel = k := by
  cases n <;> rfl

/-- The kernel goes its way, whatever is written down. -/
theorem kernel_steps (d : Diary) (events : List KernelEvent) :
    (events.foldl step d).kernel = events.foldl Kernel.step d.kernel := by
  induction events generalizing d with
  | nil => rfl
  | cons e events ih =>
    rw [List.foldl_cons, List.foldl_cons, ih]
    rw [step, kernel_write]

end Diary

namespace Registry

open ProcessTable

variable {r r' : Registry} {id : ProcessId} {pasts : List (ProcessId × Past)} {past : Past}
  {saved : Context} {ran kept : Option ProcessId}

/-- Every process holds the context with which it is to go on. -/
def Dues (r : Registry) (pasts : List (ProcessId × Past)) : Prop :=
  ∀ id p, r.get id = some p → ∃ past, pasts.lookup id = some past ∧ p.Holds (past.context p)

namespace Dues

theorem sameMatter (h : r.Dues pasts) (same : r.SameMatter r') : r'.Dues pasts := by
  intro id p' got
  obtain ⟨p, before, matter⟩ := same.get got
  obtain ⟨past, latest, holds⟩ := h id p before
  refine ⟨past, latest, ?_⟩
  rw [Past.context_of_matter matter]
  exact holds.of_matter matter

/-- One process is seen anew. -/
theorem cons (h : r.Dues pasts) (self : ∀ p, r'.get id = some p → p.Holds (past.context p))
    (others : ∀ id' p, id' ≠ id → r'.get id' = some p → r.get id' = some p) :
    r'.Dues ((id, past) :: pasts) := by
  intro id' p got
  by_cases eq : id' = id
  · subst eq
    exact ⟨past, List.lookup_cons_self, self p got⟩
  · obtain ⟨past', latest, holds⟩ := h id' p (others id' p eq got)
    refine ⟨past', ?_, holds⟩
    rw [List.lookup_cons, beq_false_of_ne eq]
    exact latest

theorem arrive {q : Process} {entry : UInt32} (h : r.Dues pasts)
    (joins : r.table.Joins r'.table id)
    (process : ∀ j, r'.table.process? j = if id.index = j then some q else r.table.process? j)
    (holds : q.Holds (q.start entry)) : r'.Dues ((id, .came entry) :: pasts) := by
  refine h.cons (fun p got => ?_) fun id' p other got => ?_
  · rcases get_joins joins process got with ⟨-, rfl⟩ | ⟨other, -⟩
    · exact holds
    · exact absurd rfl other
  · exact ((get_joins joins process got).resolve_left fun same => other same.1).2

theorem save (h : r.Dues pasts) (done : r.saveContext id saved = .ok r') :
    r'.Dues ((id, .trapped saved) :: pasts) := by
  refine h.cons (fun p got => ?_) fun id' p other got => ?_
  · rcases get_saveContext done got with ⟨-, q, before, rfl⟩ | ⟨other, -⟩
    · obtain ⟨past, -, holds⟩ := h id q before
      exact Process.holds_saveContext holds.length saved
    · exact absurd rfl other
  · exact ((get_saveContext done got).resolve_left fun same => other same.1).2

/-- The process that trapped was seen with what it trapped with, whatever became of it. -/
theorem entered (h : r.Dues pasts) (half : Entered saved r ran kept r') :
    r'.Dues ((ran.map fun id => (id, .trapped saved)).toList ++ pasts) := by
  cases half with
  | nobody => exact h
  | keeps done => exact h.save done
  | parks done parked => exact (h.save done).sameMatter (.parkBlocked parked)
  | ends done =>
    obtain ⟨leaves, -, process⟩ := destroy_process done
    refine h.cons (fun p got => ?_) fun id' p _ got => ?_
    · exact absurd rfl (get_leaves leaves process got).1
    · exact (get_leaves leaves process got).2

/-- What a trap does to the processes after that leaves their contexts alone. -/
theorem trapped {r₁ r₂ : Registry} {next : Option ProcessId} (h : r.Dues pasts)
    (half : Entered saved r ran kept r₁) (between : r₁.Rearranged r₂)
    (chosen : Chosen r₂ kept next r') :
    r'.Dues ((ran.map fun id => (id, .trapped saved)).toList ++ pasts) :=
  ((h.entered half).sameMatter between.toSameMatter).sameMatter chosen.sameMatter

end Dues

/-! ### The processes of the configuration -/

/-- The processes are those that were loaded, each to start where it was configured to. -/
structure Loaded (r : Registry) (configs : List ProcessConfig) : Prop where
  present : ∀ c ∈ configs, ∃ i p, r.table.process? i = some p ∧ p.name = c.name
  configured : ∀ i p, r.table.process? i = some p → ∃ c ∈ configs, c.name = p.name
  starts : ∀ i p, r.table.process? i = some p → ∀ c ∈ configs, c.name = p.name →
    p.Holds (p.start c.entry)

namespace Loaded

variable {configs : List ProcessConfig} {m m' : Memory}

theorem empty : Registry.empty.Loaded [] := ⟨nofun, nofun, nofun⟩

theorem sameMatter (h : r.Loaded configs) (same : r.SameMatter r') : r'.Loaded configs := by
  refine ⟨fun c member => ?_, fun i p' found => ?_, fun i p' found c member name => ?_⟩
  · obtain ⟨i, p, found, name⟩ := h.present c member
    have after := same.matter i
    rw [found] at after
    obtain ⟨p', found', matter⟩ := Option.map_eq_some_iff.mp after
    exact ⟨i, p', found', (Process.name_of_matter matter).trans name⟩
  · obtain ⟨p, before, matter⟩ := same.process found
    obtain ⟨c, member, name⟩ := h.configured i p before
    exact ⟨c, member, name.trans (Process.name_of_matter matter).symm⟩
  · obtain ⟨p, before, matter⟩ := same.process found
    rw [Process.start_of_matter matter]
    have starts := h.starts i p before c member (name.trans (Process.name_of_matter matter))
    exact starts.of_matter matter

/-- A process with a new name is loaded. -/
theorem load {order : Order} {c : ProcessConfig} (h : r.Loaded configs) (hs : r.Sound order)
    (done : r.load m c.name c.owner c.priority.toNat c.entry = .ok (id, r', m')) :
    r'.Loaded (configs ++ [c]) := by
  obtain ⟨r₁, created, -⟩ := load_ok done
  obtain ⟨-, -, -, -, unused, -, -⟩ := create_ok created
  obtain ⟨record, joins, -, process⟩ := hs.load_process done
  let q : Process := entering .readySuspended r.round ((entering .ready r.round
    (.create c.name c.owner c.priority.toNat record)).prepare c.entry)
  have old : ∀ j p, r.table.process? j = some p → r'.table.process? j = some p := by
    intro j p found
    rw [process, if_neg]
    · exact found
    · rintro rfl
      exact joins.fresh (live_iff.mpr ⟨p, found⟩)
  have self : r'.table.process? id.index = some q := by
    rw [process, if_pos rfl]
  have holds : q.Holds (q.start c.entry) :=
    holds_loaded c.name c.owner c.priority.toNat record r.round c.entry
  -- a process is the new one, or was there and has another name
  have cases : ∀ j p, r'.table.process? j = some p →
      p = q ∨ r.table.process? j = some p ∧ p.name ≠ c.name := by
    intro j p found
    rw [process] at found
    split at found
    · exact Or.inl (Option.some.inj found).symm
    · exact Or.inr ⟨found, unused j p found⟩
  refine ⟨fun c' member => ?_, fun j p found => ?_, fun j p found c' member name => ?_⟩
  · rcases List.mem_append.mp member with member | member
    · obtain ⟨j, p, found, name⟩ := h.present c' member
      exact ⟨j, p, old j p found, name⟩
    · rw [List.mem_singleton.mp member]
      exact ⟨id.index, q, self, rfl⟩
  · rcases cases j p found with rfl | ⟨before, -⟩
    · exact ⟨c, List.mem_append_right _ List.mem_cons_self, rfl⟩
    · obtain ⟨c', member, name⟩ := h.configured j p before
      exact ⟨c', List.mem_append_left _ member, name⟩
  · rcases List.mem_append.mp member with member | member <;>
      rcases cases j p found with rfl | ⟨before, other⟩
    · obtain ⟨j', p', found', name'⟩ := h.present c' member
      exact absurd (name'.trans name) (unused j' p' found')
    · exact h.starts j p before c' member name
    · rw [List.mem_singleton.mp member]
      exact holds
    · rw [List.mem_singleton.mp member] at name
      exact absurd name.symm other

theorem loadAll {rest : List ProcessConfig} (h : r.Loaded configs) (runs : r.Runs [])
    (done : Kernel.loadAll r m rest = .ok (r', m')) : r'.Loaded (configs ++ rest) := by
  induction rest generalizing r m configs with
  | nil =>
    cases done
    rw [List.append_nil]
    exact h
  | cons c rest ih =>
    obtain ⟨⟨id, r₁, m₁⟩, loaded, done⟩ := ok_of_bind done
    obtain ⟨order, hs⟩ := runs.sound
    obtain ⟨-, -, -, runs₁, -⟩ := runs.load loaded
    have after := ih (h.load hs loaded) runs₁ done
    rw [List.append_assoc] at after
    exact after

/-- What was loaded is written down at the beginning. -/
theorem dues {order : Order} (h : r.Loaded configs) (hs : r.Sound order) :
    r.Dues (configs.filterMap fun c =>
      (r.table.position c.name).map fun i => (r.table.idAt i, Past.came c.entry)) := by
  intro id p got
  obtain ⟨i, resolved, found⟩ := get_eq_some.mp got
  have named : ∀ c ∈ configs, c.name = p.name → r.table.position c.name = some i := fun c _ name =>
    hs.roster.position_eq_some.mpr ⟨p, found, name.symm⟩
  have only : ∀ c ∈ configs, ∀ j, r.table.position c.name = some j → r.table.idAt j = id →
      c.name = p.name := by
    intro c _ j position same
    obtain ⟨p', found', name'⟩ := position_eq_some position
    have resolved' := resolve_idAt (live_iff.mpr ⟨p', found'⟩)
    rw [same, resolved] at resolved'
    obtain rfl := Option.some.inj resolved'
    obtain rfl := Option.some.inj (found.symm.trans found')
    exact name'.symm
  have starts := h.starts i p found
  obtain ⟨c, member, name⟩ := h.configured i p found
  have idAt := idAt_of_resolve resolved
  clear h got
  induction configs with
  | nil => cases member
  | cons c' configs ih =>
    have rest := ih (fun c member => named c (List.mem_cons_of_mem c' member))
      (fun c member => only c (List.mem_cons_of_mem c' member))
      (fun c member => starts c (List.mem_cons_of_mem c' member))
    by_cases eq : c'.name = p.name
    · have position := named c' List.mem_cons_self eq
      refine ⟨.came c'.entry, ?_, starts c' List.mem_cons_self eq⟩
      rw [List.filterMap_cons, position, Option.map_some, idAt]
      exact List.lookup_cons_self
    · have later : c ∈ configs := by
        refine (List.mem_cons.mp member).resolve_left ?_
        rintro rfl
        exact eq name
      obtain ⟨past, latest, holds⟩ := rest later
      refine ⟨past, ?_, holds⟩
      rw [List.filterMap_cons]
      cases position : r.table.position c'.name with
      | none => exact latest
      | some j =>
        have other : id ≠ r.table.idAt j := fun same =>
          eq (only c' List.mem_cons_self j position same.symm)
        rw [Option.map_some]
        simp only []
        rw [List.lookup_cons, beq_false_of_ne other]
        exact latest

end Loaded

end Registry

namespace Diary

open Registry ProcessTable Kernel

variable {d : Diary} {k k' : Kernel} {c : KernelConfig} {uart : Uart} {saved : Context}

/-- What the diary says is what the kernel will do, until it is halted. -/
structure Kept (d : Diary) : Prop where
  rest : d.kernel.AtRest
  dues : d.kernel.halted = none → d.kernel.registry.Dues d.pasts
  home : d.kernel.halted = none → d.kernel.bootContext = d.home

namespace Kept

theorem homeAt (h : d.Kept) (on : d.kernel.halted = none) (saved : Context) :
    (d.write k (.trap saved)).home = d.kernel.homeAt saved := by
  rw [Kernel.homeAt, h.home on]
  rfl

/-- A trap that succeeds. -/
theorem dispatch {answer : Context} (h : d.Kept)
    (done : d.kernel.dispatch saved = (.ok answer, k')) :
    k'.registry.Dues (d.write k' (.trap saved)).pasts ∧
      k'.bootContext = (d.write k' (.trap saved)).home ∧
      k'.Resumes ((d.kernel.homeAt saved).getD saved) answer := by
  have on := on_of_dispatch done
  obtain ⟨kept, r₁, r₂, half, between, chosen, -, -, home, resumes⟩ :=
    dispatch_cases on (h.rest.runs_running on) done
  exact ⟨(h.dues on).trapped half between chosen, home.trans (h.homeAt on saved).symm, resumes⟩

theorem trap (h : d.Kept) (saved : Context) :
    (d.write (d.kernel.dispatch saved).2 (.trap saved)).Kept := by
  refine ⟨h.rest.dispatch saved, fun on' => ?_, fun on' => ?_⟩
  · obtain ⟨answer, done⟩ := dispatch_on h.rest.runs_running on'
    exact (h.dispatch done).1
  · obtain ⟨answer, done⟩ := dispatch_on h.rest.runs_running on'
    exact (h.dispatch done).2.1

theorem outcome {n : Note} (h : d.Kept) (outcome : d.kernel.Outcome n k') :
    (d.write k' n).Kept := by
  have rest := h.rest.outcome outcome
  cases outcome with
  | outside slot port shared shutdownRequested => exact ⟨rest, h.dues, h.home⟩
  | moved moves =>
    refine ⟨rest, fun on => ?_, h.home⟩
    obtain ⟨order, hs⟩ := (h.rest.runs_running on).sound
    exact (h.dues on).sameMatter (moves order hs).2.toSameMatter
  | created done =>
    refine ⟨rest, fun on => ?_, h.home⟩
    obtain ⟨order, hs⟩ := (h.rest.runs_running on).sound
    obtain ⟨record, joins, -, process⟩ := hs.create_process done
    exact (h.dues on).arrive joins process (holds_created ..)
  | loaded done =>
    refine ⟨rest, fun on => ?_, h.home⟩
    obtain ⟨order, hs⟩ := (h.rest.runs_running on).sound
    obtain ⟨record, joins, -, process⟩ := hs.load_process done
    exact (h.dues on).arrive joins process (holds_loaded ..)
  | deleted done =>
    refine ⟨rest, fun on => ?_, h.home⟩
    obtain ⟨leaves, -, process⟩ := delete_process done
    intro id p got
    exact h.dues on id p (get_leaves leaves process got).2
  | trapped slot saved =>
    have posted : Kept { d with kernel := { d.kernel with slot } } :=
      ⟨⟨h.rest.runs, h.rest.home⟩, h.dues, h.home⟩
    exact posted.trap saved
  | down =>
    obtain ⟨who, -, -, runs⟩ := h.rest.runs
    obtain ⟨-, vacant, -, halted, home⟩ := shutdown_vacant runs
    refine ⟨rest, fun on => ?_, fun on => ?_⟩
    · intro id p got
      obtain ⟨i, -, found⟩ := get_eq_some.mp got
      exact absurd (live_iff.mpr ⟨p, found⟩) (vacant i)
    · exact home.trans (h.home (halted.symm.trans on))

theorem boot (booted : Kernel.boot c uart = .ok k) : (initial k).Kept := by
  have rest := AtRest.boot booted
  obtain ⟨m, port, record, m₁, r, m₂, -, -, -, loaded, rfl⟩ := boot_eq booted
  refine ⟨rest, fun on => ?_, fun _ => rfl⟩
  obtain ⟨order, hs⟩ := (rest.runs_running on).sound
  obtain ⟨order', hs'⟩ := (runs_loadAll loaded).sound
  have known : r.Loaded c.processes := Loaded.empty.loadAll runs_empty loaded
  exact (known.sameMatter hs'.rearranged_resumeAll.toSameMatter).dues hs

theorem steps (booted : Kernel.boot c uart = .ok k) (events : List KernelEvent) :
    (events.foldl step (initial k)).Kept := by
  induction events using List.reverseRecOn with
  | nil => exact boot booted
  | append_singleton events e ih =>
    rw [List.foldl_append]
    exact ih.outcome (Kernel.outcome _ e)

end Kept

/-- Whatever has happened to a kernel since it was booted, a process that is resumed goes on with
the context of its latest trap, or starts where it was loaded to start. If none is resumed, the
kernel returns to the context of the latest trap that no process took. -/
theorem resumes_steps (booted : Kernel.boot c uart = .ok k) (events : List KernelEvent)
    {answer : Context} :
    let d := events.foldl step (initial k)
    d.kernel.dispatch saved = (.ok answer, k') →
      let d' := d.write k' (.trap saved)
      (∀ id, k'.running = some id →
        ∃ p, k'.registry.get id = some p ∧ d'.due id p = some answer) ∧
        (k'.running = none → d'.home = some answer) := by
  intro d done d'
  have kept : d.Kept := Kept.steps booted events
  have on : d.kernel.halted = none := on_of_dispatch done
  obtain ⟨dues, -, resumes⟩ := kept.dispatch done
  refine ⟨fun id running => ?_, fun running => ?_⟩
  · rw [Resumes, running] at resumes
    obtain ⟨p, got, rfl⟩ := context_ok resumes
    obtain ⟨past, latest, holds⟩ := dues id p got
    refine ⟨p, got, ?_⟩
    rw [due, latest]
    exact congrArg some holds.context.symm
  · rw [Resumes, running] at resumes
    obtain ⟨home, eq⟩ := Option.isSome_iff_exists.mp (kept.rest.homeAt_isSome on saved)
    rw [eq] at resumes
    rw [resumes]
    exact (kept.homeAt on saved).trans eq

/-- The two processes of the default configuration take turns. -/
def alternating : List KernelEvent :=
  [.call (.dispatch .zero), .call (.post (.control .idle)),
    .call (.dispatch { Context.zero with eax := 7 }), .call (.post (.control .idle))]

/-- The first of them goes on where it trapped. -/
theorem resumes_steps_alternating :
    ∃ k k', Kernel.boot {} (Uart.create com1 true) = .ok k ∧
      let d := alternating.foldl step (initial k)
      d.kernel.dispatch .zero = (.ok { Context.zero with eax := 7 }, k') ∧
        k'.runningName = some "idle" ∧
        let d' := d.write k' (.trap .zero)
        (∀ id, k'.running = some id → ∃ p, k'.registry.get id = some p ∧
          d'.due id p = some { Context.zero with eax := 7 }) ∧
          (k'.running = none → d'.home = some { Context.zero with eax := 7 }) := by
  have ends : ((Kernel.boot {} (Uart.create com1 true)).toOption.map fun k =>
      let answer := (alternating.foldl step (initial k)).kernel.dispatch .zero
      (answer.1.toOption, answer.2.runningName)) =
        some (some { Context.zero with eax := 7 }, some "idle") := by decide +kernel
  obtain ⟨k, booted, seen⟩ := ok_of_seen ends
  cases done : (alternating.foldl step (initial k)).kernel.dispatch .zero with
  | mk result k' =>
    simp only [done, Prod.mk.injEq] at seen
    obtain ⟨answered, running⟩ := seen
    cases result with
    | error fatal => cases answered
    | ok answer =>
      obtain rfl := Option.some.inj answered
      exact ⟨k, k', booted, done, running, resumes_steps booted alternating done⟩

end Diary

end TrapKernel
