import TrapKernel.Proofs.Process.Calls

/-!
# A registry as lists of cards

What a registry is to those who use it: for each state the cards of the processes in it, from the
first to the last. A process that goes to another state is taken out of its list and put into the
other one, and nobody else moves. Links, slots and stacks do not occur here, and what leads where
is said anew: `StateChange.arrows` and `Card.ranks` have tables of their own.
-/

namespace TrapKernel

/-- What there is to say of a process. -/
structure Card where
  id : ProcessId
  name : String
  owner : ProcessClass
  priority : Nat
  state : ProcessState
  context : Context
  /-- The address of its record. -/
  record : Nat
  /-- The round for which it waits, while it is ready. -/
  round : Nat
  /-- How many cards were put into a list before this one was put where it is. -/
  since : Nat

namespace Card

/-- A card stays ahead of one that is put into its list later. Rounds count among the ready only;
a list without priorities is first come, first served. -/
def staysAhead (c late : Card) : Bool :=
  match late.state with
  | .ready => c.round < late.round ∨ c.round = late.round ∧ late.priority ≤ c.priority
  | .readySuspended => late.priority ≤ c.priority
  | .running | .blocked | .blockedSuspended => true

/-- The list of a state is kept by priority. -/
def ranks : ProcessState → Bool
  | .ready | .readySuspended => true
  | .running | .blocked | .blockedSuspended => false

/-- The queue in which a process with this card is found. -/
def queue? (c : Card) : Option QueueKind :=
  match c.state with
  | .running => none
  | .ready => some .ready
  | .blocked => some .blocked
  | .readySuspended => some .suspendedReady
  | .blockedSuspended => some .suspendedBlocked

/-- Put a card into a list, behind all that stay ahead of it. -/
def put (c : Card) (l : List Card) : List Card :=
  l.filter (·.staysAhead c) ++ c :: l.filter (!·.staysAhead c)

/-- The card of a process that changes its state. Only the ready have a round. -/
def goingTo (c : Card) (state : ProcessState) (round : Nat) : Card :=
  { c with state, round := if state = .ready then round else 0 }

/-- `c` is dispatched before `d`: its round is earlier, or its priority is higher, or it has waited
longer. -/
def Earlier (c d : Card) : Prop :=
  c.round < d.round ∨ c.round = d.round ∧
    (d.priority < c.priority ∨ d.priority = c.priority ∧ c.since < d.since)

/-- The context from which a process starts at `entry`. -/
def start (record : Nat) (entry : UInt32) : Context :=
  .initial entry (.ofNat record) (.ofNat record + .ofNat Process.contextOffset)

/-- What is shown of the process. -/
def info (c : Card) : ProcessInfo := ⟨c.id, c.name, c.owner, c.state, c.priority⟩

end Card

/-- A change of state that is asked for. -/
inductive StateChange where
  | block
  | unblock
  | suspend
  | resume

namespace StateChange

/-- From which state to which one a change leads. Nobody who runs is changed. -/
def arrows : StateChange → List (ProcessState × ProcessState)
  | block => [(.ready, .blocked), (.readySuspended, .blockedSuspended)]
  | unblock => [(.blocked, .ready), (.blockedSuspended, .readySuspended)]
  | suspend => [(.ready, .readySuspended), (.blocked, .blockedSuspended)]
  | resume => [(.readySuspended, .ready), (.blockedSuspended, .blocked)]

/-- Where a change leads from a state, if it leads anywhere. -/
def target (change : StateChange) (s : ProcessState) : Option ProcessState := change.arrows.lookup s

end StateChange

/-- The handles that were given out: the generation of every slot, and the slots to use again. -/
structure Handles where
  generations : List UInt32
  vacant : List Nat

namespace Handles

/-- The next handle. -/
def next (h : Handles) : ProcessId × Handles :=
  match h.vacant with
  | [] => (⟨h.generations.length, 0⟩, { h with generations := h.generations ++ [0] })
  | i :: vacant => (⟨i, h.generations[i]?.getD 0⟩, { h with vacant })

/-- The process of a handle is gone, and its slot will be used again. -/
def retire (h : Handles) (id : ProcessId) : Handles :=
  ⟨h.generations.modify id.index (· + 1), id.index :: h.vacant⟩

end Handles

/-- The cards of all processes. -/
structure Roll where
  /-- The processes in a state, from the first to the last. -/
  list : ProcessState → List Card
  /-- The round that is being dispatched. -/
  round : Nat
  handles : Handles
  /-- How many cards were put into a list. -/
  clock : Nat

namespace Roll

/-- There are no processes. -/
def empty : Roll := ⟨fun _ => [], 0, ⟨[], []⟩, 0⟩

/-- The cards of all processes. -/
def all (m : Roll) : List Card :=
  [ProcessState.running, .ready, .blocked, .readySuspended, .blockedSuspended].flatMap m.list

/-- The card of the process with this name. -/
def named (m : Roll) (name : String) : Option Card := m.all.find? (·.name = name)

/-- The card of the process with this handle. -/
def holder (m : Roll) (id : ProcessId) : Option Card := m.all.find? (·.id = id)

/-! ### What happens to a card -/

/-- Take the card of a process out of its list. -/
def without (m : Roll) (id : ProcessId) : Roll :=
  { m with list := fun s => (m.list s).filter (·.id ≠ id) }

/-- Put a card into the list of its state. -/
def enter (m : Roll) (c : Card) : Roll :=
  let c := { c with since := m.clock }
  { m with
    list := fun s => if s = c.state then c.put (m.list s) else m.list s
    clock := m.clock + 1 }

/-- Change a card where it is. -/
def rewrite (m : Roll) (c : Card) (f : Card → Card) : Roll :=
  { m with
    list := fun s =>
      if s = c.state then (m.list s).map fun d => if d.id = c.id then f d else d else m.list s }

/-- A process goes to another state, in the current round. -/
def moveTo (m : Roll) (c : Card) (state : ProcessState) : Roll :=
  (m.without c.id).enter (c.goingTo state m.round)

/-- A process goes along one axis. -/
def shift (m : Roll) (c : Card) (target : ProcessState → Option ProcessState) : Bool × Roll :=
  match target c.state with
  | none => (false, m)
  | some state => (true, m.moveTo c state)

/-- All processes of a list go to another one, the first of them first. -/
def drain (m : Roll) (source target : ProcessState) : Nat × Roll :=
  ((m.list source).length, (m.list source).foldl (fun m c => m.moveTo c target) m)

/-! ### What can be asked -/

/-- What is asked of the process with this name. -/
def withName {α : Type} (m : Roll) (name : String) (f : Card → Except RegistryError α) :
    Except RegistryError α :=
  match m.named name with
  | none => .error (.notFound name)
  | some c => f c

/-- What is asked of the process with this handle. -/
def withHandle {α : Type} (m : Roll) (id : ProcessId) (f : Card → Except RegistryError α) :
    Except RegistryError α :=
  match m.holder id with
  | none => .error .staleHandle
  | some c => f c

/-- Make the card of a new process, which is ready. -/
def create (m : Roll) (memory : Memory) (name : String) (owner : ProcessClass) (priority : Nat) :
    Except RegistryError ((ProcessId × Memory) × Roll) :=
  if name.length < minNameLength ∨ maxNameLength < name.length then .error (.invalidName name)
  else if maxPriority < priority then .error (.invalidPriority priority)
  else if (m.named name).isSome then .error (.duplicateName name)
  else
    match memory.allocate recordSize with
    | .error cause => .error (.outOfMemory cause)
    | .ok (record, memory) =>
      let (id, handles) := m.handles.next
      let c : Card :=
        ⟨id, name, owner, priority, .ready, Card.start record 0, record, m.round, 0⟩
      .ok ((id, memory), { m with handles }.enter c)

/-- Make the card of a new process, and suspend it where it starts at `entry`. -/
def load (m : Roll) (memory : Memory) (name : String) (owner : ProcessClass) (priority : Nat)
    (entry : UInt32) : Except RegistryError ((ProcessId × Memory) × Roll) := do
  let ((id, memory), m) ← m.create memory name owner priority
  match m.holder id with
  | none => throw .staleHandle
  | some c =>
    return ((id, memory),
      m.moveTo { c with context := Card.start c.record entry } .readySuspended)

/-- Throw the card of a process away, and give back its record. -/
def destroy (m : Roll) (memory : Memory) (id : ProcessId) : Except RegistryError (Memory × Roll) :=
  m.withHandle id fun c =>
    .ok (memory.release c.record, { m.without id with handles := m.handles.retire id })

/-- Throw away the card of a process that does not run. -/
def delete (m : Roll) (memory : Memory) (name : String) :
    Except RegistryError ((ProcessId × Memory) × Roll) :=
  m.withName name fun c =>
    if c.state = .running then .error (.running name)
    else (m.destroy memory c.id).map fun (memory, m) => ((c.id, memory), m)

/-- A process that does not run goes along one axis. -/
def shiftIdle (m : Roll) (c : Card) (target : ProcessState → Option ProcessState) :
    Except RegistryError (Bool × Roll) :=
  if c.state = .running then .error (.running c.name) else .ok (m.shift c target)

/-- The process with this name, if there is one, goes along one axis. -/
def shiftNamed (m : Roll) (name : String) (target : ProcessState → Option ProcessState) :
    Bool × Roll :=
  match m.named name with
  | none => (false, m)
  | some c => m.shift c target

/-- Resume every suspended process. -/
def resumeAll (m : Roll) : Nat × Roll :=
  let (fromReady, m) := m.drain .readySuspended .ready
  let (fromBlocked, m) := m.drain .blockedSuspended .blocked
  (fromReady + fromBlocked, m)

/-- Change a priority. Where priorities count the card is put into its list anew, in the same round;
elsewhere it stays where it is. -/
def setPriority (m : Roll) (name : String) (priority : Nat) : Except RegistryError (Unit × Roll) :=
  if maxPriority < priority then .error (.invalidPriority priority)
  else m.withName name fun c =>
    if Card.ranks c.state then
      .ok ((), (m.without c.id).enter ({ c with priority }.goingTo c.state c.round))
    else .ok ((), m.rewrite c ({ · with priority }))

/-- The first ready process begins to run, and its round becomes the current one. -/
def takeReadyHead (m : Roll) : Option ProcessId × Roll :=
  match m.list .ready with
  | [] => (none, m)
  | c :: _ =>
    (some c.id, { (m.without c.id).enter { c with state := .running } with
      round := max m.round c.round })

/-- What the roll answers to a call, and the roll afterwards. -/
def perform {α : Type} (m : Roll) : Registry.Call α → α × Roll
  | .create memory name owner priority => settled m (m.create memory name owner priority)
  | .load memory name owner priority entry =>
    settled m (m.load memory name owner priority entry)
  | .delete memory name => settled m (m.delete memory name)
  | .destroy memory id => settled m (m.destroy memory id)
  | .block name => settled m (m.withName name (m.shiftIdle · StateChange.block.target))
  | .unblock name => settled m (m.withName name (m.shiftIdle · StateChange.unblock.target))
  | .release id => settled m (m.withHandle id (m.shiftIdle · StateChange.unblock.target))
  | .suspend name => m.shiftNamed name StateChange.suspend.target
  | .resume name => m.shiftNamed name StateChange.resume.target
  | .resumeAll => m.resumeAll
  | .setPriority name priority => settled m (m.setPriority name priority)
  | .takeReadyHead => m.takeReadyHead
  | .requeueYielded id => settled m (m.withHandle id fun c =>
      .ok ((), (m.without id).enter (c.goingTo .ready (c.round + 1))))
  | .parkBlocked id => settled m (m.withHandle id fun c =>
      .ok ((), (m.without id).enter (c.goingTo .blocked m.round)))
  | .saveContext id context => settled m (m.withHandle id fun c =>
      .ok ((), m.rewrite c ({ · with context })))
  | .context id => (m.withHandle id fun c => .ok c.context, m)
  | .find name => ((m.named name).bind (·.queue?), m)
  | .show name => ((m.named name).map (·.info), m)
  | .isSystem name => ((m.named name).map (·.owner = .system), m)
  | .showReady => ((m.list .ready ++ m.list .readySuspended).map (·.info), m)
  | .showBlocked => ((m.list .blocked ++ m.list .blockedSuspended).map (·.info), m)

/-- The roll after some calls. -/
def after (m : Roll) (calls : List Registry.AnyCall) : Roll :=
  calls.foldl (fun m c => (m.perform c.2).2) m

end Roll

end TrapKernel
