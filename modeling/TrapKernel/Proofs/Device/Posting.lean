import TrapKernel.Proofs.Device.Agreement
import TrapKernel.Proofs.Serial.Carried

/-!
# Transfers that were submitted

A `Posting` tells of a transfer that was submitted what was in its buffer, and what has become of
it. Of a list of them, the first that waits is handed to the driver next; it is then what the driver
works on, or has ended.
-/

namespace TrapKernel

open SerialPort

/-- What has become of a transfer that was submitted. -/
inductive Fate where
  /-- The device did not accept it. -/
  | rejected (error : SubmitError)
  | waiting
  | cancelled
  /-- The driver did not accept it. -/
  | refused (error : TransferError)
  /-- The driver works on it. -/
  | working
  /-- It ended, and this was in its buffer then. -/
  | done (after : Buffer)
  deriving DecidableEq

namespace Fate

/-- The transfer still needs its buffer. -/
def isOpen : Fate → Bool
  | waiting | working => true
  | rejected _ | cancelled | refused _ | done _ => false

/-- The transfer was handed to the driver. -/
def isHanded : Fate → Bool
  | refused _ | working | done _ => true
  | rejected _ | waiting | cancelled => false

end Fate

/-- A transfer that was submitted. -/
structure Posting where
  transfer : Transfer
  /-- The buffer when it was submitted. -/
  buffer : Buffer
  fate : Fate

namespace Posting

/-- The bytes that it sent, if it is done. -/
def sent (p : Posting) : List UInt8 :=
  match p.fate, p.transfer.direction with
  | .done _, .write => p.buffer.contents
  | _, _ => []

/-- A write that is done counts the bytes that it sent, and left them in its buffer. -/
def Counted (p : Posting) : Prop :=
  ∀ after, p.fate = .done after → p.transfer.direction = .write →
    after.count = p.buffer.contents.length ∧ after.data = p.buffer.data

/-- At most one of two transfers needs the buffer. -/
def Apart (p q : Posting) : Prop :=
  p.fate.isOpen = true → q.fate.isOpen = true → p.transfer.buffer ≠ q.transfer.buffer

/-- The transfer is cancelled, if it waits and is one of this process. -/
def cancel (owner : ProcessId) (p : Posting) : Posting :=
  if p.fate = .waiting ∧ p.transfer.owner = owner then { p with fate := .cancelled } else p

/-- The transfer is done, if the driver worked on it and has nothing to do any more. -/
def finish (port : SerialPort) (shared : Shared) (p : Posting) : Posting :=
  if p.fate = .working ∧ port.Idle then
    { p with fate := .done (shared.buffer p.transfer.buffer) }
  else p

/-- The transfers that wait. -/
def queue (l : List Posting) : List Transfer :=
  (l.filter (·.fate = .waiting)).map (·.transfer)

/-- The first transfer that waits is handed to the driver. -/
def startFirst (fate : Transfer → Fate) : List Posting → List Posting
  | [] => []
  | p :: ps =>
    if p.fate = .waiting then { p with fate := fate p.transfer } :: ps
    else p :: startFirst fate ps

end Posting

/-- What becomes of a transfer that is handed to the driver. -/
def Device.fate (d : Device) (s : Shared) (t : Transfer) : Fate :=
  match d.answer s t with
  | .error e => .refused e
  | .ok (port, s') => if port.Idle then .done (s'.buffer t.buffer) else .working

/-! ### Postings -/

namespace Posting

variable {p q : Posting} {before : List UInt8} {port : SerialPort} {s : Shared}

theorem sent_of_unhanded (unhanded : p.fate.isHanded = false) : p.sent = [] := by
  unfold sent
  cases fate : p.fate with
  | done after =>
    rw [fate] at unhanded
    cases unhanded
  | rejected | waiting | cancelled | refused | working => rfl

theorem flatMap_sent_of_unhanded {l : List Posting} (unhanded : ∀ p ∈ l, p.fate.isHanded = false) :
    l.flatMap (·.sent) = [] :=
  List.flatMap_eq_nil_iff.mpr fun p member => sent_of_unhanded (unhanded p member)

theorem not_waiting_of_closed (closed : p.fate.isOpen = false) : p.fate ≠ .waiting := by
  intro waiting
  rw [waiting] at closed
  cases closed

theorem not_working_of_closed (closed : p.fate.isOpen = false) : p.fate ≠ .working := by
  intro working
  rw [working] at closed
  cases closed

theorem not_working_of_unhanded (unhanded : p.fate.isHanded = false) : p.fate ≠ .working := by
  intro working
  rw [working] at unhanded
  cases unhanded

theorem not_working {earlier later : List Posting} (closed : ∀ p ∈ earlier, p.fate.isOpen = false)
    (unhanded : ∀ p ∈ later, p.fate.isHanded = false) :
    ∀ p ∈ earlier ++ later, p.fate ≠ .working := by
  intro p member
  rcases List.mem_append.mp member with member | member
  · exact not_working_of_closed (closed p member)
  · exact not_working_of_unhanded (unhanded p member)

theorem closed_of_unhanded (unhanded : p.fate.isHanded = false) (other : p.fate ≠ .waiting) :
    p.fate.isOpen = false := by
  cases fate : p.fate with
  | waiting => exact absurd fate other
  | working =>
    rw [fate] at unhanded
    cases unhanded
  | rejected | cancelled | refused | done => rfl

theorem queue_append (l l' : List Posting) : queue (l ++ l') = queue l ++ queue l' := by
  rw [queue, List.filter_append, List.map_append]
  rfl

theorem queue_cons (p : Posting) (l : List Posting) :
    queue (p :: l) = if p.fate = .waiting then p.transfer :: queue l else queue l := by
  by_cases waits : p.fate = .waiting <;> simp [queue, waits]

theorem queue_eq_nil {l : List Posting} : queue l = [] ↔ ∀ q ∈ l, q.fate ≠ .waiting := by
  simp [queue]

/-- Where the first transfer that waits stands. -/
theorem queue_eq_cons {l : List Posting} {t : Transfer} {ts : List Transfer}
    (queued : queue l = t :: ts) : ∃ before p after, l = before ++ p :: after ∧
      (∀ q ∈ before, q.fate ≠ .waiting) ∧ p.fate = .waiting ∧ p.transfer = t ∧
      queue after = ts := by
  obtain ⟨p, ps, filtered, transfer, rest⟩ := List.map_eq_cons_iff.mp queued
  obtain ⟨before, after, split, none, waits, after'⟩ := List.filter_eq_cons_iff.mp filtered
  refine ⟨before, p, after, split, fun q member => ?_, of_decide_eq_true waits, transfer, ?_⟩
  · simpa using none q member
  · rw [queue, after', rest]

theorem startFirst_append {l : List Posting} (fate : Transfer → Fate)
    (none : ∀ q ∈ l, q.fate ≠ .waiting) (waiting : p.fate = .waiting) (rest : List Posting) :
    startFirst fate (l ++ p :: rest) = l ++ { p with fate := fate p.transfer } :: rest := by
  induction l with
  | nil => exact if_pos waiting
  | cons q l ih =>
    rw [List.cons_append, startFirst, if_neg (none q List.mem_cons_self),
      ih fun q' member => none q' (List.mem_cons_of_mem q member)]
    rfl

theorem startFirst_of_none {l : List Posting} (fate : Transfer → Fate)
    (none : ∀ q ∈ l, q.fate ≠ .waiting) : startFirst fate l = l := by
  induction l with
  | nil => rfl
  | cons q l ih =>
    rw [startFirst, if_neg (none q List.mem_cons_self),
      ih fun q' member => none q' (List.mem_cons_of_mem q member)]

/-- What may become of a transfer that is not started now. -/
structure After (p p' : Posting) : Prop where
  transfer : p'.transfer = p.transfer
  buffer : p'.buffer = p.buffer
  needs : p'.fate.isOpen = true → p.fate.isOpen = true
  waits : p'.fate = .waiting → p.fate = .waiting

theorem After.refl (p : Posting) : p.After p := ⟨rfl, rfl, id, id⟩

/-- Two transfers stay apart, as neither comes to need its buffer again. -/
theorem After.pairwise {f : Posting → Posting} {l : List Posting}
    (after : ∀ p : Posting, p.After (f p)) (apart : l.Pairwise Apart) : (l.map f).Pairwise Apart := by
  refine apart.map f fun p q apart needsP needsQ => ?_
  rw [(after p).transfer, (after q).transfer]
  exact apart ((after p).needs needsP) ((after q).needs needsQ)

theorem cancel_of_not_waiting (owner : ProcessId) (other : p.fate ≠ .waiting) :
    p.cancel owner = p := if_neg fun both => other both.1

theorem after_cancel (owner : ProcessId) (p : Posting) : p.After (p.cancel owner) := by
  unfold cancel
  split
  · exact ⟨rfl, rfl, nofun, nofun⟩
  · exact .refl p

theorem isHanded_cancel (owner : ProcessId) (unhanded : p.fate.isHanded = false) :
    (p.cancel owner).fate.isHanded = false := by
  unfold cancel
  split
  · rfl
  · exact unhanded

theorem counted_cancel (owner : ProcessId) (counted : p.Counted) : (p.cancel owner).Counted := by
  unfold cancel
  split
  · nofun
  · exact counted

theorem queue_map_cancel (owner : ProcessId) (l : List Posting) :
    queue (l.map (·.cancel owner)) = (queue l).filter (·.owner ≠ owner) := by
  induction l with
  | nil => rfl
  | cons p l ih =>
    rw [List.map_cons, queue_cons, queue_cons, ih]
    by_cases waits : p.fate = .waiting
    · by_cases own : p.transfer.owner = owner <;> simp [cancel, waits, own]
    · rw [cancel_of_not_waiting owner waits, if_neg waits, if_neg waits]

theorem finish_of_not_working (other : p.fate ≠ .working) : p.finish port s = p :=
  if_neg fun both => other both.1

theorem after_finish (port : SerialPort) (s : Shared) (p : Posting) :
    p.After (p.finish port s) := by
  unfold finish
  split
  · exact ⟨rfl, rfl, nofun, nofun⟩
  · exact .refl p

theorem queue_map_finish (port : SerialPort) (s : Shared) (l : List Posting) :
    queue (l.map (·.finish port s)) = queue l := by
  induction l with
  | nil => rfl
  | cons p l ih =>
    rw [List.map_cons, queue_cons, queue_cons, ih]
    by_cases both : p.fate = .working ∧ port.Idle
    · simp [finish, both]
    · rw [finish, if_neg both]

/-- Only the transfer that the driver works on can be done. -/
theorem map_finish {l : List Posting} (none : ∀ p ∈ l, p.fate ≠ .working) :
    l.map (·.finish port s) = l :=
  (List.map_congr_left fun p member => finish_of_not_working (none p member)).trans (List.map_id l)

/-- A transfer that was carried to its end sent all its bytes. -/
theorem done_of_carries
    (carries : Carries before p.transfer.direction p.transfer.buffer p.buffer port s)
    (idle : port.Idle) :
    let p' := { p with fate := .done (s.buffer p.transfer.buffer) }
    port.transmitted = before ++ p'.sent ∧ p'.Counted := by
  intro p'
  cases direction : p.transfer.direction with
  | read =>
    rw [direction] at carries
    refine ⟨?_, fun after _ write => ?_⟩
    · simp only [p', sent, direction, List.append_nil]
      exact carries.2
    · rw [direction] at write
      cases write
  | write =>
    rw [direction] at carries
    rcases carries with sending | ended
    · exact absurd idle sending.works.not_idle
    · refine ⟨?_, ?_⟩
      · simp only [p', sent, direction]
        exact ended.sent
      · rintro _ ⟨⟩ -
        rw [ended.held]
        exact ⟨(List.length_take_of_le ended.room).symm, rfl⟩

end Posting

/-! ### Handing a transfer to the driver -/

theorem Device.isHanded_fate (d : Device) (s : Shared) (t : Transfer) :
    (d.fate s t).isHanded = true := by
  unfold fate
  split
  · rfl
  · split <;> rfl

/-- A transfer that is handed to the driver is what it works on, or has ended. -/
theorem Device.start_carries {d : Device} (ready : d.port.Ready) (idle : d.port.Idle) (s : Shared)
    (t : Transfer) :
    let p : Posting := ⟨t, s.buffer t.buffer, d.fate s t⟩
    let port := (d.start s t).1.port
    port.Ready ∧ (∀ id, t.buffer ≠ id → (d.start s t).2.buffer id = s.buffer id) ∧
      (p.fate = .working ∧ ¬ port.Idle ∧
          Carries d.port.transmitted t.direction t.buffer p.buffer port (d.start s t).2 ∨
        p.fate.isOpen = false ∧ port.Idle ∧ port.transmitted = d.port.transmitted ++ p.sent ∧
          p.Counted) := by
  rcases d.start_cases s t with ⟨port, s', taken, eq⟩ | ⟨e, refused, eq⟩
  · obtain ⟨ready', carries, others⟩ := transfer_carries ready taken
    rw [eq]
    refine ⟨ready', others, ?_⟩
    by_cases idle' : port.Idle
    · have ended : d.fate s t = .done (s'.buffer t.buffer) := by
        rw [fate, answer, taken]
        exact if_pos idle'
      obtain ⟨sent, counted⟩ :=
        Posting.done_of_carries (p := ⟨t, s.buffer t.buffer, .working⟩) carries idle'
      rw [ended]
      exact Or.inr ⟨rfl, idle', sent, counted⟩
    · have works : d.fate s t = .working := by
        rw [fate, answer, taken]
        exact if_neg idle'
      exact Or.inl ⟨works, idle', carries⟩
  · have ended : d.fate s t = .refused e := by rw [fate, answer, refused]
    rw [eq, ended]
    refine ⟨ready, fun id other => ?_, Or.inr ⟨rfl, idle, (List.append_nil _).symm, ?_⟩⟩
    · simp only [Shared.buffer_modifyFlag, Shared.buffer_modifyBuffer, if_neg other]
    · intro after done
      cases done

end TrapKernel
