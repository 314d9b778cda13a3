import TrapKernel.Proofs.Process.Roll

/-!
# The order of the lists

In every list the cards stand in the order in which their processes are due: by round, priority and
arrival among the ready, by priority and arrival among the suspended that are ready, by arrival
elsewhere. A call changes the cards that it is about; all others say what they said, and stand as
they stood.
-/

namespace TrapKernel

/-- Those that satisfy `p` come first, and are the front of the list. -/
theorem filter_append_filter_not {α : Type} {p : α → Bool} {l : List α}
    (sorted : l.Pairwise fun a b => p b → p a) : l.filter p ++ l.filter (!p ·) = l := by
  induction l with
  | nil => rfl
  | cons a l ih =>
    obtain ⟨first, rest⟩ := List.pairwise_cons.mp sorted
    cases atA : p a with
    | true =>
      rw [List.filter_cons_of_pos atA, List.filter_cons_of_neg (by simp [atA]), List.cons_append,
        ih rest]
    | false =>
      have none : l.filter p = [] := by
        rw [List.filter_eq_nil_iff]
        intro b hb atB
        rw [first b hb atB] at atA
        cases atA
      have ih := ih rest
      rw [none, List.nil_append] at ih
      rw [List.filter_cons_of_neg (by simp [atA]), List.filter_cons_of_pos (by simp [atA]), none,
        ih, List.nil_append]

theorem takeWhile_eq_filter {α : Type} {p : α → Bool} {l : List α}
    (sorted : l.Pairwise fun a b => p b → p a) :
    l.takeWhile p = l.filter p ∧ l.dropWhile p = l.filter (!p ·) := by
  induction l with
  | nil => exact ⟨rfl, rfl⟩
  | cons a l ih =>
    have whole := filter_append_filter_not sorted
    obtain ⟨take, drop⟩ := ih (List.pairwise_cons.mp sorted).2
    cases atA : p a with
    | true => simp [atA, take, drop]
    | false =>
      have none : (a :: l).filter p = [] := by
        rw [List.filter_eq_nil_iff]
        intro b hb atB
        rcases List.mem_cons.mp hb with rfl | hb
        · rw [atA] at atB
          cases atB
        · rw [(List.pairwise_cons.mp sorted).1 b hb atB] at atA
          cases atA
      rw [none, List.nil_append] at whole
      rw [none, whole]
      simp [atA]

namespace Card

variable {c d e : Card} {s : ProcessState} {l : List Card}

/-- Where `c` stands before `d` in the list of a state. -/
def Before (s : ProcessState) (c d : Card) : Prop :=
  match s with
  | .ready => c.Earlier d
  | .readySuspended =>
    d.priority < c.priority ∨ d.priority = c.priority ∧ c.since < d.since
  | .running | .blocked | .blockedSuspended => c.since < d.since

theorem before_of_staysAhead (inS : d.state = s) (newer : c.since < d.since)
    (ahead : c.staysAhead d = true) : c.Before s d := by
  subst inS
  unfold Before
  unfold staysAhead at ahead
  cases state : d.state <;> simp only [state, decide_eq_true_eq] at ahead ⊢
  · unfold Earlier
    omega
  · exact newer
  · exact newer
  · omega
  · exact newer

theorem before_of_not_staysAhead (inS : d.state = s) (behind : c.staysAhead d = false) :
    d.Before s c := by
  subst inS
  unfold Before
  unfold staysAhead at behind
  cases state : d.state <;>
    simp only [state, decide_eq_false_iff_not, Bool.true_eq_false] at behind ⊢
  · unfold Earlier
    omega
  · omega

/-- Who stands before one that stays ahead stays ahead as well. -/
theorem staysAhead_of_before (inS : d.state = s) (before : c.Before s e)
    (ahead : e.staysAhead d = true) : c.staysAhead d = true := by
  subst inS
  unfold Before at before
  unfold staysAhead at ahead ⊢
  cases state : d.state <;> simp only [state, decide_eq_true_eq] at ahead before ⊢
  · unfold Earlier at before
    omega
  · omega

/-- A card finds its place, and the others stay as they are. -/
theorem put_eq (inS : c.state = s) (sorted : l.Pairwise (Before s)) :
    ∃ a b, l = a ++ b ∧ c.put l = a ++ c :: b ∧ (∀ d ∈ a, d.staysAhead c = true) ∧
      ∀ d ∈ b, d.staysAhead c = false := by
  refine ⟨_, _, (filter_append_filter_not (sorted.imp fun before => ?_)).symm, rfl, ?_, ?_⟩
  · exact staysAhead_of_before inS before
  · exact fun d hd => (List.mem_filter.mp hd).2
  · exact fun d hd => by simpa using (List.mem_filter.mp hd).2

theorem pairwise_put (inS : c.state = s) (sorted : l.Pairwise (Before s))
    (newer : ∀ d ∈ l, d.since < c.since) : (c.put l).Pairwise (Before s) := by
  obtain ⟨a, b, rfl, put, ahead, behind⟩ := put_eq inS sorted
  obtain ⟨front, back, between⟩ := List.pairwise_append.mp sorted
  rw [put, List.pairwise_append, List.pairwise_cons]
  refine ⟨front, ⟨fun d hd => before_of_not_staysAhead inS (behind d hd), back⟩, ?_⟩
  intro d hd e he
  rcases List.mem_cons.mp he with rfl | he
  · exact before_of_staysAhead inS (newer d (List.mem_append_left b hd)) (ahead d hd)
  · exact between d hd e he

theorem perm_put (c : Card) (l : List Card) : (c.put l).Perm (c :: l) :=
  List.perm_middle.trans ((List.filter_append_perm _ l).cons c)

theorem mem_put : d ∈ c.put l ↔ d = c ∨ d ∈ l := (c.perm_put l).mem_iff.trans List.mem_cons

end Card

namespace Roll

variable {m m' m'' : Roll} {c : Card} {id : ProcessId} {ids : List ProcessId}

/-- Who looks at all cards but one does not see that one change. -/
theorem filter_rewrite (m : Roll) (c : Card) {f : Card → Card} (same : ∀ d, (f d).id = d.id)
    {q : ProcessId → Bool} (out : q c.id = false) (s : ProcessState) :
    ((m.rewrite c f).list s).filter (fun d => q d.id) = (m.list s).filter fun d => q d.id := by
  let g : Card → Card := fun d => if d.id = c.id then f d else d
  have sameIds : ∀ d, (g d).id = d.id := by
    intro d
    by_cases eq : d.id = c.id
    · exact (congrArg Card.id (if_pos eq)).trans (same d)
    · exact congrArg Card.id (if_neg eq)
  unfold rewrite
  simp only []
  split
  · have outside : (fun d : Card => q d.id) ∘ g = fun d => q d.id := by
      funext d
      rw [Function.comp_apply, sameIds]
    show ((m.list s).map g).filter (fun d => q d.id) = _
    rw [List.filter_map, outside]
    refine (List.map_congr_left fun d hd => if_neg ?_).trans (List.map_id _)
    intro eq
    have seen := (List.mem_filter.mp hd).2
    rw [eq, out] at seen
    cases seen
  · rfl

theorem without_rewrite (m : Roll) (c : Card) {f : Card → Card} (same : ∀ d, (f d).id = d.id) :
    (m.rewrite c f).without c.id = m.without c.id := by
  have list := funext (filter_rewrite m c same (q := fun id => id ≠ c.id) (by simp))
  exact congrArg (fun list => ({ m with list } : Roll)) list

/-- Every list is in order, and who is in one was put there. -/
structure InOrder (m : Roll) : Prop where
  sorted : ∀ s, (m.list s).Pairwise (Card.Before s)
  since : ∀ s, ∀ c ∈ m.list s, c.since < m.clock

theorem inOrder_empty : empty.InOrder := ⟨fun _ => .nil, fun _ _ => nofun⟩

/-- What becomes of a roll in order when something happens to some of the processes: it is still in
order, and the cards of all others say what they said and stand as they stood. -/
structure Keeps (ids : List ProcessId) (m m' : Roll) : Prop where
  inOrder : m'.InOrder
  others : ∀ s, (m'.list s).filter (·.id ∉ ids) = (m.list s).filter (·.id ∉ ids)

namespace Keeps

theorem refl (h : m.InOrder) : m.Keeps ids m := ⟨h, fun _ => rfl⟩

theorem trans (h : m.Keeps ids m') (h' : m'.Keeps ids m'') : m.Keeps ids m'' :=
  ⟨h'.inOrder, fun s => (h'.others s).trans (h.others s)⟩

theorem without (h : m.InOrder) (subject : id ∈ ids) : m.Keeps ids (m.without id) := by
  refine ⟨⟨fun s => (h.sorted s).sublist List.filter_sublist,
    fun s c hc => h.since s c (List.mem_filter.mp hc).1⟩, fun s => ?_⟩
  rw [Roll.without, List.filter_filter]
  apply List.filter_congr
  intro c _
  by_cases eq : c.id = id
  · simp [eq, subject]
  · simp [eq]

theorem enter (h : m.InOrder) (subject : c.id ∈ ids) : m.Keeps ids (m.enter c) := by
  refine ⟨⟨fun s => ?_, fun s d hd => ?_⟩, fun s => ?_⟩
  · unfold Roll.enter
    simp only []
    split
    · rename_i eq
      exact Card.pairwise_put eq.symm (h.sorted s) (h.since s)
    · exact h.sorted s
  · unfold Roll.enter at hd
    simp only [] at hd
    split at hd
    · rcases Card.mem_put.mp hd with rfl | old
      · exact Nat.lt_succ_self m.clock
      · exact Nat.lt_succ_of_lt (h.since s d old)
    · exact Nat.lt_succ_of_lt (h.since s d hd)
  · unfold Roll.enter
    simp only []
    split
    · rename_i eq
      obtain ⟨a, b, split, put, -⟩ :=
        Card.put_eq (c := { c with since := m.clock }) eq.symm (h.sorted s)
      rw [put, split, List.filter_append, List.filter_cons_of_neg (by simpa using subject),
        List.filter_append]
    · rfl

/-- What the order of the lists does not depend on may change. -/
theorem rewrite {f : Card → Card} (h : m.InOrder) (subject : c.id ∈ ids)
    (same : ∀ d, (f d).id = d.id) (since : ∀ d, (f d).since = d.since)
    (before : ∀ d e, d.Before c.state e → (f d).Before c.state e ∧ d.Before c.state (f e)) :
    m.Keeps ids (m.rewrite c f) := by
  let g : Card → Card := fun d => if d.id = c.id then f d else d
  have changed : ∀ d, g d = f d ∨ g d = d := fun d => by
    by_cases eq : d.id = c.id
    · exact Or.inl (if_pos eq)
    · exact Or.inr (if_neg eq)
  refine ⟨⟨fun s => ?_, fun s d hd => ?_⟩, fun s => ?_⟩
  · unfold Roll.rewrite
    simp only []
    split
    · rename_i eq
      subst eq
      refine List.pairwise_map.mpr ((h.sorted _).imp fun {d e} apart => ?_)
      have step : (g d).Before c.state e := by
        rcases changed d with eq | eq <;> rw [eq]
        · exact (before d e apart).1
        · exact apart
      show (g d).Before c.state (g e)
      rcases changed e with eq | eq <;> rw [eq]
      · exact (before _ e step).2
      · exact step
    · exact h.sorted s
  · unfold Roll.rewrite at hd
    simp only [] at hd
    split at hd
    · obtain ⟨e, he, rfl⟩ := List.mem_map.mp hd
      show (g e).since < m.clock
      have old := h.since s e he
      rcases changed e with eq | eq <;> rw [eq]
      · exact (since e).symm ▸ old
      · exact old
    · exact h.since s d hd
  · exact filter_rewrite m c same (q := fun id => id ∉ ids) (by simpa using subject) s

theorem withHandles (h : m.InOrder) (handles : Handles) : m.Keeps ids { m with handles } :=
  ⟨⟨h.sorted, h.since⟩, fun _ => rfl⟩

theorem withRound (h : m.Keeps ids m') (round : Nat) : m.Keeps ids { m' with round } :=
  ⟨⟨h.inOrder.sorted, h.inOrder.since⟩, h.others⟩

/-- A card is taken out, changed, and put into a list again. -/
theorem reenter (h : m.InOrder) {c' : Card} (subject : c.id ∈ ids) (same : c'.id = c.id) :
    m.Keeps ids ((m.without c.id).enter c') := by
  have out := without h subject
  exact out.trans (enter out.inOrder (same ▸ subject))

theorem moveTo (h : m.InOrder) (subject : c.id ∈ ids) (state : ProcessState) :
    m.Keeps ids (m.moveTo c state) := reenter h subject rfl

theorem shift (h : m.InOrder) (subject : c.id ∈ ids)
    (target : ProcessState → Option ProcessState) : m.Keeps ids (m.shift c target).2 := by
  unfold Roll.shift
  split
  · exact refl h
  · exact moveTo h subject _

theorem moveAll (h : m.InOrder) (l : List Card) (subjects : ∀ c ∈ l, c.id ∈ ids)
    (state : ProcessState) : m.Keeps ids (l.foldl (fun m c => m.moveTo c state) m) := by
  induction l generalizing m with
  | nil => exact refl h
  | cons c l ih =>
    have first := moveTo h (subjects c List.mem_cons_self) state
    exact first.trans (ih first.inOrder fun d hd => subjects d (List.mem_cons_of_mem c hd))

theorem settled {ε α : Type} {result : Except ε (α × Roll)} (h : m.InOrder)
    (new : ∀ a m', result = .ok (a, m') → m.Keeps ids m') :
    m.Keeps ids (settled m result).2 := settled_snd (refl h) new

end Keeps

/-- Whom a call is about. -/
def subjects {α : Type} (m : Roll) : Registry.Call α → List ProcessId
  | .create .. | .load .. => [m.handles.next.1]
  | .delete _ name | .block name | .unblock name | .suspend name | .resume name
  | .setPriority name _ => (m.named name).toList.map (·.id)
  | .destroy _ id | .release id | .requeueYielded id | .parkBlocked id | .saveContext id _ => [id]
  | .resumeAll => (m.list .readySuspended ++ m.list .blockedSuspended).map (·.id)
  | .takeReadyHead => (m.list .ready).head?.toList.map (·.id)
  | .context _ | .find _ | .show _ | .isSystem _ | .showReady | .showBlocked => []

theorem id_of_holder (found : m.holder id = some c) : c.id = id := by
  simpa using List.find?_some found

theorem ok_of_withName {α : Type} {name : String} {f : Card → Except RegistryError α} {a : α}
    (done : m.withName name f = .ok a) : ∃ c, m.named name = some c ∧ f c = .ok a := by
  unfold withName at done
  split at done
  · cases done
  · rename_i c found
    exact ⟨c, found, done⟩

theorem ok_of_withHandle {α : Type} {f : Card → Except RegistryError α} {a : α}
    (done : m.withHandle id f = .ok a) : ∃ c, c.id = id ∧ m.holder id = some c ∧ f c = .ok a := by
  unfold withHandle at done
  split at done
  · cases done
  · rename_i c found
    exact ⟨c, id_of_holder found, found, done⟩

theorem Keeps.shiftIdle {b : Bool} {target : ProcessState → Option ProcessState} (h : m.InOrder)
    (subject : c.id ∈ ids) (done : m.shiftIdle c target = .ok (b, m')) : m.Keeps ids m' := by
  unfold Roll.shiftIdle at done
  split at done
  · cases done
  · have moved : m.Keeps ids (m.shift c target).2 := .shift h subject target
    rw [Except.ok.inj done] at moved
    exact moved

theorem Keeps.shiftNamed (h : m.InOrder) (name : String)
    (target : ProcessState → Option ProcessState) :
    m.Keeps ((m.named name).toList.map (·.id)) (m.shiftNamed name target).2 := by
  unfold Roll.shiftNamed
  cases m.named name with
  | none => exact .refl h
  | some c => exact .shift h (List.mem_singleton_self _) target

theorem Keeps.create {memory memory' : Memory} {name : String} {owner : ProcessClass}
    {priority : Nat} (h : m.InOrder)
    (done : m.create memory name owner priority = .ok ((id, memory'), m')) :
    id = m.handles.next.1 ∧ m.Keeps [m.handles.next.1] m' := by
  unfold Roll.create at done
  split at done
  · cases done
  split at done
  · cases done
  split at done
  · cases done
  split at done
  · cases done
  cases done
  have numbered : m.Keeps [m.handles.next.1] { m with handles := m.handles.next.2 } :=
    withHandles h _
  exact ⟨rfl, numbered.trans (enter numbered.inOrder (List.mem_singleton_self _))⟩

theorem Keeps.destroy {memory memory' : Memory} (h : m.InOrder) (subject : id ∈ ids)
    (done : m.destroy memory id = .ok (memory', m')) : m.Keeps ids m' := by
  obtain ⟨c, rfl, -, done⟩ := ok_of_withHandle done
  cases done
  have out := without h subject
  exact out.trans (withHandles out.inOrder _)

/-- Nobody comes into a list but the one to which all go. -/
theorem mem_of_mem_moveAll {s state : ProcessState} (other : s ≠ state) (l : List Card)
    (inS : c ∈ (l.foldl (fun m c => m.moveTo c state) m).list s) : c ∈ m.list s := by
  induction l generalizing m with
  | nil => exact inS
  | cons d l ih =>
    have moved : (m.moveTo d state).list s = (m.list s).filter (·.id ≠ d.id) := if_neg other
    have before := ih inS
    rw [moved] at before
    exact (List.mem_filter.mp before).1

/-- Whom a call with this name is about. -/
theorem mem_subjects_named {name : String} (found : m.named name = some c) :
    c.id ∈ (m.named name).toList.map (·.id) := by
  rw [found]
  exact List.mem_singleton_self _

theorem Keeps.load {memory memory' : Memory} {name : String} {owner : ProcessClass}
    {priority : Nat} {entry : UInt32} (h : m.InOrder)
    (done : m.load memory name owner priority entry = .ok ((id, memory'), m')) :
    m.Keeps [m.handles.next.1] m' := by
  obtain ⟨⟨⟨id, memory'⟩, m₁⟩, created, rest⟩ := ok_of_bind done
  obtain ⟨rfl, keeps⟩ := Keeps.create h created
  simp only [] at rest
  split at rest
  · cases rest
  · rename_i c found
    cases rest
    have same : c.id ∈ [m.handles.next.1] := List.mem_singleton.mpr (id_of_holder found)
    exact keeps.trans (reenter (c := { c with context := Card.start c.record entry })
      keeps.inOrder same rfl)

theorem Keeps.delete {memory memory' : Memory} {name : String} (h : m.InOrder)
    (done : m.delete memory name = .ok ((id, memory'), m')) :
    m.Keeps ((m.named name).toList.map (·.id)) m' := by
  obtain ⟨c, found, done⟩ := ok_of_withName done
  split at done
  · cases done
  cases destroyed : m.destroy memory c.id with
  | error e =>
    rw [destroyed] at done
    cases done
  | ok result =>
    rw [destroyed] at done
    cases done
    exact destroy h (mem_subjects_named found) destroyed

theorem Keeps.resumeAll (h : m.InOrder) :
    m.Keeps ((m.list .readySuspended ++ m.list .blockedSuspended).map (·.id)) m.resumeAll.2 := by
  have all {c : Card} {s : ProcessState} (inS : c ∈ m.list s)
      (suspended : s = .readySuspended ∨ s = .blockedSuspended) :
      c.id ∈ (m.list .readySuspended ++ m.list .blockedSuspended).map (·.id) := by
    refine List.mem_map_of_mem (List.mem_append.mpr ?_)
    rcases suspended with rfl | rfl
    · exact Or.inl inS
    · exact Or.inr inS
  have first := moveAll h _ (fun c inS => all inS (Or.inl rfl)) .ready
  refine first.trans (moveAll first.inOrder _ (fun c inS => all ?_ (Or.inr rfl)) .blocked)
  exact mem_of_mem_moveAll (by decide) _ inS

/-- Where priorities do not count, the card stays where it is. -/
theorem Keeps.setPriority {name : String} {priority : Nat} {u : Unit} (h : m.InOrder)
    (done : m.setPriority name priority = .ok (u, m')) :
    m.Keeps ((m.named name).toList.map (·.id)) m' := by
  unfold Roll.setPriority at done
  split at done
  · cases done
  obtain ⟨c, found, done⟩ := ok_of_withName done
  split at done
  · cases done
    exact reenter h (mem_subjects_named found) rfl
  · rename_i unranked
    cases done
    refine rewrite h (mem_subjects_named found) (fun _ => rfl) (fun _ => rfl) fun d e before => ?_
    cases state : c.state <;> rw [state] at before unranked
    · exact absurd rfl unranked
    · exact ⟨before, before⟩
    · exact ⟨before, before⟩
    · exact absurd rfl unranked
    · exact ⟨before, before⟩

theorem Keeps.takeReadyHead (h : m.InOrder) :
    m.Keeps ((m.list .ready).head?.toList.map (·.id)) m.takeReadyHead.2 := by
  unfold Roll.takeReadyHead
  cases m.list .ready with
  | nil => exact refl h
  | cons c rest =>
    have moved : m.Keeps [c.id] ((m.without c.id).enter { c with state := .running }) :=
      reenter h (List.mem_singleton_self _) rfl
    exact moved.withRound _

/-- A call changes what it is about, and nothing else. -/
theorem keeps_perform {α : Type} (h : m.InOrder) (call : Registry.Call α) :
    m.Keeps (m.subjects call) (m.perform call).2 := by
  cases call with
  | create memory name owner priority =>
    exact .settled h fun a m' done => (Keeps.create h done).2
  | load memory name owner priority entry => exact .settled h fun a m' done => .load h done
  | delete memory name => exact .settled h fun a m' done => .delete h done
  | destroy memory id =>
    exact .settled h fun a m' done => .destroy h (List.mem_singleton_self id) done
  | block name | unblock name =>
    refine .settled h fun a m' done => ?_
    obtain ⟨c, found, done⟩ := ok_of_withName done
    exact .shiftIdle h (mem_subjects_named found) done
  | release id =>
    refine .settled h fun a m' done => ?_
    obtain ⟨c, rfl, -, done⟩ := ok_of_withHandle done
    exact .shiftIdle h (List.mem_singleton_self _) done
  | suspend name | resume name => exact .shiftNamed h name _
  | resumeAll => exact .resumeAll h
  | setPriority name priority => exact .settled h fun a m' done => .setPriority h done
  | takeReadyHead => exact .takeReadyHead h
  | requeueYielded id | parkBlocked id =>
    refine .settled h fun a m' done => ?_
    obtain ⟨c, rfl, -, done⟩ := ok_of_withHandle done
    cases done
    exact .reenter h (List.mem_singleton_self _) rfl
  | saveContext id context =>
    refine .settled h fun a m' done => ?_
    obtain ⟨c, rfl, -, done⟩ := ok_of_withHandle done
    cases done
    exact .rewrite h (List.mem_singleton_self _) (fun _ => rfl) (fun _ => rfl)
      fun d e before => ⟨before, before⟩
  | context | find | «show» | isSystem | showReady | showBlocked => exact .refl h

theorem InOrder.after (h : m.InOrder) (calls : List Registry.AnyCall) :
    (m.after calls).InOrder := by
  induction calls generalizing m with
  | nil => exact h
  | cons c calls ih => exact ih (m.keeps_perform h c.2).inOrder

end Roll

end TrapKernel
