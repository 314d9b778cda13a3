/-!
# Steps on a state

An operation that answers a new state cannot leave a half changed one behind when it fails. Steps
can: they run one after the other on the state that there is, and what was written before a step
that fails stays written. A theorem that steps end in `settled` is therefore one about what they
leave behind: they do what the operation does, and where it refuses they leave everything as it was.
-/

namespace TrapKernel

/-- What an operation answered and left behind; a refusal leaves the old state. -/
def settled {σ ε α : Type} (s : σ) : Except ε (α × σ) → Except ε α × σ
  | .ok (a, s) => (.ok a, s)
  | .error e => (.error e, s)

theorem settled_snd {σ ε α : Type} {P : σ → Prop} {s : σ} {result : Except ε (α × σ)} (old : P s)
    (new : ∀ a s', result = .ok (a, s') → P s') : P (settled s result).2 := by
  cases result with
  | error e => exact old
  | ok done => exact new done.1 done.2 rfl

/-- An action with two steps succeeds if both do. -/
theorem ok_of_bind {ε α β : Type} {result : Except ε α} {f : α → Except ε β} {b : β}
    (done : (result >>= f) = .ok b) : ∃ a, result = .ok a ∧ f a = .ok b := by
  cases result with
  | error e => cases done
  | ok a => exact ⟨a, rfl, done⟩

/-- An action whose answer passes a test succeeds. -/
theorem ok_of_any {ε α : Type} {result : Except ε α} {test : α → Bool}
    (passes : result.toOption.any test = true) : ∃ a, result = .ok a ∧ test a = true := by
  cases result with
  | error e => cases passes
  | ok a => exact ⟨a, rfl, passes⟩

/-- An action of whose answer something is seen succeeds. -/
theorem ok_of_seen {ε α β : Type} {result : Except ε α} {look : α → β} {b : β}
    (seen : result.toOption.map look = some b) : ∃ a, result = .ok a ∧ look a = b := by
  cases result with
  | error e => cases seen
  | ok a => exact ⟨a, rfl, Option.some.inj seen⟩

/-- Steps on a state, which may fail for the reasons `ε`. -/
abbrev Steps (σ ε : Type) := ExceptT ε (StateM σ)

namespace Steps

variable {σ ε α β : Type} {s : σ}

/-- The answer of the steps, and the state in which they end. -/
def after (x : Steps σ ε α) (s : σ) : Except ε α × σ := Id.run ((ExceptT.run x).run s)

/-- Look at the state. -/
def look (f : σ → α) : Steps σ ε α := return f (← get)

/-- Look for something that may be refused. -/
def demand (f : σ → Except ε α) : Steps σ ε α := do
  match f (← get) with
  | .error e => throw e
  | .ok a => return a

/-- Write at once, or fail before anything is written. -/
def attempt (f : σ → Except ε σ) : Steps σ ε Unit := do
  match f (← get) with
  | .error e => throw e
  | .ok s => set s

/-! ### What the steps do -/

theorem after_bind (x : Steps σ ε α) (f : α → Steps σ ε β) (s : σ) :
    (x >>= f).after s =
      match x.after s with
      | (.ok a, s') => (f a).after s'
      | (.error e, s') => (.error e, s') := by
  have opened : (x >>= f).after s =
      Id.run ((ExceptT.bindCont f (x.after s).1).run (x.after s).2) := rfl
  rw [opened]
  rcases x.after s with ⟨answer, s'⟩
  cases answer <;> rfl

@[simp] theorem after_pure (a : α) : (pure a : Steps σ ε α).after s = (.ok a, s) := rfl

@[simp] theorem after_throw (e : ε) : (throw e : Steps σ ε α).after s = (.error e, s) := rfl

@[simp] theorem after_get : (get : Steps σ ε σ).after s = (.ok s, s) := rfl

@[simp] theorem after_modify (f : σ → σ) :
    (modify f : Steps σ ε PUnit).after s = (.ok ⟨⟩, f s) := rfl

@[simp] theorem after_look (f : σ → α) : (look f : Steps σ ε α).after s = (.ok (f s), s) := rfl

@[simp] theorem after_demand (f : σ → Except ε α) : (demand f).after s = (f s, s) := by
  simp only [demand, after_bind, after_get]
  cases f s <;> rfl

@[simp] theorem after_attempt (f : σ → Except ε σ) :
    (attempt f).after s = settled s ((f s).map ((), ·)) := by
  simp only [attempt, after_bind, after_get]
  cases f s <;> rfl

theorem ok_bind (a : α) (f : α → Except ε β) : (Except.ok a >>= f) = f a := rfl

end Steps

end TrapKernel
