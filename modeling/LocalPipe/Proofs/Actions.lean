import LocalPipe.Host.Action

namespace LocalPipe.Action

/-- The host that a computation leaves, whether it returns or is cut short. -/
def left {α : Type} : EStateM.Result Fatal Host α → Host
  | .ok _ h => h
  | .error _ h => h

variable {α β : Type} {h h' : Host}

/-- A computation in two parts returns when both do, the second where the first
has left off. -/
theorem bind_ok {x : Action α} {f : α → Action β} {b : β} :
    (x >>= f) h = .ok b h' ↔ ∃ a mid, x h = .ok a mid ∧ f a mid = .ok b h' := by
  constructor
  · intro run
    simp only [bind, EStateM.bind] at run
    split at run
    · rename_i a mid first
      exact ⟨a, mid, first, run⟩
    · cases run
  · rintro ⟨a, mid, first, second⟩
    simp only [bind, EStateM.bind, first, second]

theorem bind_of_ok {x : Action α} {f : α → Action β} {a : α} {mid : Host}
    (first : x h = .ok a mid) : (x >>= f) h = f a mid := by
  simp only [bind, EStateM.bind, first]

theorem bind_of_error {x : Action α} {f : α → Action β} {condition : Fatal}
    (first : x h = .error condition h') : (x >>= f) h = .error condition h' := by
  simp only [bind, EStateM.bind, first]

/-- Looking at the host first changes nothing. -/
theorem get_bind (f : Host → Action α) : (get >>= f) h = f h h :=
  rfl

/-- A computation in two parts is cut short in either of them. -/
theorem bind_error {x : Action α} {f : α → Action β} {condition : Fatal}
    (run : (x >>= f) h = .error condition h') :
    x h = .error condition h' ∨ ∃ a mid, x h = .ok a mid ∧ f a mid = .error condition h' := by
  simp only [bind, EStateM.bind] at run
  split at run
  · rename_i a mid first
    exact Or.inr ⟨a, mid, first, run⟩
  · rename_i first
    cases run
    exact Or.inl first

@[simp] theorem pure_ok {a b : α} : (pure a : Action α) h = .ok b h' ↔ a = b ∧ h = h' := by
  constructor
  · intro run
    cases run
    exact ⟨rfl, rfl⟩
  · rintro ⟨rfl, rfl⟩
    rfl

@[simp] theorem call_ok {f : Host → α × Host} {a : α} :
    Action.call f h = .ok a h' ↔ f h = (a, h') := by
  constructor
  · intro run
    cases run
    rfl
  · intro run
    rw [call, run]

@[simp] theorem change_ok {f : Host → Host} {a : Unit} :
    Action.change f h = .ok a h' ↔ f h = h' := by
  constructor
  · intro run
    cases run
    rfl
  · rintro rfl
    rfl

@[simp] theorem fatal_ne_ok {condition : Fatal} {a : α} :
    (Action.fatal condition : Action α) h ≠ .ok a h' := by
  intro run
  cases run

theorem deadline_of_some {timeout : Duration} {moment : Nat}
    (representable : timeout.deadline? h.now = some moment) :
    Action.deadline timeout h = .ok moment h := by
  rw [deadline, representable]

theorem deadline_of_none {timeout : Duration} (beyond : timeout.deadline? h.now = none) :
    Action.deadline timeout h = .error .deadlineOverflow h := by
  rw [deadline, beyond]
  rfl

/-- To work out a deadline changes nothing. -/
theorem host_of_deadline {timeout : Duration} {moment : Nat}
    (run : Action.deadline timeout h = .ok moment h') : h' = h := by
  unfold deadline at run
  split at run
  · cases run
    rfl
  · cases run

end LocalPipe.Action
