import MmsHttp.Fault

/-!
Outcomes that may be faults. An outcome made of two steps fails with the fault of the step
that failed; a computation whose faults are never failures of the exchange is called
foreign, and foreign steps make foreign computations.
-/

namespace MmsHttp.Fault

variable {α β ε : Type}

theorem bind_eq_ok_iff {x : Except ε α} {f : α → Except ε β} {b : β} :
    x >>= f = .ok b ↔ ∃ a, x = .ok a ∧ f a = .ok b := by
  cases x with
  | error e => simp [bind, Except.bind]
  | ok a => simp [bind, Except.bind]

/-- A computation of two steps fails with the fault of the first one, or with that of the
second after the first has succeeded. -/
theorem bind_eq_error_iff {x : Except ε α} {f : α → Except ε β} {e : ε} :
    x >>= f = .error e ↔ x = .error e ∨ ∃ a, x = .ok a ∧ f a = .error e := by
  cases x with
  | error e => simp [bind, Except.bind]
  | ok a => simp [bind, Except.bind]

theorem map_const_eq_ok_iff {x : Except ε α} {b c : β} :
    x.map (fun _ => b) = .ok c ↔ (∃ a, x = .ok a) ∧ b = c := by
  cases x with
  | error e => simp [Except.map]
  | ok a => simp [Except.map]

/-- A check that throws is passed exactly when its condition does not hold. -/
theorem ite_throw_eq_ok_iff {c : Prop} [Decidable c] {e : ε} {f : PUnit → Except ε α}
    {x : Except ε α} {a : α} :
    (if c then (throw e : Except ε PUnit) >>= f else x) = .ok a ↔ ¬ c ∧ x = .ok a := by
  split
  case isTrue h => exact ⟨nofun, fun hx => absurd h hx.1⟩
  case isFalse h => exact ⟨fun hx => ⟨h, hx⟩, fun hx => hx.2⟩

theorem exists_ok_or_error (x : Except ε α) : (∃ a, x = .ok a) ∨ ∃ e, x = .error e := by
  cases x with
  | error e => exact Or.inr ⟨e, rfl⟩
  | ok a => exact Or.inl ⟨a, rfl⟩

theorem exists_ok_iff_forall_ne_error {x : Except ε α} :
    (∃ a, x = .ok a) ↔ ∀ e, x ≠ .error e := by
  cases x with
  | error e => simp
  | ok a => simp

/-- An outcome that fails, if it does, with a fault that is no failure of the exchange. -/
def Foreign (x : Except Fault α) : Prop :=
  ∀ fault, x = .error fault → fault.cls.isExchangeFailure = false

theorem Foreign.ok (a : α) : Foreign (.ok a) := by
  intro fault h
  cases h

theorem Foreign.error {fault : Fault} (h : fault.cls.isExchangeFailure = false) :
    Foreign (.error fault : Except Fault α) := by
  intro other hother
  cases hother
  exact h

theorem Foreign.bind {x : Except Fault α} {f : α → Except Fault β} (hx : Foreign x)
    (hf : ∀ a, x = .ok a → Foreign (f a)) : Foreign (x >>= f) := by
  intro fault h
  rcases bind_eq_error_iff.mp h with h | ⟨a, ha, h⟩
  · exact hx fault h
  · exact hf a ha fault h

theorem Foreign.map {x : Except Fault α} (hx : Foreign x) (f : α → β) : Foreign (x.map f) := by
  cases x with
  | error fault => exact Foreign.error (hx fault rfl)
  | ok a => exact Foreign.ok (f a)

end MmsHttp.Fault
