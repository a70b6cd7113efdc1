/-!
# Results that may be errors

Work in steps that may fail succeeds if every step does, and then each step has the result that the
next one goes on with.
-/

namespace SchemaEvolution.Result

variable {α β ε ε' : Type}

theorem bind_eq_ok {x : Except ε α} {f : α → Except ε β} {b : β} :
    (x >>= f) = .ok b ↔ ∃ a, x = .ok a ∧ f a = .ok b := by
  cases x with
  | error e => exact ⟨fun h => by simp [bind, Except.bind] at h, fun ⟨a, h, _⟩ => by simp at h⟩
  | ok a => exact ⟨fun h => ⟨a, rfl, h⟩, fun ⟨a', h, h'⟩ => by cases h; exact h'⟩

theorem map_eq_ok {x : Except ε α} {f : α → β} {b : β} :
    f <$> x = .ok b ↔ ∃ a, x = .ok a ∧ f a = b := by
  rw [map_eq_pure_bind, bind_eq_ok]
  simp only [pure, Except.pure, Except.ok.injEq]

theorem map_eq_error {x : Except ε α} {f : α → β} {e : ε} : f <$> x = .error e ↔ x = .error e := by
  cases x with
  | error e' =>
    show Except.error e' = .error e ↔ _
    simp only [Except.error.injEq]
  | ok a => exact ⟨nofun, nofun⟩

theorem map_eq_bind {x : Except ε α} (f : α → β) : f <$> x = do return f (← x) := by
  cases x <;> rfl

theorem map_some_map {x : Except ε α} (f : Option α → β) :
    f <$> some <$> x = do return f (some (← x)) := by
  cases x <;> rfl

/-- What is read into an optional part is there if it was read. -/
theorem some_map_eq_ok {x : Except ε α} {a : α} : some <$> x = .ok (some a) ↔ x = .ok a := by
  rw [map_eq_ok]
  simp

/-- Where there is no value there is an error. -/
theorem exists_error {x : Except ε α} (h : ∀ a, x ≠ .ok a) : ∃ e, x = .error e := by
  cases x with
  | ok a => exact absurd rfl (h a)
  | error e => exact ⟨e, rfl⟩

@[simp] theorem mapError_ok (f : ε → ε') (a : α) :
    (Except.ok a : Except ε α).mapError f = .ok a := rfl

@[simp] theorem mapError_error (f : ε → ε') (e : ε) :
    (Except.error e : Except ε α).mapError f = .error (f e) := rfl

end SchemaEvolution.Result
