/-!
# Outcomes

What it takes for a sequence of operations that may fail to succeed, said once for each way in
which they are put together.
-/
namespace Caseflow

variable {ε α β : Type}

theorem bind_eq_ok_iff {x : Except ε α} {f : α → Except ε β} {b : β} :
    x >>= f = .ok b ↔ ∃ a, x = .ok a ∧ f a = .ok b := by
  cases x with
  | error e => simp [bind, Except.bind]
  | ok a => simp [bind, Except.bind]

theorem bind_eq_error_iff {x : Except ε α} {f : α → Except ε β} {e : ε} :
    x >>= f = .error e ↔ x = .error e ∨ ∃ a, x = .ok a ∧ f a = .error e := by
  cases x with
  | error d => simp [bind, Except.bind]
  | ok a => simp [bind, Except.bind]

theorem pure_eq_ok_iff {a b : α} : (pure a : Except ε α) = .ok b ↔ a = b := by
  simp [pure, Except.pure]

theorem map_eq_ok_iff {f : α → β} {x : Except ε α} {b : β} :
    f <$> x = .ok b ↔ ∃ a, x = .ok a ∧ f a = b := by
  cases x with
  | error e => simp [Functor.map, Except.map]
  | ok a => simp [Functor.map, Except.map]

theorem map_eq_error_iff {f : α → β} {x : Except ε α} {e : ε} :
    f <$> x = .error e ↔ x = .error e := by
  cases x with
  | error d => simp [Functor.map, Except.map]
  | ok a => simp [Functor.map, Except.map]

theorem toOption_eq_some_iff {x : Except ε α} {a : α} : x.toOption = some a ↔ x = .ok a := by
  cases x with
  | error e => simp [Except.toOption]
  | ok b => simp [Except.toOption]

/-- A sequence fails with the first of its items that fails. -/
theorem mapM_eq_error_iff {f : α → Except ε β} {items : List α} {e : ε} :
    items.mapM f = .error e ↔ ∃ before a after, items = before ++ a :: after ∧
      (∀ b ∈ before, ∃ v, f b = .ok v) ∧ f a = .error e := by
  induction items with
  | nil => simp [pure, Except.pure]
  | cons a rest ih =>
    rw [List.mapM_cons, bind_eq_error_iff]
    constructor
    · rintro (ha | ⟨v, ha, hrest⟩)
      · exact ⟨[], a, rest, rfl, nofun, ha⟩
      · obtain hrest | ⟨_, -, hdone⟩ := bind_eq_error_iff.1 hrest
        · obtain ⟨before, b, after, rfl, hbefore, hb⟩ := ih.1 hrest
          exact ⟨a :: before, b, after, rfl, List.forall_mem_cons.2 ⟨⟨v, ha⟩, hbefore⟩, hb⟩
        · cases hdone
    · rintro ⟨before, b, after, heq, hbefore, hb⟩
      cases before with
      | nil =>
        cases heq
        exact .inl hb
      | cons a before =>
        cases heq
        obtain ⟨⟨v, ha⟩, hbefore⟩ := List.forall_mem_cons.1 hbefore
        exact .inr ⟨v, ha, bind_eq_error_iff.2 (.inl (ih.2 ⟨before, b, after, rfl, hbefore, hb⟩))⟩

/-- A computation that does not fail with any of the faults. -/
def Avoids (faults : ε → Prop) (x : Except ε α) : Prop := ∀ e, x = .error e → ¬ faults e

section Avoids

variable {faults : ε → Prop} {x : Except ε α}

theorem avoids_ok (a : α) : Avoids faults (.ok a : Except ε α) := by
  intro e h
  cases h

theorem avoids_pure (a : α) : Avoids faults (pure a : Except ε α) := avoids_ok a

theorem avoids_error {e : ε} (h : ¬ faults e) : Avoids faults (.error e : Except ε α) := by
  intro f hf
  cases hf
  exact h

/-- What comes after a computation need only avoid faults where that succeeds. -/
theorem Avoids.bind {f : α → Except ε β} (hx : Avoids faults x)
    (hf : ∀ a, x = .ok a → Avoids faults (f a)) : Avoids faults (x >>= f) := by
  intro e h
  cases x with
  | error d => exact hx e (by simpa [Bind.bind, Except.bind] using h)
  | ok a => exact hf a rfl e h

theorem Avoids.map {f : α → β} (hx : Avoids faults x) : Avoids faults (x.map f) := by
  intro e h
  cases x with
  | error d => exact hx e (by simpa [Except.map] using h)
  | ok a => cases h

end Avoids

end Caseflow
