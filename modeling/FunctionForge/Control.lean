/-!
# Computations taken apart

A computation made of steps succeeds only if each of its steps does, and an error comes from the
first step that fails. With a state, the second of two steps starts where the first one ended.
-/

namespace FunctionForge

section Except

variable {ε δ α β : Type}

theorem exists_of_map_eq_ok {result : Except ε α} {f : α → β} {b : β} (h : result.map f = .ok b) :
    ∃ a, result = .ok a ∧ f a = b := by
  cases result with
  | error e => cases h
  | ok a => exact ⟨a, rfl, Except.ok.inj h⟩

theorem error_of_map_eq_error {result : Except ε α} {f : α → β} {e : ε}
    (h : result.map f = .error e) : result = .error e := by
  cases result with
  | error e' => exact congrArg Except.error (Except.error.inj h)
  | ok a => cases h

theorem ok_of_mapError_eq_ok {result : Except ε α} {f : ε → δ} {a : α}
    (h : result.mapError f = .ok a) : result = .ok a := by
  cases result with
  | error e => cases h
  | ok a' => exact congrArg Except.ok (Except.ok.inj h)

theorem exists_of_bind_eq_ok {result : Except ε α} {next : α → Except ε β} {b : β}
    (h : result >>= next = .ok b) : ∃ a, result = .ok a ∧ next a = .ok b := by
  cases result with
  | error e => cases h
  | ok a => exact ⟨a, rfl, h⟩

theorem exists_of_bind_eq_error {result : Except ε α} {next : α → Except ε β} {e : ε}
    (h : result >>= next = .error e) :
    result = .error e ∨ ∃ a, result = .ok a ∧ next a = .error e := by
  cases result with
  | error e' => exact .inl (congrArg Except.error (Except.error.inj h))
  | ok a => exact .inr ⟨a, rfl, h⟩

theorem exists_of_mapM_eq_ok {read : α → Except ε β} {elements : List α} {results : List β}
    (h : elements.mapM read = .ok results) {a : α} (ha : a ∈ elements) : ∃ b, read a = .ok b := by
  induction elements generalizing results with
  | nil => exact absurd ha List.not_mem_nil
  | cons first rest ih =>
    rw [List.mapM_cons] at h
    obtain ⟨b, hfirst, h⟩ := exists_of_bind_eq_ok h
    obtain ⟨others, hrest, -⟩ := exists_of_bind_eq_ok h
    rcases List.mem_cons.1 ha with rfl | ha
    · exact ⟨b, hfirst⟩
    · exact ih hrest ha

/-- If a fold gives a value, so does its step at every element. -/
theorem exists_of_foldlM_eq_ok {step : β → α → Except ε β} {elements : List α} {start last : β}
    (h : elements.foldlM step start = .ok last) {a : α} (ha : a ∈ elements) :
    ∃ before after, step before a = .ok after := by
  induction elements generalizing start with
  | nil => exact absurd ha List.not_mem_nil
  | cons first rest ih =>
    rw [List.foldlM_cons] at h
    obtain ⟨next, hfirst, hrest⟩ := exists_of_bind_eq_ok h
    rcases List.mem_cons.1 ha with rfl | ha
    · exact ⟨start, next, hfirst⟩
    · exact ih hrest ha

end Except

section State

variable {τ σ α β : Type}

theorem run_bind_of_run_eq {action : StateM σ α} {before between : σ} {value : α}
    (h : action.run before = (value, between)) (next : α → StateM σ β) :
    (action >>= next).run before = (next value).run between := by
  rw [StateT.run_bind, h]
  rfl

theorem run_run_bind_of_run_eq {action : StateT τ (StateM σ) α} {before between : τ}
    {start middle : σ} {value : α}
    (h : (action.run before).run start = ((value, between), middle))
    (next : α → StateT τ (StateM σ) β) :
    ((action >>= next).run before).run start = ((next value).run between).run middle := by
  rw [StateT.run_bind, run_bind_of_run_eq h]

end State

end FunctionForge
