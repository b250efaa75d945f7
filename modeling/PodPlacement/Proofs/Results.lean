/-!
# Results that may fail

What a result, changed or passed on to a next step, says about the result itself. A
chain of steps fails at its first failing step, and is there only if every step is.
-/

namespace PodPlacement

variable {ε δ α β : Type}

/-- A change of a result that is there is a change of what it is. -/
theorem exists_of_map_eq_ok {change : α → β} {result : Except ε α} {changed : β}
    (mapped : result.map change = .ok changed) :
    ∃ value, result = .ok value ∧ change value = changed := by
  cases result with
  | error error => cases mapped
  | ok value => exact ⟨value, rfl, Except.ok.inj mapped⟩

/-- A change of a result fails exactly as the result does. -/
theorem map_eq_error_iff {change : α → β} {result : Except ε α} {error : ε} :
    result.map change = .error error ↔ result = .error error := by
  cases result <;> simp [Except.map]

theorem mapError_eq_ok_iff {change : ε → δ} {result : Except ε α} {value : α} :
    result.mapError change = .ok value ↔ result = .ok value := by
  cases result with
  | error error => constructor <;> rintro ⟨⟩
  | ok found =>
      constructor
      · rintro ⟨⟩
        rfl
      · rintro ⟨⟩
        rfl

theorem mapError_eq_error_iff {change : ε → δ} {result : Except ε α} {changed : δ} :
    result.mapError change = .error changed ↔
      ∃ error, result = .error error ∧ change error = changed := by
  cases result with
  | error error =>
      constructor
      · rintro ⟨⟩
        exact ⟨error, rfl, rfl⟩
      · rintro ⟨_, ⟨⟩, rfl⟩
        rfl
  | ok found =>
      constructor
      · rintro ⟨⟩
      · rintro ⟨_, ⟨⟩, _⟩

theorem bind_eq_ok_iff {result : Except ε α} {next : α → Except ε β} {value : β} :
    result >>= next = .ok value ↔ ∃ first, result = .ok first ∧ next first = .ok value := by
  cases result <;> simp [bind, Except.bind]

/-- A step fails, or the next one does. -/
theorem bind_eq_error_iff {result : Except ε α} {next : α → Except ε β} {error : ε} :
    result >>= next = .error error ↔
      result = .error error ∨ ∃ first, result = .ok first ∧ next first = .error error := by
  cases result <;> simp [bind, Except.bind]

/-- A result that does not fail is there. -/
theorem exists_eq_ok_iff {result : Except ε α} :
    (∃ value, result = .ok value) ↔ ∀ error, result ≠ .error error := by
  cases result <;> simp

/-- Two results that fail alike fail with the same error or are both there. -/
theorem both_error_or_both_ok {first second : Except ε α}
    (alike : ∀ error, first = .error error ↔ second = .error error) :
    (∃ error, first = .error error ∧ second = .error error) ∨
      (∃ value, first = .ok value) ∧ ∃ value, second = .ok value := by
  cases first with
  | error error => exact .inl ⟨error, rfl, (alike error).mp rfl⟩
  | ok value =>
      refine .inr ⟨⟨value, rfl⟩, exists_eq_ok_iff.mpr ?_⟩
      intro error fails
      cases (alike error).mpr fails

end PodPlacement
