set_option autoImplicit false

namespace LedgerNode

variable {ε δ α β : Type} {result : Except ε α}

theorem error_ne_ok {error : ε} {value : α} : (Except.error error : Except ε α) ≠ .ok value :=
  nofun

theorem bind_eq_ok_iff {next : α → Except ε β} {value : β} :
    (result >>= next) = .ok value ↔ ∃ middle, result = .ok middle ∧ next middle = .ok value := by
  cases result <;> simp [Bind.bind, Except.bind]

theorem bind_eq_error_iff {next : α → Except ε β} {error : ε} :
    (result >>= next) = .error error ↔
      result = .error error ∨ ∃ middle, result = .ok middle ∧ next middle = .error error := by
  cases result <;> simp [Bind.bind, Except.bind]

theorem map_eq_ok_iff {change : α → β} {value : β} :
    change <$> result = .ok value ↔ ∃ middle, result = .ok middle ∧ change middle = value := by
  cases result <;> simp [Functor.map, Except.map]

theorem map_eq_error_iff {change : α → β} {error : ε} :
    change <$> result = .error error ↔ result = .error error := by
  cases result <;> simp [Functor.map, Except.map]

theorem mapError_eq_ok_iff {wrap : ε → δ} {value : α} :
    result.mapError wrap = .ok value ↔ result = .ok value := by
  cases result with
  | error => exact iff_of_false error_ne_ok error_ne_ok
  | ok =>
    exact ⟨fun same => congrArg _ (Except.ok.inj same), fun same => congrArg _ (Except.ok.inj same)⟩

theorem mapError_eq_error_iff {wrap : ε → δ} {error : δ} :
    result.mapError wrap = .error error ↔ ∃ fault, result = .error fault ∧ wrap fault = error := by
  cases result with
  | error first =>
    refine ⟨fun same => ⟨first, rfl, Except.error.inj same⟩, ?_⟩
    rintro ⟨fault, same, rfl⟩
    rw [Except.error.inj same]
    rfl
  | ok value =>
    refine iff_of_false error_ne_ok.symm ?_
    rintro ⟨fault, same, -⟩
    exact error_ne_ok same.symm

end LedgerNode
