/-!
Results of a computation that may fail.
-/

namespace CardSearch.Fallible

theorem map_eq_ok_iff {ε α β : Type} {result : Except ε α} {f : α → β} {final : β} :
    result.map f = .ok final ↔ ∃ value, result = .ok value ∧ f value = final := by
  cases result with
  | error => simp [Except.map]
  | ok => simp [Except.map]

theorem map_eq_error_iff {ε α β : Type} {result : Except ε α} {f : α → β} {error : ε} :
    result.map f = .error error ↔ result = .error error := by
  cases result with
  | error => simp [Except.map]
  | ok => simp [Except.map]

theorem bind_eq_ok_iff {ε α β : Type} {result : Except ε α} {next : α → Except ε β} {final : β} :
    result.bind next = .ok final ↔ ∃ value, result = .ok value ∧ next value = .ok final := by
  cases result with
  | error => simp [Except.bind]
  | ok => simp [Except.bind]

theorem bind_eq_error_iff {ε α β : Type} {result : Except ε α} {next : α → Except ε β} {error : ε} :
    result.bind next = .error error ↔
      result = .error error ∨ ∃ value, result = .ok value ∧ next value = .error error := by
  cases result with
  | error => simp [Except.bind]
  | ok => simp [Except.bind]

end CardSearch.Fallible
