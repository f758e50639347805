import CardSearch.Query.Clause

/-!
Why a word cannot be read. A clause fails only with the cause that belongs to its kind, and a word
that is no clause does not fail.
-/

namespace CardSearch.Query

def ClauseKind.cause? : ClauseKind → Option Cause
  | .state => some .unknownState
  | .flag => some .invalidFlag
  | .property => some .invalidProperty
  | .date _ => some .invalidDate
  | .tag | .deck | .regex | .wholeWord | .accentless => none

namespace Leaf

variable {fault : Fault}

theorem cause_of_readState {value : List Char} (failed : readState value = .error fault) :
    fault.cause = .unknownState := by
  unfold readState at failed
  split at failed <;> cases failed
  rfl

theorem cause_of_readFlag {value : List Char} (failed : readFlag value = .error fault) :
    fault.cause = .invalidFlag := by
  unfold readFlag at failed
  split at failed <;> cases failed
  rfl

theorem cause_of_readProperty {clause : List Char} (failed : readProperty clause = .error fault) :
    fault.cause = .invalidProperty := by
  unfold readProperty at failed
  split at failed
  next =>
    cases failed
    rfl
  split at failed
  next =>
    cases failed
    rfl
  split at failed <;> cases failed
  rfl

theorem cause_of_readDays {kind : WindowKind} {days : List Char}
    (failed : readDays kind days = .error fault) : fault.cause = .invalidDate := by
  unfold readDays at failed
  split at failed <;> cases failed
  rfl

theorem cause_of_readRating {rating : List Char} (failed : readRating rating = .error fault) :
    fault.cause = .invalidDate := by
  unfold readRating at failed
  split at failed <;> cases failed
  rfl

theorem cause_of_readDate {kind : WindowKind} {clause : List Char}
    (failed : readDate kind clause = .error fault) : fault.cause = .invalidDate := by
  unfold readDate at failed
  split at failed
  next => exact cause_of_readDays (Fallible.map_eq_error_iff.1 failed)
  next days rating _ =>
    split at failed
    next =>
      rcases Fallible.bind_eq_error_iff.1 failed with counting | ⟨count, -, failed⟩
      · exact cause_of_readDays counting
      rcases Fallible.bind_eq_error_iff.1 failed with rating | ⟨found, -, done⟩
      · exact cause_of_readRating rating
      · cases done
    next =>
      cases failed
      rfl

theorem cause_of_readClause {kind : ClauseKind} {value : List Char}
    (failed : readClause kind value = .error fault) : kind.cause? = some fault.cause := by
  cases kind with
  | state => exact congrArg some (cause_of_readState failed).symm
  | flag => exact congrArg some (cause_of_readFlag failed).symm
  | property => exact congrArg some (cause_of_readProperty failed).symm
  | date kind => exact congrArg some (cause_of_readDate failed).symm
  | tag | deck | regex | wholeWord | accentless => cases failed

theorem exists_kind_of_read {word : List Char} (failed : read word = .error fault) :
    ∃ name value kind, splitColon? word = some (name, value) ∧
      ClauseKind.ofName? name = some kind ∧ kind.cause? = some fault.cause := by
  unfold read at failed
  split at failed
  next => cases failed
  next => cases failed
  next name value _ split =>
    split at failed
    next kind named => exact ⟨name, value, kind, split, named, cause_of_readClause failed⟩
    next => cases failed

end Leaf

theorem Token.exists_kind_of_ofWord {word : List Char} {fault : Fault}
    (failed : Token.ofWord word = .error fault) :
    ∃ kind : ClauseKind, kind.cause? = some fault.cause := by
  unfold ofWord at failed
  split at failed
  · cases failed
  · cases failed
  · cases failed
  · obtain ⟨_, _, kind, -, -, cause⟩ :=
      Leaf.exists_kind_of_read (Fallible.map_eq_error_iff.1 failed)
    exact ⟨kind, cause⟩

theorem Token.cause_of_ofWord {word : List Char} {fault : Fault}
    (failed : Token.ofWord word = .error fault) :
    fault.cause ≠ .unexpectedEnd ∧ fault.cause ≠ .unclosedQuote := by
  obtain ⟨kind, cause⟩ := exists_kind_of_ofWord failed
  constructor
  all_goals
    intro same
    rw [same] at cause
    cases kind <;> cases cause

end CardSearch.Query
