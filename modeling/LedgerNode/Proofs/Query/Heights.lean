import LedgerNode.Query.Evaluation

set_option autoImplicit false

namespace LedgerNode.Query

section Heights

variable {store : Store} {stored : Option UInt64} {query : Query} {height : UInt64}

theorem answerHeight_asked (read : store.lastHeight = .ok stored)
    (asked : query.height = some height) :
    query.answerHeight store =
      if height = stored.getD 0 then .ok height
      else if stored.getD 0 < height then
        .error (.invalidParams ("Invalid block height: " ++ Quantity.toHex height.toNat))
      else .error (.stateUnavailable height) := by
  unfold answerHeight
  rw [read, asked]
  rfl

theorem answer_of_height {reached : UInt64} (at_height : query.answerHeight store = .ok reached) :
    query.answer store = query.answerAt store reached := by
  rw [answer, at_height]
  rfl

theorem answer_of_refused {error : QueryError} (refused : query.answerHeight store = .error error) :
    query.answer store = .error error := by
  rw [answer, refused]
  rfl

theorem answer_latest (read : store.lastHeight = .ok stored)
    (latest : query.height = none ∨ query.height = some (stored.getD 0)) :
    query.answer store = query.answerAt store (stored.getD 0) := by
  apply answer_of_height
  rcases latest with none | some
  · unfold answerHeight
    rw [read, none]
    rfl
  · rw [answerHeight_asked read some, if_pos rfl]

theorem answer_beyond (read : store.lastHeight = .ok stored) (asked : query.height = some height)
    (beyond : stored.getD 0 < height) :
    query.answer store =
      .error (.invalidParams ("Invalid block height: " ++ Quantity.toHex height.toNat)) := by
  apply answer_of_refused
  have other : height ≠ stored.getD 0 := by
    rintro rfl
    exact UInt64.lt_irrefl _ beyond
  rw [answerHeight_asked read asked, if_neg other, if_pos beyond]

theorem answer_gone (read : store.lastHeight = .ok stored) (asked : query.height = some height)
    (gone : height < stored.getD 0) : query.answer store = .error (.stateUnavailable height) := by
  apply answer_of_refused
  have other : height ≠ stored.getD 0 := by
    rintro rfl
    exact UInt64.lt_irrefl _ gone
  rw [answerHeight_asked read asked, if_neg other, if_neg (UInt64.lt_asymm gone)]

theorem code_of_refused {error : QueryError} (refused : query.answerHeight store = .error error) :
    error.code = QueryError.invalidParamsCode ∨ error.code = QueryError.serverCode := by
  -- A height is refused as a parameter or as a state that is gone; whatever else fails is the storage.
  cases read : store.lastHeight with
  | error fault =>
    rw [answerHeight, read] at refused
    cases refused
    exact .inr rfl
  | ok stored =>
    cases asked : query.height with
    | none =>
      rw [answerHeight, read, asked] at refused
      cases refused
    | some height =>
      rw [answerHeight_asked read asked] at refused
      split at refused
      next => cases refused
      next =>
        split at refused
        next =>
          cases refused
          exact .inl rfl
        next =>
          cases refused
          exact .inr rfl

theorem code_of_answerAt {error : QueryError} (failed : query.answerAt store height = .error error) :
    error.code = QueryError.serverCode := by
  cases query with
  | balance params =>
    cases read : store.balance params.address with
    | error fault =>
      rw [answerAt, read] at failed
      cases failed
      rfl
    | ok balance =>
      rw [answerAt, read] at failed
      cases failed
  | account params =>
    cases read : store.account params.address with
    | error fault =>
      rw [answerAt, read] at failed
      cases failed
      rfl
    | ok account =>
      rw [answerAt, read] at failed
      cases failed
  | lastHeight => cases failed

theorem code_of_answer {error : QueryError} (failed : query.answer store = .error error) :
    error.code = QueryError.invalidParamsCode ∨ error.code = QueryError.serverCode := by
  cases reached : query.answerHeight store with
  | error refusal =>
    rw [answer_of_refused reached] at failed
    cases failed
    exact code_of_refused reached
  | ok height =>
    rw [answer_of_height reached] at failed
    exact .inr (code_of_answerAt failed)

end Heights

end LedgerNode.Query
