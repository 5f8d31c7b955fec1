import LedgerNode.Query.Answer

set_option autoImplicit false

namespace LedgerNode.Query

def answerHeight (store : Store) (query : Query) : Except QueryError UInt64 := do
  let stored ← store.lastHeight.mapError QueryError.ofStorage
  let last := stored.getD 0
  match query.height with
  | none => return last
  | some height =>
    if height = last then
      return height
    else if last < height then
      throw (.invalidParams ("Invalid block height: " ++ Quantity.toHex height.toNat))
    else
      throw (.stateUnavailable height)

def answerAt (store : Store) (height : UInt64) : Query → Reply
  | balance params =>
    (.balance <$> store.balance params.address).mapError QueryError.ofStorage
  | account params =>
    ((fun account => .account (.ofAccount account)) <$> store.account params.address).mapError
      QueryError.ofStorage
  | lastHeight => .ok (.height height)

def answer (store : Store) (query : Query) : Reply := do
  answerAt store (← answerHeight store query) query

def answerPayload (store : Store) (payload : Bytes) : Reply :=
  match read payload with
  | .ok query => query.answer store
  | .error fault => .error (.invalidRequest fault.message)

end LedgerNode.Query
