import LedgerNode.Rpc.Response

set_option autoImplicit false

namespace LedgerNode.Rpc

open Json

structure SpelledParams where
  address : String
  height : Option String
  deriving DecidableEq, Repr

def SpelledParams.shape : Shape SpelledParams :=
  (Shape.record "struct AddressParams"
    (.cons (.required "address" Shape.string)
      (.cons (.optional "height" Shape.string) .nil))).map
    (fun (address, height, _) => { address, height })

def readHeight (text : String) : Except RpcError UInt64 :=
  if (Quantity.stripHexMark text.toList).isSome then
    (Quantity.readWord text).mapError (fun fault => .invalidParams fault.message)
  else
    .error (.invalidParams s!"height must be 0x-prefixed hex, got `{text}`")

def readAddress (text : String) : Except RpcError Address :=
  (Address.read text).mapError (fun fault => .invalidParams fault.message)

def readAccountParams (params : Option (List (String × Value))) :
    Except RpcError AccountParams := do
  match params with
  | none => throw (.invalidParams "missing params")
  | some members =>
    let spelled ← (SpelledParams.shape.ofTree (.object members)).mapError
      (fun fault => RpcError.invalidParams fault.message)
    let address ← readAddress spelled.address
    match spelled.height with
    | none => return { address, height := none }
    | some text => return { address, height := some (← readHeight text) }

def checkVersion (members : List (String × Value)) : Except RpcError Unit :=
  if (Value.member? "jsonrpc" members).bind Value.asString? = some version then .ok ()
  else .error (.invalidRequest "jsonrpc must be \"2.0\"")

def checkId (members : List (String × Value)) : Except RpcError Unit :=
  match Value.member? "id" members with
  | some (.string _) | some (.number _) | some .null => .ok ()
  | some _ => .error (.invalidRequest "invalid id")
  | none => .error (.invalidRequest "missing id")

def readMethod (members : List (String × Value)) : Except RpcError Method :=
  match (Value.member? "method" members).bind Value.asString? with
  | none => .error (.invalidRequest "method must be a string")
  | some name =>
    match Method.ofName? name with
    | some method => .ok method
    | none => .error (.query (.methodNotFound name))

def readParams (members : List (String × Value)) :
    Except RpcError (Option (List (String × Value))) :=
  match Value.member? "params" members with
  | none | some .null => .ok none
  | some (.object params) => .ok (some params)
  | some _ => .error (.invalidRequest "params must be an object")

def readQuery (method : Method) (params : Option (List (String × Value))) :
    Except RpcError Query :=
  match method with
  | .balance => .balance <$> readAccountParams params
  | .account => .account <$> readAccountParams params
  | .lastHeight =>
    if (params.getD []).isEmpty then .ok .lastHeight
    else .error (.invalidParams (Method.lastHeight.name ++ " takes no params"))

/-- The query that a value in normal form asks. -/
def readRequest (value : Value) : Except RpcError Query := do
  match value with
  | .object members =>
    checkVersion members
    checkId members
    let method ← readMethod members
    readQuery method (← readParams members)
  | _ => throw (.invalidRequest "request must be an object")

def responseId (value : Value) : Value :=
  match value with
  | .object members =>
    match Value.member? "id" members with
    | some (.string text) => .string text
    | some (.number number) => .number number
    | _ => .null
  | _ => .null

end LedgerNode.Rpc
