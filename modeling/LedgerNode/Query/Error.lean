import LedgerNode.AccountStore
import LedgerNode.Query.Basic

set_option autoImplicit false

namespace LedgerNode

open Json

inductive QueryError where
  | invalidRequest (reason : String)
  | methodNotFound (name : String)
  | invalidParams (reason : String)
  | stateUnavailable (height : UInt64)
  | storage (reason : String)
  | internal (reason : String)
  deriving DecidableEq, Repr

namespace QueryError

def invalidRequestCode : Int := -32600
def methodNotFoundCode : Int := -32601
def invalidParamsCode : Int := -32602
def internalCode : Int := -32603
def serverCode : Int := -32000

def code : QueryError → Int
  | invalidRequest _ => invalidRequestCode
  | methodNotFound _ => methodNotFoundCode
  | invalidParams _ => invalidParamsCode
  | stateUnavailable _ => serverCode
  | storage _ => serverCode
  | internal _ => internalCode

def message : QueryError → String
  | invalidRequest reason => "Invalid request: " ++ reason
  | methodNotFound name => "Method not found: " ++ name
  | invalidParams reason => "Invalid params: " ++ reason
  | stateUnavailable height =>
    "State of block height " ++ Quantity.toHex height.toNat ++ " is not available"
  | storage reason => "Storage error: " ++ reason
  | internal reason => "Internal error: " ++ reason

def ofStorage (error : StorageError) : QueryError :=
  storage error.message

def tag : QueryError → String
  | invalidRequest _ => "InvalidRequest"
  | methodNotFound _ => "MethodNotFound"
  | invalidParams _ => "InvalidParams"
  | stateUnavailable _ => "StateUnavailable"
  | storage _ => "Storage"
  | internal _ => "Internal"

def writeContent : QueryError → Bytes
  | invalidRequest reason => writeString reason
  | methodNotFound name => writeString name
  | invalidParams reason => writeString reason
  | stateUnavailable height => writeWord height
  | storage reason => writeString reason
  | internal reason => writeString reason

def write (error : QueryError) : Bytes :=
  writeObject [
    writeMember "kind" (writeString error.tag),
    writeMember "message" error.writeContent]

def form : Adjacent QueryError where
  expected := "adjacently tagged enum ServiceError"
  tagName := "kind"
  contentName := "message"
  variants := [
    { tag := "InvalidRequest", content := Shape.string.map invalidRequest, bare := none },
    { tag := "MethodNotFound", content := Shape.string.map methodNotFound, bare := none },
    { tag := "InvalidParams", content := Shape.string.map invalidParams, bare := none },
    { tag := "StateUnavailable", content := Shape.word.map stateUnavailable, bare := none },
    { tag := "Storage", content := Shape.string.map storage, bare := none },
    { tag := "Internal", content := Shape.string.map internal, bare := none }]

def read (bytes : Bytes) : Except Fault QueryError :=
  (form.read fullDepth).run bytes

end QueryError

end LedgerNode
