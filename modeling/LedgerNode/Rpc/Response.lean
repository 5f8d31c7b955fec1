import LedgerNode.Bus.Message
import LedgerNode.Query.Error

set_option autoImplicit false

namespace LedgerNode.Rpc

open Json Bus

inductive RpcError where
  | parse (reason : String)
  | invalidRequest (reason : String)
  | invalidParams (reason : String)
  | query (error : QueryError)
  | bus (error : BusError)
  deriving DecidableEq, Repr

namespace RpcError

def parseCode : Int := -32700
def timeoutCode : Int := -32006

def code : RpcError → Int
  | parse _ => parseCode
  | invalidRequest _ => QueryError.invalidRequestCode
  | invalidParams _ => QueryError.invalidParamsCode
  | query error => error.code
  | bus (.timeout _) => timeoutCode
  | bus _ => QueryError.serverCode

def message : RpcError → String
  | parse reason => "Parse error: " ++ reason
  | invalidRequest reason => "Invalid request: " ++ reason
  | invalidParams reason => "Invalid params: " ++ reason
  | query error => error.message
  | bus error => error.message

end RpcError

structure Response where
  id : Value
  outcome : Except RpcError Value

def version : String := "2.0"

def RpcError.write (error : RpcError) : Bytes :=
  writeObject [
    writeMember "code" (Bytes.ofString (Number.integer error.code).text),
    writeMember "message" (writeString error.message)]

namespace Response

def success (id : Value) (result : Value) : Response where
  id := id
  outcome := .ok result

def failure (id : Value) (error : RpcError) : Response where
  id := id
  outcome := .error error

def writeOutcome (response : Response) : Bytes :=
  match response.outcome with
  | .ok result => writeMember "result" result.write
  | .error error => writeMember "error" error.write

def write (response : Response) : Bytes :=
  writeObject [
    writeMember "jsonrpc" (writeString version),
    writeMember "id" response.id.write,
    response.writeOutcome]

end Response

inductive RpcReply where
  | single (response : Response)
  | batch (responses : List Response)

def RpcReply.write : RpcReply → Bytes
  | .single response => response.write
  | .batch responses => writeArray (responses.map Response.write)

end LedgerNode.Rpc
