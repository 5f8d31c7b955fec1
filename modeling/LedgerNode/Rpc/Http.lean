import LedgerNode.Rpc.FrontEnd

set_option autoImplicit false

namespace LedgerNode.Rpc.Http

open Bus

structure Request where
  method : String
  target : String
  body : Bytes
  deriving DecidableEq, Repr

structure Response where
  status : Nat
  contentType : Option String
  body : Bytes
  deriving DecidableEq, Repr

def bodyLimit : Nat := 262144

def isSchemeByte (byte : UInt8) : Bool :=
  let character := Char.ofNat byte.toNat
  character.isAlphanum || character == '+' || character == '-' || character == '.' ||
    character == '~'

def endsAuthority (byte : UInt8) : Bool :=
  byte == 0x2F || byte == 0x3F || byte == 0x23

def resource? (target : Bytes) : Option Bytes :=
  match target with
  | 0x2F :: _ => some target
  | _ =>
    match target.dropWhile isSchemeByte with
    | 0x3A :: 0x2F :: 0x2F :: rest =>
      let behind := rest.dropWhile (fun byte => !endsAuthority byte)
      if behind.length < rest.length then some behind else none
    | _ => none

def rawPath? (target : String) : Option Bytes :=
  (resource? (Bytes.ofString target)).map
    (List.takeWhile (fun byte => byte != 0x3F && byte != 0x23))

def hexValue? (byte : UInt8) : Option Nat :=
  Digits.value? 16 (Char.ofNat byte.toNat)

/-- Resolves percent escapes, except those of a percent sign, a slash and a plus sign. -/
def unescape : Bytes → Bytes
  | 0x25 :: high :: low :: rest =>
    match hexValue? high, hexValue? low with
    | some upper, some lower =>
      let byte := UInt8.ofNat (16 * upper + lower)
      if byte = 0x25 || byte = 0x2F || byte = 0x2B then 0x25 :: high :: low :: unescape rest
      else byte :: unescape rest
    | _, _ => 0x25 :: unescape (high :: low :: rest)
  | byte :: rest => byte :: unescape rest
  | [] => []

def path? (target : String) : Option Bytes :=
  (rawPath? target).map unescape

def json (body : Bytes) : Response where
  status := 200
  contentType := some "application/json"
  body := body

def notFound : Response where
  status := 404
  contentType := none
  body := []

def tooLarge : Response where
  status := 413
  contentType := some "text/plain; charset=utf-8"
  body := Bytes.ofString "payload reached size limit"

def health : Response :=
  json (Json.Value.object [("status", .string "ok")]).write

def handle (respond : Responder) (frontEnd : FrontEnd) (request : Request) :
    Response × FrontEnd :=
  if request.method = "POST" && path? request.target = some (Bytes.ofString "/api/v3") then
    if bodyLimit < request.body.length then
      (tooLarge, frontEnd)
    else
      let (reply, after) := frontEnd.answerBody respond request.body
      (json reply.write, after)
  else if request.method = "GET" && path? request.target = some (Bytes.ofString "/health") then
    (health, frontEnd)
  else
    (notFound, frontEnd)

end LedgerNode.Rpc.Http
