import LedgerNode.AccountStore
import LedgerNode.Query.Basic

set_option autoImplicit false

namespace LedgerNode

open Json

structure GenesisAccount where
  address : Address
  balance : Balance
  deriving DecidableEq, Repr

structure Genesis where
  height : UInt64
  accounts : List GenesisAccount
  deriving DecidableEq, Repr

inductive FileFault where
  | notFound
  | directory
  | notText
  | other (reason : String)
  deriving DecidableEq, Repr

def FileFault.message : FileFault → String
  | .notFound => "No such file or directory (os error 2)"
  | .directory => "Is a directory (os error 21)"
  | .notText => "stream did not contain valid UTF-8"
  | .other reason => reason

inductive GenesisFault where
  | json (fault : Fault)
  | duplicate (address : Address)
  | file (path : String) (fault : FileFault)
  deriving DecidableEq, Repr

def GenesisFault.message : GenesisFault → String
  | .json fault => fault.message
  | .duplicate address => "duplicate account `" ++ address.text ++ "`"
  | .file path fault => path ++ ": " ++ fault.message

namespace GenesisAccount

def shape : Shape GenesisAccount :=
  (Shape.record "struct GenesisAccount"
    (.cons (.required "address" Address.shape)
      (.cons (.required "balance" Quantity.balanceShape) .nil))).map
    (fun (address, balance, _) => { address, balance })

def account (listed : GenesisAccount) : Account where
  address := listed.address
  balance := listed.balance
  flags := 0

end GenesisAccount

namespace Genesis

def shape : Shape Genesis :=
  (Shape.record "struct Genesis"
    (.cons (.withDefault "height" Shape.word 0)
      (.cons (.required "accounts" (Shape.listOf GenesisAccount.shape)) .nil))).map
    (fun (height, accounts, _) => { height, accounts })

def repeated? : List Address → List Address → Option Address
  | _, [] => none
  | seen, address :: rest =>
    if seen.contains address then some address else repeated? (address :: seen) rest

def addresses (genesis : Genesis) : List Address :=
  genesis.accounts.map GenesisAccount.address

def read (text : Bytes) : Except GenesisFault Genesis :=
  match (shape.ofText fullDepth).run text with
  | .error fault => .error (.json fault)
  | .ok genesis =>
    match repeated? [] genesis.addresses with
    | some address => .error (.duplicate address)
    | none => .ok genesis

def apply (genesis : Genesis) (store : Store) : Store :=
  store.putAccounts (genesis.accounts.map GenesisAccount.account) (some genesis.height)

def ofFile (path : String) (content : Except FileFault Bytes) : Except GenesisFault Genesis :=
  match content with
  | .error fault => .error (.file path fault)
  | .ok bytes =>
    if (Bytes.text? bytes).isSome then read bytes else .error (.file path .notText)

end Genesis

end LedgerNode
