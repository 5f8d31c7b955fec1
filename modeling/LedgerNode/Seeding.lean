import LedgerNode.Genesis

set_option autoImplicit false

namespace LedgerNode

inductive LogLine where
  | genesisApplied (accounts : Nat) (height : UInt64)
  | genesisSkipped (height : UInt64)
  | noGenesis
  | resuming (height : UInt64)
  | databaseIgnored
  deriving DecidableEq, Repr

def LogLine.text : LogLine → String
  | .genesisApplied accounts height =>
    s!"INFO: genesis applied: {accounts} accounts at height {height}"
  | .genesisSkipped height => s!"WARN: store already at height {height}, genesis skipped"
  | .noGenesis => "WARN: no genesis given, every balance reads as zero"
  | .resuming height => s!"INFO: resuming at height {height}"
  | .databaseIgnored => "WARN: built without the `rocksdb` feature, ignoring --db-path"

structure GenesisFile where
  path : String
  content : Except FileFault Bytes

/-- Work on a store in place. A failure leaves the store as it was when the failure arose. -/
abbrev StoreM (α : Type) := EStateM StorageError Store α

namespace Store

def loadGenesis (file : GenesisFile) : StoreM Genesis := do
  match Genesis.ofFile file.path file.content with
  | .ok genesis =>
    modify genesis.apply
    return genesis
  | .error fault => throw (.genesis fault.message)

def seedFrom (file : Option GenesisFile) (height : Option UInt64) : StoreM LogLine :=
  match file, height with
  | some file, none => do
    let genesis ← loadGenesis file
    return .genesisApplied genesis.accounts.length genesis.height
  | some _, some height => return .genesisSkipped height
  | none, none => return .noGenesis
  | none, some height => return .resuming height

def seedInPlace (file : Option GenesisFile) : StoreM LogLine := do
  seedFrom file (← MonadExcept.ofExcept (← get).lastHeight)

def seed (store : Store) (file : Option GenesisFile) : Except StorageError (Store × LogLine) :=
  match seedInPlace file store with
  | .ok line after => .ok (after, line)
  | .error error _ => .error error

end Store

end LedgerNode
