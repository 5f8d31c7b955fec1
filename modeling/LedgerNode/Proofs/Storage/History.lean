import LedgerNode.Genesis
import LedgerNode.Proofs.Storage.Records

set_option autoImplicit false

namespace LedgerNode

inductive Write where
  | putAccount (account : Account)
  | putBatch (accounts : List Account) (height : Option UInt64)
  | putHeight (height : UInt64)
  | applyGenesis (genesis : Genesis)

namespace Write

def perform (store : Store) : Write → Store
  | putAccount account => store.putAccount account
  | putBatch accounts height => store.putAccounts accounts height
  | putHeight height => store.putHeight height
  | applyGenesis genesis => genesis.apply store

def accounts : Write → List Account
  | putAccount account => [account]
  | putBatch accounts _ => accounts
  | putHeight _ => []
  | applyGenesis genesis => genesis.accounts.map GenesisAccount.account

def height? : Write → Option UInt64
  | putAccount _ => none
  | putBatch _ height => height
  | putHeight height => some height
  | applyGenesis genesis => some genesis.height

end Write

def replay (history : List Write) : Store :=
  history.foldl Write.perform .empty

def lastWritten? (history : List Write) (address : Address) : Option Account :=
  ((history.flatMap Write.accounts).filter (fun account => account.address = address)).getLast?

def lastWrittenBalance (history : List Write) (address : Address) : Balance :=
  ((lastWritten? history address).map Account.balance).getD 0

def lastWrittenHeight (history : List Write) : UInt64 :=
  ((history.filterMap Write.height?).getLast?).getD 0

structure Holds (accounts : List Account) (heights : List UInt64) (store : Store) : Prop where
  records : ∀ address : Address, store.get? address.key =
    ((accounts.filter (fun account => account.address = address)).getLast?).map Account.record
  height : store.get? Store.heightKey =
    heights.getLast?.map (fun height => Bytes.bigEndian 8 height.toNat)

section Steps

variable {accounts : List Account} {heights : List UInt64} {store : Store}

theorem holds_empty : Holds [] [] .empty := by
  refine ⟨fun address => ?_, ?_⟩
  · rfl
  · rfl

theorem Holds.putAccount (holds : Holds accounts heights store) (account : Account) :
    Holds (accounts ++ [account]) heights (store.putAccount account) := by
  refine ⟨fun address => ?_, ?_⟩
  · rw [Store.putAccount, Store.accountChange, Store.change, Store.get?_put, List.filter_append]
    by_cases same : address = account.address
    · subst same
      simp
    · have other : address.key ≠ account.address.key := fun key => same (Address.eq_of_key key)
      rw [if_neg other, holds.records address]
      simp [Ne.symm same]
  · rw [Store.putAccount, Store.accountChange, Store.change, Store.get?_put,
      if_neg (Ne.symm (Store.key_ne_heightKey account.address))]
    exact holds.height

theorem Holds.putHeight (holds : Holds accounts heights store) (height : UInt64) :
    Holds accounts (heights ++ [height]) (store.putHeight height) := by
  refine ⟨fun address => ?_, ?_⟩
  · rw [Store.putHeight, Store.heightChange, Store.change, Store.get?_put,
      if_neg (Store.key_ne_heightKey address)]
    exact holds.records address
  · rw [Store.putHeight, Store.heightChange, Store.change, Store.get?_put, if_pos rfl]
    simp

theorem Holds.putAccounts (holds : Holds accounts heights store) (written : List Account)
    (height : Option UInt64) :
    Holds (accounts ++ written) (heights ++ height.toList) (store.putAccounts written height) := by
  induction written generalizing accounts store with
  | nil =>
    rw [List.append_nil]
    cases height with
    | none => simpa [Store.putAccounts, Store.changeAll] using holds
    | some height => exact holds.putHeight height
  | cons account rest ih =>
    have later := ih (holds.putAccount account)
    rw [List.append_assoc, List.singleton_append] at later
    exact later

theorem Holds.perform (holds : Holds accounts heights store) (write : Write) :
    Holds (accounts ++ write.accounts) (heights ++ write.height?.toList) (write.perform store) := by
  cases write with
  | putAccount account =>
    have written := holds.putAccount account
    rw [← List.append_nil heights] at written
    exact written
  | putBatch written height => exact holds.putAccounts written height
  | putHeight height =>
    have written := holds.putHeight height
    rw [← List.append_nil accounts] at written
    exact written
  | applyGenesis genesis => exact holds.putAccounts _ (some genesis.height)

end Steps

theorem holds_replay (history : List Write) :
    Holds (history.flatMap Write.accounts) (history.filterMap Write.height?) (replay history) := by
  have all (accounts : List Account) (heights : List UInt64) (store : Store)
      (holds : Holds accounts heights store) :
      Holds (accounts ++ history.flatMap Write.accounts)
        (heights ++ history.filterMap Write.height?) (history.foldl Write.perform store) := by
    -- On the writes that are left, from any store that holds what was written so far.
    induction history generalizing accounts heights store with
    | nil => simpa using holds
    | cons write rest ih =>
      have later := ih _ _ _ (holds.perform write)
      rw [List.append_assoc, List.append_assoc] at later
      cases written : write.height? with
      | none => simpa [written] using later
      | some height => simpa [written] using later
  exact all [] [] .empty holds_empty

theorem account_replay (history : List Write) (address : Address) :
    ∃ account, (replay history).account address = .ok account ∧ account.address = address ∧
      account.balance = lastWrittenBalance history address := by
  have record := (holds_replay history).records address
  unfold lastWrittenBalance lastWritten?
  cases last : ((history.flatMap Write.accounts).filter
      (fun account => account.address = address)).getLast? with
  | none =>
    rw [last] at record
    exact ⟨.unused address, Store.account_of_none record, rfl, rfl⟩
  | some account =>
    have own : account.address = address := by
      have member := List.mem_of_getLast? last
      simpa using (List.mem_filter.mp member).2
    rw [last, ← own] at record
    exact ⟨account, own ▸ Store.account_of_record account record, own, rfl⟩

theorem balance_replay (history : List Write) (address : Address) :
    (replay history).balance address = .ok (lastWrittenBalance history address) := by
  obtain ⟨account, read, -, balance⟩ := account_replay history address
  rw [Store.balance, read, ← balance]
  rfl

theorem lastHeight_replay (history : List Write) :
    ∃ stored, (replay history).lastHeight = .ok stored ∧
      stored.getD 0 = lastWrittenHeight history := by
  exact ⟨_, Store.lastHeight_of_record _ (holds_replay history).height, rfl⟩

end LedgerNode
