import LedgerNode.Proofs.Storage.Changes
import LedgerNode.Proofs.Storage.History
import Mathlib.Data.Finset.Preimage
import Mathlib.Logic.Function.Basic

set_option autoImplicit false

namespace LedgerNode

structure Holding where
  balance : Balance
  flags : UInt8
  deriving DecidableEq, Repr

/-- What accounts there are and which height, apart from how they are kept. -/
structure Ledger where
  holding : Address → Option Holding
  height : Option UInt64

/-- A write, or the deletion of whatever stands under the key of an account. -/
inductive Edit where
  | write (written : Write)
  | delete (address : Address)

namespace Edit

def perform (store : Store) : Edit → Store
  | .write written => written.perform store
  | .delete address => store.delete address.key

def addresses : Edit → List Address
  | .write written => written.accounts.map Account.address
  | .delete address => [address]

def height? : Edit → Option UInt64
  | .write written => written.height?
  | .delete _ => none

end Edit

def Store.ofEdits (edits : List Edit) : Store :=
  edits.foldl Edit.perform .empty

namespace Ledger

def empty : Ledger where
  holding := fun _ => none
  height := none

def account (ledger : Ledger) (address : Address) : Account :=
  match ledger.holding address with
  | some holding => { address, balance := holding.balance, flags := holding.flags }
  | none => { address, balance := 0, flags := 0 }

def put (ledger : Ledger) (account : Account) : Ledger where
  holding := Function.update ledger.holding account.address
    (some { balance := account.balance, flags := account.flags })
  height := ledger.height

def remove (ledger : Ledger) (address : Address) : Ledger where
  holding := Function.update ledger.holding address none
  height := ledger.height

theorem holding_put (ledger : Ledger) (account : Account) (address : Address) :
    (ledger.put account).holding address =
      if address = account.address then some { balance := account.balance, flags := account.flags }
      else ledger.holding address :=
  Function.update_apply ..

theorem holding_remove (ledger : Ledger) (removed address : Address) :
    (ledger.remove removed).holding address =
      if address = removed then none else ledger.holding address :=
  Function.update_apply ..

def setHeight (ledger : Ledger) (height : UInt64) : Ledger :=
  { ledger with height := some height }

def edit (ledger : Ledger) : Edit → Ledger
  | .write (.putAccount account) => ledger.put account
  | .write (.putBatch accounts none) => accounts.foldl put ledger
  | .write (.putBatch accounts (some height)) => (accounts.foldl put ledger).setHeight height
  | .write (.putHeight height) => ledger.setHeight height
  | .write (.applyGenesis genesis) =>
    ((genesis.accounts.map GenesisAccount.account).foldl put ledger).setHeight genesis.height
  | .delete address => ledger.remove address

def ofEdits (edits : List Edit) : Ledger :=
  edits.foldl edit empty

end Ledger

/-- A store keeps a ledger: its records and its height stand under their keys, and nothing else does. -/
structure Keeps (ledger : Ledger) (store : Store) : Prop where
  records : ∀ address : Address, store.get? address.key =
    (ledger.holding address).map (fun holding =>
      Account.record { address, balance := holding.balance, flags := holding.flags })
  height : store.get? Store.heightKey =
    ledger.height.map (fun height => Bytes.bigEndian 8 height.toNat)
  known : ∀ key, (store.get? key).isSome →
    key = Store.heightKey ∨ ∃ address : Address, key = address.key

section Steps

variable {ledger : Ledger} {store : Store}

theorem keeps_empty : Keeps .empty .empty := by
  refine ⟨fun _ => rfl, rfl, fun key some => ?_⟩
  rw [Store.get?_empty] at some
  cases some

theorem Keeps.put (keeps : Keeps ledger store) (account : Account) :
    Keeps (ledger.put account) (store.putAccount account) := by
  have found (key : Bytes) : (store.putAccount account).get? key =
      if key = account.address.key then some account.record else store.get? key :=
    Store.get?_change store (Store.accountChange account) key
  refine ⟨fun address => ?_, ?_, fun key some => ?_⟩
  · rw [found, Ledger.holding_put]
    by_cases same : address = account.address
    · subst same
      simp
    · have other : address.key ≠ account.address.key := fun key => same (Address.eq_of_key key)
      rw [if_neg other, if_neg same, keeps.records]
  · rw [found, if_neg (Store.key_ne_heightKey account.address).symm]
    exact keeps.height
  · rw [found] at some
    split at some
    next same => exact .inr ⟨account.address, same⟩
    next => exact keeps.known key some

theorem Keeps.remove (keeps : Keeps ledger store) (address : Address) :
    Keeps (ledger.remove address) (store.delete address.key) := by
  refine ⟨fun other => ?_, ?_, fun key some => ?_⟩
  · rw [Store.get?_delete, Ledger.holding_remove]
    by_cases same : other = address
    · subst same
      simp
    · have apart : other.key ≠ address.key := fun key => same (Address.eq_of_key key)
      rw [if_neg apart, if_neg same, keeps.records]
  · rw [Store.get?_delete, if_neg (Store.key_ne_heightKey address).symm]
    exact keeps.height
  · rw [Store.get?_delete] at some
    split at some
    next => cases some
    next => exact keeps.known key some

theorem Keeps.setHeight (keeps : Keeps ledger store) (height : UInt64) :
    Keeps (ledger.setHeight height) (store.putHeight height) := by
  have found (key : Bytes) : (store.putHeight height).get? key =
      if key = Store.heightKey then some (Bytes.bigEndian 8 height.toNat) else store.get? key :=
    Store.get?_change store (Store.heightChange height) key
  refine ⟨fun address => ?_, ?_, fun key some => ?_⟩
  · rw [found, if_neg (Store.key_ne_heightKey address)]
    exact keeps.records address
  · rw [found, if_pos rfl]
    rfl
  · rw [found] at some
    split at some
    next same => exact .inl same
    next => exact keeps.known key some

theorem Keeps.putAll (keeps : Keeps ledger store) (accounts : List Account) :
    Keeps (accounts.foldl Ledger.put ledger) (store.putAccounts accounts none) := by
  induction accounts generalizing ledger store with
  | nil => exact keeps
  | cons account rest ih => exact ih (keeps.put account)

theorem putAccounts_height (store : Store) (accounts : List Account) (height : UInt64) :
    store.putAccounts accounts (some height) = (store.putAccounts accounts none).putHeight height := by
  simp [Store.putAccounts, Store.changeAll, Store.putHeight]

theorem Keeps.edit (keeps : Keeps ledger store) (edit : Edit) :
    Keeps (ledger.edit edit) (edit.perform store) := by
  cases edit with
  | delete address => exact keeps.remove address
  | write written =>
    cases written with
    | putAccount account => exact keeps.put account
    | putHeight height => exact keeps.setHeight height
    | putBatch accounts height =>
      cases height with
      | none => exact keeps.putAll accounts
      | some height =>
        rw [Edit.perform, Write.perform, putAccounts_height]
        exact (keeps.putAll accounts).setHeight height
    | applyGenesis genesis =>
      rw [Edit.perform, Write.perform, Genesis.apply, putAccounts_height]
      exact (keeps.putAll _).setHeight genesis.height

end Steps

theorem keeps_ofEdits (edits : List Edit) : Keeps (.ofEdits edits) (.ofEdits edits) := by
  have all (ledger : Ledger) (store : Store) (keeps : Keeps ledger store) :
      Keeps (edits.foldl Ledger.edit ledger) (edits.foldl Edit.perform store) := by
    induction edits generalizing ledger store with
    | nil => exact keeps
    | cons edit rest ih => exact ih _ _ (keeps.edit edit)
  exact all .empty .empty keeps_empty

section Readings

variable {ledger : Ledger} {store : Store}

theorem Keeps.account_eq (keeps : Keeps ledger store) (address : Address) :
    store.account address = .ok (ledger.account address) := by
  have record := keeps.records address
  unfold Ledger.account
  cases held : ledger.holding address with
  | none =>
    rw [held] at record
    exact Store.account_of_none record
  | some holding =>
    rw [held] at record
    exact Store.account_of_record { address, balance := holding.balance, flags := holding.flags } record

theorem Keeps.balance_eq (keeps : Keeps ledger store) (address : Address) :
    store.balance address = .ok (ledger.account address).balance := by
  rw [Store.balance, keeps.account_eq]
  rfl

theorem Keeps.lastHeight_eq (keeps : Keeps ledger store) : store.lastHeight = .ok ledger.height :=
  Store.lastHeight_of_record _ keeps.height

theorem Keeps.size_eq (keeps : Keeps ledger store) :
    ∃ present : Finset Address, (∀ address, address ∈ present ↔ (ledger.holding address).isSome) ∧
      store.size = present.card + if ledger.height.isSome then 1 else 0 := by
  have injective : Function.Injective Address.key := fun _ _ same => Address.eq_of_key same
  let present := store.keys.preimage Address.key injective.injOn
  have here (address : Address) : address ∈ present ↔ (ledger.holding address).isSome := by
    rw [Finset.mem_preimage, Store.mem_keys, keeps.records, Option.isSome_map]
  -- The keys are those of the addresses that are present and, apart from them, that of the height.
  let accounts := present.map ⟨Address.key, injective⟩
  let heights : Finset Bytes := if ledger.height.isSome then {Store.heightKey} else ∅
  have parts : store.keys = accounts ∪ heights := by
    ext key
    have height : key ∈ heights ↔ key = Store.heightKey ∧ ledger.height.isSome := by
      by_cases known : ledger.height.isSome <;> simp [heights, known]
    simp only [accounts, Finset.mem_union, Finset.mem_map, Function.Embedding.coeFn_mk, here, height,
      Store.mem_keys]
    constructor
    · intro some
      rcases keeps.known key some with rfl | ⟨address, rfl⟩
      · rw [keeps.height, Option.isSome_map] at some
        exact .inr ⟨rfl, some⟩
      · rw [keeps.records, Option.isSome_map] at some
        exact .inl ⟨address, some, rfl⟩
    · rintro (⟨address, some, rfl⟩ | ⟨rfl, some⟩)
      · rwa [keeps.records, Option.isSome_map]
      · rwa [keeps.height, Option.isSome_map]
  have apart : Disjoint accounts heights := by
    rw [Finset.disjoint_left]
    intro key account height
    obtain ⟨address, -, rfl⟩ := Finset.mem_map.mp account
    have key : address.key = Store.heightKey := by
      by_cases known : ledger.height.isSome <;> simp_all [heights]
    exact Store.key_ne_heightKey address key
  refine ⟨present, here, ?_⟩
  rw [← Store.card_keys, parts, Finset.card_union_of_disjoint apart, Finset.card_map]
  split <;> simp_all [heights]

end Readings

section Frames

variable (store : Store) (edit : Edit)

def Edit.changes : Edit → List Store.Change
  | .write written =>
    written.accounts.map Store.accountChange ++ (written.height?.map Store.heightChange).toList
  | .delete address => [.delete address.key]

theorem Edit.perform_eq : edit.perform store = store.changeAll edit.changes := by
  cases edit with
  | delete => rfl
  | write written => cases written <;> rfl

theorem Edit.key_of_mem_changes {edit : Edit} {change : Store.Change} (made : change ∈ edit.changes) :
    (∃ address ∈ edit.addresses, change.key = address.key) ∨
      edit.height?.isSome ∧ change.key = Store.heightKey := by
  cases edit with
  | delete address =>
    obtain rfl := List.mem_singleton.mp made
    exact .inl ⟨address, List.mem_singleton_self _, rfl⟩
  | write written =>
    rcases List.mem_append.mp made with listed | height
    · obtain ⟨account, member, rfl⟩ := List.mem_map.mp listed
      exact .inl ⟨account.address, List.mem_map_of_mem member, rfl⟩
    · rw [Option.mem_toList, Option.map_eq_some_iff] at height
      obtain ⟨height, named, rfl⟩ := height
      exact .inr ⟨by rw [Edit.height?, named]; rfl, rfl⟩

theorem Edit.account_perform {address : Address} (other : address ∉ edit.addresses) :
    (edit.perform store).account address = store.account address := by
  have kept : (edit.perform store).get? address.key = store.get? address.key := by
    rw [edit.perform_eq]
    refine Store.get?_changeAll_of_absent store (fun change made same => ?_)
    rcases Edit.key_of_mem_changes made with ⟨written, member, key⟩ | ⟨-, key⟩
    · exact other (Address.eq_of_key (key.symm.trans same) ▸ member)
    · exact Store.key_ne_heightKey address (same.symm.trans key)
  unfold Store.account
  rw [kept]

theorem Edit.lastHeight_perform (silent : edit.height? = none) :
    (edit.perform store).lastHeight = store.lastHeight := by
  have kept : (edit.perform store).get? Store.heightKey = store.get? Store.heightKey := by
    rw [edit.perform_eq]
    refine Store.get?_changeAll_of_absent store (fun change made same => ?_)
    rcases Edit.key_of_mem_changes made with ⟨written, -, key⟩ | ⟨some, -⟩
    · exact Store.key_ne_heightKey written (key.symm.trans same)
    · rw [silent] at some
      cases some
  unfold Store.lastHeight
  rw [kept]

end Frames

/--
After any edits a store answers every reading as the ledger that the edits make, and never with an error.
An edit leaves alone the accounts that it does not name, and the height if it names none.
-/
theorem store_reads_as_ledger :
    (∀ edits : List Edit,
      (∀ address,
        (Store.ofEdits edits).account address = .ok ((Ledger.ofEdits edits).account address) ∧
        (Store.ofEdits edits).balance address =
          .ok ((Ledger.ofEdits edits).account address).balance) ∧
      (Store.ofEdits edits).lastHeight = .ok (Ledger.ofEdits edits).height ∧
      ∃ present : Finset Address,
        (∀ address, address ∈ present ↔ ((Ledger.ofEdits edits).holding address).isSome) ∧
        (Store.ofEdits edits).size =
          present.card + if (Ledger.ofEdits edits).height.isSome then 1 else 0) ∧
    ∀ (store : Store) (edit : Edit),
      (∀ address, address ∉ edit.addresses →
        (edit.perform store).account address = store.account address ∧
        (edit.perform store).balance address = store.balance address) ∧
      (edit.height? = none → (edit.perform store).lastHeight = store.lastHeight) := by
  refine ⟨fun edits => ?_, fun store edit => ⟨fun address other => ?_, edit.lastHeight_perform store⟩⟩
  · have keeps := keeps_ofEdits edits
    exact ⟨fun address => ⟨keeps.account_eq address, keeps.balance_eq address⟩, keeps.lastHeight_eq,
      keeps.size_eq⟩
  · have kept := edit.account_perform store other
    exact ⟨kept, by rw [Store.balance, kept, Store.balance]⟩

def repeatedAndDeleted : List Edit := [
  .write (.putBatch [
    { address := .filled .eoa 1, balance := 1, flags := 0 },
    { address := .filled .contract 1, balance := 2, flags := 0 },
    { address := .filled .eoa 1, balance := 3, flags := 7 }] none),
  .delete (.filled .contract 1),
  .write (.putHeight 9)]

theorem repeatedAndDeleted_read :
    (Store.ofEdits repeatedAndDeleted).account (.filled .eoa 1) =
        .ok { address := .filled .eoa 1, balance := 3, flags := 7 } ∧
      (Store.ofEdits repeatedAndDeleted).balance (.filled .contract 1) = .ok 0 ∧
      (Store.ofEdits repeatedAndDeleted).lastHeight = .ok (some 9) ∧
      (Address.filled .eoa 1 ∉ (Edit.delete (.filled .contract 1)).addresses ∧
        ((Store.ofEdits repeatedAndDeleted).delete (Address.filled .contract 1).key).account
            (.filled .eoa 1) = .ok { address := .filled .eoa 1, balance := 3, flags := 7 }) ∧
      (Edit.delete (.filled .contract 1)).height? = none ∧
        ((Store.ofEdits repeatedAndDeleted).delete (Address.filled .contract 1).key).lastHeight =
          .ok (some 9) := by
  obtain ⟨reads, frames⟩ := store_reads_as_ledger
  obtain ⟨accounts, height, -⟩ := reads repeatedAndDeleted
  obtain ⟨kept, silent⟩ := frames (Store.ofEdits repeatedAndDeleted) (.delete (.filled .contract 1))
  have other : Address.filled .eoa 1 ∉ (Edit.delete (.filled .contract 1)).addresses := by decide
  refine ⟨(accounts _).1, (accounts _).2, height, ⟨other, ?_⟩, rfl, ?_⟩
  · exact (kept _ other).1.trans (accounts _).1
  · exact (silent rfl).trans height

end LedgerNode
