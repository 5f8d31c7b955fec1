import LedgerNode.Proofs.Storage.Batches
import LedgerNode.Proofs.Storage.Listing

set_option autoImplicit false

namespace LedgerNode

open Json

theorem getElem?_of_forall₂ {α β : Type} {related : α → β → Prop} {first : List α} {second : List β}
    (all : List.Forall₂ related first second) {i : Nat} {value : α} (here : first[i]? = some value) :
    ∃ other, second[i]? = some other ∧ related value other := by
  induction all generalizing i with
  | nil => simp at here
  | cons holds _ ih =>
    cases i with
    | zero =>
      cases here
      exact ⟨_, rfl, holds⟩
    | succ i => exact ih here

namespace Store

variable (store : Store) {changes : List Change}

theorem isSome_changeAll (puts : ∀ change ∈ changes, change.left?.isSome) (key : Bytes) :
    ((store.changeAll changes).get? key).isSome ↔
      key ∈ changes.map Change.key ∨ (store.get? key).isSome := by
  by_cases named : key ∈ changes.map Change.key
  · obtain ⟨change, made, rfl⟩ := List.mem_map.mp named
    rw [get?_changeAll]
    cases last : (changes.filter (fun other => other.key = change.key)).getLast? with
    | none =>
      rw [List.getLast?_eq_none_iff, List.filter_eq_nil_iff] at last
      exact absurd (decide_eq_true rfl) (last change made)
    | some other =>
      have there : other ∈ changes := (List.mem_filter.mp (List.mem_of_getLast? last)).1
      exact iff_of_true (puts other there) (.inl named)
  · have absent : ∀ change ∈ changes, change.key ≠ key :=
      fun change made same => named (List.mem_map.mpr ⟨change, made, same⟩)
    rw [get?_changeAll_of_absent store absent]
    simp only [named, false_or]

theorem size_changeAll (puts : ∀ change ∈ changes, change.left?.isSome)
    (distinct : (changes.map Change.key).Nodup) :
    (store.changeAll changes).size =
      store.size + ((changes.map Change.key).filter (fun key => (store.get? key).isNone)).length := by
  -- Puts to different keys add those that had no value.
  let added := (changes.map Change.key).filter (fun key => (store.get? key).isNone)
  have member (key : Bytes) : key ∈ added ↔
      key ∈ changes.map Change.key ∧ (store.get? key).isNone := List.mem_filter
  have parts : (store.changeAll changes).keys = store.keys ∪ added.toFinset := by
    ext key
    rw [Finset.mem_union, List.mem_toFinset, member, mem_keys, mem_keys, isSome_changeAll store puts]
    cases store.get? key <;> simp
  have apart : Disjoint store.keys added.toFinset := by
    rw [Finset.disjoint_left]
    intro key here there
    have absent := ((member key).mp (List.mem_toFinset.mp there)).2
    rw [mem_keys, ← Option.not_isNone] at here
    simp [absent] at here
  rw [← card_keys, parts, Finset.card_union_of_disjoint apart, card_keys,
    List.toFinset_card_of_nodup (distinct.filter _)]

end Store

namespace Genesis

section Refusals

variable {text : Bytes} {genesis : Genesis}

theorem repeated?_eq_some {seen addresses : List Address} {address : Address}
    (found : repeated? seen addresses = some address) :
    ∃ before after, addresses = before ++ address :: after ∧ (address ∈ seen ∨ address ∈ before) := by
  induction addresses generalizing seen with
  | nil => cases found
  | cons first rest ih =>
    unfold repeated? at found
    split at found
    next again =>
      cases found
      exact ⟨[], rest, rfl, .inl (List.contains_iff_mem.mp again)⟩
    next =>
      obtain ⟨before, after, rfl, earlier⟩ := ih found
      refine ⟨first :: before, after, rfl, ?_⟩
      rcases earlier with known | earlier
      · rcases List.mem_cons.mp known with rfl | known
        · exact .inr List.mem_cons_self
        · exact .inl known
      · exact .inr (List.mem_cons_of_mem _ earlier)

theorem exists_repeated (again : ¬ genesis.addresses.Nodup) :
    ∃ before address after, repeated? [] genesis.addresses = some address ∧
      genesis.addresses = before ++ address :: after ∧ address ∈ before := by
  cases found : repeated? [] genesis.addresses with
  | none => exact absurd (nodup_of_repeated?_eq_none found).1 again
  | some address =>
    obtain ⟨before, after, addresses, known | earlier⟩ := repeated?_eq_some found
    · cases known
    · exact ⟨before, address, after, rfl, addresses, earlier⟩

theorem read_eq_ok_iff : read text = .ok genesis ↔
    (shape.ofText fullDepth).run text = .ok genesis ∧ genesis.addresses.Nodup := by
  constructor
  · intro accepted
    refine ⟨?_, nodup_of_read accepted⟩
    unfold read at accepted
    split at accepted
    next => cases accepted
    next taken =>
      split at accepted
      next => cases accepted
      next =>
        cases accepted
        exact taken
  · rintro ⟨taken, distinct⟩
    have none : repeated? [] genesis.addresses = none := by
      by_contra some
      obtain ⟨address, found⟩ := Option.ne_none_iff_exists'.mp some
      obtain ⟨before, after, addresses, known | earlier⟩ := repeated?_eq_some found
      · cases known
      · rw [addresses] at distinct
        exact (List.nodup_append.mp distinct).2.2 _ earlier _ List.mem_cons_self rfl
    simp only [read, taken, none]

theorem not_nodup_of_positions {i j : Nat} {address : Address} (apart : i ≠ j)
    (here : genesis.addresses[i]? = some address) (there : genesis.addresses[j]? = some address) :
    ¬ genesis.addresses.Nodup := by
  intro distinct
  have bound : i < genesis.addresses.length := (List.getElem?_eq_some_iff.mp here).1
  exact apart ((List.getElem?_inj bound distinct).mp (here.trans there.symm))

theorem read_of_repeated (taken : (shape.ofText fullDepth).run text = .ok genesis)
    (again : ¬ genesis.addresses.Nodup) :
    ∃ before address after, genesis.addresses = before ++ address :: after ∧ address ∈ before ∧
      read text = .error (.duplicate address) := by
  obtain ⟨before, address, after, found, addresses, earlier⟩ := exists_repeated again
  exact ⟨before, address, after, addresses, earlier, by simp only [read, taken, found]⟩

theorem Listing.Gives.addresses_getElem? {listing : Listing} {address : Address} {i : Nat} {entry : Entry}
    (gives : listing.Gives genesis) (here : listing.entries[i]? = some entry)
    (spelled : Address.Spells entry.address address) : genesis.addresses[i]? = some address := by
  obtain ⟨account, there, given⟩ := getElem?_of_forall₂ gives.accounts here
  have same : account.address = address := by
    have read := Address.read_eq_ok_iff.mpr given.address
    rw [Address.read_eq_ok_iff.mpr spelled] at read
    exact (Except.ok.inj read).symm
  rw [addresses, List.getElem?_map, there, Option.map_some, same]

theorem exists_fault_of_spelled_twice {listing : Listing} {address : Address} {i j : Nat}
    {first second : Entry} (taken : Listing.read text = .ok listing) (apart : i ≠ j)
    (left : listing.entries[i]? = some first) (right : listing.entries[j]? = some second)
    (one : Address.Spells first.address address) (two : Address.Spells second.address address) :
    ∃ fault, read text = .error fault := by
  cases accepted : read text with
  | error fault => exact ⟨fault, rfl⟩
  | ok genesis =>
    obtain ⟨found, same, gives⟩ := exists_listing accepted
    cases same.symm.trans taken
    have here := gives.addresses_getElem? left one
    have there := gives.addresses_getElem? right two
    exact absurd (nodup_of_read accepted) (not_nodup_of_positions apart here there)

end Refusals

section Effects

variable {genesis : Genesis}

def keys (genesis : Genesis) : List Bytes :=
  genesis.addresses.map Address.key ++ [Store.heightKey]

theorem map_key_changes (genesis : Genesis) : genesis.changes.map Store.Change.key = genesis.keys := by
  simp [changes, keys, addresses, Store.accountChange, Store.heightChange, Store.Change.key,
    GenesisAccount.account, Function.comp_def]

theorem nodup_keys (distinct : genesis.addresses.Nodup) : genesis.keys.Nodup := by
  refine List.nodup_append.mpr ⟨distinct.map fun _ _ => Address.eq_of_key, List.nodup_singleton _, ?_⟩
  intro key account height there same
  obtain ⟨address, -, rfl⟩ := List.mem_map.mp account
  exact Store.key_ne_heightKey address (same.trans (List.mem_singleton.mp there))

theorem size_apply (distinct : genesis.addresses.Nodup) (store : Store) :
    (genesis.apply store).size =
      store.size + (genesis.keys.filter (fun key => (store.get? key).isNone)).length := by
  have puts : ∀ change ∈ genesis.changes, change.left?.isSome := by
    intro change made
    rcases mem_changes.mp made with ⟨listed, -, rfl⟩ | rfl <;> rfl
  have apart : (genesis.changes.map Store.Change.key).Nodup := by
    rw [map_key_changes]
    exact nodup_keys distinct
  rw [apply_eq_changeAll, Store.size_changeAll store puts apart, map_key_changes]

theorem exists_accounts_of_perm {other : Genesis} (distinct : genesis.addresses.Nodup)
    (perm : genesis.accounts.Perm other.accounts) (store : Store) :
    ∃ accounts : Store, genesis.apply store = accounts.putHeight genesis.height ∧
      other.apply store = accounts.putHeight other.height := by
  let written (listed : GenesisAccount) := Store.accountChange listed.account
  have apart : ((genesis.accounts.map written).map Store.Change.key).Nodup := by
    have keys := nodup_keys distinct
    rw [← map_key_changes, changes, List.map_append] at keys
    exact (List.nodup_append.mp keys).1
  have alike := (Store.alikeOnKeys_of_perm (perm.map written) apart).changeAll_eq store
  refine ⟨store.changeAll (genesis.accounts.map written), ?_, ?_⟩
  · rw [apply_eq_changeAll, changes, Store.changeAll_concat]
    rfl
  · rw [apply_eq_changeAll, changes, Store.changeAll_concat, alike]
    rfl

end Effects

/--
A text is accepted exactly if it is a genesis in which no address stands twice, however spelled. It leaves
each listed account and its height, and every other key as it was, in whatever order the accounts come.
-/
theorem accepted_genesis_takes_effect :
    (∀ (text : Bytes) (genesis : Genesis), read text = .ok genesis ↔
      (shape.ofText fullDepth).run text = .ok genesis ∧ genesis.addresses.Nodup) ∧
    (∀ (text : Bytes) (genesis : Genesis) (i j : Nat) (address : Address),
      (shape.ofText fullDepth).run text = .ok genesis → i ≠ j →
      genesis.addresses[i]? = some address → genesis.addresses[j]? = some address →
        ∃ before again after, genesis.addresses = before ++ again :: after ∧ again ∈ before ∧
          read text = .error (.duplicate again)) ∧
    (∀ (text : Bytes) (listing : Listing) (i j : Nat) (first second : Entry) (address : Address),
      Listing.read text = .ok listing → i ≠ j →
      listing.entries[i]? = some first → Address.Spells first.address address →
      listing.entries[j]? = some second → Address.Spells second.address address →
        ∃ fault, read text = .error fault) ∧
    (∀ (text : Bytes) (genesis : Genesis), read text = .ok genesis →
      (∃ listing, Listing.read text = .ok listing ∧ listing.Gives genesis) ∧
      ∀ store : Store, genesis.TakesEffect store (genesis.apply store) ∧
        (genesis.apply store).size =
          store.size + (genesis.keys.filter (fun key => (store.get? key).isNone)).length) ∧
    ∀ (text other : Bytes) (genesis reordered : Genesis), read text = .ok genesis →
      read other = .ok reordered → genesis.accounts.Perm reordered.accounts → ∀ store,
        (∀ key, key ≠ Store.heightKey →
          (genesis.apply store).get? key = (reordered.apply store).get? key) ∧
        (genesis.height = reordered.height → genesis.apply store = reordered.apply store) := by
  refine ⟨fun _ _ => read_eq_ok_iff, fun _ _ _ _ _ taken apart here there => ?_,
    fun _ _ _ _ _ _ _ taken apart here one there two => ?_, fun text genesis accepted => ?_,
    fun _ _ genesis reordered accepted _ perm store => ?_⟩
  · exact read_of_repeated taken (not_nodup_of_positions apart here there)
  · exact exists_fault_of_spelled_twice taken apart here there one two
  · have distinct := nodup_of_read accepted
    exact ⟨exists_listing accepted, fun store =>
      ⟨takesEffect_apply genesis distinct store, size_apply distinct store⟩⟩
  · obtain ⟨accounts, first, second⟩ := exists_accounts_of_perm (nodup_of_read accepted) perm store
    have putHeight (height : UInt64) (key : Bytes) (other : key ≠ Store.heightKey) :
        (accounts.putHeight height).get? key = accounts.get? key :=
      (Store.get?_change ..).trans (if_neg other)
    rw [first, second]
    refine ⟨fun key other => ?_, fun same => congrArg accounts.putHeight same⟩
    rw [putHeight genesis.height key other, putHeight reordered.height key other]

def twoAccounts : Bytes :=
  Bytes.ofString ("\x7b\"accounts\":[" ++
    "\x7b\"address\":\"hx0a0a0a0a0a0a0a0a0a0a0a0a0a0a0a0a0a0a0a0a\",\"balance\":\"1\"\x7d," ++
    "\x7b\"address\":\"cx0101010101010101010101010101010101010101\",\"balance\":\"2\"\x7d]\x7d")

def twoAccountsBackward : Bytes :=
  Bytes.ofString ("\x7b\"accounts\":[" ++
    "\x7b\"address\":\"cx0101010101010101010101010101010101010101\",\"balance\":\"0x2\"\x7d," ++
    "\x7b\"address\":\"hx0A0A0A0A0A0A0A0A0A0A0A0A0A0A0A0A0A0A0A0A\",\"balance\":\"1\"\x7d]\x7d")

def sameAccountTwice : Bytes :=
  Bytes.ofString ("\x7b\"accounts\":[" ++
    "\x7b\"address\":\"hx0a0a0a0a0a0a0a0a0a0a0a0a0a0a0a0a0a0a0a0a\",\"balance\":\"1\"\x7d," ++
    "\x7b\"address\":\"hx0A0A0A0A0A0A0A0A0A0A0A0A0A0A0A0A0A0A0A0A\",\"balance\":\"2\"\x7d]\x7d")

set_option maxRecDepth 2000 in
theorem twoAccounts_take_effect :
    ∃ genesis reordered, read twoAccounts = .ok genesis ∧ read twoAccountsBackward = .ok reordered ∧
      (∀ store : Store, (genesis.apply store).account (.filled .eoa 10) =
          .ok { address := .filled .eoa 10, balance := 1, flags := 0 } ∧
        (genesis.apply store).lastHeight = .ok (some 0) ∧
        (genesis.apply store).get? [7] = store.get? [7] ∧
        genesis.apply store = reordered.apply store) ∧
      (genesis.apply .empty).size = 3 ∧
      (∃ fault, read sameAccountTwice = .error fault) ∧
      ∃ again, read sameAccountTwice = .error (.duplicate again) := by
  obtain ⟨-, positions, spellings, effect, order⟩ := accepted_genesis_takes_effect
  have forward : read twoAccounts = .ok { height := 0, accounts := [
      { address := .filled .eoa 10, balance := 1 }, { address := .filled .contract 1, balance := 2 }] } :=
    rfl
  have backward : read twoAccountsBackward = .ok { height := 0, accounts := [
      { address := .filled .contract 1, balance := 2 }, { address := .filled .eoa 10, balance := 1 }] } :=
    rfl
  have twice : (shape.ofText fullDepth).run sameAccountTwice = .ok { height := 0, accounts := [
      { address := .filled .eoa 10, balance := 1 }, { address := .filled .eoa 10, balance := 2 }] } :=
    rfl
  have spelled : Listing.read sameAccountTwice = .ok { height := none, entries := [
      ⟨"hx0a0a0a0a0a0a0a0a0a0a0a0a0a0a0a0a0a0a0a0a", "1"⟩,
      ⟨"hx0A0A0A0A0A0A0A0A0A0A0A0A0A0A0A0A0A0A0A0A", "2"⟩] } :=
    rfl
  have lower : Address.Spells "hx0a0a0a0a0a0a0a0a0a0a0a0a0a0a0a0a0a0a0a0a" (.filled .eoa 10) :=
    Address.read_eq_ok_iff.mp rfl
  have upper : Address.Spells "hx0A0A0A0A0A0A0A0A0A0A0A0A0A0A0A0A0A0A0A0A" (.filled .eoa 10) :=
    Address.read_eq_ok_iff.mp rfl
  obtain ⟨-, takes⟩ := effect _ _ forward
  refine ⟨_, _, forward, backward, fun store => ⟨?_, (takes store).1.height, ?_, ?_⟩, ?_, ?_, ?_⟩
  · exact (takes store).1.listed _ List.mem_cons_self
  · exact (takes store).1.others [7] (by decide) (by decide)
  · exact (order _ _ _ _ forward backward (List.Perm.swap ..) store).2 rfl
  · exact (takes .empty).2
  · exact spellings _ _ 0 1 _ _ _ spelled (by decide) rfl lower rfl upper
  · obtain ⟨before, again, after, -, -, refused⟩ := positions _ _ 0 1 _ twice (by decide) rfl rfl
    exact ⟨again, refused⟩

end Genesis

end LedgerNode
