import LedgerNode.Proofs.Storage.Changes
import LedgerNode.Seeding

set_option autoImplicit false

namespace LedgerNode

namespace Genesis

theorem nodup_of_repeated?_eq_none {seen addresses : List Address}
    (none : repeated? seen addresses = none) :
    addresses.Nodup ∧ ∀ address ∈ addresses, address ∉ seen := by
  induction addresses generalizing seen with
  | nil => exact ⟨.nil, nofun⟩
  | cons address rest ih =>
    unfold repeated? at none
    split at none
    next => cases none
    next new =>
      obtain ⟨distinct, apart⟩ := ih none
      have absent : address ∉ rest := fun later => apart address later List.mem_cons_self
      refine ⟨List.nodup_cons.mpr ⟨absent, distinct⟩, fun other member => ?_⟩
      rcases List.mem_cons.mp member with rfl | later
      · simpa using new
      · exact fun earlier => apart other later (List.mem_cons_of_mem _ earlier)

theorem nodup_of_read {text : Bytes} {genesis : Genesis} (reads : read text = .ok genesis) :
    genesis.addresses.Nodup := by
  unfold read at reads
  split at reads
  next => cases reads
  next found _ =>
    split at reads
    next => cases reads
    next none =>
      cases reads
      exact (nodup_of_repeated?_eq_none none).1

theorem nodup_of_ofFile {path : String} {content : Except FileFault Bytes} {genesis : Genesis}
    (accepted : ofFile path content = .ok genesis) : genesis.addresses.Nodup := by
  unfold ofFile at accepted
  split at accepted
  next => cases accepted
  next =>
    split at accepted
    next => exact nodup_of_read accepted
    next => cases accepted

/-- A genesis has its whole effect on a store: every listed account and the height are there, and
nothing else has changed. -/
structure TakesEffect (genesis : Genesis) (before after : Store) : Prop where
  listed : ∀ listed ∈ genesis.accounts, after.account listed.address =
    .ok { address := listed.address, balance := listed.balance, flags := 0 }
  height : after.lastHeight = .ok (some genesis.height)
  others : ∀ key, key ≠ Store.heightKey → (∀ address ∈ genesis.addresses, key ≠ address.key) →
    after.get? key = before.get? key

def changes (genesis : Genesis) : List Store.Change :=
  genesis.accounts.map (fun listed => Store.accountChange listed.account) ++
    [Store.heightChange genesis.height]

theorem apply_eq_changeAll (genesis : Genesis) (store : Store) :
    genesis.apply store = store.changeAll genesis.changes := by
  rw [apply, Store.putAccounts, List.map_map]
  rfl

theorem mem_changes {genesis : Genesis} {change : Store.Change} : change ∈ genesis.changes ↔
    (∃ listed ∈ genesis.accounts, change = Store.accountChange listed.account) ∨
      change = Store.heightChange genesis.height := by
  simp [changes, eq_comm]

theorem takesEffect_apply (genesis : Genesis) (distinct : genesis.addresses.Nodup) (store : Store) :
    genesis.TakesEffect store (genesis.apply store) := by
  rw [apply_eq_changeAll]
  refine ⟨fun listed member => ?_, ?_, fun key height account => ?_⟩
  · -- No other account of the file has the address, so its record is the last one under that key.
    have record : (store.changeAll genesis.changes).get? listed.address.key =
        some listed.account.record := by
      refine Store.get?_changeAll_of_unique store (Store.accountChange listed.account)
        (mem_changes.mpr (.inl ⟨listed, member, rfl⟩)) (fun other there same => ?_)
      rcases mem_changes.mp there with ⟨second, listedToo, rfl⟩ | rfl
      · have address : second.address = listed.address := Address.eq_of_key same
        rw [List.inj_on_of_nodup_map distinct listedToo member address]
      · exact absurd same.symm (Store.key_ne_heightKey listed.address)
    exact Store.account_of_record listed.account record
  · have record : (store.changeAll genesis.changes).get? Store.heightKey =
        some (Bytes.bigEndian 8 genesis.height.toNat) := by
      refine Store.get?_changeAll_of_unique store (Store.heightChange genesis.height)
        (mem_changes.mpr (.inr rfl)) (fun other there same => ?_)
      rcases mem_changes.mp there with ⟨second, -, rfl⟩ | rfl
      · exact absurd same (Store.key_ne_heightKey second.address)
      · rfl
    exact Store.lastHeight_of_record (some genesis.height) record
  · refine Store.get?_changeAll_of_absent store (fun change there same => ?_)
    rcases mem_changes.mp there with ⟨listed, member, rfl⟩ | rfl
    · exact account listed.address (List.mem_map_of_mem member) same.symm
    · exact height same.symm

end Genesis

namespace Store

inductive Seeded (store : Store) : Option GenesisFile →
    EStateM.Result StorageError Store LogLine → Prop where
  | unreadable {file : Option GenesisFile} {error : StorageError}
      (corrupt : store.lastHeight = .error error) : Seeded store file (.error error store)
  | skipped {file : Option GenesisFile} {height : Option UInt64} {line : LogLine}
      (read : store.lastHeight = .ok height) (needless : file = none ∨ height.isSome) :
      Seeded store file (.ok line store)
  | refused {file : GenesisFile} {fault : GenesisFault} (fresh : store.lastHeight = .ok none)
      (rejected : Genesis.ofFile file.path file.content = .error fault) :
      Seeded store (some file) (.error (.genesis fault.message) store)
  | applied {file : GenesisFile} {genesis : Genesis} {line : LogLine}
      (fresh : store.lastHeight = .ok none)
      (accepted : Genesis.ofFile file.path file.content = .ok genesis) :
      Seeded store (some file) (.ok line (genesis.apply store))

theorem seeded (store : Store) (file : Option GenesisFile) :
    Seeded store file (seedInPlace file store) := by
  have run : seedInPlace file store = (MonadExcept.ofExcept store.lastHeight >>= seedFrom file) store :=
    rfl
  rw [run]
  cases read : store.lastHeight with
  | error error => exact .unreadable read
  | ok height =>
    cases file with
    | none => cases height <;> exact .skipped read (.inl rfl)
    | some file =>
      cases height with
      | some height => exact .skipped read (.inr rfl)
      | none =>
        change Seeded store (some file) ((loadGenesis file >>= fun genesis => pure _) store)
        unfold loadGenesis
        cases loaded : Genesis.ofFile file.path file.content with
        | error fault => exact .refused read loaded
        | ok genesis => exact .applied read loaded

def afterSeed (store : Store) (file : Option GenesisFile) : Store :=
  match seedInPlace file store with
  | .ok _ after => after
  | .error _ after => after

def seedRun : Store → List (Option GenesisFile) → List (Store × Store)
  | _, [] => []
  | store, file :: rest => (store, store.afterSeed file) :: seedRun (store.afterSeed file) rest

section Seeds

variable {store after : Store} {file : Option GenesisFile} {line : LogLine}

theorem afterSeed_of_ok (done : seedInPlace file store = .ok line after) :
    store.afterSeed file = after := by
  rw [afterSeed, done]

theorem seedInPlace_error {error : StorageError} (failed : seedInPlace file store = .error error after) :
    after = store := by
  have seeded := store.seeded file
  rw [failed] at seeded
  cases seeded <;> rfl

theorem afterSeed_of_needless (needless : file = none ∨ ∃ height, store.lastHeight = .ok (some height)) :
    store.afterSeed file = store := by
  have seeded := store.seeded file
  unfold afterSeed
  cases done : seedInPlace file store with
  | error error after => exact seedInPlace_error done
  | ok line after =>
    rw [done] at seeded
    cases seeded with
    | skipped => rfl
    | applied fresh =>
      rcases needless with none | ⟨height, known⟩
      · cases none
      · cases fresh.symm.trans known

theorem height_of_needless {given : GenesisFile} {height : Option UInt64}
    (needless : some given = none ∨ height.isSome) : ∃ value, height = some value := by
  rcases needless with none | some
  · cases none
  · exact Option.isSome_iff_exists.mp some

theorem takesEffect_of_ok {given : GenesisFile} (fresh : store.lastHeight = .ok none)
    (done : seedInPlace (some given) store = .ok line after) :
    ∃ genesis, Genesis.ofFile given.path given.content = .ok genesis ∧
      genesis.TakesEffect store after := by
  have seeded := store.seeded (some given)
  rw [done] at seeded
  cases seeded with
  | skipped read needless =>
    obtain ⟨value, rfl⟩ := height_of_needless needless
    cases fresh.symm.trans read
  | applied fresh accepted =>
    exact ⟨_, accepted, Genesis.takesEffect_apply _ (Genesis.nodup_of_ofFile accepted) store⟩

theorem ok_of_accepted {given : GenesisFile} {genesis : Genesis} (fresh : store.lastHeight = .ok none)
    (accepted : Genesis.ofFile given.path given.content = .ok genesis) :
    ∃ line, seedInPlace (some given) store = .ok line (genesis.apply store) := by
  have seeded := store.seeded (some given)
  generalize seedInPlace (some given) store = result at seeded ⊢
  cases seeded with
  | unreadable corrupt => cases fresh.symm.trans corrupt
  | skipped read needless =>
    obtain ⟨value, rfl⟩ := height_of_needless needless
    cases fresh.symm.trans read
  | refused _ rejected => cases accepted.symm.trans rejected
  | applied _ same =>
    cases accepted.symm.trans same
    exact ⟨_, rfl⟩

theorem height_of_seeded {given : GenesisFile} (done : seedInPlace (some given) store = .ok line after) :
    ∃ height, after.lastHeight = .ok (some height) := by
  have seeded := store.seeded (some given)
  rw [done] at seeded
  cases seeded with
  | skipped read needless =>
    obtain ⟨value, rfl⟩ := height_of_needless needless
    exact ⟨value, read⟩
  | applied fresh accepted =>
    exact ⟨_, (Genesis.takesEffect_apply _ (Genesis.nodup_of_ofFile accepted) store).height⟩

theorem height_of_changed (changed : store.afterSeed file ≠ store) :
    ∃ height, (store.afterSeed file).lastHeight = .ok (some height) := by
  cases file with
  | none => exact absurd (afterSeed_of_needless (.inl rfl)) changed
  | some given =>
    cases done : seedInPlace (some given) store with
    | error error after =>
      have kept : store.afterSeed (some given) = store := by
        rw [afterSeed, done]
        exact seedInPlace_error done
      exact absurd kept changed
    | ok line after =>
      rw [afterSeed_of_ok done]
      exact height_of_seeded done

theorem seedRun_of_height (known : ∃ height, store.lastHeight = .ok (some height))
    (files : List (Option GenesisFile)) : ∀ seed ∈ seedRun store files, seed = (store, store) := by
  induction files with
  | nil => nofun
  | cons file rest ih =>
    rw [seedRun, afterSeed_of_needless (.inr known)]
    intro seed member
    rcases List.mem_cons.mp member with rfl | later
    · rfl
    · exact ih seed later

theorem seedRun_changes (store : Store) (files : List (Option GenesisFile)) :
    ((seedRun store files).filter (fun seed => seed.1 ≠ seed.2)).length ≤ 1 := by
  induction files generalizing store with
  | nil => exact Nat.zero_le 1
  | cons file rest ih =>
    rw [seedRun]
    by_cases same : store.afterSeed file = store
    · simpa [same] using ih store
    · -- The store has a height now, so the rest of the run leaves it alone.
      have kept := seedRun_of_height (height_of_changed same) rest
      have none : (seedRun (store.afterSeed file) rest).filter (fun seed => seed.1 ≠ seed.2) = [] := by
        rw [List.filter_eq_nil_iff]
        intro seed member
        simp [kept seed member]
      rw [List.filter_cons, none]
      split <;> simp

theorem afterSeed_again (done : seedInPlace file store = .ok line after) :
    after.afterSeed file = after := by
  cases file with
  | none => exact afterSeed_of_needless (.inl rfl)
  | some given => exact afterSeed_of_needless (.inr (height_of_seeded done))

end Seeds

/--
A seed that fails, has no file or finds a height leaves the store as it was, and any other leaves the whole of
its file. So at most one seed of a run changes the store.
-/
theorem genesis_takes_effect_once :
    (∀ (store after : Store) (file : Option GenesisFile) (error : StorageError),
      seedInPlace file store = .error error after → after = store) ∧
    (∀ (store : Store) (file : Option GenesisFile),
      (file = none ∨ ∃ height, store.lastHeight = .ok (some height)) →
        store.afterSeed file = store) ∧
    (∀ (store after : Store) (file : GenesisFile) (line : LogLine), store.lastHeight = .ok none →
      seedInPlace (some file) store = .ok line after →
        ∃ genesis, Genesis.ofFile file.path file.content = .ok genesis ∧
          genesis.TakesEffect store after) ∧
    (∀ (store : Store) (files : List (Option GenesisFile)),
      ((seedRun store files).filter (fun seed => seed.1 ≠ seed.2)).length ≤ 1) ∧
    ∀ (store after : Store) (file : Option GenesisFile) (line : LogLine),
      seedInPlace file store = .ok line after → after.afterSeed file = after ∧
        (file.isSome → ∀ files, ∀ seed ∈ seedRun after files, seed = (after, after)) := by
  refine ⟨fun _ _ _ _ failed => seedInPlace_error failed, fun _ _ needless =>
    afterSeed_of_needless needless, fun _ _ _ _ fresh done => takesEffect_of_ok fresh done,
    seedRun_changes, fun store after file line done => ⟨afterSeed_again done, fun some files => ?_⟩⟩
  obtain ⟨given, rfl⟩ := Option.isSome_iff_exists.mp some
  exact seedRun_of_height (height_of_seeded done) files

def unnamedHeight : GenesisFile where
  path := "genesis.json"
  content := .ok (Bytes.ofString ("\x7b\"accounts\":[\x7b\"address\":\"hx0101010101010101010101010101010101010101\"," ++
    "\"balance\":\"0x64\"\x7d]\x7d"))

def twiceListed : GenesisFile where
  path := "other.json"
  content := .ok (Bytes.ofString ("\x7b\"height\":5,\"accounts\":[" ++
    "\x7b\"address\":\"hx0a01010101010101010101010101010101010101\",\"balance\":\"1\"\x7d," ++
    "\x7b\"address\":\"hx0A01010101010101010101010101010101010101\",\"balance\":\"2\"\x7d]\x7d"))

set_option maxRecDepth 2000 in
theorem unnamedHeight_takes_effect_once :
    ∃ line after error left, seedInPlace (some unnamedHeight) .empty = .ok line after ∧
      after.balance (.filled .eoa 1) = .ok 100 ∧ after.lastHeight = .ok (some 0) ∧
      (∀ seed ∈ seedRun after [some twiceListed, none, some unnamedHeight], seed = (after, after)) ∧
      seedInPlace (some twiceListed) .empty = .error error left ∧ left = .empty := by
  obtain ⟨failed, -, applied, -, settled⟩ := genesis_takes_effect_once
  have read : Genesis.ofFile unnamedHeight.path unnamedHeight.content =
      .ok { height := 0, accounts := [{ address := .filled .eoa 1, balance := 100 }] } := rfl
  have fresh : Store.empty.lastHeight = .ok none := rfl
  obtain ⟨line, done⟩ := ok_of_accepted fresh read
  generalize Genesis.apply _ Store.empty = after at done
  obtain ⟨error, left, refused⟩ : ∃ error left, seedInPlace (some twiceListed) .empty = .error error left :=
    ⟨_, _, rfl⟩
  obtain ⟨genesis, accepted, effect⟩ := applied _ _ _ _ fresh done
  cases read.symm.trans accepted
  have balance : after.balance (.filled .eoa 1) = .ok 100 := by
    rw [balance, effect.listed _ List.mem_cons_self]
    rfl
  exact ⟨line, after, error, left, done, balance, effect.height,
    (settled _ _ _ _ done).2 rfl _, refused, failed _ _ _ _ refused⟩

end Store

end LedgerNode
