import LedgerNode.Proofs.Storage.Records

set_option autoImplicit false

namespace LedgerNode

namespace AddressKind

theorem tag_lt_iff {left right : AddressKind} : left.tag < right.tag ↔ left < right := by
  cases left <;> cases right <;> decide

theorem ofTag?_eq_some_iff {tag : UInt8} {kind : AddressKind} :
    ofTag? tag = some kind ↔ tag = kind.tag := by
  unfold ofTag?
  split
  next => cases kind <;> decide
  next => cases kind <;> decide
  next zero one =>
    refine iff_of_false (Option.some_ne_none kind).symm fun same => ?_
    cases kind with
    | eoa => exact zero same
    | contract => exact one same

theorem exists_tag_iff {tag : UInt8} : (∃ kind : AddressKind, tag = kind.tag) ↔ tag = 0 ∨ tag = 1 := by
  constructor
  · rintro ⟨kind, rfl⟩
    cases kind with
    | eoa => exact .inl rfl
    | contract => exact .inr rfl
  · rintro (rfl | rfl)
    · exact ⟨.eoa, rfl⟩
    · exact ⟨.contract, rfl⟩

end AddressKind

namespace Address

section Keys

variable {bytes : Bytes} {left right address : Address}

theorem ofKey_key (address : Address) : ofKey address.key = .ok address := by
  have kind := AddressKind.ofTag?_eq_some_iff.mpr (Eq.refl address.kind.tag)
  simp only [key, ofKey, address.length_body, dite_true, kind]

theorem key_of_ofKey (read : ofKey bytes = .ok address) : address.key = bytes := by
  cases bytes with
  | nil => cases read
  | cons tag body =>
    rw [ofKey] at read
    split at read
    next =>
      split at read
      next known =>
        cases read
        rw [key, AddressKind.ofTag?_eq_some_iff.mp known]
      next => cases read
    next => cases read

theorem ofKey_eq_ok_iff : ofKey bytes = .ok address ↔ address.key = bytes := by
  refine ⟨key_of_ofKey, ?_⟩
  rintro rfl
  exact address.ofKey_key

theorem exists_ofKey_iff : (∃ address, ofKey bytes = .ok address) ↔
    bytes.length = 21 ∧ (bytes.head? = some 0 ∨ bytes.head? = some 1) := by
  constructor
  · rintro ⟨address, read⟩
    rw [← key_of_ofKey read]
    refine ⟨address.length_key, ?_⟩
    simpa [key] using AddressKind.exists_tag_iff.mp ⟨address.kind, rfl⟩
  · rintro ⟨long, first⟩
    obtain ⟨tag, body, rfl⟩ := List.exists_cons_of_length_eq_add_one long
    obtain ⟨kind, rfl⟩ := AddressKind.exists_tag_iff.mpr (by simpa using first)
    exact ⟨{ kind, body, length_body := Nat.succ.inj long }, ofKey_eq_ok_iff.mpr rfl⟩

theorem lt_iff : left < right ↔ left.kind < right.kind ∨ left.kind = right.kind ∧ left.body < right.body :=
  Iff.rfl

theorem key_lt_iff : left.key < right.key ↔ left < right := by
  rw [key, key, List.cons_lt_cons_iff, AddressKind.tag_lt_iff, AddressKind.tag_eq_iff, lt_iff]

theorem lt_of_kinds (plain : left.kind = .eoa) (contract : right.kind = .contract) : left < right :=
  .inl ⟨plain, contract⟩

end Keys

end Address

namespace Store

variable {store : Store} {first second : Nat} {left right : Bytes}

def keyList (store : Store) : List Bytes :=
  store.entries.map Prod.fst

theorem ascending_keyList (store : Store) : store.keyList.Pairwise (· < ·) :=
  List.pairwise_map.mpr store.ascending

theorem lt_of_position_lt (one : store.keyList[first]? = some left)
    (other : store.keyList[second]? = some right) (before : first < second) : left < right := by
  obtain ⟨here, rfl⟩ := List.getElem?_eq_some_iff.mp one
  obtain ⟨there, rfl⟩ := List.getElem?_eq_some_iff.mp other
  exact List.pairwise_iff_getElem.mp store.ascending_keyList first second here there before

theorem position_lt_iff (one : store.keyList[first]? = some left)
    (other : store.keyList[second]? = some right) : first < second ↔ left < right := by
  refine ⟨lt_of_position_lt one other, fun before => ?_⟩
  -- Otherwise the second stands in the same place or in front of it, and is no greater.
  rcases Nat.lt_trichotomy first second with earlier | rfl | later
  · exact earlier
  · rw [Option.some.inj (one.symm.trans other)] at before
    exact absurd before (List.lt_irrefl right)
  · exact absurd before (List.lt_asymm (lt_of_position_lt other one later))

end Store

namespace Address

/--
Each address is read back from its key, and keys are ordered as addresses are. So a store has its accounts in
the order of their addresses, plain ones before contracts.
-/
theorem keys_stand_for_addresses_in_order :
    (∀ address : Address, ofKey address.key = .ok address) ∧
    (∀ bytes : Bytes,
      ((∃ address, ofKey bytes = .ok address) ↔
        bytes.length = 21 ∧ (bytes.head? = some 0 ∨ bytes.head? = some 1)) ∧
      ∀ address, ofKey bytes = .ok address → address.key = bytes) ∧
    (∀ left right : Address, left < right ↔ left.key < right.key) ∧
    (∀ (store : Store) (first second : Nat) (left right : Address),
      store.keyList[first]? = some left.key → store.keyList[second]? = some right.key →
        (first < second ↔ left < right) ∧
        (left.kind = .eoa → right.kind = .contract → first < second)) ∧
    (∀ left right : Address, left.key = right.key → left = right) ∧
    ∀ address : Address, address.key ≠ Store.heightKey := by
  refine ⟨ofKey_key, fun bytes => ⟨exists_ofKey_iff, fun _ => key_of_ofKey⟩, fun _ _ => key_lt_iff.symm, ?_,
    fun _ _ => eq_of_key, Store.key_ne_heightKey⟩
  intro store first second left right one other
  have order : first < second ↔ left < right := (Store.position_lt_iff one other).trans key_lt_iff
  exact ⟨order, fun plain contract => order.mpr (lt_of_kinds plain contract)⟩

/-- A store to which a contract was written first, then the height, and then a plain account with a greater body. -/
def contractFirst : Store :=
  ((Store.empty.putAccount { address := filled .contract 1, balance := 1, flags := 0 }).putHeight 5).putAccount
    { address := filled .eoa 255, balance := 2, flags := 0 }

theorem contractFirst_in_order :
    (contractFirst.keyList[0]? = some (filled .eoa 255).key ∧
      contractFirst.keyList[1]? = some (filled .contract 1).key ∧
      filled .eoa 255 < filled .contract 1) ∧
    ((filled .eoa 255).kind = .eoa ∧ (filled .contract 1).kind = .contract ∧ 0 < 1) ∧
    (ofKey (1 :: List.replicate 20 1) = .ok (filled .contract 1) ∧
      (filled .contract 1).key = 1 :: List.replicate 20 1) ∧
    ((filled .contract 1).key = (Address.mk .contract (List.replicate 20 1) rfl).key ∧
      filled .contract 1 = Address.mk .contract (List.replicate 20 1) rfl) := by
  obtain ⟨back, read, -, order, same, -⟩ := keys_stand_for_addresses_in_order
  have first : contractFirst.keyList[0]? = some (filled .eoa 255).key := by decide
  have second : contractFirst.keyList[1]? = some (filled .contract 1).key := by decide
  obtain ⟨before, kinds⟩ := order contractFirst 0 1 _ _ first second
  have whole : ofKey (1 :: List.replicate 20 1) = .ok (filled .contract 1) := back (filled .contract 1)
  exact ⟨⟨first, second, before.mp Nat.zero_lt_one⟩, ⟨rfl, rfl, kinds rfl rfl⟩,
    ⟨whole, (read _).2 _ whole⟩, rfl, same _ _ rfl⟩

end Address

end LedgerNode
