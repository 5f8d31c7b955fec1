import LedgerNode.Proofs.Json.Refinement
import LedgerNode.Proofs.Query.Notation
import LedgerNode.Proofs.Storage.Seeding

set_option autoImplicit false

namespace LedgerNode

open Json

theorem exists_of_forall₂ {α β : Type} {related : α → β → Prop} {first : List α} {second : List β}
    (all : List.Forall₂ related first second) {value : α} (member : value ∈ first) :
    ∃ other ∈ second, related value other := by
  induction all with
  | nil => cases member
  | cons here _ ih =>
    rcases List.mem_cons.mp member with rfl | later
    · exact ⟨_, List.mem_cons_self, here⟩
    · obtain ⟨other, there, holds⟩ := ih later
      exact ⟨other, List.mem_cons_of_mem _ there, holds⟩

namespace Genesis

structure Entry where
  address : String
  balance : String
  deriving DecidableEq, Repr

structure Listing where
  height : Option UInt64
  entries : List Entry
  deriving DecidableEq, Repr

namespace Entry

def shape : Shape Entry :=
  (Shape.record "struct GenesisAccount"
    (.cons (.required "address" Shape.string) (.cons (.required "balance" Shape.string) .nil))).map
    (fun (address, balance, _) => { address, balance })

structure Gives (entry : Entry) (account : GenesisAccount) : Prop where
  address : Address.Spells entry.address account.address
  balance : Quantity.Spells entry.balance account.balance.toNat

end Entry

namespace Listing

def shape : Shape Listing :=
  (Shape.record "struct Genesis"
    (.cons (.withDefault "height" (Shape.word.map some) none)
      (.cons (.required "accounts" (Shape.listOf Entry.shape)) .nil))).map
    (fun (height, entries, _) => { height, entries })

def read (text : Bytes) : Except Fault Listing :=
  (shape.ofText fullDepth).run text

/-- The genesis that a listing gives; a file that names no height starts at zero. -/
structure Gives (listing : Listing) (genesis : Genesis) : Prop where
  height : genesis.height = listing.height.getD 0
  accounts : List.Forall₂ Entry.Gives listing.entries genesis.accounts

end Listing

theorem Listing.Gives.listed {listing : Listing} {genesis : Genesis} (gives : listing.Gives genesis)
    {entry : Entry} (member : entry ∈ listing.entries) :
    ∃ account ∈ genesis.accounts, entry.Gives account :=
  exists_of_forall₂ gives.accounts member

theorem Listing.Gives.source {listing : Listing} {genesis : Genesis} (gives : listing.Gives genesis)
    {address : Address} (member : address ∈ genesis.addresses) :
    ∃ entry ∈ listing.entries, Address.Spells entry.address address := by
  obtain ⟨account, listed, rfl⟩ := List.mem_map.mp member
  obtain ⟨entry, there, spelled⟩ := exists_of_forall₂ gives.accounts.flip listed
  exact ⟨entry, there, spelled.address⟩

theorem refines_address : Address.shape.Refines Shape.string Address.Spells := by
  intro depth cursor after address read
  obtain ⟨text, taken, passes⟩ := Shape.refines_refine _ _ depth cursor after address read
  exact ⟨text, taken, Address.read_eq_ok_iff.mp (mapError_eq_ok_iff.mp passes)⟩

theorem refines_balance :
    Quantity.balanceShape.Refines Shape.string (fun text value => Quantity.Spells text value.toNat) := by
  intro depth cursor after value read
  obtain ⟨text, taken, passes⟩ := Shape.refines_refine _ _ depth cursor after value read
  exact ⟨text, taken, Quantity.readBalance_eq_ok_iff.mp (mapError_eq_ok_iff.mp passes)⟩

theorem refines_entry : GenesisAccount.shape.Refines Entry.shape Entry.Gives := by
  have fields := Fields.Refines.cons (Field.refines_required "address" refines_address)
    (.cons (Field.refines_required "balance" refines_balance) .nil)
  exact (Shape.refines_record _ fields).map fun _ _ ⟨address, balance, _⟩ => ⟨address, balance⟩

theorem refines_height :
    Shape.word.Refines (Shape.word.map some) (fun height value => value = height.getD 0) := by
  intro depth cursor after value read
  obtain ⟨height, taken, rfl⟩ := Shape.refines_map_plain Shape.word some depth cursor after value read
  exact ⟨some value, taken, rfl⟩

theorem refines_listing : shape.Refines Listing.shape Listing.Gives := by
  have unnamed : (0 : UInt64) = (none : Option UInt64).getD 0 := rfl
  have fields := Fields.Refines.cons (Field.refines_withDefault "height" refines_height unnamed)
    (.cons (Field.refines_required "accounts" refines_entry.listOf) .nil)
  exact (Shape.refines_record _ fields).map fun _ _ ⟨height, accounts, _⟩ => ⟨height, accounts⟩

theorem exists_listing {text : Bytes} {genesis : Genesis} (accepted : read text = .ok genesis) :
    ∃ listing, Listing.read text = .ok listing ∧ listing.Gives genesis := by
  unfold read at accepted
  split at accepted
  next => cases accepted
  next found taken =>
    split at accepted
    next => cases accepted
    next =>
      cases accepted
      exact (refines_listing fullDepth).run taken

section Seeded

variable {genesis : Genesis} {address : Address}

theorem seed_empty (path : String) {text : String} (accepted : read (Bytes.ofString text) = .ok genesis) :
    ∃ line, Store.empty.seed (some { path, content := .ok (Bytes.ofString text) }) =
      .ok (genesis.apply .empty, line) := by
  have whole : ofFile path (.ok (Bytes.ofString text)) = .ok genesis := by
    rw [ofFile, Bytes.text?_ofString]
    exact accepted
  obtain ⟨line, done⟩ : ∃ line, Store.seedInPlace (some ⟨path, .ok (Bytes.ofString text)⟩) .empty =
      .ok line (genesis.apply .empty) := Store.ok_of_accepted rfl whole
  refine ⟨line, ?_⟩
  rw [Store.seed, done]

theorem balance_listed (distinct : genesis.addresses.Nodup) {listed : GenesisAccount}
    (member : listed ∈ genesis.accounts) :
    (genesis.apply .empty).balance listed.address = .ok listed.balance := by
  rw [Store.balance, (takesEffect_apply genesis distinct .empty).listed listed member]
  rfl

theorem balance_unlisted (distinct : genesis.addresses.Nodup) (absent : address ∉ genesis.addresses) :
    (genesis.apply .empty).balance address = .ok 0 := by
  have empty := (takesEffect_apply genesis distinct .empty).others address.key
    (Store.key_ne_heightKey address) fun other listed same => absent (Address.eq_of_key same ▸ listed)
  rw [Store.balance, Store.account_of_none empty]
  rfl

end Seeded

end Genesis

end LedgerNode
