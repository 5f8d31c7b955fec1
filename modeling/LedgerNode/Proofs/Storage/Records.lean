import LedgerNode.AccountStore
import LedgerNode.Proofs.Lookup
import Mathlib.Algebra.Group.Nat.Defs

set_option autoImplicit false

namespace LedgerNode

namespace Bytes

theorem ofBigEndian_bigEndian (count value : Nat) :
    ofBigEndian (bigEndian count value) = value % 256 ^ count := by
  induction count generalizing value with
  | zero => simp [bigEndian, ofBigEndian, Nat.mod_one]
  | succ count ih =>
    have digit : (UInt8.ofNat (value % 256)).toNat = value % 256 := by simp
    rw [bigEndian, ofBigEndian_append, ih, digit, Nat.pow_succ', Nat.mod_mul, Nat.add_comm]

theorem bigEndian_add (upper lower value : Nat) :
    bigEndian (upper + lower) value =
      bigEndian upper (value / 256 ^ lower) ++ bigEndian lower value := by
  induction lower generalizing value with
  | zero => simp [bigEndian]
  | succ lower ih =>
    rw [← Nat.add_assoc, bigEndian, bigEndian, ih, Nat.div_div_eq_div_mul, Nat.pow_succ',
      List.append_assoc]

end Bytes

namespace Account

theorem length_record (account : Account) : account.record.length = recordLength := by
  rw [record, List.length_append, Bytes.length_bigEndian]
  rfl

theorem bigEndian_balance (balance : Balance) : Bytes.bigEndian 32 balance.toNat =
    List.replicate 16 0 ++ Bytes.bigEndian 16 balance.toNat := by
  have small : balance.toNat / 256 ^ 16 = 0 := Nat.div_eq_of_lt balance.isLt
  rw [Bytes.bigEndian_add 16 16, small]
  rfl

theorem ofRecord_record (account : Account) :
    ofRecord account.address account.record = .ok account := by
  -- A balance is written as a word of 32 bytes, and read from the lower 16 as the upper are zero.
  have upper : (Bytes.bigEndian 32 account.balance.toNat).take 16 = List.replicate 16 0 := by
    rw [bigEndian_balance]
    exact List.take_left' List.length_replicate
  have lower : (Bytes.bigEndian 32 account.balance.toNat).drop 16 =
      Bytes.bigEndian 16 account.balance.toNat := by
    rw [bigEndian_balance]
    exact List.drop_left' List.length_replicate
  have balance : BitVec.ofNat 128 (Bytes.ofBigEndian (Bytes.bigEndian 16 account.balance.toNat)) =
      account.balance := by
    have small : account.balance.toNat < 256 ^ 16 := account.balance.isLt
    rw [Bytes.ofBigEndian_bigEndian, Nat.mod_eq_of_lt small]
    simp
  unfold ofRecord
  rw [if_neg (by simp [length_record])]
  simp only [record, List.cons_append, List.nil_append, ne_eq, not_true_eq_false, if_false, upper,
    lower, balance]
  rfl

end Account

theorem AddressKind.tag_eq_iff {left right : AddressKind} : left.tag = right.tag ↔ left = right := by
  cases left <;> cases right <;> decide

theorem Address.length_key (address : Address) : address.key.length = 21 := by
  rw [key, List.length_cons, address.length_body]

theorem Address.eq_of_key {left right : Address} (same : left.key = right.key) : left = right := by
  have body : left.body = right.body := (List.cons.inj same).2
  have kind : left.kind = right.kind := AddressKind.tag_eq_iff.mp (List.cons.inj same).1
  cases left
  cases right
  cases kind
  cases body
  rfl

def Address.filled (kind : AddressKind) (byte : UInt8) : Address where
  kind := kind
  body := List.replicate 20 byte
  length_body := rfl

namespace Store

theorem key_ne_heightKey (address : Address) : address.key ≠ heightKey := by
  -- The two differ in length, whatever the bytes.
  intro same
  have length := congrArg List.length same
  rw [address.length_key] at length
  have other : heightKey.length = 17 := by decide
  omega

theorem lookup_insertEntry (key other value : Bytes) (entries : List (Bytes × Bytes)) :
    (insertEntry key value entries).lookup other =
      if other = key then some value else entries.lookup other := by
  -- The entries are ordered, but a lookup finds the same in any order, so that is not needed.
  induction entries with
  | nil => exact lookup_cons_ite key other value []
  | cons head rest ih =>
    obtain ⟨first, found⟩ := head
    unfold insertEntry
    split
    next => exact lookup_cons_ite key other value ((first, found) :: rest)
    next =>
      split
      next same =>
        obtain rfl : key = first := same
        rw [lookup_cons_ite, lookup_cons_ite]
        split <;> rfl
      next different =>
        rw [lookup_cons_ite, lookup_cons_ite, ih]
        by_cases asked : other = first
        · have kept : first ≠ key := Ne.symm different
          simp [asked, kept]
        · simp [asked]

theorem get?_put (store : Store) (key other value : Bytes) :
    (store.put key value).get? other = if other = key then some value else store.get? other :=
  lookup_insertEntry key other value store.entries

theorem readHeight_bigEndian (height : UInt64) :
    readHeight (Bytes.bigEndian 8 height.toNat) = .ok height := by
  have fits : height.toNat < 256 ^ 8 := height.toNat_lt_size
  rw [readHeight, if_pos (Bytes.length_bigEndian ..), Bytes.ofBigEndian_bigEndian,
    Nat.mod_eq_of_lt fits, UInt64.ofNat_toNat]

theorem account_of_record {store : Store} (account : Account)
    (found : store.get? account.address.key = some account.record) :
    store.account account.address = .ok account := by
  unfold Store.account
  rw [found]
  simp only [Account.ofRecord_record]
  rfl

theorem account_of_none {store : Store} {address : Address} (absent : store.get? address.key = none) :
    store.account address = .ok (.unused address) := by
  unfold Store.account
  rw [absent]

theorem lastHeight_of_record {store : Store} (height : Option UInt64)
    (found : store.get? heightKey = height.map (fun height => Bytes.bigEndian 8 height.toNat)) :
    store.lastHeight = .ok height := by
  unfold Store.lastHeight
  rw [found]
  cases height with
  | none => rfl
  | some height =>
    simp only [Option.map_some, readHeight_bigEndian]
    rfl

end Store

end LedgerNode
