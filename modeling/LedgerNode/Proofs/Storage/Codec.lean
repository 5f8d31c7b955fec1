import LedgerNode.Proofs.Storage.Records
import Mathlib.Data.List.Induction

set_option autoImplicit false

namespace LedgerNode

namespace Bytes

theorem ofBigEndian_lt (bytes : Bytes) : ofBigEndian bytes < 256 ^ bytes.length := by
  induction bytes using List.reverseRecOn with
  | nil => simp [ofBigEndian]
  | append_singleton front last ih =>
    have digit := last.toNat_lt
    rw [ofBigEndian_append, List.length_append, List.length_singleton, Nat.pow_succ]
    omega

theorem bigEndian_ofBigEndian (bytes : Bytes) : bigEndian bytes.length (ofBigEndian bytes) = bytes := by
  induction bytes using List.reverseRecOn with
  | nil => rfl
  | append_singleton front last ih =>
    have digit := last.toNat_lt
    have whole : (256 * ofBigEndian front + last.toNat) / 256 = ofBigEndian front := by omega
    have rest : (256 * ofBigEndian front + last.toNat) % 256 = last.toNat := by omega
    rw [ofBigEndian_append, List.length_append, List.length_singleton, bigEndian, whole, rest, ih,
      UInt8.ofNat_toNat]

end Bytes

namespace Account

/-- Bytes that are no record of an address, with the first thing that is wrong with them. -/
inductive Malformed (address : Address) : Bytes → RecordFault → Prop where
  | length {bytes : Bytes} (other : bytes.length ≠ 35) :
      Malformed address bytes (.length bytes.length)
  | version {version : UInt8} {rest : Bytes} (long : rest.length = 34) (unknown : version ≠ 0) :
      Malformed address (version :: rest) (.version version)
  | kind {kind : UInt8} {rest : Bytes} (long : rest.length = 33) (foreign : kind ≠ address.kind.tag) :
      Malformed address (0 :: kind :: rest) (.kind kind address)
  | balance {flags : UInt8} {upper lower : Bytes} (high : upper.length = 16) (low : lower.length = 16)
      (overflow : ∃ byte ∈ upper, byte ≠ 0) :
      Malformed address (0 :: address.kind.tag :: flags :: (upper ++ lower)) .balanceOverflow

section Reading

variable {address : Address} {bytes : Bytes} {account : Account} {fault : RecordFault}

theorem record_eq (account : Account) : account.record =
    0 :: account.address.kind.tag :: account.flags ::
      (List.replicate 16 0 ++ Bytes.bigEndian 16 account.balance.toNat) := by
  rw [record, bigEndian_balance]
  rfl

theorem exists_fields (long : bytes.length = 35) :
    ∃ version kind flags upper lower, bytes = version :: kind :: flags :: (upper ++ lower) ∧
      upper.length = 16 ∧ lower.length = 16 := by
  obtain ⟨version, rest, rfl⟩ := List.exists_cons_of_length_eq_add_one long
  obtain ⟨kind, rest, rfl⟩ := List.exists_cons_of_length_eq_add_one (Nat.succ.inj long)
  obtain ⟨flags, balance, rfl⟩ :=
    List.exists_cons_of_length_eq_add_one (Nat.succ.inj (Nat.succ.inj long))
  have many : balance.length = 32 := by simpa using long
  refine ⟨version, kind, flags, balance.take 16, balance.drop 16, ?_, ?_, ?_⟩
  · rw [List.take_append_drop]
  · simp [many]
  · simp [many]

theorem exists_record {flags : UInt8} {upper lower : Bytes} (high : upper.length = 16)
    (low : lower.length = 16) (zero : ∀ byte ∈ upper, byte = 0) (address : Address) :
    ∃ account : Account, account.address = address ∧
      account.record = 0 :: address.kind.tag :: flags :: (upper ++ lower) := by
  have fits : Bytes.ofBigEndian lower < 2 ^ 128 := by
    have bound := Bytes.ofBigEndian_lt lower
    rw [low] at bound
    exact bound
  have blank : upper = List.replicate 16 0 := List.eq_replicate_iff.mpr ⟨high, zero⟩
  refine ⟨{ address, flags, balance := BitVec.ofNat 128 (Bytes.ofBigEndian lower) }, rfl, ?_⟩
  have digits := Bytes.bigEndian_ofBigEndian lower
  rw [low] at digits
  rw [record_eq, BitVec.toNat_ofNat, Nat.mod_eq_of_lt fits, digits, blank]

theorem ofRecord_of_malformed (malformed : Malformed address bytes fault) :
    ofRecord address bytes = .error fault := by
  cases malformed with
  | length other => exact if_pos other
  | version long unknown =>
    simp only [ofRecord, recordLength, List.length_cons, long, ne_eq, not_true_eq_false, if_false]
    split
    next same =>
      obtain ⟨rfl, -⟩ := List.cons.inj same
      exact if_pos unknown
    next short =>
      obtain ⟨kind, rest, rfl⟩ := List.exists_cons_of_length_eq_add_one long
      obtain ⟨flags, rest, rfl⟩ := List.exists_cons_of_length_eq_add_one (Nat.succ.inj long)
      exact absurd rfl (short _ _ _ _)
  | kind long foreign =>
    obtain ⟨flags, rest, rfl⟩ := List.exists_cons_of_length_eq_add_one long
    simp [ofRecord, recordLength, Nat.succ.inj long, recordVersion, foreign]
  | balance high low overflow =>
    simp [ofRecord, recordLength, high, low, recordVersion, overflow]

theorem malformed_or_record (address : Address) (bytes : Bytes) :
    (∃ fault, Malformed address bytes fault) ∨
      ∃ account : Account, account.address = address ∧ account.record = bytes := by
  by_cases long : bytes.length = 35
  · obtain ⟨version, kind, flags, upper, lower, rfl, high, low⟩ := exists_fields long
    by_cases known : version = 0
    · subst known
      by_cases own : kind = address.kind.tag
      · subst own
        by_cases zero : ∀ byte ∈ upper, byte = 0
        · exact .inr (exists_record high low zero address)
        · exact .inl ⟨_, .balance high low (by simpa using zero)⟩
      · exact .inl ⟨_, .kind (by simp [high, low]) own⟩
    · exact .inl ⟨_, .version (by simp [high, low]) known⟩
  · exact .inl ⟨_, .length long⟩

theorem ofRecord_eq_ok_iff :
    ofRecord address bytes = .ok account ↔ account.address = address ∧ account.record = bytes := by
  constructor
  · intro read
    rcases malformed_or_record address bytes with ⟨fault, malformed⟩ | ⟨other, rfl, rfl⟩
    · cases (ofRecord_of_malformed malformed).symm.trans read
    · cases other.ofRecord_record.symm.trans read
      exact ⟨rfl, rfl⟩
  · rintro ⟨rfl, rfl⟩
    exact account.ofRecord_record

structure WellFormed (address : Address) (bytes : Bytes) : Prop where
  length : bytes.length = 35
  version : bytes[0]? = some 0
  kind : bytes[1]? = some address.kind.tag
  upper : ∀ byte ∈ (bytes.drop 3).take 16, byte = 0

theorem upper_of_fields {version kind flags : UInt8} {upper : Bytes} (lower : Bytes)
    (high : upper.length = 16) :
    ((version :: kind :: flags :: (upper ++ lower)).drop 3).take 16 = upper :=
  List.take_left' high

theorem wellFormed_record (account : Account) : WellFormed account.address account.record := by
  refine ⟨account.length_record, ?_, ?_, ?_⟩
  · rw [record_eq]
    rfl
  · rw [record_eq]
    rfl
  · rw [record_eq]
    intro byte member
    rw [upper_of_fields _ List.length_replicate] at member
    exact List.eq_of_mem_replicate member

theorem Malformed.not_wellFormed (malformed : Malformed address bytes fault) :
    ¬WellFormed address bytes := by
  intro wellFormed
  cases malformed with
  | length other => exact other wellFormed.length
  | version _ unknown => exact unknown (Option.some.inj wellFormed.version)
  | kind _ foreign => exact foreign (Option.some.inj wellFormed.kind)
  | balance high _ overflow =>
    obtain ⟨byte, member, nonzero⟩ := overflow
    refine nonzero (wellFormed.upper byte ?_)
    rw [upper_of_fields _ high]
    exact member

theorem exists_ofRecord_iff :
    (∃ account, ofRecord address bytes = .ok account) ↔ WellFormed address bytes := by
  constructor
  · rintro ⟨account, read⟩
    obtain ⟨rfl, rfl⟩ := ofRecord_eq_ok_iff.mp read
    exact account.wellFormed_record
  · intro wellFormed
    rcases malformed_or_record address bytes with ⟨fault, malformed⟩ | ⟨account, own, same⟩
    · exact absurd wellFormed malformed.not_wellFormed
    · exact ⟨account, ofRecord_eq_ok_iff.mpr ⟨own, same⟩⟩

theorem exists_malformed (ill : ¬WellFormed address bytes) :
    ∃ fault, Malformed address bytes fault ∧
      (ofRecord address bytes).mapError StorageError.ofRecordFault = .error (.codec fault.message) := by
  rcases malformed_or_record address bytes with ⟨fault, malformed⟩ | ⟨account, rfl, rfl⟩
  · refine ⟨fault, malformed, ?_⟩
    rw [ofRecord_of_malformed malformed]
    rfl
  · exact absurd account.wellFormed_record ill

theorem malformed_of_kind {account : Account} (other : address.kind ≠ account.address.kind) :
    Malformed address account.record (.kind account.address.kind.tag address) := by
  rw [record_eq]
  refine .kind ?_ fun same => other (AddressKind.tag_eq_iff.mp same).symm
  simp [Bytes.length_bigEndian]

end Reading

/--
Writing and reading records are inverse to each other, and all bytes that differ from a record in their
length, version, kind or upper half of the balance are refused with the first of these faults.
-/
theorem records_are_exact :
    (∀ account : Account,
      account.record.length = 35 ∧ ofRecord account.address account.record = .ok account) ∧
    (∀ (address : Address) (bytes : Bytes) (account : Account),
      ofRecord address bytes = .ok account ↔ account.address = address ∧ account.record = bytes) ∧
    (∀ (address : Address) (bytes : Bytes),
      ((∃ account, ofRecord address bytes = .ok account) ↔ WellFormed address bytes) ∧
      (¬WellFormed address bytes → ∃ fault, Malformed address bytes fault ∧
        (ofRecord address bytes).mapError StorageError.ofRecordFault =
          .error (.codec fault.message))) ∧
    (∀ first second : Account, first.address = second.address → first.record = second.record →
      first = second) ∧
    ∀ (account : Account) (address : Address), address.kind ≠ account.address.kind →
      ofRecord address account.record = .error (.kind account.address.kind.tag address) := by
  refine ⟨fun account => ⟨account.length_record, account.ofRecord_record⟩,
    fun _ _ _ => ofRecord_eq_ok_iff, fun _ _ => ⟨exists_ofRecord_iff, exists_malformed⟩, ?_, ?_⟩
  · intro first second address record
    have read := second.ofRecord_record
    rw [← address, ← record, first.ofRecord_record] at read
    exact Except.ok.inj read
  · intro account address other
    exact ofRecord_of_malformed (malformed_of_kind other)

def fullAccount : Account where
  address := .filled .eoa 171
  balance := BitVec.allOnes 128
  flags := 255

def overfullRecord : Bytes :=
  [0, 0, 255] ++ Bytes.bigEndian 32 (2 ^ 128)

theorem fullAccount_exact :
    ofRecord (.filled .eoa 171) fullAccount.record = .ok fullAccount ∧
    (∀ other : Account, fullAccount.address = other.address → fullAccount.record = other.record →
      fullAccount = other) ∧
    (Address.filled .contract 171).kind ≠ fullAccount.address.kind ∧
      ofRecord (.filled .contract 171) fullAccount.record = .error (.kind 0 (.filled .contract 171)) ∧
    ¬WellFormed (.filled .eoa 171) overfullRecord ∧
      ∃ fault, Malformed (.filled .eoa 171) overfullRecord fault ∧
        (ofRecord (.filled .eoa 171) overfullRecord).mapError StorageError.ofRecordFault =
          .error (.codec fault.message) := by
  obtain ⟨whole, -, exact, distinct, apart⟩ := records_are_exact
  have kind : (Address.filled .contract 171).kind ≠ fullAccount.address.kind := by decide
  have overfull : ¬WellFormed (.filled .eoa 171) overfullRecord := by
    intro wellFormed
    exact absurd (wellFormed.upper 1 (by decide)) (by decide)
  exact ⟨(whole fullAccount).2, distinct fullAccount, kind, apart fullAccount _ kind, overfull,
    (exact _ _).2 overfull⟩

end Account

namespace Store

section Heights

variable {bytes : Bytes} {height : UInt64}

theorem readHeight_eq_ok_iff : readHeight bytes = .ok height ↔ bytes = Bytes.bigEndian 8 height.toNat := by
  constructor
  · intro read
    unfold readHeight at read
    split at read
    next long =>
      cases read
      have small := Bytes.ofBigEndian_lt bytes
      have digits := Bytes.bigEndian_ofBigEndian bytes
      rw [long] at small digits
      rw [UInt64.toNat_ofNat_of_lt' small, digits]
    next => cases read
  · rintro rfl
    exact readHeight_bigEndian height

theorem readHeight_of_length (other : bytes.length ≠ 8) : readHeight bytes = .error .height :=
  if_neg other

end Heights

end Store

end LedgerNode
