import LedgerNode.Proofs.Query.Heights
import LedgerNode.Proofs.Storage.Codec

set_option autoImplicit false

namespace LedgerNode

namespace Store

def LastHeight (store : Store) (last : UInt64) : Prop :=
  match store.get? heightKey with
  | none => last = 0
  | some bytes => bytes = Bytes.bigEndian 8 last.toNat

inductive Tells (store : Store) : Account → Prop where
  | missing {address : Address} (absent : store.get? address.key = none) :
      Tells store { address, balance := 0, flags := 0 }
  | recorded {account : Account} (there : store.get? account.address.key = some account.record) :
      Tells store account

def Damaged (store : Store) (address : Address) : Prop :=
  ∃ bytes, store.get? address.key = some bytes ∧
    ∀ account : Account, account.address = address → account.record ≠ bytes

section Reading

variable {store : Store} {address : Address} {account : Account} {last : UInt64}

theorem lastHeight_of_unreadable {bytes : Bytes} (there : store.get? heightKey = some bytes)
    (length : bytes.length ≠ 8) :
    store.lastHeight = .error (.codec "invalid block height") := by
  unfold lastHeight
  rw [there]
  simp only [readHeight_of_length length]
  rfl

theorem lastHeight_of_last (known : store.LastHeight last) :
    ∃ stored, store.lastHeight = .ok stored ∧ stored.getD 0 = last := by
  unfold LastHeight at known
  cases there : store.get? heightKey with
  | none =>
    rw [there] at known
    exact ⟨none, lastHeight_of_record none there, known.symm⟩
  | some bytes =>
    rw [there] at known
    exact ⟨some last, lastHeight_of_record (some last) (there.trans (congrArg some known)), rfl⟩

theorem exists_last (long : ∀ bytes, store.get? heightKey = some bytes → bytes.length = 8) :
    ∃ last, store.LastHeight last := by
  unfold LastHeight
  cases there : store.get? heightKey with
  | none => exact ⟨0, rfl⟩
  | some bytes => exact ⟨_, readHeight_eq_ok_iff.mp (if_pos (long bytes there))⟩

theorem Tells.account_eq (tells : store.Tells account) : store.account account.address = .ok account := by
  cases tells with
  | missing absent => exact account_of_none absent
  | recorded there => exact account_of_record account there

theorem Tells.unique {first second : Account} (tells : store.Tells first)
    (others : store.Tells second) (same : first.address = second.address) : first = second := by
  have read := tells.account_eq
  rw [same, others.account_eq] at read
  exact (Except.ok.inj read).symm

theorem account_of_malformed {bytes : Bytes} {fault : RecordFault}
    (there : store.get? address.key = some bytes) (malformed : Account.Malformed address bytes fault) :
    store.account address = .error (.codec fault.message) := by
  unfold account
  rw [there]
  simp only [Account.ofRecord_of_malformed malformed]
  rfl

theorem tells_or_malformed (store : Store) (address : Address) :
    (∃ account, account.address = address ∧ store.Tells account) ∨
      ∃ bytes fault, store.get? address.key = some bytes ∧ Account.Malformed address bytes fault := by
  cases there : store.get? address.key with
  | none => exact .inl ⟨_, rfl, .missing there⟩
  | some bytes =>
    rcases Account.malformed_or_record address bytes with ⟨fault, malformed⟩ | ⟨account, rfl, rfl⟩
    · exact .inr ⟨bytes, fault, rfl, malformed⟩
    · exact .inl ⟨account, rfl, .recorded there⟩

theorem damaged_of_malformed {bytes : Bytes} {fault : RecordFault}
    (there : store.get? address.key = some bytes) (malformed : Account.Malformed address bytes fault) :
    store.Damaged address := by
  refine ⟨bytes, there, ?_⟩
  rintro account rfl rfl
  cases account.ofRecord_record.symm.trans (Account.ofRecord_of_malformed malformed)

theorem Tells.not_damaged (tells : store.Tells account) : ¬store.Damaged account.address := by
  rintro ⟨bytes, there, none⟩
  cases tells with
  | missing absent => cases absent.symm.trans there
  | recorded record => exact none account rfl (Option.some.inj (record.symm.trans there))

end Reading

end Store

namespace Query

def address? : Query → Option Address
  | balance params => some params.address
  | account params => some params.address
  | lastHeight => none

inductive AnswersAt (store : Store) (last : UInt64) : Query → Reply → Prop where
  | lastHeight : AnswersAt store last .lastHeight (.ok (.height last))
  | balance {params : AccountParams} {account : Account} (own : account.address = params.address)
      (tells : store.Tells account) : AnswersAt store last (.balance params) (.ok (.balance account.balance))
  | account {params : AccountParams} {account : Account} (own : account.address = params.address)
      (tells : store.Tells account) : AnswersAt store last (.account params) (.ok (.account {
        address := params.address
        balance := account.balance
        isContract := params.address.kind = .contract }))
  | malformed {query : Query} {address : Address} {bytes : Bytes} {fault : RecordFault}
      (asks : query.address? = some address) (there : store.get? address.key = some bytes)
      (malformed : Account.Malformed address bytes fault) :
      AnswersAt store last query (.error (.storage ("Invalid account record: " ++ fault.message)))

structure AnswersFrom (store : Store) (query : Query) : Prop where
  unreadable : ∀ bytes, store.get? Store.heightKey = some bytes → bytes.length ≠ 8 →
    query.answer store = .error (.storage "Invalid account record: invalid block height")
  readable : (∀ bytes, store.get? Store.heightKey = some bytes → bytes.length = 8) →
    ∃ last, store.LastHeight last
  beyond : ∀ last asked, store.LastHeight last → query.height = some asked → last < asked →
    query.answer store =
      .error (.invalidParams ("Invalid block height: " ++ Quantity.toHex asked.toNat))
  gone : ∀ last asked, store.LastHeight last → query.height = some asked → asked < last →
    query.answer store = .error (.stateUnavailable asked)
  current : ∀ last, store.LastHeight last → query.height = none ∨ query.height = some last →
    AnswersAt store last query (query.answer store)
  broken : ∀ last, store.LastHeight last → query.height = none ∨ query.height = some last →
    ((∃ reason, query.answer store = .error (.storage reason)) ↔
      ∃ address, query.address? = some address ∧ store.Damaged address)

section Stores

variable {store other : Store} {query : Query} {last : UInt64}

theorem answersAt_answerAt (store : Store) (last : UInt64) (query : Query) :
    AnswersAt store last query (query.answerAt store last) := by
  cases query with
  | lastHeight => exact .lastHeight
  | balance params =>
    rcases Store.tells_or_malformed store params.address with ⟨account, own, tells⟩ |
      ⟨bytes, fault, there, malformed⟩
    · have read := tells.account_eq
      rw [own] at read
      rw [answerAt, Store.balance, read]
      exact .balance own tells
    · rw [answerAt, Store.balance, Store.account_of_malformed there malformed]
      exact .malformed rfl there malformed
  | account params =>
    rcases Store.tells_or_malformed store params.address with ⟨account, own, tells⟩ |
      ⟨bytes, fault, there, malformed⟩
    · have read := tells.account_eq
      rw [own] at read
      have answers : AnswersAt store last (Query.account params) _ := .account own tells
      rw [answerAt, read]
      rw [← own] at answers
      exact answers
    · rw [answerAt, Store.account_of_malformed there malformed]
      exact .malformed rfl there malformed

theorem AnswersAt.storage_iff {reply : Reply} (answers : AnswersAt store last query reply) :
    (∃ reason, reply = .error (.storage reason)) ↔
      ∃ address, query.address? = some address ∧ store.Damaged address := by
  cases answers with
  | lastHeight => simp [address?]
  | balance own tells | account own tells =>
    have sound := tells.not_damaged
    rw [own] at sound
    simp [address?, sound]
  | malformed asks there malformed =>
    exact iff_of_true ⟨_, rfl⟩ ⟨_, asks, Store.damaged_of_malformed there malformed⟩

theorem answersFrom (store : Store) (query : Query) : AnswersFrom store query := by
  have latest (last : UInt64) (known : store.LastHeight last)
      (asked : query.height = none ∨ query.height = some last) :
      AnswersAt store last query (query.answer store) := by
    obtain ⟨stored, read, rfl⟩ := Store.lastHeight_of_last known
    rw [answer_latest read asked]
    exact answersAt_answerAt store _ query
  refine ⟨?_, Store.exists_last, ?_, ?_, latest, fun last known asked => (latest last known asked).storage_iff⟩
  · intro bytes there length
    apply answer_of_refused
    rw [answerHeight, Store.lastHeight_of_unreadable there length]
    rfl
  · intro last asked known names above
    obtain ⟨stored, read, rfl⟩ := Store.lastHeight_of_last known
    exact answer_beyond read names above
  · intro last asked known names below
    obtain ⟨stored, read, rfl⟩ := Store.lastHeight_of_last known
    exact answer_gone read names below

theorem answer_congr (height : other.get? Store.heightKey = store.get? Store.heightKey)
    (record : ∀ address, query.address? = some address →
      other.get? address.key = store.get? address.key) :
    query.answer other = query.answer store := by
  have last : other.lastHeight = store.lastHeight := by
    unfold Store.lastHeight
    rw [height]
  have reached : query.answerHeight other = query.answerHeight store := by
    unfold answerHeight
    rw [last]
  have account (address : Address) (asks : query.address? = some address) :
      other.account address = store.account address := by
    unfold Store.account
    rw [record address asks]
  have answered (height : UInt64) : query.answerAt other height = query.answerAt store height := by
    cases query with
    | lastHeight => rfl
    | balance params => rw [answerAt, answerAt, Store.balance, Store.balance, account _ rfl]
    | account params => rw [answerAt, answerAt, account _ rfl]
  unfold answer
  rw [reached]
  exact congrArg _ (funext answered)

/--
On every store, with whatever bytes in it, every query comes to what the height's key and the key of the
address that it asks for say, in this order; and to the same on every other store that agrees on these keys.
-/
theorem answers_from_two_keys :
    (∀ store query, AnswersFrom store query) ∧
    ∀ (store other : Store) (query : Query),
      other.get? Store.heightKey = store.get? Store.heightKey →
      (∀ address, query.address? = some address →
        other.get? address.key = store.get? address.key) →
      query.answer other = query.answer store :=
  ⟨answersFrom, fun _ _ _ height record => answer_congr height record⟩

end Stores

/-- A store at height five with one account that is sound and one whose record is cut short. -/
def halfDamaged : Store :=
  ((Store.empty.putHeight 5).putAccount { address := .filled .eoa 1, balance := 7, flags := 0 }).put
    (Address.filled .contract 2).key [0, 1]

theorem halfDamaged_answers :
    (balance { address := .filled .eoa 1, height := some 5 }).answer halfDamaged = .ok (.balance 7) ∧
      (balance { address := .filled .contract 2, height := some 6 }).answer halfDamaged =
        .error (.invalidParams "Invalid block height: 0x6") ∧
      (account { address := .filled .contract 2, height := some 4 }).answer halfDamaged =
        .error (.stateUnavailable 4) ∧
      (∃ reason, (account { address := .filled .contract 2, height := none }).answer halfDamaged =
        .error (.storage reason)) ∧
      (∀ query : Query, query.answer (halfDamaged.put Store.heightKey [1]) =
        .error (.storage "Invalid account record: invalid block height")) ∧
      (balance { address := .filled .eoa 1, height := none }).answer
          (halfDamaged.delete (Address.filled .contract 2).key) =
        (balance { address := .filled .eoa 1, height := none }).answer halfDamaged := by
  obtain ⟨answers, agree⟩ := answers_from_two_keys
  have last : halfDamaged.LastHeight 5 := by rfl
  have damaged : halfDamaged.Damaged (.filled .contract 2) := by
    refine ⟨[0, 1], rfl, fun account _ same => ?_⟩
    have length := account.length_record
    rw [same] at length
    cases length
  refine ⟨?_, ?_, ?_, ?_, ?_, ?_⟩
  · have told : halfDamaged.Tells { address := .filled .eoa 1, balance := 7, flags := 0 } :=
      .recorded rfl
    have current :=
      (answers halfDamaged (balance { address := .filled .eoa 1, height := some 5 })).current
        5 last (.inr rfl)
    -- The answer is a reply like any other here: its rule is what says what it is.
    generalize Query.answer _ _ = reply at current ⊢
    cases current with
    | balance own tells => rw [tells.unique told own]
    | malformed asks there malformed =>
      cases asks
      exact absurd (Store.damaged_of_malformed there malformed) told.not_damaged
  · exact (answers halfDamaged _).beyond 5 6 last rfl (by decide)
  · exact (answers halfDamaged _).gone 5 4 last rfl (by decide)
  · exact ((answers halfDamaged _).broken 5 last (.inl rfl)).mpr ⟨_, rfl, damaged⟩
  · exact fun query => (answers _ query).unreadable [1] rfl (by decide)
  · refine agree halfDamaged _ _ rfl (fun address asks => ?_)
    cases asks
    rfl

end Query

end LedgerNode
