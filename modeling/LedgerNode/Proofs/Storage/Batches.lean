import LedgerNode.Proofs.Storage.Ledger

set_option autoImplicit false

namespace LedgerNode.Store

inductive OneByOne : Store → List Change → Store → Prop where
  | done (store : Store) : OneByOne store [] store
  | put {store after : Store} {key value : Bytes} {rest : List Change}
      (next : OneByOne (store.put key value) rest after) :
      OneByOne store (.put key value :: rest) after
  | delete {store after : Store} {key : Bytes} {rest : List Change}
      (next : OneByOne (store.delete key) rest after) : OneByOne store (.delete key :: rest) after

/-- Two runs of changes that change each key alike, in whatever order the keys come. -/
def AlikeOnKeys (first second : List Change) : Prop :=
  ∀ key, first.filter (fun change => change.key = key) = second.filter (fun change => change.key = key)

section Lookups

variable {first second : Store}

theorem mem_entries_iff {store : Store} {key value : Bytes} :
    (key, value) ∈ store.entries ↔ store.get? key = some value :=
  mem_iff_lookup store.nodup_keys

theorem eq_of_get? (same : ∀ key, first.get? key = second.get? key) : first = second := by
  -- A store is what it answers: its entries are in order, so nothing else tells two stores apart.
  have members (entry : Bytes × Bytes) : entry ∈ first.entries ↔ entry ∈ second.entries := by
    rw [mem_entries_iff, mem_entries_iff, same]
  have perm : first.entries.Perm second.entries :=
    (List.perm_ext_iff_of_nodup first.nodup_keys.of_map second.nodup_keys.of_map).mpr members
  have entries : first.entries = second.entries :=
    perm.eq_of_pairwise (fun _ _ _ _ before after => absurd after (List.lt_asymm before))
      first.ascending second.ascending
  cases first
  cases second
  cases entries
  rfl

end Lookups

section Batches

variable (store : Store) {first second : List Change}

theorem oneByOne_changeAll (changes : List Change) :
    OneByOne store changes (store.changeAll changes) := by
  induction changes generalizing store with
  | nil => exact .done store
  | cons change rest ih =>
    cases change with
    | put key value => exact .put (ih _)
    | delete key => exact .delete (ih _)

theorem OneByOne.eq_changeAll {store after : Store} {changes : List Change}
    (run : OneByOne store changes after) : after = store.changeAll changes := by
  induction run with
  | done => rfl
  | put _ ih => exact ih
  | delete _ ih => exact ih

theorem changeAll_append (first second : List Change) :
    store.changeAll (first ++ second) = (store.changeAll first).changeAll second :=
  List.foldl_append

theorem get?_changeAll_of_last (before later : List Change) (change : Change)
    (last : ∀ other ∈ later, other.key ≠ change.key) :
    (store.changeAll (before ++ change :: later)).get? change.key = change.left? := by
  rw [List.append_cons, changeAll_append, get?_changeAll_of_absent _ last, changeAll_concat,
    get?_change, if_pos rfl]

theorem AlikeOnKeys.changeAll_eq (alike : AlikeOnKeys first second) :
    store.changeAll first = store.changeAll second := by
  refine eq_of_get? fun key => ?_
  rw [get?_changeAll, get?_changeAll, alike key]

theorem alikeOnKeys_swap (before later : List Change) {left right : Change}
    (apart : left.key ≠ right.key) :
    AlikeOnKeys (before ++ left :: right :: later) (before ++ right :: left :: later) := by
  intro key
  simp only [List.filter_append, List.filter_cons]
  by_cases named : left.key = key
  · have other : right.key ≠ key := fun same => apart (named.trans same.symm)
    simp [named, other]
  · simp [named]

theorem alikeOnKeys_of_perm (perm : first.Perm second) (distinct : (first.map Change.key).Nodup) :
    AlikeOnKeys first second := by
  intro key
  -- A key that no two changes share is named by one of them or by none, so there is nothing to order.
  have short : (first.filter (fun change => change.key = key)).length ≤ 1 := by
    have few := List.nodup_iff_count_le_one.mp distinct key
    rw [List.count_eq_countP, List.countP_map, List.countP_eq_length_filter] at few
    simpa only [Function.comp_def, beq_eq_decide] using few
  have kept := perm.filter (fun change => change.key = key)
  generalize first.filter (fun change => change.key = key) = named at short kept ⊢
  match named, short with
  | [], _ => exact kept.nil_eq
  | [_], _ => exact List.singleton_perm.mp kept

theorem putAccounts_none (accounts : List Account) :
    store.putAccounts accounts none = accounts.foldl putAccount store := by
  rw [putAccounts, Option.map_none, Option.toList_none, List.append_nil, changeAll, List.foldl_map]
  rfl

theorem putAccounts_eq (accounts : List Account) (height : Option UInt64) :
    store.putAccounts accounts height =
      height.elim (accounts.foldl putAccount store) (accounts.foldl putAccount store).putHeight := by
  cases height with
  | none => exact store.putAccounts_none accounts
  | some height =>
    rw [putAccounts_height, putAccounts_none]
    rfl

end Batches

/--
A batch leaves the one store that its changes leave one after the other. So it may be cut anywhere, and its
changes may be reordered as long as those to one key are not.
-/
theorem batches_agree_with_single_writes :
    (∀ (store : Store) (changes : List Change),
      (∀ after, OneByOne store changes after ↔ after = store.changeAll changes) ∧
      (∀ before change later, changes = before ++ change :: later →
        (∀ other ∈ later, other.key ≠ change.key) →
          (store.changeAll changes).get? change.key = change.left?) ∧
      (∀ key, (∀ change ∈ changes, change.key ≠ key) →
        (store.changeAll changes).get? key = store.get? key) ∧
      ∃ present : Finset Bytes,
        (∀ key, key ∈ present ↔ ((store.changeAll changes).get? key).isSome) ∧
        (store.changeAll changes).size = present.card) ∧
    (∀ (store : Store) (accounts : List Account) (height : Option UInt64),
      store.putAccounts accounts height =
        height.elim (accounts.foldl putAccount store) (accounts.foldl putAccount store).putHeight) ∧
    (∀ (store : Store) (first second : List Change),
      store.changeAll (first ++ second) = (store.changeAll first).changeAll second) ∧
    (∀ (store : Store) (first second : List Change),
      AlikeOnKeys first second → store.changeAll first = store.changeAll second) ∧
    (∀ (before later : List Change) (left right : Change), left.key ≠ right.key →
      AlikeOnKeys (before ++ left :: right :: later) (before ++ right :: left :: later)) ∧
    ∀ first second : List Change, first.Perm second → (first.map Change.key).Nodup →
      AlikeOnKeys first second := by
  refine ⟨fun store changes => ⟨fun after => ⟨OneByOne.eq_changeAll, ?_⟩, ?_,
    fun key absent => get?_changeAll_of_absent store absent, ?_⟩, putAccounts_eq, changeAll_append,
    fun store _ _ alike => alike.changeAll_eq store,
    fun before later _ _ apart => alikeOnKeys_swap before later apart,
    fun _ _ perm distinct => alikeOnKeys_of_perm perm distinct⟩
  · rintro rfl
    exact store.oneByOne_changeAll changes
  · rintro before change later rfl last
    exact store.get?_changeAll_of_last before later change last
  · exact ⟨(store.changeAll changes).keys, fun _ => mem_keys, (card_keys _).symm⟩

def putAgain : List Change :=
  [.put [1] [10], .put [2] [20], .delete [1], .put [3] [30], .put [1] [11], .delete [2]]

theorem putAgain_agrees :
    (Store.empty.changeAll putAgain).get? [1] = some [11] ∧
      (Store.empty.changeAll putAgain).get? [2] = none ∧
      (Store.empty.changeAll putAgain).get? [4] = none ∧
      (Store.empty.changeAll putAgain).size = 2 ∧
      Store.empty.changeAll putAgain = (Store.empty.changeAll (putAgain.take 2)).changeAll
        (putAgain.drop 2) ∧
      Store.empty.changeAll putAgain = Store.empty.changeAll
        [.put [1] [10], .put [2] [20], .delete [1], .put [3] [30], .delete [2], .put [1] [11]] ∧
      Store.empty.changeAll [.put [1] [10], .put [2] [20], .delete [3]] =
        Store.empty.changeAll [.delete [3], .put [1] [10], .put [2] [20]] := by
  obtain ⟨batch, -, split, alike, swap, perm⟩ := batches_agree_with_single_writes
  obtain ⟨-, last, absent, -⟩ := batch .empty putAgain
  refine ⟨last [.put [1] [10], .put [2] [20], .delete [1], .put [3] [30]] _ [.delete [2]] rfl (by decide),
    last [.put [1] [10], .put [2] [20], .delete [1], .put [3] [30], .put [1] [11]] _ [] rfl (by decide),
    absent [4] (by decide), rfl, split .empty (putAgain.take 2) (putAgain.drop 2), ?_, ?_⟩
  · exact alike _ _ _ (swap [.put [1] [10], .put [2] [20], .delete [1], .put [3] [30]] [] _ _ (by decide))
  · exact alike _ _ _ (perm _ _ (by decide) (by decide))

end LedgerNode.Store
