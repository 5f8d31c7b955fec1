import LedgerNode.Proofs.Storage.Records
import Mathlib.Data.Finset.Card
import Mathlib.Data.List.Induction

set_option autoImplicit false

namespace LedgerNode.Store

def Change.left? : Change → Option Bytes
  | .put _ value => some value
  | .delete _ => none

section Lookups

variable (store : Store)

theorem get?_empty (key : Bytes) : empty.get? key = none :=
  rfl

theorem get?_delete (key other : Bytes) :
    (store.delete key).get? other = if other = key then none else store.get? other :=
  lookup_filter_ne key other store.entries

theorem get?_change (change : Change) (key : Bytes) :
    (store.change change).get? key = if key = change.key then change.left? else store.get? key := by
  cases change with
  | put name value => exact get?_put store name key value
  | delete name => exact get?_delete store name key

theorem changeAll_concat (changes : List Change) (last : Change) :
    store.changeAll (changes ++ [last]) = (store.changeAll changes).change last :=
  List.foldl_concat ..

theorem get?_changeAll (changes : List Change) (key : Bytes) :
    (store.changeAll changes).get? key =
      ((changes.filter (fun change => change.key = key)).getLast?).elim (store.get? key)
        Change.left? := by
  -- On the changes from the last one back: it decides if it names the key, and is ignored if not.
  induction changes using List.reverseRecOn with
  | nil => rfl
  | append_singleton changes last ih =>
    rw [changeAll_concat, get?_change, List.filter_append]
    by_cases same : last.key = key
    · simp [same]
    · rw [if_neg (Ne.symm same), ih]
      simp [same]

theorem get?_changeAll_of_absent {changes : List Change} {key : Bytes}
    (absent : ∀ change ∈ changes, change.key ≠ key) :
    (store.changeAll changes).get? key = store.get? key := by
  have none : changes.filter (fun change => change.key = key) = [] := by
    simpa [List.filter_eq_nil_iff] using absent
  rw [get?_changeAll, none]
  rfl

theorem get?_changeAll_of_unique {changes : List Change} (change : Change) (made : change ∈ changes)
    (only : ∀ other ∈ changes, other.key = change.key → other = change) :
    (store.changeAll changes).get? change.key = change.left? := by
  rw [get?_changeAll]
  cases last : (changes.filter (fun other => other.key = change.key)).getLast? with
  | none =>
    rw [List.getLast?_eq_none_iff, List.filter_eq_nil_iff] at last
    exact absurd (decide_eq_true rfl) (last change made)
  | some other =>
    obtain ⟨member, same⟩ := List.mem_filter.mp (List.mem_of_getLast? last)
    rw [only other member (of_decide_eq_true same)]
    rfl

end Lookups

def keys (store : Store) : Finset Bytes :=
  (store.entries.map Prod.fst).toFinset

theorem mem_keys {store : Store} {key : Bytes} : key ∈ store.keys ↔ (store.get? key).isSome := by
  rw [keys, List.mem_toFinset, get?]
  constructor
  · intro there
    by_contra absent
    rw [Option.not_isSome_iff_eq_none, List.lookup_eq_none_iff] at absent
    obtain ⟨entry, member, rfl⟩ := List.mem_map.mp there
    simpa using absent entry member
  · intro there
    obtain ⟨value, found⟩ := Option.isSome_iff_exists.mp there
    obtain ⟨before, after, same, -⟩ := List.lookup_eq_some_iff.mp found
    rw [same]
    simp

theorem nodup_keys (store : Store) : (store.entries.map Prod.fst).Nodup := by
  rw [List.nodup_iff_pairwise_ne, List.pairwise_map]
  refine store.ascending.imp (fun before same => ?_)
  rw [same] at before
  exact List.lt_irrefl _ before

theorem card_keys (store : Store) : store.keys.card = store.size := by
  rw [keys, List.toFinset_card_of_nodup store.nodup_keys, List.length_map, size]

end LedgerNode.Store
