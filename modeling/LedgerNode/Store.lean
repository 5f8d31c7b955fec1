import LedgerNode.Text.Bytes

set_option autoImplicit false

namespace LedgerNode

structure Store where
  entries : List (Bytes × Bytes)
  ascending : entries.Pairwise (fun left right => left.1 < right.1)
  deriving DecidableEq

namespace Store

inductive Change where
  | put (key value : Bytes)
  | delete (key : Bytes)
  deriving DecidableEq, Repr

def Change.key : Change → Bytes
  | .put key _ => key
  | .delete key => key

def empty : Store where
  entries := []
  ascending := .nil

instance : EmptyCollection Store := ⟨empty⟩
instance : Inhabited Store := ⟨empty⟩

def size (store : Store) : Nat :=
  store.entries.length

def isEmpty (store : Store) : Bool :=
  store.entries.isEmpty

def get? (store : Store) (key : Bytes) : Option Bytes :=
  store.entries.lookup key

theorem lt_of_not_lt_of_ne {left right : Bytes} (notLess : ¬ left < right)
    (different : left ≠ right) : right < left := by
  apply Classical.byContradiction
  intro notGreater
  exact different (List.le_antisymm (List.not_lt.mp notGreater) (List.not_lt.mp notLess))

def insertEntry (key value : Bytes) : List (Bytes × Bytes) → List (Bytes × Bytes)
  | [] => [(key, value)]
  | head :: rest =>
    if key < head.1 then (key, value) :: head :: rest
    else if key = head.1 then (key, value) :: rest
    else head :: insertEntry key value rest

theorem mem_insertEntry {key value : Bytes} {entries : List (Bytes × Bytes)}
    {entry : Bytes × Bytes} (member : entry ∈ insertEntry key value entries) :
    entry = (key, value) ∨ entry ∈ entries := by
  induction entries with
  | nil => simpa [insertEntry] using member
  | cons head rest ih =>
    unfold insertEntry at member
    split at member
    next => simpa using member
    next =>
      split at member
      next => grind
      next =>
        rcases List.mem_cons.mp member with here | later
        next => exact .inr (here ▸ List.mem_cons_self)
        next => exact (ih later).imp_right (List.mem_cons_of_mem _)

theorem ascending_insertEntry (key value : Bytes) {entries : List (Bytes × Bytes)}
    (ascending : entries.Pairwise (fun left right => left.1 < right.1)) :
    (insertEntry key value entries).Pairwise (fun left right => left.1 < right.1) := by
  induction entries with
  | nil => simp [insertEntry]
  | cons head rest ih =>
    have parts := List.pairwise_cons.mp ascending
    unfold insertEntry
    split
    next before =>
      refine List.pairwise_cons.mpr ⟨?_, ascending⟩
      intro entry member
      rcases List.mem_cons.mp member with here | later
      next => exact here ▸ before
      next => exact List.lt_trans before (parts.1 entry later)
    next notBefore =>
      split
      next same => exact List.pairwise_cons.mpr ⟨fun entry member => same ▸ parts.1 entry member, parts.2⟩
      next different =>
        refine List.pairwise_cons.mpr ⟨?_, ih parts.2⟩
        intro entry member
        rcases mem_insertEntry member with new | old
        next => exact new ▸ lt_of_not_lt_of_ne notBefore different
        next => exact parts.1 entry old

def put (store : Store) (key value : Bytes) : Store where
  entries := insertEntry key value store.entries
  ascending := ascending_insertEntry key value store.ascending

def delete (store : Store) (key : Bytes) : Store where
  entries := store.entries.filter (fun entry => entry.1 != key)
  ascending := store.ascending.filter _

def change (store : Store) : Change → Store
  | .put key value => store.put key value
  | .delete key => store.delete key

def changeAll (store : Store) (changes : List Change) : Store :=
  changes.foldl change store

end Store

end LedgerNode
