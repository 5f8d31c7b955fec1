set_option autoImplicit false

namespace LedgerNode

variable {α β : Type} [BEq α] [LawfulBEq α] [DecidableEq α]

theorem lookup_cons_ite (key other : α) (value : β) (rest : List (α × β)) :
    ((key, value) :: rest).lookup other = if other = key then some value else rest.lookup other := by
  rw [List.lookup_cons]
  by_cases same : other = key
  · simp [same]
  · rw [beq_eq_false_iff_ne.mpr same, if_neg same]

theorem lookup_filter_ne (key other : α) (entries : List (α × β)) :
    (entries.filter (fun entry => entry.1 != key)).lookup other =
      if other = key then none else entries.lookup other := by
  induction entries with
  | nil => simp
  | cons entry rest ih =>
    obtain ⟨bound, value⟩ := entry
    rw [lookup_cons_ite, List.filter_cons]
    by_cases same : bound = key
    · subst same
      rw [bne_self_eq_false, if_neg Bool.false_ne_true, ih]
      by_cases asked : other = bound <;> simp [asked]
    · by_cases asked : other = bound <;> simp [asked, same, ih, lookup_cons_ite]

omit [DecidableEq α] in
theorem lookup_eq_none_of_nodup {key : α} {value : β} {rest : List (α × β)}
    (nodup : (((key, value) :: rest).map Prod.fst).Nodup) : rest.lookup key = none := by
  rw [List.lookup_eq_none_iff]
  intro entry member
  have absent := (List.nodup_cons.mp nodup).1
  have other : key ≠ entry.1 := by
    rintro rfl
    exact absent (List.mem_map.mpr ⟨entry, member, rfl⟩)
  simpa using other

theorem mem_iff_lookup {entries : List (α × β)} (nodup : (entries.map Prod.fst).Nodup) {key : α}
    {value : β} : (key, value) ∈ entries ↔ entries.lookup key = some value := by
  induction entries with
  | nil => simp
  | cons entry rest ih =>
    obtain ⟨bound, held⟩ := entry
    rw [lookup_cons_ite, List.mem_cons, ih (List.nodup_cons.mp nodup).2]
    by_cases same : key = bound
    · subst same
      have missing := lookup_eq_none_of_nodup nodup
      simp [missing, eq_comm]
    · simp [same]

end LedgerNode
