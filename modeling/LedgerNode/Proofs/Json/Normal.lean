import LedgerNode.Json.Value

set_option autoImplicit false

namespace LedgerNode.Json

theorem mem_insertMember {name : String} {value : Value} {members : List (String × Value)}
    {member : String × Value} (there : member ∈ insertMember name value members) :
    member = (name, value) ∨ member ∈ members := by
  induction members with
  | nil => simpa [insertMember] using there
  | cons head rest ih =>
    unfold insertMember at there
    split at there
    next => simpa using there
    next =>
      split at there
      next =>
        rcases List.mem_cons.mp there with here | later
        · exact .inl here
        · exact .inr (List.mem_cons_of_mem _ later)
      next =>
        rcases List.mem_cons.mp there with here | later
        · exact .inr (here ▸ List.mem_cons_self)
        · exact (ih later).imp_right (List.mem_cons_of_mem _)

theorem ascending_insertMember (name : String) (value : Value) {members : List (String × Value)}
    (ascending : members.Pairwise (fun left right => left.1 < right.1)) :
    (insertMember name value members).Pairwise (fun left right => left.1 < right.1) := by
  induction members with
  | nil => simp [insertMember]
  | cons head rest ih =>
    have ⟨first, later⟩ := List.pairwise_cons.mp ascending
    unfold insertMember
    split
    next before =>
      refine List.pairwise_cons.mpr ⟨fun member there => ?_, ascending⟩
      rcases List.mem_cons.mp there with rfl | behind
      · exact before
      · exact String.lt_trans before (first member behind)
    next notBefore =>
      split
      next same => exact List.pairwise_cons.mpr ⟨fun member there => same ▸ first member there, later⟩
      next different =>
        refine List.pairwise_cons.mpr ⟨fun member there => ?_, ih later⟩
        rcases mem_insertMember there with rfl | old
        · apply Classical.byContradiction
          intro notAfter
          exact different (String.le_antisymm notAfter notBefore)
        · exact first member old

theorem orderMembers_spec (members : List (String × Value)) :
    (orderMembers members).Pairwise (fun left right => left.1 < right.1) ∧
      ∀ member ∈ orderMembers members, member ∈ members := by
  have all (ordered : List (String × Value))
      (ascending : ordered.Pairwise (fun left right => left.1 < right.1)) :
      (members.foldl (fun ordered member => insertMember member.1 member.2 ordered) ordered).Pairwise
          (fun left right => left.1 < right.1) ∧
        ∀ member ∈ members.foldl (fun ordered member => insertMember member.1 member.2 ordered) ordered,
          member ∈ ordered ∨ member ∈ members := by
    -- On the members that are left, from any list that was ordered so far.
    induction members generalizing ordered with
    | nil => exact ⟨ascending, fun _ there => .inl there⟩
    | cons head rest ih =>
      obtain ⟨sorted, known⟩ := ih _ (ascending_insertMember head.1 head.2 ascending)
      refine ⟨sorted, fun member there => ?_⟩
      rcases known member there with here | later
      · rcases mem_insertMember here with rfl | old
        · exact .inr List.mem_cons_self
        · exact .inl old
      · exact .inr (List.mem_cons_of_mem _ later)
  obtain ⟨sorted, known⟩ := all [] .nil
  refine ⟨sorted, fun member there => ?_⟩
  rcases known member there with none | there
  · cases none
  · exact there

theorem names_nodup {value : Value} {members : List (String × Value)}
    (normal : value.normal = .object members) : (members.map Prod.fst).Nodup := by
  cases value with
  | object written =>
    rw [Value.normal, Value.object.injEq] at normal
    have sorted := (orderMembers_spec (Value.normalMembers written)).1
    rw [normal] at sorted
    rw [List.nodup_iff_pairwise_ne, List.pairwise_map]
    refine sorted.imp (fun before same => ?_)
    rw [same] at before
    exact String.lt_irrefl _ before
  | _ => simp [Value.normal] at normal

theorem normalItems_eq_map (items : List Value) :
    Value.normalItems items = items.map Value.normal := by
  induction items with
  | nil => rfl
  | cons item rest ih => rw [Value.normalItems, ih, List.map_cons]

theorem normalMembers_eq_map (members : List (String × Value)) :
    Value.normalMembers members = members.map (fun member => (member.1, member.2.normal)) := by
  induction members with
  | nil => rfl
  | cons member rest ih =>
    obtain ⟨name, value⟩ := member
    rw [Value.normalMembers, Value.normalMember, ih, List.map_cons]

theorem normal_of_member? {value : Value} {members : List (String × Value)} {name : String}
    {inner : Value} (normal : value.normal = .object members)
    (found : Value.member? name members = some inner) : ∃ written : Value, inner = written.normal := by
  cases value with
  | object written =>
    rw [Value.normal, Value.object.injEq] at normal
    have known := (orderMembers_spec (Value.normalMembers written)).2
    rw [normal] at known
    obtain ⟨before, after, same, -⟩ := List.lookup_eq_some_iff.mp found
    have there := known (name, inner) (by simp [same])
    rw [normalMembers_eq_map] at there
    obtain ⟨member, -, here⟩ := List.mem_map.mp there
    exact ⟨member.2, (congrArg Prod.snd here).symm⟩
  | _ => simp [Value.normal] at normal

theorem insertMember_last {name : String} {members : List (String × Value)}
    (last : ∀ member ∈ members, member.1 < name) (value : Value) :
    insertMember name value members = members ++ [(name, value)] := by
  induction members with
  | nil => rfl
  | cons head rest ih =>
    have before := last head List.mem_cons_self
    have notAfter : ¬name < head.1 := fun after => String.lt_irrefl _ (String.lt_trans before after)
    have different : name ≠ head.1 := by
      intro same
      rw [same] at before
      exact String.lt_irrefl _ before
    have later := ih (fun member there => last member (List.mem_cons_of_mem _ there))
    rw [insertMember, if_neg notAfter, if_neg different, later, List.cons_append]

theorem orderMembers_of_ascending {members : List (String × Value)}
    (ascending : members.Pairwise (fun left right => left.1 < right.1)) :
    orderMembers members = members := by
  have all (front back : List (String × Value))
      (ascending : (front ++ back).Pairwise (fun left right => left.1 < right.1)) :
      back.foldl (fun ordered member => insertMember member.1 member.2 ordered) front =
        front ++ back := by
    induction back generalizing front with
    | nil => simp
    | cons member rest ih =>
      have before := (List.pairwise_append.mp ascending).2.2
      have last := insertMember_last (fun other there => before other there member List.mem_cons_self)
        member.2
      rw [List.foldl_cons, last, ih _ (by simpa using ascending)]
      simp
  exact all [] members ascending

theorem normal_object {members : List (String × Value)}
    (ascending : members.Pairwise (fun left right => left.1 < right.1))
    (normal : ∀ member ∈ members, member.2.normal = member.2) :
    (Value.object members).normal = .object members := by
  have same : Value.normalMembers members = members := by
    have each : ∀ member ∈ members, (member.1, member.2.normal) = id member :=
      fun member there => Prod.ext rfl (normal member there)
    rw [normalMembers_eq_map, List.map_congr_left each, List.map_id]
  rw [Value.normal, same, orderMembers_of_ascending ascending]

end LedgerNode.Json
