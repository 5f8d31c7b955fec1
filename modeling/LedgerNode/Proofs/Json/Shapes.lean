import LedgerNode.Json.Variant
import LedgerNode.Proofs.Json.Trees
import LedgerNode.Proofs.Lookup

set_option autoImplicit false

namespace LedgerNode.Json

open Reader

variable {α β : Type} {depth : Depth} {rest : Bytes}

theorem writeString_append (text : String) (rest : Bytes) :
    writeString text ++ rest =
      0x22 :: ((Bytes.ofString text).flatMap escapeByte ++ 0x22 :: rest) := by
  simp [writeString]

theorem ends_brace (rest : Bytes) : Ends (0x7D :: rest) :=
  ends_cons rest (by decide)

namespace Shape

theorem reads_string (text : String) (rest : Bytes) :
    Reads (string.ofText depth) (writeString text ++ rest) text rest := by
  rw [writeString_append]
  exact .placed ((reads_firstOfValue _ (by decide)).bind
    ((Reads.advance _ _).bind (reads_readText text rest)))

theorem reads_refine {shape : Shape α} {check : α → Except String β} {text : Bytes} {value : α}
    {checked : β} (reads : Reads (shape.ofText depth) text value rest)
    (passes : check value = .ok checked) :
    Reads ((shape.refine check).ofText depth) text checked rest := by
  refine reads.bind ?_
  rw [passes]
  exact .ofResult _ _

theorem ofTree_refine {shape : Shape α} {check : α → Except String β} {tree : Value} {value : α}
    {checked : β} (taken : shape.ofTree tree = .ok value) (passes : check value = .ok checked) :
    (shape.refine check).ofTree tree = .ok checked := by
  simp only [refine, taken]
  change (check value).mapError _ = _
  rw [passes]
  rfl

theorem wordOfNumber_ofNat (value : UInt64) :
    wordOfNumber (.integer value.toNat) = .ok value := by
  have fits := value.toNat_lt_size
  simp [wordOfNumber, fits]

theorem reads_word (value : UInt64) (ends : Ends rest) :
    Reads (word.ofText depth) (Bytes.ofString (Number.integer value.toNat).text ++ rest) value
      rest := by
  have read := reads_readNumber false value.toNat_lt_size ends
  obtain ⟨byte, digits, same, digit⟩ := digits_head value.toNat
  have text : Bytes.ofString (Number.integer value.toNat).text = byte :: digits :=
    (text_ofNat value.toNat).trans same
  rw [same] at read
  rw [text]
  refine .placed ((reads_firstOfValue _ (not_isBlank_of_isDigit digit)).bind ?_)
  rw [if_neg (ne_of_isDigit digit (by decide)), if_pos digit]
  refine read.bind ?_
  have known : wordOfNumber (integerNumber false value.toNat) = .ok value :=
    wordOfNumber_ofNat value
  rw [known]
  exact .ofResult _ _

theorem reads_optional_null {shape : Shape α} (rest : Bytes) :
    Reads (shape.optional.ofText depth) (Bytes.ofString "null" ++ rest) none rest :=
  (Reads.peekToken (by decide) _).bind
    (((Reads.advance _ _).bind (reads_takeWord rest _)).bind (.pure _ _))

theorem reads_optional_some {shape : Shape α} {first : UInt8} {text : Bytes} {value : α}
    (token : isBlank first = false) (other : first ≠ 0x6E)
    (reads : Reads (shape.ofText depth) (first :: text) value rest) :
    Reads (shape.optional.ofText depth) (first :: text) (some value) rest := by
  refine (Reads.peekToken token _).bind ?_
  simpa [other] using reads.map some

end Shape

section Known

variable {known : List String} {name : String}

theorem reads_readKnown (member : known.contains name = true) (rest : Bytes) :
    Reads (readKnown known) (writeString name ++ rest) name rest := by
  rw [writeString_append]
  refine .placed ((reads_firstOfValue _ (by decide)).bind ((Reads.advance _ _).bind ?_))
  refine (reads_readText name rest).bind ?_
  rw [if_pos member]
  exact .pure _ _

theorem reads_readTag (member : known.contains name = true) (rest : Bytes) :
    Reads (readTag depth known) (writeString name ++ rest) name rest := by
  have read := reads_readKnown member rest
  rw [writeString_append] at read ⊢
  exact (reads_firstOfValue _ (by decide)).bind (read.bind (.pure _ _))

theorem reads_readNamed {alone : String → Reader α} {content : String → Depth → Reader α}
    {text : Bytes} {value : α} (member : known.contains name = true)
    (reads : Reads (content name depth) (text ++ 0x7D :: rest) value (0x7D :: rest)) :
    Reads (readNamed (depth + 1) known alone content) (writeObject [writeMember name text] ++ rest)
      value rest := by
  have read := reads_readKnown member (0x3A :: (text ++ 0x7D :: rest))
  rw [writeString_append] at read
  rw [writeObject_append, joinWith_cons, List.flatMap_nil, List.append_nil, writeMember_append]
  refine (reads_firstOfValue _ (by decide)).bind ((Reads.advance _ _).bind ?_)
  refine (Reads.peekToken (by decide) _).bind (read.bind ((reads_takeColon _).bind ?_))
  exact reads.bind ((Reads.peekToken (by decide) _).bind ((Reads.advance _ _).bind (.pure _ _)))

end Known

namespace Adjacent

variable {form : Adjacent α} {variant : Variant α} {name : String} {value : α}

theorem reads_next_first (known : [form.tagName, form.contentName].contains name = true)
    (rest : Bytes) :
    Reads (form.next true) (0x22 :: ((Bytes.ofString name).flatMap escapeByte ++ 0x22 :: rest))
      (some name) rest := by
  refine Reads.budget (fun steps enough => ?_)
  obtain ⟨steps, rfl⟩ := Nat.exists_eq_add_one.mpr (Nat.zero_lt_of_lt enough)
  refine (reads_nextName_first _).bind ((reads_readText name rest).bind ?_)
  rw [if_pos known]
  exact .pure _ _

theorem reads_next_later (known : [form.tagName, form.contentName].contains name = true)
    (rest : Bytes) :
    Reads (form.next false)
      (0x2C :: 0x22 :: ((Bytes.ofString name).flatMap escapeByte ++ 0x22 :: rest))
      (some name) rest := by
  refine Reads.budget (fun steps enough => ?_)
  obtain ⟨steps, rfl⟩ := Nat.exists_eq_add_one.mpr (Nat.zero_lt_of_lt enough)
  refine (reads_nextName_later _).bind ((reads_readText name rest).bind ?_)
  rw [if_pos known]
  exact .pure _ _

theorem reads_next_end (form : Adjacent α) (rest : Bytes) :
    Reads (form.next false) (0x7D :: rest) none (0x7D :: rest) := by
  refine Reads.budget (fun steps enough => ?_)
  obtain ⟨steps, rfl⟩ := Nat.exists_eq_add_one.mpr (Nat.zero_lt_of_lt enough)
  exact (reads_nextName_end rest false).bind (.pure _ _)

theorem reads_variant (found : form.variants.find? (fun other => other.tag = name) = some variant)
    (text : Bytes) : Reads (form.variant name) text variant text := by
  unfold Adjacent.variant
  rw [found]
  exact .pure _ _

theorem contains_tags
    (found : form.variants.find? (fun other => other.tag = name) = some variant) :
    form.tags.contains name = true := by
  have same := List.find?_some found
  have member := List.mem_of_find?_eq_some found
  rw [List.contains_iff_mem]
  exact List.mem_map.mpr ⟨variant, member, by simpa using same⟩

theorem reads_bare (found : form.variants.find? (fun other => other.tag = name) = some variant)
    (bare : variant.bare = some value) (rest : Bytes) :
    Reads (form.read (depth + 1)) (writeObject [writeMember form.tagName (writeString name)] ++ rest)
      value rest := by
  have tag : [form.tagName, form.contentName].contains form.tagName = true := by simp
  rw [writeObject_append, joinWith_cons, List.flatMap_nil, List.append_nil, writeMember_append]
  refine .placed ((reads_firstOfValue _ (by decide)).bind ?_)
  refine reads_readContainer rest ?_ (reads_closeObject rest)
  refine (reads_next_first tag _).bind ((reads_takeColon _).bind ?_)
  rw [if_pos rfl]
  refine (reads_readTag (contains_tags found) _).bind ((reads_variant found _).bind ?_)
  refine (reads_next_end form rest).bind ?_
  simp only [bare]
  exact .pure _ _

theorem reads_content (found : form.variants.find? (fun other => other.tag = name) = some variant)
    (different : form.contentName ≠ form.tagName) {text : Bytes}
    (content : Reads (variant.content.ofText depth) (text ++ 0x7D :: rest) value (0x7D :: rest)) :
    Reads (form.read (depth + 1))
      (writeObject [writeMember form.tagName (writeString name),
        writeMember form.contentName text] ++ rest)
      value rest := by
  have tag : [form.tagName, form.contentName].contains form.tagName = true := by simp
  have own : [form.tagName, form.contentName].contains form.contentName = true := by simp
  rw [writeObject_append, joinWith_cons, List.flatMap_cons, List.flatMap_nil, List.append_nil,
    List.append_assoc, List.cons_append, writeMember_append, writeMember_append]
  refine .placed ((reads_firstOfValue _ (by decide)).bind ?_)
  refine reads_readContainer rest ?_ (reads_closeObject rest)
  refine (reads_next_first tag _).bind ((reads_takeColon _).bind ?_)
  rw [if_pos rfl]
  refine (reads_readTag (contains_tags found) _).bind ((reads_variant found _).bind ?_)
  refine (reads_next_later own _).bind ?_
  simp only [different, if_false]
  refine (reads_takeColon _).bind (content.bind ?_)
  exact (reads_next_end form rest).bind (.pure _ _)

end Adjacent

namespace Internal

variable {form : Internal α} {tag : String} {member : String × Value} {value : α}

theorem reads_field (known : form.tags.contains tag = true) (different : member.1 ≠ form.tagName)
    (fits : member.2.Fits depth) (taken : form.take tag (.object [member]) = .ok value)
    (rest : Bytes) :
    Reads (form.read (depth + 1))
      (writeObject [writeMember form.tagName (writeString tag), Value.writePair member] ++ rest)
      value rest := by
  obtain ⟨name, content⟩ := member
  have gathered : Reads (form.gatherAll (depth + 1))
      (writeObject [writeMember form.tagName (writeString tag), Value.writePair (name, content)] ++
        rest) (tag, .object [(name, content)]) rest := by
    rw [writeObject_append, joinWith_cons, List.flatMap_cons, List.flatMap_nil, List.append_nil,
      List.append_assoc, List.cons_append, Value.writePair, writeMember_append, writeMember_append]
    refine .placed ((reads_firstOfValue _ (by decide)).bind ?_)
    refine reads_readContainer rest ?_ (reads_closeObject rest)
    refine Reads.budget (fun steps enough => ?_)
    obtain ⟨steps, rfl⟩ : ∃ more, steps = more + 3 := by
      simp only [List.length_cons, List.length_append] at enough
      exact ⟨steps - 3, by omega⟩
    refine (reads_nextName_first _).bind ((reads_readText _ _).bind ?_)
    rw [if_pos rfl]
    refine (reads_takeColon _).bind ((reads_readKnown known _).bind ?_)
    refine (reads_nextName_later _).bind ((reads_readText _ _).bind ?_)
    rw [if_neg different]
    refine (reads_takeColon _).bind ((reads_readTree fits (ends_brace rest)).bind ?_)
    exact (reads_nextName_end rest false).bind (.pure _ _)
  refine gathered.bind ?_
  simp only [taken]
  exact .ofResult _ _

end Internal

namespace Fields

variable {γ σ : Type} {fields : Fields γ σ} {slots filled : σ} {name : String} {text middle : Bytes}
  {steps : Nat} {record : γ}

theorem reads_here {field : Field α} {value : α} (same : name = field.name)
    (reads : Reads (field.shape.ofText depth) text value rest) :
    Reads ((Fields.cons field fields).fillFromText depth name (none, slots)) (0x3A :: text)
      (some value, slots) rest := by
  unfold fillFromText
  rw [if_pos same]
  exact (reads_takeColon _).bind (reads.bind (.pure _ _))

theorem reads_there {field : Field α} {slot : Option α} (other : name ≠ field.name)
    (reads : Reads (fields.fillFromText depth name slots) text filled rest) :
    Reads ((Fields.cons field fields).fillFromText depth name (slot, slots)) text (slot, filled)
      rest := by
  rw [fillFromText, if_neg other]
  exact reads.bind (.pure _ _)

theorem reads_first (fill : Reads (fields.fillFromText depth name slots) text filled middle)
    (later : Reads (fields.readObject depth steps false filled) middle record rest) :
    Reads (fields.readObject depth (steps + 1) true slots)
      (0x22 :: ((Bytes.ofString name).flatMap escapeByte ++ 0x22 :: text)) record rest :=
  (reads_nextName_first _).bind ((reads_readText name text).bind (fill.bind later))

theorem reads_later (fill : Reads (fields.fillFromText depth name slots) text filled middle)
    (later : Reads (fields.readObject depth steps false filled) middle record rest) :
    Reads (fields.readObject depth (steps + 1) false slots)
      (0x2C :: 0x22 :: ((Bytes.ofString name).flatMap escapeByte ++ 0x22 :: text)) record rest :=
  (reads_nextName_later _).bind ((reads_readText name text).bind (fill.bind later))

theorem reads_end (complete : fields.complete slots = .ok record) (rest : Bytes) :
    Reads (fields.readObject depth (steps + 1) false slots) (0x7D :: rest) record
      (0x7D :: rest) := by
  refine (reads_nextName_end rest false).bind ?_
  rw [complete]
  exact .ofResult _ _

end Fields

def Field.Finds (field : Field α) (members : List (String × Value)) (value : α) : Prop :=
  match members.lookup field.name with
  | some found => field.shape.ofTree found = .ok value
  | none => field.absent = some value

section Finding

variable {field : Field α} {members : List (String × Value)} {value : α}

theorem Field.finds_of_some {found : Value} (there : members.lookup field.name = some found)
    (taken : field.shape.ofTree found = .ok value) : field.Finds members value := by
  rw [Finds, there]
  exact taken

theorem Field.finds_of_none (absent : members.lookup field.name = none)
    (given : field.absent = some value) : field.Finds members value := by
  rw [Finds, absent]
  exact given

end Finding

namespace Fields

def names {γ σ : Type} : Fields γ σ → List String
  | .nil => []
  | .cons field rest => field.name :: rest.names

/-- What the fields find among members when some of their slots were filled before. -/
def Finds {γ σ : Type} (members : List (String × Value)) : Fields γ σ → σ → γ → Prop
  | .nil, _, _ => True
  | .cons field rest, (slot, slots), (value, record) =>
    (slot = some value ∧ members.lookup field.name = none ∨
      slot = none ∧ field.Finds members value) ∧ rest.Finds members slots record

section Trees

variable {γ σ : Type} {name : String} {value : Value} {members : List (String × Value)}

theorem finds_nil : Fields.nil.Finds members () () :=
  trivial

theorem finds_cons_iff {field : Field α} {fields : Fields γ σ} {slots : σ} {first : α} {record : γ} :
    (Fields.cons field fields).Finds members (none, slots) (first, record) ↔
      field.Finds members first ∧ fields.Finds members slots record := by
  simp [Finds]

theorem finds_cons {field : Field α} {fields : Fields γ σ} {slots : σ} {first : α} {record : γ}
    (found : field.Finds members first) (rest : fields.Finds members slots record) :
    (Fields.cons field fields).Finds members (none, slots) (first, record) :=
  finds_cons_iff.mpr ⟨found, rest⟩

theorem complete_of_finds {fields : Fields γ σ} {slots : σ} {record : γ}
    (finds : fields.Finds [] slots record) : fields.complete slots = .ok record := by
  induction fields with
  | nil => rfl
  | cons field rest ih =>
    obtain ⟨slot, slots⟩ := slots
    obtain ⟨value, record⟩ := record
    obtain ⟨first, finds⟩ := finds
    have filled : slot.or field.absent = some value := by
      rcases first with ⟨rfl, -⟩ | ⟨rfl, found⟩
      · rfl
      · exact found
    simp only [complete, filled, ih finds]
    rfl

theorem finds_of_complete {fields : Fields γ σ} {slots : σ} {record : γ}
    (completed : fields.complete slots = .ok record) : fields.Finds [] slots record := by
  induction fields with
  | nil => trivial
  | cons field rest ih =>
    obtain ⟨slot, slots⟩ := slots
    simp only [complete] at completed
    split at completed
    next first filled =>
      cases others : rest.complete slots with
      | error => rw [others] at completed; cases completed
      | ok record =>
        rw [others] at completed
        cases completed
        refine ⟨?_, ih others⟩
        cases slot with
        | none => exact .inr ⟨rfl, filled⟩
        | some _ => exact .inl ⟨filled, rfl⟩
    next => cases completed

theorem finds_tail_iff {fields : Fields γ σ} {slots : σ} {record : γ} (other : name ∉ fields.names) :
    fields.Finds ((name, value) :: members) slots record ↔ fields.Finds members slots record := by
  -- A member that no field is named for makes no difference to what the fields find.
  induction fields with
  | nil => exact iff_of_true trivial trivial
  | cons field rest ih =>
    obtain ⟨slot, slots⟩ := slots
    obtain ⟨first, record⟩ := record
    obtain ⟨different, other⟩ := not_or.mp (mt List.mem_cons.mpr other)
    have same : ((name, value) :: members).lookup field.name = members.lookup field.name := by
      rw [lookup_cons_ite, if_neg (Ne.symm different)]
    rw [Finds, Finds, Field.Finds, Field.Finds, same, ih other]

theorem fillFromTree_of_finds {fields : Fields γ σ} {slots : σ} {record : γ}
    (distinct : fields.names.Nodup) (absent : members.lookup name = none)
    (finds : fields.Finds ((name, value) :: members) slots record) :
    ∃ filled, fields.fillFromTree name value slots = .ok filled ∧
      fields.Finds members filled record := by
  induction fields with
  | nil => exact ⟨slots, rfl, trivial⟩
  | cons field rest ih =>
    obtain ⟨slot, slots⟩ := slots
    obtain ⟨first, record⟩ := record
    obtain ⟨apart, distinct⟩ := List.nodup_cons.mp distinct
    obtain ⟨found, finds⟩ := finds
    by_cases own : name = field.name
    · subst own
      have there : ((field.name, value) :: members).lookup field.name = some value := by
        rw [lookup_cons_ite, if_pos rfl]
      rcases found with ⟨-, nothing⟩ | ⟨rfl, taken⟩
      · cases there.symm.trans nothing
      · rw [Field.Finds, there] at taken
        refine ⟨(some first, slots), ?_, .inl ⟨rfl, absent⟩, (finds_tail_iff apart).mp finds⟩
        simp only [fillFromTree, if_true, Option.isSome_none, Bool.false_eq_true, if_false, taken]
        rfl
    · have same : ((name, value) :: members).lookup field.name = members.lookup field.name := by
        rw [lookup_cons_ite, if_neg (Ne.symm own)]
      rw [Field.Finds, same] at found
      obtain ⟨filled, fills, finds⟩ := ih distinct finds
      refine ⟨(slot, filled), ?_, found, finds⟩
      simp only [fillFromTree, own, if_false, fills]
      rfl

theorem finds_of_fillFromTree {fields : Fields γ σ} {slots filled : σ} {record : γ}
    (distinct : fields.names.Nodup) (absent : members.lookup name = none)
    (fills : fields.fillFromTree name value slots = .ok filled)
    (finds : fields.Finds members filled record) :
    fields.Finds ((name, value) :: members) slots record := by
  induction fields with
  | nil => trivial
  | cons field rest ih =>
    obtain ⟨slot, slots⟩ := slots
    obtain ⟨first, record⟩ := record
    obtain ⟨apart, distinct⟩ := List.nodup_cons.mp distinct
    rw [fillFromTree] at fills
    split at fills
    next own =>
      subst own
      cases slot with
      | some _ => cases fills
      | none =>
        cases taken : field.shape.ofTree value with
        | error => rw [taken] at fills; cases fills
        | ok found =>
          rw [taken] at fills
          cases fills
          obtain ⟨⟨here, -⟩ | ⟨none, -⟩, finds⟩ := finds
          · cases here
            refine ⟨.inr ⟨rfl, ?_⟩, (finds_tail_iff apart).mpr finds⟩
            exact Field.finds_of_some (by rw [lookup_cons_ite, if_pos rfl]) taken
          · cases none
    next own =>
      have same : ((name, value) :: members).lookup field.name = members.lookup field.name := by
        rw [lookup_cons_ite, if_neg (Ne.symm own)]
      cases others : rest.fillFromTree name value slots with
      | error => rw [others] at fills; cases fills
      | ok filled =>
        rw [others] at fills
        cases fills
        obtain ⟨found, finds⟩ := finds
        rw [Finds, Field.Finds, same]
        exact ⟨found, ih distinct others finds⟩

theorem takeMembers_of_finds {fields : Fields γ σ} {slots : σ} {record : γ}
    (distinct : fields.names.Nodup) (nodup : (members.map Prod.fst).Nodup)
    (finds : fields.Finds members slots record) :
    fields.takeMembers members slots = .ok record := by
  -- On the members: each fills at most one slot, and the rest finds what it found before.
  induction members generalizing slots with
  | nil => exact complete_of_finds finds
  | cons member rest ih =>
    obtain ⟨name, value⟩ := member
    have absent := lookup_eq_none_of_nodup nodup
    obtain ⟨filled, fills, finds⟩ := fillFromTree_of_finds distinct absent finds
    rw [takeMembers, fills]
    exact ih (List.nodup_cons.mp nodup).2 finds

theorem finds_of_takeMembers {fields : Fields γ σ} {slots : σ} {record : γ}
    (distinct : fields.names.Nodup) (nodup : (members.map Prod.fst).Nodup)
    (taken : fields.takeMembers members slots = .ok record) : fields.Finds members slots record := by
  induction members generalizing slots with
  | nil => exact finds_of_complete taken
  | cons member rest ih =>
    obtain ⟨name, value⟩ := member
    rw [takeMembers] at taken
    cases fills : fields.fillFromTree name value slots with
    | error => rw [fills] at taken; cases taken
    | ok filled =>
      rw [fills] at taken
      exact finds_of_fillFromTree distinct (lookup_eq_none_of_nodup nodup) fills
        (ih (List.nodup_cons.mp nodup).2 taken)

end Trees

end Fields

section Records

variable {γ σ : Type} {shape : Shape α} {tree : Value}

theorem Shape.ofTree_map {value : α} (taken : shape.ofTree tree = .ok value) (change : α → β) :
    (shape.map change).ofTree tree = .ok (change value) := by
  simp only [map, taken]
  rfl

theorem Shape.ofTree_record {fields : Fields γ σ} {members : List (String × Value)} {record : γ}
    (expected : String) (finds : fields.Finds members fields.emptySlots record)
    (distinct : fields.names.Nodup) (nodup : (members.map Prod.fst).Nodup) :
    (Shape.record expected fields).ofTree (.object members) = .ok record :=
  Fields.takeMembers_of_finds distinct nodup finds

theorem Shape.ofTree_record_iff {fields : Fields γ σ} {members : List (String × Value)} {record : γ}
    (expected : String) (distinct : fields.names.Nodup) (nodup : (members.map Prod.fst).Nodup) :
    (Shape.record expected fields).ofTree (.object members) = .ok record ↔
      fields.Finds members fields.emptySlots record :=
  ⟨Fields.finds_of_takeMembers distinct nodup,
    fun finds => Shape.ofTree_record expected finds distinct nodup⟩

end Records

end LedgerNode.Json
