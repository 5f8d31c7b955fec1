import LedgerNode.Proofs.Failure
import LedgerNode.Proofs.Json.Reading
import Mathlib.Data.List.Forall2

set_option autoImplicit false

namespace LedgerNode.Json

variable {α β γ δ : Type}

namespace Reader

/-- Where a reader succeeds, a plainer one takes the same bytes and comes to a related value. -/
def Refines (reader : Reader α) (plain : Reader β) (made : β → α → Prop) : Prop :=
  ∀ (cursor after : Cursor) (value : α), reader cursor = .ok value after →
    ∃ source, plain cursor = .ok source after ∧ made source value

section Rules

variable {reader : Reader α} {plain : Reader β} {made : β → α → Prop}

theorem refines_self (reader : Reader α) : Refines reader reader Eq :=
  fun _ _ value read => ⟨value, read, rfl⟩

theorem refines_pure {value : α} {source : β} (holds : made source value) :
    Refines (pure value) (pure source) made := by
  intro cursor after found read
  obtain ⟨rfl, rfl⟩ := pure_eq_ok.mp read
  exact ⟨source, rfl, holds⟩

theorem refines_throw (fault : Fault) (plain : Reader β) : Refines (throw fault) plain made := by
  intro cursor after value read
  cases read

theorem Refines.bind {next : α → Reader γ} {plainNext : β → Reader δ} {result : δ → γ → Prop}
    (first : Refines reader plain made)
    (second : ∀ source value, made source value → Refines (next value) (plainNext source) result) :
    Refines (reader >>= next) (plain >>= plainNext) result := by
  intro cursor after value read
  obtain ⟨found, middle, here, there⟩ := bind_eq_ok.mp read
  obtain ⟨source, taken, holds⟩ := first cursor middle found here
  obtain ⟨last, finished, related⟩ := second source found holds middle after value there
  exact ⟨last, bind_eq_ok.mpr ⟨source, middle, taken, finished⟩, related⟩

theorem refines_next {next : γ → Reader α} {plainNext : γ → Reader β} (shared : Reader γ)
    (second : ∀ value, Refines (next value) (plainNext value) made) :
    Refines (shared >>= next) (shared >>= plainNext) made :=
  (refines_self shared).bind fun source _ same => same ▸ second source

theorem Refines.map {change : α → γ} {plainChange : β → δ} {result : δ → γ → Prop}
    (first : Refines reader plain made)
    (second : ∀ source value, made source value → result (plainChange source) (change value)) :
    Refines (change <$> reader) (plainChange <$> plain) result := by
  rw [map_eq_pure_bind, map_eq_pure_bind]
  exact first.bind fun source value holds => refines_pure (second source value holds)

theorem Refines.caught {handler : Fault → Reader α} (first : Refines reader plain made)
    (fails : ∀ fault cursor after value, handler fault cursor ≠ .ok value after)
    (plainHandler : Fault → Reader β) :
    Refines (tryCatch reader handler) (tryCatch plain plainHandler) made := by
  -- A handler that fails itself has no part in a success.
  intro cursor after value read
  change EStateM.tryCatch reader handler cursor = _ at read
  delta EStateM.tryCatch at read
  cases here : reader cursor with
  | ok found middle =>
    simp only [here] at read
    cases read
    obtain ⟨source, taken, holds⟩ := first cursor after value here
    exact ⟨source, tryCatch_of_ok taken, holds⟩
  | error fault middle =>
    simp only [here] at read
    exact absurd read (fails _ _ _ _)

theorem Refines.placed (first : Refines reader plain made) : Refines reader.placed plain.placed made := by
  refine first.caught (fun fault cursor after value read => ?_) _
  cases read

theorem Refines.closedBy (first : Refines reader plain made) (close : Reader Unit) :
    Refines (closedBy reader close) (closedBy plain close) made := by
  refine Refines.placed (Refines.bind (first.caught (fun fault cursor after value read => ?_) _)
    fun source value holds => refines_next close fun _ => refines_pure holds)
  obtain ⟨_, _, -, thrown⟩ := bind_eq_ok.mp read
  cases thrown

theorem refines_readContainer {content : Depth → Reader α} {plainContent : Depth → Reader β}
    (each : ∀ depth, Refines (content depth) (plainContent depth) made) (depth : Depth)
    (close : Reader Unit) :
    Refines (readContainer depth content close) (readContainer depth plainContent close) made := by
  cases depth with
  | zero => exact refines_next _ fun _ => refines_throw _ _
  | succ depth => exact refines_next _ fun _ => (each depth).closedBy close

theorem refines_readItems (each : Refines reader plain made) (steps : Nat) (isFirst : Bool)
    {gathered : List α} {sources : List β} (sofar : List.Forall₂ made sources gathered) :
    Refines (readItems reader steps isFirst gathered) (readItems plain steps isFirst sources)
      (List.Forall₂ made) := by
  induction steps generalizing isFirst gathered sources with
  | zero => exact refines_pure (List.rel_reverse sofar)
  | succ steps ih =>
    refine refines_next _ fun more => ?_
    cases more with
    | true => exact each.bind fun source value holds => ih false (.cons holds sofar)
    | false => exact refines_pure (List.rel_reverse sofar)

def finished (value : α) : Reader α := do
  match ← peekToken with
  | none => return value
  | some _ => malformedNext .trailingCharacters

theorem run_eq_ok_iff {text : Bytes} {value : α} :
    reader.run text = .ok value ↔
      ∃ after, (reader >>= finished) (Cursor.start text) = .ok value after := by
  unfold Reader.run
  simp only
  split
  next found after whole =>
    constructor
    · intro same
      cases same
      exact ⟨after, whole⟩
    · rintro ⟨_, read⟩
      cases whole.symm.trans read
      rfl
  next whole =>
    constructor
    · intro same
      cases same
    · rintro ⟨_, read⟩
      cases whole.symm.trans read

theorem Refines.run (first : Refines reader plain made) {text : Bytes} {value : α}
    (read : reader.run text = .ok value) : ∃ source, plain.run text = .ok source ∧ made source value := by
  have whole : Refines (reader >>= finished) (plain >>= finished) made := by
    refine first.bind fun source value holds => refines_next _ fun token => ?_
    cases token with
    | none => exact refines_pure holds
    | some byte => exact refines_next _ fun _ => refines_throw _ _
  obtain ⟨after, read⟩ := run_eq_ok_iff.mp read
  obtain ⟨source, taken, holds⟩ := whole _ _ _ read
  exact ⟨source, run_eq_ok_iff.mpr ⟨after, taken⟩, holds⟩

end Rules

end Reader

open Reader

namespace Shape

def Refines (shape : Shape α) (plain : Shape β) (made : β → α → Prop) : Prop :=
  ∀ depth, Reader.Refines (shape.ofText depth) (plain.ofText depth) made

variable {shape : Shape α} {plain : Shape β} {made : β → α → Prop}

theorem refines_self (shape : Shape α) : shape.Refines shape Eq :=
  fun _ => Reader.refines_self _

theorem refines_refine (plain : Shape β) (check : β → Except String α) :
    (plain.refine check).Refines plain (fun source value => check source = .ok value) := by
  intro depth cursor after value read
  obtain ⟨source, middle, taken, checked⟩ := bind_eq_ok.mp read
  cases passes : check source with
  | error =>
    rw [passes] at checked
    cases checked
  | ok found =>
    rw [passes] at checked
    obtain ⟨rfl, rfl⟩ := pure_eq_ok.mp checked
    exact ⟨source, taken, passes⟩

theorem run_refine_iff {check : β → Except String α} {depth : Depth} {text : Bytes} {value : α} :
    ((plain.refine check).ofText depth).run text = .ok value ↔
      ∃ source, (plain.ofText depth).run text = .ok source ∧ check source = .ok value := by
  refine ⟨(refines_refine plain check depth).run, ?_⟩
  rintro ⟨source, read, passes⟩
  obtain ⟨after, read⟩ := run_eq_ok_iff.mp read
  obtain ⟨found, middle, taken, ended⟩ := bind_eq_ok.mp read
  obtain ⟨token, last, peeked, ended⟩ := bind_eq_ok.mp ended
  cases token with
  | some byte => cases ended
  | none =>
    obtain ⟨rfl, rfl⟩ := pure_eq_ok.mp ended
    have checked : (plain.refine check).ofText depth (Cursor.start text) = .ok value middle := by
      refine bind_eq_ok.mpr ⟨found, middle, taken, ?_⟩
      rw [passes]
      rfl
    refine run_eq_ok_iff.mpr ⟨last, bind_eq_ok.mpr ⟨value, middle, checked, ?_⟩⟩
    exact bind_eq_ok.mpr ⟨none, last, peeked, rfl⟩

theorem run_refine_refused {check : β → Except String α} {depth : Depth} {text rest : Bytes} {source : β}
    {reason : String} (reads : Reads (plain.ofText depth) text source rest)
    (fails : check source = .error reason) :
    ((plain.refine check).ofText depth).run text =
      .error { cause := .mismatch (.refused reason), position := none } := by
  obtain ⟨after, taken, -⟩ := reads (Cursor.start text) rfl
  have refused : (plain.refine check).ofText depth (Cursor.start text) =
      .error { cause := .mismatch (.refused reason), position := none } after := by
    refine (bind_of_ok taken).trans ?_
    rw [fails]
    rfl
  exact run_of_error refused

theorem Refines.map {change : α → γ} {plainChange : β → δ} {result : δ → γ → Prop}
    (refines : shape.Refines plain made)
    (each : ∀ source value, made source value → result (plainChange source) (change value)) :
    (shape.map change).Refines (plain.map plainChange) result :=
  fun depth => (refines depth).map each

theorem refines_map_plain (shape : Shape α) (change : α → β) :
    shape.Refines (shape.map change) (fun source value => source = change value) := by
  intro depth cursor after value read
  refine ⟨change value, ?_, rfl⟩
  change (change <$> shape.ofText depth) cursor = _
  rw [map_eq_pure_bind]
  exact bind_eq_ok.mpr ⟨value, after, read, rfl⟩

theorem unexpected_ne_ok {first : UInt8} {expected : String} {cursor after : Cursor} {value : α} :
    unexpected first expected cursor ≠ .ok value after := by
  intro read
  unfold unexpected at read
  split at read
  next => cases read
  next => cases read
  next =>
    obtain ⟨_, _, -, thrown⟩ := bind_eq_ok.mp read
    cases thrown

theorem refines_unexpected (first : UInt8) (expected : String) (plain : Reader β) :
    Reader.Refines (unexpected first expected) plain made :=
  fun _ _ _ read => absurd read unexpected_ne_ok

theorem Refines.listOf (refines : shape.Refines plain made) :
    (listOf shape).Refines (listOf plain) (List.Forall₂ made) := by
  intro depth
  refine Reader.Refines.placed (refines_next _ fun first => ?_)
  split
  next =>
    refine refines_readContainer (fun depth => ?_) depth _
    exact refines_next _ fun steps => refines_readItems (refines depth) steps true .nil
  next => exact refines_unexpected _ _ _

end Shape

structure Field.Refines (field : Field α) (plain : Field β) (made : β → α → Prop) : Prop where
  name : field.name = plain.name
  shape : field.shape.Refines plain.shape made
  absent : Option.Rel made plain.absent field.absent
  beyond : Option.Rel made plain.beyond field.beyond

theorem Field.refines_required (name : String) {shape : Shape α} {plain : Shape β} {made : β → α → Prop}
    (refines : shape.Refines plain made) :
    (Field.required name shape).Refines (Field.required name plain) made :=
  ⟨rfl, refines, .none, .none⟩

theorem Field.refines_withDefault (name : String) {shape : Shape α} {plain : Shape β} {made : β → α → Prop}
    {value : α} {source : β} (refines : shape.Refines plain made) (same : made source value) :
    (Field.withDefault name shape value).Refines (Field.withDefault name plain source) made :=
  ⟨rfl, refines, .some same, .some same⟩

namespace Fields

inductive Refines : {γ δ σ τ : Type} → Fields γ σ → Fields δ τ → (δ → γ → Prop) → (τ → σ → Prop) →
    Prop where
  | nil : Refines .nil .nil (fun _ _ => True) (fun _ _ => True)
  | cons {α β γ δ σ τ : Type} {field : Field α} {plain : Field β} {rest : Fields γ σ}
      {plainRest : Fields δ τ} {made : β → α → Prop} {others : δ → γ → Prop} {slots : τ → σ → Prop}
      (first : field.Refines plain made) (more : Refines rest plainRest others slots) :
      Refines (.cons field rest) (.cons plain plainRest)
        (fun source record => made source.1 record.1 ∧ others source.2 record.2)
        (fun source filled => Option.Rel made source.1 filled.1 ∧ slots source.2 filled.2)

section Records

variable {σ τ : Type} {fields : Fields γ σ} {plain : Fields δ τ} {made : δ → γ → Prop}
  {slots : τ → σ → Prop}

theorem Refines.count (refines : Refines fields plain made slots) : fields.count = plain.count := by
  induction refines with
  | nil => rfl
  | cons _ _ ih => simp only [Fields.count, ih]

theorem Refines.emptySlots (refines : Refines fields plain made slots) :
    slots plain.emptySlots fields.emptySlots := by
  induction refines with
  | nil => trivial
  | cons _ _ ih => exact ⟨.none, ih⟩

theorem rel_or {made : β → α → Prop} {first second : Option β} {filled absent : Option α}
    (here : Option.Rel made first filled) (otherwise : Option.Rel made second absent) :
    Option.Rel made (first.or second) (filled.or absent) := by
  cases here with
  | none => exact otherwise
  | some holds => exact .some holds

theorem Refines.complete (refines : Refines fields plain made slots) {filled : σ} {sources : τ}
    {record : γ} (same : slots sources filled) (done : fields.complete filled = .ok record) :
    ∃ source, plain.complete sources = .ok source ∧ made source record := by
  induction refines with
  | nil => exact ⟨(), rfl, trivial⟩
  | cons first more ih =>
    obtain ⟨slot, filled⟩ := filled
    obtain ⟨source, sources⟩ := sources
    obtain ⟨here, later⟩ := same
    have given := rel_or here first.absent
    rw [Fields.complete] at done ⊢
    revert given done
    generalize slot.or _ = value
    generalize source.or _ = original
    intro done given
    cases given with
    | none => cases done
    | some holds =>
      obtain ⟨rest, completed, done⟩ := bind_eq_ok_iff.mp done
      cases done
      obtain ⟨others, completed, related⟩ := ih later completed
      exact ⟨_, bind_eq_ok_iff.mpr ⟨others, completed, rfl⟩, holds, related⟩

theorem Refines.fillFromText (refines : Refines fields plain made slots) (depth : Depth) (name : String)
    {filled : σ} {sources : τ} (same : slots sources filled) :
    Reader.Refines (fields.fillFromText depth name filled) (plain.fillFromText depth name sources)
      slots := by
  induction refines with
  | nil => exact refines_next _ fun _ => refines_next _ fun _ => refines_pure trivial
  | cons first more ih =>
    obtain ⟨slot, filled⟩ := filled
    obtain ⟨source, sources⟩ := sources
    obtain ⟨here, later⟩ := same
    unfold Fields.fillFromText
    rw [first.name]
    split
    next =>
      cases here with
      | some => exact refines_throw _ _
      | none =>
        refine refines_next _ fun _ => (first.shape depth).bind fun source value holds => ?_
        exact refines_pure ⟨.some holds, later⟩
    next => exact (ih later).bind fun source value holds => refines_pure ⟨here, holds⟩

theorem refines_ofResult {result : Except Mismatch α} {plain : Except Mismatch β} {made : β → α → Prop}
    (each : ∀ value, result = .ok value → ∃ source, plain = .ok source ∧ made source value) :
    Reader.Refines (ofResult result) (ofResult plain) made := by
  cases result with
  | error => exact refines_throw _ _
  | ok value =>
    obtain ⟨source, rfl, holds⟩ := each value rfl
    exact refines_pure holds

theorem Refines.readObject (refines : Refines fields plain made slots) (depth : Depth) (steps : Nat)
    (isFirst : Bool) {filled : σ} {sources : τ} (same : slots sources filled) :
    Reader.Refines (fields.readObject depth steps isFirst filled)
      (plain.readObject depth steps isFirst sources) made := by
  induction steps generalizing isFirst filled sources with
  | zero => exact refines_ofResult fun record done => refines.complete same done
  | succ steps ih =>
    refine refines_next _ fun more => ?_
    cases more with
    | true =>
      refine refines_next _ fun name => ?_
      exact (refines.fillFromText depth name same).bind fun source value holds => ih false holds
    | false => exact refines_ofResult fun record done => refines.complete same done

theorem Refines.readList (refines : Refines fields plain made slots) (expected : String) (depth : Depth)
    (index : Nat) :
    Reader.Refines (fields.readList expected depth index) (plain.readList expected depth index)
      made := by
  induction refines generalizing index with
  | nil => exact refines_pure trivial
  | cons first more ih =>
    refine refines_next _ fun another => ?_
    cases another with
    | true =>
      refine (first.shape depth).bind fun source value holds => ?_
      exact (ih (index + 1)).bind fun others record related => refines_pure ⟨holds, related⟩
    | false =>
      -- The list has ended, and only fields with a value of their own are left.
      have given := first.beyond
      simp only [Bool.false_eq_true, if_false]
      generalize Field.beyond _ = value at given ⊢
      generalize Field.beyond _ = source at given ⊢
      cases given with
      | none => exact refines_throw _ _
      | some holds =>
        exact (ih (index + 1)).bind fun others record related => refines_pure ⟨holds, related⟩

end Records

end Fields

theorem Shape.refines_record {σ τ : Type} {fields : Fields γ σ} {plain : Fields δ τ}
    {made : δ → γ → Prop} {slots : τ → σ → Prop} (expected : String)
    (refines : Fields.Refines fields plain made slots) :
    (Shape.record expected fields).Refines (Shape.record expected plain) made := by
  intro depth
  have whole : fields.count = plain.count := refines.count
  refine Reader.Refines.placed (refines_next _ fun first => ?_)
  split
  next =>
    refine refines_readContainer (fun depth => ?_) depth _
    rw [whole]
    exact refines.readList _ depth 0
  next =>
    refine refines_readContainer (fun depth => ?_) depth _
    exact refines_next _ fun steps => refines.readObject depth steps true refines.emptySlots
  next => exact Shape.refines_unexpected _ _ _

end LedgerNode.Json
