import LedgerNode.Proofs.Json.Normal
import LedgerNode.Proofs.Json.Trees

set_option autoImplicit false

namespace LedgerNode.Json

inductive Value.Sound : Value → Prop where
  | null : Sound .null
  | boolean (value : Bool) : Sound (.boolean value)
  | number {numeral : Number} (sound : numeral.Sound) : Sound (.number numeral)
  | string (text : String) : Sound (.string text)
  | array {items : List Value} (each : ∀ item ∈ items, Sound item) : Sound (.array items)
  | object {members : List (String × Value)} (each : ∀ member ∈ members, Sound member.2) :
      Sound (.object members)

namespace Reader

variable {α β : Type}

def Yields (property : α → Prop) (reader : Reader α) : Prop :=
  ∀ (cursor after : Cursor) (value : α), reader cursor = .ok value after → property value

section Rules

variable {property : α → Prop} {result : β → Prop} {reader : Reader α} {further : α → Reader β}
  {value : α}

theorem Yields.bind (first : Yields property reader)
    (second : ∀ value, property value → Yields result (further value)) :
    Yields result (reader >>= further) := by
  intro cursor after value read
  obtain ⟨found, middle, read, rest⟩ := bind_eq_ok.mp read
  exact second found (first cursor middle found read) middle after value rest

theorem Yields.next (second : ∀ value, Yields result (further value)) :
    Yields result (reader >>= further) := by
  have first : Yields (fun _ => True) reader := fun _ _ _ _ => trivial
  exact first.bind (fun value _ => second value)

theorem Yields.pure (holds : property value) : Yields property (pure value) := by
  intro cursor after found read
  exact (pure_eq_ok.mp read).1 ▸ holds

theorem Yields.throw (fault : Fault) : Yields property (throw fault) := by
  intro cursor after found read
  cases read

theorem Yields.malformed (fault : Malformed) : Yields property (malformed fault) :=
  .next (fun _ => .throw _)

theorem Yields.malformedNext (fault : Malformed) : Yields property (malformedNext fault) :=
  .next (fun _ => .throw _)

end Rules

section Numbers

variable (negative : Bool) (decimal : Scaled)

theorem yields_toFloat : Yields Binary64.Finite (toFloat negative decimal) := by
  unfold toFloat
  split
  next scaled => exact .pure (Scaled.finite_of_toFloat scaled)
  next => exact .malformed _

theorem yields_readExponent : Yields Binary64.Finite (readExponent negative decimal) := by
  unfold readExponent
  refine .next (fun _ => .next (fun _ => ?_))
  extract_lets signed
  have digits (raises : Bool) : Yields Binary64.Finite (signed raises) := by
    refine .next (fun byte => ?_)
    cases byte with
    | none => exact .malformed _
    | some byte =>
      dsimp only
      split
      next =>
        refine .next (fun _ => .next (fun exponent => ?_))
        cases exponent with
        | some exponent => exact yields_toFloat negative _
        | none =>
          dsimp only
          -- An exponent that is too large is no fault of a zero or of a number that it makes a zero.
          split
          next => exact .malformed _
          next => exact .next (fun _ => .next (fun _ => .pure (Binary64.finite_zero negative)))
      next => exact .malformed _
  split
  next => exact .next (fun _ => .next digits)
  next => exact .next (fun _ => .next digits)
  next => exact .next digits

theorem yields_readFloatEnd : Yields Binary64.Finite (readFloatEnd negative decimal) := by
  refine .next (fun byte => ?_)
  split
  next => exact yields_readExponent negative decimal
  next => exact yields_readExponent negative decimal
  next => exact yields_toFloat negative decimal

theorem yields_readFraction : Yields Binary64.Finite (readFraction negative decimal) := by
  refine .next (fun _ => .next (fun _ => .next (fun taken => .next (fun more => ?_))))
  obtain ⟨significand, count⟩ := taken
  dsimp only
  split
  next => exact .next (fun _ => .next (fun _ => yields_readFloatEnd negative _))
  next =>
    split
    next =>
      refine .next (fun byte => ?_)
      cases byte <;> exact .malformedNext _
    next => exact yields_readFloatEnd negative _

theorem sound_integerNumber {value : Nat} (word : value < UInt64.size) :
    (integerNumber negative value).Sound := by
  rw [UInt64.size] at word
  unfold integerNumber
  split
  next => exact ⟨by omega, by omega⟩
  next =>
    split
    next =>
      have finite : ((Binary64.ofNat value).getD (Binary64.zero false)).Finite := by
        cases rounds : Binary64.ofNat value with
        | some number => exact Binary64.finite_ofNat rounds
        | none => exact Binary64.finite_zero false
      exact ⟨finite.significand, finite.least, finite.most⟩
    next small =>
      simp only [Bool.or_eq_true, decide_eq_true_eq, not_or] at small
      rw [signedLimit] at small
      exact ⟨by omega, by omega⟩

theorem yields_readNumberEnd {significand : Nat} (word : significand < UInt64.size) :
    Yields Number.Sound (readNumberEnd negative significand) := by
  refine .next (fun byte => ?_)
  split
  next => exact .bind (yields_readFraction negative _) (fun _ finite => .pure finite)
  next => exact .bind (yields_readExponent negative _) (fun _ finite => .pure finite)
  next => exact .bind (yields_readExponent negative _) (fun _ finite => .pure finite)
  next => exact .pure (sound_integerNumber negative word)

theorem yields_takeDigits (steps count : Nat) {value : Nat} (word : value < UInt64.size) :
    Yields (fun taken => taken.1 < UInt64.size) (takeDigits steps value count) := by
  induction steps generalizing value count with
  | zero => exact .pure word
  | succ steps ih =>
    refine .next (fun byte => ?_)
    cases byte with
    | none => exact .pure word
    | some byte =>
      dsimp only
      split
      next fits =>
        have fits : value * 10 + digitValue byte < UInt64.size := by
          simp only [Bool.and_eq_true, decide_eq_true_eq] at fits
          exact fits.2
        exact .next (fun _ => ih (count + 1) fits)
      next => exact .pure word

theorem yields_readNumber : Yields Number.Sound (readNumber negative) := by
  refine .next (fun byte => ?_)
  split
  next => exact .malformed _
  next =>
    refine .next (fun more => ?_)
    split
    next => exact .malformedNext _
    next => exact yields_readNumberEnd negative (by decide)
  next byte _ =>
    split
    next digit =>
      have small : digitValue byte < UInt64.size := Nat.lt_trans (UInt8.toNat_lt _) (by decide)
      refine .next (fun steps => .bind (yields_takeDigits steps 0 small) (fun taken word => ?_))
      obtain ⟨significand, count⟩ := taken
      refine .next (fun more => ?_)
      dsimp only
      split
      next =>
        -- The word is full, so the digits that are left only raise the exponent.
        refine .next (fun _ => .next (fun dropped => .next (fun byte => ?_)))
        split
        next => exact .bind (yields_readFraction negative _) (fun _ finite => .pure finite)
        next => exact .bind (yields_readFloatEnd negative _) (fun _ finite => .pure finite)
      next => exact yields_readNumberEnd negative word
    next => exact .malformed _

end Numbers

section Trees

theorem yields_readItems {property : Value → Prop} {item : Reader Value}
    (each : Yields property item) (steps : Nat) (isFirst : Bool) {gathered : List Value}
    (known : ∀ item ∈ gathered, property item) :
    Yields (fun items => ∀ item ∈ items, property item) (readItems item steps isFirst gathered) := by
  induction steps generalizing isFirst gathered with
  | zero => exact .pure (fun item member => known item (List.mem_reverse.mp member))
  | succ steps ih =>
    refine .next (fun more => ?_)
    split
    next =>
      exact .bind each (fun value holds => ih false (List.forall_mem_cons.mpr ⟨holds, known⟩))
    next => exact .pure (fun item member => known item (List.mem_reverse.mp member))

theorem yields_readMembers {property : Value → Prop} {value : Reader Value}
    (each : Yields property value) (steps : Nat) (isFirst : Bool) {gathered : List (String × Value)}
    (known : ∀ member ∈ gathered, property member.2) :
    Yields (fun members => ∀ member ∈ members, property member.2)
      (readMembers value steps isFirst gathered) := by
  induction steps generalizing isFirst gathered with
  | zero => exact .pure (fun member there => known member (List.mem_reverse.mp there))
  | succ steps ih =>
    refine .next (fun more => ?_)
    split
    next =>
      refine .next (fun name => .next (fun _ => .bind each (fun value holds => ?_)))
      exact ih false (List.forall_mem_cons.mpr ⟨holds, known⟩)
    next => exact .pure (fun member there => known member (List.mem_reverse.mp there))

theorem yields_readScalar (first : UInt8) : Yields Value.Sound (readScalar first) := by
  unfold readScalar
  split
  next => exact .next (fun _ => .pure .null)
  next => exact .next (fun _ => .pure (.boolean _))
  next => exact .next (fun _ => .pure (.boolean _))
  next => exact .next (fun _ => .next (fun text => .pure (.string text)))
  next =>
    exact .next (fun _ => .bind (yields_readNumber true) (fun _ sound => .pure (.number sound)))
  next =>
    split
    next => exact .bind (yields_readNumber false) (fun _ sound => .pure (.number sound))
    next => exact .malformedNext _

theorem yields_readTree (depth : Depth) : Yields Value.Sound (readTree depth) := by
  induction depth with
  | zero =>
    rw [readTree]
    refine .next (fun token => ?_)
    split
    next => exact .malformedNext _
    next => exact .malformedNext _
    next => exact .malformedNext _
    next => exact yields_readScalar _
  | succ depth ih =>
    rw [readTree]
    refine .next (fun token => ?_)
    split
    next => exact .malformedNext _
    next =>
      refine .next (fun _ => .next (fun steps => ?_))
      refine .bind (yields_readItems ih steps true (List.forall_mem_nil _)) (fun items each => ?_)
      exact .next (fun _ => .pure (.array each))
    next =>
      refine .next (fun _ => .next (fun steps => ?_))
      refine .bind (yields_readMembers ih steps true (List.forall_mem_nil _)) (fun members each => ?_)
      exact .next (fun _ => .pure (.object each))
    next => exact yields_readScalar _

end Trees

end Reader

theorem Value.Sound.normal {value : Value} (sound : value.Sound) : value.normal.Sound := by
  induction sound with
  | null => exact .null
  | boolean value => exact .boolean value
  | number sound => exact .number sound
  | string text => exact .string text
  | @array items _ ih =>
    rw [Value.normal, normalItems_eq_map]
    exact .array (List.forall_mem_map.mpr ih)
  | @object members _ ih =>
    rw [Value.normal]
    refine .object (fun member there => ?_)
    have written := (orderMembers_spec _).2 member there
    rw [normalMembers_eq_map] at written
    obtain ⟨other, member, rfl⟩ := List.mem_map.mp written
    exact ih other member

theorem sound_of_readValue {bytes : Bytes} {value : Value}
    (read : Reader.readValue.run bytes = .ok value) : value.Sound := by
  obtain ⟨after, whole⟩ := Reader.run_eq_ok read
  obtain ⟨tree, middle, found, normal⟩ := Reader.bind_eq_ok.mp whole
  obtain ⟨rfl, -⟩ := Reader.pure_eq_ok.mp normal
  exact (Reader.yields_readTree fullDepth _ _ _ found).normal

theorem Value.Sound.item {items : List Value} (sound : (Value.array items).Sound) :
    ∀ item ∈ items, item.Sound := by
  cases sound with
  | array each => exact each

theorem Value.Sound.member {members : List (String × Value)} (sound : (Value.object members).Sound)
    {name : String} {value : Value} (found : Value.member? name members = some value) : value.Sound := by
  obtain ⟨before, after, same, -⟩ := List.lookup_eq_some_iff.mp found
  cases sound with
  | object each => exact each (name, value) (by simp [same])

end LedgerNode.Json
