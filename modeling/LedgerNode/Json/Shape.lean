import LedgerNode.Json.Tree

set_option autoImplicit false

/-!
Shapes of values: how a value of a type is read from a text, where faults get their places, and how
it is taken from a value that was read before, where they have none. A record is an object with
named fields, of which unknown ones are skipped, or a list of its fields in their order.
-/

namespace LedgerNode.Json

structure Shape (α : Type) where
  ofText : Depth → Reader α
  ofTree : Value → Except Mismatch α

namespace Reader

/-- Reports a value of a wrong type. A scalar is taken first, an opening bracket stays. -/
def unexpected {α : Type} (first : UInt8) (expected : String) : Reader α := do
  match first with
  | 0x5B => mismatch (.type .sequence expected)
  | 0x7B => mismatch (.type .map expected)
  | _ =>
    let value ← readScalar first
    mismatch (.type value.found expected)

def firstOfValue : Reader UInt8 := do
  match ← peekToken with
  | none => malformedNext .valueCutShort
  | some first => return first

def readStringAs (expected : String) : Reader String :=
  placed do
    let first ← firstOfValue
    if first = 0x22 then
      advance
      readText
    else
      unexpected first expected

def ofResult {α : Type} : Except Mismatch α → Reader α
  | .ok value => pure value
  | .error fault => mismatch fault

end Reader

open Reader

namespace Shape

variable {α β : Type}

def wrongType (value : Value) (expected : String) : Except Mismatch α :=
  .error (.type value.found expected)

def string : Shape String where
  ofText := fun _ => readStringAs "a string"
  ofTree := fun value =>
    match value with
    | .string text => .ok text
    | other => wrongType other "a string"

def refine (shape : Shape α) (check : α → Except String β) : Shape β where
  ofText := fun depth => do
    let value ← shape.ofText depth
    ofResult ((check value).mapError .refused)
  ofTree := fun value => do
    let value ← shape.ofTree value
    (check value).mapError .refused

def map (shape : Shape α) (change : α → β) : Shape β where
  ofText := fun depth => change <$> shape.ofText depth
  ofTree := fun value => change <$> shape.ofTree value

def wordOfNumber : Number → Except Mismatch UInt64
  | .integer value =>
    if 0 ≤ value && value.toNat < UInt64.size then .ok (UInt64.ofNat value.toNat)
    else .error (.value (.number (.integer value)) "u64")
  | .float value => .error (.type (.number (.float value)) "u64")

def word : Shape UInt64 where
  ofText := fun _ => placed do
    let first ← firstOfValue
    if first = 0x2D then
      advance
      ofResult (wordOfNumber (← readNumber true))
    else if isDigit first then
      ofResult (wordOfNumber (← readNumber false))
    else
      unexpected first "u64"
  ofTree := fun value =>
    match value with
    | .number number => wordOfNumber number
    | other => wrongType other "u64"

def boolean : Shape Bool where
  ofText := fun _ => placed do
    match ← firstOfValue with
    | 0x74 => do takeTrue; return true
    | 0x66 => do takeFalse; return false
    | first => unexpected first "a boolean"
  ofTree := fun value =>
    match value with
    | .boolean value => .ok value
    | other => wrongType other "a boolean"

def optional (shape : Shape α) : Shape (Option α) where
  ofText := fun depth => do
    match ← peekToken with
    | some 0x6E => do takeNull; return none
    | _ => some <$> shape.ofText depth
  ofTree := fun value =>
    match value with
    | .null => .ok none
    | other => some <$> shape.ofTree other

def listOf (shape : Shape α) : Shape (List α) where
  ofText := fun depth => placed do
    let first ← firstOfValue
    if first = 0x5B then
      readContainer depth
        (fun depth => do readItems (shape.ofText depth) (← budget) true []) closeList
    else
      unexpected first "a sequence"
  ofTree := fun value =>
    match value with
    | .array items => items.mapM shape.ofTree
    | other => wrongType other "a sequence"

def nothing (expected : String) (value : α) : Shape α where
  ofText := fun depth => placed do
    match ← firstOfValue with
    | 0x6E => do takeNull; return value
    | 0x5B => readContainer depth (fun _ => mismatch (.type .sequence expected)) closeList
    | 0x7B => readContainer depth (fun _ => mismatch (.type .map expected)) closeObject
    | first => unexpected first expected
  ofTree := fun found =>
    match found with
    | .null => .ok value
    | other => wrongType other expected

end Shape

structure Field (α : Type) where
  name : String
  shape : Shape α
  -- The value of a field that an object lacks.
  absent : Option α
  -- The value of a field before which a list ends.
  beyond : Option α

namespace Field

variable {α : Type}

def required (name : String) (shape : Shape α) : Field α where
  name := name
  shape := shape
  absent := none
  beyond := none

def optional (name : String) (shape : Shape α) : Field (Option α) where
  name := name
  shape := shape.optional
  absent := some none
  beyond := none

def withDefault (name : String) (shape : Shape α) (value : α) : Field α where
  name := name
  shape := shape
  absent := some value
  beyond := some value

end Field

/--
The fields of a record: their values make up a tuple, and while it is read they stand in slots, of
which some may still be empty.
-/
inductive Fields : Type → Type → Type 1 where
  | nil : Fields Unit Unit
  | cons {α β σ : Type} (field : Field α) (rest : Fields β σ) : Fields (α × β) (Option α × σ)

namespace Fields

variable {γ σ : Type}

def count {γ σ : Type} : Fields γ σ → Nat
  | .nil => 0
  | .cons _ rest => rest.count + 1

def emptySlots {γ σ : Type} : Fields γ σ → σ
  | .nil => ()
  | .cons _ rest => (none, rest.emptySlots)

def complete {γ σ : Type} : Fields γ σ → σ → Except Mismatch γ
  | .nil, _ => .ok ()
  | .cons field rest, (slot, slots) => do
    match slot.or field.absent with
    | some value => return (value, ← rest.complete slots)
    | none => throw (.missingField field.name)

def fillFromText {γ σ : Type} (depth : Depth) (name : String) :
    Fields γ σ → σ → Reader σ
  | .nil, slots => do
    takeColon
    skipValue
    return slots
  | .cons field rest, (slot, slots) => do
    if name = field.name then
      if slot.isSome then
        mismatch (.duplicateField name)
      else
        takeColon
        let value ← field.shape.ofText depth
        return (some value, slots)
    else
      return (slot, ← rest.fillFromText depth name slots)

def fillFromTree {γ σ : Type} (name : String) (value : Value) :
    Fields γ σ → σ → Except Mismatch σ
  | .nil, slots => .ok slots
  | .cons field rest, (slot, slots) => do
    if name = field.name then
      if slot.isSome then
        throw (.duplicateField name)
      else
        return (some (← field.shape.ofTree value), slots)
    else
      return (slot, ← rest.fillFromTree name value slots)

def readObject (fields : Fields γ σ) (depth : Depth) : Nat → Bool → σ → Reader γ
  | 0, _, slots => ofResult (fields.complete slots)
  | steps + 1, isFirst, slots => do
    if ← nextName isFirst then
      let name ← readText
      let slots ← fields.fillFromText depth name slots
      readObject fields depth steps false slots
    else
      ofResult (fields.complete slots)

def takeMembers (fields : Fields γ σ) : List (String × Value) → σ → Except Mismatch γ
  | [], slots => fields.complete slots
  | (name, value) :: rest, slots => do
    takeMembers fields rest (← fields.fillFromTree name value slots)

def elements (count : Nat) : String :=
  if count = 1 then "1 element" else toString count ++ " elements"

def readList {γ σ : Type} (expected : String) (depth : Depth) (index : Nat) :
    Fields γ σ → Reader γ
  | .nil => pure ()
  | .cons field rest => do
    if ← nextItem (index = 0) then
      let value ← field.shape.ofText depth
      return (value, ← rest.readList expected depth (index + 1))
    else
      -- The list has ended, but later fields may have values all the same.
      match field.beyond with
      | some value => return (value, ← rest.readList expected depth (index + 1))
      | none => mismatch (.length index expected)

def takeItems {γ σ : Type} (expected : String) (index : Nat) :
    Fields γ σ → List Value → Except Mismatch γ
  | .nil, [] => .ok ()
  | .nil, rest => .error (.length (index + rest.length) (elements index ++ " in sequence"))
  | .cons field fields, item :: rest => do
    let value ← field.shape.ofTree item
    return (value, ← fields.takeItems expected (index + 1) rest)
  | .cons field fields, [] => do
    match field.beyond with
    | some value => return (value, ← fields.takeItems expected (index + 1) [])
    | none => throw (.length index expected)

end Fields

def Shape.record {γ σ : Type} (expected : String) (fields : Fields γ σ) : Shape γ :=
  let whole := expected ++ " with " ++ Fields.elements fields.count
  { ofText := fun depth => placed do
      match ← firstOfValue with
      | 0x5B => readContainer depth (fun depth => fields.readList whole depth 0) closeList
      | 0x7B =>
        readContainer depth
          (fun depth => do fields.readObject depth (← budget) true fields.emptySlots) closeObject
      | first => unexpected first expected
    ofTree := fun value =>
      match value with
      | .array items => fields.takeItems whole 0 items
      | .object members => fields.takeMembers members fields.emptySlots
      | other => wrongType other expected }

end LedgerNode.Json
