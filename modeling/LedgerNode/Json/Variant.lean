import LedgerNode.Json.Shape

set_option autoImplicit false

namespace LedgerNode.Json

structure Variant (α : Type) where
  tag : String
  content : Shape α
  bare : Option α

namespace Reader

variable {α : Type}

def readKnownText (known : List String) : Reader String := do
  let name ← readText
  if known.contains name then return name else mismatch (.unknownVariant name known)

def readKnown (known : List String) : Reader String :=
  placed do
    let first ← firstOfValue
    if first = 0x22 then
      advance
      readKnownText known
    else
      unexpected first "variant identifier"

def readNamed (depth : Depth) (known : List String) (alone : String → Reader α)
    (content : String → Depth → Reader α) : Reader α := do
  match ← firstOfValue with
  | 0x22 => do
    let name ← readKnown known
    alone name
  | 0x7B =>
    match depth with
    | 0 => malformedNext .nestedTooDeep
    | depth + 1 => do
      advance
      match ← peekToken with
      | none => malformedNext .objectCutShort
      | some 0x7D => malformedNext .valueExpected
      | some 0x22 => do
        let name ← readKnown known
        takeColon
        let value ← content name depth
        match ← peekToken with
        | none => malformed .objectCutShort
        | some 0x7D => do
          advance
          return value
        | some _ => malformed .valueExpected
      | some _ => malformedNext .nameNotString
  | _ => malformedNext .valueExpected

def readUnit : Reader Unit :=
  placed do
    let first ← firstOfValue
    if first = 0x6E then takeNull else unexpected first "unit"

def readTag (depth : Depth) (known : List String) : Reader String :=
  readNamed depth known pure (fun name _ => do readUnit; return name)

def nextOf (names : List String) : Nat → Bool → Reader (Option String)
  | 0, _ => pure none
  | steps + 1, isFirst => do
    if ← nextName isFirst then
      let name ← readText
      if names.contains name then
        return some name
      else
        takeColon
        skipValue
        nextOf names steps false
    else
      return none

end Reader

open Reader

/--
Tag and content are two members of an object or the two items of a list. Content that comes before its tag is
kept as a tree and taken from that.
-/
structure Adjacent (α : Type) where
  expected : String
  tagName : String
  contentName : String
  variants : List (Variant α)

namespace Adjacent

variable {α : Type}

def tags (form : Adjacent α) : List String :=
  form.variants.map Variant.tag

def variant (form : Adjacent α) (tag : String) : Reader (Variant α) :=
  match form.variants.find? (fun variant => variant.tag = tag) with
  | some variant => pure variant
  | none => mismatch (.unknownVariant tag form.tags)

def next (form : Adjacent α) (isFirst : Bool) : Reader (Option String) := do
  nextOf [form.tagName, form.contentName] (← budget) isFirst

def finish (form : Adjacent α) (value : α) : Reader α := do
  match ← form.next false with
  | none => return value
  | some name => mismatch (.duplicateField name)

def readObject (form : Adjacent α) (depth : Depth) : Reader α := do
  match ← form.next true with
  | none => mismatch (.missingField form.tagName)
  | some name =>
    takeColon
    if name = form.tagName then
      let variant ← form.variant (← readTag depth form.tags)
      match ← form.next false with
      | none =>
        match variant.bare with
        | some value => return value
        | none => mismatch (.missingField form.contentName)
      | some name =>
        if name = form.tagName then
          mismatch (.duplicateField name)
        else
          takeColon
          form.finish (← variant.content.ofText depth)
    else
      -- Which content this is shows only later.
      let content ← readTree depth
      match ← form.next false with
      | none => mismatch (.missingField form.tagName)
      | some name =>
        if name = form.tagName then
          takeColon
          let variant ← form.variant (← readTag depth form.tags)
          form.finish (← ofResult (variant.content.ofTree content))
        else
          mismatch (.duplicateField name)

def readList (form : Adjacent α) (depth : Depth) : Reader α := do
  if ← nextItem true then
    let variant ← form.variant (← readKnown form.tags)
    if ← nextItem false then
      variant.content.ofText depth
    else
      mismatch (.length 1 form.expected)
  else
    mismatch (.length 0 form.expected)

def read (form : Adjacent α) (depth : Depth) : Reader α :=
  placed do
    match ← firstOfValue with
    | 0x5B => readContainer depth form.readList closeList
    | 0x7B => readContainer depth form.readObject closeObject
    | first => unexpected first form.expected

end Adjacent

/--
The tag is one of the fields. They are gathered before the variant takes them, so faults in them have no place.
-/
structure Internal (α : Type) where
  expected : String
  tagName : String
  variants : List (Variant α)

namespace Internal

variable {α : Type}

def tags (form : Internal α) : List String :=
  form.variants.map Variant.tag

def gather (form : Internal α) (depth : Depth) :
    Nat → Bool → Option String → List (String × Value) → Reader (String × Value)
  | 0, _, _, _ => mismatch (.missingField form.tagName)
  | steps + 1, isFirst, tag, gathered => do
    if ← nextName isFirst then
      let name ← readText
      if name = form.tagName then
        if tag.isSome then
          mismatch (.duplicateField name)
        else
          takeColon
          let tag ← readKnown form.tags
          gather form depth steps false (some tag) gathered
      else
        takeColon
        let value ← readTree depth
        gather form depth steps false tag ((name, value) :: gathered)
    else
      match tag with
      | some tag => return (tag, .object gathered.reverse)
      | none => mismatch (.missingField form.tagName)

def gatherItems (form : Internal α) (depth : Depth) : Reader (String × Value) := do
  if ← nextItem true then
    let tag ← readKnown form.tags
    let items ← readItems (readTree depth) (← budget) false []
    return (tag, .array items)
  else
    mismatch (.missingField form.tagName)

def gatherAll (form : Internal α) (depth : Depth) : Reader (String × Value) :=
  placed do
    match ← firstOfValue with
    | 0x5B => readContainer depth form.gatherItems closeList
    | 0x7B =>
      readContainer depth (fun depth => do form.gather depth (← budget) true none []) closeObject
    | first =>
      let value ← readScalar first
      mismatch (.type value.found form.expected)

def take (form : Internal α) (tag : String) (content : Value) : Except Mismatch α :=
  match form.variants.find? (fun variant => variant.tag = tag) with
  | some variant => variant.content.ofTree content
  | none => .error (.unknownVariant tag form.tags)

def read (form : Internal α) (depth : Depth) : Reader α := do
  let (tag, content) ← form.gatherAll depth
  ofResult (form.take tag content)

end Internal

end LedgerNode.Json
