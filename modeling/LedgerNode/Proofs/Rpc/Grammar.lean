import LedgerNode.Proofs.Failure
import LedgerNode.Proofs.Query.Notation
import LedgerNode.Proofs.Rpc.Requests
import LedgerNode.Proofs.Storage.Records

set_option autoImplicit false

namespace LedgerNode.Rpc

open Json

inductive Scalar : Value → Prop where
  | string (text : String) : Scalar (.string text)
  | number (number : Number) : Scalar (.number number)
  | null : Scalar .null

def member (name : String) : Value → Option Value
  | .object members => Value.member? name members
  | _ => none

inductive SpellsHeight (params : List (String × Value)) : Option UInt64 → Prop where
  | absent (absent : Value.member? "height" params = none) : SpellsHeight params none
  | null (null : Value.member? "height" params = some .null) : SpellsHeight params none
  | given {text : String} {height : UInt64}
      (there : Value.member? "height" params = some (.string text))
      (spelled : Quantity.HexSpells text height.toNat) : SpellsHeight params (some height)

structure SpellsAccount (params : List (String × Value)) (account : AccountParams) : Prop where
  address : ∃ text, Value.member? "address" params = some (.string text) ∧
    Address.Spells text account.address
  height : SpellsHeight params account.height

inductive SpellsParams : Option Value → Query → Prop where
  | balance {params : List (String × Value)} {account : AccountParams}
      (spelled : SpellsAccount params account) : SpellsParams (some (.object params)) (.balance account)
  | account {params : List (String × Value)} {account : AccountParams}
      (spelled : SpellsAccount params account) : SpellsParams (some (.object params)) (.account account)
  | absent : SpellsParams none .lastHeight
  | null : SpellsParams (some .null) .lastHeight
  | empty : SpellsParams (some (.object [])) .lastHeight

/-- A request for a query. Other members may stand beside those that are looked at. -/
structure Asks (value : Value) (query : Query) : Prop where
  object : ∃ members, value = .object members
  version : member "jsonrpc" value = some (.string "2.0")
  identified : ∃ id, member "id" value = some id ∧ Scalar id
  named : member "method" value = some (.string query.method.name)
  params : SpellsParams (member "params" value) query

inductive Check where
  | object
  | version
  | id
  | methodText
  | methodName
  | paramsForm
  | contents
  deriving DecidableEq, Repr

namespace Check

def rank : Check → Nat
  | object => 0
  | version => 1
  | id => 2
  | methodText => 3
  | methodName => 4
  | paramsForm => 5
  | contents => 6

def Passes (value : Value) : Check → Prop
  | object => ∃ members, value = .object members
  | version => member "jsonrpc" value = some (.string "2.0")
  | id => ∃ id, member "id" value = some id ∧ Scalar id
  | methodText => ∃ name, member "method" value = some (.string name)
  | methodName => ∃ method : Method, member "method" value = some (.string method.name)
  | paramsForm => member "params" value = none ∨ member "params" value = some .null ∨
      ∃ params, member "params" value = some (.object params)
  | contents => ∃ query : Query, member "method" value = some (.string query.method.name) ∧
      SpellsParams (member "params" value) query

def Reached (check : Check) (value : Value) : Prop :=
  ∀ earlier : Check, earlier.rank < check.rank → earlier.Passes value

/-- The check that a value is refused for: it passes those in front, and fails this one. -/
structure IsFirstFault (check : Check) (value : Value) : Prop where
  reached : check.Reached value
  fails : ¬check.Passes value

def Refuses (value : Value) : Check → RpcError → Prop
  | object, error | version, error | id, error | methodText, error | paramsForm, error =>
    ∃ reason, error = .invalidRequest reason
  | methodName, error =>
    ∃ name, member "method" value = some (.string name) ∧ error = .query (.methodNotFound name)
  | contents, error => ∃ reason, error = .invalidParams reason

end Check

inductive Outcome (value : Value) : Except RpcError Query → Prop where
  | asked {query : Query} (asks : Asks value query) : Outcome value (.ok query)
  | refused {check : Check} {error : RpcError} (first : check.IsFirstFault value)
      (refuses : check.Refuses value error) : Outcome value (.error error)

section Contents

variable {members params : List (String × Value)} {account : AccountParams}

theorem readHeight_eq_ok_iff {text : String} {height : UInt64} :
    readHeight text = .ok height ↔ Quantity.HexSpells text height.toNat := by
  unfold readHeight
  cases marked : Quantity.stripHexMark text.toList with
  | none =>
    refine iff_of_false error_ne_ok ?_
    rintro ⟨digits, characters, -⟩
    rw [Quantity.stripHexMark_eq_some_iff.mpr characters] at marked
    cases marked
  | some digits =>
    rw [Option.isSome_some, if_pos rfl, mapError_eq_ok_iff, Quantity.readWord_eq_ok_iff,
      Quantity.spells_of_mark marked]

theorem namesHeight_iff {height : Option UInt64} :
    NamesHeight params height ↔ SpellsHeight params height := by
  cases height with
  | none =>
    constructor
    · rintro (absent | null)
      · exact .absent absent
      · exact .null null
    · rintro (absent | null)
      · exact .inl absent
      · exact .inr null
  | some height =>
    constructor
    · rintro ⟨text, there, read⟩
      exact .given there (readHeight_eq_ok_iff.mp read)
    · rintro (- | - | ⟨there, spelled⟩)
      exact ⟨_, there, readHeight_eq_ok_iff.mpr spelled⟩

theorem finds_required_string {name text : String}
    (finds : (Field.required name Shape.string).Finds params text) :
    Value.member? name params = some (.string text) := by
  unfold Field.Finds at finds
  split at finds
  next found there =>
    cases found with
    | string => cases finds; exact there
    | _ => cases finds
  next => cases finds

def HoldsText (found : Option Value) : Option String → Prop
  | none => found = none ∨ found = some .null
  | some text => found = some (.string text)

theorem finds_optional_string {name : String} {text : Option String}
    (finds : (Field.optional name Shape.string).Finds params text) :
    HoldsText (Value.member? name params) text := by
  unfold Field.Finds at finds
  split at finds
  next found there =>
    cases found with
    | null => cases finds; exact .inr there
    | string => cases finds; exact there
    | _ => cases finds
  next absent =>
    cases finds
    exact .inl absent

theorem spelled_of_ofTree (nodup : (params.map Prod.fst).Nodup) {spelled : SpelledParams}
    (taken : SpelledParams.shape.ofTree (.object params) = .ok spelled) :
    Value.member? "address" params = some (.string spelled.address) ∧
      HoldsText (Value.member? "height" params) spelled.height := by
  obtain ⟨⟨address, height, _⟩, record, rfl⟩ := map_eq_ok_iff.mp taken
  have finds := (Shape.ofTree_record_iff _ (by decide) nodup).mp record
  obtain ⟨named, rest⟩ := Fields.finds_cons_iff.mp finds
  exact ⟨finds_required_string named, finds_optional_string (Fields.finds_cons_iff.mp rest).1⟩

theorem readAccountParams_eq_ok_iff (nodup : (params.map Prod.fst).Nodup) :
    readAccountParams (some params) = .ok account ↔ SpellsAccount params account := by
  constructor
  · intro read
    obtain ⟨⟨text, height⟩, taken, read⟩ := bind_eq_ok_iff.mp read
    obtain ⟨address, known, read⟩ := bind_eq_ok_iff.mp read
    obtain ⟨named, heighted⟩ := spelled_of_ofTree nodup (mapError_eq_ok_iff.mp taken)
    have spelled := Address.read_eq_ok_iff.mp (mapError_eq_ok_iff.mp known)
    cases height with
    | none =>
      cases read
      exact ⟨⟨text, named, spelled⟩, namesHeight_iff.mp heighted⟩
    | some digits =>
      obtain ⟨height, reads, read⟩ := bind_eq_ok_iff.mp read
      cases read
      exact ⟨⟨text, named, spelled⟩, .given heighted (readHeight_eq_ok_iff.mp reads)⟩
  · rintro ⟨⟨text, named, spelled⟩, height⟩
    exact readAccountParams_eq nodup named (Address.read_eq_ok_iff.mpr spelled)
      (namesHeight_iff.mpr height)

theorem error_of_readHeight {text : String} {error : RpcError} (refused : readHeight text = .error error) :
    ∃ reason, error = .invalidParams reason := by
  unfold readHeight at refused
  split at refused
  next =>
    obtain ⟨fault, -, rfl⟩ := mapError_eq_error_iff.mp refused
    exact ⟨_, rfl⟩
  next =>
    cases refused
    exact ⟨_, rfl⟩

theorem error_of_readAccountParams {params : Option (List (String × Value))} {error : RpcError}
    (refused : readAccountParams params = .error error) : ∃ reason, error = .invalidParams reason := by
  cases params with
  | none =>
    cases refused
    exact ⟨_, rfl⟩
  | some params =>
    rcases bind_eq_error_iff.mp refused with refused | ⟨⟨text, height⟩, -, refused⟩
    · obtain ⟨fault, -, rfl⟩ := mapError_eq_error_iff.mp refused
      exact ⟨_, rfl⟩
    · rcases bind_eq_error_iff.mp refused with refused | ⟨address, -, refused⟩
      · obtain ⟨fault, -, rfl⟩ := mapError_eq_error_iff.mp refused
        exact ⟨_, rfl⟩
      · cases height with
        | none => cases refused
        | some digits =>
          rcases bind_eq_error_iff.mp refused with refused | ⟨height, -, refused⟩
          · exact error_of_readHeight refused
          · cases refused

end Contents

section Order

variable {value : Value} {check other : Check}

theorem Check.rank_inj (same : check.rank = other.rank) : check = other := by
  cases check <;> cases other <;> first | rfl | cases same

theorem Check.reached_object (value : Value) : Check.object.Reached value :=
  fun _ before => absurd before (Nat.not_lt_zero _)

theorem Check.Reached.next (reached : check.Reached value) (passes : check.Passes value)
    (next : other.rank = check.rank + 1) : other.Reached value := by
  intro earlier before
  rcases Nat.lt_or_eq_of_le (Nat.le_of_lt_succ (next ▸ before)) with below | same
  · exact reached earlier below
  · exact Check.rank_inj same ▸ passes

theorem Check.IsFirstFault.unique (first : check.IsFirstFault value)
    (second : other.IsFirstFault value) : check = other := by
  apply Check.rank_inj
  rcases Nat.lt_trichotomy check.rank other.rank with before | same | behind
  · exact absurd (second.reached check before) first.fails
  · exact same
  · exact absurd (first.reached other behind) second.fails

theorem SpellsParams.form {found : Option Value} {query : Query} (spelled : SpellsParams found query) :
    found = none ∨ found = some .null ∨ ∃ params, found = some (.object params) := by
  cases spelled with
  | absent => exact .inl rfl
  | null => exact .inr (.inl rfl)
  | balance | account | empty => exact .inr (.inr ⟨_, rfl⟩)

theorem Asks.passes {query : Query} (asks : Asks value query) (check : Check) : check.Passes value := by
  cases check with
  | object => exact asks.object
  | version => exact asks.version
  | id => exact asks.identified
  | methodText => exact ⟨_, asks.named⟩
  | methodName => exact ⟨_, asks.named⟩
  | paramsForm => exact asks.params.form
  | contents => exact ⟨query, asks.named, asks.params⟩

end Order

section Checks

theorem not_of_error {α : Type} {result : Except RpcError α} {value : α} {error : RpcError} {passes : Prop}
    (accepts : result = .ok value ↔ passes) (refused : result = .error error) : ¬passes := by
  rw [← accepts, refused]
  exact error_ne_ok

variable {members : List (String × Value)} {error : RpcError}

theorem checkVersion_eq_ok_iff :
    checkVersion members = .ok () ↔ Value.member? "jsonrpc" members = some (.string "2.0") := by
  unfold checkVersion
  split
  next same =>
    obtain ⟨found, there, text⟩ := Option.bind_eq_some_iff.mp same
    cases found <;> simp_all [Value.asString?, Rpc.version]
  next other =>
    refine iff_of_false error_ne_ok fun there => other ?_
    rw [there]
    rfl

theorem checkId_eq_ok_iff :
    checkId members = .ok () ↔ ∃ id, Value.member? "id" members = some id ∧ Scalar id := by
  unfold checkId
  cases Value.member? "id" members with
  | none => simp
  | some id => cases id <;> simp [Scalar.string, Scalar.number, Scalar.null] <;> exact nofun

theorem error_of_checkVersion (refused : checkVersion members = .error error) :
    ∃ reason, error = .invalidRequest reason := by
  unfold checkVersion at refused
  split at refused <;> cases refused
  exact ⟨_, rfl⟩

theorem error_of_checkId (refused : checkId members = .error error) :
    ∃ reason, error = .invalidRequest reason := by
  unfold checkId at refused
  split at refused <;> cases refused <;> exact ⟨_, rfl⟩

theorem ofName?_eq_some_iff {name : String} {method : Method} :
    Method.ofName? name = some method ↔ name = method.name := by
  constructor
  · intro found
    have same := List.find?_some found
    simpa [eq_comm] using same
  · rintro rfl
    exact method.ofName?_name

theorem readMethod_eq_ok_iff {method : Method} :
    readMethod members = .ok method ↔
      Value.member? "method" members = some (.string method.name) := by
  constructor
  · intro read
    unfold readMethod at read
    split at read
    next => cases read
    next name same =>
      obtain ⟨found, there, text⟩ := Option.bind_eq_some_iff.mp same
      split at read
      next known =>
        cases read
        rw [there, ← ofName?_eq_some_iff.mp known]
        cases found <;> simp_all [Value.asString?]
      next => cases read
  · intro named
    simp [readMethod, named, Value.asString?, Method.ofName?_name]

theorem error_of_readMethod (refused : readMethod members = .error error) :
    (¬(∃ name, Value.member? "method" members = some (.string name)) ∧
      ∃ reason, error = .invalidRequest reason) ∨
    ∃ name, Value.member? "method" members = some (.string name) ∧
      error = .query (.methodNotFound name) := by
  unfold readMethod at refused
  split at refused
  next unnamed =>
    cases refused
    refine .inl ⟨?_, _, rfl⟩
    rintro ⟨name, there⟩
    rw [there] at unnamed
    cases unnamed
  next name same =>
    obtain ⟨found, there, text⟩ := Option.bind_eq_some_iff.mp same
    split at refused
    next => cases refused
    next =>
      cases refused
      cases found <;> cases text
      exact .inr ⟨_, there, rfl⟩

inductive Form : Option Value → Option (List (String × Value)) → Prop where
  | absent : Form none none
  | null : Form (some .null) none
  | object (params : List (String × Value)) : Form (some (.object params)) (some params)

theorem exists_form_iff {found : Option Value} :
    (∃ params, Form found params) ↔
      found = none ∨ found = some .null ∨ ∃ params, found = some (.object params) := by
  constructor
  · rintro ⟨_, - | - | ⟨params⟩⟩
    · exact .inl rfl
    · exact .inr (.inl rfl)
    · exact .inr (.inr ⟨params, rfl⟩)
  · rintro (rfl | rfl | ⟨params, rfl⟩)
    · exact ⟨_, .absent⟩
    · exact ⟨_, .null⟩
    · exact ⟨_, .object params⟩

theorem readParams_eq_ok_iff {params : Option (List (String × Value))} :
    readParams members = .ok params ↔ Form (Value.member? "params" members) params := by
  unfold readParams
  constructor
  · intro read
    split at read
    next absent => cases read; exact absent ▸ .absent
    next null => cases read; exact null ▸ .null
    next own object => cases read; exact object ▸ .object own
    next => cases read
  · intro form
    generalize Value.member? "params" members = found at form ⊢
    cases form <;> rfl

theorem error_of_readParams (refused : readParams members = .error error) :
    ∃ reason, error = .invalidRequest reason := by
  unfold readParams at refused
  split at refused <;> cases refused
  exact ⟨_, rfl⟩

section Params

variable {found : Option Value} {params : Option (List (String × Value))}

theorem readAccountParams_of_form {account : AccountParams} (form : Form found params)
    (nodup : ∀ own, params = some own → (own.map Prod.fst).Nodup) :
    readAccountParams params = .ok account ↔
      ∃ own, found = some (.object own) ∧ SpellsAccount own account := by
  cases form with
  | absent => exact iff_of_false error_ne_ok nofun
  | null => exact iff_of_false error_ne_ok nofun
  | object own =>
    rw [readAccountParams_eq_ok_iff (nodup own rfl)]
    refine ⟨fun spelled => ⟨own, rfl, spelled⟩, ?_⟩
    rintro ⟨_, ⟨⟩, spelled⟩
    exact spelled

theorem readQuery_eq_ok_iff {method : Method} {query : Query} (form : Form found params)
    (nodup : ∀ own, params = some own → (own.map Prod.fst).Nodup) :
    readQuery method params = .ok query ↔ query.method = method ∧ SpellsParams found query := by
  cases method with
  | balance =>
    rw [readQuery, map_eq_ok_iff]
    constructor
    · rintro ⟨account, read, rfl⟩
      obtain ⟨own, rfl, spelled⟩ := (readAccountParams_of_form form nodup).mp read
      exact ⟨rfl, .balance spelled⟩
    · rintro ⟨same, spelled⟩
      cases spelled with
      | balance spelled => exact ⟨_, (readAccountParams_of_form form nodup).mpr ⟨_, rfl, spelled⟩, rfl⟩
      | account | absent | null | empty => cases same
  | account =>
    rw [readQuery, map_eq_ok_iff]
    constructor
    · rintro ⟨account, read, rfl⟩
      obtain ⟨own, rfl, spelled⟩ := (readAccountParams_of_form form nodup).mp read
      exact ⟨rfl, .account spelled⟩
    · rintro ⟨same, spelled⟩
      cases spelled with
      | account spelled => exact ⟨_, (readAccountParams_of_form form nodup).mpr ⟨_, rfl, spelled⟩, rfl⟩
      | balance | absent | null | empty => cases same
  | lastHeight =>
    rw [readQuery]
    constructor
    · intro read
      split at read
      next empty =>
        cases read
        refine ⟨rfl, ?_⟩
        cases form with
        | absent => exact .absent
        | null => exact .null
        | object own =>
          obtain rfl := List.isEmpty_iff.mp empty
          exact .empty
      next => cases read
    · rintro ⟨same, spelled⟩
      cases spelled with
      | balance | account => cases same
      | absent | null | empty => cases form; rfl

end Params

theorem error_of_readQuery {method : Method} {params : Option (List (String × Value))}
    (refused : readQuery method params = .error error) : ∃ reason, error = .invalidParams reason := by
  cases method with
  | balance | account => exact error_of_readAccountParams (map_eq_error_iff.mp refused)
  | lastHeight =>
    rw [readQuery] at refused
    split at refused <;> cases refused
    exact ⟨_, rfl⟩

end Checks

section Requests

variable {written value : Value} {members : List (String × Value)}

theorem nodup_of_form (normal : written.normal = .object members) {params : Option (List (String × Value))}
    (form : Form (Value.member? "params" members) params) :
    ∀ own, params = some own → (own.map Prod.fst).Nodup := by
  rintro own rfl
  generalize found : Value.member? "params" members = inner at form
  cases form
  -- A name that stood twice would be refused, but what is in a normal form is in one, too.
  obtain ⟨_, same⟩ := normal_of_member? normal found
  exact names_nodup same.symm

theorem readRequest_eq_ok_iff (normal : written.normal = .object members) {query : Query} :
    readRequest (.object members) = .ok query ↔ Asks (.object members) query := by
  constructor
  · intro read
    obtain ⟨⟨⟩, version, read⟩ := bind_eq_ok_iff.mp read
    obtain ⟨⟨⟩, id, read⟩ := bind_eq_ok_iff.mp read
    obtain ⟨method, named, read⟩ := bind_eq_ok_iff.mp read
    obtain ⟨params, taken, read⟩ := bind_eq_ok_iff.mp read
    have form := readParams_eq_ok_iff.mp taken
    obtain ⟨rfl, spelled⟩ := (readQuery_eq_ok_iff form (nodup_of_form normal form)).mp read
    exact ⟨⟨_, rfl⟩, checkVersion_eq_ok_iff.mp version, checkId_eq_ok_iff.mp id,
      readMethod_eq_ok_iff.mp named, spelled⟩
  · rintro ⟨-, version, id, named, spelled⟩
    obtain ⟨params, form⟩ := exists_form_iff.mpr spelled.form
    have read := (readQuery_eq_ok_iff form (nodup_of_form normal form)).mpr ⟨rfl, spelled⟩
    refine bind_eq_ok_iff.mpr ⟨(), checkVersion_eq_ok_iff.mpr version, ?_⟩
    refine bind_eq_ok_iff.mpr ⟨(), checkId_eq_ok_iff.mpr id, ?_⟩
    refine bind_eq_ok_iff.mpr ⟨_, readMethod_eq_ok_iff.mpr named, ?_⟩
    exact bind_eq_ok_iff.mpr ⟨params, readParams_eq_ok_iff.mpr form, read⟩

theorem firstFault_of_error (normal : written.normal = .object members) {error : RpcError}
    (refused : readRequest (.object members) = .error error) :
    ∃ check : Check, check.IsFirstFault (.object members) ∧ check.Refuses (.object members) error := by
  have atVersion : Check.version.Reached (.object members) := (Check.reached_object _).next ⟨_, rfl⟩ rfl
  rcases bind_eq_error_iff.mp refused with failed | ⟨⟨⟩, version, refused⟩
  · exact ⟨.version, ⟨atVersion, not_of_error checkVersion_eq_ok_iff failed⟩,
      error_of_checkVersion failed⟩
  have atId : Check.id.Reached (.object members) :=
    atVersion.next (checkVersion_eq_ok_iff.mp version) rfl
  rcases bind_eq_error_iff.mp refused with failed | ⟨⟨⟩, id, refused⟩
  · exact ⟨.id, ⟨atId, not_of_error checkId_eq_ok_iff failed⟩, error_of_checkId failed⟩
  have atText : Check.methodText.Reached (.object members) := atId.next (checkId_eq_ok_iff.mp id) rfl
  rcases bind_eq_error_iff.mp refused with failed | ⟨method, named, refused⟩
  · rcases error_of_readMethod failed with ⟨unnamed, reason⟩ | ⟨name, text, unknown⟩
    · exact ⟨.methodText, ⟨atText, unnamed⟩, reason⟩
    · refine ⟨.methodName, ⟨atText.next ⟨name, text⟩ rfl, ?_⟩, name, text, unknown⟩
      rintro ⟨method, named⟩
      exact not_of_error readMethod_eq_ok_iff failed named
  have text := readMethod_eq_ok_iff.mp named
  have atName : Check.methodName.Reached (.object members) := atText.next ⟨_, text⟩ rfl
  have atForm : Check.paramsForm.Reached (.object members) := atName.next ⟨method, text⟩ rfl
  rcases bind_eq_error_iff.mp refused with failed | ⟨params, taken, failed⟩
  · refine ⟨.paramsForm, ⟨atForm, fun passes => ?_⟩, error_of_readParams failed⟩
    obtain ⟨params, form⟩ := exists_form_iff.mpr passes
    exact not_of_error readParams_eq_ok_iff failed form
  have form := readParams_eq_ok_iff.mp taken
  have atContents : Check.contents.Reached (.object members) :=
    atForm.next (exists_form_iff.mp ⟨params, form⟩) rfl
  refine ⟨.contents, ⟨atContents, ?_⟩, error_of_readQuery failed⟩
  rintro ⟨query, own, spelled⟩
  have same : query.method = method :=
    Except.ok.inj ((readMethod_eq_ok_iff.mpr own).symm.trans named)
  exact not_of_error (readQuery_eq_ok_iff form (nodup_of_form normal form)) failed ⟨same, spelled⟩

theorem outcome_readRequest (written : Value) :
    Outcome written.normal (readRequest written.normal) := by
  cases normal : written.normal with
  | object members =>
    cases read : readRequest (.object members) with
    | ok query => exact .asked ((readRequest_eq_ok_iff normal).mp read)
    | error error =>
      obtain ⟨check, first, refuses⟩ := firstFault_of_error normal read
      exact .refused first refuses
  | null | boolean | number | string | array =>
    exact .refused ⟨Check.reached_object _, nofun⟩ ⟨_, rfl⟩

theorem Asks.readRequest {query : Query} (asks : Asks written.normal query) :
    Rpc.readRequest written.normal = .ok query := by
  obtain ⟨members, normal⟩ := asks.object
  rw [normal] at asks ⊢
  exact (readRequest_eq_ok_iff normal).mpr asks

theorem asks_of_readRequest {query : Query} (read : readRequest written.normal = .ok query) :
    Asks written.normal query := by
  have outcome := outcome_readRequest written
  rw [read] at outcome
  cases outcome with
  | asked asks => exact asks

end Requests

section Round

def queryRequest (id : Value) : Query → Value
  | .balance params => accountRequest .balance id params.address params.height
  | .account params => accountRequest .account id params.address params.height
  | .lastHeight => .object [("id", id), ("jsonrpc", .string version),
      ("method", .string Method.lastHeight.name)]

variable {id : Value}

theorem spellsAccount_accountParams (params : AccountParams) :
    ∃ members, accountParams params.address params.height = .object members ∧
      SpellsAccount members params := by
  refine ⟨_, rfl, ⟨params.address.text, rfl, Address.read_eq_ok_iff.mp params.address.read_text⟩, ?_⟩
  cases params.height with
  | none => exact .absent rfl
  | some height => exact .given rfl (readHeight_eq_ok_iff.mp (readHeight_toHex height))

theorem asks_queryRequest (scalar : Scalar id) (query : Query) :
    Asks (queryRequest id query) query := by
  cases query with
  | balance params =>
    obtain ⟨members, same, spelled⟩ := spellsAccount_accountParams params
    have there : member "params" (queryRequest id (.balance params)) = some (.object members) :=
      congrArg some same
    refine ⟨⟨_, rfl⟩, rfl, ⟨id, rfl, scalar⟩, rfl, ?_⟩
    rw [there]
    exact .balance spelled
  | account params =>
    obtain ⟨members, same, spelled⟩ := spellsAccount_accountParams params
    have there : member "params" (queryRequest id (.account params)) = some (.object members) :=
      congrArg some same
    refine ⟨⟨_, rfl⟩, rfl, ⟨id, rfl, scalar⟩, rfl, ?_⟩
    rw [there]
    exact .account spelled
  | lastHeight => exact ⟨⟨_, rfl⟩, rfl, ⟨id, rfl, scalar⟩, rfl, .absent⟩

theorem normal_queryRequest (scalar : Scalar id) (query : Query) :
    (queryRequest id query).normal = queryRequest id query := by
  have same : id.normal = id := by cases scalar <;> rfl
  cases query with
  | balance params => exact normal_accountRequest _ same _ _
  | account params => exact normal_accountRequest _ same _ _
  | lastHeight =>
    apply normal_object
    · have names : ["id", "jsonrpc", "method"].Pairwise (· < ·) := by decide
      exact List.pairwise_map.mp names
    · simp [Value.normal, same]

end Round

/--
Reading a value in normal form as a request gives the query that the value asks, or an error of the class of
the first check that the value fails. A query that is written out as a request is read back.
-/
theorem requests_are_the_grammar :
    (∀ (written : Value) (query : Query),
      readRequest written.normal = .ok query ↔ Asks written.normal query) ∧
    (∀ (written : Value) (check : Check), check.IsFirstFault written.normal →
      ∃ error, readRequest written.normal = .error error ∧ check.Refuses written.normal error) ∧
    (∀ (written : Value) (error : RpcError), readRequest written.normal = .error error →
      ∃ check : Check, check.IsFirstFault written.normal) ∧
    ∀ (id : Value) (query : Query), Scalar id →
      readRequest (queryRequest id query).normal = .ok query := by
  refine ⟨fun written query => ⟨asks_of_readRequest, Asks.readRequest⟩, fun written check first => ?_,
    fun written error refused => ?_, fun id query scalar => ?_⟩
  · have outcome := outcome_readRequest written
    generalize readRequest written.normal = result at outcome ⊢
    cases outcome with
    | asked asks => exact absurd (asks.passes check) first.fails
    | refused other refuses => exact ⟨_, rfl, other.unique first ▸ refuses⟩
  · have outcome := outcome_readRequest written
    rw [refused] at outcome
    cases outcome with
    | refused first => exact ⟨_, first⟩
  · have asks := asks_queryRequest scalar query
    rw [← normal_queryRequest scalar query] at asks
    exact asks.readRequest

def shouted : Value :=
  .object [("id", .null), ("jsonrpc", .string "2.0"), ("method", .string "icx_getAccount"),
    ("note", .boolean true),
    ("params", .object [("address", .string "cxABabABabABabABabABabABabABabABabABabABab"),
      ("height", .string "0x00fF")])]

def twiceFaulty : Value :=
  .object [("id", .boolean true), ("jsonrpc", .string "2.0"), ("method", .string "icx_call")]

theorem shouted_read_and_faulty_refused :
    readRequest shouted.normal =
        .ok (.account { address := .filled .contract 0xab, height := some 255 }) ∧
      (∃ reason, readRequest twiceFaulty.normal = .error (.invalidRequest reason)) ∧
      (∃ check : Check, check.IsFirstFault twiceFaulty.normal) ∧
      readRequest (queryRequest .null .lastHeight).normal = .ok .lastHeight := by
  obtain ⟨reads, refuses, faults, returns⟩ := requests_are_the_grammar
  have shoutedNormal : shouted.normal = shouted := by rfl
  have faultyNormal : twiceFaulty.normal = twiceFaulty := by rfl
  have first : Check.id.IsFirstFault twiceFaulty.normal := by
    rw [faultyNormal]
    have version : Check.version.Reached twiceFaulty := (Check.reached_object _).next ⟨_, rfl⟩ rfl
    refine ⟨version.next rfl rfl, ?_⟩
    rintro ⟨_, ⟨⟩, ⟨⟩⟩
  obtain ⟨error, refused, reason, rfl⟩ := refuses twiceFaulty .id first
  refine ⟨(reads shouted _).mpr ?_, ⟨reason, refused⟩, faults twiceFaulty _ refused,
    returns .null .lastHeight .null⟩
  rw [shoutedNormal]
  refine ⟨⟨_, rfl⟩, rfl, ⟨_, rfl, .null⟩, rfl, .account ⟨⟨_, rfl, ?_⟩, .given rfl ?_⟩⟩
  · exact ⟨_, rfl, rfl⟩
  · exact ⟨_, rfl, 2, rfl⟩

end LedgerNode.Rpc
