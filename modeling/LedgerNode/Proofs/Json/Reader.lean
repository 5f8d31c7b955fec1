import LedgerNode.Json.Tree

set_option autoImplicit false

namespace LedgerNode.Json.Reader

variable {α β : Type}

theorem bind_eq_ok {reader : Reader α} {next : α → Reader β} {cursor after : Cursor} {value : β} :
    (reader >>= next) cursor = .ok value after ↔
      ∃ first middle, reader cursor = .ok first middle ∧ next first middle = .ok value after := by
  change EStateM.bind reader next cursor = _ ↔ _
  unfold EStateM.bind
  cases ran : reader cursor with
  | ok first middle =>
    constructor
    · intro rest
      exact ⟨first, middle, rfl, rest⟩
    · rintro ⟨_, _, same, rest⟩
      cases same
      exact rest
  | error fault middle => simp

theorem bind_of_ok {reader : Reader α} {further : α → Reader β} {cursor after : Cursor} {value : α}
    (read : reader cursor = .ok value after) : (reader >>= further) cursor = further value after := by
  change EStateM.bind reader further cursor = _
  unfold EStateM.bind
  rw [read]

theorem bind_of_error {reader : Reader α} {further : α → Reader β} {cursor after : Cursor} {fault : Fault}
    (failed : reader cursor = .error fault after) : (reader >>= further) cursor = .error fault after := by
  change EStateM.bind reader further cursor = _
  unfold EStateM.bind
  rw [failed]

theorem pure_eq_ok {cursor after : Cursor} {value result : α} :
    (pure value : Reader α) cursor = .ok result after ↔ value = result ∧ cursor = after := by
  change EStateM.Result.ok value cursor = .ok result after ↔ _
  simp

theorem peek_apply (cursor : Cursor) : peek cursor = .ok cursor.rest.head? cursor := rfl

theorem peekToken_apply (cursor : Cursor) :
    peekToken cursor =
      .ok (skipBlanksFrom cursor.rest cursor).rest.head? (skipBlanksFrom cursor.rest cursor) :=
  rfl

theorem rest_advance (cursor : Cursor) : cursor.advance.rest = cursor.rest.tail := by
  unfold Cursor.advance
  split
  next none => simp [none]
  next some =>
    rw [some]
    split <;> rfl

theorem rest_skipBlanksFrom (bytes : Bytes) (cursor : Cursor) (same : cursor.rest = bytes) :
    (skipBlanksFrom bytes cursor).rest = bytes.dropWhile isBlank := by
  induction bytes generalizing cursor with
  | nil => exact same
  | cons byte rest ih =>
    unfold skipBlanksFrom
    cases blank : isBlank byte with
    | true =>
      rw [if_pos rfl, List.dropWhile_cons_of_pos blank]
      exact ih _ (by rw [rest_advance, same, List.tail_cons])
    | false =>
      rw [if_neg Bool.false_ne_true, List.dropWhile_cons_of_neg (by simp [blank])]
      exact same

theorem length_readItems_le {item : Reader α} {steps : Nat} {isFirst : Bool} {gathered items : List α}
    {cursor after : Cursor}
    (read : readItems item steps isFirst gathered cursor = .ok items after) :
    items.length ≤ gathered.length + steps := by
  induction steps generalizing isFirst gathered cursor with
  | zero =>
    obtain ⟨rfl, -⟩ := pure_eq_ok.mp read
    simp
  | succ steps ih =>
    unfold readItems at read
    obtain ⟨more, _, -, read⟩ := bind_eq_ok.mp read
    split at read
    next =>
      obtain ⟨value, _, -, read⟩ := bind_eq_ok.mp read
      have rest := ih read
      rw [List.length_cons] at rest
      omega
    next =>
      obtain ⟨rfl, -⟩ := pure_eq_ok.mp read
      rw [List.length_reverse]
      omega

theorem readScalar_ne_array {first : UInt8} {cursor after : Cursor} {items : List Value} :
    readScalar first cursor ≠ .ok (.array items) after := by
  intro read
  unfold readScalar at read
  split at read <;> try split at read
  all_goals
    first
    | obtain ⟨_, _, -, read⟩ := bind_eq_ok.mp read
      try obtain ⟨_, _, -, read⟩ := bind_eq_ok.mp read
      cases (pure_eq_ok.mp read).1
    | cases read

theorem readTree_succ (depth : Depth) :
    readTree (depth + 1) = (do
      match ← peekToken with
      | none => malformedNext .valueCutShort
      | some byte =>
        if byte = 0x5B then do
          advance
          let items ← readItems (readTree depth) (← budget) true []
          closeList
          return .array items
        else if byte = 0x7B then do
          advance
          let members ← readMembers (readTree depth) (← budget) true []
          closeObject
          return .object members
        else readScalar byte) := by
  rw [readTree]
  congr 1
  funext token
  cases token with
  | none => rfl
  | some byte =>
    by_cases list : byte = 0x5B
    · subst list
      rfl
    · by_cases object : byte = 0x7B
      · subst object
        rfl
      · simp [list, object]

theorem length_le_of_readTree {depth : Depth} {cursor after : Cursor} {items : List Value}
    (read : readTree (depth + 1) cursor = .ok (.array items) after) :
    items.length ≤ cursor.rest.length := by
  rw [readTree_succ] at read
  obtain ⟨token, middle, peeked, read⟩ := bind_eq_ok.mp read
  obtain ⟨rfl, rfl⟩ := pure_eq_ok.mp peeked
  have shorter : (skipBlanksFrom cursor.rest cursor).rest.length ≤ cursor.rest.length := by
    rw [rest_skipBlanksFrom cursor.rest cursor rfl]
    exact (List.dropWhile_suffix _).length_le
  -- A list opens with a bracket, and each of its items takes a step of the bytes behind that.
  cases behind : (skipBlanksFrom cursor.rest cursor).rest with
  | nil =>
    rw [behind] at read
    cases read
  | cons byte rest =>
    rw [behind, List.length_cons] at shorter
    rw [behind, List.head?_cons] at read
    simp only at read
    split at read
    next =>
      obtain ⟨_, _, advanced, read⟩ := bind_eq_ok.mp read
      obtain ⟨-, rfl⟩ := pure_eq_ok.mp advanced
      obtain ⟨steps, _, bounded, read⟩ := bind_eq_ok.mp read
      obtain ⟨rfl, rfl⟩ := pure_eq_ok.mp bounded
      obtain ⟨found, _, gathered, read⟩ := bind_eq_ok.mp read
      obtain ⟨_, _, -, read⟩ := bind_eq_ok.mp read
      obtain ⟨same, -⟩ := pure_eq_ok.mp read
      cases same
      have few := length_readItems_le gathered
      rw [rest_advance, behind, List.tail_cons, List.length_nil, Nat.zero_add] at few
      omega
    next =>
      split at read
      next =>
        obtain ⟨_, _, -, read⟩ := bind_eq_ok.mp read
        obtain ⟨_, _, -, read⟩ := bind_eq_ok.mp read
        obtain ⟨_, _, -, read⟩ := bind_eq_ok.mp read
        obtain ⟨_, _, -, read⟩ := bind_eq_ok.mp read
        cases (pure_eq_ok.mp read).1
      next => exact absurd read readScalar_ne_array

theorem run_eq_ok {reader : Reader α} {bytes : Bytes} {value : α}
    (read : reader.run bytes = .ok value) :
    ∃ after, reader (Cursor.start bytes) = .ok value after := by
  unfold run at read
  simp only at read
  split at read
  next _ after whole =>
    obtain ⟨found, middle, first, whole⟩ := bind_eq_ok.mp whole
    obtain ⟨token, _, -, whole⟩ := bind_eq_ok.mp whole
    cases token with
    | some byte => cases whole
    | none =>
      obtain ⟨rfl, -⟩ := pure_eq_ok.mp whole
      cases read
      exact ⟨middle, first⟩
  next => cases read

theorem run_of_error {reader : Reader α} {bytes : Bytes} {fault : Fault} {after : Cursor}
    (failed : reader (Cursor.start bytes) = .error fault after) : reader.run bytes = .error fault := by
  unfold run
  simp only [bind_of_error failed]

theorem length_normalItems (items : List Value) : (Value.normalItems items).length = items.length := by
  induction items with
  | nil => rfl
  | cons item rest ih => simp [Value.normalItems, ih]

theorem length_le_of_readValue {bytes : Bytes} {items : List Value}
    (read : readValue.run bytes = .ok (.array items)) : items.length ≤ bytes.length := by
  obtain ⟨after, read⟩ := run_eq_ok read
  obtain ⟨tree, middle, read, normal⟩ := bind_eq_ok.mp read
  obtain ⟨normal, -⟩ := pure_eq_ok.mp normal
  cases tree with
  | array found =>
    rw [Value.normal, Value.array.injEq] at normal
    rw [← normal, length_normalItems]
    exact length_le_of_readTree read
  | _ => simp [Value.normal] at normal

theorem normal_of_readValue {bytes : Bytes} {value : Value} (read : readValue.run bytes = .ok value) :
    ∃ written : Value, written.normal = value := by
  obtain ⟨after, read⟩ := run_eq_ok read
  obtain ⟨tree, middle, -, normal⟩ := bind_eq_ok.mp read
  exact ⟨tree, (pure_eq_ok.mp normal).1⟩

end LedgerNode.Json.Reader
