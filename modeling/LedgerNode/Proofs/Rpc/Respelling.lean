import LedgerNode.Proofs.Rpc.Fidelity
import LedgerNode.Proofs.Rpc.Grammar
import LedgerNode.Proofs.Storage.Listing

set_option autoImplicit false

namespace LedgerNode

namespace Quantity

/-- Two hex numbers with digits that differ in their case and in the zeros in front at most. -/
def Repadded (first second : String) : Prop :=
  ∃ digits others rest zeros more, first.toList = '0' :: 'x' :: digits ∧
    second.toList = '0' :: 'x' :: others ∧
    digits.map Char.toLower = List.replicate zeros '0' ++ rest ∧
    others.map Char.toLower = List.replicate more '0' ++ rest

theorem HexSpells.of_mark {text : String} {value limit zeros : Nat} {digits rest : List Char}
    (spelled : HexSpells text value) (characters : text.toList = '0' :: 'x' :: digits)
    (lower : digits.map Char.toLower = List.replicate zeros '0' ++ rest) (fits : value < limit) :
    accumulate 16 limit 0 rest = .ok value := by
  obtain ⟨own, same, spelled⟩ := spelled
  cases characters.symm.trans same
  have read := accumulate_of_spell (by decide) (Nat.le_refl 16) spelled fits
  rw [← accumulate_toLower (Nat.le_refl 16), lower, accumulate_zeros (by decide) (by omega)] at read
  exact read

theorem Repadded.value_eq {first second : String} {value other : Nat}
    (repadded : Repadded first second) (one : HexSpells first value) (two : HexSpells second other) :
    value = other := by
  obtain ⟨digits, others, rest, zeros, more, characters, alike, lower, low⟩ := repadded
  have bounded : value < value + other + 1 := by omega
  have within : other < value + other + 1 := by omega
  have read := one.of_mark characters lower bounded
  exact Except.ok.inj (read.symm.trans (two.of_mark alike low within))

end Quantity

namespace Rpc

open Json Bus

inductive Respelling (same : String → String → Prop) : Option Value → Option Value → Prop where
  | shared (found : Option Value) : Respelling same found found
  | texts {first second : String} (related : same first second) :
      Respelling same (some (.string first)) (some (.string second))

structure RespelledParams (first second : List (String × Value)) : Prop where
  address : Respelling Address.Recased (Value.member? "address" first) (Value.member? "address" second)
  height : Respelling Quantity.Repadded (Value.member? "height" first) (Value.member? "height" second)

/--
Requests with one id and one method, of which the parameters differ at most in how the address and the
height are spelled. Members that no one looks at may differ besides.
-/
structure Respelled (first second : Value) : Prop where
  id : member "id" first = member "id" second
  method : member "method" first = member "method" second
  params : ∀ own other, member "params" first = some (.object own) →
    member "params" second = some (.object other) → RespelledParams own other

theorem Method.name_inj {one other : Method} (same : one.name = other.name) : one = other := by
  have known := one.ofName?_name
  rw [same, other.ofName?_name] at known
  exact (Option.some.inj known).symm

section Respelled

variable {first second : Value} {query other : Query} {one two : List (String × Value)}

theorem RespelledParams.height_eq {height another : Option UInt64} (respelled : RespelledParams one two)
    (here : SpellsHeight one height) (there : SpellsHeight two another) : height = another := by
  have alike := respelled.height
  cases here with
  | absent named | null named =>
    rw [named] at alike
    cases there with
    | absent | null => rfl
    | given also =>
      rw [also] at alike
      cases alike
  | given named spelled =>
    rw [named] at alike
    cases there with
    | absent also | null also =>
      rw [also] at alike
      cases alike
    | given also spelledToo =>
      rw [also] at alike
      refine congrArg some (UInt64.toNat_inj.mp ?_)
      cases alike with
      | shared => exact spelled.unique spelledToo
      | texts related => exact related.value_eq spelled spelledToo

theorem RespelledParams.account_eq {account another : AccountParams}
    (respelled : RespelledParams one two) (here : SpellsAccount one account)
    (there : SpellsAccount two another) : account = another := by
  obtain ⟨text, named, spelled⟩ := here.address
  obtain ⟨others, also, spelledToo⟩ := there.address
  have alike := respelled.address
  rw [named, also] at alike
  have address : account.address = another.address := by
    cases alike with
    | shared => exact spelled.unique spelledToo
    | texts related => exact related.address_eq spelled spelledToo
  have height := respelled.height_eq here.height there.height
  cases account
  cases another
  congr

theorem Respelled.query_eq (respelled : Respelled first second) (asks : Asks first query)
    (too : Asks second other) : query = other := by
  have named := asks.named
  rw [respelled.method, too.named] at named
  have params := respelled.params
  have here := asks.params
  have there := too.params
  have method : other.method = query.method := Method.name_inj (by simpa using named)
  generalize member "params" first = found at here params
  generalize member "params" second = also at there params
  cases here with
  | balance spelled =>
    cases there with
    | balance also => exact congrArg Query.balance ((params _ _ rfl rfl).account_eq spelled also)
    | account | absent | null | empty => cases method
  | account spelled =>
    cases there with
    | account also => exact congrArg Query.account ((params _ _ rfl rfl).account_eq spelled also)
    | balance | absent | null | empty => cases method
  | absent | null | empty =>
    cases there with
    | balance | account => cases method
    | absent | null | empty => rfl

end Respelled

section Answers

variable {store : Store} {node : Node} {body : Bytes} {value id : Value} {query : Query}

theorem Asks.responseId (asks : Asks value query) (own : member "id" value = some id) :
    Rpc.responseId value = id := by
  obtain ⟨members, rfl⟩ := asks.object
  obtain ⟨found, there, scalar⟩ := asks.identified
  obtain rfl := Option.some.inj (there.symm.trans own)
  have named : Value.member? "id" members = some found := there
  cases scalar <;> simp [Rpc.responseId, named]

theorem asks_of_accepted (reads : Reader.readValue.run body = .ok value)
    (accepted : readRequest value = .ok query) : Asks value query := by
  obtain ⟨written, rfl⟩ := Reader.normal_of_readValue reads
  exact asks_of_readRequest accepted

theorem handle_asks (served : FrontEnd.Served (storeResponder store) node.frontEnd)
    (same : node.store = store) (reads : Reader.readValue.run body = .ok value)
    (asks : Asks value query) (own : member "id" value = some id) :
    (node.handle body).1 = .single { id, outcome := replyResult (query.answer store) } := by
  obtain ⟨written, rfl⟩ := Reader.normal_of_readValue reads
  have read := asks.readRequest
  have responded := asks.responseId own
  obtain ⟨members, object⟩ := asks.object
  rw [object] at reads read responded
  rw [handle_query served same reads read, responded]

end Answers

def Node.Returns (node : Node) (query : Query) (result : Value) : Prop :=
  ∀ (body : Bytes) (value id : Value), Reader.readValue.run body = .ok value → Asks value query →
    member "id" value = some id → (node.handle body).1 = .single (.success id result)

structure Node.AnswersListing (node : Node) (listing : Genesis.Listing) : Prop where
  listed : ∀ entry ∈ listing.entries, ∃ address number, Address.Spells entry.address address ∧
    Quantity.Spells entry.balance number ∧
    ∀ height, height = none ∨ height = some (listing.height.getD 0) →
      node.Returns (.balance { address, height }) (.string (Quantity.toHex number))
  unlisted : ∀ address, (∀ entry ∈ listing.entries, ¬Address.Spells entry.address address) →
    ∀ height, height = none ∨ height = some (listing.height.getD 0) →
      node.Returns (.balance { address, height }) (.string "0x0")
  height : node.Returns .lastHeight (.string (Quantity.toHex (listing.height.getD 0).toNat))

theorem returns_of_answer {store : Store} {node : Node} {query : Query} {answer : Answer}
    (served : FrontEnd.Served (storeResponder store) node.frontEnd) (same : node.store = store)
    (known : query.answer store = .ok answer) : node.Returns query (resultValue answer) := by
  intro body value id reads asks own
  rw [handle_asks served same reads asks own, known]
  rfl

theorem answer_balance {store : Store} {stored : Option UInt64} {params : AccountParams} {balance : Balance}
    (last : store.lastHeight = .ok stored)
    (asked : params.height = none ∨ params.height = some (stored.getD 0))
    (known : store.balance params.address = .ok balance) :
    (Query.balance params).answer store = .ok (.balance balance) := by
  have answered : (Query.balance params).answer store = _ := Query.answer_latest last asked
  rw [answered, Query.answerAt, known]
  rfl

theorem answersListing {genesis : Genesis} {listing : Genesis.Listing} {node : Node}
    (distinct : genesis.addresses.Nodup) (gives : listing.Gives genesis)
    (served : FrontEnd.Served (storeResponder (genesis.apply .empty)) node.frontEnd)
    (same : node.store = genesis.apply .empty) : node.AnswersListing listing := by
  have last := (Genesis.takesEffect_apply genesis distinct .empty).height
  have height : genesis.height = listing.height.getD 0 := gives.height
  refine ⟨fun entry member => ?_, fun address absent asked latest => ?_, ?_⟩
  · obtain ⟨account, listed, spelled⟩ := gives.listed member
    refine ⟨account.address, account.balance.toNat, spelled.address, spelled.balance,
      fun asked latest => ?_⟩
    rw [← height] at latest
    exact returns_of_answer served same (answer_balance last latest (Genesis.balance_listed distinct listed))
  · have unlisted : address ∉ genesis.addresses := by
      intro listed
      obtain ⟨entry, member, spelled⟩ := gives.source listed
      exact absent entry member spelled
    rw [← height] at latest
    exact returns_of_answer served same
      (answer_balance last latest (Genesis.balance_unlisted distinct unlisted))
  · have answer : Query.lastHeight.answer (genesis.apply .empty) = .ok (.height genesis.height) :=
      Query.answer_latest last (.inl rfl)
    rw [← height]
    exact returns_of_answer served same answer

/--
A node answers with the numbers that the seeding file lists, however addresses, numbers and heights are
spelled in the file and in the requests. Requests that differ in such spellings only get one reply.
-/
theorem answers_whatever_the_spelling :
    (∀ (path text channel : String) (genesis : Genesis) (capacity : Nat) (timeout : Duration),
      Genesis.read (Bytes.ofString text) = .ok genesis → 0 < timeout.nanoseconds →
      ∃ listing store line started, Genesis.Listing.read (Bytes.ofString text) = .ok listing ∧
        Store.empty.seed (some { path, content := .ok (Bytes.ofString text) }) = .ok (store, line) ∧
        Node.start store channel capacity timeout = .ok started ∧
        ∀ node, started.Later node → node.AnswersListing listing) ∧
    ∀ (store : Store) (channel : String) (capacity : Nat) (timeout : Duration),
      0 < timeout.nanoseconds →
      ∃ started, Node.start store channel capacity timeout = .ok started ∧
        ∀ node other, started.Later node → started.Later other →
        ∀ (body another : Bytes) (first second : Value) (query asked : Query),
          Reader.readValue.run body = .ok first → Reader.readValue.run another = .ok second →
          readRequest first = .ok query → readRequest second = .ok asked →
          Respelled first second → (node.handle body).1 = (other.handle another).1 := by
  refine ⟨?_, ?_⟩
  · intro path text channel genesis capacity timeout accepted patient
    obtain ⟨listing, reads, gives⟩ := Genesis.exists_listing accepted
    obtain ⟨line, seeded⟩ := Genesis.seed_empty path accepted
    obtain ⟨frontEnd, started, same⟩ := Node.start_eq (genesis.apply .empty) channel capacity timeout
    refine ⟨listing, _, line, _, reads, seeded, same, fun node later => ?_⟩
    have ⟨kept, served⟩ : node.store = genesis.apply .empty ∧
        FrontEnd.Served (storeResponder (genesis.apply .empty)) node.frontEnd :=
      later.served (.started patient started)
    exact answersListing (Genesis.nodup_of_read accepted) gives served kept
  · intro store channel capacity timeout patient
    obtain ⟨frontEnd, started, same⟩ := Node.start_eq store channel capacity timeout
    refine ⟨_, same, ?_⟩
    intro node other later laterToo body another first second query asked reads also accepted acceptedToo
      respelled
    have patiently : FrontEnd.Served (storeResponder store) frontEnd := .started patient started
    have ⟨kept, served⟩ : node.store = store ∧ FrontEnd.Served (storeResponder store) node.frontEnd :=
      later.served patiently
    have ⟨keptToo, servedToo⟩ : other.store = store ∧
        FrontEnd.Served (storeResponder store) other.frontEnd := laterToo.served patiently
    have asks := asks_of_accepted reads accepted
    have asksToo := asks_of_accepted also acceptedToo
    obtain ⟨id, own, -⟩ := asks.identified
    obtain rfl := respelled.query_eq asks asksToo
    rw [handle_asks served kept reads asks own,
      handle_asks servedToo keptToo also asksToo (respelled.id.symm.trans own)]

def oddFile : String :=
  "\x7b\"accounts\":[\x7b\"balance\":\"0x00Ff\",\"address\":\"hx0A0a0A0a0A0a0A0a0A0a0A0a0A0a0A0a0A0a0A0a\"\x7d]\x7d"

def oddGenesis : Genesis where
  height := 0
  accounts := [{ address := .filled .eoa 10, balance := 255 }]

def plainBody : Bytes :=
  Bytes.ofString ("\x7b\"jsonrpc\":\"2.0\",\"id\":7,\"method\":\"icx_getBalance\",\"params\":" ++
    "\x7b\"address\":\"hx0a0a0a0a0a0a0a0a0a0a0a0a0a0a0a0a0a0a0a0a\",\"height\":\"0x0\"\x7d\x7d")

def oddBody : Bytes :=
  Bytes.ofString ("\x7b\"params\":\x7b\"height\":\"0x000\"," ++
    "\"address\":\"hx0a0A0a0A0a0A0a0A0a0A0a0A0a0A0a0A0a0A0a0A\"\x7d,\"method\":\"icx_getBalance\"," ++
    "\"id\":7,\"jsonrpc\":\"2.0\"\x7d")

def balanceValue (address height : String) : Value :=
  .object [("id", .number (.integer 7)), ("jsonrpc", .string "2.0"), ("method", .string "icx_getBalance"),
    ("params", .object [("address", .string address), ("height", .string height)])]

set_option maxRecDepth 2000 in
theorem oddFile_answered :
    ∃ store line started other,
      Store.empty.seed (some ⟨"genesis.json", .ok (Bytes.ofString oddFile)⟩) = .ok (store, line) ∧
      Node.start store "icon_dex" 4 ⟨1000⟩ = .ok started ∧
      (started.handle oddBody).1 = .single (.success (.number (.integer 7)) (.string "0xff")) ∧
      Node.start (Store.empty.putHeight 3) "icon_dex" 4 ⟨1000⟩ = .ok other ∧
      (other.handle plainBody).1 = (other.handle oddBody).1 := by
  obtain ⟨fromFile, alike⟩ := answers_whatever_the_spelling
  have accepted : Genesis.read (Bytes.ofString oddFile) = .ok oddGenesis := rfl
  obtain ⟨listing, store, line, started, listed, seeded, same, answers⟩ :=
    fromFile "genesis.json" oddFile "icon_dex" oddGenesis 4 ⟨1000⟩ accepted (by decide)
  obtain ⟨other, begun, replies⟩ := alike (Store.empty.putHeight 3) "icon_dex" 4 ⟨1000⟩ (by decide)
  let plain := balanceValue "hx0a0a0a0a0a0a0a0a0a0a0a0a0a0a0a0a0a0a0a0a" "0x0"
  let odd := balanceValue "hx0a0A0a0A0a0A0a0A0a0A0a0A0a0A0a0A0a0A0a0A" "0x000"
  have reads : Reader.readValue.run plainBody = .ok plain := rfl
  have readsOdd : Reader.readValue.run oddBody = .ok odd := rfl
  have accepts : readRequest plain = .ok (.balance { address := .filled .eoa 10, height := some 0 }) := rfl
  have acceptsOdd : readRequest odd = .ok (.balance { address := .filled .eoa 10, height := some 0 }) := rfl
  refine ⟨store, line, started, other, seeded, same, ?_, begun, ?_⟩
  · have known : Genesis.Listing.read (Bytes.ofString oddFile) = .ok {
        height := none
        entries := [⟨"hx0A0a0A0a0A0a0A0a0A0a0A0a0A0a0A0a0A0a0A0a", "0x00Ff"⟩] } := rfl
    obtain rfl := Except.ok.inj (known.symm.trans listed)
    obtain ⟨address, number, spelled, numbered, returns⟩ :=
      (answers started .same).listed _ List.mem_cons_self
    have own : Address.Spells "hx0A0a0A0a0A0a0A0a0A0a0A0a0A0a0A0a0A0a0A0a" (.filled .eoa 10) :=
      ⟨_, rfl, rfl⟩
    obtain rfl := own.unique spelled
    have worth : Quantity.Spells "0x00Ff" 255 := .inl ⟨_, rfl, 2, rfl⟩
    obtain rfl := worth.unique numbered
    exact returns (some 0) (.inr rfl) oddBody odd _ readsOdd (asks_of_accepted readsOdd acceptsOdd) rfl
  · have spelled : Address.Spells "hx0a0a0a0a0a0a0a0a0a0a0a0a0a0a0a0a0a0a0a0a" (.filled .eoa 10) :=
      ⟨_, rfl, rfl⟩
    have also : Address.Spells "hx0a0A0a0A0a0A0a0A0a0A0a0A0a0A0a0A0a0A0a0A" (.filled .eoa 10) :=
      ⟨_, rfl, rfl⟩
    have recased := Address.recased_of_spells spelled also
    have repadded : Quantity.Repadded "0x0" "0x000" := ⟨_, _, [], 1, 3, rfl, rfl, rfl, rfl⟩
    refine replies other other .same .same plainBody oddBody plain odd _ _ reads readsOdd accepts
      acceptsOdd ⟨rfl, rfl, ?_⟩
    rintro _ _ ⟨⟩ ⟨⟩
    exact ⟨.texts recased, .texts repadded⟩

end Rpc

end LedgerNode
