import LedgerNode.Rpc.Node
import LedgerNode.Seeding

set_option autoImplicit false

/-!
The command line. The values of an option are those written after its name or its letter, in their
order, and last the one of its variable in the environment; a default stands in only where there is
no value at all. The first value counts, but all of them have to be well formed. Arguments are looked
at from the left, and the first one that is unknown is refused before any value is checked.
-/

namespace LedgerNode

structure Options where
  log : String
  ip : String
  listenPort : UInt16
  channel : String
  timeoutMilliseconds : UInt64
  queueCapacity : UInt64
  genesis : Option String
  dbPath : Option String
  deriving DecidableEq, Repr

inductive OptionsFault where
  | valueValidation
  | unknownArgument
  | unexpectedMultipleUsage
  | emptyValue
  | helpDisplayed
  | versionDisplayed
  deriving DecidableEq, Repr

namespace Options

structure Spec where
  name : String
  letter : Option Char
  environmentName : Option String
  standard : Option String
  limit : Option Nat
  deriving DecidableEq, Repr

def logSpec : Spec := ⟨"log", some 'l', none, some "warn", none⟩
def ipSpec : Spec := ⟨"ip", some 'i', none, some "127.0.0.1", none⟩
def listenPortSpec : Spec := ⟨"port", some 'p', none, some "9000", some UInt16.size⟩
def channelSpec : Spec := ⟨"channel", none, some "ICON_CHANNEL", some "icon_dex", none⟩
def timeoutSpec : Spec :=
  ⟨"timeout-ms", none, some "ICON_RPC_TIMEOUT_MS", some "3000", some UInt64.size⟩
def capacitySpec : Spec :=
  ⟨"queue-capacity", none, some "ICON_QUEUE_CAPACITY", some "1024", some UInt64.size⟩
def genesisSpec : Spec := ⟨"genesis", none, some "ICON_GENESIS", none, none⟩
def dbPathSpec : Spec := ⟨"db-path", none, some "ICON_DB_PATH", none, none⟩

def specs : List Spec :=
  [logSpec, ipSpec, listenPortSpec, channelSpec, timeoutSpec, capacitySpec, genesisSpec, dbPathSpec]

structure Usage where
  name : String
  value : Option String
  deriving DecidableEq, Repr

inductive Token where
  | awaiting (name : String)
  | closed (usage : Usage)
  | endOfOptions
  | stray
  deriving DecidableEq, Repr

def attachedValue (characters : List Char) : String :=
  String.ofList (characters.dropWhile (· = '='))

def longToken (characters : List Char) : Except OptionsFault Token :=
  let name := String.ofList (characters.takeWhile (· ≠ '='))
  let attached := characters.dropWhile (· ≠ '=')
  if name = "help" then .error .helpDisplayed
  else if name = "version" then .error .versionDisplayed
  else if specs.any (fun spec => spec.name = name) then
    if attached.isEmpty then .ok (.awaiting name)
    else .ok (.closed { name, value := some (attachedValue attached) })
  else
    .error .unknownArgument

def shortToken (letter : Char) (attached : List Char) : Except OptionsFault Token :=
  if letter = 'h' then .error .helpDisplayed
  else if letter = 'V' then .error .versionDisplayed
  else
    match specs.find? (fun spec => spec.letter = some letter) with
    | none => .error .unknownArgument
    | some spec =>
      if attached.isEmpty then .ok (.awaiting spec.name)
      else .ok (.closed { name := spec.name, value := some (attachedValue attached) })

def token (argument : String) : Except OptionsFault Token :=
  match argument.toList with
  | ['-', '-'] => .ok .endOfOptions
  | '-' :: '-' :: rest => longToken (rest.dropWhile (· = '-'))
  | '-' :: letter :: attached => shortToken letter attached
  | _ => .ok .stray

def startsOption (argument : String) : Bool :=
  match argument.toList with
  | '-' :: _ :: _ => true
  | _ => false

def usages : Option String → List String → Except OptionsFault (List Usage)
  | none, [] => .ok []
  | some name, [] => .ok [{ name, value := none }]
  | waiting, argument :: rest =>
    match waiting, startsOption argument with
    | some name, false => do
      return { name, value := some argument } :: (← usages none rest)
    | _, _ => do
      let before := (waiting.map (fun name => { name, value := none : Usage })).toList
      match ← token argument with
      | .awaiting name => return before ++ (← usages (some name) rest)
      | .closed usage => return before ++ usage :: (← usages none rest)
      | .endOfOptions => if rest.isEmpty then return before else throw .unknownArgument
      | .stray => throw .unknownArgument

def number? (limit : Nat) (text : String) : Option Nat :=
  let digits := match text.toList with
    | '+' :: rest => rest
    | characters => characters
  (Quantity.readDigits 10 limit digits).toOption

def occurrences (given : List Usage) (spec : Spec) : List Usage :=
  given.filter (fun usage => usage.name = spec.name)

def values (environment : String → Option String) (given : List Usage) (spec : Spec) :
    List String :=
  let written := (occurrences given spec).filterMap Usage.value
  -- The environment is asked also where the option has a value.
  let found := written ++ (spec.environmentName.bind environment).toList
  if found.isEmpty then spec.standard.toList else found

def resolve (environment : String → Option String) (given : List Usage) (spec : Spec) :
    Except OptionsFault (Option String) := do
  let values := values environment given spec
  match spec.limit with
  | some limit =>
    if values.any (fun value => (number? limit value).isNone) then throw .valueValidation
  | none => pure ()
  -- A bad value is reported even where the option is given twice.
  if 1 < (occurrences given spec).length then throw .unexpectedMultipleUsage
  return values.head?

def lacksValue (environment : String → Option String) (given : List Usage) (spec : Spec) : Bool :=
  !(occurrences given spec).isEmpty && (values environment given spec).isEmpty

def numberOf (limit : Nat) (value : Option String) : Nat :=
  (value.bind (number? limit)).getD 0

def read (arguments : List String) (environment : String → Option String) :
    Except OptionsFault Options := do
  let given ← usages none arguments
  if specs.any (lacksValue environment given) then throw .emptyValue
  let value := resolve environment given
  let log ← value logSpec
  let ip ← value ipSpec
  let listenPort ← value listenPortSpec
  let channel ← value channelSpec
  let timeout ← value timeoutSpec
  let capacity ← value capacitySpec
  let genesis ← value genesisSpec
  let dbPath ← value dbPathSpec
  return {
    log := log.getD ""
    ip := ip.getD ""
    listenPort := UInt16.ofNat (numberOf UInt16.size listenPort)
    channel := channel.getD ""
    timeoutMilliseconds := UInt64.ofNat (numberOf UInt64.size timeout)
    queueCapacity := UInt64.ofNat (numberOf UInt64.size capacity)
    genesis := genesis
    dbPath := dbPath }

def timeout (options : Options) : Duration :=
  Duration.ofMilliseconds options.timeoutMilliseconds.toNat

def warnings (options : Options) : List LogLine :=
  if options.dbPath.isSome then [.databaseIgnored] else []

def openStore (options : Options) (contentOf : String → Except FileFault Bytes) :
    Except StorageError (Store × LogLine) :=
  Store.empty.seed (options.genesis.map (fun path => { path, content := contentOf path }))

def startNode (options : Options) (store : Store) : Except Bus.BusError Rpc.Node :=
  Rpc.Node.start store options.channel options.queueCapacity.toNat options.timeout

end Options

end LedgerNode
