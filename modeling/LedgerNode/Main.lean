import LedgerNode.Options

set_option autoImplicit false

open LedgerNode

def readGenesis (path : String) : IO (Except FileFault Bytes) := do
  try
    let content ← IO.FS.readBinFile path
    return .ok content.data.toList
  catch fault =>
    match fault with
    | .noFileOrDirectory .. => return .error .notFound
    | other => return .error (.other (toString other))

def optionsFaultText : OptionsFault → String
  | .valueValidation => "a value is not valid"
  | .unknownArgument => "an argument is not known"
  | .unexpectedMultipleUsage => "an option is given more than once"
  | .emptyValue => "an option has no value"
  | .helpDisplayed =>
    "options: --log --ip --port --channel --timeout-ms --queue-capacity --genesis --db-path"
  | .versionDisplayed => "ledger node"

def variableNames : List String :=
  Options.specs.filterMap Options.Spec.environmentName

def readEnvironment : IO (String → Option String) := do
  let found ← variableNames.mapM (fun name => do return (name, ← IO.getEnv name))
  return fun name => (found.lookup name).join

partial def answerLines (node : Rpc.Node) : IO Unit := do
  let line ← (← IO.getStdin).getLine
  if line.isEmpty then
    return
  let (reply, after) := node.handle (Bytes.ofString line)
  let output ← IO.getStdout
  output.write (Bytes.toArray (reply.write ++ [0x0A]))
  output.flush
  answerLines after

def serveFrom (options : Options) (store : Store) : IO UInt32 := do
  match options.startNode store with
  | .ok node =>
    answerLines node
    return 0
  | .error error =>
    IO.eprintln error.message
    return 1

def main (arguments : List String) : IO UInt32 := do
  match Options.read arguments (← readEnvironment) with
  | .error fault =>
    IO.eprintln (optionsFaultText fault)
    return 2
  | .ok options =>
    options.warnings.forM (fun line => IO.eprintln line.text)
    let content ← (options.genesis.mapM readGenesis : IO (Option (Except FileFault Bytes)))
    match options.openStore (fun _ => content.getD (.error .notFound)) with
    | .error error =>
      IO.eprintln error.message
      return 1
    | .ok (store, line) =>
      IO.eprintln line.text
      serveFrom options store
