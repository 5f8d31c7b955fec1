set_option autoImplicit false

namespace LedgerNode

inductive Method where
  | balance
  | account
  | lastHeight
  deriving DecidableEq, Repr

namespace Method

def all : List Method :=
  [balance, account, lastHeight]

def name : Method → String
  | balance => "icx_getBalance"
  | account => "icx_getAccount"
  | lastHeight => "icx_getLastBlockHeight"

def ofName? (name : String) : Option Method :=
  all.find? (fun method => method.name = name)

theorem ofName?_name (method : Method) : ofName? method.name = some method := by
  cases method <;> decide

end Method

end LedgerNode
