import LedgerNode.Number.Shortest
import LedgerNode.Text.Bytes

set_option autoImplicit false

namespace LedgerNode.Json

inductive Number where
  | integer (value : Int)
  | float (value : Binary64)
  deriving DecidableEq, Repr

inductive Value where
  | null
  | boolean (value : Bool)
  | number (value : Number)
  | string (value : String)
  | array (items : List Value)
  | object (members : List (String × Value))
  deriving Repr, Inhabited

def insertMember (name : String) (value : Value) : List (String × Value) → List (String × Value)
  | [] => [(name, value)]
  | head :: rest =>
    if name < head.1 then (name, value) :: head :: rest
    else if name = head.1 then (name, value) :: rest
    else head :: insertMember name value rest

def orderMembers (members : List (String × Value)) : List (String × Value) :=
  members.foldl (fun ordered member => insertMember member.1 member.2 ordered) []

namespace Value

mutual

/-- Every object has each name once, with the value written last, in ascending order of names. -/
def normal : Value → Value
  | .array items => .array (normalItems items)
  | .object members => .object (orderMembers (normalMembers members))
  | value => value

def normalItems : List Value → List Value
  | [] => []
  | item :: rest => item.normal :: normalItems rest

def normalMembers : List (String × Value) → List (String × Value)
  | [] => []
  | member :: rest => normalMember member :: normalMembers rest

def normalMember : String × Value → String × Value
  | (name, value) => (name, value.normal)

end

def member? (name : String) (members : List (String × Value)) : Option Value :=
  members.lookup name

def asString? : Value → Option String
  | .string text => some text
  | _ => none

end Value

/-- The notation of floats: plain for leading exponents from -5 to 15, else with an exponent. -/
def floatCharacters (decimal : Decimal) : List Char :=
  match decimal.exponent with
  | .ofNat exponent =>
    if exponent ≤ 15 then
      let whole := decimal.digits.take (exponent + 1)
      let fraction := decimal.digits.drop (exponent + 1)
      whole ++ List.replicate (exponent + 1 - whole.length) '0' ++ ['.'] ++
        (if fraction.isEmpty then ['0'] else fraction)
    else
      scientific '+' exponent
  | .negSucc below =>
    if below < 5 then ['0', '.'] ++ List.replicate below '0' ++ decimal.digits
    else scientific '-' (below + 1)
where
  scientific (sign : Char) (exponent : Nat) : List Char :=
    let mantissa :=
      match decimal.digits with
      | [] => ['0']
      | [digit] => [digit]
      | digit :: rest => digit :: '.' :: rest
    mantissa ++ ['e', sign] ++ Nat.toDigits 10 exponent

def floatText (value : Binary64) : String :=
  let characters := if value.isZero then ['0', '.', '0'] else floatCharacters value.shortest
  String.ofList (if value.negative then '-' :: characters else characters)

namespace Number

def text : Number → String
  | .integer (.ofNat value) => String.ofList (Nat.toDigits 10 value)
  | .integer (.negSucc value) => String.ofList ('-' :: Nat.toDigits 10 (value + 1))
  | .float value => floatText value

end Number

end LedgerNode.Json
