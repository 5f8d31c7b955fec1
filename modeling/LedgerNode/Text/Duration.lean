set_option autoImplicit false

namespace LedgerNode

structure Duration where
  nanoseconds : Nat
  deriving DecidableEq, Repr

namespace Duration

def ofMilliseconds (milliseconds : Nat) : Duration :=
  { nanoseconds := 1000000 * milliseconds }

def fraction (places value : Nat) : List Char :=
  let digits := Nat.toDigits 10 value
  let padded := List.replicate (places - digits.length) '0' ++ digits
  let kept := (padded.reverse.dropWhile (· = '0')).reverse
  if kept.isEmpty then [] else '.' :: kept

def inUnit (size places : Nat) (unit : String) (nanoseconds : Nat) : String :=
  toString (nanoseconds / size) ++ String.ofList (fraction places (nanoseconds % size)) ++ unit

def text (duration : Duration) : String :=
  let nanoseconds := duration.nanoseconds
  if 1000000000 ≤ nanoseconds then inUnit 1000000000 9 "s" nanoseconds
  else if 1000000 ≤ nanoseconds then inUnit 1000000 6 "ms" nanoseconds
  else if 1000 ≤ nanoseconds then inUnit 1000 3 "µs" nanoseconds
  else inUnit 1 0 "ns" nanoseconds

end Duration

end LedgerNode
