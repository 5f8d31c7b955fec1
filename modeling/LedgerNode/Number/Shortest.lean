import LedgerNode.Number.Binary64

set_option autoImplicit false

namespace LedgerNode

structure Decimal where
  digits : List Char
  exponent : Int
  deriving DecidableEq, Repr

namespace Binary64

/-- Four times a positive number and its distances to the ends of the reals that round to it. -/
structure Interval where
  below : Nat
  value : Nat
  above : Nat
  denominator : Nat
  closed : Bool

-- The gap below a power of two is half of the gap above it.
def interval (number : Binary64) : Interval :=
  let significand := number.significand
  let narrow := significand = leastNormal && number.exponent ≠ minExponent
  let (unit, denominator) := scale 1 1 (number.exponent - 2)
  { below := unit * (4 * significand - if narrow then 1 else 2)
    value := unit * (4 * significand)
    above := unit * (4 * significand + 2)
    denominator := denominator
    closed := significand % 2 = 0 }

def Interval.contains (interval : Interval) (numerator denominator : Nat) : Bool :=
  let point := numerator * interval.denominator
  let below := interval.below * denominator
  let above := interval.above * denominator
  if interval.closed then below ≤ point && point ≤ above else below < point && point < above

-- Shifted by so many places, every positive number has digits in front of the point.
def leadingPlaces : Nat := 400

def Interval.leading (interval : Interval) : Int :=
  let shifted := interval.value * Nat.pow 10 leadingPlaces / interval.denominator
  Int.ofNat (Nat.toDigits 10 shifted).length - Int.ofNat (leadingPlaces + 1)

def powerOfTen : Int → Nat × Nat
  | .ofNat exponent => (Nat.pow 10 exponent, 1)
  | .negSucc exponent => (1, Nat.pow 10 (exponent + 1))

def Interval.pointOfLength? (interval : Interval) (count : Nat) : Option Nat :=
  let (numerator, denominator) := powerOfTen (interval.leading + 1 - Int.ofNat count)
  let floor := interval.value * denominator / (interval.denominator * numerator)
  let reads (point : Nat) := interval.contains (point * numerator) denominator
  let twice := 2 * interval.value * denominator
  let middle := (2 * floor + 1) * numerator * interval.denominator
  match reads floor, reads (floor + 1) with
  | true, true =>
    if twice < middle || (twice = middle && floor % 2 = 0) then some floor else some (floor + 1)
  | true, false => some floor
  | false, true => some (floor + 1)
  | false, false => none

/--
The decimals with one digit, with two, and so on form ever finer grids. The first grid that has a point among
the reals rounding to the number gives the digits, and of its two points beside the number the nearer is taken.
-/
def shortest (number : Binary64) : Decimal :=
  let interval := number.interval
  -- Seventeen digits tell all doubles apart, so the search ends inside the range.
  match (List.range' 1 17).findSome? (fun count =>
      (interval.pointOfLength? count).map (fun point => (count, point))) with
  | none => { digits := ['0'], exponent := 0 }
  | some (count, point) =>
    let digits := Nat.toDigits 10 point
    { digits := (digits.reverse.dropWhile (· = '0')).reverse
      exponent := interval.leading + Int.ofNat digits.length - Int.ofNat count }

end Binary64

end LedgerNode
