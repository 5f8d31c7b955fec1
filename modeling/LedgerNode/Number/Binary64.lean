set_option autoImplicit false

/-!
Finite double-precision numbers in exact integer arithmetic. A number is a significand below
`2 ^ 53` times a power of two; every operation computes its exact result as a fraction and rounds
that once, to the nearest number with ties to the even significand.
-/

namespace LedgerNode

structure Binary64 where
  negative : Bool
  significand : Nat
  exponent : Int
  deriving DecidableEq, Repr

namespace Binary64

def precision : Nat := 53

def significandLimit : Nat := 0x20000000000000

def leastNormal : Nat := 0x10000000000000

def minExponent : Int := -1074

def maxExponent : Int := 971

def zero (negative : Bool) : Binary64 where
  negative := negative
  significand := 0
  exponent := minExponent

def isZero (number : Binary64) : Bool :=
  number.significand = 0

def negate (number : Binary64) : Binary64 :=
  { number with negative := !number.negative }

def roundDivide (numerator denominator : Nat) : Nat :=
  let quotient := numerator / denominator
  let twice := 2 * (numerator % denominator)
  if denominator < twice || (denominator = twice && quotient % 2 = 1) then
    quotient + 1
  else
    quotient

def scale (numerator denominator : Nat) : Int → Nat × Nat
  | .ofNat shift => (numerator <<< shift, denominator)
  | .negSucc shift => (numerator, denominator <<< (shift + 1))

/-- The number nearest to a fraction, or nothing where that is beyond the largest number. -/
def nearest (negative : Bool) (numerator denominator : Nat) : Option Binary64 :=
  if numerator = 0 then
    some (zero negative)
  else
    let guess : Int := Int.ofNat numerator.log2 - Int.ofNat denominator.log2 - Int.ofNat precision
    let (top, bottom) := scale numerator denominator (-guess)
    let exponent := max minExponent (if top / bottom < significandLimit then guess else guess + 1)
    let (top, bottom) := scale numerator denominator (-exponent)
    let rounded := roundDivide top bottom
    let (significand, exponent) :=
      if rounded = significandLimit then (leastNormal, exponent + 1) else (rounded, exponent)
    if maxExponent < exponent then none else some { negative, significand, exponent }

def ofNat (value : Nat) : Option Binary64 :=
  nearest false value 1

def multiply (left right : Binary64) : Option Binary64 :=
  let (numerator, denominator) :=
    scale (left.significand * right.significand) 1 (left.exponent + right.exponent)
  nearest (left.negative != right.negative) numerator denominator

-- The divisor is not zero.
def divide (left right : Binary64) : Option Binary64 :=
  let (numerator, denominator) :=
    scale left.significand right.significand (left.exponent - right.exponent)
  nearest (left.negative != right.negative) numerator denominator

end Binary64

end LedgerNode
