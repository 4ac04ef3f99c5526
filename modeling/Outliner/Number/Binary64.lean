namespace Outliner

inductive Binary64 where
  | nan
  | infinity (negative : Bool)
  | finite (negative : Bool) (mantissa : Nat) (exponent : Int)
deriving DecidableEq, Repr

namespace Binary64

def twoTo (exponent : Nat) : Nat :=
  Nat.pow 2 exponent

def tenTo (exponent : Nat) : Nat :=
  Nat.pow 10 exponent

def leastExponent : Int := -1074

def greatestExponent : Int := 971

/-- A quotient rounded to the nearest number; a half goes to the even neighbour. -/
def roundQuotient (numerator denominator : Nat) : Nat :=
  let quotient := numerator / denominator
  let twice := 2 * (numerator % denominator)
  if twice < denominator then quotient
  else if denominator < twice then quotient + 1
  else quotient + quotient % 2

def unscale (numerator denominator : Nat) (exponent : Int) : Nat × Nat :=
  (numerator * twoTo (-exponent).toNat, denominator * twoTo exponent.toNat)

def exponentOf (numerator denominator : Nat) : Int :=
  let guess : Int := (Nat.log2 numerator : Int) - Nat.log2 denominator - 53
  let (top, bottom) := unscale numerator denominator guess
  let exact := if top / bottom < twoTo 53 then guess else guess + 1
  max exact leastExponent

/-- The number nearest to a positive quotient. -/
def ofQuotient (negative : Bool) (numerator denominator : Nat) : Binary64 :=
  let exponent := exponentOf numerator denominator
  let (top, bottom) := unscale numerator denominator exponent
  let rounded := roundQuotient top bottom
  let (mantissa, exponent) :=
    if rounded == twoTo 53 then (twoTo 52, exponent + 1) else (rounded, exponent)
  if greatestExponent < exponent then infinity negative
  else if mantissa == 0 then finite negative 0 0
  else finite negative mantissa exponent

/-- The number nearest to `digits * 10 ^ scale`. Scales far outside the range are decided by the
number of digits alone. -/
def ofDecimal (negative : Bool) (digits : Nat) (scale : Int) : Binary64 :=
  let magnitude : Int := (Nat.toDigits 10 digits).length + scale
  if digits == 0 || magnitude < -330 then finite negative 0 0
  else if 310 < magnitude then infinity negative
  else ofQuotient negative (digits * tenTo scale.toNat) (tenTo (-scale).toNat)

def negate : Binary64 → Binary64
  | nan => nan
  | infinity negative => infinity (!negative)
  | finite _ 0 exponent => finite false 0 exponent
  | finite negative mantissa exponent => finite (!negative) mantissa exponent

def ofInt (value : Int) : Binary64 :=
  ofDecimal (value < 0) value.natAbs 0

def mul : Binary64 → Binary64 → Binary64
  | finite negative mantissa exponent, finite otherNegative otherMantissa otherExponent =>
    let product := mantissa * otherMantissa
    let scale := exponent + otherExponent
    if product == 0 then finite (negative != otherNegative) 0 0
    else ofQuotient (negative != otherNegative) (product * twoTo scale.toNat) (twoTo (-scale).toNat)
  | finite negative mantissa _, infinity other | infinity other, finite negative mantissa _ =>
    if mantissa == 0 then nan else infinity (negative != other)
  | infinity negative, infinity other => infinity (negative != other)
  | nan, _ | _, nan => nan

/-- The whole part of a number, without what follows the point. Only a finite number has one. -/
def whole? : Binary64 → Option Int
  | finite negative mantissa exponent =>
    let size : Int := (mantissa * twoTo exponent.toNat / twoTo (-exponent).toNat : Nat)
    some (if negative then -size else size)
  | _ => none

end Binary64

end Outliner
