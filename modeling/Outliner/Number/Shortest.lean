import Outliner.Number.Binary64
import Outliner.Text.Basic

namespace Outliner.Binary64

/-- The reals that round to a number, scaled to integers over a common denominator: the number
itself, the two ends, and whether the ends belong to it. -/
structure Interval where
  value : Nat
  low : Nat
  high : Nat
  denominator : Nat
  closed : Bool

/-- The interval of `mantissa * 2 ^ exponent`. Below a power of two the neighbour is only half as
far away. -/
def interval (mantissa : Nat) (exponent : Int) : Interval :=
  let scale := twoTo (exponent - 2).toNat
  let gap := if mantissa == twoTo 52 && leastExponent < exponent then 1 else 2
  { value := 4 * mantissa * scale
    low := (4 * mantissa - gap) * scale
    high := (4 * mantissa + 2) * scale
    denominator := twoTo (2 - exponent).toNat
    closed := mantissa % 2 == 0 }

def Interval.holds (range : Interval) (digits : Nat) (scale : Int) : Bool :=
  let up := tenTo (-scale).toNat
  let point := digits * range.denominator * tenTo scale.toNat
  if range.closed then range.low * up ≤ point && point ≤ range.high * up
  else range.low * up < point && point < range.high * up

/-- The decimal on the grid of `10 ^ scale` that lies in an interval, the nearer one of two; of two
equally near ones the even one. -/
def Interval.onGrid? (range : Interval) (scale : Int) : Option Nat :=
  let top := range.value * tenTo (-scale).toNat
  let bottom := range.denominator * tenTo scale.toNat
  let below := top / bottom
  let nearest := roundQuotient top bottom
  let other := if nearest == below then below + 1 else below
  if range.holds nearest scale then some nearest
  else if range.holds other scale then some other
  else none

/-- The number of digits before the point, counted from the first digit that is not zero: the value
is below `10 ^ magnitude` and not below a tenth of that. -/
def Interval.magnitude (range : Interval) : Int :=
  let guess : Int :=
    ((Nat.log2 range.value : Int) - Nat.log2 range.denominator) * 30103 / 100000
  let fits := fun (power : Int) =>
    range.value * tenTo (-power).toNat < range.denominator * tenTo power.toNat
  ([guess - 1, guess, guess + 1].find? fits).getD (guess + 2)

/-- The digits and the scale of the shortest decimal in an interval, looked for with up to `count`
digits more than have been tried. -/
def Interval.shortestFrom (range : Interval) (magnitude : Int) : Nat → Nat → Nat × Int
  | 0, tried =>
    let scale := magnitude - tried
    ((range.onGrid? scale).getD 0, scale)
  | count + 1, tried =>
    let scale := magnitude - tried
    match range.onGrid? scale with
    | some digits => (digits, scale)
    | none => range.shortestFrom magnitude count (tried + 1)

/-- The shortest decimal that rounds to a positive number; seventeen digits are always enough. -/
def shortest (mantissa : Nat) (exponent : Int) : Nat × Int :=
  let range := interval mantissa exponent
  range.shortestFrom range.magnitude 16 1

/-- Significant digits without final zeros, and the place of the point relative to the first of
them. -/
def significant (digits : Nat) (scale : Int) : Text × Int :=
  let written := Text.ofNat digits
  (Text.dropEndWhile (· == '0') written, written.length + scale)

/-- How numbers are written: between which places of the point without an exponent, and with how
many digits of an exponent at least. -/
structure Notation where
  leastPlace : Int
  greatestPlace : Int
  exponentDigits : Nat

/-- Numbers from a ten-thousandth up to sixteen digits are written without an exponent. -/
def plain : Notation := ⟨-3, 16, 2⟩

def positional (digits : Text) (place : Int) : Text :=
  if place ≤ 0 then "0.".toList ++ List.replicate (-place).toNat '0' ++ digits
  else if digits.length ≤ place then
    digits ++ List.replicate (place - digits.length).toNat '0' ++ ".0".toList
  else digits.take place.toNat ++ '.' :: digits.drop place.toNat

def scientific (exponentDigits : Nat) (digits : Text) (place : Int) : Text :=
  let exponent := place - 1
  let fraction := match digits.drop 1 with
    | [] => []
    | rest => '.' :: rest
  digits.take 1 ++ fraction ++ 'e' :: (if exponent < 0 then '-' else '+') ::
    (Text.ofNat exponent.natAbs).leftpad exponentDigits '0'

def Notation.write (style : Notation) (digits : Text) (place : Int) : Text :=
  if style.leastPlace ≤ place && place ≤ style.greatestPlace then positional digits place
  else scientific style.exponentDigits digits place

def sign (negative : Bool) : Text :=
  if negative then ['-'] else []

/-- The shortest text that reads back as the number. -/
def toText : Binary64 → Text
  | nan => "nan".toList
  | infinity negative => sign negative ++ "inf".toList
  | finite negative 0 _ => sign negative ++ "0.0".toList
  | finite negative mantissa exponent =>
    let (digits, scale) := shortest mantissa exponent
    let (written, place) := significant digits scale
    sign negative ++ plain.write written place

end Outliner.Binary64
