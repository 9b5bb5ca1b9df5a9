/-!
# Binary floating-point numbers

The numbers of IEEE 754's 64-bit binary format, held exactly: a finite number is a whole multiple
of a power of two.  Every result is the exact one rounded to the nearest number of the format,
and a result halfway between two of them goes to the one with the even mantissa.
-/

namespace LogTemplate

/-- A number of the 64-bit binary format.  A finite number is `mantissa * 2 ^ exponent`, with the
mantissa below `2 ^ 53` and the exponent as small as the format allows. -/
inductive Double where
  | finite (negative : Bool) (mantissa : Nat) (exponent : Int)
  | infinite (negative : Bool)
  | nan
  deriving DecidableEq, Repr, Inhabited

namespace Double

/-- A power of two. -/
def twoTo (n : Nat) : Nat := Nat.pow 2 n

/-- A power of ten. -/
def tenTo (n : Nat) : Nat := Nat.pow 10 n

/-- The exponent of the smallest numbers. -/
def minExponent : Int := -1074

/-- The exponent of the largest numbers. -/
def maxExponent : Int := 971

/-- The whole number nearest to a quotient, the even one of two that are equally near. -/
def roundQuotient (num den : Nat) : Nat :=
  let q := num / den
  let twice := 2 * (num % den)
  if twice < den then q
  else if den < twice then q + 1
  else if q % 2 = 0 then q else q + 1

/-- The number `mantissa * 2 ^ exponent`, if it is in range. -/
def pack (negative : Bool) (mantissa : Nat) (exponent : Int) : Double :=
  let (m, e) := if mantissa = twoTo 53 then (twoTo 52, exponent + 1) else (mantissa, exponent)
  if maxExponent < e then .infinite negative else .finite negative m e

/-- The number nearest to a quotient of whole numbers. -/
def ofQuotient (negative : Bool) (num den : Nat) : Double :=
  if num = 0 then .finite negative 0 minExponent
  else
    let guess : Int := (Nat.log2 num : Int) - Nat.log2 den - 53
    let scaled := fun (e : Int) => (num * twoTo (-e).toNat, den * twoTo e.toNat)
    let fits := fun (e : Int) => let (n, d) := scaled e; n < d * twoTo 53
    let e := max minExponent (if fits guess then guess else guess + 1)
    let (n, d) := scaled e
    pack negative (roundQuotient n d) e

/-- The number nearest to `digits * 10 ^ power`. -/
def ofScientific (negative : Bool) (digits : Nat) (power : Int) : Double :=
  let magnitude : Int := (Nat.log2 digits : Int) * 3 / 10 + power
  if digits = 0 then .finite negative 0 minExponent
  else if 400 < magnitude then .infinite negative
  else if magnitude < -400 then .finite negative 0 minExponent
  else ofQuotient negative (digits * tenTo power.toNat) (tenTo (-power).toNat)

/-- The number nearest to a natural number. -/
def ofNat (n : Nat) : Double := ofQuotient false n 1

/-- The number that 64 bits stand for: a sign, an exponent and a fraction. -/
def ofBits (bits : Nat) : Double :=
  let negative := twoTo 63 ≤ bits
  let exponent := bits / twoTo 52 % twoTo 11
  let fraction := bits % twoTo 52
  if exponent = 0 then .finite negative fraction minExponent
  else if exponent = twoTo 11 - 1 then (if fraction = 0 then .infinite negative else .nan)
  else .finite negative (twoTo 52 + fraction) (minExponent + exponent - 1)

/-- Whether a number is finite. -/
def isFinite : Double → Bool
  | .finite .. => true
  | _ => false

/-- A finite number as a fraction: whether it is negative, the numerator and the denominator. -/
def fraction? : Double → Option (Bool × Nat × Nat)
  | .finite negative m e => some (negative, m * twoTo e.toNat, twoTo (-e).toNat)
  | _ => none

/-- A finite number times a natural number. -/
def scale (x : Double) (n : Nat) : Double :=
  match x with
  | .finite negative m e =>
    ofQuotient negative (m * n * twoTo e.toNat) (twoTo (-e).toNat)
  | other => other

/-- A finite number divided by a natural number other than zero. -/
def divide (x : Double) (n : Nat) : Double :=
  match x with
  | .finite negative m e =>
    ofQuotient negative (m * twoTo e.toNat) (n * twoTo (-e).toNat)
  | other => other

/-- The value of a finite number times `2 ^ 1074`, a whole number. -/
def scaled (negative : Bool) (m : Nat) (e : Int) : Int :=
  let magnitude : Int := m * twoTo (e - minExponent).toNat
  if negative then -magnitude else magnitude

/-- The order of two numbers; none if one of them is not a number. -/
def compare? : Double → Double → Option Ordering
  | .nan, _ => none
  | _, .nan => none
  | .infinite a, .infinite b => some (compare b a)
  | .infinite a, .finite .. => some (if a then .lt else .gt)
  | .finite .., .infinite b => some (if b then .gt else .lt)
  | .finite a m e, .finite b n f => some (compare (scaled a m e) (scaled b n f))

/-- Whether the first number is less than the second. -/
def less (x y : Double) : Bool := compare? x y == some .lt

/-- Whether two numbers are equal; both zeros are, and what is not a number equals nothing. -/
def equal (x y : Double) : Bool := compare? x y == some .eq

/-- Whether a number equals an integer. -/
def equalInt (x : Double) (n : Int) : Bool :=
  match x with
  | .finite negative m e => scaled negative m e == n * twoTo (-minExponent).toNat
  | _ => false

/-- The order of a number and an integer; what is not a number comes first. -/
def compareInt (x : Double) (n : Int) : Ordering :=
  match x with
  | .finite negative m e => compare (scaled negative m e) (n * twoTo (-minExponent).toNat)
  | .infinite negative => if negative then .lt else .gt
  | .nan => .lt

/-- The whole part of a finite number. -/
def truncate? : Double → Option Int
  | .finite negative m e =>
    let magnitude : Int := (m * twoTo e.toNat / twoTo (-e).toNat : Nat)
    some (if negative then -magnitude else magnitude)
  | _ => none

/-- The number nearest to a quotient of an integer and a natural number. -/
def ofRatio (num : Int) (den : Nat) : Double := ofQuotient (num < 0) num.natAbs den

/-- The denominator over which every finite number is a whole one. -/
def unit : Nat := twoTo (-minExponent).toNat

/-- The sum of two numbers. -/
def add : Double → Double → Double
  | .finite a m e, .finite b n f =>
    let sum := scaled a m e + scaled b n f
    ofQuotient (if sum = 0 then a && b else sum < 0) sum.natAbs unit
  | .infinite a, .infinite b => if a == b then .infinite a else .nan
  | .infinite a, .finite .. | .finite .., .infinite a => .infinite a
  | _, _ => .nan

/-- Whether a number is zero. -/
def isZero (x : Double) : Bool := x.equalInt 0

/-- Whether a number has a minus sign. -/
def isNegative : Double → Bool
  | .finite negative .. | .infinite negative => negative
  | .nan => false

/-- The product of two numbers. -/
def mul (x y : Double) : Double :=
  let negative := x.isNegative != y.isNegative
  match x, y with
  | .nan, _ | _, .nan => .nan
  | .finite a m e, .finite b n f =>
    ofQuotient negative ((scaled a m e).natAbs * (scaled b n f).natAbs) (unit * unit)
  | _, _ => if x.isZero || y.isZero then .nan else .infinite negative

/-- The quotient of two numbers; what is divided by zero is not a number. -/
def div (x y : Double) : Double :=
  let negative := x.isNegative != y.isNegative
  match x, y with
  | .finite a m e, .finite b n f =>
    let divisor := (scaled b n f).natAbs
    if divisor = 0 then .nan else ofQuotient negative (scaled a m e).natAbs divisor
  | .finite .., .infinite _ => .finite negative 0 minExponent
  | .infinite _, .finite .. => if y.isZero then .nan else .infinite negative
  | _, _ => .nan

/-- A number with its sign changed. -/
def negate : Double → Double
  | .finite negative m e => .finite (!negative) m e
  | .infinite negative => .infinite (!negative)
  | .nan => .nan

end Double

end LogTemplate
