import LogTemplate.Double.Extended
import LogTemplate.Double.Shortest

/-!
# Numbers in the columns of a table

A number that stands in a column of texts has fifteen digits, and a text that stands in a column of
numbers is read with a significand of 63 bits.  Both ways go through extended precision step by
step, so that the last digit or the last bit may be another one than exact arithmetic would give.
-/

namespace LogTemplate.Double

/-! ## From a number to its text -/

/-- The digits that a column of texts shows. -/
def columnDigits : Nat := 15

/-- Half a unit of the last digit, as the 64-bit format has it: `5e-5 * 1e-10`, rounded. -/
def halfUnit : Extended :=
  match ofScientific false 5 (-5), ofScientific false 1 (-10) with
  | .finite _ m e, .finite _ n f =>
    .ofDouble (.ofQuotient false (m * n) (twoTo (-(e + f)).toNat))
  | _, _ => ⟨0, 0⟩

/-- A decimal constant of the 64-bit format, widened. -/
def constant (digits : Nat) (power : Int) : Extended := .ofDouble (ofScientific false digits power)

/-- Multiplies a power of ten by `10 ^ step` as long as a magnitude is not below the product; gives
the power, and its exponent. -/
def raise (x : Extended) (step : Nat) : (fuel : Nat) → Extended × Int → Extended × Int
  | 0, reached => reached
  | fuel + 1, (power, exponent) =>
    let product := (constant 1 step).mul power
    if x.less product then (power, exponent) else raise x step fuel (product, exponent + step)

/-- Multiplies a magnitude by `10 ^ step` as long as it is below a bound; gives the magnitude, and
the exponent that undoes this. -/
def lift (bound : Extended) (step : Nat) : (fuel : Nat) → Extended × Int → Extended × Int
  | 0, reached => reached
  | fuel + 1, (x, exponent) =>
    if x.less bound then lift bound step fuel (x.mul (constant 1 step), exponent - step)
    else (x, exponent)

/-- A positive number as a magnitude from one to below ten and the exponent of ten that goes with
it. -/
def normalize (x : Extended) : Extended × Int :=
  let (power, exponent) := raise x 1 10 (raise x 10 10 (raise x 100 4 (.ofNat 1, 0)))
  lift (.ofNat 1) 1 10 (lift (constant 1 (-8)) 8 50 (x.div power, exponent))

/-- The first decimal digits of a magnitude below ten, as one whole number. -/
def leadingDigits : (count : Nat) → Extended → (digits : Nat) → Nat
  | 0, _, digits => digits
  | count + 1, x, digits =>
    leadingDigits count (x.fraction.mul (.ofNat 10)) (10 * digits + x.whole)

/-- The digits of a positive number in a column of texts. -/
def rounded (mantissa : Nat) (exponent : Int) : Digits :=
  let (x, exponent) := normalize ⟨mantissa, exponent⟩
  let x := x.add halfUnit
  let (x, exponent) :=
    if x.less (.ofNat 10) then (x, exponent) else (x.mul (constant 1 (-1)), exponent + 1)
  trimZeros columnDigits (leadingDigits columnDigits x 0) (exponent + 1)

/-- Numbers kept in a text column: positional from 10⁻⁴ to below 10¹⁵. -/
def columnLayout : Layout := ⟨-4, 15, true, "", "Inf", "-Inf"⟩

/-- A number as a text column holds it; zero has no sign there. -/
def columnText (x : Double) : String :=
  match x with
  | .finite _ 0 e => columnLayout.text rounded (.finite false 0 e)
  | _ => columnLayout.text rounded x

/-! ## From a text to a number -/

/-- The greatest integer of 64 bits. -/
def greatest : Nat := 0x7FFFFFFFFFFFFFFF

/-- The significand from which on no digit is added to it. -/
def fullSignificand : Nat := (greatest - 9) / 10

/-- Adds digits to a significand until it is full; gives it and the digits that are left. -/
def fill (significand : Nat) : List Nat → Nat × List Nat
  | [] => (significand, [])
  | digit :: rest =>
    if fullSignificand ≤ significand then (significand, digit :: rest)
    else fill (10 * significand + digit) rest

/-- Brings a significand nearer to the number that it stands for with a power of ten: a factor ten
goes from the power into it while there is room, or out of it while it has one. -/
def absorb (isPositive : Bool) : (power significand : Nat) → Nat × Nat
  | 0, significand => (significand, 0)
  | power + 1, significand =>
    if isPositive then
      if greatest / 10 ≤ significand then (significand, power + 1)
      else absorb isPositive power (significand * 10)
    else if significand % 10 = 0 then absorb isPositive power (significand / 10)
    else (significand, power + 1)

/-- A significand times or divided by a power of ten, in extended precision. -/
def applyPower (isPositive : Bool) (significand power : Nat) : Extended :=
  if isPositive then (Extended.ofNat significand).mul (.tenTo power)
  else (Extended.ofNat significand).div (.tenTo power)

/-- The number for a significand and a power of ten.  Powers that a number of the 64-bit format
does not reach are applied in two steps, and those far beyond give nothing or infinity. -/
def ofSignificand (negative : Bool) (significand : Nat) (power : Int) : Double :=
  let isPositive := 0 < power
  let (significand, power) := absorb isPositive power.natAbs significand
  if significand = 0 || power = 0 then .ofQuotient negative significand 1
  else if power ≤ 307 then (applyPower isPositive significand power).toDouble negative
  else if 342 ≤ power then
    if isPositive then .infinite negative else .finite negative 0 minExponent
  else
    match (applyPower isPositive significand (power - 308)).toDouble negative,
        ofScientific false 1 308 with
    | .finite _ m e, .finite _ n f =>
      if isPositive then .ofQuotient negative (m * n * twoTo (e + f).toNat) (twoTo (-(e + f)).toNat)
      else .ofQuotient negative (m * twoTo (e - f).toNat) (n * twoTo (f - e).toNat)
    | x, _ => x

/-- The number that the digits before and behind the point and a power of ten denote in a column of
numbers. -/
def ofColumn (negative : Bool) (whole fraction : List Nat) (power : Int) : Double :=
  let (significand, skipped) := fill 0 whole
  let (significand, unread) := fill significand fraction
  let places : Int := fraction.length - unread.length
  ofSignificand negative significand (power + skipped.length - places)

end LogTemplate.Double
