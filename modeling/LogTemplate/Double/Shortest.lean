import LogTemplate.Double

/-!
# Decimal texts of floating-point numbers

The decimal digits of a number: the fewest that read back as it, and of those the nearest to it.
How the digits are laid out (where positional notation ends, what the exponent looks like) is one
record.
-/

namespace LogTemplate.Double

/-- Digits of a number, `0.d₁d₂… * 10 ^ point`: the digits as one whole number without trailing
zeros, their count, and the place of the point. -/
structure Digits where
  value : Nat
  count : Nat
  point : Int
  deriving DecidableEq, Repr

/-- The least `k` with `num / den < 10 ^ k`. -/
def magnitude (num den : Nat) : Int :=
  let guess : Int := ((Nat.log2 num : Int) - Nat.log2 den) * 3 / 10 - 2
  let fits := fun (k : Int) => num * tenTo (-k).toNat < den * tenTo k.toNat
  let rec climb : Nat → Int → Int
    | 0, k => k
    | fuel + 1, k => if fits k then k else climb fuel (k + 1)
  climb 40 guess

/-- Drops the trailing zeros of a whole number of `count` digits. -/
def trimZeros : (count value : Nat) → (point : Int) → Digits
  | 0, value, point => ⟨value, 0, point⟩
  | count + 1, value, point =>
    if value % 10 = 0 then trimZeros count (value / 10) point else ⟨value, count + 1, point⟩

/-- The whole number of `count` digits that `value` is, one digit longer counted as a carry. -/
def settle (count value : Nat) (point : Int) : Digits :=
  if tenTo count ≤ value then trimZeros count (value / 10) (point + 1)
  else trimZeros count value point

/-- The two neighbours, below and above, of `num / den` among the numbers with `count` digits whose
point stands at `point`, as multiples of their last place; the first if it is the number itself. -/
def neighbours (num den count : Nat) (point : Int) : Nat × Nat :=
  let place := point - count
  let n := num * tenTo (-place).toNat
  let d := den * tenTo place.toNat
  (n / d, n / d + 1)

/-- Twice the distance of `value * 10 ^ place` from `num / den`, over a common denominator. -/
def distance (num den value : Nat) (place : Int) : Nat :=
  let a := value * tenTo place.toNat * den
  let b := num * tenTo (-place).toNat
  if a ≤ b then b - a else a - b

/-- Whether a decimal number reads back as the number `mantissa * 2 ^ exponent`: it lies nearer to
it than to any other number of the format, or halfway and the mantissa is even. -/
def readsBack (mantissa : Nat) (exponent : Int) (value : Nat) (place : Int) : Bool :=
  let below := if mantissa = twoTo 52 && minExponent < exponent then 1 else 2
  let low := 4 * mantissa - below
  let high := 4 * mantissa + 2
  let binary := exponent - 2
  let decimalSide := value * tenTo place.toNat * twoTo (-binary).toNat
  let binarySide := fun (n : Nat) => n * twoTo binary.toNat * tenTo (-place).toNat
  if mantissa % 2 = 0 then binarySide low ≤ decimalSide && decimalSide ≤ binarySide high
  else binarySide low < decimalSide && decimalSide < binarySide high

/-- The digits of the shortest decimal number that reads back, tried from `count` digits on. -/
def shortestFrom (mantissa : Nat) (exponent : Int) (num den : Nat) (point : Int) :
    (fuel count : Nat) → Digits
  | 0, count => settle count (neighbours num den count point).1 point
  | fuel + 1, count =>
    let place := point - count
    let (lower, upper) := neighbours num den count point
    let lowerFits := readsBack mantissa exponent lower place
    let upperFits := readsBack mantissa exponent upper place
    if lowerFits && upperFits then
      let a := distance num den lower place
      let b := distance num den upper place
      settle count (if a < b || (a = b && lower % 2 = 0) then lower else upper) point
    else if lowerFits then settle count lower point
    else if upperFits then settle count upper point
    else shortestFrom mantissa exponent num den point fuel (count + 1)

/-- The fewest digits that read back as a positive number. -/
def shortest (mantissa : Nat) (exponent : Int) : Digits :=
  let num := mantissa * twoTo exponent.toNat
  let den := twoTo (-exponent).toNat
  shortestFrom mantissa exponent num den (magnitude num den) 17 1

/-- How digits are laid out. -/
structure Layout where
  /-- The least exponent of the first digit that is still written positionally. -/
  positionalFrom : Int
  /-- The exponent of the first digit from which positional notation ends. -/
  positionalBelow : Int
  /-- Whether a whole mantissa before an exponent keeps a fraction `.0`. -/
  keepsFraction : Bool
  notANumber : String
  infinity : String
  negativeInfinity : String

/-- The exponent as it follows the `e`: a sign and at least two digits. -/
def exponentText (exponent : Int) : String :=
  let sign := if exponent < 0 then "-" else "+"
  let digits := toString exponent.natAbs
  sign ++ (if digits.length < 2 then "0" else "") ++ digits

/-- The text of the digits of a positive number. -/
def Layout.digitsText (layout : Layout) (d : Digits) : String :=
  let digits := (toString d.value).toList
  let exponent := d.point - 1
  if layout.positionalFrom ≤ exponent && exponent < layout.positionalBelow then
    if d.point ≤ 0 then
      "0." ++ String.ofList (List.replicate (-d.point).toNat '0' ++ digits)
    else
      let whole := digits.take d.point.toNat
      let zeros := List.replicate (d.point.toNat - d.count) '0'
      let fraction := digits.drop d.point.toNat
      String.ofList (whole ++ zeros) ++ "."
        ++ (if fraction.isEmpty then "0" else String.ofList fraction)
  else
    let fraction := digits.drop 1
    String.ofList (digits.take 1)
      ++ (if fraction.isEmpty then (if layout.keepsFraction then ".0" else "")
          else "." ++ String.ofList fraction)
      ++ "e" ++ exponentText exponent

/-- The text of a number whose digits are found by `digits`. -/
def Layout.text (layout : Layout) (digits : Nat → Int → Digits) : Double → String
  | .nan => layout.notANumber
  | .infinite negative => if negative then layout.negativeInfinity else layout.infinity
  | .finite negative m e =>
    (if negative then "-" else "")
      ++ (if m = 0 then "0.0" else layout.digitsText (digits m e))

/-- Numbers in messages: positional from 10⁻⁴ to below 10¹⁶. -/
def messageLayout : Layout := ⟨-4, 16, false, "nan", "inf", "-inf"⟩

/-- Numbers in JSON texts are laid out as in messages, with the words of that format. -/
def jsonLayout : Layout := ⟨-4, 16, false, "NaN", "Infinity", "-Infinity"⟩

/-- A number as messages show it. -/
def messageText (x : Double) : String := messageLayout.text shortest x

/-- A number as JSON texts hold it. -/
def jsonText (x : Double) : String := jsonLayout.text shortest x

end LogTemplate.Double
