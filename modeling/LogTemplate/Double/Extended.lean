import LogTemplate.Double

/-!
# Extended precision

The magnitudes of the 80-bit extended format: eleven bits more than those of the 64-bit format.
Every result is the exact one rounded to the nearest magnitude, and a result halfway between two
of them goes to the one with the even mantissa.  The exponents have no bounds here; the numbers
that come up stay far from those of the format.
-/

namespace LogTemplate

/-- The magnitude `mantissa * 2 ^ exponent`, with the mantissa below `2 ^ 64`. -/
structure Extended where
  mantissa : Nat
  exponent : Int
  deriving DecidableEq, Repr, Inhabited

namespace Extended

open Double (twoTo roundQuotient)

/-- The bits of a mantissa. -/
def precision : Nat := 64

/-- The magnitude nearest to `num / den * 2 ^ exponent`. -/
def ofQuotient (num den : Nat) (exponent : Int) : Extended :=
  if num = 0 then ⟨0, 0⟩
  else
    let guess : Int := (Nat.log2 num : Int) - Nat.log2 den - precision
    let scaled := fun (e : Int) => (num * twoTo (-e).toNat, den * twoTo e.toNat)
    let fits := fun (e : Int) => let (n, d) := scaled e; n < d * twoTo precision
    let e := if fits guess then guess else guess + 1
    let (n, d) := scaled e
    ⟨roundQuotient n d, e + exponent⟩

/-- The magnitude nearest to a natural number. -/
def ofNat (n : Nat) : Extended := ofQuotient n 1 0

/-- The magnitude of a number of the 64-bit format, which is exact; zero for what has none. -/
def ofDouble : Double → Extended
  | .finite _ mantissa exponent => ⟨mantissa, exponent⟩
  | _ => ⟨0, 0⟩

/-- The number of the 64-bit format nearest to a magnitude with a sign. -/
def toDouble (negative : Bool) (x : Extended) : Double :=
  .ofQuotient negative (x.mantissa * twoTo x.exponent.toNat) (twoTo (-x.exponent).toNat)

/-- The product of two magnitudes. -/
def mul (x y : Extended) : Extended :=
  ofQuotient (x.mantissa * y.mantissa) 1 (x.exponent + y.exponent)

/-- The quotient of two magnitudes; the second one is not zero. -/
def div (x y : Extended) : Extended :=
  ofQuotient x.mantissa y.mantissa (x.exponent - y.exponent)

/-- The mantissas of two magnitudes over their smaller exponent, and that exponent. -/
def align (x y : Extended) : Nat × Nat × Int :=
  let e := min x.exponent y.exponent
  (x.mantissa * twoTo (x.exponent - e).toNat, y.mantissa * twoTo (y.exponent - e).toNat, e)

/-- The sum of two magnitudes. -/
def add (x y : Extended) : Extended :=
  let (m, n, e) := align x y
  ofQuotient (m + n) 1 e

/-- Whether the first magnitude is less than the second. -/
def less (x y : Extended) : Bool :=
  let (m, n, _) := align x y
  m < n

/-- The whole part of a magnitude. -/
def whole (x : Extended) : Nat :=
  x.mantissa * twoTo x.exponent.toNat / twoTo (-x.exponent).toNat

/-- A magnitude without its whole part, which is exact. -/
def fraction (x : Extended) : Extended :=
  if 0 ≤ x.exponent then ⟨0, 0⟩
  else ⟨x.mantissa % twoTo (-x.exponent).toNat, x.exponent⟩

/-- The power of ten that comes from the repeated squares of ten, each of them rounded. -/
def tenTo (n : Nat) : Extended :=
  let rec go : (fuel n : Nat) → (square product : Extended) → Extended
    | 0, _, _, product => product
    | fuel + 1, n, square, product =>
      let product := if n % 2 = 1 then product.mul square else product
      if n / 2 = 0 then product else go fuel (n / 2) (square.mul square) product
  go (Nat.log2 n + 1) n (ofNat 10) (ofNat 1)

end Extended

end LogTemplate
