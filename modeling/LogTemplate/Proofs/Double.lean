import LogTemplate.Double
import Mathlib.Algebra.Order.Field.Power
import Mathlib.Data.Rat.Cast.Order
import Mathlib.Tactic.FieldSimp
import Mathlib.Tactic.Linarith
import Mathlib.Tactic.NormNum
import Mathlib.Tactic.Positivity
import Mathlib.Tactic.Ring

/-!
# Rounding to doubles

Finite doubles stand for rational numbers, and are compared as these are.  Main statement: a
quotient is rounded to a number of the format that no other one parts from it, so that rounding
keeps to the same side of every number of the format.
-/

namespace LogTemplate.Double

/-- The number that a finite double without a minus sign stands for. -/
inductive Stands : Double → ℚ → Prop
  | finite {m : Nat} {e : Int} : m < 2 ^ 53 → minExponent ≤ e →
      Stands (.finite false m e) (m * 2 ^ e)

/-- A number of the format. -/
def IsNumber (r : ℚ) : Prop := ∃ x, Stands x r

/-- A number rounded: no number of the format lies strictly between the two. -/
structure Rounds (exact rounded : ℚ) : Prop where
  least : ∀ r, IsNumber r → r ≤ exact → r ≤ rounded
  greatest : ∀ r, IsNumber r → exact ≤ r → rounded ≤ r

theorem Rounds.refl (p : ℚ) : Rounds p p := ⟨fun _ _ le => le, fun _ _ le => le⟩

/-- A double stands for one number. -/
theorem Stands.unique {x : Double} {p q : ℚ} (first : Stands x p) (second : Stands x q) :
    p = q := by
  cases first
  cases second
  rfl

theorem two_zpow_pos (e : Int) : (0 : ℚ) < 2 ^ e := zpow_pos (by norm_num) e

theorem two_zpow_le {d e : Int} (le : d ≤ e) : (2 : ℚ) ^ d ≤ 2 ^ e :=
  zpow_le_zpow_right₀ (by norm_num) le

theorem two_zpow_add (d e : Int) : (2 : ℚ) ^ (d + e) = 2 ^ d * 2 ^ e :=
  zpow_add₀ (by norm_num) d e

theorem cast_twoTo (n : Nat) : (twoTo n : ℚ) = 2 ^ n := by
  rw [twoTo, Nat.pow_eq]
  push_cast
  rfl

/-- A power of two with a whole exponent is a quotient of two with natural ones. -/
theorem twoTo_div_twoTo (e : Int) : (twoTo e.toNat : ℚ) / twoTo (-e).toNat = 2 ^ e := by
  rw [cast_twoTo, cast_twoTo, ← zpow_natCast, ← zpow_natCast, ← zpow_sub₀ (by norm_num)]
  congr 1
  omega

/-- Few enough places behind the point make a number of the format. -/
theorem isNumber_of_eq_div {r : ℚ} (m k : Nat) (same : r = m / 2 ^ k) (fits : m < 2 ^ 53)
    (places : k ≤ 1074) : IsNumber r := by
  have stands := Stands.finite (e := -k) fits (by rw [minExponent]; omega)
  rw [zpow_neg, zpow_natCast, ← div_eq_mul_inv, ← same] at stands
  exact ⟨_, stands⟩

theorem stands_zero : Stands (.finite false 0 minExponent) 0 := by
  have stands := Stands.finite (m := 0) (e := minExponent) (by decide) le_rfl
  rwa [Nat.cast_zero, zero_mul] at stands

/-! ## Comparing -/

theorem cast_scaled {m : Nat} {e : Int} (least : minExponent ≤ e) :
    (scaled false m e : ℚ) = m * 2 ^ e * 2 ^ (-minExponent) := by
  have places : ((e - minExponent).toNat : Int) = e + -minExponent := by
    rw [Int.toNat_of_nonneg (by omega), sub_eq_add_neg]
  rw [scaled, if_neg Bool.false_ne_true]
  push_cast
  rw [cast_twoTo, ← zpow_natCast, places, two_zpow_add, mul_assoc]

/-- Doubles are compared as what they stand for. -/
theorem less_eq_true_iff {x y : Double} {p q : ℚ} (first : Stands x p) (second : Stands y q) :
    x.less y = true ↔ p < q := by
  obtain ⟨-, least⟩ := first
  obtain ⟨-, least'⟩ := second
  rw [less, compare?, beq_iff_eq, Option.some.injEq, Int.compare_eq_lt, ← Int.cast_lt (R := ℚ),
    cast_scaled least, cast_scaled least', mul_lt_mul_iff_left₀ (two_zpow_pos _)]

/-! ## Rounding quotients -/

/-- Rounding to whole numbers keeps to the same side of every whole number. -/
theorem le_roundQuotient {num den k : Nat} (filled : 0 < den) (le : k * den ≤ num) :
    k ≤ roundQuotient num den := by
  have floor : k ≤ num / den := (Nat.le_div_iff_mul_le filled).mpr le
  unfold roundQuotient
  dsimp only
  split
  · exact floor
  · split
    · omega
    · split <;> omega

theorem roundQuotient_le {num den k : Nat} (filled : 0 < den) (le : num ≤ k * den) :
    roundQuotient num den ≤ k := by
  have whole := Nat.div_add_mod num den
  have small := Nat.mod_lt num filled
  have floor : num / den ≤ k := Nat.div_le_of_le_mul (by rwa [Nat.mul_comm])
  -- the next whole number is taken only if something is left over, and then it is at most `k`
  have next : num % den ≠ 0 → num / den + 1 ≤ k := by
    intro left
    rcases Nat.lt_or_eq_of_le floor with below | equal
    · exact below
    · rw [equal, Nat.mul_comm] at whole
      omega
  unfold roundQuotient
  dsimp only
  split
  · exact floor
  · rename_i many
    have left : num % den ≠ 0 := by omega
    split
    · exact next left
    · split
      · exact floor
      · exact next left

/-- An exponent at which a number is rounded to the full precision of the format, or to the places
of its least numbers. -/
structure IsScale (exact : ℚ) (e : Int) : Prop where
  least : minExponent ≤ e
  below : exact < 2 ^ (e + 53)
  full : minExponent < e → 2 ^ (e + 52) ≤ exact

/-- The exponent at which a quotient is rounded. -/
theorem isScale_max {exact : ℚ} {guess : Int} (low : 2 ^ (guess + 52) ≤ exact)
    (high : exact < 2 ^ (guess + 53)) : IsScale exact (max minExponent guess) where
  least := le_max_left _ _
  below := high.trans_le (two_zpow_le (by omega))
  full := by
    intro above
    rw [max_eq_right (by omega)]
    exact low

section

variable {num den k : Nat} {e : Int}

theorem places_le_iff (filled : 0 < den) :
    (k : ℚ) * 2 ^ e ≤ num / den * 2 ^ e ↔ k * den ≤ num := by
  have positive : (0 : ℚ) < den := Nat.cast_pos.mpr filled
  rw [mul_le_mul_iff_left₀ (two_zpow_pos e), le_div_iff₀ positive]
  exact_mod_cast Iff.rfl

theorem le_places_iff (filled : 0 < den) :
    (num : ℚ) / den * 2 ^ e ≤ k * 2 ^ e ↔ num ≤ k * den := by
  have positive : (0 : ℚ) < den := Nat.cast_pos.mpr filled
  rw [mul_le_mul_iff_left₀ (two_zpow_pos e), div_le_iff₀ positive]
  exact_mod_cast Iff.rfl

/-- A power of two from a scale on is a number of places there. -/
theorem two_zpow_eq_places (n : Nat) (e : Int) : (2 : ℚ) ^ (e + n) = (2 ^ n : Nat) * 2 ^ e := by
  rw [two_zpow_add, zpow_natCast, mul_comm]
  push_cast
  rfl

/-- A number of the format has whole places at a scale, or lies below the numbers of full
precision. -/
theorem places_or_below {r : ℚ} (isNumber : IsNumber r) (e : Int) :
    (∃ k : Nat, r = k * 2 ^ e) ∨ minExponent < e ∧ r < 2 ^ (e + 52) := by
  obtain ⟨_, fits, least⟩ := isNumber
  rename_i m f
  rcases le_or_gt e f with coarse | fine
  · obtain ⟨n, rfl⟩ := Int.le.dest coarse
    refine .inl ⟨m * 2 ^ n, ?_⟩
    rw [two_zpow_eq_places]
    push_cast
    ring
  · refine .inr ⟨least.trans_lt fine, ?_⟩
    have small : (m : ℚ) < (2 ^ 53 : Nat) := Nat.cast_lt.mpr fits
    calc (m : ℚ) * 2 ^ f < (2 ^ 53 : Nat) * 2 ^ f :=
          (mul_lt_mul_iff_left₀ (two_zpow_pos f)).mpr small
      _ = 2 ^ (f + (53 : Nat)) := (two_zpow_eq_places 53 f).symm
      _ ≤ 2 ^ (e + 52) := two_zpow_le (by omega)

/-- At its scale a number is rounded to whole places, and does not pass a number of the format. -/
theorem rounds_of_isScale (filled : 0 < den) (isScale : IsScale (num / den * 2 ^ e) e) :
    roundQuotient num den ≤ 2 ^ 53
      ∧ Rounds (num / den * 2 ^ e) (roundQuotient num den * 2 ^ e) := by
  have full : minExponent < e → 2 ^ (e + 52) ≤ (num : ℚ) / den * 2 ^ e ∧
      2 ^ (e + 52) ≤ (roundQuotient num den : ℚ) * 2 ^ e := by
    intro above
    have enough := isScale.full above
    rw [show (52 : Int) = (52 : Nat) from rfl, two_zpow_eq_places] at enough ⊢
    refine ⟨enough, ?_⟩
    have kept := le_roundQuotient filled ((places_le_iff filled).mp enough)
    exact (mul_le_mul_iff_left₀ (two_zpow_pos e)).mpr (Nat.cast_le.mpr kept)
  refine ⟨?_, ?_, ?_⟩
  · have below := isScale.below.le
    rw [show (53 : Int) = (53 : Nat) from rfl, two_zpow_eq_places] at below
    exact roundQuotient_le filled ((le_places_iff filled).mp below)
  · intro r isNumber le
    rcases places_or_below isNumber e with ⟨k, rfl⟩ | ⟨above, low⟩
    · have kept := le_roundQuotient filled ((places_le_iff filled).mp le)
      exact (mul_le_mul_iff_left₀ (two_zpow_pos e)).mpr (Nat.cast_le.mpr kept)
    · exact low.le.trans (full above).2
  · intro r isNumber le
    rcases places_or_below isNumber e with ⟨k, rfl⟩ | ⟨above, low⟩
    · have kept := roundQuotient_le filled ((le_places_iff filled).mp le)
      exact (mul_le_mul_iff_left₀ (two_zpow_pos e)).mpr (Nat.cast_le.mpr kept)
    · exact absurd (le.trans_lt low) (not_lt.mpr (full above).1)

end

/-- What rounding gives at a scale is a double, if it is not too large. -/
theorem stands_pack {m : Nat} {e : Int} (fits : m ≤ 2 ^ 53) (least : minExponent ≤ e)
    (small : e < maxExponent) : Stands (pack false m e) (m * 2 ^ e) := by
  by_cases carry : m = twoTo 53
  · have packed : pack false m e = .finite false (twoTo 52) (e + 1) := by
      rw [pack, if_pos carry]
      exact if_neg (by omega)
    have same : (m : ℚ) * 2 ^ e = twoTo 52 * 2 ^ (e + 1) := by
      rw [carry, cast_twoTo, cast_twoTo, two_zpow_add]
      ring
    rw [packed, same]
    exact .finite (by decide) (by omega)
  · have packed : pack false m e = .finite false m e := by
      rw [pack, if_neg carry]
      exact if_neg (by omega)
    rw [packed]
    exact .finite (Nat.lt_of_le_of_ne fits carry) least

theorem two_zpow_log2_le {n : Nat} (filled : n ≠ 0) : (2 : ℚ) ^ (n.log2 : Int) ≤ n := by
  rw [zpow_natCast]
  exact_mod_cast Nat.log2_self_le filled

theorem lt_two_zpow_log2 (n : Nat) : (n : ℚ) < 2 ^ ((n.log2 : Int) + 1) := by
  have below : n < 2 ^ (n.log2 + 1) := Nat.lt_log2_self
  have cast : (n.log2 : Int) + 1 = (n.log2 + 1 : Nat) := by push_cast; rfl
  rw [cast, zpow_natCast]
  exact_mod_cast below

/-- Between which powers of two a quotient lies. -/
theorem quotient_between {num den : Nat} (filled : num ≠ 0) (positive : den ≠ 0) :
    (2 : ℚ) ^ ((num.log2 : Int) - den.log2 - 1) ≤ num / den
      ∧ (num : ℚ) / den < 2 ^ ((num.log2 : Int) - den.log2 + 1) := by
  have denominator : (0 : ℚ) < den := Nat.cast_pos.mpr (Nat.pos_of_ne_zero positive)
  constructor
  · rw [le_div_iff₀ denominator]
    calc (2 : ℚ) ^ ((num.log2 : Int) - den.log2 - 1) * den
        ≤ 2 ^ ((num.log2 : Int) - den.log2 - 1) * 2 ^ ((den.log2 : Int) + 1) :=
          mul_le_mul_of_nonneg_left (lt_two_zpow_log2 den).le (two_zpow_pos _).le
      _ = 2 ^ (num.log2 : Int) := by rw [← two_zpow_add]; congr 1; omega
      _ ≤ num := two_zpow_log2_le filled
  · rw [div_lt_iff₀ denominator]
    calc (num : ℚ) < 2 ^ ((num.log2 : Int) + 1) := lt_two_zpow_log2 num
      _ = 2 ^ ((num.log2 : Int) - den.log2 + 1) * 2 ^ (den.log2 : Int) := by
          rw [← two_zpow_add]; congr 1; omega
      _ ≤ 2 ^ ((num.log2 : Int) - den.log2 + 1) * den :=
          mul_le_mul_of_nonneg_left (two_zpow_log2_le positive) (two_zpow_pos _).le

/-- A quotient fits the precision of the format at an exponent if its places there are few
enough. -/
theorem fits_iff {num den : Nat} (positive : den ≠ 0) (e : Int) :
    num * twoTo (-e).toNat < den * twoTo e.toNat * twoTo 53 ↔ (num : ℚ) / den < 2 ^ (e + 53) := by
  have denominator : (0 : ℚ) < den := Nat.cast_pos.mpr (Nat.pos_of_ne_zero positive)
  have places : (0 : ℚ) < twoTo (-e).toNat := by rw [cast_twoTo]; positivity
  rw [div_lt_iff₀ denominator, two_zpow_add, ← twoTo_div_twoTo, div_mul_eq_mul_div,
    div_mul_eq_mul_div, lt_div_iff₀ places, ← Nat.cast_lt (α := ℚ)]
  push_cast
  rw [cast_twoTo 53, mul_comm (den : ℚ), mul_right_comm]
  rfl

/-- A quotient is rounded at its scale. -/
theorem exists_isScale_ofQuotient {num den : Nat} (filled : num ≠ 0) (positive : den ≠ 0) :
    ∃ e, IsScale (num / den) e ∧ ofQuotient false num den =
      pack false (roundQuotient (num * twoTo (-e).toNat) (den * twoTo e.toNat)) e := by
  obtain ⟨low, high⟩ := quotient_between filled positive
  let guess : Int := (num.log2 : Int) - den.log2 - 53
  let fits := num * twoTo (-guess).toNat < den * twoTo guess.toNat * twoTo 53
  have isScale : IsScale (num / den) (max minExponent (if fits then guess else guess + 1)) := by
    by_cases small : fits
    · rw [if_pos small]
      refine isScale_max ?_ ((fits_iff positive guess).mp small)
      rwa [show guess + 52 = (num.log2 : Int) - den.log2 - 1 by omega]
    · rw [if_neg small]
      have large := mt (fits_iff positive guess).mpr small
      refine isScale_max ?_ ?_
      · rw [show guess + 1 + 52 = guess + 53 by omega]
        exact not_lt.mp large
      · rwa [show guess + 1 + 53 = (num.log2 : Int) - den.log2 + 1 by omega]
  refine ⟨_, isScale, ?_⟩
  rw [ofQuotient, if_neg filled]

/-- A quotient and its places at an exponent are the same number. -/
theorem places_mul_two_zpow (num den : Nat) (e : Int) :
    ((num * twoTo (-e).toNat : Nat) : ℚ) / (den * twoTo e.toNat : Nat) * 2 ^ e = num / den := by
  have power := twoTo_div_twoTo (-e)
  rw [neg_neg] at power
  push_cast
  rw [mul_div_mul_comm, power, mul_assoc, ← two_zpow_add, neg_add_cancel, zpow_zero, mul_one]

/-- A quotient that is not beyond the largest doubles is rounded. -/
theorem exists_stands_ofQuotient {num den : Nat} (positive : den ≠ 0)
    (small : (num : ℚ) / den < 2 ^ (maxExponent + 52)) :
    ∃ q, Stands (ofQuotient false num den) q ∧ Rounds (num / den) q := by
  by_cases filled : num = 0
  · subst filled
    refine ⟨0, stands_zero, ?_⟩
    rw [Nat.cast_zero, zero_div]
    exact .refl 0
  · obtain ⟨e, isScale, rounded⟩ := exists_isScale_ofQuotient filled positive
    have inRange : e < maxExponent := by
      rcases eq_or_lt_of_le isScale.least with rfl | above
      · decide
      · have power := (isScale.full above).trans_lt small
        rw [zpow_lt_zpow_iff_right₀ (by norm_num)] at power
        omega
    have places := places_mul_two_zpow num den e
    have denominator : 0 < den * twoTo e.toNat :=
      Nat.mul_pos (Nat.pos_of_ne_zero positive) (Nat.two_pow_pos _)
    rw [← places] at isScale ⊢
    obtain ⟨fits, rounds⟩ := rounds_of_isScale denominator isScale
    rw [rounded]
    exact ⟨_, stands_pack fits isScale.least inRange, rounds⟩

/-! ## Products and quotients with natural numbers -/

variable {x : Double} {p : ℚ} {n : Nat}

theorem exists_stands_scale (stands : Stands x p) (small : p * n < 2 ^ (maxExponent + 52)) :
    ∃ q, Stands (x.scale n) q ∧ Rounds (p * n) q := by
  obtain ⟨-, -⟩ := stands
  rename_i m e
  have same : ((m * n * twoTo e.toNat : Nat) : ℚ) / (twoTo (-e).toNat : Nat) = m * 2 ^ e * n := by
    push_cast
    rw [mul_div_assoc, twoTo_div_twoTo, mul_right_comm]
  rw [← same] at small ⊢
  exact exists_stands_ofQuotient (Nat.two_pow_pos _).ne' small

theorem exists_stands_divide (stands : Stands x p) (positive : n ≠ 0)
    (small : p / n < 2 ^ (maxExponent + 52)) : ∃ q, Stands (x.divide n) q ∧ Rounds (p / n) q := by
  obtain ⟨-, -⟩ := stands
  rename_i m e
  have same : ((m * twoTo e.toNat : Nat) : ℚ) / (n * twoTo (-e).toNat : Nat) = m * 2 ^ e / n := by
    push_cast
    rw [mul_comm (n : ℚ), mul_div_assoc, div_mul_eq_div_div, twoTo_div_twoTo, mul_div_assoc]
  rw [← same] at small ⊢
  exact exists_stands_ofQuotient (Nat.mul_ne_zero positive (Nat.two_pow_pos _).ne') small

end LogTemplate.Double
