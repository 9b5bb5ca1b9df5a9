import LogTemplate.Field.Run
import LogTemplate.Field.Address
import LogTemplate.Field.Timestamp

/-!
# What a field admits

A run is admitted if it is a value of the field's kind and keeps the field's bounds.  The order of
a numeral and a bound is found without converting a numeral that is longer than the bound.
-/

namespace LogTemplate

/-- Whether a text is a value of a kind, bounds aside. -/
def Kind.isValid : Kind → List CodePoint → Bool
  | .ipv4, s => Address.isIpv4 s
  | .ipv6, s => Address.isIpv6 s
  | .timestamp, s => Timestamp.isTimestamp s
  | _, _ => true

/-- The order of a numeral and a bound.  A numeral with more digits than the bound, leading zeros
aside, is decided by its sign. -/
def compareNumeral (value : List CodePoint) (bound : Int) : Except Numeral.Error Ordering :=
  let negative := value.head? == some (.char '-')
  let digits := (value.dropWhile (· == .char '-')).dropWhile (· == .char '0')
  if (toString bound.natAbs).length < digits.length then .ok (if negative then .lt else .gt)
  else do
    let magnitude ← if digits.isEmpty then .ok 0 else Numeral.readDecimal digits
    return compare (if negative then -magnitude else magnitude) bound

namespace Bounds

/-- Whether a numeral is at least the bound; true without a bound. -/
def numeralFrom (low : Option Int) (value : List CodePoint) : Except Numeral.Error Bool :=
  match low with
  | .none => .ok true
  | some low => do return (← compareNumeral value low) != .lt

/-- Whether a numeral is at most the bound; true without a bound. -/
def numeralUpTo (high : Option Int) (value : List CodePoint) : Except Numeral.Error Bool :=
  match high with
  | .none => .ok true
  | some high => do return (← compareNumeral value high) != .gt

/-- Whether a length is at least the bound and at most the other; true without a bound. -/
def lengthWithin (low high : Option Int) (length : Nat) : Bool :=
  low.all (· ≤ (length : Int)) && high.all ((length : Int) ≤ ·)

/-- Whether a value keeps the bounds: a number by its value, any other by its length.  The upper
bound of a number is looked at only if the lower one is kept. -/
def satisfied (b : Bounds) (kind : Kind) (value : List CodePoint) : Except Numeral.Error Bool :=
  match kind with
  | .number => do if ← numeralFrom b.min value then numeralUpTo b.max value else return false
  | _ => .ok (lengthWithin b.minLength b.maxLength value.length)

end Bounds

/-- Whether a field can hold a value. -/
def Field.admits (f : Field) (value : List CodePoint) : Bool :=
  f.kind.isValid value &&
    match f.bounds.satisfied f.kind value with
    | .ok kept => kept
    | .error _ => false

end LogTemplate
