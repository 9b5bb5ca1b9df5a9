import LogTemplate.Text

/-!
# Decimal digits

Unicode has the decimal digits zero to nine in many scripts, each as ten code points in a row.
-/

namespace LogTemplate.Text

/-- The zero of each script that has decimal digits. -/
def zeros : List Nat := [
  0x30, 0x660, 0x6F0, 0x7C0, 0x966, 0x9E6, 0xA66, 0xAE6, 0xB66, 0xBE6, 0xC66, 0xCE6, 0xD66,
  0xDE6, 0xE50, 0xED0, 0xF20, 0x1040, 0x1090, 0x17E0, 0x1810, 0x1946, 0x19D0, 0x1A80, 0x1A90,
  0x1B50, 0x1BB0, 0x1C40, 0x1C50, 0xA620, 0xA8D0, 0xA900, 0xA9D0, 0xA9F0, 0xAA50, 0xABF0,
  0xFF10, 0x104A0, 0x10D30, 0x11066, 0x110F0, 0x11136, 0x111D0, 0x112F0, 0x11450, 0x114D0,
  0x11650, 0x116C0, 0x11730, 0x118E0, 0x11950, 0x11C50, 0x11D50, 0x11DA0, 0x16A60, 0x16AC0,
  0x16B50, 0x1D7CE, 0x1D7D8, 0x1D7E2, 0x1D7EC, 0x1D7F6, 0x1E140, 0x1E2F0, 0x1E950, 0x1FBF0]

/-- The value of a decimal digit, in whatever script. -/
def digitValue? (c : CodePoint) : Option Nat :=
  if c.isDigit then some (c.toNat - 0x30)
  else if c.toNat < 0x80 then none
  else (zeros.find? fun z => z ≤ c.toNat && c.toNat ≤ z + 9).map (c.toNat - ·)

/-- The value of a hexadecimal digit in either case. -/
def hexValue? (c : CodePoint) : Option Nat :=
  if '0' ≤ c ∧ c ≤ '9' then some (c.toNat - 0x30)
  else if 'a' ≤ c ∧ c ≤ 'f' then some (c.toNat - 0x57)
  else if 'A' ≤ c ∧ c ≤ 'F' then some (c.toNat - 0x37)
  else none

/-- The number that decimal digits of ASCII denote. -/
def decimalNumber (digits : List CodePoint) : Nat :=
  digits.foldl (fun n c => 10 * n + (c.toNat - 0x30)) 0

/-- The number that hexadecimal digits denote, if all are some. -/
def hexNumber? (digits : List CodePoint) : Option Nat :=
  digits.foldlM (fun n c => (hexValue? c).map (16 * n + ·)) 0

/-- The hexadecimal digit of a value below sixteen, in lower case. -/
def hexDigit (value : Nat) : CodePoint :=
  if value < 10 then Char.ofNat (0x30 + value) else Char.ofNat (0x57 + value)

/-- A number written in lower-case hexadecimal with the given count of digits, the lowest ones. -/
def hexDigits : Nat → Nat → List CodePoint
  | 0, _ => []
  | count + 1, value => hexDigits count (value / 16) ++ [hexDigit (value % 16)]

theorem length_hexDigits (count value : Nat) : (hexDigits count value).length = count := by
  induction count generalizing value with
  | zero => rfl
  | succ n ih => simp [hexDigits, ih]

theorem isWhole_hexDigits (count value : Nat) : isWhole (hexDigits count value) = true := by
  induction count generalizing value with
  | zero => rfl
  | succ n ih =>
    have digit : isWhole [hexDigit (value % 16)] = true := by
      unfold hexDigit
      split <;> rfl
    rw [hexDigits, isWhole_append, ih, digit]
    rfl

/-- Hexadecimal digits stand between `0` and `f`. -/
theorem toNat_of_hexValue? {c : CodePoint} {value : Nat} (digit : hexValue? c = some value) :
    48 ≤ c.toNat ∧ c.toNat ≤ 102 := by
  have within : ∀ low high : CodePoint, 48 ≤ low.toNat → high.toNat ≤ 102 → low ≤ c ∧ c ≤ high →
      48 ≤ c.toNat ∧ c.toNat ≤ 102 := by
    rintro low high above below ⟨first, last⟩
    exact ⟨Nat.le_trans above first, Nat.le_trans last below⟩
  unfold hexValue? at digit
  split at digit
  · exact within '0' '9' (by decide) (by decide) ‹_›
  · split at digit
    · exact within 'a' 'f' (by decide) (by decide) ‹_›
    · split at digit
      · exact within 'A' 'F' (by decide) (by decide) ‹_›
      · cases digit

end LogTemplate.Text
