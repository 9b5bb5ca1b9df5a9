import Mathlib.Algebra.Ring.Nat
import LogTemplate.Numeral
import LogTemplate.Proofs.Text.Munch

/-!
# Decimal numerals

Which characters a decimal numeral can hold, how long the integer is that it denotes, and that an
integer in decimal digits is read back as itself.
-/

namespace LogTemplate.Numeral

open LogTemplate.Text

/-- The digits of a numeral have values below ten, whatever their script. -/
theorem digitValue?_lt {c : CodePoint} {value : Nat} (digit : digitValue? c = some value) :
    value < 10 := by
  unfold digitValue? at digit
  split at digit
  · rename_i ascii
    rw [CodePoint.isDigit_iff_toNat] at ascii
    have upper : '9'.toNat = 57 := rfl
    cases digit
    omega
  · split at digit
    · cases digit
    · obtain ⟨first, found, rfl⟩ := Option.map_eq_some_iff.mp digit
      have near := List.find?_some found
      simp only [Bool.and_eq_true, decide_eq_true_eq] at near
      omega

theorem ofDigits_lt {base : Nat} {digits : List Nat} (small : ∀ d ∈ digits, d < base) :
    ofDigits base digits < base ^ digits.length := by
  have key : ∀ start, digits.foldl (fun n d => base * n + d) start <
      base ^ digits.length * (start + 1) := by
    induction digits with
    | nil => intro start; simp
    | cons d rest ih =>
      intro start
      have below : d < base := small d (by simp)
      have tail := ih (fun e member => small e (by simp [member])) (base * start + d)
      have step : base * start + d + 1 ≤ base * (start + 1) := by
        rw [Nat.mul_add]
        omega
      calc List.foldl (fun n d => base * n + d) start (d :: rest)
          < base ^ rest.length * (base * start + d + 1) := tail
        _ ≤ base ^ rest.length * (base * (start + 1)) := Nat.mul_le_mul_left _ step
        _ = base ^ (d :: rest).length * (start + 1) := by
          rw [List.length_cons, Nat.pow_succ, Nat.mul_assoc]
  simpa [ofDigits] using key 0

/-- The values of a run of grouped digits are values of digits. -/
theorem digit_of_mem_groupedDigits {body : List CodePoint} {digits : List Nat}
    (grouped : groupedDigits? 10 body = some digits) : ∀ d ∈ digits, d < 10 := by
  fun_induction groupedDigits? 10 body generalizing digits with
  | case1 => cases grouped
  | case2 c =>
    obtain ⟨value, digit, rfl⟩ := Option.map_eq_some_iff.mp grouped
    simpa using digitValue?_lt digit
  | case3 c rest ih =>
    simp only [Option.bind_eq_bind, Option.bind_eq_some_iff] at grouped
    obtain ⟨value, digit, tail, tailRead, same⟩ := grouped
    cases same
    simpa using ⟨digitValue?_lt digit, ih tailRead⟩
  | case4 c rest _ _ ih =>
    simp only [Option.bind_eq_bind, Option.bind_eq_some_iff] at grouped
    obtain ⟨value, digit, tail, tailRead, same⟩ := grouped
    cases same
    simpa using ⟨digitValue?_lt digit, ih tailRead⟩

/-- The characters among which the digits of a decimal numeral are looked for. -/
def isPart (c : CodePoint) : Bool := c == '_' || (digit? 10 c).isSome

/-- What a text that is a numeral is made of: behind white space and a sign come grouped digits,
and behind them nothing but white space. -/
theorem shape_of_readDecimal {text : List CodePoint} {value : Int}
    (success : readDecimal text = .ok value) :
    ∃ digits, groupedDigits? 10 ((splitSign (text.dropWhile isPadding)).2.takeWhile isPart) =
        some digits
      ∧ digits.length ≤ digitLimit ∧ value.natAbs = ofDigits 10 digits
      ∧ ((splitSign (text.dropWhile isPadding)).2.dropWhile isPart).all isPadding = true := by
  simp only [readDecimal, read, Nat.reduceEqDiff, if_false] at success
  split at success
  · cases success
  · rename_i digits found
    split at success
    · cases success
    · rename_i short
      split at success
      · rename_i ended
        refine ⟨digits, found, by simpa using short, ?_, ended⟩
        rw [← Except.ok.inj success]
        split
        · simp
        · simp
      · cases success

/-- An integer that is read has at most as many digits as a numeral may have. -/
theorem length_of_readDecimal {text : List CodePoint} {value : Int}
    (success : readDecimal text = .ok value) : (toString value.natAbs).length ≤ digitLimit := by
  obtain ⟨digits, grouped, short, size, -⟩ := shape_of_readDecimal success
  have below := ofDigits_lt (digit_of_mem_groupedDigits grouped)
  rw [Nat.toString_eq_repr, Nat.length_repr_le_iff (by decide), size]
  exact Nat.lt_of_lt_of_le below (Nat.pow_le_pow_right (by decide) short)

/-- What a text holds before its sign is taken off, it holds behind or is the sign. -/
theorem mem_splitSign {c : CodePoint} {s : List CodePoint} (member : c ∈ s) :
    c = '-' ∨ c = '+' ∨ c ∈ (splitSign s).2 := by
  unfold splitSign
  split
  · rcases List.mem_cons.mp member with equal | inside
    · exact .inl equal
    · exact .inr (.inr inside)
  · rcases List.mem_cons.mp member with equal | inside
    · exact .inr (.inl equal)
    · exact .inr (.inr inside)
  · exact .inr (.inr member)

theorem mem_takeWhile_or_dropWhile {p : CodePoint → Bool} {c : CodePoint} {s : List CodePoint}
    (member : c ∈ s) :
    c ∈ s.takeWhile p ∨ c ∈ s.dropWhile p := by
  rw [← List.takeWhile_append_dropWhile (p := p) (l := s)] at member
  exact List.mem_append.mp member

/-- The characters of a numeral: white space around it, a sign, underscores and digits. -/
theorem mem_of_readDecimal {text : List CodePoint} {value : Int} {c : CodePoint}
    (success : readDecimal text = .ok value) (member : c ∈ text) :
    isPadding c = true ∨ c = '-' ∨ c = '+' ∨ c = '_' ∨ (digitValue? c).isSome = true := by
  obtain ⟨-, -, -, -, ended⟩ := shape_of_readDecimal success
  rcases mem_takeWhile_or_dropWhile (p := isPadding) member with padding | inside
  · exact .inl (mem_takeWhile padding)
  rcases mem_splitSign inside with minus | plus | unsigned
  · exact .inr (.inl minus)
  · exact .inr (.inr (.inl plus))
  rcases mem_takeWhile_or_dropWhile (p := isPart) unsigned with part | after
  · have inPart := mem_takeWhile part
    simp only [isPart, Bool.or_eq_true, beq_iff_eq] at inPart
    rcases inPart with underscore | digit
    · exact .inr (.inr (.inr (.inl underscore)))
    · exact .inr (.inr (.inr (.inr digit)))
  · exact .inl (List.all_eq_true.mp ended c after)

theorem digit?_of_isDigit {c : CodePoint} (digit : c.isDigit = true) :
    digit? 10 c = some (c.toNat - 0x30) := by
  simp [digit?, digitValue?, digit]

theorem isPadding_of_isDigit {c : CodePoint} (digit : c.isDigit = true) : isPadding c = false := by
  rw [CodePoint.isDigit_iff_toNat] at digit
  have low : '0'.toNat = 48 := rfl
  have high : '9'.toNat = 57 := rfl
  simp only [isPadding, Bool.or_eq_false_iff, Bool.and_eq_false_iff, decide_eq_false_iff_not,
    beq_eq_false_iff_ne]
  refine ⟨⟨.inr (by omega), by omega⟩, .inl (by omega)⟩

theorem isBlank_of_isDigit {c : CodePoint} (digit : c.isDigit = true) : isBlank c = false := by
  rw [CodePoint.isDigit_iff_toNat] at digit
  have low : '0'.toNat = 48 := rfl
  have high : '9'.toNat = 57 := rfl
  simp only [isBlank, Bool.or_eq_false_iff, Bool.and_eq_false_iff, decide_eq_false_iff_not,
    beq_eq_false_iff_ne]
  omega

/-- Digits without underscores between them are grouped digits, with the values they have. -/
theorem groupedDigits?_of_digit? {base : Nat} {digits : List CodePoint} {value : CodePoint → Nat}
    (filled : digits ≠ []) (plain : .char '_' ∉ digits)
    (each : ∀ c ∈ digits, digit? base c = some (value c)) :
    groupedDigits? base digits = some (digits.map value) := by
  fun_induction groupedDigits? base digits with
  | case1 => exact absurd rfl filled
  | case2 c => simp [each c (by simp)]
  | case3 c rest _ => exact absurd (by simp) plain
  | case4 c rest single _ ih =>
    rw [List.mem_cons, not_or] at plain
    have tail : groupedDigits? base rest = some (rest.map value) :=
      ih (fun empty => single empty) plain.2 (fun d member => each d (by simp [member]))
    simp [each c (by simp), tail]

theorem groupedDigits?_of_isDigit {digits : List CodePoint} (filled : digits ≠ [])
    (plain : ∀ c ∈ digits, c.isDigit = true) :
    groupedDigits? 10 digits = some (digits.map fun c => c.toNat - 0x30) := by
  have ungrouped : .char '_' ∉ digits := fun member => absurd (plain '_' member) (by decide)
  exact groupedDigits?_of_digit? filled ungrouped fun c member => digit?_of_isDigit (plain c member)

theorem ofDigits_map_toNat (digits : List CodePoint) :
    ofDigits 10 (digits.map fun c => c.toNat - 0x30) = decimalNumber digits := by
  rw [ofDigits, List.foldl_map]
  rfl

/-- Plain digits, perhaps with a minus sign before them, are a numeral unless there are too many. -/
theorem readDecimal_digits {digits : List CodePoint} (filled : digits ≠ [])
    (plain : ∀ c ∈ digits, c.isDigit = true) (short : digits.length ≤ digitLimit) :
    readDecimal digits = .ok (decimalNumber digits)
      ∧ readDecimal (.char '-' :: digits) = .ok (-(decimalNumber digits : Nat)) := by
  have inside : ∀ c ∈ digits, isPart c = true := by
    intro c member
    simp [isPart, digit?_of_isDigit (plain c member)]
  have taken : digits.takeWhile isPart = digits := List.takeWhile_eq_self_iff.mpr inside
  have dropped : digits.dropWhile isPart = [] := List.dropWhile_eq_nil_iff.mpr inside
  have grouped := groupedDigits?_of_isDigit filled plain
  have unpadded : digits.dropWhile isPadding = digits := by
    cases digits with
    | nil => rfl
    | cons c rest => simp [isPadding_of_isDigit (plain c (by simp))]
  have unsigned : splitSign digits = (false, digits) := by
    unfold splitSign
    split
    · exact absurd (plain '-' (by simp)) (by decide)
    · exact absurd (plain '+' (by simp)) (by decide)
    · rfl
  have minus : (.char '-' :: digits).dropWhile isPadding = .char '-' :: digits := by
    rw [List.dropWhile_cons_of_neg (by decide)]
  unfold isPart at taken dropped
  constructor
  · simp [readDecimal, read, unpadded, unsigned, taken, dropped, grouped, ofDigits_map_toNat,
      Nat.not_lt.mpr short]
  · simp [readDecimal, read, minus, splitSign, taken, dropped, grouped, ofDigits_map_toNat,
      Nat.not_lt.mpr short]

/-- The decimal digits of a number. -/
def digitsOf (n : Nat) : List CodePoint := (Nat.toDigits 10 n).map .char

theorem digitsOf_ne_nil {n : Nat} : digitsOf n ≠ [] := by
  rw [digitsOf, Ne, List.map_eq_nil_iff]
  exact Nat.toDigits_ne_nil

theorem isDigit_of_mem_digitsOf {n : Nat} {c : CodePoint} (member : c ∈ digitsOf n) :
    c.isDigit = true := by
  obtain ⟨d, inside, rfl⟩ := List.mem_map.mp member
  exact Nat.isDigit_of_mem_toDigits (by decide) (by decide) inside

theorem decimalNumber_digitsOf (n : Nat) : decimalNumber (digitsOf n) = n := by
  have digits := Nat.ofDigitChars_ten_toDigits (n := n)
  rw [Nat.ofDigitChars_eq_foldl] at digits
  rw [decimalNumber, digitsOf, List.foldl_map]
  exact digits

theorem length_digitsOf (n : Nat) : (digitsOf n).length = (toString n).length := by
  simp [digitsOf, Nat.repr_eq_ofList_toDigits]

/-- The digits of an integer, behind a minus sign if it is negative. -/
theorem toList_decimal (n : Int) :
    Text.toList (decimal n) =
      if n < 0 then .char '-' :: digitsOf n.natAbs else digitsOf n.natAbs := by
  cases n with
  | ofNat m => simp [decimal, Text.toList_ofString, digitsOf, Int.toString_eq_repr, Int.repr]
  | negSucc m =>
    have negative : Int.negSucc m < 0 := Int.negSucc_lt_zero m
    simp [decimal, Text.toList_ofString, digitsOf, Int.toString_eq_repr, Int.repr, negative]

theorem isBlank_of_mem_decimal {n : Int} {c : CodePoint} (member : c ∈ Text.toList (decimal n)) :
    isBlank c = false := by
  have inDigits : c ∈ digitsOf n.natAbs → isBlank c = false := fun inside =>
    isBlank_of_isDigit (isDigit_of_mem_digitsOf inside)
  rw [toList_decimal] at member
  split at member
  · rcases List.mem_cons.mp member with rfl | inside
    · decide
    · exact inDigits inside
  · exact inDigits member

/-- An integer with few enough digits is read back from its decimal digits. -/
theorem readDecimal_decimal {n : Int} (short : (toString n.natAbs).length ≤ digitLimit) :
    readDecimal (Text.toList (decimal n)) = .ok n := by
  have length : (digitsOf n.natAbs).length ≤ digitLimit := by
    rwa [length_digitsOf]
  obtain ⟨positive, negative⟩ :=
    readDecimal_digits digitsOf_ne_nil (fun _ => isDigit_of_mem_digitsOf) length
  rw [decimalNumber_digitsOf] at positive negative
  rw [toList_decimal]
  split
  · rw [negative]
    congr 1
    omega
  · rw [positive]
    congr 1
    omega

end LogTemplate.Numeral
