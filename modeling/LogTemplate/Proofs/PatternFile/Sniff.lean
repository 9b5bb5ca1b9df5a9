import LogTemplate.PatternFile.Format
import LogTemplate.Proofs.Double
import LogTemplate.Proofs.Json.Soundness
import LogTemplate.Proofs.PatternFile.JsonLines
import LogTemplate.Proofs.Refusing
import Mathlib.Data.List.DropRight
import Mathlib.Data.Rat.Floor

/-!
# What a sample tells

Three scores compete for a sample, and the share of its lines that are objects is one of them.
Main statement: which format wins can be read off the sample, with scores that are fractions and,
unless the sample has an exorbitant number of lines, with scores that are rounded.
-/

namespace LogTemplate.PatternFile

open Text Double

/-- The starts of a text that show a YAML text or a list. -/
def plainStarts : List (List CodePoint) :=
  [Text.toList "[", Text.toList "---", Text.toList "- ", Text.toList "patterns:"]

/-- The first line of a sample behind the blanks at its front. -/
def firstLine (sample : List CodePoint) : List CodePoint := (splitLines (trimLeft sample)).headD []

section

variable [Nesting]

/-- Whether a line is an object, but for the blanks around it. -/
def IsObject (line : List CodePoint) : Prop :=
  ∃ entries, Json.read (trim line) = .ok (.mapping entries)

/-- How the format that is told depends on the sample. -/
structure Tells (sample : List CodePoint) (told : Option Format) : Prop where
  /-- A bracket at the front tells JSON, whatever follows. -/
  bracket : [.char '['] <+: trimLeft sample → told = some .json
  /-- Lines that are all objects tell lines of JSON. -/
  objects : (∃ line ∈ splitLines sample, trim line ≠ []) →
    (∀ line ∈ splitLines sample, trim line ≠ [] → IsObject line) → told = some .jsonLines
  /-- Nothing is told if neither the start nor any line shows a format.  A brace at the front shows
  none if the first line is too deep, and objects show none if any line is. -/
  none_iff : told = none ↔ (∀ start ∈ plainStarts, ¬ start <+: trimLeft sample)
    ∧ ([.char '\x7b'] <+: trimLeft sample → IsTooDeep (firstLine sample))
    ∧ ((∃ line ∈ denseLines sample, IsTooDeep line)
      ∨ ∀ line ∈ splitLines sample, trim line ≠ [] → ¬ IsObject line)

end

/-! ## Scores as fractions -/

/-- The score of a sample as YAML, in tenths. -/
def yamlTenths (sample : List CodePoint) : Nat :=
  if yamlStarts.any (·.isPrefixOf (trimLeft sample)) then 7 else 0

section

variable [Nesting]

/-- The score of a sample as JSON, in tenths. -/
def jsonTenths (sample : List CodePoint) : Nat :=
  let front := trimLeft sample
  if front.head? = some (.char '[') then 9
  else if front.head? = some (.char '\x7b') then
    match isMapping? (firstLine sample) with
    | .ok (some _) => 4
    | .ok none => 8
    | .error _ => 0
  else 0

/-- Whether a line is found to be an object. -/
def isHit (line : List CodePoint) : Bool :=
  match isMapping? line with
  | .ok (some true) => true
  | _ => false

/-- How many lines of a sample are objects; none counts if any line is too deep. -/
def hits (sample : List CodePoint) : Nat :=
  if (denseLines sample).all fun line => (isMapping? line).isOk then
    (denseLines sample).countP isHit
  else 0

/-- The score of a sample in a format, without rounding. -/
def exactScore (sample : List CodePoint) : Format → ℚ
  | .json => jsonTenths sample / 10
  | .jsonLines => 9 / 10 * hits sample / (denseLines sample).length
  | .yaml => yamlTenths sample / 10

/-- A format without a score counts as one with a score of zero. -/
def counted : Except Nesting.Excess Double → Double
  | .ok score => score
  | .error _ => .ofNat 0

theorem counted_jsonScore (sample : List CodePoint) :
    counted (jsonScore sample) = tenths (jsonTenths sample) := by
  unfold jsonScore jsonTenths firstLine
  generalize trimLeft sample = front
  split
  · rfl
  · have other : some (CodePoint.char '\x7b') ≠ some (.char '[') := by decide
    simp only [List.head?_cons, if_neg other, if_true]
    rcases isMapping? _ with what | _ | _ | _ <;> rfl
  · rename_i noBracket noBrace
    cases front with
    | nil => rfl
    | cons c rest =>
      have bracket : some c ≠ some (.char '[') := fun same =>
        noBracket rest (Option.some.inj same ▸ rfl)
      have brace : some c ≠ some (.char '\x7b') := fun same =>
        noBrace rest (Option.some.inj same ▸ rfl)
      simp only [List.head?_cons, bracket, brace, if_false]
      rfl

theorem mapM_isMapping? {lines : List (List CodePoint)}
    (shallow : lines.all (fun line => (isMapping? line).isOk) = true) :
    ∃ found, lines.mapM isMapping? = .ok found
      ∧ found.count (some true) = lines.countP isHit := by
  induction lines with
  | nil => exact ⟨[], rfl, rfl⟩
  | cons line lines ih =>
    rw [List.all_cons, Bool.and_eq_true] at shallow
    obtain ⟨found, all, count⟩ := ih shallow.2
    cases first : isMapping? line with
    | error what =>
      rw [first] at shallow
      cases shallow.1
    | ok mapping =>
      refine ⟨mapping :: found, by rw [List.mapM_cons, first, ok_bind, all]; rfl, ?_⟩
      rw [List.count_cons, List.countP_cons, count, isHit, first]
      rcases mapping with _ | _ | _ <;> rfl

theorem exists_error_mapM_isMapping? {lines : List (List CodePoint)}
    (deep : ¬ lines.all (fun line => (isMapping? line).isOk) = true) :
    ∃ what, lines.mapM isMapping? = .error what := by
  cases all : lines.mapM isMapping? with
  | error what => exact ⟨what, rfl⟩
  | ok found =>
    refine absurd (List.all_eq_true.mpr fun line member => ?_) deep
    obtain ⟨i, present⟩ := List.mem_iff_getElem?.mp member
    obtain ⟨mapping, same, -⟩ := exists_getElem?_of_mapM all present
    rw [same]
    rfl

theorem counted_jsonLinesScore {sample : List CodePoint} (lines : (denseLines sample).length ≠ 0)
    (shallow : (denseLines sample).all (fun line => (isMapping? line).isOk) = true) :
    counted (jsonLinesScore sample) =
      ((tenths 9).scale (hits sample)).divide (denseLines sample).length := by
  obtain ⟨found, all, count⟩ := mapM_isMapping? shallow
  have filled : ¬ (denseLines sample).isEmpty = true := by simpa using lines
  rw [hits, if_pos shallow, ← count, jsonLinesScore, if_neg filled, all]
  rfl

theorem counted_jsonLinesScore_of_empty {sample : List CodePoint}
    (empty : (denseLines sample).length = 0) : counted (jsonLinesScore sample) = .ofNat 0 := by
  have empty : (denseLines sample).isEmpty = true := by simpa using empty
  rw [jsonLinesScore, if_pos empty]
  rfl

theorem counted_jsonLinesScore_of_deep {sample : List CodePoint}
    (deep : ¬ (denseLines sample).all (fun line => (isMapping? line).isOk) = true) :
    counted (jsonLinesScore sample) = .ofNat 0 := by
  obtain ⟨what, refused⟩ := exists_error_mapM_isMapping? deep
  rw [jsonLinesScore]
  split
  · rfl
  · rw [refused]
    rfl

end

theorem yamlScore_eq (sample : List CodePoint) : yamlScore sample = tenths (yamlTenths sample) := by
  unfold yamlScore yamlTenths
  split <;> rfl

/-! ## The best score -/

section

/-- The better one of the best score so far and that of a format. -/
def improve (value : Format → ℚ) (best : ℚ × Option Format) (format : Format) :
    ℚ × Option Format :=
  if best.1 < value format then (value format, some format) else best

/-- The format with the best of some fractions, if one is above zero. -/
def told (value : Format → ℚ) : Option Format := (Format.all.foldl (improve value) (0, none)).2

variable {value : Format → ℚ}

/-- Doubles are as good as what they stand for, and a format without a score is as good as one with
a score of zero. -/
theorem sniff_eq_told [Nesting] {sample : List CodePoint}
    (stands : ∀ f : Format, Stands (counted (f.score sample)) (value f)) :
    sniff sample = told value := by
  have key : ∀ (formats : List Format) {x : Double} {p : ℚ} (told : Option Format), Stands x p →
      0 ≤ p →
      (formats.foldl (better sample) (x, told)).2 =
        (formats.foldl (improve value) (p, told)).2 := by
    intro formats
    induction formats with
    | nil => exact fun _ _ _ => rfl
    | cons format formats ih =>
      intro x p told known least
      have next := stands format
      rw [List.foldl_cons, List.foldl_cons, better, improve]
      cases scored : format.score sample with
      | error what =>
        rw [scored] at next
        have zero : value format = 0 := next.unique stands_zero
        rw [if_neg (by rw [zero]; exact not_lt.mpr least)]
        exact ih told known least
      | ok score =>
        rw [scored] at next
        have less : x.less score = true ↔ p < value format := less_eq_true_iff known next
        dsimp only
        by_cases above : p < value format
        · rw [if_pos (less.mpr above), if_pos above]
          exact ih _ next (least.trans above.le)
        · rw [if_neg (mt less.mp above), if_neg above]
          exact ih told known least
  exact key Format.all none stands_zero le_rfl

theorem told_eq_json (shown : 0 < value .json) (lines : value .jsonLines ≤ value .json)
    (yaml : value .yaml ≤ value .json) : told value = some .json := by
  simp [told, Format.all, improve, shown, not_lt.mpr lines, not_lt.mpr yaml]

theorem told_eq_jsonLines (shown : 0 < value .jsonLines) (json : value .json < value .jsonLines)
    (yaml : value .yaml ≤ value .jsonLines) : told value = some .jsonLines := by
  by_cases positive : 0 < value .json
  · simp [told, Format.all, improve, positive, json, not_lt.mpr yaml]
  · simp [told, Format.all, improve, positive, shown, not_lt.mpr yaml]

theorem told_eq_none_iff : told value = none ↔
    ¬0 < value .json ∧ ¬0 < value .jsonLines ∧ ¬0 < value .yaml := by
  simp only [told, Format.all, List.foldl_cons, List.foldl_nil, improve]
  grind

end

/-! ## Scores that order as they should -/

/-- What matters of the scores of a sample: rounding may move them, but not past each other. -/
structure IsFair [Nesting] (sample : List CodePoint) (value : Format → ℚ) : Prop where
  json : Rounds (jsonTenths sample / 10) (value .json)
  yaml : Rounds (yamlTenths sample / 10) (value .yaml)
  lines_pos_iff : 0 < value .jsonLines ↔ hits sample ≠ 0
  le_lines : hits sample ≠ 0 → hits sample = (denseLines sample).length → 7 / 8 ≤ value .jsonLines
  lines_le : jsonTenths sample = 9 → hits sample < (denseLines sample).length →
    value .jsonLines ≤ value .json

section

variable {n : Nat} {q : ℚ}

theorem isNumber_zero : IsNumber 0 := ⟨_, stands_zero⟩

theorem isNumber_seven_eighths : IsNumber (7 / 8) :=
  isNumber_of_eq_div 7 3 (by norm_num) (by norm_num) (by norm_num)

theorem tenths_pos_iff (rounds : Rounds (n / 10) q) : 0 < q ↔ n ≠ 0 := by
  constructor
  · rintro shown rfl
    have le : q ≤ 0 := rounds.greatest 0 isNumber_zero (by norm_num)
    exact absurd shown (not_lt.mpr le)
  · intro filled
    have least : (1 : ℚ) ≤ n := Nat.one_le_cast.mpr (Nat.one_le_iff_ne_zero.mpr filled)
    have number : IsNumber (1 / 16) :=
      isNumber_of_eq_div 1 4 (by norm_num) (by norm_num) (by norm_num)
    have le : 1 / 16 ≤ q := rounds.least _ number (by linarith)
    linarith

theorem tenths_le (few : n ≤ 8) (rounds : Rounds (n / 10) q) : q ≤ 13 / 16 := by
  have most : (n : ℚ) ≤ 8 := Nat.cast_le_ofNat.mpr few
  have number : IsNumber (13 / 16) :=
    isNumber_of_eq_div 13 4 (by norm_num) (by norm_num) (by norm_num)
  exact rounds.greatest _ number (by linarith)

theorem le_nine_tenths (rounds : Rounds (9 / 10) q) : 7 / 8 ≤ q :=
  rounds.least _ isNumber_seven_eighths (by norm_num)

theorem nine_tenths_le (rounds : Rounds (9 / 10) q) : q ≤ 1 :=
  rounds.greatest _ (isNumber_of_eq_div 1 0 (by norm_num) (by norm_num) (by norm_num)) (by norm_num)

end

/-- Nine tenths of the share of `k` in `n`, rounded first as a multiple and then as a quotient. -/
structure IsShare (factor : ℚ) (k n : Nat) (multiple share : ℚ) : Prop where
  isNumber : IsNumber factor
  nine : Rounds (9 / 10) factor
  le : k ≤ n
  filled : n ≠ 0
  few : n < 2 ^ 50
  scaled : Rounds (factor * k) multiple
  divided : Rounds (multiple / n) share

namespace IsShare

variable {factor multiple share : ℚ} {k n : Nat}

theorem n_pos (isShare : IsShare factor k n multiple share) : (0 : ℚ) < n :=
  Nat.cast_pos.mpr (Nat.pos_of_ne_zero isShare.filled)

/-- Seven eighths of a number of lines are a number of the format, and no more than nine tenths. -/
theorem le_multiple (isShare : IsShare factor k n multiple share) : 7 / 8 * k ≤ multiple := by
  have small : 7 * k < 2 ^ 53 := by
    have le := isShare.le
    have few := isShare.few
    omega
  have number : IsNumber (7 / 8 * k) :=
    isNumber_of_eq_div (7 * k) 3 (by push_cast; ring) small (by norm_num)
  have seven := le_nine_tenths isShare.nine
  exact isShare.scaled.least _ number (mul_le_mul_of_nonneg_right seven k.cast_nonneg)

theorem pos_iff (isShare : IsShare factor k n multiple share) : 0 < share ↔ k ≠ 0 := by
  have positive := isShare.n_pos
  constructor
  · rintro shown rfl
    have none : multiple ≤ 0 := isShare.scaled.greatest 0 isNumber_zero (by simp)
    have le : share ≤ 0 := isShare.divided.greatest 0 isNumber_zero
      (div_nonpos_of_nonpos_of_nonneg none positive.le)
    exact absurd shown (not_lt.mpr le)
  · intro some
    have one : (1 : ℚ) ≤ k := Nat.one_le_cast.mpr (Nat.one_le_iff_ne_zero.mpr some)
    have few : (n : ℚ) ≤ 2 ^ 50 := by exact_mod_cast isShare.few.le
    have part := isShare.le_multiple
    have quotient : 1 / 2 ^ 51 ≤ multiple / n := by
      rw [le_div_iff₀ positive]
      linarith
    have number : IsNumber (1 / 2 ^ 51) :=
      isNumber_of_eq_div 1 51 (by norm_num) (by norm_num) (by norm_num)
    exact lt_of_lt_of_le (by norm_num) (isShare.divided.least _ number quotient)

theorem le_share (isShare : IsShare factor k n multiple share) (all : k = n) : 7 / 8 ≤ share := by
  have part := isShare.le_multiple
  refine isShare.divided.least _ isNumber_seven_eighths ?_
  rwa [le_div_iff₀ isShare.n_pos, ← all]

/-- If a line is left over, rounding up to halves stays below nine tenths of all lines. -/
theorem share_le (isShare : IsShare factor k n multiple share) (left : k < n) :
    share ≤ factor := by
  have seven := le_nine_tenths isShare.nine
  have whole := nine_tenths_le isShare.nine
  have next : (k : ℚ) + 1 ≤ n := by exact_mod_cast left
  have room : factor * (k + 1) ≤ factor * n := mul_le_mul_of_nonneg_left next (by linarith)
  have above := Nat.le_ceil (2 * (factor * k))
  have under := Nat.ceil_lt_add_one (a := 2 * (factor * k)) (by positivity)
  have halves : (⌈2 * (factor * k)⌉₊ : ℚ) ≤ 2 * (factor * n) := by linarith
  have small : ⌈2 * (factor * k)⌉₊ < 2 ^ 53 := by
    have few : (n : ℚ) < 2 ^ 50 := by exact_mod_cast isShare.few
    have most : factor * n ≤ n := mul_le_of_le_one_left isShare.n_pos.le whole
    have bound : (⌈2 * (factor * k)⌉₊ : ℚ) < 2 ^ 53 := by linarith
    exact_mod_cast bound
  have number : IsNumber (⌈2 * (factor * k)⌉₊ / 2) :=
    isNumber_of_eq_div _ 1 (by rw [pow_one]) small (by norm_num)
  have part : multiple ≤ ⌈2 * (factor * k)⌉₊ / 2 := isShare.scaled.greatest _ number (by linarith)
  refine isShare.divided.greatest _ isShare.isNumber ?_
  rw [div_le_iff₀ isShare.n_pos]
  linarith

end IsShare

/-! ## The scores of a sample -/

section

variable {sample : List CodePoint}

theorem hits_le [Nesting] (sample : List CodePoint) : hits sample ≤ (denseLines sample).length := by
  unfold hits
  split
  · exact List.countP_le_length
  · exact Nat.zero_le _

/-- Fractions that are not rounded. -/
theorem isFair_exactScore [Nesting] (sample : List CodePoint) :
    IsFair sample (exactScore sample) where
  json := .refl _
  yaml := .refl _
  lines_pos_iff := by
    have le := hits_le sample
    rw [exactScore]
    constructor
    · rintro shown none
      simp [none] at shown
    · intro filled
      have some : (0 : ℚ) < hits sample := Nat.cast_pos.mpr (Nat.pos_of_ne_zero filled)
      have lines : (0 : ℚ) < (denseLines sample).length := Nat.cast_pos.mpr (by omega)
      positivity
  le_lines := by
    intro filled all
    have some : (hits sample : ℚ) ≠ 0 := Nat.cast_ne_zero.mpr filled
    rw [exactScore, ← all, mul_div_assoc, div_self some]
    norm_num
  lines_le := by
    intro bracket left
    have lines : (0 : ℚ) < (denseLines sample).length := Nat.cast_pos.mpr (by omega)
    have fewer : (hits sample : ℚ) ≤ (denseLines sample).length := Nat.cast_le.mpr left.le
    rw [exactScore, exactScore, bracket, div_le_iff₀ lines]
    push_cast
    linarith

theorem tenths_eq : ∀ n < 10, tenths n = ofQuotient false n 10 := by decide

/-- Nothing here comes near the largest doubles. -/
theorem lt_largest {q : ℚ} (le : q ≤ 2 ^ 50) : q < 2 ^ (maxExponent + 52) := by
  have large : (2 : ℚ) ^ (51 : Int) ≤ 2 ^ (maxExponent + 52) := two_zpow_le (by decide)
  norm_num at large
  linarith

theorem exists_stands_tenths {n : Nat} (few : n < 10) :
    ∃ q, Stands (tenths n) q ∧ Rounds (n / 10) q := by
  have most : (n : ℚ) < 10 := Nat.cast_lt_ofNat.mpr few
  rw [tenths_eq n few]
  exact exists_stands_ofQuotient (by decide) (lt_largest (by push_cast; linarith))

/-- What the score as lines of JSON stands for. -/
theorem exists_isShare [Nesting] (lines : (denseLines sample).length ≠ 0)
    (shallow : (denseLines sample).all (fun line => (isMapping? line).isOk) = true)
    (few : (denseLines sample).length < 2 ^ 50) : ∃ factor multiple share,
      Stands (tenths 9) factor ∧ Stands (counted (jsonLinesScore sample)) share
        ∧ IsShare factor (hits sample) (denseLines sample).length multiple share := by
  have le := hits_le sample
  obtain ⟨factor, stands, nine⟩ := exists_stands_tenths (n := 9) (by decide)
  have product : factor * hits sample ≤ hits sample :=
    mul_le_of_le_one_left (Nat.cast_nonneg _) (nine_tenths_le nine)
  have bound : (hits sample : ℚ) ≤ 2 ^ 50 := by exact_mod_cast le.trans few.le
  obtain ⟨multiple, multiplied, scaled⟩ :=
    exists_stands_scale stands (lt_largest (product.trans bound))
  have fewer : multiple ≤ hits sample := by
    have number : IsNumber (hits sample) :=
      isNumber_of_eq_div (hits sample) 0 (by simp) (by omega) (by norm_num)
    exact scaled.greatest _ number product
  have quotient : multiple / (denseLines sample).length ≤ 2 ^ 50 := by
    have positive : (1 : ℚ) ≤ (denseLines sample).length :=
      Nat.one_le_cast.mpr (Nat.one_le_iff_ne_zero.mpr lines)
    rw [div_le_iff₀ (by linarith)]
    linarith
  obtain ⟨share, shared, divided⟩ := exists_stands_divide multiplied lines (lt_largest quotient)
  rw [counted_jsonLinesScore lines shallow]
  exact ⟨factor, multiple, share, stands, shared,
    ⟨_, stands⟩, nine, le, lines, few, scaled, divided⟩

theorem jsonTenths_lt [Nesting] (sample : List CodePoint) : jsonTenths sample < 10 := by
  unfold jsonTenths
  dsimp only
  split
  · decide
  · split
    · split <;> decide
    · decide

theorem yamlTenths_lt (sample : List CodePoint) : yamlTenths sample < 8 := by
  unfold yamlTenths
  split <;> decide

/-- What the scores stand for, if the lines are not too many. -/
theorem exists_isFair [Nesting] (few : (denseLines sample).length < 2 ^ 50) :
    ∃ value : Format → ℚ, (∀ f : Format, Stands (counted (f.score sample)) (value f)) ∧
      IsFair sample value := by
  obtain ⟨json, standsJson, roundsJson⟩ := exists_stands_tenths (jsonTenths_lt sample)
  obtain ⟨yaml, standsYaml, roundsYaml⟩ :=
    exists_stands_tenths ((yamlTenths_lt sample).trans (by decide))
  rw [← counted_jsonScore] at standsJson
  rw [← yamlScore_eq] at standsYaml
  have le := hits_le sample
  by_cases unscored : (denseLines sample).length = 0 ∨
      ¬ (denseLines sample).all (fun line => (isMapping? line).isOk) = true
  · have zero : counted (jsonLinesScore sample) = .ofNat 0 :=
      unscored.elim counted_jsonLinesScore_of_empty counted_jsonLinesScore_of_deep
    have none : hits sample = 0 := by
      rcases unscored with empty | deep
      · omega
      · exact if_neg deep
    have stands : Stands (counted (jsonLinesScore sample)) 0 := by
      rw [zero]
      exact stands_zero
    refine ⟨fun | .json => json | .jsonLines => 0 | .yaml => yaml, ?_, ?_⟩
    · rintro (_ | _ | _) <;> assumption
    · have least : 0 ≤ json := roundsJson.least 0 isNumber_zero (by positivity)
      exact ⟨roundsJson, roundsYaml, by simp [none], by omega, fun _ _ => least⟩
  · rw [not_or, not_not] at unscored
    obtain ⟨factor, multiple, share, nine, stands, isShare⟩ :=
      exists_isShare unscored.1 unscored.2 few
    refine ⟨fun | .json => json | .jsonLines => share | .yaml => yaml, ?_, ?_⟩
    · rintro (_ | _ | _) <;> assumption
    · refine ⟨roundsJson, roundsYaml, isShare.pos_iff, fun _ => isShare.le_share, ?_⟩
      intro bracket left
      rw [counted_jsonScore, bracket] at standsJson
      have le := isShare.share_le left
      rwa [nine.unique standsJson] at le

end

/-! ## What scores tell of the sample -/

section

variable {sample : List CodePoint}

theorem jsonTenths_eq_nine_iff [Nesting] :
    jsonTenths sample = 9 ↔ [.char '['] <+: trimLeft sample := by
  unfold jsonTenths
  cases trimLeft sample with
  | nil => simp
  | cons c rest => by_cases bracket : c = '[' <;> grind

theorem isMapping?_eq_ok_iff [Nesting] {s : List CodePoint} :
    isMapping? s = .ok (some true) ↔ ∃ entries, Json.read s = .ok (.mapping entries) := by
  unfold isMapping?
  split <;> simp_all

theorem exists_isMapping?_eq_error_iff [Nesting] {s : List CodePoint} :
    (∃ what, isMapping? s = .error what) ↔ IsTooDeep s := by
  unfold isMapping? IsTooDeep
  split <;> simp_all

theorem isOk_isMapping?_iff [Nesting] {s : List CodePoint} :
    (isMapping? s).isOk = true ↔ ¬ IsTooDeep s := by
  rw [← exists_isMapping?_eq_error_iff]
  cases isMapping? s with
  | ok mapping => exact iff_of_true rfl (by simp)
  | error what => exact iff_of_false Bool.false_ne_true (by simp)

theorem isHit_iff [Nesting] {line : List CodePoint} :
    isHit line = true ↔ ∃ entries, Json.read line = .ok (.mapping entries) := by
  rw [← isMapping?_eq_ok_iff, isHit]
  rcases isMapping? line with _ | _ | _ | _ <;> simp

theorem jsonTenths_eq_zero_iff [Nesting] :
    jsonTenths sample = 0 ↔ ¬ [.char '['] <+: trimLeft sample
      ∧ ([.char '\x7b'] <+: trimLeft sample → IsTooDeep (firstLine sample)) := by
  have first : (match isMapping? (firstLine sample) with
      | .ok (some _) => 4
      | .ok none => 8
      | .error _ => 0) = 0 ↔ IsTooDeep (firstLine sample) := by
    rw [← exists_isMapping?_eq_error_iff]
    rcases isMapping? (firstLine sample) with _ | _ | _ <;> simp
  unfold jsonTenths
  cases trimLeft sample with
  | nil => simp
  | cons c rest => by_cases bracket : c = '[' <;> grind

theorem yamlTenths_eq_zero_iff :
    yamlTenths sample = 0 ↔ ∀ start ∈ yamlStarts, ¬ start <+: trimLeft sample := by
  unfold yamlTenths
  by_cases shown : yamlStarts.any (·.isPrefixOf (trimLeft sample)) <;> simp_all

theorem forall_mem_denseLines {P : List CodePoint → Prop} :
    (∀ line ∈ denseLines sample, P line) ↔
      ∀ line ∈ splitLines sample, trim line ≠ [] → P (trim line) := by
  simp [denseLines]

theorem all_isOk_iff [Nesting] :
    ((denseLines sample).all fun line => (isMapping? line).isOk) = true ↔
      ∀ line ∈ denseLines sample, ¬ IsTooDeep line := by
  simp only [List.all_eq_true, isOk_isMapping?_iff]

theorem hits_eq_zero_iff [Nesting] :
    hits sample = 0 ↔ (∃ line ∈ denseLines sample, IsTooDeep line)
      ∨ ∀ line ∈ splitLines sample, trim line ≠ [] → ¬ IsObject line := by
  unfold hits
  split
  · rename_i shallow
    rw [all_isOk_iff] at shallow
    have none : ¬ ∃ line ∈ denseLines sample, IsTooDeep line := fun ⟨line, member, deep⟩ =>
      shallow line member deep
    rw [or_iff_right none, List.countP_eq_zero, forall_mem_denseLines]
    simp only [isHit_iff, IsObject]
  · rename_i deep
    rw [all_isOk_iff] at deep
    push Not at deep
    exact iff_of_true rfl (.inl deep)

/-- Lines that are all objects all count. -/
theorem hits_of_forall_isObject [Nesting]
    (objects : ∀ line ∈ splitLines sample, trim line ≠ [] → IsObject line) :
    hits sample = (denseLines sample).length := by
  have all := forall_mem_denseLines (P := fun line =>
    ∃ entries, Json.read line = .ok (.mapping entries)).mpr objects
  have shallow : ((denseLines sample).all fun line => (isMapping? line).isOk) = true := by
    refine all_isOk_iff.mpr fun line member => ?_
    rintro ⟨what, refused⟩
    obtain ⟨entries, read⟩ := all line member
    cases read.symm.trans refused
  rw [hits, if_pos shallow, List.countP_eq_length]
  exact fun line member => isHit_iff.mpr (all line member)

/-! ### A bracket at the front -/

theorem denseLines_cons_of_isBlank {c : CodePoint} (blank : isBlank c = true) (s : List CodePoint) :
    denseLines (c :: s) = denseLines s := by
  cases breaks : isBreak c with
  | true => exact denseLines_append_break breaks [] s
  | false =>
    have trimmed : ∀ part, trim (c :: part) = trim part := by
      intro part
      rw [trim, trimLeft, List.dropWhile_cons_of_pos blank, trim, trimLeft]
    rw [denseLines_eq, denseLines_eq, splitOnP_cons breaks]
    cases parts : s.splitOnP isBreak with
    | nil => exact absurd parts (List.splitOnP_ne_nil isBreak s)
    | cons part others =>
      rw [List.headD_cons, List.tail_cons, List.map_cons, List.map_cons, trimmed]

/-- Blanks in front of a text do not matter. -/
theorem denseLines_trimLeft (s : List CodePoint) : denseLines (trimLeft s) = denseLines s := by
  induction s with
  | nil => rfl
  | cons c s ih =>
    cases blank : isBlank c with
    | true =>
      rw [denseLines_cons_of_isBlank blank, ← ih, trimLeft, List.dropWhile_cons_of_pos blank,
        trimLeft]
    | false => rw [trimLeft, List.dropWhile_cons_of_neg (by simp [blank])]

theorem trim_cons_of_filled {c : CodePoint} (filled : isBlank c = false) (s : List CodePoint) :
    ∃ rest, trim (c :: s) = c :: rest := by
  have left : trimLeft (c :: s) = c :: s := List.dropWhile_cons_of_neg (by simp [filled])
  have front : trim (c :: s) <+: c :: s := by
    rw [trim, left]
    exact List.rdropWhile_prefix isBlank _
  have kept : c ∈ trim (c :: s) :=
    (mem_trim_or_blank List.mem_cons_self).resolve_left (by simp [filled])
  cases trimmed : trim (c :: s) with
  | nil => simp [trimmed] at kept
  | cons d rest =>
    rw [trimmed, List.cons_prefix_cons] at front
    exact ⟨rest, by rw [front.1]⟩

/-- A character at the front that is not blank is at the front of the first line that is not. -/
theorem denseLines_cons_of_filled {c : CodePoint} (filled : isBlank c = false)
    (s : List CodePoint) :
    ∃ rest others, denseLines (c :: s) = (c :: rest) :: others := by
  have other := isBreak_eq_false filled
  obtain ⟨rest, trimmed⟩ := trim_cons_of_filled filled ((s.splitOnP isBreak).headD [])
  rw [denseLines_eq, splitOnP_cons other, List.map_cons, trimmed, List.filter_cons_of_pos (by simp)]
  exact ⟨_, _, rfl⟩

/-- What starts with a bracket is no object. -/
theorem not_isMapping_bracket [Nesting] (rest : List CodePoint) (entries : List (Text × Document)) :
    Json.read (.char '[' :: rest) ≠ .ok (.mapping entries) := by
  intro read
  obtain ⟨demand, ⟨p, spaced, text, denotes⟩, -⟩ := Json.exists_isTextOf_of_readWithin read
  obtain ⟨inside, body⟩ := denotes.exists_braces rfl
  rw [Json.Piece.text, body] at text
  cases before : p.before with
  | nil =>
    rw [before] at text
    cases text
  | cons c others =>
    have space : Json.isSpace c = true := spaced.1 c (by rw [before]; exact List.mem_cons_self)
    rw [before] at text
    obtain rfl : '[' = c := (List.cons.inj text).1
    cases space

theorem hits_lt_of_bracket [Nesting] (bracket : [.char '['] <+: trimLeft sample) :
    hits sample < (denseLines sample).length := by
  obtain ⟨rest, front⟩ := bracket
  obtain ⟨line, others, first⟩ := denseLines_cons_of_filled (c := '[') (by decide) rest
  have dense : denseLines sample = (.char '[' :: line) :: others := by
    rw [← denseLines_trimLeft, ← front]
    exact first
  have filled : (denseLines sample).length ≠ 0 := by simp [dense]
  unfold hits
  split
  · refine Nat.lt_of_le_of_ne List.countP_le_length fun all => ?_
    rw [List.countP_eq_length, dense] at all
    obtain ⟨entries, read⟩ := isHit_iff.mp (all _ List.mem_cons_self)
    exact not_isMapping_bracket line entries read
  · exact Nat.pos_of_ne_zero filled

theorem plainStarts_head? : ∀ start ∈ plainStarts, start.head? ≠ some (.char '\x7b') := by decide

theorem plainStarts_eq : plainStarts = [.char '['] :: yamlStarts := rfl

/-- Scores that order as they should tell what the sample shows. -/
theorem IsFair.tells [Nesting] {value : Format → ℚ} (fair : IsFair sample value) :
    Tells sample (told value) := by
  have yaml : value .yaml ≤ 13 / 16 := tenths_le (yamlTenths_lt sample).le fair.yaml
  refine ⟨?bracket, ?objects, ?none⟩
  case bracket =>
    intro bracket
    have nine := jsonTenths_eq_nine_iff.mpr bracket
    have json := fair.json
    rw [nine] at json
    have high : 7 / 8 ≤ value .json := le_nine_tenths json
    have lines := fair.lines_le nine (hits_lt_of_bracket bracket)
    exact told_eq_json (by linarith) lines (by linarith)
  case objects =>
    rintro ⟨line, member, filled⟩ objects
    have all := hits_of_forall_isObject objects
    have some : hits sample ≠ 0 := by
      intro none
      have empty : ∀ line ∈ denseLines sample, False := by
        rw [List.eq_nil_of_length_eq_zero (all.symm.trans none)]
        exact List.forall_mem_nil _
      exact forall_mem_denseLines.mp empty line member filled
    have other : jsonTenths sample ≠ 9 := fun nine =>
      (hits_lt_of_bracket (jsonTenths_eq_nine_iff.mp nine)).ne all
    have few := jsonTenths_lt sample
    have json : value .json ≤ 13 / 16 := tenths_le (by omega) fair.json
    have high := fair.le_lines some all
    exact told_eq_jsonLines (by linarith) (by linarith) (by linarith)
  case none =>
    rw [told_eq_none_iff, tenths_pos_iff fair.json, tenths_pos_iff fair.yaml, fair.lines_pos_iff,
      not_not, not_not, not_not, jsonTenths_eq_zero_iff, yamlTenths_eq_zero_iff, hits_eq_zero_iff,
      plainStarts_eq, List.forall_mem_cons]
    exact ⟨fun ⟨⟨bracket, brace⟩, lines, yaml⟩ => ⟨⟨bracket, yaml⟩, brace, lines⟩,
      fun ⟨⟨bracket, yaml⟩, brace, lines⟩ => ⟨⟨bracket, brace⟩, lines, yaml⟩⟩

/-- With scores that are fractions, and with rounded ones unless there are too many lines: a bracket
at the front tells JSON, objects alone tell lines of JSON, and no format is told exactly if the
sample starts like none and no line is an object, where a format has no say for which the sample is
nested too deep. -/
theorem sniff_tells [Nesting] (sample : List CodePoint) : Tells sample (told (exactScore sample)) ∧
    ((denseLines sample).length < 2 ^ 50 → Tells sample (sniff sample)) := by
  refine ⟨(isFair_exactScore sample).tells, ?_⟩
  intro few
  obtain ⟨value, stands, fair⟩ := exists_isFair few
  rw [sniff_eq_told stands]
  exact fair.tells

/-- A bracket tells JSON whatever the lines behind it are. -/
theorem sniff_tells_bracket :
    letI := Nesting.usual
    sniff (Text.toList "[\n\x7b\x7d") = some .json := by
  let := Nesting.usual
  exact ((sniff_tells _).2 (by decide)).bracket ⟨Text.toList "\n\x7b\x7d", rfl⟩

/-- A mapping with lists that are opened one inside the other. -/
def nestedSample : List CodePoint :=
  Text.toList "\x7b\"a\":" ++ List.replicate 5000 (CodePoint.char '[')

theorem not_blank_nestedSample : ∀ c ∈ nestedSample, isBlank c = false := by
  refine List.forall_mem_append.mpr ⟨forall_mem_of_all (by decide), fun c member => ?_⟩
  rw [List.eq_of_mem_replicate member]
  decide

/-- It tells no format, although there is a brace at the front. -/
theorem sniff_nestedSample :
    letI := Nesting.usual
    [.char '\x7b'] <+: trimLeft nestedSample ∧ told (exactScore nestedSample) = none
      ∧ sniff nestedSample = none := by
  let := Nesting.usual
  have front : trimLeft nestedSample = nestedSample :=
    List.dropWhile_cons_of_neg (a := CodePoint.char '\x7b') (by decide)
  have first : firstLine nestedSample = nestedSample := by
    rw [firstLine, front, (headD_and_tail_splitLines (q := fun _ => false) rfl nestedSample).1,
      List.splitOnP_eq_singleton fun c member => isBreak_eq_false (not_blank_nestedSample c member),
      List.headD_cons]
  have one : denseLines nestedSample = [nestedSample] :=
    denseLines_of_not_blank not_blank_nestedSample (List.cons_ne_nil (CodePoint.char '\x7b') _)
  have deep : IsTooDeep nestedSample := ⟨_, @Json.readWithin_entry 969 5000 (by decide)⟩
  have nothing : (∀ start ∈ plainStarts, ¬ start <+: trimLeft nestedSample)
      ∧ ([.char '\x7b'] <+: trimLeft nestedSample → IsTooDeep (firstLine nestedSample))
      ∧ ((∃ line ∈ denseLines nestedSample, IsTooDeep line)
        ∨ ∀ line ∈ splitLines nestedSample, trim line ≠ [] → ¬ IsObject line) := by
    refine ⟨?_, fun _ => first.symm ▸ deep, .inl ⟨_, one ▸ List.mem_singleton_self _, deep⟩⟩
    rw [front]
    intro start known shown
    have same : start.head? = some (.char '\x7b') := by
      obtain ⟨rest, whole⟩ := shown
      cases start with
      | nil => exact absurd known (by decide)
      | cons c start => exact congrArg some (List.cons.inj whole).1
    exact absurd same (plainStarts_head? start known)
  obtain ⟨exact, rounded⟩ := sniff_tells nestedSample
  have few : (denseLines nestedSample).length < 2 ^ 50 := by
    rw [one]
    decide
  exact ⟨⟨_, front.symm⟩, exact.none_iff.mpr nothing, (rounded few).none_iff.mpr nothing⟩

end

end LogTemplate.PatternFile
