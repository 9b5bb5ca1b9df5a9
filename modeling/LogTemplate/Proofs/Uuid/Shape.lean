import LogTemplate.Proofs.Uuid.Canonical
import Mathlib.Data.List.Induction

/-!
# The shape of canonical forms

Main statement: the canonical forms of UUIDs are the texts of hexadecimal digits, in either case, in
groups of eight, four, four, four and twelve with a hyphen between groups.
-/

namespace LogTemplate.Text

variable {mark : CodePoint} {f : CodePoint → CodePoint}

/-- Joined parts are changed part by part. -/
theorem map_intercalate (f : CodePoint → CodePoint) (mark : CodePoint)
    (parts : List (List CodePoint)) :
    ([mark].intercalate parts).map f = [f mark].intercalate (parts.map (List.map f)) := by
  induction parts with
  | nil => rfl
  | cons part parts ih =>
    cases parts with
    | nil => rw [List.intercalate_singleton, List.map_singleton, List.intercalate_singleton]
    | cons next parts =>
      rw [List.map_cons, List.map_cons, List.intercalate_cons_cons, List.intercalate_cons_cons,
        List.map_append, List.map_append, List.map_singleton, ih, List.map_cons]

/-- A text that is joined of parts once it is changed is joined of parts before, if nothing but the
mark becomes the mark. -/
theorem exists_intercalate_of_map (only : ∀ c, f c = mark → c = mark) {s : List CodePoint}
    {parts : List (List CodePoint)} (joined : s.map f = [mark].intercalate parts) :
    ∃ before, s = [mark].intercalate before ∧ before.map (List.map f) = parts := by
  induction parts generalizing s with
  | nil =>
    rw [List.intercalate_nil, List.map_eq_nil_iff] at joined
    exact ⟨[], joined, rfl⟩
  | cons part parts ih =>
    cases parts with
    | nil =>
      rw [List.intercalate_singleton] at joined
      exact ⟨[s], List.intercalate_singleton.symm, by rw [List.map_singleton, joined]⟩
    | cons next parts =>
      rw [List.intercalate_cons_cons, List.append_assoc] at joined
      obtain ⟨first, rest, rfl, rfl, behind⟩ := List.map_eq_append_iff.mp joined
      obtain ⟨between, others, rfl, marked, further⟩ := List.map_eq_append_iff.mp behind
      obtain ⟨c, rfl, same⟩ := List.map_eq_singleton_iff.mp marked
      obtain ⟨before, rfl, mapped⟩ := ih further
      obtain ⟨second, later, rfl, -, -⟩ := List.map_eq_cons_iff.mp mapped
      refine ⟨first :: second :: later, ?_, by rw [List.map_cons, mapped]⟩
      rw [List.intercalate_cons_cons, only c same, List.append_assoc]

/-- The hexadecimal digits, with letters in either case. -/
def hexCharacters : List CodePoint := Text.toList "0123456789abcdefABCDEF"

theorem mem_hexCharacters_of_hexValue? {c : CodePoint} {value : Nat}
    (digit : hexValue? c = some value) : c ∈ hexCharacters := by
  have checked : (hexValue? c).isSome = true → c ∈ hexCharacters := by
    apply forall_ascii (c := c) _ (by have := toNat_of_hexValue? digit; omega)
    decide +kernel
  exact checked (by rw [digit, Option.isSome_some])

/-- In lower case a hexadecimal digit is the one that is written for its value. -/
theorem hexDigit_hexValue {c : CodePoint} (member : c ∈ hexCharacters) :
    hexValue c < 16 ∧ hexDigit (hexValue c) = c.toLower := by
  have all : ∀ c ∈ hexCharacters, hexValue c < 16 ∧ hexDigit (hexValue c) = c.toLower :=
    forall_mem_of_all (by decide)
  exact all c member

/-- The digits of a number that was put together from digits are these. -/
theorem hexDigits_ofDigits {values : List Nat} (small : ∀ v ∈ values, v < 16) :
    hexDigits values.length (Numeral.ofDigits 16 values) = values.map hexDigit := by
  induction values using List.reverseRecOn with
  | nil => rfl
  | append_singleton values v ih =>
    have last : v < 16 := small v (by simp)
    have whole : Numeral.ofDigits 16 (values ++ [v]) = 16 * Numeral.ofDigits 16 values + v := by
      rw [Numeral.ofDigits, List.foldl_append]
      rfl
    have high : (16 * Numeral.ofDigits 16 values + v) / 16 = Numeral.ofDigits 16 values := by omega
    have low : (16 * Numeral.ofDigits 16 values + v) % 16 = v := by omega
    rw [List.length_append, List.length_singleton, hexDigits, whole, high, low, List.map_append,
      List.map_singleton, ih fun w member => small w (List.mem_append_left [v] member)]

end LogTemplate.Text

namespace LogTemplate.Uuid

open LogTemplate.Text

/-- How many digits the groups of a canonical form have. -/
def groupLengths : List Nat := [8, 4, 4, 4, 12]

/-- A text of hexadecimal digits, in either case, in groups with a hyphen between them. -/
def IsCanonical (s : List CodePoint) : Prop :=
  ∃ groups : List (List CodePoint), groups.map List.length = groupLengths
    ∧ (∀ group ∈ groups, ∀ c ∈ group, c ∈ hexCharacters)
    ∧ s = [.char '-'].intercalate groups

theorem isCanonical_of_isWrittenAs {u : Uuid} {s : List CodePoint}
    (written : u.isWrittenAs s = true) :
    IsCanonical s := by
  obtain ⟨shown, joined, digits, lengths⟩ := u.chars_eq
  have lower : s.map CodePoint.toLower = [.char '-'].intercalate shown :=
    (beq_iff_eq.mp written).trans joined
  obtain ⟨groups, rfl, rfl⟩ := exists_intercalate_of_map (fun _ => toLower_eq_hyphen_iff.mp) lower
  refine ⟨groups, ?_, ?_, rfl⟩
  · rw [groupLengths, ← lengths, List.map_map]
    exact List.map_congr_left fun group _ => (List.length_map CodePoint.toLower).symm
  · intro group known c inside
    have shown : c.toLower ∈ hexDigits 32 u.value := by
      rw [← digits]
      exact List.mem_flatten_of_mem (List.mem_map_of_mem known) (List.mem_map_of_mem inside)
    rw [hexDigits_eq_map] at shown
    obtain ⟨v, value, same⟩ := List.mem_map.mp shown
    exact mem_hexCharacters_of_hexValue?
      (hexValue?_of_toLower (lt_of_mem_hexValues value) same.symm)

/-- Whatever has the shape is a canonical form of the number that its digits make up. -/
theorem exists_isWrittenAs_of_isCanonical {s : List CodePoint} (canonical : IsCanonical s) :
    ∃ u : Uuid, u.isWrittenAs s = true := by
  obtain ⟨groups, lengths, characters, rfl⟩ := canonical
  let values := groups.flatten.map hexValue
  have digit : ∀ c ∈ groups.flatten, hexValue c < 16 ∧ hexDigit (hexValue c) = c.toLower := by
    intro c member
    obtain ⟨group, known, inside⟩ := List.mem_flatten.mp member
    exact hexDigit_hexValue (characters group known c inside)
  have small : ∀ v ∈ values, v < 16 := List.forall_mem_map.mpr fun c member => (digit c member).1
  have count : values.length = 32 := by
    rw [List.length_map, List.length_flatten, lengths]
    rfl
  have bound : Numeral.ofDigits 16 values < limit := by
    have below := Numeral.ofDigits_lt small
    rwa [count] at below
  let u : Uuid := ⟨Numeral.ofDigits 16 values, bound⟩
  have lower : hexDigits 32 u.value = groups.flatten.map CodePoint.toLower := by
    have written := hexDigits_ofDigits small
    rw [count] at written
    rw [written, List.map_map]
    exact List.map_congr_left fun c member => (digit c member).2
  obtain ⟨shown, joined, digits, sizes⟩ := u.chars_eq
  -- Groups of the same lengths with the same digits are the same groups.
  have same : groups.map (List.map CodePoint.toLower) = shown := by
    refine List.eq_iff_flatten_eq.mpr ⟨?_, ?_⟩
    · rw [digits, lower, List.map_flatten]
    · rw [sizes, ← groupLengths, ← lengths, List.map_map]
      exact List.map_congr_left fun group _ => List.length_map CodePoint.toLower
  refine ⟨u, beq_iff_eq.mpr ?_⟩
  rw [lowercaseAscii, map_intercalate, same, joined]
  rfl

/-- The canonical forms of UUIDs are the texts of their shape. -/
theorem exists_isWrittenAs_iff {s : List CodePoint} :
    (∃ u : Uuid, u.isWrittenAs s = true) ↔ IsCanonical s :=
  ⟨fun ⟨_, written⟩ => isCanonical_of_isWrittenAs written, exists_isWrittenAs_of_isCanonical⟩

end LogTemplate.Uuid
