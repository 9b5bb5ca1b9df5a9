import LogTemplate.Proofs.Json.Reading
import LogTemplate.Proofs.Refusing

/-!
# What is read is a text of the language

The converse of reading whatever the language holds.  Main statements: a text from which a document
is read is one of that document, and asks for no more than the reader goes to; and a text that is
refused for being nested too deep opens more lists and mappings than the reader goes deep.
-/

namespace LogTemplate.Json

open LogTemplate.Text

/-! ## White space -/

theorem exists_spaces_append_skip (s : List CodePoint) :
    ∃ blank, AreSpaces blank ∧ s = blank ++ skip s :=
  ⟨s.takeWhile isSpace, fun _ member => List.mem_takeWhile_imp member,
    List.takeWhile_append_dropWhile.symm⟩

/-! ## Strings -/

/-- One more part stands in front of those of a string. -/
theorem exists_spells_cons {opening front behind rest : List CodePoint} {u : Unit16}
    {units : List Unit16} (spells : SpellsUnit front u)
    (others : ∀ {units rest}, readUnits opening behind = .ok (units, rest) →
      ∃ inside, behind = inside ++ .char '"' :: rest ∧ SpellsUnits inside units)
    (read : (readUnits opening behind).map (fun (units, left) => (u :: units, left)) =
      .ok (units, rest)) :
    ∃ inside, front ++ behind = inside ++ .char '"' :: rest ∧ SpellsUnits inside units := by
  obtain ⟨⟨units', left⟩, there, same⟩ := map_eq_ok_iff.mp read
  obtain ⟨rfl, rfl⟩ := Prod.mk.inj same
  obtain ⟨inside, rfl, spelled⟩ := others there
  exact ⟨front ++ inside, (List.append_assoc _ _ _).symm, .cons spells spelled⟩

/-- The parts of a string that is read are spelled up to its closing mark. -/
theorem exists_spells_of_readUnits {opening s rest : List CodePoint} {units : List Unit16}
    (read : readUnits opening s = .ok (units, rest)) :
    ∃ inside, s = inside ++ .char '"' :: rest ∧ SpellsUnits inside units := by
  fun_induction readUnits opening s generalizing units rest with
  | case2 behind =>
    obtain ⟨rfl, rfl⟩ := Prod.mk.inj (Except.ok.inj read)
    exact ⟨[], rfl, .nil⟩
  | case6 h1 h2 h3 h4 after n number _ _ ih => exact exists_spells_cons (.code rfl number) ih read
  | case9 e more _ c stands _ ih => exact exists_spells_cons (.short stands) ih read
  | case11 c behind unmarked plain printed ih =>
    exact exists_spells_cons (.char unmarked plain (Nat.le_of_not_lt printed)) ih read
  | _ => cases read

theorem exists_spells_of_readString {s rest : List CodePoint} {value : Text}
    (read : readString s = .ok (value, rest)) :
    ∃ body, .char '"' :: s = body ++ rest ∧ SpellsString body value := by
  obtain ⟨⟨units, left⟩, there, same⟩ := map_eq_ok_iff.mp read
  obtain ⟨rfl, rfl⟩ := Prod.mk.inj same
  obtain ⟨inside, rfl, spelled⟩ := exists_spells_of_readUnits there
  exact ⟨.char '"' :: (inside ++ [.char '"']), by simp, inside, units, rfl, spelled, rfl⟩

/-! ## Numbers -/

theorem of_wholeDigits? {s whole rest : List CodePoint}
    (found : wholeDigits? s = some (whole, rest)) :
    s = whole ++ rest ∧ (∀ c ∈ whole, c.isDigit = true)
      ∧ (whole = [.char '0'] ∨ ∃ first others, whole = first :: others ∧ first ≠ '0') := by
  unfold wholeDigits? at found
  split at found
  · cases found
  · rename_i c more
    split at found
    · rename_i zero
      obtain ⟨rfl, rfl⟩ := Prod.mk.inj (Option.some.inj found)
      subst zero
      exact ⟨rfl, List.forall_mem_singleton.mpr rfl, .inl rfl⟩
    · rename_i other
      split at found
      · rename_i digit
        obtain ⟨rfl, rfl⟩ := Prod.mk.inj (Option.some.inj found)
        refine ⟨List.takeWhile_append_dropWhile.symm, fun d member => List.mem_takeWhile_imp member,
          .inr ⟨c, _, List.takeWhile_cons_of_pos digit, other⟩⟩
      · cases found

theorem of_fractionDigits {s fraction rest : List CodePoint}
    (found : fractionDigits s = (fraction, rest)) :
    s = (if fraction.isEmpty then [] else .char '.' :: fraction) ++ rest
      ∧ ∀ c ∈ fraction, c.isDigit = true := by
  unfold fractionDigits at found
  split at found
  · rename_i more
    dsimp only at found
    split at found
    · obtain ⟨rfl, rfl⟩ := Prod.mk.inj found
      exact ⟨rfl, List.forall_mem_nil _⟩
    · rename_i filled
      obtain ⟨rfl, rfl⟩ := Prod.mk.inj found
      rw [if_neg filled, List.cons_append, List.takeWhile_append_dropWhile]
      exact ⟨rfl, fun c member => List.mem_takeWhile_imp member⟩
  · obtain ⟨rfl, rfl⟩ := Prod.mk.inj found
    exact ⟨rfl, List.forall_mem_nil _⟩

theorem exists_sign (s : List CodePoint) : ∃ sign, s = sign ++ (Numeral.splitSign s).2
    ∧ (sign = [] ∨ sign = [.char '+'] ∨ sign = [.char '-'])
    ∧ (Numeral.splitSign s).1 = decide (sign = [.char '-']) := by
  unfold Numeral.splitSign
  split
  · exact ⟨[.char '-'], rfl, .inr (.inr rfl), rfl⟩
  · exact ⟨[.char '+'], rfl, .inr (.inl rfl), rfl⟩
  · exact ⟨[], rfl, .inl rfl, rfl⟩

theorem exists_exponent_of_exponent? {s rest : List CodePoint} {value : Int}
    (found : exponent? s = some (value, rest)) :
    ∃ e : Exponent, s = e.text ++ rest ∧ e.value = value := by
  unfold exponent? at found
  split at found
  · cases found
  · rename_i c more
    split at found
    · rename_i known
      obtain ⟨sign, text, signed, negative⟩ := exists_sign more
      dsimp only at found
      split at found
      · cases found
      · rename_i filled
        obtain ⟨rfl, rfl⟩ := Prod.mk.inj (Option.some.inj found)
        refine ⟨⟨c, sign, (Numeral.splitSign more).2.takeWhile CodePoint.isDigit,
          by simpa using known,
          signed, fun d member => List.mem_takeWhile_imp member, by simpa using filled⟩, ?_, ?_⟩
        · rw [Exponent.text, List.cons_append, List.append_assoc, List.takeWhile_append_dropWhile,
            ← text]
        · rw [Exponent.value, negative]
          simp
    · cases found

theorem of_splitMinus {s unsigned : List CodePoint} {negative : Bool}
    (found : splitMinus s = (negative, unsigned)) :
    s = if negative then .char '-' :: unsigned else unsigned := by
  unfold splitMinus at found
  split at found <;>
  · obtain ⟨rfl, rfl⟩ := Prod.mk.inj found
    rfl

/-- A number that is read is written so, and an integer has few enough digits. -/
theorem exists_number_of_readNumber {s rest : List CodePoint} {d : Document}
    (read : readNumber s = .ok (d, rest)) :
    ∃ n : Number, s = n.text ++ rest ∧ d = n.document ∧ AreShort n.demand.integers := by
  rcases minus : splitMinus s with ⟨negative, unsigned⟩
  rw [readNumber, minus] at read
  dsimp only at read
  split at read
  · cases read
  · rename_i whole behind found
    rcases point : fractionDigits behind with ⟨fraction, after⟩
    rw [point] at read
    dsimp only at read
    obtain ⟨text, plain, led⟩ := of_wholeDigits? found
    obtain ⟨middle, digits⟩ := of_fractionDigits point
    have all := List.forall_mem_append.mpr ⟨plain, digits⟩
    have written : ∀ (e : Option Exponent) (left : List CodePoint),
        after = (e.map Exponent.text).getD [] ++ left →
        s = (Number.mk negative whole fraction e all led).text ++ left := by
      intro e left last
      rw [of_splitMinus minus, text, middle, last]
      simp only [Number.text, Number.unsigned, Number.fractionText, Number.exponentText]
      split <;> simp
    split at read
    · rename_i power left raised
      obtain ⟨e, last, rfl⟩ := exists_exponent_of_exponent? raised
      obtain ⟨rfl, rfl⟩ := Prod.mk.inj (Except.ok.inj read)
      refine ⟨_, written (some e) left last, ?_, ?_⟩
      · simp [Number.document, Number.isInteger]
      · simp [Number.demand, Number.isInteger, AreShort]
    · split at read
      · rename_i filled
        obtain ⟨rfl, rfl⟩ := Prod.mk.inj (Except.ok.inj read)
        refine ⟨_, written none after rfl, ?_, ?_⟩
        · simp_all [Number.document, Number.isInteger]
        · simp_all [Number.demand, Number.isInteger, AreShort]
      · split at read
        · cases read
        · rename_i unfilled short
          obtain ⟨rfl, rfl⟩ := Prod.mk.inj (Except.ok.inj read)
          refine ⟨_, written none after rfl, ?_, ?_⟩
          · simp_all [Number.document, Number.isInteger]
          · simp_all [Number.demand, Number.isInteger, AreShort]

/-! ## Values -/

/-- A text starts with a value, which asks for no more than a reader goes to. -/
def StartsWith (depth : Nat) (s : List CodePoint) (d : Document) (rest : List CodePoint) : Prop :=
  ∃ body demand, s = body ++ rest ∧ Denotes body d demand ∧ demand.IsMet depth

theorem startsWith_of_readScalar {s rest : List CodePoint} {d : Document}
    (read : readScalar s = .ok (d, rest)) (depth : Nat) : StartsWith depth s d rest := by
  unfold readScalar at read
  split at read
  · rename_i word value found
    obtain ⟨rfl, rfl⟩ := Prod.mk.inj (Except.ok.inj read)
    have front := List.find?_some found
    obtain ⟨more, rfl⟩ := List.isPrefixOf_iff_prefix.mp front
    refine ⟨word, {}, ?_, .word (List.mem_of_find?_eq_some found), Demand.isMet_empty depth⟩
    rw [List.drop_left]
  · obtain ⟨n, text, rfl, short⟩ := exists_number_of_readNumber read
    exact ⟨n.text, n.demand, text, .number n, short, Nat.zero_le _⟩

theorem Demand.isMet_all {depth : Nat} {demands : List Demand} :
    (all demands).IsMet depth ↔ ∀ demand ∈ demands, demand.IsMet depth := by
  induction demands with
  | nil => exact iff_of_true (isMet_empty depth) (List.forall_mem_nil _)
  | cons demand demands ih => rw [List.forall_mem_cons, ← ih, all, List.foldr_cons, isMet_join, all]

/-- A value among others that asks for no more than a reader goes to. -/
structure Item.IsSpelled (depth : Nat) (item : Item) : Prop where
  spaced : item.piece.IsSpaced
  denotes : Denotes item.piece.body item.document item.demand
  met : item.demand.IsMet depth

/-- A value that is read, with the white space around it. -/
theorem exists_item {depth : Nat} {s left : List CodePoint} {d : Document}
    (starts : StartsWith depth (skip s) d left) :
    ∃ item : Item, item.IsSpelled depth ∧ item.document = d ∧ s = item.text ++ skip left := by
  obtain ⟨body, demand, text, denotes, met⟩ := starts
  obtain ⟨before, leading, whole⟩ := exists_spaces_append_skip s
  obtain ⟨behind, trailing, rest⟩ := exists_spaces_append_skip left
  refine ⟨⟨⟨before, body, behind⟩, d, demand⟩, ⟨⟨leading, trailing⟩, denotes, met⟩, rfl, ?_⟩
  rw [Item.text, Piece.text, List.append_assoc, List.append_assoc, ← rest, ← text, ← whole]

/-- An entry among others that asks for no more than a reader goes to. -/
structure Member.IsSpelled (depth : Nat) (m : Member) : Prop where
  spaced : m.name.IsSpaced
  name : SpellsString m.name.body m.key
  value : m.value.IsSpelled depth

/-- An entry that is read, with the white space around its name. -/
theorem exists_member {depth : Nat} {s inside behind after rest : List CodePoint} {key : Text}
    {item : Item} (quoted : skip s = .char '"' :: inside)
    (named : readString inside = .ok (key, behind))
    (colon : skip behind = .char ':' :: after) (spelled : item.IsSpelled depth)
    (whole : after = item.text ++ rest) :
    ∃ m : Member, m.IsSpelled depth ∧ m.entry = (key, item.document) ∧ s = m.text ++ rest := by
  obtain ⟨body, text, name⟩ := exists_spells_of_readString named
  obtain ⟨before, leading, front⟩ := exists_spaces_append_skip s
  obtain ⟨gap, trailing, middle⟩ := exists_spaces_append_skip behind
  refine ⟨⟨⟨before, body, gap⟩, key, item⟩, ⟨⟨leading, trailing⟩, name, spelled⟩, rfl, ?_⟩
  rw [Member.text, Piece.text, front, quoted, text, middle, colon, whole]
  simp

/-- What is read with some fuel is there. -/
structure IsSound (fuel : Nat) : Prop where
  value {depth : Nat} {s rest : List CodePoint} {d : Document}
    (read : readValue fuel depth s = .ok (d, rest)) : StartsWith depth s d rest
  items {depth : Nat} {s rest : List CodePoint} {documents : List Document}
    (read : readItems fuel depth (skip s) = .ok (documents, rest)) :
    ∃ items, items ≠ [] ∧ s = listed Item.text items ++ .char ']' :: rest
      ∧ documents = items.map Item.document ∧ ∀ item ∈ items, item.IsSpelled depth
  entries {depth : Nat} (seen : OrderedMap Document) {s rest : List CodePoint}
    {entries : List (Text × Document)}
    (read : readEntries fuel depth seen.entries (skip s) = .ok (entries, rest)) :
    ∃ members, members ≠ [] ∧ s = listed Member.text members ++ .char '\x7d' :: rest
      ∧ entries = (seen.insertAll (members.map Member.entry)).entries
      ∧ ∀ m ∈ members, m.IsSpelled depth

namespace IsSound

theorem zero : IsSound 0 := by
  constructor
  · intro depth s rest d read
    rw [readValue] at read
    cases read
  · intro depth s rest documents read
    rw [readItems] at read
    cases read
  · intro depth seen s rest entries read
    rw [readEntries] at read
    cases read

variable {fuel depth : Nat} {s rest : List CodePoint}

theorem list (sound : IsSound fuel) {d : Document}
    (read : readValue (fuel + 1) depth (.char '[' :: s) = .ok (d, rest)) :
    StartsWith depth (.char '[' :: s) d rest := by
  cases depth with
  | zero =>
    rw [readValue_list_zero] at read
    cases read
  | succ depth =>
    rw [readValue_list] at read
    split at read
    · rename_i left closed
      obtain ⟨rfl, rfl⟩ := Prod.mk.inj (Except.ok.inj read)
      obtain ⟨blank, spaces, whole⟩ := exists_spaces_append_skip s
      refine ⟨_, _, ?_, .noItems spaces, Demand.isMet_nested.mpr (Demand.isMet_empty depth)⟩
      rw [whole, closed]
      simp
    · obtain ⟨⟨documents, left⟩, there, same⟩ := map_eq_ok_iff.mp read
      obtain ⟨rfl, rfl⟩ := Prod.mk.inj same
      obtain ⟨items, filled, rfl, rfl, each⟩ := sound.items there
      refine ⟨_, _, ?_, .list filled (fun item member => (each item member).spaced)
        fun item member => (each item member).denotes, ?_⟩
      · simp
      · exact Demand.isMet_nested.mpr (Demand.isMet_all.mpr
          (List.forall_mem_map.mpr fun item member => (each item member).met))

theorem mapping (sound : IsSound fuel) {d : Document}
    (read : readValue (fuel + 1) depth (.char '\x7b' :: s) = .ok (d, rest)) :
    StartsWith depth (.char '\x7b' :: s) d rest := by
  cases depth with
  | zero =>
    rw [readValue_mapping_zero] at read
    cases read
  | succ depth =>
    rw [readValue_mapping] at read
    split at read
    · rename_i left closed
      obtain ⟨rfl, rfl⟩ := Prod.mk.inj (Except.ok.inj read)
      obtain ⟨blank, spaces, whole⟩ := exists_spaces_append_skip s
      refine ⟨_, _, ?_, .noEntries spaces, Demand.isMet_nested.mpr (Demand.isMet_empty depth)⟩
      rw [whole, closed]
      simp
    · obtain ⟨⟨entries, left⟩, there, same⟩ := map_eq_ok_iff.mp read
      obtain ⟨rfl, rfl⟩ := Prod.mk.inj same
      obtain ⟨members, filled, rfl, rfl, each⟩ := sound.entries .empty there
      refine ⟨_, _, ?_, .mapping filled
        (fun m member => ⟨(each m member).spaced, (each m member).value.spaced⟩)
        (fun m member => (each m member).name) fun m member => (each m member).value.denotes, ?_⟩
      · simp
      · exact Demand.isMet_nested.mpr (Demand.isMet_all.mpr
          (List.forall_mem_map.mpr fun m member => (each m member).value.met))

theorem value_succ (sound : IsSound fuel) {d : Document}
    (read : readValue (fuel + 1) depth s = .ok (d, rest)) : StartsWith depth s d rest := by
  unfold readValue at read
  split at read
  · cases read
  · obtain ⟨⟨value, left⟩, there, same⟩ := map_eq_ok_iff.mp read
    obtain ⟨rfl, rfl⟩ := Prod.mk.inj same
    obtain ⟨body, text, spelled⟩ := exists_spells_of_readString there
    exact ⟨body, {}, text, .text spelled, Demand.isMet_empty depth⟩
  · exact sound.list read
  · exact sound.mapping read
  · exact startsWith_of_readScalar read depth

theorem items_succ (sound : IsSound fuel) {documents : List Document}
    (read : readItems (fuel + 1) depth (skip s) = .ok (documents, rest)) :
    ∃ items, items ≠ [] ∧ s = listed Item.text items ++ .char ']' :: rest
      ∧ documents = items.map Item.document ∧ ∀ item ∈ items, item.IsSpelled depth := by
  rw [readItems, bind_eq_ok_iff] at read
  obtain ⟨⟨d, left⟩, first, read⟩ := read
  obtain ⟨item, spelled, rfl, whole⟩ := exists_item (sound.value first)
  dsimp only at read
  split at read
  · rename_i behind closed
    obtain ⟨rfl, rfl⟩ := Prod.mk.inj (Except.ok.inj read)
    refine ⟨[item], List.cons_ne_nil _ _, ?_, rfl, List.forall_mem_singleton.mpr spelled⟩
    rw [listed_singleton, whole, closed]
  · rename_i more comma
    obtain ⟨⟨others, behind⟩, further, read⟩ := bind_eq_ok_iff.mp read
    obtain ⟨rfl, rfl⟩ := Prod.mk.inj (Except.ok.inj read)
    obtain ⟨items, filled, rfl, rfl, each⟩ := sound.items further
    obtain ⟨next, items, rfl⟩ := List.exists_cons_of_ne_nil filled
    refine ⟨item :: next :: items, List.cons_ne_nil _ _, ?_, rfl,
      List.forall_mem_cons.mpr ⟨spelled, each⟩⟩
    rw [listed_cons_cons, whole, comma, List.append_assoc, List.cons_append]
  · cases read

theorem entries_succ (sound : IsSound fuel) (seen : OrderedMap Document)
    {entries : List (Text × Document)}
    (read : readEntries (fuel + 1) depth seen.entries (skip s) = .ok (entries, rest)) :
    ∃ members, members ≠ [] ∧ s = listed Member.text members ++ .char '\x7d' :: rest
      ∧ entries = (seen.insertAll (members.map Member.entry)).entries
      ∧ ∀ m ∈ members, m.IsSpelled depth := by
  unfold readEntries at read
  split at read
  · rename_i inside quoted
    obtain ⟨⟨key, behind⟩, named, read⟩ := bind_eq_ok_iff.mp read
    dsimp only at read
    split at read
    · rename_i after colon
      obtain ⟨⟨d, left⟩, first, read⟩ := bind_eq_ok_iff.mp read
      obtain ⟨item, spelled, rfl, whole⟩ := exists_item (sound.value first)
      obtain ⟨m, own, entry, text⟩ := exists_member quoted named colon spelled whole
      dsimp only at read
      split at read
      · rename_i behind closed
        obtain ⟨rfl, rfl⟩ := Prod.mk.inj (Except.ok.inj read)
        refine ⟨[m], List.cons_ne_nil _ _, ?_, ?_, List.forall_mem_singleton.mpr own⟩
        · rw [listed_singleton, text, closed]
        · rw [List.map_singleton, entry]
          rfl
      · rename_i more comma
        obtain ⟨members, filled, rfl, rfl, each⟩ :=
          sound.entries (seen.insert key item.document) read
        obtain ⟨next, members, rfl⟩ := List.exists_cons_of_ne_nil filled
        refine ⟨m :: next :: members, List.cons_ne_nil _ _, ?_, ?_,
          List.forall_mem_cons.mpr ⟨own, each⟩⟩
        · rw [listed_cons_cons, text, comma, List.append_assoc, List.cons_append]
        · have first : (m :: next :: members).map Member.entry =
              (key, item.document) :: (next :: members).map Member.entry := by
            rw [List.map_cons, entry]
          rw [first]
          rfl
      · cases read
    · cases read
  · cases read

theorem succ (sound : IsSound fuel) : IsSound (fuel + 1) :=
  ⟨sound.value_succ, sound.items_succ, fun seen => sound.entries_succ seen⟩

end IsSound

theorem isSound (fuel : Nat) : IsSound fuel := by
  induction fuel with
  | zero => exact .zero
  | succ fuel ih => exact ih.succ

/-- A document is read from nothing but texts of it that ask for no more than the reader goes to. -/
theorem exists_isTextOf_of_readWithin {depth : Nat} {s : List CodePoint} {d : Document}
    (read : readWithin depth s = .ok d) : ∃ demand, IsTextOf s d demand ∧ demand.IsMet depth := by
  rw [readWithin, mapError_eq_ok_iff, readText] at read
  split at read
  · cases read
  · obtain ⟨⟨d, left⟩, there, read⟩ := bind_eq_ok_iff.mp read
    obtain ⟨item, spelled, rfl, whole⟩ := exists_item ((isSound _).value there)
    dsimp only at read
    split at read
    · rename_i ends
      obtain rfl := Except.ok.inj read
      rw [ends, List.append_nil] at whole
      exact ⟨item.demand, ⟨item.piece, spelled.spaced, whole, spelled.denotes⟩, spelled.met⟩
    · cases read

/-! ## Texts that are nested too deep -/

/-- Whether a character opens a list or a mapping, unless it stands in a string. -/
def isOpening (c : CodePoint) : Bool := c == '[' || c == '\x7b'

theorem countP_skip_le (s : List CodePoint) : (skip s).countP isOpening ≤ s.countP isOpening :=
  (List.dropWhile_sublist isSpace).countP_le

theorem countP_skip_cons_le {c : CodePoint} {s : List CodePoint} :
    (skip s).countP isOpening ≤ (c :: s).countP isOpening :=
  (countP_skip_le s).trans (List.sublist_cons_self c s).countP_le

theorem StartsWith.countP_le {depth : Nat} {s rest : List CodePoint} {d : Document}
    (starts : StartsWith depth s d rest) : rest.countP isOpening ≤ s.countP isOpening := by
  obtain ⟨body, demand, rfl, -⟩ := starts
  exact (List.sublist_append_right body rest).countP_le

theorem countP_le_of_readString {s rest : List CodePoint} {value : Text}
    (read : readString s = .ok (value, rest)) : rest.countP isOpening ≤ s.countP isOpening := by
  obtain ⟨body, text, inside, units, rfl, -⟩ := exists_spells_of_readString read
  obtain rfl : s = (inside ++ [.char '"']) ++ rest := (List.cons.inj text).2
  exact (List.sublist_append_right _ rest).countP_le

/-- If reading stops for the depth of a text, more lists and mappings are opened than a reader goes
deep. -/
def Failure.IsWithin (depth opened : Nat) (f : Failure) : Prop :=
  ∀ what, f = .tooDeep what → depth < opened

namespace Failure

variable {depth opened : Nat}

theorem isWithin_problem (problem : Problem) (remaining : Nat) :
    (Failure.problem problem remaining).IsWithin depth opened := nofun

theorem isWithin_numeral (e : Numeral.Error) : (Failure.numeral e).IsWithin depth opened := nofun

end Failure

section

variable {α : Type} {depth opened opened' : Nat}

theorem refusesWith_refuse (problem : Problem) (rest : List CodePoint) :
    RefusesWith (Failure.IsWithin depth opened) (refuse problem rest : Step α) :=
  refusesWith_error (Failure.isWithin_problem problem rest.length)

theorem refusesWith_of_le {x : Except Failure α}
    (refuses : RefusesWith (Failure.IsWithin depth opened) x) (fewer : opened ≤ opened') :
    RefusesWith (Failure.IsWithin depth opened') x :=
  refuses.mono fun _ within what same => (within what same).trans_le fewer

end

theorem refusesWith_readUnits (depth opened : Nat) (opening s : List CodePoint) :
    RefusesWith (Failure.IsWithin depth opened) (readUnits opening s) := by
  fun_induction readUnits opening s with
  | case2 => exact refusesWith_ok _
  | case6 _ _ _ _ _ _ _ _ _ ih | case9 _ _ _ _ _ _ ih | case11 _ _ _ _ _ ih => exact ih.map _
  | _ => exact refusesWith_refuse _ _

theorem refusesWith_readString (depth opened : Nat) (s : List CodePoint) :
    RefusesWith (Failure.IsWithin depth opened) (readString s) :=
  (refusesWith_readUnits depth opened _ s).map _

theorem refusesWith_readScalar (depth opened : Nat) (s : List CodePoint) :
    RefusesWith (Failure.IsWithin depth opened) (readScalar s) := by
  unfold readScalar readNumber
  split
  · exact refusesWith_ok _
  · dsimp only
    split
    · exact refusesWith_refuse _ _
    · split
      · exact refusesWith_ok _
      · exact refusesWith_ite (refusesWith_ok _)
          (refusesWith_ite (refusesWith_error (Failure.isWithin_numeral _)) (refusesWith_ok _))

/-- Reading with some fuel stops for the depth of nothing but texts with many brackets. -/
structure IsBounded (fuel : Nat) : Prop where
  value (depth : Nat) (s : List CodePoint) :
    RefusesWith (Failure.IsWithin depth (s.countP isOpening)) (readValue fuel depth s)
  items (depth : Nat) (s : List CodePoint) :
    RefusesWith (Failure.IsWithin depth (s.countP isOpening)) (readItems fuel depth s)
  entries (depth : Nat) (seen : List (Text × Document)) (s : List CodePoint) :
    RefusesWith (Failure.IsWithin depth (s.countP isOpening)) (readEntries fuel depth seen s)

namespace IsBounded

theorem zero : IsBounded 0 := by
  refine ⟨fun depth s => ?_, fun depth s => ?_, fun depth seen s => ?_⟩
  · rw [readValue]
    exact refusesWith_refuse _ _
  · rw [readItems]
    exact refusesWith_refuse _ _
  · rw [readEntries]
    exact refusesWith_refuse _ _

variable {fuel : Nat}

theorem nested {α : Type} {depth : Nat} {c : CodePoint} {s : List CodePoint} {x : Except Failure α}
    (opens : isOpening c = true)
    (inside : RefusesWith (Failure.IsWithin depth ((skip s).countP isOpening)) x) :
    RefusesWith (Failure.IsWithin (depth + 1) ((c :: s).countP isOpening)) x := by
  refine inside.mono fun f within what same => ?_
  rw [List.countP_cons_of_pos opens]
  exact Nat.succ_lt_succ ((within what same).trans_le (countP_skip_le s))

theorem value_succ (bounded : IsBounded fuel) (depth : Nat) (s : List CodePoint) :
    RefusesWith (Failure.IsWithin depth (s.countP isOpening)) (readValue (fuel + 1) depth s) := by
  unfold readValue
  split
  · exact refusesWith_refuse _ _
  · exact (refusesWith_readString _ _ _).map _
  · cases depth with
    | zero => exact refusesWith_error fun what same => by simp [isOpening]
    | succ depth =>
      dsimp only
      refine nested rfl ?_
      split
      · exact refusesWith_ok _
      · exact (bounded.items _ _).map _
  · cases depth with
    | zero => exact refusesWith_error fun what same => by simp [isOpening]
    | succ depth =>
      dsimp only
      refine nested rfl ?_
      split
      · exact refusesWith_ok _
      · exact (bounded.entries _ _ _).map _
  · exact refusesWith_readScalar _ _ _

theorem items_succ (bounded : IsBounded fuel) (depth : Nat) (s : List CodePoint) :
    RefusesWith (Failure.IsWithin depth (s.countP isOpening)) (readItems (fuel + 1) depth s) := by
  rw [readItems]
  refine (bounded.value depth s).bind_of_ok ?_
  rintro ⟨d, rest⟩ read
  have fewer := (countP_skip_le rest).trans ((isSound fuel).value read).countP_le
  dsimp only
  split
  · exact refusesWith_ok _
  · rename_i more comma
    rw [comma] at fewer
    exact (refusesWith_of_le (bounded.items depth _) (countP_skip_cons_le.trans fewer)).bind
      fun _ => refusesWith_ok _
  · exact refusesWith_refuse _ _

theorem entries_succ (bounded : IsBounded fuel) (depth : Nat) (seen : List (Text × Document))
    (s : List CodePoint) :
    RefusesWith (Failure.IsWithin depth (s.countP isOpening))
      (readEntries (fuel + 1) depth seen s) := by
  unfold readEntries
  split
  · rename_i inside
    refine (refusesWith_readString _ _ _).bind_of_ok ?_
    rintro ⟨key, behind⟩ named
    have front : behind.countP isOpening ≤ (.char '"' :: inside).countP isOpening :=
      (countP_le_of_readString named).trans (List.sublist_cons_self _ inside).countP_le
    dsimp only
    split
    · rename_i after colon
      have next : (skip after).countP isOpening ≤ (.char '"' :: inside).countP isOpening :=
        countP_skip_cons_le.trans ((colon ▸ countP_skip_le behind).trans front)
      refine (refusesWith_of_le (bounded.value depth _) next).bind_of_ok ?_
      rintro ⟨d, rest⟩ read
      have fewer := (countP_skip_le rest).trans (((isSound fuel).value read).countP_le.trans next)
      dsimp only
      split
      · exact refusesWith_ok _
      · rename_i more comma
        rw [comma] at fewer
        exact refusesWith_of_le (bounded.entries depth _ _) (countP_skip_cons_le.trans fewer)
      · exact refusesWith_refuse _ _
    · exact refusesWith_refuse _ _
  · exact refusesWith_refuse _ _

theorem succ (bounded : IsBounded fuel) : IsBounded (fuel + 1) :=
  ⟨bounded.value_succ, bounded.items_succ, bounded.entries_succ⟩

end IsBounded

theorem isBounded (fuel : Nat) : IsBounded fuel := by
  induction fuel with
  | zero => exact .zero
  | succ fuel ih => exact ih.succ

/-- A text that is refused for its depth opens more lists and mappings than the reader goes deep. -/
theorem lt_countP_of_tooDeep {depth : Nat} {s : List CodePoint} {what : Nesting.Excess}
    (refused : readWithin depth s = .error (.tooDeep what)) : depth < s.countP isOpening := by
  obtain ⟨f, stopped, same⟩ := mapError_eq_error_iff.mp refused
  have within : RefusesWith (Failure.IsWithin depth (s.countP isOpening)) (readText depth s) := by
    unfold readText
    split
    · exact refusesWith_error (Failure.isWithin_problem _ _)
    · refine (refusesWith_of_le ((isBounded _).value depth _) (countP_skip_le s)).bind ?_
      rintro ⟨d, rest⟩
      dsimp only
      split
      · exact refusesWith_ok _
      · exact refusesWith_error (Failure.isWithin_problem _ _)
  cases f with
  | tooDeep found => exact within.of_eq stopped found rfl
  | problem problem remaining => cases same
  | numeral e => cases same

/-- Lists that are opened one inside the other are too deep if there are more of them than the
reader goes deep. -/
theorem readValue_replicate {fuel depth n : Nat} (enough : 2 * depth < fuel) (many : depth < n) :
    readValue fuel depth (List.replicate n (CodePoint.char '[')) = .error (.tooDeep .list) := by
  induction depth generalizing fuel n with
  | zero =>
    obtain ⟨fuel, rfl⟩ := Nat.exists_eq_add_one_of_ne_zero (Nat.ne_of_gt enough)
    obtain ⟨n, rfl⟩ := Nat.exists_eq_add_one_of_ne_zero (Nat.ne_of_gt many)
    rw [List.replicate_succ, readValue_list_zero]
  | succ depth ih =>
    obtain ⟨fuel, rfl⟩ : ∃ less, fuel = less + 2 := ⟨fuel - 2, by omega⟩
    obtain ⟨n, rfl⟩ : ∃ less, n = less + 2 := ⟨n - 2, by omega⟩
    have inside : readValue fuel depth (List.replicate (n + 1) (CodePoint.char '[')) =
        .error (.tooDeep .list) :=
      ih (by omega) (by omega)
    rw [List.replicate_succ, readValue_list, List.replicate_succ, skip_filled (by decide)]
    split
    · rename_i closing
      cases closing
    · rw [readItems, ← List.replicate_succ, inside]
      rfl

theorem readEntries_replicate {fuel depth n : Nat} (enough : 2 * depth < fuel) (many : depth < n) :
    readEntries (fuel + 1) depth []
      (Text.toList "\"a\":" ++ List.replicate n (CodePoint.char '[')) =
      .error (.tooDeep .list) := by
  obtain ⟨n, rfl⟩ : ∃ less, n = less + 1 := ⟨n - 1, by omega⟩
  have name : SpellsString [.char '"', .char 'a', .char '"'] "a" :=
    ⟨[.char 'a'], [.char 'a'], rfl, .cons (.char (by decide) (by decide) (by decide)) .nil, rfl⟩
  obtain ⟨behind, front, named⟩ := readString_spelled name
    (.char ':' :: List.replicate (n + 1) (CodePoint.char '['))
  have text : (Text.toList "\"a\":") ++ List.replicate (n + 1) (CodePoint.char '[') =
    .char '"' :: behind := front
  have colon : skip (.char ':' :: List.replicate (n + 1) (CodePoint.char '[')) =
      .char ':' :: List.replicate (n + 1) (CodePoint.char '[') :=
    skip_filled (by decide) _
  have inside := readValue_replicate enough many
  have bracket : skip (List.replicate (n + 1) (CodePoint.char '[')) =
      List.replicate (n + 1) (CodePoint.char '[') := by
    rw [List.replicate_succ, skip_filled (by decide)]
  rw [text, readEntries, named, ok_bind]
  simp only [colon, bracket, inside]
  rfl

/-- So it is if they are the value of an entry. -/
theorem readWithin_entry {depth n : Nat} (many : depth < n) :
    readWithin (depth + 1) (Text.toList "\x7b\"a\":" ++ List.replicate n (CodePoint.char '[')) =
      .error (.tooDeep .list) := by
  have inside := @readEntries_replicate (2 * n + 10) depth n (by omega) many
  have text : (Text.toList "\x7b\"a\":") ++ List.replicate n (CodePoint.char '[') =
      .char '\x7b' :: (Text.toList "\"a\":" ++ List.replicate n (CodePoint.char '[')) := rfl
  have length : 2 * (Text.toList "\x7b\"a\":" ++ List.replicate n (CodePoint.char '[')).length + 2 =
      2 * n + 10 + 1 + 1 := by
    rw [List.length_append, List.length_replicate]
    have five : (Text.toList "\x7b\"a\":").length = 5 := rfl
    omega
  have unmarked : ((Text.toList "\x7b\"a\":" ++ List.replicate n (CodePoint.char '[')).head? ==
      some (.char '\uFEFF')) = false :=
    rfl
  have quoted : skip (Text.toList "\"a\":" ++ List.replicate n (CodePoint.char '[')) =
      Text.toList "\"a\":" ++ List.replicate n (CodePoint.char '[') :=
        skip_filled (c := '"') (by decide) _
  rw [readWithin, readText, unmarked, if_neg Bool.false_ne_true, length, text,
    skip_filled (by decide), readValue_mapping, quoted]
  split
  · rename_i closing
    cases closing
  · rw [inside]
    rfl

theorem readWithin_replicate {depth n : Nat} (many : depth < n) :
    readWithin depth (List.replicate n (CodePoint.char '[')) = .error (.tooDeep .list) := by
  obtain ⟨n, rfl⟩ : ∃ less, n = less + 1 := ⟨n - 1, by omega⟩
  have inside := @readValue_replicate (2 * (n + 1) + 2) depth (n + 1) (by omega) many
  have unmarked :
      ((List.replicate (n + 1) (CodePoint.char '[')).head? == some (.char '\uFEFF')) = false := by
    rw [List.replicate_succ]
    rfl
  have whole : skip (List.replicate (n + 1) (CodePoint.char '[')) =
      List.replicate (n + 1) (CodePoint.char '[') := by
    rw [List.replicate_succ, skip_filled (by decide)]
  rw [readWithin, readText, unmarked, if_neg Bool.false_ne_true, whole, List.length_replicate,
    inside]
  rfl

end LogTemplate.Json
