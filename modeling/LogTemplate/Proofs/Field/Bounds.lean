import Mathlib.Data.List.Forall2
import LogTemplate.Template.Parse
import LogTemplate.Proofs.Numeral
import LogTemplate.Proofs.Refusing
import LogTemplate.Proofs.Text.Split

/-!
# What written bounds spell

The text between the parentheses of a field is blank, or items between commas.  Each item spells one
bound.  Main statements: reading bounds succeeds exactly on the texts that spell some, and finds the
bounds that they spell; the signs that hold a field together do not occur in such a text.
-/

namespace LogTemplate.Bounds

open Text

/-- An item spells a bound: the name of the limit, an equals sign and an integer, with blanks around
both. -/
def ItemSpells (item : List CodePoint) (entry : Limit × Int) : Prop :=
  ∃ key value, item = key ++ .char '=' :: value ∧ trim key = entry.1.name.toList
    ∧ Numeral.readDecimal (trim value) = .ok entry.2

/-- What the text between the parentheses spells for a field of some kind: nothing, or each bound
once, all of them bounds that the kind allows, and none crossed. -/
inductive TextSpells (kind : Kind) : List CodePoint → Bounds → Prop
  | blank {text : List CodePoint} : isAllBlank text = true → TextSpells kind text {}
  | items {items : List (List CodePoint)} {entries : List (Limit × Int)} {bounds : Bounds} :
      items ≠ [] → List.Forall₂ ItemSpells items entries → (entries.map Prod.fst).Nodup →
      (∀ limit value, bounds.get? limit = some value ↔ (limit, value) ∈ entries) →
      bounds.fit kind = true → bounds.uncrossed = true →
      TextSpells kind ([.char ','].intercalate items) bounds

/-! ## Reading one item -/

/-- No blank and no equals sign stands in the name of a limit. -/
theorem name_plain (limit : Limit) :
    ∀ c ∈ limit.name.toList, isBlank c = false ∧ c ≠ '='
      ∧ c ∉ [.char ',', .char '(', .char ')', .char '@'] := by
  cases limit <;> exact forall_mem_of_all (by decide)

theorem equals_not_mem_key {key : List CodePoint} {limit : Limit}
    (named : trim key = limit.name.toList) : .char '=' ∉ key := by
  intro member
  rcases mem_trim_or_blank member with blank | kept
  · exact absurd blank (by decide)
  · rw [named] at kept
    exact (name_plain limit '=' kept).2.1 rfl

/-- What can be found by its name is found by that alone. -/
theorem find?_name_eq_some_iff {α : Type} {all : List α} {name : α → Text}
    (finds : ∀ a, (all.find? fun b => name b == name a) = some a) {text : List CodePoint} {a : α} :
    (all.find? fun b => name b == Text.ofList text) = some a ↔ text = (name a).toList := by
  constructor
  · intro found
    have same := List.find?_some found
    simp only [beq_iff_eq] at same
    rw [same, Text.toList_ofList]
  · rintro rfl
    rw [Text.ofList_toList, finds]

theorem ofName?_eq_some_iff {name : List CodePoint} {limit : Limit} :
    Limit.ofName? (Text.ofList name) = some limit ↔ name = limit.name.toList :=
  find?_name_eq_some_iff Limit.ofName?_name

/-- Reading an item adds the bound that it spells, if the kind allows one there and none is there
yet. -/
theorem readBound_eq_ok_iff {kind : Kind} {start bounds : Bounds} {item : List CodePoint} :
    Field.readBound kind start item = .ok bounds ↔
      ∃ entry, ItemSpells item entry ∧ kind.allows entry.1 = true ∧ start.get? entry.1 = .none
        ∧ bounds = start.set entry.1 entry.2 := by
  constructor
  · intro success
    unfold Field.readBound at success
    dsimp only at success
    split at success
    · cases success
    rename_i before after cut
    split at success
    · cases success
    split at success
    · cases success
    rename_i limit found
    split at success
    · cases success
    rename_i allowed
    split at success
    · cases success
    rename_i fresh
    split at success
    · cases success
    rename_i value read
    refine ⟨(limit, value), ⟨before, after, (splitAt?_eq_some cut).1, ?_, read⟩, ?_, ?_,
      (Except.ok.inj success).symm⟩
    · exact ofName?_eq_some_iff.mp found
    · simpa using allowed
    · simpa using fresh
  · rintro ⟨⟨limit, value⟩, ⟨key, text, rfl, named, read⟩, allowed, fresh, rfl⟩
    have cut : splitAt? (CodePoint.char '=') (key ++ .char '=' :: text) = some (key, text) :=
      splitAt?_append (equals_not_mem_key named)
    have filled : (Text.ofList (trim key)).isEmpty = false := by
      rw [named, Text.ofList_toList]
      show limit.name.isEmpty = false
      cases limit <;> decide
    have found := ofName?_eq_some_iff.mpr named
    simp [Field.readBound, cut, filled, found, allowed, fresh, read]

/-! ## Reading all items -/

/-- What the bounds are after some have been added to others. -/
theorem get?_foldl_set {entries : List (Limit × Int)} (distinct : (entries.map Prod.fst).Nodup)
    (start : Bounds) (limit : Limit) (value : Int)
    (fresh : ∀ entry ∈ entries, start.get? entry.1 = .none) :
    (entries.foldl (fun b e => b.set e.1 e.2) start).get? limit = some value ↔
      start.get? limit = some value ∨ (limit, value) ∈ entries := by
  induction entries generalizing start with
  | nil => simp
  | cons entry rest ih =>
    obtain ⟨first, bound⟩ := entry
    rw [List.map_cons, List.nodup_cons] at distinct
    have later : ∀ e ∈ rest, (start.set first bound).get? e.1 = .none := by
      intro e member
      have different : e.1 ≠ first := by
        intro equal
        exact distinct.1 (List.mem_map.mpr ⟨e, member, equal⟩)
      rw [get?_set, if_neg different]
      exact fresh e (by simp [member])
    rw [List.foldl_cons, ih distinct.2 _ later, get?_set]
    by_cases equal : limit = first
    · subst equal
      have absent : start.get? limit = .none := fresh (limit, bound) (by simp)
      have once : (limit, value) ∉ rest := by
        intro member
        exact distinct.1 (List.mem_map.mpr ⟨_, member, rfl⟩)
      simp [absent, once, eq_comm]
    · simp [equal]

/-- Reading items one after the other adds what they spell, if each spells a bound that is allowed
and not yet there. -/
theorem foldlM_readBound_eq_ok_iff {kind : Kind} {items : List (List CodePoint)}
    {start bounds : Bounds} :
    items.foldlM (Field.readBound kind) start = .ok bounds ↔
      ∃ entries, List.Forall₂ ItemSpells items entries ∧ (entries.map Prod.fst).Nodup
        ∧ (∀ entry ∈ entries, kind.allows entry.1 = true ∧ start.get? entry.1 = .none)
        ∧ bounds = entries.foldl (fun b e => b.set e.1 e.2) start := by
  induction items generalizing start with
  | nil =>
    constructor
    · intro success
      exact ⟨[], .nil, List.nodup_nil, by simp, (Except.ok.inj success).symm⟩
    · rintro ⟨entries, spelt, -, -, rfl⟩
      cases spelt
      rfl
  | cons item rest ih =>
    rw [List.foldlM_cons]
    constructor
    · intro success
      cases first : Field.readBound kind start item with
      | error cause =>
        rw [first] at success
        cases success
      | ok middle =>
        rw [first] at success
        obtain ⟨entries, spelt, distinct, fit, rfl⟩ := ih.mp success
        obtain ⟨entry, itemSpelt, allowed, fresh, rfl⟩ := readBound_eq_ok_iff.mp first
        -- a later item with the same limit would have found it taken
        have unlike : ∀ e ∈ entries, e.1 ≠ entry.1 := by
          intro e member equal
          have absent := (fit e member).2
          rw [get?_set, if_pos equal] at absent
          cases absent
        refine ⟨entry :: entries, .cons itemSpelt spelt, ?_, ?_, rfl⟩
        · rw [List.map_cons, List.nodup_cons]
          refine ⟨?_, distinct⟩
          intro member
          obtain ⟨e, inside, equal⟩ := List.mem_map.mp member
          exact unlike e inside equal
        · intro e member
          rcases List.mem_cons.mp member with rfl | inside
          · exact ⟨allowed, fresh⟩
          · have absent := (fit e inside).2
            rw [get?_set, if_neg (unlike e inside)] at absent
            exact ⟨(fit e inside).1, absent⟩
    · rintro ⟨entries, spelt, distinct, fit, rfl⟩
      cases spelt with
      | @cons _ entry _ entries itemSpelt spelt =>
        rw [List.map_cons, List.nodup_cons] at distinct
        obtain ⟨allowed, fresh⟩ := fit entry (by simp)
        have first := readBound_eq_ok_iff.mpr ⟨entry, itemSpelt, allowed, fresh, rfl⟩
        rw [first]
        refine ih.mpr ⟨entries, spelt, distinct.2, ?_, rfl⟩
        intro e member
        refine ⟨(fit e (by simp [member])).1, ?_⟩
        have different : e.1 ≠ entry.1 := by
          intro equal
          exact distinct.1 (List.mem_map.mpr ⟨e, member, equal⟩)
        rw [get?_set, if_neg different]
        exact (fit e (by simp [member])).2

/-! ## Reading the text between the parentheses -/

theorem fit_iff {bounds : Bounds} {kind : Kind} :
    bounds.fit kind = true ↔
      ∀ limit value, bounds.get? limit = some value → kind.allows limit = true := by
  unfold fit
  rw [List.all_eq_true]
  constructor
  · intro fits limit value got
    exact fits (limit, value) (mem_entries.mpr got)
  · intro fits entry member
    exact fits entry.1 entry.2 (mem_entries.mp member)

theorem checkCrossing_eq_ok_iff {start bounds : Bounds} :
    Field.checkCrossing start = .ok bounds ↔ bounds = start ∧ start.uncrossed = true := by
  unfold Field.checkCrossing uncrossed
  cases above start.min start.max with
  | true => simp
  | false =>
    cases above start.minLength start.maxLength with
    | true => simp
    | false => simp [eq_comm]

/-- The bounds that pairs make, each limit named once, are the pairs. -/
theorem eq_foldl_set_iff {entries : List (Limit × Int)} {bounds : Bounds}
    (distinct : (entries.map Prod.fst).Nodup) :
    bounds = entries.foldl (fun b e => b.set e.1 e.2) {} ↔
      ∀ limit value, bounds.get? limit = some value ↔ (limit, value) ∈ entries := by
  have empty : ∀ limit, ({} : Bounds).get? limit = .none := by
    intro limit
    cases limit <;> rfl
  have made := get?_foldl_set distinct {}
  constructor
  · rintro rfl limit value
    rw [made limit value fun entry _ => empty entry.1, empty]
    simp
  · intro same
    apply ext_get?
    intro limit
    apply Option.ext
    intro value
    rw [made limit value fun entry _ => empty entry.1, same, empty]
    simp

/-- None of the signs that part the items and hold a field together stands in an item. -/
theorem not_separator_of_mem_item {item : List CodePoint} {entry : Limit × Int}
    (spelt : ItemSpells item entry) :
    ∀ c ∈ item, c ∉ [.char ',', .char '(', .char ')', .char '@'] := by
  obtain ⟨key, value, rfl, named, read⟩ := spelt
  have unblank : ∀ c ∈ [.char ',', .char '(', .char ')', .char '@'], isBlank c = false :=
    forall_mem_of_all (by decide)
  have unnumeral : ∀ c ∈ [.char ',', .char '(', .char ')', .char '@'],
      ¬ (Numeral.isPadding c = true ∨ c = '-' ∨ c = '+'
      ∨ c = '_' ∨ (digitValue? c).isSome = true) := forall_mem_of_all (by decide)
  intro c member separator
  rcases List.mem_append.mp member with inKey | behind
  · rcases mem_trim_or_blank inKey with blank | kept
    · rw [unblank c separator] at blank
      cases blank
    · rw [named] at kept
      exact (name_plain entry.1 c kept).2.2 separator
  rcases List.mem_cons.mp behind with rfl | inValue
  · revert separator
    decide
  · rcases mem_trim_or_blank inValue with blank | kept
    · rw [unblank c separator] at blank
      cases blank
    · exact unnumeral c separator (Numeral.mem_of_readDecimal read kept)

theorem exists_entry_of_mem {items : List (List CodePoint)} {entries : List (Limit × Int)}
    (spelt : List.Forall₂ ItemSpells items entries) {item : List CodePoint}
    (member : item ∈ items) :
    ∃ entry ∈ entries, ItemSpells item entry := by
  induction spelt with
  | nil => cases member
  | @cons first entry items entries itemSpelt _ ih =>
    rcases List.mem_cons.mp member with rfl | inside
    · exact ⟨entry, by simp, itemSpelt⟩
    · obtain ⟨e, inEntries, spells⟩ := ih inside
      exact ⟨e, by simp [inEntries], spells⟩

theorem exists_item_of_mem {items : List (List CodePoint)} {entries : List (Limit × Int)}
    (spelt : List.Forall₂ ItemSpells items entries) {entry : Limit × Int}
    (member : entry ∈ entries) : ∃ item ∈ items, ItemSpells item entry := by
  induction spelt with
  | nil => cases member
  | @cons item first items entries itemSpelt _ ih =>
    rcases List.mem_cons.mp member with rfl | inside
    · exact ⟨item, by simp, itemSpelt⟩
    · obtain ⟨i, inItems, spells⟩ := ih inside
      exact ⟨i, by simp [inItems], spells⟩

theorem fit_iff_forall_mem {bounds : Bounds} {entries : List (Limit × Int)} {kind : Kind}
    (same : ∀ limit value, bounds.get? limit = some value ↔ (limit, value) ∈ entries) :
    bounds.fit kind = true ↔ ∀ entry ∈ entries, kind.allows entry.1 = true := by
  rw [fit_iff]
  constructor
  · intro fits entry member
    exact fits entry.1 entry.2 ((same entry.1 entry.2).mpr member)
  · intro fits limit value got
    exact fits (limit, value) ((same limit value).mp got)

/-- Items are read as the bounds that they spell. -/
theorem readItems_eq_ok_iff {kind : Kind} {items : List (List CodePoint)} {bounds : Bounds} :
    (items.foldlM (Field.readBound kind) {} >>= Field.checkCrossing) = .ok bounds ↔
      ∃ entries, List.Forall₂ ItemSpells items entries ∧ (entries.map Prod.fst).Nodup
        ∧ (∀ limit value, bounds.get? limit = some value ↔ (limit, value) ∈ entries)
        ∧ bounds.fit kind = true ∧ bounds.uncrossed = true := by
  have crossing : (items.foldlM (Field.readBound kind) {} >>= Field.checkCrossing) = .ok bounds ↔
      items.foldlM (Field.readBound kind) {} = .ok bounds ∧ bounds.uncrossed = true := by
    rw [bind_eq_ok_iff]
    constructor
    · rintro ⟨middle, read, checked⟩
      obtain ⟨rfl, uncrossed⟩ := checkCrossing_eq_ok_iff.mp checked
      exact ⟨read, uncrossed⟩
    · rintro ⟨read, uncrossed⟩
      exact ⟨bounds, read, checkCrossing_eq_ok_iff.mpr ⟨rfl, uncrossed⟩⟩
  rw [crossing, foldlM_readBound_eq_ok_iff]
  constructor
  · rintro ⟨⟨entries, spelt, distinct, fits, made⟩, uncrossed⟩
    have same := (eq_foldl_set_iff distinct).mp made
    exact ⟨entries, spelt, distinct, same,
      (fit_iff_forall_mem same).mpr fun entry member => (fits entry member).1, uncrossed⟩
  · rintro ⟨entries, spelt, distinct, same, fits, uncrossed⟩
    refine ⟨⟨entries, spelt, distinct, ?_, (eq_foldl_set_iff distinct).mpr same⟩, uncrossed⟩
    intro entry member
    refine ⟨(fit_iff_forall_mem same).mp fits entry member, ?_⟩
    cases entry.1 <;> rfl

theorem not_isAllBlank_intercalate {items : List (List CodePoint)} {entries : List (Limit × Int)}
    (filled : items ≠ []) (spelt : List.Forall₂ ItemSpells items entries) :
    isAllBlank ([.char ','].intercalate items) = false := by
  have equals : .char '=' ∈ [.char ','].intercalate items := by
    cases spelt with
    | nil => exact absurd rfl filled
    | @cons item entry rest _ itemSpelt _ =>
      obtain ⟨key, value, rfl, -, -⟩ := itemSpelt
      cases rest with
      | nil => simp
      | cons next rest => simp
  rw [isAllBlank, List.all_eq_false]
  exact ⟨'=', equals, by decide⟩

/-- Reading the text between the parentheses succeeds exactly where it spells bounds. -/
theorem readBounds_eq_ok_iff {kind : Kind} {text : List CodePoint} {bounds : Bounds} :
    Field.readBounds kind (some text) = .ok bounds ↔ TextSpells kind text bounds := by
  constructor
  · intro success
    simp only [Field.readBounds] at success
    split at success
    · rename_i blank
      cases success
      exact .blank blank
    · obtain ⟨entries, spelt, distinct, same, fits, uncrossed⟩ := readItems_eq_ok_iff.mp success
      have filled : splitOn (CodePoint.char ',') text ≠ [] := by
        rw [splitOn_eq]
        exact List.splitOn_ne_nil _ text
      have whole := TextSpells.items filled spelt distinct same fits uncrossed
      rwa [intercalate_splitOn] at whole
  · rintro (blank | ⟨filled, spelt, distinct, same, fits, uncrossed⟩)
    · simp [Field.readBounds, blank]
    · rename_i items entries
      have unmarked : ∀ item ∈ items, .char ',' ∉ item := by
        intro item member comma
        obtain ⟨entry, -, itemSpelt⟩ := exists_entry_of_mem spelt member
        exact not_separator_of_mem_item itemSpelt ',' comma (by simp)
      simp only [Field.readBounds, not_isAllBlank_intercalate filled spelt,
        splitOn_intercalate unmarked filled]
      exact readItems_eq_ok_iff.mpr ⟨entries, spelt, distinct, same, fits, uncrossed⟩

/-! ## What the spelt bounds are like -/

/-- Neither parentheses nor the signs of a field stand in a text that spells bounds. -/
theorem not_mem_of_textSpells {kind : Kind} {text : List CodePoint} {bounds : Bounds}
    (spelt : TextSpells kind text bounds) : ∀ c ∈ text, c ∉ [.char '(', .char ')', .char '@'] := by
  intro c member sign
  cases spelt with
  | blank blank =>
    have isBlank := List.all_eq_true.mp blank c member
    revert isBlank
    have unblank : ∀ c ∈ [.char '(', .char ')', .char '@'], ¬ Text.isBlank c = true :=
      forall_mem_of_all (by decide)
    exact unblank c sign
  | items _ items =>
    rcases mem_of_mem_intercalate member with comma | ⟨item, inItems, inside⟩
    · rw [List.mem_singleton.mp comma] at sign
      revert sign
      decide
    · obtain ⟨entry, -, itemSpelt⟩ := exists_entry_of_mem items inItems
      exact not_separator_of_mem_item itemSpelt c inside (List.mem_cons_of_mem _ sign)

/-- Spelt bounds are allowed, not crossed, and short enough to be read. -/
theorem wellFormed_of_textSpells {kind : Kind} {text : List CodePoint} {bounds : Bounds}
    (spelt : TextSpells kind text bounds) :
    bounds.fit kind = true ∧ bounds.uncrossed = true ∧ bounds.readable = true := by
  cases spelt with
  | blank => exact ⟨rfl, rfl, rfl⟩
  | items _ items distinct same fits uncrossed =>
    refine ⟨fits, uncrossed, ?_⟩
    unfold readable
    rw [List.all_eq_true]
    intro entry member
    obtain ⟨item, -, key, value, -, -, read⟩ :=
      exists_item_of_mem items ((same entry.1 entry.2).mp (mem_entries.mp member))
    simpa using Numeral.length_of_readDecimal read

/-! ## The written form of bounds -/

/-- A bound that is short enough is spelt by its written form. -/
theorem itemSpells_renderEntry {entry : Limit × Int}
    (short : (toString entry.2.natAbs).length ≤ Numeral.digitLimit) :
    ItemSpells (renderEntry entry) entry := by
  refine ⟨entry.1.name.toList, Text.toList (Numeral.decimal entry.2), rfl, ?_, ?_⟩
  · exact trim_of_not_blank fun c member => (name_plain entry.1 c member).1
  · rw [trim_of_not_blank fun c member => Numeral.isBlank_of_mem_decimal member]
    exact Numeral.readDecimal_decimal short

/-- The limits that are listed are those that have a bound. -/
theorem map_fst_entries (bounds : Bounds) :
    bounds.entries.map Prod.fst = Limit.all.filter fun limit => (bounds.get? limit).isSome := by
  unfold entries
  induction Limit.all with
  | nil => rfl
  | cons limit rest ih =>
    cases got : bounds.get? limit with
    | none => simpa [got] using ih
    | some value => simpa [got] using ih

theorem nodup_map_fst_entries (bounds : Bounds) : (bounds.entries.map Prod.fst).Nodup := by
  rw [map_fst_entries]
  exact List.Pairwise.filter _ (show Limit.all.Nodup by decide)

theorem eq_empty_of_entries {bounds : Bounds} (none : bounds.entries = []) : bounds = {} := by
  apply ext_get?
  intro limit
  have absent : bounds.get? limit = .none := by
    apply Option.eq_none_iff_forall_not_mem.mpr
    intro value got
    have member := mem_entries.mpr got
    rw [none] at member
    cases member
  rw [absent]
  cases limit <;> rfl

/-- Bounds that a field may have are spelt by their entries between commas. -/
theorem textSpells_entries {kind : Kind} {bounds : Bounds} (filled : bounds.entries ≠ [])
    (fits : bounds.fit kind = true) (uncrossed : bounds.uncrossed = true)
    (short : bounds.readable = true) :
    bounds.TextSpells kind ([.char ','].intercalate (bounds.entries.map renderEntry)) := by
  refine .items (by simpa using filled) ?_
    (nodup_map_fst_entries bounds) (fun limit value => mem_entries.symm) fits uncrossed
  rw [List.forall₂_map_left_iff, List.forall₂_same]
  intro entry member
  unfold readable at short
  rw [List.all_eq_true] at short
  exact itemSpells_renderEntry (by simpa using short entry member)

end LogTemplate.Bounds
