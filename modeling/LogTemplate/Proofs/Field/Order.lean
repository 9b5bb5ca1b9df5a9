import LogTemplate.Proofs.Field.Spelling
import Mathlib.Data.List.Nodup
import Mathlib.Data.List.Perm.Basic

/-!
# Bounds in any order

The bounds of a field are read item by item, and whatever is wrong with one of them ends the
reading.  Main statement: neither the order of the items nor the blanks around their keys and values
decide whether a field is read and what its bounds are; they are those that the items spell, in the
order of their names.
-/

namespace LogTemplate

namespace Text

/-- A text with blanks around it, or none. -/
def Pads (inside s : List CodePoint) : Prop :=
  ∃ before behind, isAllBlank before = true ∧ isAllBlank behind = true
    ∧ s = before ++ inside ++ behind

/-- Two texts of which one is the other with blanks added or taken away around it. -/
def Respaced (s t : List CodePoint) : Prop := ∃ inside, Pads inside s ∧ Pads inside t

theorem Respaced.symm {s t : List CodePoint} (respaced : Respaced s t) : Respaced t s := by
  obtain ⟨inside, padded, other⟩ := respaced
  exact ⟨inside, other, padded⟩

theorem trimLeft_append_blank {s behind : List CodePoint} (blank : isAllBlank behind = true) :
    trimLeft (s ++ behind) = if trimLeft s = [] then [] else trimLeft s ++ behind := by
  rw [isAllBlank, List.all_eq_true] at blank
  have gone : behind.dropWhile isBlank = [] := List.dropWhile_eq_nil_iff.mpr blank
  rw [trimLeft, trimLeft, List.dropWhile_append, gone]
  simp only [List.isEmpty_iff]

theorem trimRight_append_blank {s behind : List CodePoint} (blank : isAllBlank behind = true) :
    trimRight (s ++ behind) = trimRight s := by
  rw [isAllBlank, List.all_eq_true] at blank
  rw [trimRight, List.reverse_append, List.dropWhile_append_of_pos, ← trimRight]
  exact fun c member => blank c (List.mem_reverse.mp member)

theorem trim_eq_of_pads {inside s : List CodePoint} (padded : Pads inside s) :
    trim s = trim inside := by
  obtain ⟨before, behind, leading, trailing, rfl⟩ := padded
  rw [isAllBlank, List.all_eq_true] at leading
  have left : trimLeft (before ++ inside ++ behind) = trimLeft (inside ++ behind) := by
    rw [trimLeft, List.append_assoc, List.dropWhile_append_of_pos leading, ← trimLeft]
  rw [trim, left, trimLeft_append_blank trailing, trim]
  split
  · rename_i nothing
    rw [nothing]
  · exact trimRight_append_blank trailing

theorem Respaced.trim_eq {s t : List CodePoint} (respaced : Respaced s t) : trim s = trim t := by
  obtain ⟨inside, padded, other⟩ := respaced
  rw [trim_eq_of_pads padded, trim_eq_of_pads other]

theorem Pads.isAllBlank_iff {inside s : List CodePoint} (padded : Pads inside s) :
    isAllBlank s = true ↔ isAllBlank inside = true := by
  obtain ⟨before, behind, leading, trailing, rfl⟩ := padded
  rw [isAllBlank] at leading trailing
  simp [isAllBlank, leading, trailing]

/-- A character that is no blank is not brought in by blanks. -/
theorem Respaced.not_mem {s t : List CodePoint} (respaced : Respaced s t) {c : CodePoint}
    (filled : isBlank c = false) (absent : c ∉ s) : c ∉ t := by
  obtain ⟨inside, ⟨_, _, -, -, rfl⟩, before, behind, leading, trailing, rfl⟩ := respaced
  have unblank : ∀ blank, isAllBlank blank = true → c ∉ blank := by
    intro blank all member
    have isBlank := List.all_eq_true.mp all c member
    rw [filled] at isBlank
    cases isBlank
  simp only [List.mem_append, not_or] at absent ⊢
  exact ⟨⟨unblank before leading, absent.1.2⟩, unblank behind trailing⟩

end Text

namespace Bounds

open Text

/-- An item: a text without the commas that part items. -/
structure Item where
  text : List CodePoint
  whole : .char ',' ∉ text

namespace Item

/-- Two items with other blanks around the key and around the value.  An item without an equals sign
has no value. -/
inductive Respaced : Item → Item → Prop
  | entry {a b : Item} {key key' value value' : List CodePoint} :
    a.text = key ++ .char '=' :: value →
      b.text = key' ++ .char '=' :: value' → .char '=' ∉ key → Text.Respaced key key' →
      Text.Respaced value value' → Respaced a b
  | keyOnly {a b : Item} : .char '=' ∉ a.text → Text.Respaced a.text b.text → Respaced a b

theorem Respaced.symm {a b : Item} (respaced : Respaced a b) : Respaced b a := by
  cases respaced with
  | entry first second plain keys values =>
    exact .entry second first (keys.not_mem (by decide) plain) keys.symm values.symm
  | keyOnly plain texts => exact .keyOnly (texts.not_mem (by decide) plain) texts.symm

/-- Other blanks leave a bound as it is. -/
theorem Respaced.itemSpells {a b : Item} (respaced : Respaced a b) {entry : Limit × Int}
    (spelt : ItemSpells a.text entry) : ItemSpells b.text entry := by
  obtain ⟨k, v, same, named, read⟩ := spelt
  cases respaced with
  | @entry key key' value value' first second plain keys values =>
    have cut : splitAt? (CodePoint.char '=') (k ++ .char '=' :: v) =
        splitAt? (CodePoint.char '=') (key ++ .char '=' :: value) := by
      rw [← same, first]
    rw [splitAt?_append (equals_not_mem_key named), splitAt?_append plain, Option.some.injEq,
      Prod.mk.injEq] at cut
    obtain ⟨rfl, rfl⟩ := cut
    exact ⟨key', value', second, by rw [← keys.trim_eq, named], by rw [← values.trim_eq, read]⟩
  | keyOnly plain texts =>
    rw [same] at plain
    exact absurd (by simp) plain

theorem Respaced.isAllBlank_iff {a b : Item} (respaced : Respaced a b) :
    isAllBlank a.text = true ↔ isAllBlank b.text = true := by
  cases respaced with
  | entry first second plain keys values =>
    have unblank : isBlank '=' = false := by decide
    simp [first, second, isAllBlank, unblank]
  | keyOnly plain texts =>
    obtain ⟨inside, padded, other⟩ := texts
    rw [padded.isAllBlank_iff, other.isAllBlank_iff]

end Item

/-- Items, with commas between them. -/
def joined (items : List Item) : List CodePoint := [.char ','].intercalate (items.map Item.text)

/-- Items with commas between them are blank if there are none, or if there is one that is. -/
theorem isAllBlank_joined_iff {items : List Item} :
    isAllBlank (joined items) = true ↔
      items = [] ∨ ∃ item, items = [item] ∧ isAllBlank item.text = true := by
  have comma : isBlank ',' = false := by decide
  cases items with
  | nil => simp [joined, isAllBlank]
  | cons item items =>
    cases items with
    | nil => simp [joined]
    | cons next items => simp [joined, isAllBlank, comma]

theorem splitOn_joined {items : List Item} (filled : items ≠ []) :
    splitOn (CodePoint.char ',') (joined items) = items.map Item.text := by
  refine splitOn_intercalate ?_ (by simpa using filled)
  intro text member
  obtain ⟨item, -, rfl⟩ := List.mem_map.mp member
  exact item.whole

/-- What items spell: nothing, if all that stands there is blank, or each of them a bound. -/
theorem textSpells_joined_iff {kind : Kind} {items : List Item} {bounds : Bounds} :
    TextSpells kind (joined items) bounds ↔
      isAllBlank (joined items) = true ∧ bounds = {}
        ∨ ∃ entries, items ≠ []
          ∧ List.Forall₂ (fun item entry => ItemSpells (Item.text item) entry) items entries
          ∧ (entries.map Prod.fst).Nodup
          ∧ (∀ limit value, bounds.get? limit = some value ↔ (limit, value) ∈ entries)
          ∧ bounds.fit kind = true ∧ bounds.uncrossed = true := by
  rw [← readBounds_eq_ok_iff]
  simp only [Field.readBounds]
  by_cases blank : isAllBlank (joined items) = true
  · rw [if_pos blank]
    constructor
    · intro read
      exact .inl ⟨blank, (Except.ok.inj read).symm⟩
    · rintro (⟨-, rfl⟩ | ⟨entries, filled, spelt, -⟩)
      · rfl
      · -- a bound is spelt with an equals sign, which is no blank
        have texts : items.map Item.text ≠ [] := by simpa using filled
        have unblank := not_isAllBlank_intercalate texts (List.forall₂_map_left_iff.mpr spelt)
        exact absurd blank (Bool.not_eq_true _ ▸ unblank)
  · have filled : items ≠ [] := fun none => blank (isAllBlank_joined_iff.mpr (.inl none))
    rw [if_neg blank, splitOn_joined filled, readItems_eq_ok_iff]
    simp only [List.forall₂_map_left_iff, iff_false_intro blank, false_and, false_or,
      and_iff_right filled]

/-! ## Other items that spell the same -/

/-- What goes with each member of a list goes with each member of one that is alike. -/
theorem forall₂_of_alike {α β : Type} {alike : α → α → Prop} {fits : α → β → Prop}
    (carry : ∀ {a b c}, alike a b → fits a c → fits b c) {l m : List α} {n : List β}
    (same : List.Forall₂ alike l m) (whole : List.Forall₂ fits l n) : List.Forall₂ fits m n := by
  induction same generalizing n with
  | nil => exact whole
  | cons first _ ih =>
    cases whole with
    | cons fit rest => exact .cons (carry first fit) (ih rest)

theorem textSpells_joined_of_perm {kind : Kind} {items others : List Item} {bounds : Bounds}
    (order : items.Perm others) (spelt : TextSpells kind (joined items) bounds) :
    TextSpells kind (joined others) bounds := by
  rw [textSpells_joined_iff] at spelt ⊢
  rcases spelt with ⟨blank, rfl⟩ | ⟨entries, filled, spelt, distinct, same, formed⟩
  · refine .inl ⟨?_, rfl⟩
    rcases isAllBlank_joined_iff.mp blank with rfl | ⟨item, rfl, -⟩
    · rwa [← order.nil_eq]
    · rwa [← order.singleton_eq]
  · obtain ⟨reordered, spelt, perm⟩ := List.perm_comp_forall₂ order.symm spelt
    refine .inr ⟨reordered, fun none => filled (order.trans (none ▸ .refl _)).eq_nil, spelt,
      (perm.map Prod.fst).nodup_iff.mpr distinct, ?_, formed⟩
    intro limit value
    rw [same, perm.mem_iff]

theorem textSpells_joined_of_respaced {kind : Kind} {items others : List Item} {bounds : Bounds}
    (respaced : List.Forall₂ Item.Respaced items others)
    (spelt : TextSpells kind (joined items) bounds) : TextSpells kind (joined others) bounds := by
  rw [textSpells_joined_iff] at spelt ⊢
  rcases spelt with ⟨blank, rfl⟩ | ⟨entries, filled, spelt, formed⟩
  · refine .inl ⟨?_, rfl⟩
    rw [isAllBlank_joined_iff] at blank ⊢
    rcases blank with rfl | ⟨item, rfl, blank⟩
    · exact .inl (List.forall₂_nil_left_iff.mp respaced)
    · obtain ⟨other, rest, alike, none, rfl⟩ := List.forall₂_cons_left_iff.mp respaced
      obtain rfl := List.forall₂_nil_left_iff.mp none
      exact .inr ⟨other, rfl, alike.isAllBlank_iff.mp blank⟩
  · refine .inr ⟨entries, ?_, ?_, formed⟩
    · rintro rfl
      exact filled (List.forall₂_nil_right_iff.mp respaced)
    · exact forall₂_of_alike (fun alike spells => alike.itemSpells spells) respaced spelt

end Bounds

namespace Field

open Text Bounds

/-- The body of a field with items between its parentheses. -/
def bodyOf (kind : Kind) (items : List Item) (name : List CodePoint) : List CodePoint :=
  kind.name.toList ++ .char '(' :: (joined items ++ .char ')' :: .char ':' :: name)

/-- Behind the name of a kind a body goes on with the first character that is no letter or digit. -/
theorem kind_eq_of_append {kind other : Kind} {c d : CodePoint} {s t : List CodePoint}
    (same : kind.name.toList ++ c :: s = other.name.toList ++ d :: t)
    (stops : c.isAlphanum = false) (otherStops : d.isAlphanum = false) :
    kind = other ∧ c = d ∧ s = t := by
  have inside : ∀ k : Kind, ∀ c ∈ k.name.toList, c.isAlphanum = true := fun k c member =>
    ((kindName_plain k).2 c member).1
  have names := congrArg (List.takeWhile CodePoint.isAlphanum) same
  rw [takeWhile_append_of_stops (inside kind) (by simpa using stops),
    takeWhile_append_of_stops (inside other) (by simpa using otherStops)] at names
  rw [names, List.append_cancel_left_eq, List.cons.injEq] at same
  have found := ofName?_eq_some_iff.mpr names
  rw [Text.ofList_toList, Kind.ofName?_name, Option.some.injEq] at found
  exact ⟨found, same⟩

theorem closing_not_mem_of_nameAtEnd? {s name : List CodePoint} (found : nameAtEnd? s = some name) :
    .char ')' ∉ s := by
  obtain ⟨named, ending⟩ := nameAtEnd?_eq_some_iff.mp found
  have absent : .char ')' ∉ name := fun member =>
    absurd (isNameChar_of_isName named ')' member) (by decide)
  rcases ending with rfl | rfl
  · exact absent
  · simp [absent]

/-- A closing parenthesis that is the only one of its text parts the text in one way. -/
theorem eq_of_append_closing {inside text after tail : List CodePoint}
    (same : inside ++ .char ')' :: .char ':' :: after = text ++ .char ')' :: .char ':' :: tail)
    (plain : .char ')' ∉ text)
    (behind : .char ')' ∉ tail) : inside = text ∧ after = tail := by
  have once := congrArg (List.count (.char ')')) same
  simp only [List.count_append, List.count_cons_self, List.count_eq_zero_of_not_mem plain,
    List.count_cons_of_ne (show CodePoint.char ':' ≠ .char ')' by decide),
      List.count_eq_zero_of_not_mem behind] at once
  have none : .char ')' ∉ inside := List.count_eq_zero.mp (by omega)
  have cut := congrArg (splitAt? (CodePoint.char ')')) same
  rw [splitAt?_append none, splitAt?_append plain] at cut
  simpa using cut

/-- A body is read if its items spell bounds and its name is one. -/
theorem read_bodyOf_eq_ok_iff {kind : Kind} {items : List Item} {name : List CodePoint}
    {f : Field} :
    read (bodyOf kind items name) = .ok f ↔
      ∃ found bounds, nameAtEnd? name = some found ∧ TextSpells kind (joined items) bounds
        ∧ f = ⟨kind, Text.ofList found, bounds⟩ := by
  rw [read_eq_ok_iff]
  constructor
  · intro accepted
    -- what follows a line that spells the field is nothing, or the line feed that does not count
    obtain ⟨line, ending, same, spelt, feed⟩ : ∃ line ending,
        bodyOf kind items name = line ++ ending ∧ BodySpells line f
          ∧ (ending = [] ∨ ending = [.char '\n']) := by
      rcases accepted with spelt | ⟨line, same, spelt⟩
      · exact ⟨_, [], (List.append_nil _).symm, spelt, .inl rfl⟩
      · exact ⟨line, [.char '\n'], same, spelt, .inr rfl⟩
    have ended : ∀ found, isName found = true → nameAtEnd? (found ++ ending) = some found := by
      intro found named
      refine nameAtEnd?_eq_some_iff.mpr ⟨named, ?_⟩
      rcases feed with rfl | rfl
      · exact .inl (List.append_nil found)
      · exact .inr rfl
    cases spelt with
    | @plain other found named =>
      rw [bodyOf, List.append_assoc, List.cons_append] at same
      obtain ⟨-, mark, -⟩ := kind_eq_of_append same (by decide) (by decide)
      exact absurd mark (by decide)
    | @bounded other found text bounds named spelt =>
      rw [bodyOf, List.append_assoc, List.cons_append, List.append_assoc, List.cons_append,
        List.cons_append] at same
      obtain ⟨rfl, -, same⟩ := kind_eq_of_append same (by decide) (by decide)
      have plain : .char ')' ∉ text := fun member =>
        not_mem_of_textSpells spelt ')' member (by decide)
      have found := ended found named
      obtain ⟨rfl, rfl⟩ :=
        eq_of_append_closing same plain (closing_not_mem_of_nameAtEnd? found)
      exact ⟨_, bounds, found, spelt, rfl⟩
  · rintro ⟨found, bounds, ending, spelt, rfl⟩
    obtain ⟨named, rfl | rfl⟩ := nameAtEnd?_eq_some_iff.mp ending
    · exact .inl (.bounded named spelt)
    · refine .inr ⟨_, ?_, .bounded named spelt⟩
      simp [bodyOf]

theorem toOption_eq_of_ok_iff {ε α : Type} {x y : Except ε α}
    (same : ∀ a, x = .ok a ↔ y = .ok a) : x.toOption = y.toOption := by
  cases x with
  | ok a => rw [(same a).mp rfl]
  | error e =>
    cases y with
    | ok a => cases (same a).mpr rfl
    | error e' => rfl

/-- Items in another order, with other blanks around keys and values, make the same field or, like
these, none. -/
theorem read_bodyOf_toOption_eq {kind : Kind} {name : List CodePoint}
    {items permuted others : List Item}
    (order : items.Perm permuted) (respaced : List.Forall₂ Item.Respaced permuted others) :
    (read (bodyOf kind others name)).toOption = (read (bodyOf kind items name)).toOption := by
  have back : List.Forall₂ Item.Respaced others permuted :=
    List.Forall₂.flip (respaced.imp fun _ _ alike => alike.symm)
  have same : ∀ bounds, TextSpells kind (joined others) bounds ↔
      TextSpells kind (joined items) bounds := by
    intro bounds
    constructor
    · intro spelt
      exact textSpells_joined_of_perm order.symm (textSpells_joined_of_respaced back spelt)
    · intro spelt
      exact textSpells_joined_of_respaced respaced (textSpells_joined_of_perm order spelt)
  refine toOption_eq_of_ok_iff fun f => ?_
  simp only [read_bodyOf_eq_ok_iff, same]

end Field

namespace Bounds

open Text

/-- The limits that are bounded stand in the order of their names. -/
theorem sorted_entries (bounds : Bounds) :
    (bounds.entries.map fun entry => entry.1.name).Pairwise (· < ·) := by
  have sorted : (Limit.all.map Limit.name).Pairwise (· < ·) := by decide
  have sub : (bounds.entries.map Prod.fst).Sublist Limit.all := by
    rw [map_fst_entries]
    exact List.filter_sublist
  have names := sorted.sublist (sub.map Limit.name)
  rwa [List.map_map] at names

theorem le_of_uncrossed {bounds : Bounds} (uncrossed : bounds.uncrossed = true) :
    (∀ low high, (Limit.min, low) ∈ bounds.entries → (Limit.max, high) ∈ bounds.entries →
      low ≤ high)
      ∧ ∀ low high, (Limit.minLength, low) ∈ bounds.entries →
        (Limit.maxLength, high) ∈ bounds.entries → low ≤ high := by
  simp only [Bounds.uncrossed, Bool.and_eq_true, Bool.not_eq_true'] at uncrossed
  simp only [mem_entries, get?]
  constructor
  · intro low high least greatest
    simpa [above, least, greatest] using uncrossed.1
  · intro low high least greatest
    simpa [above, least, greatest] using uncrossed.2

/-- Bounds are those that the items spell which are not blank, one each. -/
theorem exists_perm_entries {kind : Kind} {items : List Item} {bounds : Bounds}
    (spelt : TextSpells kind (joined items) bounds) :
    ∃ entries, List.Forall₂ (fun item entry => ItemSpells (Item.text item) entry)
        (items.filter fun item => !isAllBlank item.text) entries
      ∧ entries.Perm bounds.entries := by
  rcases textSpells_joined_iff.mp spelt with ⟨blank, rfl⟩ | ⟨entries, -, spelt, distinct, same, -⟩
  · refine ⟨[], ?_, .refl _⟩
    rcases isAllBlank_joined_iff.mp blank with rfl | ⟨item, rfl, empty⟩
    · exact .nil
    · simp [empty]
  · have filled : ∀ item ∈ items, (!isAllBlank item.text) = true := by
      intro item member
      have texts := List.forall₂_map_left_iff.mpr spelt
      obtain ⟨entry, -, key, value, shape, -⟩ :=
        exists_entry_of_mem texts (List.mem_map_of_mem (f := Item.text) member)
      simp [shape, isAllBlank, show isBlank '=' = false by decide]
    rw [List.filter_eq_self.mpr filled]
    refine ⟨entries, spelt, (List.perm_ext_iff_of_nodup (List.Nodup.of_map _ distinct)
      (List.Nodup.of_map _ (nodup_map_fst_entries bounds))).mpr fun entry => ?_⟩
    rw [← same, ← mem_entries]

end Bounds

namespace Field

open Text Bounds

/-- Neither the order of the items nor the blanks around their keys and values decide whether the
field is read, and as which one.  Its bounds stand in the order of their names, no name twice; they
are those that the items spell which are not blank, all of them bounds that the kind allows, and no
lower one lies above its upper one. -/
theorem bounds_of_items_in_any_order (kind : Kind) (name : List CodePoint) (items : List Item) :
    (∀ permuted others, items.Perm permuted → List.Forall₂ Item.Respaced permuted others →
      (read (bodyOf kind others name)).toOption = (read (bodyOf kind items name)).toOption)
      ∧ ∀ f, read (bodyOf kind items name) = .ok f → f.kind = kind
        ∧ (f.bounds.entries.map fun entry => entry.1.name).Pairwise (· < ·)
        ∧ (∃ entries, List.Forall₂ (fun item entry => ItemSpells (Item.text item) entry)
            (items.filter fun item => !isAllBlank item.text) entries
          ∧ entries.Perm f.bounds.entries)
        ∧ (∀ entry ∈ f.bounds.entries, kind.allows entry.1 = true)
        ∧ (∀ low high, (Limit.min, low) ∈ f.bounds.entries →
          (Limit.max, high) ∈ f.bounds.entries → low ≤ high)
        ∧ ∀ low high, (Limit.minLength, low) ∈ f.bounds.entries →
          (Limit.maxLength, high) ∈ f.bounds.entries → low ≤ high := by
  refine ⟨fun permuted others order respaced => read_bodyOf_toOption_eq order respaced,
    fun f success => ?_⟩
  obtain ⟨found, bounds, -, spelt, rfl⟩ := read_bodyOf_eq_ok_iff.mp success
  obtain ⟨fits, uncrossed, -⟩ := wellFormed_of_textSpells spelt
  refine ⟨rfl, sorted_entries bounds, exists_perm_entries spelt, ?_, le_of_uncrossed uncrossed⟩
  intro entry member
  exact fit_iff.mp fits entry.1 entry.2 (mem_entries.mp member)

example : (read (Text.toList "NUMBER( max = 9 ,min=1):n")).toOption =
    some ⟨.number, "n", { min := some 1, max := some 9 }⟩ := by decide

end Field

end LogTemplate
