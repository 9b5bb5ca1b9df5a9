import LogTemplate.Proofs.Json.Reading
import LogTemplate.Proofs.Json.Text
import LogTemplate.Proofs.OrderedMap
import LogTemplate.Proofs.Refusing
import LogTemplate.Proofs.Text.Split

/-!
# Documents, written as JSON and read

Main statement: a document without floating-point numbers is read back from its text, in whatever
style that is written, but for the order of the entries if the style sorts them.  The reader has to
go as deep as the lists and mappings in the document are nested.
-/

namespace LogTemplate.Json

open LogTemplate.Text

/-! ## Documents that a text keeps -/

mutual

/-- A document of which nothing is lost in a text: it has no floating-point numbers, no integer is
too long to be read, and no key comes twice in a mapping. -/
def IsExact : Document → Prop
  | .null | .bool _ | .text _ => True
  | .int n => (toString n.natAbs).length ≤ Numeral.digitLimit
  | .float _ => False
  | .list items => AreExact items
  | .mapping entries => (entries.map Prod.fst).Nodup ∧ HaveExact entries

/-- Documents of which nothing is lost in a text. -/
def AreExact : List Document → Prop
  | [] => True
  | item :: rest => IsExact item ∧ AreExact rest

/-- Entries of whose values nothing is lost in a text. -/
def HaveExact : List (Text × Document) → Prop
  | [] => True
  | (_, value) :: rest => IsExact value ∧ HaveExact rest

end

mutual

/-- A document with the entries of all its mappings sorted by key. -/
def sorted : Document → Document
  | .list items => .list (sortedItems items)
  | .mapping entries => .mapping (sortByKey (sortedEntries entries))
  | d => d

/-- The items of a list with all entries sorted by key. -/
def sortedItems : List Document → List Document
  | [] => []
  | item :: rest => sorted item :: sortedItems rest

/-- The entries of a mapping with all entries of their values sorted by key. -/
def sortedEntries : List (Text × Document) → List (Text × Document)
  | [] => []
  | (key, value) :: rest => (key, sorted value) :: sortedEntries rest

end

theorem areExact_iff {items : List Document} : AreExact items ↔ ∀ d ∈ items, IsExact d := by
  induction items with
  | nil => simp [AreExact]
  | cons d items ih => simp [AreExact, ih]

theorem haveExact_iff {entries : List (Text × Document)} :
    HaveExact entries ↔ ∀ e ∈ entries, IsExact e.2 := by
  induction entries with
  | nil => simp [HaveExact]
  | cons e entries ih => simp [HaveExact, ih]

/-- The text of an entry, with its key. -/
def writeEntry (style : Style) (entry : Text × Document) : Text × List CodePoint :=
  (entry.1, writeString style entry.1.toList ++ separator style ':' ++ write style entry.2)

theorem writeEntries_eq_map (style : Style) (entries : List (Text × Document)) :
    writeEntries style entries = entries.map (writeEntry style) := by
  induction entries with
  | nil => rfl
  | cons e entries ih => rw [writeEntries, ih, List.map_cons, writeEntry]

theorem sortedEntries_eq_map (entries : List (Text × Document)) :
    sortedEntries entries = entries.map fun e => (e.1, sorted e.2) := by
  induction entries with
  | nil => rfl
  | cons e entries ih => rw [sortedEntries, ih, List.map_cons]

theorem sortByKey_perm {α : Type} (entries : List (Text × α)) :
    (sortByKey entries).Perm entries :=
  List.mergeSort_perm entries _

theorem map_sortByKey {α β : Type} {f : Text × α → Text × β} (keeps : ∀ e, (f e).1 = e.1)
    (entries : List (Text × α)) : (sortByKey entries).map f = sortByKey (entries.map f) :=
  List.map_mergeSort fun a _ b _ => by rw [keeps a, keeps b]

/-- The style that differs from another one in that it leaves entries in their order. -/
def Style.inOrder (style : Style) : Style := { style with sortedKeys := false }

theorem writeString_inOrder (style : Style) (s : List CodePoint) :
    writeString style.inOrder s = writeString style s := rfl

theorem separator_inOrder (style : Style) (mark : CodePoint) :
    separator style.inOrder mark = separator style mark := rfl

theorem bracket_inOrder (style : Style) (opening closing : CodePoint)
    (parts : List (List CodePoint)) :
    bracket style.inOrder opening closing parts = bracket style opening closing parts := rfl

mutual

/-- To sort the entries while a document is written is to sort them before. -/
theorem write_of_sortedKeys {style : Style} (sorts : style.sortedKeys = true) :
    ∀ d : Document, write style d = write style.inOrder (sorted d)
  | .null | .bool _ | .int _ | .float _ | .text _ => rfl
  | .list items => by
    rw [sorted, write, write, writeItems_of_sortedKeys sorts items, bracket_inOrder]
  | .mapping entries => by
    have parts := writeEntries_of_sortedKeys sorts entries
    have sort := map_sortByKey (f := writeEntry style.inOrder) (fun _ => rfl)
      (sortedEntries entries)
    rw [sorted, write, write, writeEntries_eq_map style.inOrder, sort,
      ← writeEntries_eq_map style.inOrder, ← parts, bracket_inOrder]
    simp [sorts, Style.inOrder]

theorem writeItems_of_sortedKeys {style : Style} (sorts : style.sortedKeys = true) :
    ∀ items : List Document, writeItems style items = writeItems style.inOrder (sortedItems items)
  | [] => rfl
  | d :: items => by
    rw [sortedItems, writeItems, writeItems, write_of_sortedKeys sorts d,
      writeItems_of_sortedKeys sorts items]

theorem writeEntries_of_sortedKeys {style : Style} (sorts : style.sortedKeys = true) :
    ∀ entries : List (Text × Document),
      writeEntries style entries = writeEntries style.inOrder (sortedEntries entries)
  | [] => rfl
  | (key, value) :: entries => by
    rw [sortedEntries, writeEntries, writeEntries, write_of_sortedKeys sorts value,
      writeEntries_of_sortedKeys sorts entries, writeString_inOrder, separator_inOrder]

end

mutual

theorem isExact_sorted : ∀ {d : Document}, IsExact d → IsExact (sorted d)
  | .null, exact | .bool _, exact | .int _, exact | .float _, exact | .text _, exact => exact
  | .list _, exact => areExact_sortedItems exact
  | .mapping entries, ⟨distinct, exact⟩ => by
    have keys : (sortedEntries entries).map Prod.fst = entries.map Prod.fst := by
      rw [sortedEntries_eq_map, List.map_map]
      rfl
    have perm := sortByKey_perm (sortedEntries entries)
    refine ⟨?_, haveExact_iff.mpr fun e member => ?_⟩
    · rw [(perm.map Prod.fst).nodup_iff, keys]
      exact distinct
    · exact haveExact_iff.mp (haveExact_sortedEntries exact) e (perm.mem_iff.mp member)

theorem areExact_sortedItems : ∀ {items : List Document}, AreExact items →
    AreExact (sortedItems items)
  | [], _ => trivial
  | _ :: _, ⟨first, rest⟩ => ⟨isExact_sorted first, areExact_sortedItems rest⟩

theorem haveExact_sortedEntries : ∀ {entries : List (Text × Document)}, HaveExact entries →
    HaveExact (sortedEntries entries)
  | [], _ => trivial
  | _ :: _, ⟨first, rest⟩ => ⟨isExact_sorted first, haveExact_sortedEntries rest⟩

end

theorem itemTexts_eq_flatMap (items : List Document) :
    Document.itemTexts items = items.flatMap Document.texts := by
  induction items with
  | nil => rfl
  | cons d items ih => rw [Document.itemTexts, ih, List.flatMap_cons]

theorem entryTexts_eq_flatMap (entries : List (Text × Document)) :
    Document.entryTexts entries = entries.flatMap fun e => e.1 :: e.2.texts := by
  induction entries with
  | nil => rfl
  | cons e entries ih =>
    rw [Document.entryTexts, ih, List.flatMap_cons, List.cons_append]

mutual

/-- Sorting the entries of mappings brings no text into a document. -/
theorem texts_sorted_subset : ∀ d : Document, (sorted d).texts ⊆ d.texts
  | .null | .bool _ | .int _ | .float _ | .text _ => List.Subset.refl _
  | .list items => itemTexts_sortedItems_subset items
  | .mapping entries => by
    have perm := (sortByKey_perm (sortedEntries entries)).flatMap_right
      fun e : Text × Document => e.1 :: e.2.texts
    rw [← entryTexts_eq_flatMap, ← entryTexts_eq_flatMap] at perm
    exact List.Subset.trans perm.subset (entryTexts_sortedEntries_subset entries)

theorem itemTexts_sortedItems_subset : ∀ items : List Document,
    Document.itemTexts (sortedItems items) ⊆ Document.itemTexts items
  | [] => List.Subset.refl _
  | d :: items => List.append_subset.mpr
    ⟨List.subset_append_of_subset_left _ (texts_sorted_subset d),
      List.subset_append_of_subset_right _ (itemTexts_sortedItems_subset items)⟩

theorem entryTexts_sortedEntries_subset : ∀ entries : List (Text × Document),
    Document.entryTexts (sortedEntries entries) ⊆ Document.entryTexts entries
  | [] => List.Subset.refl _
  | (key, value) :: entries => List.cons_subset_cons key <| List.append_subset.mpr
    ⟨List.subset_append_of_subset_left _ (texts_sorted_subset value),
      List.subset_append_of_subset_right _ (entryTexts_sortedEntries_subset entries)⟩

end

/-! ## The characters of a text -/

/-- No control character stands in a text. -/
def IsPrinted (s : List CodePoint) : Prop := ∀ c ∈ s, 0x20 ≤ c.toNat

instance (s : List CodePoint) : Decidable (IsPrinted s) := List.decidableBAll _ s

theorem isPrinted_append {s t : List CodePoint} (first : IsPrinted s) (second : IsPrinted t) :
    IsPrinted (s ++ t) := by
  intro c member
  exact (List.mem_append.mp member).elim (first c) (second c)

theorem isPrinted_hexDigits (count n : Nat) : IsPrinted (hexDigits count n) := by
  have digit : ∀ v : Fin 16, 0x20 ≤ (hexDigit v).toNat := by decide
  induction count generalizing n with
  | zero => exact fun c member => absurd member (by simp [hexDigits])
  | succ count ih =>
    rw [hexDigits]
    refine isPrinted_append (ih _) fun c member => ?_
    rw [List.mem_singleton] at member
    rw [member]
    exact digit ⟨n % 16, Nat.mod_lt n (by decide)⟩

theorem isPrinted_codeEscape (n : Nat) : IsPrinted (codeEscape n) :=
  isPrinted_append (s := [.char '\\', .char 'u']) (by decide) (isPrinted_hexDigits 4 n)

theorem isPrinted_charEscape (c : CodePoint) : IsPrinted (charEscape c) := by
  rw [charEscape]
  split
  · exact isPrinted_codeEscape _
  · exact isPrinted_append (isPrinted_codeEscape _) (isPrinted_codeEscape _)

theorem isPrinted_writeChar (style : Style) (c : CodePoint) : IsPrinted (writeChar style c) := by
  unfold writeChar
  repeat' split
  · rename_i quoted
    rw [Bool.or_eq_true, decide_eq_true_eq, decide_eq_true_eq] at quoted
    rcases quoted with rfl | rfl <;> decide
  any_goals decide
  · exact isPrinted_charEscape c
  · exact isPrinted_charEscape c
  · rename_i printed _
    intro d member
    rw [List.mem_singleton] at member
    exact member ▸ Nat.le_of_not_lt printed

theorem isPrinted_writeString (style : Style) (s : List CodePoint) :
    IsPrinted (writeString style s) := by
  refine isPrinted_append (s := .char '"' :: _) ?_ (by decide)
  refine isPrinted_append (s := [.char '"']) (by decide) fun c member => ?_
  obtain ⟨d, _, written⟩ := List.mem_flatMap.mp member
  exact isPrinted_writeChar style d c written

theorem isPrinted_separator {style : Style} {mark : CodePoint} (printed : 0x20 ≤ mark.toNat) :
    IsPrinted (separator style mark) := by
  rw [separator]
  split <;> simp [IsPrinted, printed]

theorem isPrinted_bracket {style : Style} {opening closing : CodePoint}
    {parts : List (List CodePoint)}
    (outer : IsPrinted [opening, closing]) (inner : ∀ part ∈ parts, IsPrinted part) :
    IsPrinted (bracket style opening closing parts) := by
  refine isPrinted_append (s := opening :: _) (isPrinted_append (s := [opening]) ?_ ?_) ?_
  · exact fun c member => outer c (by simp_all)
  · intro c member
    rcases Text.mem_of_mem_intercalate member with here | ⟨part, known, inside⟩
    · exact isPrinted_separator (by decide) c here
    · exact inner part known c inside
  · exact fun c member => outer c (by simp_all)

theorem isPrinted_int (n : Int) : IsPrinted (Text.toList (toString n)) := by
  have digits : IsPrinted (Numeral.digitsOf n.natAbs) := by
    intro c member
    have digit := CodePoint.isDigit_iff_toNat.mp (Numeral.isDigit_of_mem_digitsOf member)
    omega
  have shown : Text.toList (toString n) = _ := Numeral.toList_decimal n
  rw [shown]
  split
  · exact isPrinted_append (s := [.char '-']) (by decide) digits
  · exact digits

mutual

/-- No control character stands in the text of a document. -/
theorem isPrinted_write (style : Style) : ∀ {d : Document}, IsExact d → IsPrinted (write style d)
  | .null, _ => by rw [write]; decide
  | .bool b, _ => by rw [write]; cases b <;> decide
  | .int n, _ => isPrinted_int n
  | .float _, exact => exact.elim
  | .text s, _ => isPrinted_writeString style s.toList
  | .list items, exact => isPrinted_bracket (by decide) (isPrinted_writeItems style exact)
  | .mapping entries, ⟨_, exact⟩ => by
    refine isPrinted_bracket (by decide) fun part member => ?_
    obtain ⟨written, known, rfl⟩ := List.mem_map.mp member
    split at known
    · exact isPrinted_writeEntries style exact written ((sortByKey_perm _).mem_iff.mp known)
    · exact isPrinted_writeEntries style exact written known

theorem isPrinted_writeItems (style : Style) : ∀ {items : List Document}, AreExact items →
    ∀ part ∈ writeItems style items, IsPrinted part
  | [], _, part, member => absurd member (by simp [writeItems])
  | d :: items, ⟨first, rest⟩, part, member => by
    rw [writeItems, List.mem_cons] at member
    rcases member with rfl | later
    · exact isPrinted_write style first
    · exact isPrinted_writeItems style rest part later

theorem isPrinted_writeEntries (style : Style) : ∀ {entries : List (Text × Document)},
    HaveExact entries → ∀ part ∈ writeEntries style entries, IsPrinted part.2
  | [], _, part, member => absurd member (by simp [writeEntries])
  | (key, value) :: entries, ⟨first, rest⟩, part, member => by
    rw [writeEntries, List.mem_cons] at member
    rcases member with rfl | later
    · exact isPrinted_append (isPrinted_append (isPrinted_writeString style key.toList)
        (isPrinted_separator (by decide))) (isPrinted_write style first)
    · exact isPrinted_writeEntries style rest part later

end

/-! ## Halves that stand alone -/

theorem isWhole_codeEscape (n : Nat) : isWhole (codeEscape n) = true :=
  isWhole_hexDigits 4 n

theorem isWhole_charEscape (c : CodePoint) : isWhole (charEscape c) = true := by
  rw [charEscape]
  split
  · exact isWhole_codeEscape _
  · rw [isWhole_append, isWhole_codeEscape, isWhole_codeEscape, Bool.and_self]

theorem isWhole_writeChar (style : Style) (c : CodePoint) :
    isWhole (writeChar style c) = (style.asciiOnly || c.isChar) := by
  cases c with
  | char c =>
    rw [CodePoint.isChar, Bool.or_true]
    unfold writeChar
    repeat' split
    any_goals rfl
    · exact isWhole_charEscape _
    · exact isWhole_charEscape _
  | lone half =>
    have beyond : ¬ (CodePoint.lone half).toNat < 0x20 := by simp only [CodePoint.toNat]; omega
    have far : 0x7F ≤ (CodePoint.lone half).toNat := by simp only [CodePoint.toNat]; omega
    have plain : writeChar style (.lone half) =
        if style.asciiOnly then charEscape (.lone half) else [.lone half] := by
      simp [writeChar, beyond, far]
    rw [plain]
    cases style.asciiOnly
    · rfl
    · exact isWhole_charEscape _

theorem isWhole_writeString (style : Style) (s : List CodePoint) :
    isWhole (writeString style s) = (style.asciiOnly || isWhole s) := by
  have inside : isWhole (s.flatMap (writeChar style)) = (style.asciiOnly || isWhole s) := by
    induction s with
    | nil => exact (Bool.or_true _).symm
    | cons c s ih =>
      have both : isWhole (c :: s) = (c.isChar && isWhole s) := rfl
      rw [List.flatMap_cons, isWhole_append, isWhole_writeChar, ih, both, Bool.or_and_distrib_left]
  rw [writeString, isWhole_append, ← inside]
  exact Bool.and_true _

theorem isWhole_intercalate {between : List CodePoint} (whole : isWhole between = true)
    (parts : List (List CodePoint)) :
    isWhole (between.intercalate parts) = parts.all isWhole := by
  induction parts with
  | nil => rfl
  | cons part parts ih =>
    cases parts with
    | nil => simp [List.intercalate]
    | cons next parts =>
      rw [List.intercalate_cons_cons, isWhole_append, isWhole_append, whole, ih, Bool.and_true,
        List.all_cons (l := next :: parts)]

theorem isWhole_separator (style : Style) (mark : Char) :
    isWhole (separator style mark) = true := by
  rw [separator]
  split <;> rfl

theorem isWhole_bracket (style : Style) (opening closing : Char) (parts : List (List CodePoint)) :
    isWhole (bracket style opening closing parts) = parts.all isWhole := by
  rw [bracket, isWhole_append, ← isWhole_intercalate (isWhole_separator style ',')]
  exact Bool.and_true _

mutual

/-- A half stands alone in the text of a document exactly if one does in the document, unless the
text is ASCII. -/
theorem isWhole_write (style : Style) :
    ∀ d : Document, isWhole (write style d) = (style.asciiOnly || d.isWhole)
  | .null | .int _ | .float _ => (isWhole_map_char _).trans (Bool.or_true _).symm
  | .bool b => by
    cases b <;> exact (isWhole_map_char _).trans (Bool.or_true _).symm
  | .text s => by
    rw [write, isWhole_writeString, Document.isWhole, Document.texts, List.all_cons, List.all_nil,
      Bool.and_true]
  | .list items => by
    rw [write, isWhole_bracket, isWhole_writeItems style items]
    rfl
  | .mapping entries => by
    rw [write, isWhole_bracket, List.all_map]
    refine Eq.trans ?_ (isWhole_writeEntries style entries)
    split
    · exact (sortByKey_perm _).all_eq
    · rfl

theorem isWhole_writeItems (style : Style) : ∀ items : List Document,
    (writeItems style items).all isWhole =
      (style.asciiOnly || (Document.itemTexts items).all (isWhole ·.toList))
  | [] => (Bool.or_true _).symm
  | d :: items => by
    rw [writeItems, List.all_cons, isWhole_write style d, isWhole_writeItems style items,
      ← Bool.or_and_distrib_left, Document.itemTexts, List.all_append, Document.isWhole]

theorem isWhole_writeEntries (style : Style) : ∀ entries : List (Text × Document),
    (writeEntries style entries).all (isWhole ·.2) =
      (style.asciiOnly || (Document.entryTexts entries).all (isWhole ·.toList))
  | [] => (Bool.or_true _).symm
  | (key, value) :: entries => by
    rw [writeEntries, List.all_cons, isWhole_append, isWhole_append, isWhole_writeString,
      isWhole_separator, Bool.and_true, isWhole_write style value,
      isWhole_writeEntries style entries, ← Bool.or_and_distrib_left, ← Bool.or_and_distrib_left,
      Document.entryTexts, List.cons_append, List.all_cons, List.all_append, Document.isWhole,
      Bool.and_assoc]

end

theorem isWhole_list (items : List Document) :
    (Document.list items).isWhole = items.all Document.isWhole := by
  rw [Document.isWhole, Document.texts, itemTexts_eq_flatMap, List.all_flatMap]
  rfl

theorem isWhole_mapping (entries : List (Text × Document)) :
    (Document.mapping entries).isWhole =
      entries.all fun e => isWhole e.1.toList && e.2.isWhole := by
  rw [Document.isWhole, Document.texts, entryTexts_eq_flatMap, List.all_flatMap]
  rfl

/-- Every style keeps a document in which no half stands alone. -/
theorem Style.keeps_of_isWhole (style : Style) {d : Document} (whole : d.isWhole = true) :
    style.Keeps d.texts :=
  fun _ s member => isUnjoined_of_isWhole (List.all_eq_true.mp whole s member)

/-! ## A text of the language -/

mutual

/-- What the text of a document asks of a reader. -/
def demandOf : Document → Demand
  | .int n => { integers := [Numeral.digitsOf n.natAbs] }
  | .list items => (demandOfItems items).nested
  | .mapping entries => (demandOfEntries entries).nested
  | _ => {}

/-- What the texts of the items of a list ask of a reader. -/
def demandOfItems : List Document → Demand
  | [] => {}
  | item :: rest => (demandOf item).join (demandOfItems rest)

/-- What the texts of the values of entries ask of a reader. -/
def demandOfEntries : List (Text × Document) → Demand
  | [] => {}
  | (_, value) :: rest => (demandOf value).join (demandOfEntries rest)

end

/-- How deep the lists and mappings of a document are nested. -/
def depth (d : Document) : Nat := (demandOf d).depth

theorem demandOfItems_eq_all (items : List Document) :
    demandOfItems items = .all (items.map demandOf) := by
  induction items with
  | nil => rfl
  | cons d items ih =>
    rw [demandOfItems, ih, List.map_cons, Demand.all, Demand.all, List.foldr_cons]

theorem demandOfEntries_eq_all (entries : List (Text × Document)) :
    demandOfEntries entries = .all (entries.map fun e => demandOf e.2) := by
  induction entries with
  | nil => rfl
  | cons e entries ih =>
    rw [demandOfEntries, ih, List.map_cons, Demand.all, Demand.all, List.foldr_cons]

/-- There is nothing inside the texts of a list. -/
theorem depth_texts (texts : List Text) : depth (.list (texts.map .text)) = 1 := by
  have flat : (demandOfItems (texts.map .text)).depth = 0 := by
    induction texts with
    | nil => rfl
    | cons text texts ih => exact (Nat.zero_max _).trans ih
  exact congrArg (· + 1) flat

/-- The order of texts has no part in how deep they are nested. -/
theorem Demand.depth_all_perm {l l' : List Demand} (perm : l.Perm l') :
    (all l).depth = (all l').depth := by
  induction perm with
  | nil => rfl
  | cons a _ ih => exact congrArg (max a.depth) ih
  | swap a b l => exact Nat.max_left_comm b.depth a.depth (all l).depth
  | trans _ _ first second => exact first.trans second

mutual

/-- Sorting the entries of mappings leaves them nested as they are. -/
theorem depth_sorted : ∀ d : Document, depth (sorted d) = depth d
  | .null | .bool _ | .int _ | .float _ | .text _ => rfl
  | .list items => congrArg (· + 1) (depth_sortedItems items)
  | .mapping entries => by
    have perm := (sortByKey_perm (sortedEntries entries)).map fun e => demandOf e.2
    have same := Demand.depth_all_perm perm
    rw [← demandOfEntries_eq_all, ← demandOfEntries_eq_all] at same
    exact congrArg (· + 1) (same.trans (depth_sortedEntries entries))

theorem depth_sortedItems : ∀ items : List Document,
    (demandOfItems (sortedItems items)).depth = (demandOfItems items).depth
  | [] => rfl
  | d :: items => congrArg₂ max (depth_sorted d) (depth_sortedItems items)

theorem depth_sortedEntries : ∀ entries : List (Text × Document),
    (demandOfEntries (sortedEntries entries)).depth = (demandOfEntries entries).depth
  | [] => rfl
  | (_, value) :: entries => congrArg₂ max (depth_sorted value) (depth_sortedEntries entries)

end

mutual

theorem areShort_demandOf : ∀ {d : Document}, IsExact d → AreShort (demandOf d).integers
  | .null, _ | .bool _, _ | .text _, _ => List.forall_mem_nil _
  | .int n, short => by
    intro digits member
    have few : (toString n.natAbs).length ≤ Numeral.digitLimit := short
    rw [List.mem_singleton.mp member, Numeral.length_digitsOf]
    exact few
  | .float _, exact => exact.elim
  | .list _, exact => areShort_demandOfItems exact
  | .mapping _, exact => areShort_demandOfEntries exact.2

theorem areShort_demandOfItems : ∀ {items : List Document}, AreExact items →
    AreShort (demandOfItems items).integers
  | [], _ => List.forall_mem_nil _
  | _ :: _, ⟨first, rest⟩ =>
    areShort_append.mpr ⟨areShort_demandOf first, areShort_demandOfItems rest⟩

theorem areShort_demandOfEntries : ∀ {entries : List (Text × Document)}, HaveExact entries →
    AreShort (demandOfEntries entries).integers
  | [], _ => List.forall_mem_nil _
  | _ :: _, ⟨first, rest⟩ =>
    areShort_append.mpr ⟨areShort_demandOf first, areShort_demandOfEntries rest⟩

end

/-- The space behind a mark. -/
def gap (style : Style) : List CodePoint := if style.isCompact then [] else [.char ' ']

theorem separator_eq (style : Style) (mark : CodePoint) :
    separator style mark = mark :: gap style := by
  rw [separator, gap]
  split <;> rfl

theorem areSpaces_gap (style : Style) : AreSpaces (gap style) := by
  rw [gap]
  split <;> simp [AreSpaces, isSpace]

section

variable {α β : Type}

/-- Things as they are written one after the other: there is space before all but the first. -/
def spread (style : Style) (make : List CodePoint → α → β) : List α → List β
  | [] => []
  | a :: l => make [] a :: l.map (make (gap style))

theorem map_spread {γ : Type} (style : Style) {make : List CodePoint → α → β} {f : β → γ}
    {g : α → γ}
    (same : ∀ before a, f (make before a) = g a) (l : List α) :
    (spread style make l).map f = l.map g := by
  cases l with
  | nil => rfl
  | cons a l =>
    rw [spread, List.map_cons, List.map_map, List.map_cons, same]
    exact congrArg _ (List.map_congr_left fun b _ => same _ b)

theorem spread_eq_nil_iff {style : Style} {make : List CodePoint → α → β} {l : List α} :
    spread style make l = [] ↔ l = [] := by
  cases l <;> simp [spread]

theorem exists_of_mem_spread {style : Style} {make : List CodePoint → α → β} {l : List α} {b : β}
    (member : b ∈ spread style make l) :
    ∃ before, AreSpaces before ∧ ∃ a ∈ l, b = make before a := by
  cases l with
  | nil => cases member
  | cons a l =>
    rcases List.mem_cons.mp member with rfl | later
    · exact ⟨[], List.forall_mem_nil _, a, List.mem_cons_self, rfl⟩
    · obtain ⟨c, known, rfl⟩ := List.mem_map.mp later
      exact ⟨gap style, areSpaces_gap style, c, List.mem_cons_of_mem a known, rfl⟩

/-- With commas between them, things are as long as their bodies with separators between them. -/
theorem listed_spread {style : Style} {make : List CodePoint → α → β} {text : β → List CodePoint}
    {body : α → List CodePoint} (written : ∀ before a, text (make before a) = before ++ body a)
    (l : List α) :
    listed text (spread style make l) = (separator style ',').intercalate (l.map body) := by
  have behind : ∀ before a (l : List α), listed text (make before a :: l.map (make (gap style))) =
      before ++ (separator style ',').intercalate ((a :: l).map body) := by
    intro before a l
    induction l generalizing before a with
    | nil => rw [List.map_nil, listed_singleton, written, List.map_singleton,
        List.intercalate_singleton]
    | cons b l ih =>
      have joined : (separator style ',').intercalate ((a :: b :: l).map body) =
          body a ++ (separator style ',' ++
            (separator style ',').intercalate ((b :: l).map body)) := by
        rw [List.map_cons, List.map_cons, List.intercalate_cons_cons, List.append_assoc]
      rw [List.map_cons, listed_cons_cons, ih, written, joined, separator_eq]
      simp
  cases l with
  | nil => rfl
  | cons a l => exact behind [] a l

end

/-- A document as it is written behind white space. -/
def itemOf (style : Style) (before : List CodePoint) (d : Document) : Item :=
  ⟨⟨before, write style d, []⟩, d, demandOf d⟩

/-- An entry as it is written behind white space. -/
def memberOf (style : Style) (before : List CodePoint) (entry : Text × Document) : Member :=
  ⟨⟨before, writeString style entry.1.toList, []⟩, entry.1, itemOf style (gap style) entry.2⟩

theorem document_itemOf (style : Style) (before : List CodePoint) (d : Document) :
    (itemOf style before d).document = d := rfl

theorem demand_itemOf (style : Style) (before : List CodePoint) (d : Document) :
    (itemOf style before d).demand = demandOf d := rfl

theorem entry_memberOf (style : Style) (before : List CodePoint) (entry : Text × Document) :
    (memberOf style before entry).entry = entry := rfl

theorem demand_memberOf (style : Style) (before : List CodePoint) (entry : Text × Document) :
    (memberOf style before entry).demand = demandOf entry.2 := rfl

theorem text_itemOf (style : Style) (before : List CodePoint) (d : Document) :
    (itemOf style before d).text = before ++ write style d := by
  simp [Item.text, itemOf, Piece.text]

theorem text_memberOf (style : Style) (before : List CodePoint) (entry : Text × Document) :
    (memberOf style before entry).text = before ++ (writeEntry style entry).2 := by
  simp [Member.text, memberOf, text_itemOf, Piece.text, writeEntry, separator_eq]

theorem writeItems_eq_map (style : Style) (items : List Document) :
    writeItems style items = items.map (write style) := by
  induction items with
  | nil => rfl
  | cons d items ih => rw [writeItems, ih, List.map_cons]

theorem denotes_list {style : Style} {items : List Document}
    (each : ∀ d ∈ items, Denotes (write style d) d (demandOf d)) :
    Denotes (write style (.list items)) (.list items) (demandOf (.list items)) := by
  cases written : spread style (itemOf style) items with
  | nil =>
    obtain rfl := spread_eq_nil_iff.mp written
    exact .noItems (List.forall_mem_nil _)
  | cons first others =>
    have text : write style (.list items) =
        .char '[' :: (listed Item.text (first :: others) ++ [.char ']']) := by
      rw [← written, write, bracket, listed_spread (text_itemOf style), writeItems_eq_map,
        List.cons_append]
    have documents : (first :: others).map Item.document = items := by
      rw [← written, map_spread style (document_itemOf style), List.map_id']
    have demand : (Demand.all ((first :: others).map Item.demand)).nested =
        demandOf (.list items) := by
      rw [← written, map_spread style (demand_itemOf style), demandOf, demandOfItems_eq_all]
    have known : ∀ item ∈ first :: others,
        item.piece.IsSpaced ∧ Denotes item.piece.body item.document item.demand := by
      intro item member
      rw [← written] at member
      obtain ⟨before, spaces, d, here, rfl⟩ := exists_of_mem_spread member
      exact ⟨⟨spaces, List.forall_mem_nil _⟩, each d here⟩
    have whole := Denotes.list (List.cons_ne_nil first others) (fun item member =>
      (known item member).1) fun item member => (known item member).2
    rwa [documents, demand, ← text] at whole

theorem denotes_mapping {style : Style} (ordered : style.sortedKeys = false)
    {entries : List (Text × Document)} (distinct : (entries.map Prod.fst).Nodup)
    (keeps : ∀ e ∈ entries, style.Keeps [e.1])
    (each : ∀ e ∈ entries, Denotes (write style e.2) e.2 (demandOf e.2)) :
    Denotes (write style (.mapping entries)) (.mapping entries) (demandOf (.mapping entries)) := by
  have text : write style (.mapping entries) =
      .char '\x7b' ::
        (listed Member.text (spread style (memberOf style) entries) ++ [.char '\x7d']) := by
    rw [write, ordered, if_neg (by decide), bracket, writeEntries_eq_map, List.map_map,
      listed_spread (text_memberOf style), List.cons_append]
    rfl
  cases written : spread style (memberOf style) entries with
  | nil =>
    obtain rfl := spread_eq_nil_iff.mp written
    rw [text]
    exact .noEntries (List.forall_mem_nil _)
  | cons first others =>
    have pairs : (OrderedMap.ofList ((first :: others).map Member.entry)).entries = entries := by
      rw [← written, map_spread style (entry_memberOf style), List.map_id',
        OrderedMap.entries_ofList distinct]
    have demand : (Demand.all ((first :: others).map Member.demand)).nested =
        demandOf (.mapping entries) := by
      rw [← written, map_spread style (demand_memberOf style), demandOf, demandOfEntries_eq_all]
    have known : ∀ m ∈ first :: others, (m.name.IsSpaced ∧ m.value.piece.IsSpaced)
        ∧ SpellsString m.name.body m.key
        ∧ Denotes m.value.piece.body m.value.document m.value.demand := by
      intro m member
      rw [← written] at member
      obtain ⟨before, spaces, e, here, rfl⟩ := exists_of_mem_spread member
      exact ⟨⟨⟨spaces, List.forall_mem_nil _⟩, areSpaces_gap style, List.forall_mem_nil _⟩,
        spellsString_write (keeps e here), each e here⟩
    have whole := Denotes.mapping (List.cons_ne_nil first others)
      (fun m member => (known m member).1) (fun m member => (known m member).2.1)
      fun m member => (known m member).2.2
    rwa [pairs, demand, ← written, ← text] at whole

mutual

/-- The text of a document is a text of it in the language, if it keeps the order of entries. -/
theorem denotes_write {style : Style} (ordered : style.sortedKeys = false) :
    ∀ {d : Document}, IsExact d → style.Keeps d.texts → Denotes (write style d) d (demandOf d)
  | .null, _, _ => .word (by simp [words, write])
  | .bool b, _, _ => by cases b <;> exact .word (by simp [words, write])
  | .int n, _, _ => by
    have number := Denotes.number (.ofInt n)
    rwa [Number.text_ofInt, Number.document_ofInt, Number.demand_ofInt] at number
  | .float _, exact, _ => exact.elim
  | .text _, _, keeps => .text (spellsString_write keeps)
  | .list _, exact, keeps => denotes_list (denotes_writeItems ordered exact keeps)
  | .mapping entries, ⟨distinct, exact⟩, keeps => by
    refine denotes_mapping ordered distinct (fun e member => keeps.of_subset ?_)
      (denotes_writeEntries ordered exact keeps)
    intro key same
    rw [Document.texts, entryTexts_eq_flatMap, List.mem_flatMap]
    exact ⟨e, member, List.mem_singleton.mp same ▸ List.mem_cons_self⟩

theorem denotes_writeItems {style : Style} (ordered : style.sortedKeys = false) :
    ∀ {items : List Document}, AreExact items → style.Keeps (Document.itemTexts items) →
      ∀ d ∈ items, Denotes (write style d) d (demandOf d)
  | [], _, _ => List.forall_mem_nil _
  | _ :: _, ⟨first, rest⟩, keeps => List.forall_mem_cons.mpr
    ⟨denotes_write ordered first (keeps.of_subset (List.subset_append_left _ _)),
      denotes_writeItems ordered rest (keeps.of_subset (List.subset_append_right _ _))⟩

theorem denotes_writeEntries {style : Style} (ordered : style.sortedKeys = false) :
    ∀ {entries : List (Text × Document)}, HaveExact entries →
      style.Keeps (Document.entryTexts entries) →
      ∀ e ∈ entries, Denotes (write style e.2) e.2 (demandOf e.2)
  | [], _, _ => List.forall_mem_nil _
  | (key, _) :: _, ⟨first, rest⟩, keeps => by
    have values := keeps.of_subset (List.subset_cons_self key _)
    exact List.forall_mem_cons.mpr
      ⟨denotes_write ordered first (values.of_subset (List.subset_append_left _ _)),
        denotes_writeEntries ordered rest (values.of_subset (List.subset_append_right _ _))⟩

end

/-- The document as which the text of another one is read. -/
def readBack (style : Style) (d : Document) : Document :=
  if style.sortedKeys then sorted d else d

theorem write_eq_inOrder (style : Style) (d : Document) :
    write style d = write style.inOrder (readBack style d) := by
  rw [readBack]
  split
  · exact write_of_sortedKeys (by assumption) d
  · cases style
    simp_all [Style.inOrder]

theorem isExact_readBack {style : Style} {d : Document} (exact : IsExact d) :
    IsExact (readBack style d) := by
  rw [readBack]
  split
  · exact isExact_sorted exact
  · exact exact

theorem texts_readBack_subset (style : Style) (d : Document) :
    (readBack style d).texts ⊆ d.texts := by
  rw [readBack]
  split
  · exact texts_sorted_subset d
  · exact List.Subset.refl _

theorem depth_readBack (style : Style) (d : Document) : depth (readBack style d) = depth d := by
  rw [readBack]
  split
  · exact depth_sorted d
  · rfl

/-- The text of a document, in whatever style, is a text of the document as which it is read. -/
theorem denotes_write_readBack {style : Style} {d : Document} (exact : IsExact d)
    (keeps : style.Keeps d.texts) :
    Denotes (write style d) (readBack style d) (demandOf (readBack style d)) := by
  have kept : style.inOrder.Keeps (readBack style d).texts :=
    keeps.of_subset (texts_readBack_subset style d)
  rw [write_eq_inOrder]
  exact denotes_write rfl (isExact_readBack exact) kept

theorem exists_start_write {style : Style} {d : Document} (exact : IsExact d)
    (keeps : style.Keeps d.texts) : ∃ c more, write style d = c :: more ∧ IsStart c :=
  exists_start_of_denotes (denotes_write_readBack exact keeps)

/-- Nothing of a document is lost in a text, and the text is not nested too deep to be read. -/
structure IsKept [Nesting] (d : Document) : Prop where
  exact : IsExact d
  shallow : depth d ≤ Nesting.json

/-- A document is read back from its text, with white space behind it or not, if the reader goes
deep enough. -/
theorem readWithin_write {style : Style} {d : Document} (exact : IsExact d)
    (keeps : style.Keeps d.texts) {limit : Nat} (shallow : depth d ≤ limit) {blank : List CodePoint}
    (blanks : ∀ c ∈ blank, isSpace c = true) :
    readWithin limit (write style d ++ blank) = .ok (readBack style d) := by
  have met : (demandOf (readBack style d)).IsMet limit :=
    ⟨areShort_demandOf (isExact_readBack exact), (depth_readBack style d).trans_le shallow⟩
  have isText : IsTextOf (write style d ++ blank) (readBack style d)
      (demandOf (readBack style d)) :=
    ⟨⟨[], write style d, blank⟩, ⟨List.forall_mem_nil _, blanks⟩, rfl,
      denotes_write_readBack exact keeps⟩
  rcases readWithin_of_isTextOf isText limit with ⟨read, -⟩ | ⟨unmet, -⟩
  · exact read
  · exact absurd met unmet

theorem read_write [Nesting] {style : Style} {d : Document} (kept : IsKept d)
    (keeps : style.Keeps d.texts) {blank : List CodePoint}
    (blanks : ∀ c ∈ blank, isSpace c = true) :
    read (write style d ++ blank) = .ok (readBack style d) :=
  readWithin_write kept.exact keeps kept.shallow blanks

end LogTemplate.Json
