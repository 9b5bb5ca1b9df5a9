import LogTemplate.Proofs.Field.Bounds

/-!
# What the body of a field spells

A body spells a field: the name of a kind, bounds between parentheses or none, a colon and the name
of the field.  Main statements: a body is read exactly if it spells a field, or does so up to a line
feed at its end; and a well-formed field is spelt by its own written form.
-/

namespace LogTemplate.Field

open Text

/-- A body spells a field, with no character left over. -/
inductive BodySpells : List CodePoint → Field → Prop
  | plain {kind : Kind} {name : List CodePoint} : isName name = true →
      BodySpells (kind.name.toList ++ .char ':' :: name) ⟨kind, Text.ofList name, {}⟩
  | bounded {kind : Kind} {name text : List CodePoint} {bounds : Bounds} : isName name = true →
      bounds.TextSpells kind text →
      BodySpells (kind.name.toList ++ .char '(' :: (text ++ .char ')' :: .char ':' :: name))
        ⟨kind, Text.ofList name, bounds⟩

/-- A body is accepted if it spells a field, or if it does before a line feed. -/
def BodyAccepted (body : List CodePoint) (f : Field) : Prop :=
  BodySpells body f ∨ ∃ line, body = line ++ [.char '\n'] ∧ BodySpells line f

/-! ## Names -/

theorem isNameChar_of_isNameStart {c : CodePoint} (start : isNameStart c = true) :
    isNameChar c = true := by
  simp only [isNameStart, Bool.or_eq_true] at start
  rcases start with letter | underscore
  · simp [isNameChar, CodePoint.isAlphanum_of_isAlpha letter]
  · simp [isNameChar, underscore]

theorem isNameChar_of_isName {name : List CodePoint} (isName : isName name = true) :
    ∀ c ∈ name, isNameChar c = true := by
  cases name with
  | nil => simp
  | cons first rest =>
    simp only [Field.isName, Bool.and_eq_true, List.all_eq_true] at isName
    intro c member
    rcases List.mem_cons.mp member with rfl | inRest
    · exact isNameChar_of_isNameStart isName.1
    · exact isName.2 c inRest

/-- A name is found at the end of a text, or before a line feed that ends it. -/
theorem nameAtEnd?_eq_some_iff {s name : List CodePoint} :
    nameAtEnd? s = some name ↔ isName name = true ∧ (s = name ∨ s = name ++ [.char '\n']) := by
  constructor
  · intro found
    simp only [nameAtEnd?, Bool.and_eq_true, Bool.or_eq_true, List.isEmpty_iff, beq_iff_eq] at found
    split at found
    · rename_i ended
      obtain rfl := Option.some.inj found
      have whole := List.takeWhile_append_dropWhile (p := isNameChar) (l := s)
      refine ⟨ended.1, ?_⟩
      rcases ended.2 with nothing | feed
      · rw [nothing, List.append_nil] at whole
        exact .inl whole.symm
      · rw [feed] at whole
        exact .inr whole.symm
    · cases found
  · rintro ⟨named, ending⟩
    have inside := isNameChar_of_isName named
    have stops : ∀ c ∈ [.char '\n'].head?, isNameChar c = false := by
      rintro c ⟨⟩
      decide
    have taken : s.takeWhile isNameChar = name := by
      rcases ending with rfl | rfl
      · exact List.takeWhile_eq_self_iff.mpr inside
      · exact takeWhile_append_of_stops inside stops
    have dropped : s.dropWhile isNameChar = [] ∨ s.dropWhile isNameChar = [.char '\n'] := by
      rcases ending with rfl | rfl
      · exact .inl (List.dropWhile_eq_nil_iff.mpr inside)
      · exact .inr (dropWhile_append_of_stops inside stops)
    rcases dropped with nothing | feed
    · simp [nameAtEnd?, taken, nothing, named]
    · simp [nameAtEnd?, taken, feed, named]

/-! ## The parts of a body -/

/-- The text of a body in front of the name. -/
def Parts.opening (parts : Parts) : List CodePoint :=
  match parts.bounds with
  | none => parts.kind ++ [.char ':']
  | some inside => parts.kind ++ .char '(' :: (inside ++ [.char ')', .char ':'])

/-- The text of the parts of a body. -/
def Parts.text (parts : Parts) : List CodePoint := parts.opening ++ parts.name

theorem Parts.text_plain (kind name : List CodePoint) :
    Parts.text ⟨kind, none, name⟩ = kind ++ .char ':' :: name := by
  simp [text, opening]

theorem Parts.text_bounded (kind inside name : List CodePoint) :
    Parts.text ⟨kind, some inside, name⟩ =
      kind ++ .char '(' :: (inside ++ .char ')' :: .char ':' :: name) := by
  simp [text, opening]

/-- Parts that can be told apart: a kind of letters and digits, no parentheses between the
parentheses, and a name. -/
def Parts.Distinct (parts : Parts) : Prop :=
  parts.kind ≠ [] ∧ (∀ c ∈ parts.kind, c.isAlphanum = true) ∧ isName parts.name = true
    ∧ ∀ inside ∈ parts.bounds, ∀ c ∈ inside, c ≠ '(' ∧ c ≠ ')'

/-- Whatever is found to be the parts of a body is the body, up to a line feed at its end. -/
theorem text_of_parts? {body : List CodePoint} {parts : Parts} (found : parts? body = some parts) :
    parts.Distinct ∧ (body = parts.text ∨ body = parts.text ++ [.char '\n']) := by
  have whole := List.takeWhile_append_dropWhile (p := CodePoint.isAlphanum) (l := body)
  have alphanumeric : ∀ c ∈ body.takeWhile CodePoint.isAlphanum, c.isAlphanum = true :=
    fun c member => mem_takeWhile member
  unfold parts? at found
  dsimp only at found
  split at found
  · cases found
  rename_i kind
  rw [List.isEmpty_iff] at kind
  split at found
  · rename_i rest cut
    obtain ⟨name, ended, rfl⟩ := Option.map_eq_some_iff.mp found
    obtain ⟨named, ending⟩ := nameAtEnd?_eq_some_iff.mp ended
    have shape : body = body.takeWhile CodePoint.isAlphanum ++ .char ':' :: rest := by
      rw [← cut, whole]
    refine ⟨⟨kind, alphanumeric, named, by simp⟩, ?_⟩
    rcases ending with rfl | rfl
    · exact .inl (shape.trans (Parts.text_plain _ _).symm)
    · refine .inr (shape.trans ?_)
      simp [Parts.text_plain]
  · rename_i rest cut
    split at found
    · rename_i after closed
      obtain ⟨name, ended, rfl⟩ := Option.map_eq_some_iff.mp found
      obtain ⟨named, ending⟩ := nameAtEnd?_eq_some_iff.mp ended
      have inner :=
        List.takeWhile_append_dropWhile (p := fun (c : CodePoint) => !(c == '(' || c == ')'))
        (l := rest)
      have shape : body = body.takeWhile CodePoint.isAlphanum
          ++ .char '(' :: (rest.takeWhile (fun (c : CodePoint) => !(c == '(' || c == ')'))
            ++ .char ')' :: .char ':' :: after) := by
        rw [← closed, inner, ← cut, whole]
      refine ⟨⟨kind, alphanumeric, named, ?_⟩, ?_⟩
      · intro inside same c member
        obtain rfl := Option.some.inj same
        simpa using mem_takeWhile member
      · rcases ending with rfl | rfl
        · exact .inl (shape.trans (Parts.text_bounded _ _ _).symm)
        · refine .inr (shape.trans ?_)
          simp [Parts.text_bounded]
    · cases found
  · cases found

/-- Parts that can be told apart are found, also before a line feed. -/
theorem parts?_of_text {body : List CodePoint} {parts : Parts} (distinct : parts.Distinct)
    (same : body = parts.text ∨ body = parts.text ++ [.char '\n']) : parts? body = some parts := by
  obtain ⟨kind, bounds, name⟩ := parts
  obtain ⟨filled, alphanumeric, named, inside⟩ := distinct
  have kindFilled : kind.isEmpty = false := by simpa using filled
  have ended : ∃ after, nameAtEnd? after = some name
      ∧ body = Parts.opening ⟨kind, bounds, name⟩ ++ after := by
    rcases same with rfl | rfl
    · exact ⟨name, nameAtEnd?_eq_some_iff.mpr ⟨named, .inl rfl⟩, rfl⟩
    · refine ⟨name ++ [.char '\n'], nameAtEnd?_eq_some_iff.mpr ⟨named, .inr rfl⟩, ?_⟩
      rw [Parts.text, List.append_assoc]
  obtain ⟨after, found, rfl⟩ := ended
  cases bounds with
  | none =>
    have stops : ∀ c ∈ (.char ':' :: after).head?, c.isAlphanum = false := by
      rintro c ⟨⟩
      rfl
    simp [parts?, Parts.opening, takeWhile_append_of_stops alphanumeric stops,
      dropWhile_append_of_stops alphanumeric stops, kindFilled, found]
  | some text =>
    have stops : ∀ c ∈ (.char '(' :: (text ++ .char ')' :: .char ':' :: after)).head?,
        c.isAlphanum = false := by
      rintro c ⟨⟩
      rfl
    have within : ∀ c ∈ text, (fun (c : CodePoint) => !(c == '(' || c == ')')) c = true := by
      intro c member
      simpa using inside text rfl c member
    have closes : ∀ c ∈ (.char ')' :: .char ':' :: after).head?,
        (fun (c : CodePoint) => !(c == '(' || c == ')')) c = false := by
      simp
    simp only [parts?, Parts.opening, List.append_assoc, List.cons_append, List.nil_append,
      takeWhile_append_of_stops alphanumeric stops,
      dropWhile_append_of_stops alphanumeric stops, kindFilled,
      takeWhile_append_of_stops within closes, dropWhile_append_of_stops within closes, found]
    rfl

/-! ## The whole body -/

theorem ofName?_eq_some_iff {name : List CodePoint} {kind : Kind} :
    Kind.ofName? (Text.ofList name) = some kind ↔ name = kind.name.toList :=
  Bounds.find?_name_eq_some_iff Kind.ofName?_name

theorem kindName_plain (kind : Kind) :
    kind.name.toList ≠ [] ∧ ∀ c ∈ kind.name.toList, c.isAlphanum = true ∧ c ≠ '@' := by
  cases kind <;> exact ⟨by decide, forall_mem_of_all (by decide)⟩

/-- A body is read exactly if it is accepted, and as the field that it spells. -/
theorem read_eq_ok_iff {body : List CodePoint} {f : Field} :
    read body = .ok f ↔ BodyAccepted body f := by
  constructor
  · intro success
    unfold read at success
    split at success
    · cases success
    rename_i parts found
    split at success
    · cases success
    rename_i kind kindFound
    obtain ⟨⟨-, -, named, -⟩, same⟩ := text_of_parts? found
    obtain ⟨kindName, inside, name⟩ := parts
    obtain rfl := ofName?_eq_some_iff.mp kindFound
    have spelt : BodySpells (Parts.text ⟨kind.name.toList, inside, name⟩) f := by
      cases inside with
      | none =>
        cases success
        rw [Parts.text_plain]
        exact .plain named
      | some text =>
        obtain ⟨bounds, read, made⟩ := bind_eq_ok_iff.mp success
        cases made
        rw [Parts.text_bounded]
        exact .bounded named (Bounds.readBounds_eq_ok_iff.mp read)
    rcases same with rfl | rfl
    · exact .inl spelt
    · exact .inr ⟨_, rfl, spelt⟩
  · intro accepted
    have reads : ∀ line, BodySpells line f → (body = line ∨ body = line ++ [.char '\n']) →
        read body = .ok f := by
      intro line spelt same
      cases spelt with
      | @plain kind name named =>
        have plain := kindName_plain kind
        rw [← Parts.text_plain] at same
        have found : parts? body = some ⟨kind.name.toList, none, name⟩ :=
          parts?_of_text ⟨plain.1, fun c member => (plain.2 c member).1, named, by simp⟩ same
        simp only [read, found, Text.ofList_toList, Kind.ofName?_name]
        rfl
      | @bounded kind name text bounds named spelt =>
        have plain := kindName_plain kind
        rw [← Parts.text_bounded] at same
        have found : parts? body = some ⟨kind.name.toList, some text, name⟩ := by
          refine parts?_of_text ⟨plain.1, fun c member => (plain.2 c member).1, named, ?_⟩ same
          intro inside equal c member
          obtain rfl := Option.some.inj equal
          have sign := Bounds.not_mem_of_textSpells spelt c member
          simp only [List.mem_cons, not_or] at sign
          exact ⟨sign.1, sign.2.1⟩
        simp only [read, found, Text.ofList_toList, Kind.ofName?_name,
          Bounds.readBounds_eq_ok_iff.mpr spelt]
        rfl
    rcases accepted with spelt | ⟨line, rfl, spelt⟩
    · exact reads body spelt (.inl rfl)
    · exact reads line spelt (.inr rfl)

/-! ## What a spelt field is like -/

theorem isName_ne_nil {name : List CodePoint} (named : isName name = true) : name ≠ [] := by
  rintro rfl
  cases named

/-- The signs around a body and a line feed are no part of a name. -/
theorem name_plain {name : List CodePoint} (named : isName name = true) :
    ∀ c ∈ name, c ∉ [.char '@', .char '\n'] := by
  intro c member sign
  have inName := isNameChar_of_isName named c member
  revert inName
  have outside : ∀ c ∈ [.char '@', .char '\n'], ¬ isNameChar c = true :=
    forall_mem_of_all (by decide)
  exact outside c sign

theorem at_not_mem_of_bodySpells {body : List CodePoint} {f : Field} (spelt : BodySpells body f) :
    .char '@' ∉ body := by
  have inKind : ∀ kind : Kind, .char '@' ∉ kind.name.toList := fun kind member =>
    ((kindName_plain kind).2 '@' member).2 rfl
  cases spelt with
  | @plain kind name named =>
    have inName : .char '@' ∉ name := fun member => name_plain named '@' member (by simp)
    simp [inKind kind, inName]
  | @bounded kind name text bounds named spelt =>
    have inName : .char '@' ∉ name := fun member => name_plain named '@' member (by simp)
    have inText : .char '@' ∉ text := fun member =>
      Bounds.not_mem_of_textSpells spelt '@' member (by simp)
    simp [inKind kind, inName, inText]

/-- A body that spells a field ends with the last character of a name. -/
theorem getLast?_of_bodySpells {body : List CodePoint} {f : Field} (spelt : BodySpells body f) :
    body.getLast? ≠ some (.char '\n') := by
  have key : ∀ (front name : List CodePoint), isName name = true →
      (front ++ name).getLast? ≠ some (.char '\n') := by
    intro front name named last
    rw [List.getLast?_append_of_ne_nil _ (isName_ne_nil named)] at last
    exact name_plain named '\n' (List.mem_of_getLast? last) (by simp)
  cases spelt with
  | @plain kind name named =>
    have last := key (kind.name.toList ++ [.char ':']) name named
    simpa using last
  | @bounded kind name text bounds named spelt =>
    have last := key (kind.name.toList ++ .char '(' :: (text ++ [.char ')', .char ':'])) name named
    simpa using last

/-- A body is accepted as one field only. -/
theorem bodyAccepted_unique {body : List CodePoint} {f g : Field} (accepted : BodyAccepted body f)
    (other : BodyAccepted body g) : f = g := by
  rw [← read_eq_ok_iff] at accepted other
  rw [accepted] at other
  exact Except.ok.inj other

theorem bodySpells_unique (body : List CodePoint) (f g : Field) (spelt : BodySpells body f)
    (other : BodySpells body g) : f = g :=
  bodyAccepted_unique (.inl spelt) (.inl other)

theorem at_not_mem_of_bodyAccepted {body : List CodePoint} {f : Field}
    (accepted : BodyAccepted body f) : .char '@' ∉ body := by
  rcases accepted with spelt | ⟨line, rfl, spelt⟩
  · exact at_not_mem_of_bodySpells spelt
  · simp [at_not_mem_of_bodySpells spelt]

theorem ne_nil_of_bodySpells {body : List CodePoint} {f : Field} (spelt : BodySpells body f) :
    body ≠ [] := by
  cases spelt <;> simp

theorem ne_nil_of_bodyAccepted {body : List CodePoint} {f : Field}
    (accepted : BodyAccepted body f) :
    body ≠ [] := by
  rcases accepted with spelt | ⟨line, rfl, -⟩
  · exact ne_nil_of_bodySpells spelt
  · simp

theorem wellFormed_of_bodySpells {body : List CodePoint} {f : Field} (spelt : BodySpells body f) :
    f.wellFormed = true := by
  cases spelt with
  | @plain kind name named =>
    simp only [wellFormed, named, Bool.true_and]
    rfl
  | @bounded kind name text bounds named spelt =>
    obtain ⟨fits, uncrossed, short⟩ := Bounds.wellFormed_of_textSpells spelt
    simp [wellFormed, named, fits, uncrossed, short]

/-- The body of the written form of a field. -/
def body (f : Field) : List CodePoint :=
  f.kind.name.toList ++ f.bounds.render ++ .char ':' :: f.name.toList

theorem render_eq (f : Field) : f.render = .char '@' :: (f.body ++ [.char '@']) := by
  simp [render, body]

/-- A well-formed field is spelt by its written form. -/
theorem bodySpells_body {f : Field} (formed : f.wellFormed = true) : BodySpells f.body f := by
  obtain ⟨kind, name, bounds⟩ := f
  simp only [wellFormed, Bool.and_eq_true] at formed
  obtain ⟨⟨⟨named, fits⟩, uncrossed⟩, short⟩ := formed
  by_cases none : bounds.entries = []
  · obtain rfl := Bounds.eq_empty_of_entries none
    have spelt : BodySpells (kind.name.toList ++ .char ':' :: name.toList)
        ⟨kind, Text.ofList name.toList, {}⟩ := .plain named
    rw [Text.ofList_toList] at spelt
    simpa [body, Bounds.render, none] using spelt
  · have spelt := BodySpells.bounded named (Bounds.textSpells_entries none fits uncrossed short)
    rw [Text.ofList_toList] at spelt
    simpa [body, Bounds.render, none] using spelt

end LogTemplate.Field
