import LogTemplate.Proofs.Library.Origin
import LogTemplate.Proofs.Record.Fault
import LogTemplate.Proofs.Uuid.Shape

/-!
# UUIDs of records

A record gives its UUID as a text.  Main statement: canonical forms are taken, and stand for the
UUID that is written as they are but for the case of letters; every other text is refused and
reported as a missing UUID.
-/

namespace LogTemplate

namespace Record

/-- Nothing but a canonical form is read as a UUID. -/
theorem exists_readUuid_iff {s : Text} :
    (∃ u, readUuid (.text s) = .ok u) ↔ Uuid.IsCanonical s.toList := by
  simp only [readUuid_eq_ok_iff, Document.text.injEq, exists_eq_left', Uuid.exists_isWrittenAs_iff]

/-- The UUID that is read from a text is written as the text is, in lower case. -/
theorem text_of_isWrittenAs {u : Uuid} {s : Text} (written : u.isWrittenAs s.toList = true) :
    u.text = Text.ofList (Text.lowercaseAscii s.toList) := by
  rw [Uuid.text, beq_iff_eq.mp written]

/-- What is wrong with a UUID is reported as if the UUID were missing. -/
theorem Member.kind_of_fault?_uuid {value : Document} {cause : Diagnostic.Cause}
    (fault : Member.uuid.fault? value = some cause) : cause.kind = .missingField := by
  rw [fault?] at fault
  split at fault
  · cases fault
    rfl
  · obtain ⟨refusal, refused, rfl⟩ := Option.map_eq_some_iff.mp fault
    have member := member_of_refusal? refused
    cases refusal with
    | uuidNotText | uuidUnreadable | uuidNotCanonical => rfl
    | _ => cases member

/-- Each member of a record is reported once at most, for what is wrong with it by itself. -/
theorem filter_field_read (index : Nat) (entries : List (Text × Document)) (m : Member) :
    ((read index (.mapping entries)).2.filter fun d => d.cause.field = m.key).map
        Diagnostic.cause =
      (m.fault? ((Document.mapping entries).get m.key)).toList := by
  let fault := fun n : Member => n.fault? ((Document.mapping entries).get n.key)
  have causes : (read index (.mapping entries)).2.map Diagnostic.cause =
      Member.all.filterMap fault := by
    rw [← Members.causes_ofRecord]
    exact List.map_map.trans (List.map_id _)
  have own : ∀ n, (fault n).filter (fun cause => cause.field = m.key) =
      if n = m then fault m else none := by
    intro n
    split
    · rename_i same
      subst same
      cases found : fault n with
      | none => rfl
      | some cause => simp [Member.field_of_fault? found]
    · rename_i other
      cases found : fault n with
      | none => rfl
      | some cause =>
        simpa [Member.field_of_fault? found] using fun keys => other (Member.key_injective keys)
  calc _ = ((read index (.mapping entries)).2.map Diagnostic.cause).filter
        (fun cause => cause.field = m.key) := List.filter_map.symm
    _ = Member.all.filterMap fun n => if n = m then fault m else none := by
        simp only [causes, List.filter_filterMap, own]
    _ = (fault m).toList := by cases fault m <;> cases m <;> rfl

/-- A text that is no canonical form is at fault. -/
theorem exists_fault?_uuid {s : Text} (other : ¬ Uuid.IsCanonical s.toList) :
    ∃ cause, Member.uuid.fault? (.text s) = some cause := by
  cases fault : Member.uuid.fault? (.text s) with
  | some cause => exact ⟨cause, rfl⟩
  | none =>
    have accepted := refusalOf_eq_none_iff.mp (Option.map_eq_none_iff.mp fault)
    exact absurd (exists_readUuid_iff.mp accepted) other

end Record

namespace Library

variable {records : List Document} {i j : Nat} {p q : Pattern} {s t : Text}

/-- The record at a place describes a pattern, and gives its UUID as a text. -/
structure GivesUuid (records : List Document) (i : Nat) (p : Pattern) (s : Text) : Prop where
  described : Describes records i p
  text : records[i]?.map (Document.get Record.Member.uuid.key) = some (.text s)

theorem GivesUuid.isWrittenAs (gives : GivesUuid records i p s) :
    p.uuid.isWrittenAs s.toList = true := by
  obtain ⟨t, text, written⟩ := exists_uuid_text_of_describes gives.described
  cases text.symm.trans gives.text
  exact written

theorem Describes.exists_givesUuid (described : Describes records i p) :
    ∃ s, GivesUuid records i p s := by
  obtain ⟨s, text, -⟩ := exists_uuid_text_of_describes described
  exact ⟨s, described, text⟩

theorem GivesUuid.uuid_eq_iff (first : GivesUuid records i p s) (second : GivesUuid records j q t) :
    p.uuid = q.uuid ↔ Text.lowercaseAscii s.toList = Text.lowercaseAscii t.toList :=
  Uuid.eq_iff_lowercaseAscii first.isWrittenAs second.isWrittenAs

/-- The UUID of a record is reported as taken exactly if an earlier record gives the same text, but
for the case of letters. -/
theorem GivesUuid.exists_duplicate_iff (gives : GivesUuid records j q t) :
    (∃ d ∈ (load records).diagnostics, d.index = j ∧ d.cause.kind = .duplicateUuid) ↔
      ∃ i < j, ∃ p s, GivesUuid records i p s
        ∧ Text.lowercaseAscii s.toList = Text.lowercaseAscii t.toList := by
  constructor
  · rintro ⟨d, member, rfl, kind⟩
    obtain ⟨again, described, missing⟩ := exists_describes_of_duplicate member kind
    obtain rfl := described.unique gives.described
    by_contra alone
    refine missing ⟨described, fun i earlier p first same => alone ?_⟩
    obtain ⟨s, gives'⟩ := first.exists_givesUuid
    exact ⟨i, earlier, p, s, gives', (gives'.uuid_eq_iff gives).mp same⟩
  · rintro ⟨i, earlier, p, s, first, same⟩
    have missing : ¬ IsOrigin records j q := fun origin =>
      origin.first i earlier p first.described ((first.uuid_eq_iff gives).mpr same)
    obtain ⟨holder, taken⟩ := gives.described.exists_taken missing
    have duplicate : Loading.duplicate j q holder ∈ (load records).diagnostics.filter fun d =>
        d.index = j ∧ d.cause.kind = .duplicateUuid := by
      rw [filter_duplicate_diagnostics_load taken]
      exact Option.mem_toList.mpr rfl
    obtain ⟨member, _⟩ := List.mem_filter.mp duplicate
    exact ⟨_, member, rfl, rfl⟩

/-- A record with another text for its UUID is left out, and reported once for its UUID. -/
theorem exists_missing_of_not_isCanonical {record : Document} (found : records[i]? = some record)
    (text : record.get Record.Member.uuid.key = .text s) (other : ¬ Uuid.IsCanonical s.toList) :
    (¬ ∃ p, Describes records i p)
      ∧ ∃ d, ((load records).diagnostics.filter fun d =>
          d.index = i ∧ d.cause.field = Record.Member.uuid.key) = [d]
        ∧ d.cause.kind = .missingField ∧ d.skipped = true := by
  have none : ¬ ∃ p, Describes records i p := by
    rintro ⟨p, described⟩
    obtain ⟨t, gives⟩ := described.exists_givesUuid
    have same := gives.text
    rw [found, Option.map_some, text] at same
    cases same
    exact other (Uuid.isCanonical_of_isWrittenAs gives.isWrittenAs)
  refine ⟨none, ?_⟩
  have refused : Record.pattern? record = Option.none := by
    rw [Option.eq_none_iff_forall_ne_some]
    exact fun p described => none ⟨p, record, found, (Record.fst_read i record).trans described⟩
  have reported : reportsAt records i = (Record.read i record).2 := by
    rw [reportsAt_of_getElem? found, reports, fate_eq_refused_iff.mpr refused]
    exact List.append_nil _
  have own : ((load records).diagnostics.filter fun d =>
      d.index = i ∧ d.cause.field = Record.Member.uuid.key) =
      (Record.read i record).2.filter fun d => d.cause.field = Record.Member.uuid.key := by
    rw [← reported, ← filter_index_diagnostics_load, List.filter_filter]
    simp only [Bool.decide_and, Bool.and_comm]
  cases record with
  | mapping entries =>
    obtain ⟨cause, fault⟩ := Record.exists_fault?_uuid other
    have once := Record.filter_field_read i entries .uuid
    rw [text, fault, Option.toList_some, List.map_eq_singleton_iff] at once
    obtain ⟨d, single, rfl⟩ := once
    have member : d ∈ (Record.read i (.mapping entries)).2 :=
      List.mem_of_mem_filter (by rw [single]; exact List.mem_singleton_self d)
    refine ⟨d, own.trans single, Record.Member.kind_of_fault?_uuid fault, ?_⟩
    rw [Record.skipped_of_mem_read member, refused, Option.isNone_none]
  | _ => cases text

/-- A text is taken for a UUID exactly if it has the canonical shape; what is read then is written
like the text in lower case, so that texts stand for the same UUID exactly if only the case of
letters differs.  The patterns of a list of records have the UUIDs that their records give in this
way, a record with another text is left out and reported once for its missing UUID, and a UUID is
reported as taken exactly if an earlier record gives the same one. -/
theorem canonical_uuids_load (records : List Document) :
    (∀ s : Text, (∃ u, Record.readUuid (.text s) = .ok u) ↔ Uuid.IsCanonical s.toList)
      ∧ (∀ s u, Record.readUuid (.text s) = .ok u →
        u.text = Text.ofList (Text.lowercaseAscii s.toList))
      ∧ (∀ s t u v, Record.readUuid (.text s) = .ok u → Record.readUuid (.text t) = .ok v →
        (u = v ↔ Text.lowercaseAscii s.toList = Text.lowercaseAscii t.toList))
      ∧ (∀ i p, Describes records i p → ∃ s, GivesUuid records i p s
        ∧ Uuid.IsCanonical s.toList ∧ p.uuid.text = Text.ofList (Text.lowercaseAscii s.toList))
      ∧ (∀ i record s, records[i]? = some record → record.get Record.Member.uuid.key = .text s →
        ¬ Uuid.IsCanonical s.toList →
          (¬ ∃ p, Describes records i p)
            ∧ ∃ d, ((load records).diagnostics.filter fun d =>
                d.index = i ∧ d.cause.field = Record.Member.uuid.key) = [d]
              ∧ d.cause.kind = .missingField ∧ d.skipped = true)
      ∧ ∀ j q t, GivesUuid records j q t →
        ((∃ d ∈ (load records).diagnostics, d.index = j ∧ d.cause.kind = .duplicateUuid) ↔
          ∃ i < j, ∃ p s, GivesUuid records i p s
            ∧ Text.lowercaseAscii s.toList = Text.lowercaseAscii t.toList) := by
  have written : ∀ {s : Text} {u}, Record.readUuid (.text s) = .ok u →
      u.isWrittenAs s.toList = true := by
    intro s u accepted
    obtain ⟨_, ⟨⟩, written⟩ := Record.readUuid_eq_ok_iff.mp accepted
    exact written
  refine ⟨fun s => Record.exists_readUuid_iff, fun s u accepted => ?_,
    fun s t u v accepted other => ?_, fun i p described => ?_,
    fun i record s => exists_missing_of_not_isCanonical, fun j q t gives =>
      gives.exists_duplicate_iff⟩
  · exact Record.text_of_isWrittenAs (written accepted)
  · exact Uuid.eq_iff_lowercaseAscii (written accepted) (written other)
  · obtain ⟨s, gives⟩ := described.exists_givesUuid
    exact ⟨s, gives, Uuid.isCanonical_of_isWrittenAs gives.isWrittenAs,
      Record.text_of_isWrittenAs gives.isWrittenAs⟩

end Library

end LogTemplate
