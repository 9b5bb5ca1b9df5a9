import LogTemplate.Proofs.Refusing
import LogTemplate.Workspace
import Mathlib.Data.List.Basic

/-!
# What changes in a workspace when a file is written

Main statements: nothing lies elsewhere than before, and a path leads to where it led to.
-/

namespace LogTemplate.Workspace

variable {w : Workspace} {place : List String}

theorem not_isPrefixOf_home (file : w.node? place ≠ some .directory) :
    place.isPrefixOf w.home = false :=
  Bool.eq_false_iff.mpr fun kept => file (by rw [node?, if_pos kept])

theorem find?_filter_ne (nodes : List (List String × Node)) {place other : List String}
    (apart : other ≠ place) :
    (nodes.filter (·.1 != place)).find? (·.1 == other) = nodes.find? (·.1 == other) := by
  induction nodes with
  | nil => rfl
  | cons n nodes ih =>
    by_cases here : n.1 = place
    · rw [List.filter_cons_of_neg (by simp [here]), List.find?_cons_of_neg, ih]
      simp [here, apart.symm]
    · rw [List.filter_cons_of_pos (by simp [here]), List.find?_cons, List.find?_cons, ih]

/-- What is put at a place lies there, unless that leads to the home directory. -/
theorem node?_setNode_self (node : Node) (outside : place.isPrefixOf w.home = false) :
    (w.setNode place node).node? place = some node := by
  rw [node?, setNode, outside]
  simp

theorem node?_setNode_of_ne (node : Node) {other : List String} (apart : other ≠ place) :
    (w.setNode place node).node? other = w.node? other := by
  rw [node?, node?, setNode]
  simp only
  rw [List.find?_cons_of_neg (by simpa using apart.symm), find?_filter_ne _ apart]

theorem node?_dropNode_of_ne {other : List String} (apart : other ≠ place) :
    (w.dropNode place).node? other = w.node? other := by
  rw [node?, node?, dropNode]
  simp only
  rw [find?_filter_ne _ apart]

theorem node?_dropNode_eq_none {other : List String} (absent : w.node? other = none) :
    (w.dropNode place).node? other = none := by
  rw [node?] at absent ⊢
  split at absent
  · cases absent
  · rename_i outside
    rw [dropNode, if_neg outside]
    rw [Option.map_eq_none_iff, List.find?_eq_none] at absent ⊢
    exact fun n member => absent n (List.mem_of_mem_filter member)

/-- Names lead to where they led to before something was put at a place, unless they led through a
directory that it has replaced. -/
theorem walk_setNode {node : Node} {start : List String} {names : List String}
    {found : List String} (file : w.node? place ≠ some .directory)
    (leads : w.walk start names = .ok found) :
    (w.setNode place node).walk start names = .ok found := by
  induction names generalizing start with
  | nil => exact leads
  | cons name names ih =>
    have kept : w.node? (start ++ [name]) = some .directory →
        (w.setNode place node).node? (start ++ [name]) = some .directory := by
      intro directory
      have apart : start ++ [name] ≠ place := fun same => file (same ▸ directory)
      rw [node?_setNode_of_ne _ apart, directory]
    rw [walk] at leads ⊢
    split at leads
    · rw [if_pos (by assumption)]
      exact ih leads
    rw [if_neg (by assumption)]
    split at leads
    · cases leads
    rw [if_neg (by assumption)]
    split at leads
    · rw [if_pos (by assumption)]
      exact leads
    rw [if_neg (by assumption)]
    split at leads
    · rw [kept (by assumption)]
      exact ih leads
    · cases leads
    · cases leads

/-- Where a name leads from a place, whatever lies there. -/
def follow (place : List String) (name : String) : List String :=
  if name == ".." then place.dropLast else place ++ [name]

/-- Where names lead depends on nothing but what lies on the way. -/
theorem walk_congr {other : Workspace} {start names : List String}
    (same : ∀ front rest, names = front ++ rest → rest ≠ [] →
      other.node? (front.foldl follow start) = w.node? (front.foldl follow start)) :
    other.walk start names = w.walk start names := by
  induction names generalizing start with
  | nil => rfl
  | cons name names ih =>
    have next : other.walk (follow start name) names = w.walk (follow start name) names :=
      ih fun front rest whole left => same (name :: front) rest (by rw [whole]; rfl) left
    rw [walk, walk]
    by_cases up : (name == "..") = true
    · rw [if_pos up, if_pos up]
      rwa [follow, if_pos up] at next
    · have down : follow start name = start ++ [name] := if_neg up
      rw [down] at next
      rw [if_neg up, if_neg up, next]
      cases names with
      | nil => rfl
      | cons further rest =>
        have here := same [name] (further :: rest) rfl (by simp)
        rw [List.foldl_cons, List.foldl_nil, down] at here
        rw [here]

theorem locate_setNode {node : Node} {p : Path} {found : List String}
    (file : w.node? place ≠ some .directory) (leads : w.locate p = .ok found) :
    (w.setNode place node).locate p = .ok found := by
  rw [locate] at leads ⊢
  split at leads
  · cases leads
  rw [if_neg (by assumption)]
  split at leads
  · cases leads
  rw [if_neg (by assumption)]
  exact walk_setNode file leads

/-! ## Files that are there -/

/-- A path leads to a place where a file with the given content lies. -/
structure HasFile (w : Workspace) (p : Path) (found : List String) (content : Content) : Prop where
  leads : w.locate p = .ok found
  lies : w.node? found = some (.file content)

variable {p : Path} {found : List String} {content : Content}

theorem read_eq_ok_iff : w.read p = .ok content ↔ ∃ found, w.HasFile p found content := by
  rw [read]
  constructor
  · intro known
    obtain ⟨found, leads, lies⟩ := bind_eq_ok_iff.mp known
    refine ⟨found, leads, ?_⟩
    split at lies
    · cases lies
    · cases lies
    · rename_i here
      rw [here, Except.ok.inj lies]
  · rintro ⟨found, leads, lies⟩
    exact bind_eq_ok_iff.mpr ⟨found, leads, by rw [lies]⟩

theorem HasFile.setNode {node : Node} (known : w.HasFile p found content)
    (file : w.node? place ≠ some .directory) (apart : found ≠ place) :
    (w.setNode place node).HasFile p found content :=
  ⟨locate_setNode file known.leads, (node?_setNode_of_ne node apart).trans known.lies⟩

/-- A directory is made where nothing was. -/
theorem HasFile.makeDirectory {q : Path} {made : Workspace} (known : w.HasFile p found content)
    (done : w.makeDirectory q = .ok made) : made.HasFile p found content := by
  rw [Workspace.makeDirectory] at done
  obtain ⟨place, -, done⟩ := bind_eq_ok_iff.mp done
  split at done
  · cases done
  rename_i absent
  have apart : found ≠ place := by
    rintro rfl
    rw [known.lies] at absent
    cases absent
  split at done
  · obtain rfl := Except.ok.inj done
    exact known.setNode (by rw [absent]; nofun) apart
  · cases done
  · cases done

theorem HasFile.ensureDirectory {q : Path} {made : Workspace} (known : w.HasFile p found content)
    (done : w.ensureDirectory q = .ok made) : made.HasFile p found content := by
  rw [Workspace.ensureDirectory] at done
  split at done
  · rename_i first
    obtain rfl := Except.ok.inj done
    exact known.makeDirectory first
  · split at done
    · obtain rfl := Except.ok.inj done
      exact known
    · cases done

theorem HasFile.ensureDirectories {root : String} {steps : Nat} {names : List String}
    {made : Workspace} (known : w.HasFile p found content)
    (done : w.ensureDirectories root steps names = .ok made) : made.HasFile p found content := by
  induction steps generalizing names made with
  | zero => exact known.ensureDirectory done
  | succ steps ih =>
    rw [Workspace.ensureDirectories] at done
    split at done
    · obtain ⟨upper, first, done⟩ := bind_eq_ok_iff.mp done
      exact (ih first).ensureDirectory done
    · exact known.ensureDirectory done

/-- To make the directories on the way to a path leaves all files as they are. -/
theorem HasFile.ensureParent {q : Path} {made : Workspace} (known : w.HasFile p found content)
    (done : w.ensureParent q = .ok made) : made.HasFile p found content :=
  known.ensureDirectories done

/-- The files that lie anywhere but at one place are where they were, with what they held. -/
def KeepsFilesBut (w : Workspace) (place : List String) (after : Workspace) : Prop :=
  ∀ p found content, found ≠ place → w.HasFile p found content → after.HasFile p found content

theorem KeepsFilesBut.refl (w : Workspace) (place : List String) : w.KeepsFilesBut place w :=
  fun _ _ _ _ known => known

theorem KeepsFilesBut.trans {middle after : Workspace} (first : w.KeepsFilesBut place middle)
    (next : middle.KeepsFilesBut place after) : w.KeepsFilesBut place after :=
  fun p found content apart known => next p found content apart (first p found content apart known)

theorem keepsFilesBut_write (file : w.node? place ≠ some .directory) (content : Content) :
    w.KeepsFilesBut place (w.write place content) :=
  fun _ _ _ apart known => known.setNode file apart

theorem keepsFilesBut_ensureParent {q : Path} {made : Workspace}
    (done : w.ensureParent q = .ok made) (place : List String) : w.KeepsFilesBut place made :=
  fun _ _ _ _ known => known.ensureParent done

/-- A file can be written where a path leads, at a place that is no directory. -/
theorem leads_of_writable (writable : w.writable p = .ok place) :
    w.locate p = .ok place ∧ w.node? place ≠ some .directory := by
  rw [Workspace.writable] at writable
  obtain ⟨found, leads, checked⟩ := bind_eq_ok_iff.mp writable
  split at checked
  · cases checked
  · rename_i file
    obtain rfl := Except.ok.inj checked
    exact ⟨leads, by rw [file]; nofun⟩
  · rename_i absent
    split at checked
    · obtain rfl := Except.ok.inj checked
      exact ⟨leads, by rw [absent]; nofun⟩
    · cases checked
    · cases checked

end LogTemplate.Workspace
