import LogTemplate.Proofs.Sink.Database
import LogTemplate.Proofs.Workspace
import LogTemplate.Sink.Recovery

/-!
# The file of a database

A file holds a database, or will hold one, and nothing lies beside it.  Main statement: that stays
so when another database is put into the file.
-/

namespace LogTemplate.Sink

namespace Beside

variable {w : Workspace} {database : List String}

theorem place_ne (b : Beside) (database : List String) : b.place database ≠ database := by
  intro same
  have longer : b.ending ≠ "" := by cases b <;> decide
  rcases List.eq_nil_or_concat database with rfl | ⟨way, name, rfl⟩
  · simp [place] at same
  · rw [place, List.concat_eq_append, List.dropLast_concat, List.getLastD_concat] at same
    have name' : name ++ b.ending = name := by simpa using same
    exact longer (String.append_eq_left_iff.mp name')

theorem isIn_eq_false {b : Beside} (absent : b.node? w database = none) :
    b.isIn w database = false := by
  rw [isIn, absent]

theorem isDirectory_eq_false {b : Beside} (absent : b.node? w database = none) :
    b.isDirectory w database = false := by
  rw [isDirectory, absent]
  rfl

/-- What is not there is not taken away, nor is anything else. -/
theorem node?_drop {b : Beside} (absent : b.node? w database = none) (other : List String) :
    (b.drop w database).node? other = w.node? other := by
  rw [drop, isDirectory_eq_false absent, if_neg Bool.false_ne_true]
  by_cases same : other = b.place database
  · have none : w.node? other = none := same ▸ absent
    rw [none, Workspace.node?_dropNode_eq_none none]
  · exact Workspace.node?_dropNode_of_ne same

theorem home_drop (b : Beside) (w : Workspace) (database : List String) :
    (b.drop w database).home = w.home := by
  rw [drop]
  split <;> rfl

end Beside

/-- The file at a place holds a database, or nothing yet; nothing lies beside it. -/
structure HoldsDatabase (w : Workspace) (place : List String) (d : Database) : Prop where
  file : w.node? place = some (.file (.database d))
    ∨ (w.node? place = some (.file (.bytes [])) ∨ w.node? place = none) ∧ d = {}
  alone : ∀ b : Beside, b.node? w place = none

namespace HoldsDatabase

variable {w : Workspace} {place : List String} {d : Database}

theorem not_directory (holds : HoldsDatabase w place d) : w.node? place ≠ some .directory := by
  rcases holds.file with file | ⟨file | file, -⟩ <;> simp [file]

theorem databaseOf (holds : HoldsDatabase w place d) {content : Content}
    (file : w.node? place = some (.file content)) : Session.databaseOf content = .ok d := by
  rcases holds.file with held | ⟨held | held, rfl⟩ <;> rw [held] at file
  · cases file
    rfl
  · cases file
    rfl
  · cases file

/-- A file that holds nothing yet is not shorter than the database without tables. -/
theorem isShorter_eq_false (holds : HoldsDatabase w place d) {content : Content}
    (file : w.node? place = some (.file content)) (size : Nat) :
    Session.isShorter content (size * d.stamp.pages) = false := by
  rcases holds.file with held | ⟨held | held, rfl⟩ <;> rw [held] at file
  · cases file
    rfl
  · cases file
    simp [Session.isShorter]
  · cases file

theorem loggedContent_eq (holds : HoldsDatabase w place d) (content : Content) :
    loggedContent w place content = content := by
  simp only [loggedContent, holds.alone]

theorem keepsLog_eq (holds : HoldsDatabase w place d) (made : d.IsMade) :
    Session.keepsLog w place = false := by
  rcases holds.file with held | ⟨held | held, rfl⟩
  · simp only [Session.keepsLog, held, made.keepsLog]
  · simp only [Session.keepsLog, held]
    simp [Image.isOfLogged, Image.field, Image.loggedVersion, Text.Wide.number]
  · simp only [Session.keepsLog, held]

theorem leftover_eq (holds : HoldsDatabase w place d) :
    Leftover.of w place = .nothing := by
  rw [Leftover.of, Beside.isIn_eq_false (holds.alone .journal)]
  rfl

/-- Nothing lies beside a file once it is written. -/
theorem alone_write (holds : HoldsDatabase w place d) (content : Content) (b : Beside) :
    b.node? (w.write place content) place = none := by
  rw [Beside.node?, Workspace.write, Workspace.node?_setNode_of_ne _ (b.place_ne place)]
  exact holds.alone b

/-- Nothing else changes when a file is written and its journal dropped. -/
theorem node?_store (holds : HoldsDatabase w place d) (content : Content) {other : List String}
    (apart : other ≠ place) :
    (Beside.journal.drop (w.write place content) place).node? other = w.node? other := by
  rw [Beside.node?_drop (holds.alone_write content .journal)]
  exact Workspace.node?_setNode_of_ne _ apart

/-- To put another database into the file is all that happens to it. -/
theorem store (holds : HoldsDatabase w place d) (next : Database) :
    HoldsDatabase (Beside.journal.drop (w.write place (.database next)) place) place next where
  file := by
    have outside := Workspace.not_isPrefixOf_home holds.not_directory
    rw [Beside.node?_drop (holds.alone_write _ .journal)]
    exact .inl (Workspace.node?_setNode_self _ outside)
  alone := fun b => (holds.node?_store _ (b.place_ne place)).trans (holds.alone b)

theorem drop (holds : HoldsDatabase w place d) :
    HoldsDatabase (Beside.journal.drop w place) place d where
  file := by
    rw [Beside.node?_drop (holds.alone .journal)]
    exact holds.file
  alone := fun b => (Beside.node?_drop (holds.alone .journal) _).trans (holds.alone b)

/-- A file that was not there is made without a database in it. -/
theorem create (holds : HoldsDatabase w place d) (absent : w.node? place = none) :
    HoldsDatabase (w.write place (.bytes [])) place d where
  file := by
    have empty : d = {} := by
      rcases holds.file with held | ⟨-, empty⟩
      · rw [absent] at held
        cases held
      · exact empty
    have outside := Workspace.not_isPrefixOf_home holds.not_directory
    exact .inr ⟨.inl (Workspace.node?_setNode_self _ outside), empty⟩
  alone := holds.alone_write _

end HoldsDatabase

end LogTemplate.Sink
