import LogTemplate.Proofs.Refusing
import LogTemplate.Proofs.Sink.JsonLines
import LogTemplate.Proofs.Sink.Settled
import LogTemplate.Proofs.Sink.Row

/-!
# What the sink of a table refuses with

Main statements: nothing that such a sink refuses when it is opened or written to is an error that
the operating system reports.
-/

namespace LogTemplate

namespace Sink

/-- An error that is the sink's own: not one that the operating system reports. -/
def Error.IsOwn (e : Error) : Prop := ∀ f, e = .file f → f.fault.isReported = false

/-- Why a row is not dealt with is the sink's own. -/
def Stop.IsOwn : Stop → Prop
  | .ignored _ => True
  | .failed e _ _ => e.IsOwn

theorem isOwn_getD {found : Option Error} (own : ∀ e ∈ found, e.IsOwn) :
    (found.getD .refused).IsOwn := by
  cases found with
  | none => nofun
  | some e => exact own e rfl

namespace Change

/-- The sink's own errors are all that a reaction refuses with. -/
def IsOwn (react : Reaction) : Prop :=
  ∀ d time event name old new, RefusesWith Stop.IsOwn (react d time event name old new)

theorem isOwn_valueIn {α : Type} (d : Database) (x : Except Signal α) :
    RefusesWith Stop.IsOwn (valueIn d x) := by
  unfold valueIn
  split
  · exact refusesWith_ok _
  · exact refusesWith_error trivial
  · exact refusesWith_error nofun
  · exact refusesWith_error nofun

theorem isOwn_refuse {α : Type} (isLenient : Bool) (d : Database) :
    RefusesWith Stop.IsOwn (refuse isLenient d : Except Stop α) := by
  cases isLenient with
  | true => exact refusesWith_error trivial
  | false => exact refusesWith_error nofun

theorem isOwn_settle {x : Except Stop Database} (own : RefusesWith Stop.IsOwn x) :
    RefusesWith Stop.IsOwn (settle x) := by
  unfold settle
  split
  · exact refusesWith_ok _
  · exact own

theorem isOwn_forEach {α : Type} {f : Database → α → Except Stop Database}
    (own : ∀ d row, RefusesWith Stop.IsOwn (f d row)) (d : Database) (rows : List α) :
    RefusesWith Stop.IsOwn (forEach d rows f) :=
  refusesWith_foldlM (fun d row => isOwn_settle (own d row)) rows d

theorem isOwn_admitted (isLenient : Bool) (d : Database) (t : Table) (others : List Row)
    (row : Row) : RefusesWith Stop.IsOwn (admitted isLenient d t others row) := by
  have refused {α : Type} (isLenient : Bool) :
      RefusesWith Stop.IsOwn (refuse isLenient d : Except Stop α) := isOwn_refuse isLenient d
  unfold admitted
  refine refusesWith_guard (refused _) (refusesWith_guard (refused _) ?_)
  refine (refusesWith_forIn (fun check _ => ?_) _ _).bind fun _ =>
    refusesWith_guard (refused _) ((refusesWith_forIn (fun key _ => ?_) _ _).bind
      fun _ => refusesWith_ok _)
  · exact (isOwn_valueIn d _).bind fun _ => refusesWith_guard (refused _) (refusesWith_ok _)
  · exact (isOwn_valueIn d _).bind fun _ => refusesWith_guard (refused _) (refusesWith_ok _)

theorem isOwn_askedId (d : Database) (t : Table) (given : List (String × Cell)) :
    RefusesWith Stop.IsOwn (askedId d t given) := by
  unfold askedId
  split
  · exact refusesWith_ok _
  · exact refusesWith_ok _
  · split
    · exact refusesWith_ok _
    · exact refusesWith_error nofun

variable {react : Reaction} (own : IsOwn react)
include own

theorem IsOwn.insertInto (isLenient : Bool) (d : Database) (t : Table)
    (given : List (String × Cell)) :
    RefusesWith Stop.IsOwn (insertInto react isLenient d t given) := by
  unfold Change.insertInto
  refine (isOwn_askedId d t given).bind fun asked => (isOwn_valueIn d _).bind fun draft =>
    refusesWith_guard (isOwn_refuse _ _) ((own ..).bind fun d => ?_)
  dsimp only
  split
  · exact (refusesWith_ok _).bind fun id => (isOwn_valueIn _ _).bind fun row =>
      (isOwn_admitted ..).bind fun _ => own ..
  · exact (refusesWith_error nofun).bind fun id => (isOwn_valueIn _ _).bind fun row =>
      (isOwn_admitted ..).bind fun _ => own ..

theorem IsOwn.insert (isLenient : Bool) (d : Database) (name : String)
    (given : List (String × Cell)) :
    RefusesWith Stop.IsOwn (insert react isLenient d name given) := by
  unfold Change.insert
  split
  · exact own.insertInto ..
  · exact own ..
  · exact refusesWith_error nofun

theorem IsOwn.delete (d : Database) (name : String) (row : Row) :
    RefusesWith Stop.IsOwn (delete react d name row) := by
  unfold Change.delete
  split
  · exact own ..
  · exact (own ..).bind fun d => own ..

theorem IsOwn.update (isLenient : Bool) (d : Database) (t : Table) (row : Row)
    (given : List (String × Cell)) :
    RefusesWith Stop.IsOwn (update react isLenient d t row given) := by
  unfold Change.update
  exact (isOwn_askedId d t given).bind fun id => (isOwn_valueIn d _).bind fun new =>
    (own ..).bind fun d => (isOwn_admitted ..).bind fun _ => own ..

theorem IsOwn.perform (isLenient : Bool) (s : Scope) (d : Database) (action : Action) :
    RefusesWith Stop.IsOwn (perform react isLenient s d action) := by
  cases action with
  | select selection => exact (isOwn_valueIn d _).bind fun _ => refusesWith_ok _
  | insert lenient name columns rows selection =>
    exact (isOwn_valueIn d _).bind fun cells => isOwn_forEach (fun d row => own.insert ..) d cells
  | update lenient name cells condition =>
    unfold Change.perform
    dsimp only
    split
    · exact refusesWith_error nofun
    · refine (isOwn_valueIn d _).bind fun rows => isOwn_forEach (fun d row => ?_) d rows
      refine (refusesWith_mapM (fun cell => ?_) cells).bind fun given => own.update ..
      exact (isOwn_valueIn d _).bind fun _ => refusesWith_ok _
  | delete name condition =>
    exact (isOwn_valueIn d _).bind fun rows => isOwn_forEach (fun d row => own.delete ..) d rows

theorem IsOwn.carryOut (isLenient : Bool) (d : Database) (name : String) (old new : Option Row)
    (t : Trigger) : RefusesWith Stop.IsOwn (carryOut react isLenient d name old new t) := by
  unfold Change.carryOut
  refine (isOwn_valueIn d _).bind fun holds => refusesWith_ite ?_ (refusesWith_ok _)
  split
  · exact refusesWith_error nofun
  · exact refusesWith_foldlM (fun d action => own.perform ..) _ _

omit own

theorem isOwn_reactAt (isLenient : Bool) (fuel : Nat) (active : List String) :
    IsOwn (reactAt isLenient fuel active) := by
  induction fuel generalizing active with
  | zero => exact fun _ _ _ _ _ _ => refusesWith_ok _
  | succ fuel ih =>
    intro d time event name old new
    exact refusesWith_foldlM (fun d t => (ih _).carryOut ..) _ _

theorem isOwn_outcome (d : Database) {x : Except Stop Database}
    (own : RefusesWith Stop.IsOwn x) : ∀ e ∈ (outcome d x).2, e.IsOwn := by
  unfold outcome
  split
  · nofun
  · nofun
  · rintro e ⟨⟩
    exact own.of_eq rfl
  · rintro e ⟨⟩
    exact own.of_eq rfl
  · rintro e ⟨⟩
    exact own.of_eq rfl

end Change

theorem isOwn_add (d : Database) (table : String) (given : List (String × Cell)) :
    ∀ e ∈ (d.add table given).2, e.IsOwn :=
  Change.isOwn_outcome d ((Change.isOwn_reactAt true _ []).insert ..)

theorem isOwn_clear (d : Database) (table : String) : ∀ e ∈ (d.clear table).2, e.IsOwn :=
  Change.isOwn_outcome d
    (Change.isOwn_forEach (fun _ _ => (Change.isOwn_reactAt false _ []).delete ..) ..)

/-! ## Databases -/

theorem isOwn_ofBytes (bytes : List UInt8) : RefusesWith Error.IsOwn (Database.ofBytes bytes) := by
  unfold Database.ofBytes
  refine refusesWith_ite (refusesWith_ok _) (RefusesWith.bind ?_ fun image => ?_)
  · unfold Image.ofBytes
    split
    · exact refusesWith_error nofun
    · exact refusesWith_ite (refusesWith_error nofun)
        (refusesWith_ite (refusesWith_error nofun) (refusesWith_ok _))
  · unfold Image.database
    exact refusesWith_getD nofun _

namespace Session

variable {s : Session} {name : String} {t : TableSink} {c : Connection}

theorem isOwn_databaseOf (content : Content) :
    RefusesWith Error.IsOwn (databaseOf content) := by
  cases content with
  | bytes bytes => exact isOwn_ofBytes bytes
  | database d => exact refusesWith_ok d
  | log d => exact refusesWith_error nofun

theorem isOwn_foundAgain (content : Content) (stamp : Stamp) (size : Nat)
    (known : Option Database) :
    RefusesWith Error.IsOwn (foundAgain content stamp size known) := by
  unfold foundAgain
  refine refusesWith_ite (refusesWith_error nofun) ?_
  split
  · exact refusesWith_ok _
  · exact (isOwn_databaseOf content).bind fun d =>
      refusesWith_ite (refusesWith_ok _) (refusesWith_error nofun)

theorem isOwn_found (w : Workspace) (c : Connection) (place : List String) (content : Content) :
    RefusesWith Error.IsOwn (found w c place content) := by
  unfold found
  refine refusesWith_ite ?_ (refusesWith_ite (refusesWith_error nofun)
    ((isOwn_databaseOf _).bind fun d => refusesWith_ite
      (refusesWith_ite (refusesWith_error nofun) (refusesWith_ok _)) ?_))
  · split
    · exact refusesWith_ok _
    · exact isOwn_foundAgain ..
    · exact isOwn_databaseOf _
  · split
    · exact refusesWith_ite (isOwn_foundAgain ..) (refusesWith_ok _)
    · exact refusesWith_ok _

theorem isOwn_committed (s : Session) (c : Connection) :
    RefusesWith Error.IsOwn (s.committed c) := by
  unfold committed
  split
  · exact refusesWith_ok _
  · exact refusesWith_ok _
  · split
    · exact isOwn_found ..
    · exact refusesWith_error nofun
    · exact refusesWith_ok _

theorem isOwn_hindrance? {s : Session} {name : String} {c : Connection} {e : Error}
    (hindered : s.hindrance? name c = some e) : e.IsOwn := by
  unfold hindrance? at hindered
  split at hindered
  · split at hindered
    · cases hindered
    split at hindered
    · cases hindered
      nofun
    split at hindered
    · cases hindered
      nofun
    · cases hindered
      split <;> nofun
    all_goals
      split at hindered <;> cases hindered
      nofun
  · cases hindered

theorem isOwn_view (s : Session) (name : String) (c : Connection) :
    RefusesWith Error.IsOwn (s.view name c) := by
  unfold view
  split
  · exact refusesWith_ok _
  · exact refusesWith_ok _
  · refine refusesWith_ite (refusesWith_error nofun) ?_
    split
    · exact refusesWith_ok _
    · split
      · rename_i e hindered
        exact refusesWith_error (isOwn_hindrance? hindered)
      · exact isOwn_committed s c

theorem isOwn_checkHold (s : Session) (name : String) (c : Connection) :
    RefusesWith Error.IsOwn (s.checkHold name c) := by
  unfold checkHold
  exact refusesWith_ite (refusesWith_error nofun)
    (refusesWith_ite (refusesWith_error nofun) (refusesWith_ok _))

theorem isOwn_checkChange (s : Session) (name : String) (c : Connection) (d : Database) :
    RefusesWith Error.IsOwn (s.checkChange name c d) := by
  unfold checkChange
  exact (isOwn_checkHold ..).bind fun _ => refusesWith_ite (refusesWith_error nofun)
    (refusesWith_ite (refusesWith_error nofun) (refusesWith_ok _))

/-! ## Opening -/

theorem isOwn_ensureTable (s : Session) (name : String) (t : TableSink) (c : Connection) :
    RefusesWith Error.IsOwn (s.ensureTable name t c) := by
  unfold ensureTable
  exact refusesWith_ite (refusesWith_error nofun) ((isOwn_view ..).bind fun d =>
    refusesWith_ite (refusesWith_ok _) (refusesWith_ite (refusesWith_error nofun)
      ((isOwn_checkHold ..).bind fun _ => refusesWith_ite (refusesWith_error nofun)
        ((isOwn_checkChange ..).bind fun _ => refusesWith_ok _))))

theorem isOwn_ensureIndex (s : Session) (name : String) (t : TableSink) (c : Connection) :
    RefusesWith Error.IsOwn (s.ensureIndex name t c) := by
  unfold ensureIndex
  refine (isOwn_view ..).bind fun d => ?_
  dsimp only
  split
  · exact refusesWith_error nofun
  · exact refusesWith_ite (refusesWith_error nofun) (refusesWith_ite (refusesWith_ok _)
      (refusesWith_ite (refusesWith_error nofun) ((isOwn_checkChange ..).bind fun _ =>
        refusesWith_guard (refusesWith_error nofun) (refusesWith_ok _))))

theorem isOwn_makeTable (s : Session) (name : String) (t : TableSink) (c : Connection) :
    RefusesWith Error.IsOwn (s.makeTable name t c).2 := by
  unfold makeTable
  dsimp only
  split
  · rename_i e refused
    exact refusesWith_error ((isOwn_ensureTable ..).of_eq refused)
  · split
    · exact refusesWith_ok _
    · split
      · rename_i e refused
        exact refusesWith_error ((isOwn_ensureIndex ..).of_eq refused)
      · exact refusesWith_ok _

theorem isOwn_holdTable (s : Session) (name : String) (t : TableSink) (c : Connection)
    (d : Database) : RefusesWith Error.IsOwn (s.holdTable name t c d).2 :=
  refusesWith_ite (refusesWith_error nofun) (refusesWith_ok _)

theorem isOwn_commit (s : Session) (name : String) (t : TableSink) (c : Connection) :
    RefusesWith Error.IsOwn (s.commit name t c).2 := by
  unfold commit
  dsimp only
  split
  · exact refusesWith_ok _
  · split
    · exact refusesWith_error nofun
    · exact refusesWith_ite (refusesWith_ok _) (refusesWith_error nofun)

theorem isOwn_emptyTable (s : Session) (name : String) (t : TableSink) (c : Connection) :
    RefusesWith Error.IsOwn (s.emptyTable name t c).2 := by
  unfold emptyTable
  split
  · rename_i e refused
    exact refusesWith_error ((isOwn_view ..).of_eq refused)
  · split
    · exact refusesWith_error nofun
    · split
      · exact refusesWith_error nofun
      · dsimp only
        split
        · rename_i e refused
          exact refusesWith_error ((isOwn_checkHold ..).of_eq refused)
        · split
          · rename_i e held
            exact refusesWith_error ((isOwn_holdTable ..).of_eq (congrArg Prod.snd held))
          · split
            · exact refusesWith_error nofun
            · split
              · exact refusesWith_error nofun
              · have own := isOwn_clear ‹Database› t.table
                split
                · exact isOwn_commit ..
                · rename_i e cleared
                  rw [cleared] at own
                  exact refusesWith_error (own e rfl)
                · rename_i e cleared
                  rw [cleared] at own
                  exact refusesWith_error (isOwn_getD own)

theorem isOwn_ofText (text : String) : RefusesWith Error.IsOwn (Locator.ofText text) := by
  unfold Locator.ofText
  split
  · exact refusesWith_ok _
  · refine RefusesWith.bind ?_ fun body => (refusesWith_foldlM (fun l parameter => ?_) _ _).bind
      fun l => refusesWith_ite (refusesWith_ok _) (refusesWith_error nofun)
    · unfold Locator.dropAuthority
      split
      · exact refusesWith_ok _
      · exact refusesWith_ite (refusesWith_ok _) (refusesWith_error nofun)
    · unfold Locator.apply
      dsimp only
      refine refusesWith_ite ?_ (refusesWith_ite (refusesWith_ite (refusesWith_ok _)
        (refusesWith_ite (refusesWith_ok _) (refusesWith_error nofun)))
        (refusesWith_ite (refusesWith_ok _) (refusesWith_ok _)))
      split
      · exact refusesWith_ite (refusesWith_ok _) (refusesWith_error nofun)
      · exact refusesWith_error nofun

theorem isOwn_trace (w : Workspace) (place names : List String) :
    RefusesWith Error.IsOwn (trace w place names) := by
  induction names generalizing place with
  | nil => exact refusesWith_ok _
  | cons name names ih =>
    unfold trace
    refine refusesWith_ite (ih _) (refusesWith_ite (refusesWith_error nofun) ?_)
    split
    · exact ih _
    · exact ih _
    · exact refusesWith_error nofun

theorem isOwn_openFile (s : Session) (l : Locator) : RefusesWith Error.IsOwn (s.openFile l) := by
  unfold openFile
  refine (isOwn_trace ..).bind fun place => ?_
  split
  · exact refusesWith_ok _
  · exact refusesWith_ite (refusesWith_ok _) (refusesWith_error nofun)
  · exact refusesWith_error nofun

theorem isOwn_openStore (s : Session) (name : String) (path : Option String) :
    RefusesWith Error.IsOwn (s.openStore name path) := by
  unfold openStore
  split
  · exact refusesWith_error nofun
  · refine refusesWith_ite (refusesWith_error ?_) ((isOwn_ofText _).bind fun l =>
      refusesWith_ite (refusesWith_ok _) (refusesWith_ite
        (refusesWith_ite (refusesWith_ok _) (refusesWith_ok _))
        ((isOwn_openFile s l).bind fun _ => refusesWith_ok _)))
    rintro f ⟨⟩
    rfl

theorem isOwn_openTable (s : Session) (name : String) (t : TableSink) :
    RefusesWith Error.IsOwn (s.openTable name t).2 := by
  unfold openTable
  split
  · rename_i e refused
    exact refusesWith_error ((isOwn_openStore ..).of_eq refused)
  · dsimp only
    split
    · rename_i e refused
      exact refusesWith_error ((isOwn_makeTable ..).of_eq (congrArg Prod.snd refused))
    · split
      · split
        · exact isOwn_emptyTable ..
        · exact refusesWith_ok _
      · exact refusesWith_ok _

/-! ## Writing -/

theorem isOwn_find (s : Session) (name : String) (t : TableSink) (c : Connection)
    (statement : Statement) : RefusesWith Error.IsOwn (s.find name t c statement).2 := by
  unfold find
  split
  · exact refusesWith_error nofun
  · split
    · rename_i e refused
      exact refusesWith_error (by
        split
        · nofun
        · exact (isOwn_view ..).of_eq refused)
    · exact refusesWith_ite (refusesWith_ok _)
        (refusesWith_ite (refusesWith_error nofun) (refusesWith_error nofun))

theorem isOwn_bind (column : String) (d : Option Document) :
    RefusesWith Error.IsOwn (Sink.bind column d) := by
  unfold Sink.bind
  split
  any_goals exact refusesWith_ok _
  · exact refusesWith_ite (refusesWith_ok _) (refusesWith_error nofun)
  · split
    · exact refusesWith_ok _
    · exact refusesWith_error nofun
  · exact refusesWith_error nofun

theorem isOwn_cells (p : Prepared) : RefusesWith Error.IsOwn p.cells := by
  unfold Prepared.cells
  exact (isOwn_bind ..).bind fun _ => (isOwn_bind ..).bind fun _ =>
    refusesWith_ite (refusesWith_error nofun) ((isOwn_bind ..).bind fun _ =>
      (isOwn_bind ..).bind fun _ => (isOwn_bind ..).bind fun _ => (isOwn_bind ..).bind fun _ =>
        (isOwn_bind ..).bind fun _ => refusesWith_ok _)

theorem isOwn_prepare (record : Document) : RefusesWith Error.IsOwn (prepare record) :=
  (refusesWith_prepare record).mono fun e kind => by
    rintro error rfl
    cases kind

theorem isOwn_addRows (d : Database) (table : String) (records : List Prepared) :
    RefusesWith Error.IsOwn (addRows d table records).2 := by
  induction records generalizing d with
  | nil => exact refusesWith_ok _
  | cons record records ih =>
    unfold addRows
    split
    · rename_i e refused
      exact refusesWith_error ((isOwn_cells record).of_eq refused)
    · rename_i cells bound
      split
      · exact ih _
      · rename_i added
        have own := isOwn_add d table cells
        rw [added] at own
        exact refusesWith_error (isOwn_getD own)

theorem isOwn_unbound {c : Connection} (settled : c.failure = none) (first : Option Document)
    {e : Error} (own : e.IsOwn) : (unbound c first e).2.IsOwn := by
  unfold unbound
  split
  · exact own
  · rw [settled]
    exact own
  · exact own

/-- A sink that looks for its table, and what it has found. -/
theorem isOwn_looked (s : Session) (name : String) (t : TableSink) (c : Connection) :
    RefusesWith Error.IsOwn ((s.find name t c .insert).2.map fun _ => ()) := by
  refine ⟨fun refused => (isOwn_find s name t c .insert).of_eq ?_⟩
  cases found : (s.find name t c .insert).2 with
  | error e =>
    rw [found] at refused
    exact congrArg Except.error (Except.error.inj refused)
  | ok d =>
    rw [found] at refused
    cases refused

theorem isOwn_writeNoRows (settled : c.failure = none) (s : Session) (name : String)
    (t : TableSink) (records : List Prepared) :
    RefusesWith Error.IsOwn (s.writeNoRows name t c records).2 := by
  unfold writeNoRows
  split
  rename_i s' c' outcome looked
  have known : c'.failure = none ∧ RefusesWith Error.IsOwn outcome := by
    split at looked
    · cases looked
      exact ⟨settled, refusesWith_ok _⟩
    · cases looked
      exact ⟨(failure_find ..).trans ((failure_recover ..).trans settled), isOwn_looked ..⟩
  split
  · exact known.2
  · dsimp only
    split
    · rename_i e refused
      refine refusesWith_error (isOwn_unbound ?_ _ ?_)
      · simp [Connection.begin, Connection.remember, known.1]
      · exact (refusesWith_mapM isOwn_cells records).of_eq refused
    · exact isOwn_commit ..

/-- Adding rows to a table is refused for what is wrong with the table or a row. -/
theorem isOwn_added {d : Database} {table : String} {records : List Prepared}
    {isBroken isStuck : Bool} :
    RefusesWith Error.IsOwn (if isBroken then (some d, .error .broken)
      else if isStuck then (some d, .error .cannotOpen)
      else addRows d table records : Option Database × Except Error Unit).2 := by
  split
  · exact refusesWith_error nofun
  · split
    · exact refusesWith_error nofun
    · exact isOwn_addRows ..

theorem isOwn_writePrepared (s : Session) (name : String) (t : TableSink) (c : Connection)
    (records : List Prepared) :
    RefusesWith Error.IsOwn (s.writePrepared name t c records).2 := by
  unfold writePrepared
  split
  · exact refusesWith_error nofun
  · dsimp only
    split
    · rename_i e refused
      exact refusesWith_error ((isOwn_find ..).of_eq refused)
    · split
      · rename_i e refused
        exact refusesWith_error ((isOwn_checkHold ..).of_eq refused)
      · split
        · rename_i e refused
          exact refusesWith_error ((isOwn_holdTable ..).of_eq (congrArg Prod.snd refused))
        · split
          · rename_i added
            exact congrArg Prod.snd added ▸ isOwn_added
          · rename_i added
            split
            · exact congrArg Prod.snd added ▸ isOwn_added
            · exact isOwn_commit ..

/-! ## Records that are to be written -/

theorem isOwn_notOpen : Error.notOpen.IsOwn := nofun

theorem isOwn_unencodable (stray : Text.Stray) : (Error.unencodable stray).IsOwn := nofun

theorem isOwn_encode (records : List Document) :
    RefusesWith Error.IsOwn (JsonLines.encode records).2 := by
  refine ⟨fun failed => ?_⟩
  obtain ⟨stray, rfl⟩ := JsonLines.exists_stray_of_encode failed
  exact isOwn_unencodable stray

theorem isOwn_writeLines (s : Session) (name : String) (lines : LineSink)
    (records : List Document) : RefusesWith Error.IsOwn (s.writeLines name lines records).2 := by
  cases isOpen : lines.handle with
  | none =>
    rw [writeLines, isOpen]
    exact refusesWith_error isOwn_notOpen
  | some handle =>
    obtain ⟨_, _, same⟩ := @exists_writeLines_eq s name lines handle isOpen records
    rw [same]
    exact isOwn_encode records

theorem isOwn_writeRows {t : TableSink} (known : ∀ c ∈ t.connection, c.failure = none)
    (records : List Document) : RefusesWith Error.IsOwn (s.writeRows name t records).2 := by
  unfold writeRows
  split
  · rename_i e refused
    exact refusesWith_error ((refusesWith_mapM isOwn_prepare records).of_eq refused)
  · split
    · exact refusesWith_error isOwn_notOpen
    · rename_i c connected
      dsimp only
      split
      · exact isOwn_writeNoRows (known c connected) ..
      · exact isOwn_writePrepared ..

theorem isOwn_write (settled : s.IsSettled name) (records : List Document) :
    RefusesWith Error.IsOwn (s.write name records).2 := by
  unfold write
  split
  · exact refusesWith_error nofun
  · exact isOwn_writeLines ..
  · rename_i t bound
    exact isOwn_writeRows
      (fun c connected => settled t c (connection?_eq_some_iff.mpr ⟨bound, connected⟩)) records

end Session
end Sink
end LogTemplate
