import Mathlib.Data.List.Induction
import Mathlib.Logic.Function.Iterate
import LogTemplate.Proofs.Course
import LogTemplate.Watch

/-!
# A watch over time

A watch is told of events, and timers go off, in any order.  Main statement: the watch waits for a
timer exactly if the file has changed since the last one went off, and each time that one goes off
which it waits for the action is taken once, whether it fails or not.  A timer can also go off late,
or an event come between a timer and the action: no change is lost then either.
-/

namespace LogTemplate

/-- The events that change the file at a place, as paths are resolved when the watch is told of
them: a file is modified or made there, or moved there.  Directories do not count, nor does what
leaves the place. -/
inductive FileEvent.IsChangeOf (resolve : Resolving) (target : Path) : FileEvent → Prop
  | modified {path : Path} (here : resolve path = some target) :
    IsChangeOf resolve target ⟨.modified path, false⟩
  | created {path : Path} (here : resolve path = some target) :
    IsChangeOf resolve target ⟨.created path, false⟩
  | moved {source destination : Path} (here : resolve destination = some target) :
    IsChangeOf resolve target ⟨.moved source destination, false⟩

namespace Watch

variable {State : Type} {action : State → Logged (State × Except String Unit)}
  {resolve : Resolving}

theorem isConcerned_iff {watch : Watch} {event : FileEvent} :
    watch.isConcerned resolve event = true ↔ event.IsChangeOf resolve watch.target := by
  obtain ⟨change, isDirectory⟩ := event
  rw [isConcerned, Bool.and_eq_true, Bool.not_eq_true', beq_iff_eq]
  constructor
  · rintro ⟨rfl, here⟩
    cases change with
    | modified => exact .modified here
    | created => exact .created here
    | moved => exact .moved here
  · intro changes
    cases changes <;> exact ⟨rfl, ‹_›⟩

/-! ## One step -/

theorem target_rearmed (watch : Watch) : watch.rearmed.target = watch.target := by
  rw [rearmed, cancelled]
  split <;> rfl

@[simp] theorem target_observe (watch : Watch) (event : FileEvent) :
    (watch.observe resolve event).target = watch.target := by
  rw [observe]
  split
  · exact target_rearmed watch
  · rfl

theorem isArmed_observe (watch : Watch) (event : FileEvent) :
    (watch.observe resolve event).isArmed = (watch.isArmed || watch.isConcerned resolve event) := by
  rw [observe]
  cases watch.isConcerned resolve event <;> simp [isArmed, rearmed]

/-- No timer runs but the one that the watch waits for, and none is late. -/
structure IsTimed (watch : Watch) : Prop where
  running : watch.running = watch.pending.toList
  due : watch.due = []

/-- A timer that is started takes the place of the one before, which is cancelled. -/
theorem IsTimed.observe {watch : Watch} (timed : watch.IsTimed) (event : FileEvent) :
    (watch.observe resolve event).IsTimed := by
  rw [Watch.observe]
  split
  · have none_left : watch.cancelled.running = [] ∧ watch.cancelled.due = [] := by
      rw [cancelled]
      split
      · rename_i timer waiting
        simp [timed.running, timed.due, waiting]
      · rename_i waiting
        simp [timed.running, timed.due, waiting]
    constructor
    · rw [rearmed, none_left.1]
      rfl
    · exact none_left.2
  · exact timed

/-- The watch when the file has settled: it waits for no timer, and none runs. -/
def settled (watch : Watch) : Watch := { watch with pending := none, running := [] }

/-- What the action makes of a state. -/
def effect (action : State → Logged (State × Except String Unit)) (state : State) : State :=
  (action state).value.1

/-- A failing action is an action taken. -/
theorem value_act (watch : Watch) (state : State) :
    (watch.act state action).value = effect action state := by
  simp only [act, Logged.value_bind, effect]
  split <;> rfl

theorem value_goOff (watch : Watch) (timer : Nat) (state : State) :
    (watch.goOff timer state action).value = (watch.disarmed timer, effect action state) := by
  simp only [goOff, Logged.value_bind, value_act, Logged.value_pure]

/-- When the file settles, the action is taken if the watch is armed, and only then, and the watch
is armed no more. -/
theorem IsTimed.settle {watch : Watch} (timed : watch.IsTimed) (state : State) :
    (watch.settle state action).value =
      (watch.settled, if watch.isArmed then effect action state else state) := by
  have runs := timed.running
  rw [Watch.settle]
  cases waiting : watch.pending with
  | none =>
    rw [waiting, Option.toList_none] at runs
    have same : watch.settled = watch := by
      rw [settled, ← runs, ← waiting]
    simp [runs, isArmed, waiting, same]
  | some timer =>
    rw [waiting, Option.toList_some] at runs
    have gone : (watch.expired timer).disarmed timer = watch.settled := by
      simp [expired, disarmed, settled, waiting, runs, timed.due]
    simp only [runs, value_goOff, gone, isArmed, waiting, Option.isSome_some, if_true]

/-! ## A course of turns -/

/-- The action, counting how often it is taken. -/
def counted (action : State → Logged (State × Except String Unit)) (s : State × Nat) :
    Logged ((State × Nat) × Except String Unit) := do
  let (state, outcome) ← action s.1
  return ((state, s.2 + 1), outcome)

theorem effect_counted (s : State × Nat) :
    effect (counted action) s = (effect action s.1, s.2 + 1) := rfl

/-- An event that a watch is told of, and where paths lead when it is. -/
structure Notice where
  resolve : Resolving
  event : FileEvent

/-- Whether a notice is of a change of the file at a place. -/
def Notice.IsChange (target : Path) (notice : Notice) : Prop :=
  notice.event.IsChangeOf notice.resolve target

/-- What happens to a watch: it is told of an event, or a timer goes off, if one runs. -/
inductive Turn where
  | told (notice : Notice)
  | firing

/-- Whether a turn lets a timer go off. -/
def Turn.isFiring : Turn → Bool
  | .told _ => false
  | .firing => true

/-- A watch, what its action has made of a state, and how often the action has been taken. -/
structure Course (State : Type) where
  watch : Watch
  state : State
  calls : Nat := 0

namespace Course

/-- How a course goes on with a turn. -/
def next (action : State → Logged (State × Except String Unit)) (c : Course State) :
    Turn → Course State
  | .told notice => { c with watch := c.watch.observe notice.resolve notice.event }
  | .firing =>
    let after := (c.watch.settle (c.state, c.calls) (counted action)).value
    ⟨after.1, after.2.1, after.2.2⟩

/-- The course of turns that starts with a new watch on the file at a place. -/
def run (action : State → Logged (State × Except String Unit)) (target : Path) (state : State)
    (turns : List Turn) : Course State :=
  turns.foldl (next action) ⟨{ target }, state, 0⟩

theorem next_firing {c : Course State} (timed : c.watch.IsTimed) :
    c.next action .firing =
      ⟨c.watch.settled, if c.watch.isArmed then effect action c.state else c.state,
        c.calls + if c.watch.isArmed then 1 else 0⟩ := by
  rw [next, timed.settle, effect_counted]
  cases c.watch.isArmed <;> rfl

variable {target : Path} {state : State}

theorem run_concat (turns : List Turn) (turn : Turn) :
    run action target state (turns ++ [turn]) =
      (run action target state turns).next action turn := by
  rw [run, List.foldl_concat, run]

/-- The file that is watched stays the same, and a timer that the watch does not wait for never
runs. -/
theorem keeps_run {turns : List Turn} :
    (run action target state turns).watch.IsTimed
      ∧ (run action target state turns).watch.target = target := by
  induction turns using List.reverseRecOn with
  | nil => exact ⟨⟨rfl, rfl⟩, rfl⟩
  | append_singleton turns turn ih =>
    obtain ⟨timed, place⟩ := ih
    rw [run_concat]
    cases turn with
    | told notice => exact ⟨timed.observe notice.event, (target_observe _ notice.event).trans place⟩
    | firing =>
      rw [next_firing timed]
      exact ⟨⟨rfl, timed.due⟩, place⟩

theorem isArmed_run_told (turns : List Turn) (notice : Notice) :
    (run action target state (turns ++ [.told notice])).watch.isArmed = true ↔
      (run action target state turns).watch.isArmed = true ∨ notice.IsChange target := by
  have place := (@keeps_run _ action target state turns).2
  rw [run_concat, next, isArmed_observe, Bool.or_eq_true, isConcerned_iff, place,
    Notice.IsChange]

theorem isArmed_run_firing (turns : List Turn) :
    (run action target state (turns ++ [.firing])).watch.isArmed = false := by
  rw [run_concat, next_firing keeps_run.1]
  rfl

theorem calls_run_concat (turns : List Turn) (turn : Turn) :
    (run action target state (turns ++ [turn])).calls =
      (run action target state turns).calls +
        if turn.isFiring && (run action target state turns).watch.isArmed then 1 else 0 := by
  rw [run_concat]
  cases turn with
  | told => rfl
  | firing =>
    rw [next_firing keeps_run.1]
    rfl

/-- The watch waits for a timer exactly if a change has come since the last one went off. -/
theorem isArmed_run_iff (turns : List Turn) :
    (run action target state turns).watch.isArmed = true ↔
      ∃ earlier notice later, turns = earlier ++ .told notice :: later
        ∧ notice.IsChange target ∧ .firing ∉ later := by
  induction turns using List.reverseRecOn with
  | nil => simp [run, isArmed]
  | append_singleton turns turn ih =>
    simp only [concat_eq_append_cons_iff]
    cases turn with
    | told notice =>
      rw [isArmed_run_told, ih]
      constructor
      · rintro (⟨earlier, change, later, split, changes, quiet⟩ | changes)
        · exact ⟨earlier, change, _, .inr ⟨later, rfl, split⟩, changes, by simpa using quiet⟩
        · exact ⟨turns, notice, [], .inl ⟨rfl, rfl, rfl⟩, changes, List.not_mem_nil⟩
      · rintro ⟨earlier, change, later, ⟨same, -, -⟩ | ⟨between, rfl, split⟩, changes, quiet⟩
        · cases same
          exact .inr changes
        · refine .inl ⟨earlier, change, between, split, changes, fun member => ?_⟩
          exact quiet (List.mem_append_left _ member)
    | firing =>
      rw [isArmed_run_firing]
      constructor
      · exact fun armed => absurd armed Bool.false_ne_true
      · rintro ⟨earlier, change, later, ⟨same, -, -⟩ | ⟨between, rfl, -⟩, -, quiet⟩
        · cases same
        · exact absurd (List.mem_append_right between List.mem_cons_self) quiet

/-- Events arm the watch if a change is among them. -/
theorem isArmed_run_burst (turns : List Turn) (burst : List Notice) :
    (run action target state (turns ++ burst.map .told)).watch.isArmed = true ↔
      (run action target state turns).watch.isArmed = true
        ∨ ∃ notice ∈ burst, notice.IsChange target := by
  induction burst using List.reverseRecOn with
  | nil => simp
  | append_singleton burst notice ih =>
    rw [List.map_append, ← List.append_assoc, List.map_singleton, isArmed_run_told, ih]
    simp only [List.mem_append, List.mem_singleton, or_and_right, exists_or, exists_eq_left,
      or_assoc]

/-- The action is taken at the firings that find the watch armed. -/
theorem calls_run (turns : List Turn) :
    (run action target state turns).calls =
      (List.range turns.length).countP fun i => turns[i]?.any Turn.isFiring
        && (run action target state (turns.take i)).watch.isArmed := by
  induction turns using List.reverseRecOn with
  | nil => rfl
  | append_singleton turns turn ih =>
    have count := countP_range_concat (fun earlier turn => Option.any Turn.isFiring turn
      && (run action target state earlier).watch.isArmed) turns turn
    rw [count, calls_run_concat, ih]
    rfl

theorem state_run (turns : List Turn) :
    (run action target state turns).state =
      (effect action)^[(run action target state turns).calls] state := by
  induction turns using List.reverseRecOn with
  | nil => rfl
  | append_singleton turns turn ih =>
    rw [run_concat]
    cases turn with
    | told => exact ih
    | firing =>
      rw [next_firing keeps_run.1]
      cases (run action target state turns).watch.isArmed with
      | false => exact ih
      | true => simp only [if_true, Function.iterate_succ_apply', ih]

/-- Events alone do not make the watch take its action, however many there are. -/
theorem calls_run_told (turns : List Turn) (burst : List Notice) :
    (run action target state (turns ++ burst.map .told)).calls =
      (run action target state turns).calls := by
  induction burst using List.reverseRecOn with
  | nil => simp
  | append_singleton burst notice ih =>
    rw [List.map_append, ← List.append_assoc, List.map_singleton, calls_run_concat, ih]
    rfl

/-- A watch on the file at a place, after any turns, with an action that may fail or not whenever it
is taken.  Where paths lead may be another place at each event.  The watch is armed exactly if a
change of the file has come since the last firing; no other timer runs than the one it waits for.
The action has been taken as often as a firing has found the watch armed, and the state is what that
many actions make of it.  Events before a firing lead to one action if a change is among them,
however many there are, and to none before it; without a change since the last firing there is
none. -/
theorem action_taken_once_per_burst (action : State → Logged (State × Except String Unit))
    (target : Path) (state : State) (turns : List Turn) :
    ((run action target state turns).watch.isArmed = true ↔
        ∃ earlier notice later, turns = earlier ++ .told notice :: later
          ∧ notice.IsChange target ∧ .firing ∉ later)
      ∧ (run action target state turns).watch.running =
        (run action target state turns).watch.pending.toList
      ∧ ((run action target state turns).calls =
        (List.range turns.length).countP fun i => turns[i]?.any Turn.isFiring
          && (run action target state (turns.take i)).watch.isArmed)
      ∧ (run action target state turns).state =
        (effect action)^[(run action target state turns).calls] state
      ∧ ∀ burst : List Notice,
        (run action target state (turns ++ burst.map .told)).calls =
            (run action target state turns).calls
          ∧ ((∃ notice ∈ burst, notice.IsChange target) →
            (run action target state (turns ++ burst.map .told ++ [.firing])).calls =
              (run action target state turns).calls + 1)
          ∧ ((∀ notice ∈ burst, ¬ notice.IsChange target) →
            (run action target state (turns ++ [.firing] ++ burst.map .told ++ [.firing])).calls =
              (run action target state (turns ++ [.firing])).calls) := by
  refine ⟨isArmed_run_iff turns, keeps_run.1.running, calls_run turns, state_run turns,
    fun burst => ⟨calls_run_told turns burst, ?_, ?_⟩⟩
  · intro changed
    rw [calls_run_concat, calls_run_told, (isArmed_run_burst turns burst).mpr (.inr changed)]
    rfl
  · intro unchanged
    have idle : (run action target state
        (turns ++ [.firing] ++ burst.map .told)).watch.isArmed = false := by
      rw [Bool.eq_false_iff, Ne, isArmed_run_burst, isArmed_run_firing]
      rintro (armed | ⟨notice, member, changes⟩)
      · exact Bool.false_ne_true armed
      · exact unchanged notice member changes
    rw [calls_run_concat, calls_run_told, idle]
    rfl

/-- A file that is written through a link to it has changed. -/
example :
    let target : Path := ⟨"/", ["real", "p.json"]⟩
    let resolve : Resolving := fun path =>
      if path = ⟨"", ["link", "p.json"]⟩ then some target else some path
    let notice : Notice := ⟨resolve, ⟨.modified ⟨"", ["link", "p.json"]⟩, false⟩⟩
    (run (fun n : Nat => pure (n + 1, .ok ())) target 0 [.told notice, .told notice, .firing]).state
      = 1 := by
  decide

end Course

/-! ## Timers between events

The time of a timer being up, the timer going off and the action that it leads to are three moments,
with events and other timers between them. -/

/-- One moment in the life of a watch. -/
inductive Moment where
  | told (notice : Notice)
  /-- The time of a timer is up, if it runs. -/
  | expiry (timer : Nat)
  /-- A timer goes off, if it is due, and the action is to be taken. -/
  | release (timer : Nat)
  /-- The action is taken, if it is to be. -/
  | act

/-- A course, and how often the action is still to be taken. -/
structure Progress (State : Type) extends Course State where
  owed : Nat := 0

namespace Progress

/-- How things go on with a moment. -/
def next (action : State → Logged (State × Except String Unit)) (c : Progress State) :
    Moment → Progress State
  | .told notice => { c with watch := c.watch.observe notice.resolve notice.event }
  | .expiry timer =>
    if timer ∈ c.watch.running then { c with watch := c.watch.expired timer } else c
  | .release timer =>
    if timer ∈ c.watch.due then { c with watch := c.watch.disarmed timer, owed := c.owed + 1 }
    else c
  | .act =>
    if c.owed = 0 then c
    else
      { c with
        state := (c.watch.act c.state action).value
        calls := c.calls + 1
        owed := c.owed - 1 }

/-- The progress of a new watch on the file at a place. -/
def run (action : State → Logged (State × Except String Unit)) (target : Path) (state : State)
    (moments : List Moment) : Progress State :=
  moments.foldl (next action) ⟨⟨{ target }, state, 0⟩, 0⟩

variable {target : Path} {state : State}

/-- How often a timer has gone off. -/
def begun (c : Progress State) : Nat := c.calls + c.owed

theorem run_concat (moments : List Moment) (moment : Moment) :
    run action target state (moments ++ [moment]) =
      (run action target state moments).next action moment := by
  rw [run, List.foldl_concat, run]

/-- Settling is three moments without others between them. -/
theorem next_firing_eq (c : Course State) :
    c.next action .firing =
      (c.watch.running.head?.elim (⟨c, 0⟩ : Progress State) fun timer =>
        [.expiry timer, .release timer, .act].foldl (next action) ⟨c, 0⟩).toCourse := by
  rw [Course.next, settle]
  rcases runs : c.watch.running with - | ⟨timer, others⟩
  · rfl
  · simp [next, runs, expired, value_goOff, value_act, effect_counted]

theorem target_run (moments : List Moment) :
    (run action target state moments).watch.target = target := by
  induction moments using List.reverseRecOn with
  | nil => rfl
  | append_singleton moments moment ih =>
    rw [run_concat]
    cases moment with
    | told notice => exact (target_observe _ notice.event).trans ih
    | expiry | release | act =>
      rw [next]
      split <;> exact ih

/-- A watch is in order if the timer that it waits for runs or is due. -/
def IsInOrder (watch : Watch) : Prop :=
  ∀ timer, watch.pending = some timer → timer ∈ watch.running ∨ timer ∈ watch.due

theorem IsInOrder.next {c : Progress State} (sane : IsInOrder c.watch) (moment : Moment) :
    IsInOrder (c.next action moment).watch := by
  cases moment with
  | told notice =>
    rw [Progress.next, observe]
    split
    · rintro timer waited
      obtain rfl := Option.some.inj waited
      exact .inl (List.mem_concat_self ..)
    · exact sane
  | expiry timer =>
    rw [Progress.next]
    split
    · rintro other waited
      rcases eq_or_ne other timer with rfl | ne
      · exact .inr (List.mem_concat_self ..)
      · exact (sane other waited).imp ((List.mem_erase_of_ne ne).mpr ·)
          (List.mem_append_left _ ·)
    · exact sane
  | release timer =>
    rw [Progress.next]
    split
    · rintro other waited
      rw [disarmed] at waited
      split at waited
      · cases waited
      · rename_i late
        have ne : other ≠ timer := fun same => late (same ▸ waited)
        exact (sane other waited).imp_right ((List.mem_erase_of_ne ne).mpr ·)
    · exact sane
  | act =>
    rw [Progress.next]
    split <;> exact sane

theorem isInOrder_run (moments : List Moment) :
    IsInOrder (run action target state moments).watch := by
  induction moments using List.reverseRecOn with
  | nil => nofun
  | append_singleton moments moment ih =>
    rw [run_concat]
    exact ih.next moment

/-- A timer that goes off disarms the watch only if the watch waits for it: a late one does not. -/
theorem isArmed_release (c : Progress State) (timer : Nat) :
    (c.next action (.release timer)).watch.isArmed =
      (c.watch.isArmed && !(timer ∈ c.watch.due && c.watch.pending = some timer)) := by
  rw [next]
  by_cases due : timer ∈ c.watch.due
  · by_cases waited : c.watch.pending = some timer <;> simp [due, waited, disarmed, isArmed]
  · simp [due]

/-- An armed watch stays armed until the timer that it waits for goes off. -/
theorem isArmed_next {c : Progress State} (armed : c.watch.isArmed = true) (moment : Moment) :
    (c.next action moment).watch.isArmed = true ∨ c.begun < (c.next action moment).begun := by
  cases moment with
  | told notice => exact .inl (by simp [next, isArmed_observe, armed])
  | expiry timer =>
    rw [next]
    split <;> exact .inl armed
  | release timer =>
    rw [next]
    split
    · exact .inr (Nat.lt_succ_self _)
    · exact .inl armed
  | act =>
    rw [next]
    split <;> exact .inl armed

theorem begun_le_next (c : Progress State) (moment : Moment) :
    c.begun ≤ (c.next action moment).begun := by
  cases moment with
  | told notice => exact Nat.le_refl _
  | expiry timer =>
    rw [next]
    split <;> exact Nat.le_refl _
  | release timer =>
    rw [next]
    split
    · exact Nat.le_succ _
    · exact Nat.le_refl _
  | act =>
    rw [next]
    split
    · exact Nat.le_refl _
    · simp only [begun]
      omega

/-- An armed watch is armed after any moments, or a timer has gone off. -/
theorem isArmed_foldl {c : Progress State} (armed : c.watch.isArmed = true)
    (moments : List Moment) :
    c.begun ≤ (moments.foldl (next action) c).begun
      ∧ ((moments.foldl (next action) c).watch.isArmed = true
        ∨ c.begun < (moments.foldl (next action) c).begun) := by
  induction moments using List.reverseRecOn with
  | nil => exact ⟨Nat.le_refl _, .inl armed⟩
  | append_singleton moments moment ih =>
    obtain ⟨later, still | gone⟩ := ih
    all_goals rw [List.foldl_concat]
    · exact ⟨Nat.le_trans later (begun_le_next _ moment),
        (isArmed_next still moment).imp_right (Nat.lt_of_le_of_lt later)⟩
    · exact ⟨Nat.le_trans later (begun_le_next _ moment),
        .inr (Nat.lt_of_lt_of_le gone (begun_le_next _ moment))⟩

/-- No change is lost, whatever comes between its timer and the action: once no timer runs and none
is due, one has gone off after the change. -/
theorem begun_lt_of_change {earlier later : List Moment} {notice : Notice}
    (change : notice.IsChange target)
    (none_running : (run action target state (earlier ++ .told notice :: later)).watch.running = [])
    (none_due : (run action target state (earlier ++ .told notice :: later)).watch.due = []) :
    (run action target state (earlier ++ [.told notice])).begun <
      (run action target state (earlier ++ .told notice :: later)).begun := by
  have armed : (run action target state (earlier ++ [.told notice])).watch.isArmed = true := by
    have place := @target_run _ action target state earlier
    rw [run_concat, next, isArmed_observe, isConcerned_iff.mpr (place.symm ▸ change), Bool.or_true]
  have split : run action target state (earlier ++ .told notice :: later) =
      later.foldl (next action) (run action target state (earlier ++ [.told notice])) := by
    rw [List.append_cons, run, List.foldl_append, run]
  have sane := @isInOrder_run _ action target state (earlier ++ .told notice :: later)
  rw [split] at none_running none_due sane ⊢
  refine (isArmed_foldl armed later).2.resolve_left fun still => ?_
  obtain ⟨timer, waited⟩ := Option.isSome_iff_exists.mp still
  rcases sane timer waited with runs | due
  · exact List.not_mem_nil (none_running ▸ runs)
  · exact List.not_mem_nil (none_due ▸ due)

end Progress

end Watch

end LogTemplate
