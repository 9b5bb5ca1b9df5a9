import LogTemplate.Log
import LogTemplate.Path

/-!
# Watching a file

Whoever watches a file is told when it is written, made, or moved into place.  A change does not
take effect at once: it starts a timer in the place of the one that may still run, and when a timer
goes off the file has settled and the action is taken, once for all changes since the last time.

Where a path leads is up to the file system, which may have links on the way, and can be another
place each time that it is asked.  A timer whose time is up cannot be cancelled any more: it goes
off, late, even if the watch waits for another one by then.
-/

namespace LogTemplate

/-- What happens to a file or a directory. -/
inductive FileChange where
  | modified (path : Path)
  | created (path : Path)
  | moved (source destination : Path)
  deriving DecidableEq, Repr

/-- The path whose content a change makes new. -/
def FileChange.reached : FileChange → Path
  | .modified path => path
  | .created path => path
  | .moved _ destination => destination

/-- A change, and whether it concerns a directory. -/
structure FileEvent where
  change : FileChange
  isDirectory : Bool := false
  deriving DecidableEq, Repr

/-- Where paths lead: to a path without links or dots, or nowhere that the file system can tell. -/
abbrev Resolving := Path → Option Path

/-- Where paths lead for whoever is at a place of a file system without links. -/
def Resolving.linkless (home : Path.Place) : Resolving := fun path =>
  if path.hasZero then none else some (path.placeFrom home).path

/-- A watch on a file.  Timers are known by the number of those that were started before them. -/
structure Watch where
  /-- Where the watched file was when the watch was made. -/
  target : Path
  /-- The timer that the watch waits for. -/
  pending : Option Nat := none
  /-- The timers that were started, whose time is not up, and that have not been cancelled. -/
  running : List Nat := []
  /-- The timers whose time is up and that have not gone off. -/
  due : List Nat := []
  /-- How many timers have been started. -/
  started : Nat := 0
  deriving Repr

namespace Watch

/-- A new watch on the file that a path leads to. -/
def on? (resolve : Resolving) (path : Path) : Option Watch := (resolve path).map ({ target := · })

/-- Whether the file has changed since the action was last taken. -/
def isArmed (watch : Watch) : Bool := watch.pending.isSome

/-- Whether an event is a change of the watched file. -/
def isConcerned (resolve : Resolving) (watch : Watch) (event : FileEvent) : Bool :=
  !event.isDirectory && resolve event.change.reached == some watch.target

/-- Whether the path of a file leads nowhere that the file system can tell. -/
def isStray (resolve : Resolving) (event : FileEvent) : Bool :=
  !event.isDirectory && (resolve event.change.reached).isNone

/-- Cancels the timer that the watch waits for, unless its time is up. -/
def cancelled (watch : Watch) : Watch :=
  match watch.pending with
  | some timer => { watch with running := watch.running.erase timer }
  | none => watch

/-- Cancels the timer that the watch waits for and starts another one. -/
def rearmed (watch : Watch) : Watch :=
  { watch.cancelled with
    pending := some watch.started
    running := watch.cancelled.running ++ [watch.started]
    started := watch.started + 1 }

/-- Takes note of an event. -/
def observe (resolve : Resolving) (watch : Watch) (event : FileEvent) : Watch :=
  if watch.isConcerned resolve event then watch.rearmed else watch

/-- The watch when the time of a timer is up. -/
def expired (watch : Watch) (timer : Nat) : Watch :=
  { watch with running := watch.running.erase timer, due := watch.due ++ [timer] }

/-- The watch when a timer has gone off: it does not wait for that timer any more.  If it waits for
another one, this one is late, and a change has come that it does not stand for. -/
def disarmed (watch : Watch) (timer : Nat) : Watch :=
  { watch with
    pending := if watch.pending = some timer then none else watch.pending
    due := watch.due.erase timer }

/-- Takes the action.  If it fails, this is reported, and the watch goes on. -/
def act {State : Type} (watch : Watch) (state : State)
    (action : State → Logged (State × Except String Unit)) : Logged State := do
  Logged.write .info .watcher s!"Pattern file {watch.target.name} changed; reloading"
  let (state, outcome) ← action state
  match outcome with
  | .ok () => return state
  | .error e =>
    Logged.write .error .watcher s!"Reload of {watch.target.text} failed: {e}"
    return state

/-- Lets a due timer go off.  The watch is disarmed first, so that a change that comes while the
action is taken arms it again. -/
def goOff {State : Type} (watch : Watch) (timer : Nat) (state : State)
    (action : State → Logged (State × Except String Unit)) : Logged (Watch × State) := do
  let watch := watch.disarmed timer
  let state ← watch.act state action
  return (watch, state)

/-- Lets the file settle: the time of the next timer is up and it goes off, if one runs.  All run
for the same time, so the next one is the one that was started first. -/
def settle {State : Type} (watch : Watch) (state : State)
    (action : State → Logged (State × Except String Unit)) : Logged (Watch × State) :=
  match watch.running with
  | [] => return (watch, state)
  | timer :: _ => (watch.expired timer).goOff timer state action

end Watch

end LogTemplate
