import ClusterConsole.View.World

/-! # Runs of a view

A run is a list of actions: what is asked of the view, gates that open, and turns of tasks. Any task that can
go on may have the next turn. When nobody chooses, the one that has been able to for longest has it. -/

namespace ClusterConsole.View

/-- What may happen to a view. -/
inductive Action where
  | mount
  | unmount
  /-- Starts a task that waits for the end of the fetch. -/
  | settle
  /-- Starts a task that fetches whether the view is mounted or not. -/
  | load
  | succeed (nodes : List NodeRecord)
  | fail (error : FetchError)
  | subscribe
  | drain (subscriber : Nat)
  | openGate
  /-- A task has its turn, if it can go on. -/
  | turn (task : Nat)
deriving DecidableEq, Repr

namespace World

/-- Opens the gate that is longest closed. -/
def openGate (w : World) : World :=
  match w.gates with
  | [] => w
  | task :: gates =>
    match w.stage? task with
    | some (.waiting call rest) => ({ w with gates }.setStage task (.released call rest)).wake [task]
    | _ => { w with gates }

/-- Whether the task at the gate that opens next is still there; none if no gate is closed. -/
def nextGate? (w : World) : Option Bool :=
  w.gates.head?.map fun task => w.stage? task != some (.ended .cancelled)

/-- A task has its turn, if it can go on. -/
def turn (source : Source) (w : World) (task : Nat) : World :=
  if task ∈ w.ready then { w with ready := w.ready.erase task }.poll source task else w

/-- The world after an action. -/
def act (source : Source) (w : World) : Action → World
  | .mount => w.mount.2
  | .unmount => w.unmount
  | .settle => w.spawn .settle
  | .load => w.spawn .load
  | .succeed nodes => w.succeed nodes
  | .fail error => w.fail error
  | .subscribe => { w with broadcast := w.broadcast.subscribe }
  | .drain subscriber => { w with broadcast := (w.broadcast.drain subscriber).2 }
  | .openGate => w.openGate
  | .turn task => w.turn source task

/-- The world after a run. -/
def run (source : Source) (w : World) (actions : List Action) : World :=
  actions.foldl (act source) w

/-- Gives turns until no task can go on, but not more than a number of them. -/
def turns (source : Source) (w : World) : Nat → World
  | 0 => w
  | more + 1 =>
    match w.ready with
    | [] => w
    | task :: _ => turns source (w.turn source task) more

/-- A number of turns that is enough for a source of the given calls: no task has more than three while no gate is
    opened, and only what the calls do to the view starts further tasks. -/
def enoughTurns (w : World) (calls : List Call) : Nat :=
  3 * (w.tasks.length + (calls.flatMap fun call => call.during).length)

/-- Gives turns until no task can go on. -/
def quiesce (calls : List Call) (w : World) : World :=
  w.turns (.ofList calls) (w.enoughTurns calls)

/-- A new view that is mounted, with a task that waits for the end of its fetch, when no task can go on. The
    source answers at once. -/
def visit (source : Source) : World :=
  let w := ({} : World).mount.2.spawn .settle
  w.turns source (w.enoughTurns [])

/-- Whether a task has ended. -/
def hasEnded (w : World) (task : Nat) : Bool :=
  match w.stage? task with
  | some (.ended _) => true
  | _ => false

end World

end ClusterConsole.View
