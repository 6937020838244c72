import ClusterConsole.View.Event
import ClusterConsole.View.Source

/-! # The view and its tasks

A view shows the nodes of the last fetch that counted. Mounting it starts a fetch as a task of its own;
unmounting it aborts the task, if its handle is still there, and forgets the nodes. Each mounting and
unmounting begins a new generation, and a fetch of an older generation changes nothing.

All tasks run on one thread. A task runs until it waits or ends, and only then the next one may run. -/

namespace ClusterConsole.View

/-- The view itself. -/
structure State where
  nodes : List NodeRecord := []
  mounted : Bool := false
  generation : Nat := 0
  /-- The task of the fetch that was started last, unless someone took it. -/
  handle : Option Nat := none
deriving DecidableEq, Repr

/-- What a task is there for. -/
inductive Work where
  /-- Fetches for the mounting of a generation. -/
  | fetch (generation : Nat)
  /-- Fetches for whoever asks. -/
  | load
  /-- Waits for the end of the fetch. -/
  | settle
deriving DecidableEq, Repr

/-- How a task ended. -/
inductive End where
  | finished
  | panicked
  | cancelled
deriving DecidableEq, Repr

/-- How far a task is. -/
inductive Stage where
  | spawned
  /-- In a call of the source. A task that is aborted there goes on until it would wait, and ends then. -/
  | running (call : Nat) (aborted : Bool)
  /-- At a gate of the call, with the steps that come behind it. -/
  | waiting (call : Nat) (rest : List Step)
  /-- The gate is open. -/
  | released (call : Nat) (rest : List Step)
  /-- Waits for the end of another task. -/
  | joining (task : Nat)
  /-- Ends when it would run next. -/
  | aborted
  | ended (how : End)
deriving DecidableEq, Repr

/-- A task. -/
structure Task where
  work : Work
  stage : Stage := .spawned
deriving DecidableEq, Repr

/-- A view with all that goes on around it. Tasks are known by their number. -/
structure World where
  view : State := {}
  tasks : List Task := []
  /-- The tasks that can go on, in the order in which they became able to. -/
  ready : List Nat := []
  /-- The tasks at gates that are not open yet, in the order in which they came there. -/
  gates : List Nat := []
  /-- How many calls the source has had. -/
  calls : Nat := 0
  broadcast : Broadcast := {}
  log : List LogEntry := []
deriving DecidableEq, Repr

namespace World

/-- The stage of a task. -/
def stage? (w : World) (task : Nat) : Option Stage :=
  w.tasks[task]?.map Task.stage

/-- Reports entries. -/
def report (w : World) (entries : List LogEntry) : World :=
  { w with log := w.log ++ entries }

/-- Tells subscribers of an event. -/
def send (w : World) (event : Event) : World :=
  { w with broadcast := w.broadcast.send event }

/-! ### Tasks -/

/-- Brings a task to a stage. -/
def setStage (w : World) (task : Nat) (stage : Stage) : World :=
  { w with tasks := w.tasks.modify task fun t => { t with stage } }

/-- Lets tasks go on, after those that can already. -/
def wake (w : World) (tasks : List Nat) : World :=
  { w with ready := w.ready ++ tasks }

/-- Starts a task. It is the one with the highest number. -/
def spawn (w : World) (work : Work) : World :=
  { w with tasks := w.tasks ++ [⟨work, .spawned⟩], ready := w.ready ++ [w.tasks.length] }

/-- The tasks that wait for the end of another one. -/
def joiners (w : World) (task : Nat) : List Nat :=
  (List.range w.tasks.length).filter fun other => w.stage? other = some (.joining task)

/-- Ends a task. Those who wait for it can go on. -/
def finish (w : World) (task : Nat) (how : End) : World :=
  (w.setStage task (.ended how)).wake (w.joiners task)

/-- Aborts a task unless it has ended. One that is just running goes on until it would wait. -/
def abort (w : World) (task : Nat) : World :=
  match w.stage? task with
  | some .spawned | some (.released _ _) => w.setStage task .aborted
  | some (.waiting _ _) | some (.joining _) => (w.setStage task .aborted).wake [task]
  | some (.running call _) => w.setStage task (.running call true)
  | some .aborted | some (.ended _) | none => w

/-! ### The view -/

/-- Mounts the view and starts its fetch, unless it is mounted already. -/
def mount (w : World) : Bool × World :=
  if w.view.mounted then (false, w.report [.alreadyMounted])
  else
    let generation := w.view.generation + 1
    let view := { w.view with mounted := true, generation, handle := some w.tasks.length }
    (true, { w with view }.spawn (.fetch generation))

/-- Aborts the fetch if its handle is there. -/
def abortFetch (w : World) : World :=
  match w.view.handle with
  | none => w
  | some task => { w with view := { w.view with handle := none } }.abort task

/-- Unmounts the view, aborts its fetch and forgets the nodes. -/
def unmount (w : World) : World :=
  let w := w.abortFetch
  { w with view := { w.view with mounted := false, generation := w.view.generation + 1, nodes := [] } }

/-- Shows other nodes, in their order. -/
def succeed (w : World) (nodes : List NodeRecord) : World :=
  let sorted := NodeRecord.sort nodes
  ({ w with view := { w.view with nodes := sorted } }.report [.updated]).send (.replaced sorted.length)

/-- Tells of a failure. -/
def fail (w : World) (error : FetchError) : World :=
  (w.report [.fetchFailed]).send (.failed error.message)

/-- Takes the outcome of the fetch of a generation, which counts only if that is still the generation. -/
def complete (w : World) (generation : Nat) (answer : Except FetchError (List NodeRecord)) : World :=
  if w.view.generation ≠ generation then w.report [.staleOutcome]
  else
    match answer with
    | .ok nodes => w.succeed nodes
    | .error error => w.fail error

/-! ### Running a task -/

/-- Takes the answer of the source for a task. -/
def take (w : World) (work : Work) (answer : Except FetchError (List NodeRecord)) : World :=
  match work, answer with
  | .fetch generation, answer => w.complete generation answer
  | _, .ok nodes => w.succeed nodes
  | _, .error error => w.fail error

/-- A task calls the source. The call is counted and reports its entries. -/
def beginCall (w : World) (task : Nat) (call : Call) : World :=
  ({ w with calls := w.calls + 1 }.report call.log).setStage task (.running w.calls false)

/-- A task comes to a gate in its call. It waits there, unless it has been aborted. -/
def await (w : World) (task : Nat) (rest : List Step) : World :=
  let w := { w with gates := w.gates ++ [task] }
  match w.stage? task with
  | some (.running call false) => w.setStage task (.waiting call rest)
  | _ => w

/-- A task goes on behind an open gate. -/
def resume (w : World) (task : Nat) : World :=
  match w.stage? task with
  | some (.released call _) => w.setStage task (.running call false)
  | _ => w

/-- Whether a task has been aborted as it runs. -/
def isDoomed (w : World) (task : Nat) : Bool :=
  match w.stage? task with
  | some (.running _ true) => true
  | _ => false

/-- A call of the source goes on, through its steps, until its task waits or ends. -/
def proceed (w : World) (task : Nat) (work : Work) (outcome : Outcome (List NodeRecord)) : List Step → World
  | [] =>
    match outcome with
    | .answered nodes => (w.take work (.ok nodes)).finish task .finished
    | .failed error => (w.take work (.error error)).finish task .finished
    | .panicked => w.finish task .panicked
  | .wait :: rest =>
    let w := w.await task rest
    if w.isDoomed task then w.finish task .cancelled else w
  | .mount :: rest => proceed w.mount.2 task work outcome rest
  | .unmount :: rest => proceed w.unmount task work outcome rest

/-- A task calls the source, and the call goes on. -/
def call (source : Source) (w : World) (task : Nat) (work : Work) : World :=
  let call := source w.calls
  (w.beginCall task call).proceed task work call.outcome call.steps

/-- A task waits for the end of another one. It tells when that one died. -/
def join (w : World) (task target : Nat) : World :=
  match w.stage? target with
  | some (.ended .panicked) => (w.report [.taskPanicked]).finish task .finished
  | some (.ended _) | none => w.finish task .finished
  | some _ => w.setStage task (.joining target)

/-- A task takes the handle of the fetch and waits for its end. -/
def settle (w : World) (task : Nat) : World :=
  match w.view.handle with
  | none => w.finish task .finished
  | some target => { w with view := { w.view with handle := none } }.join task target

/-- A task runs until it waits or ends. One that waits already or has ended does nothing. -/
def poll (source : Source) (w : World) (task : Nat) : World :=
  match w.tasks[task]? with
  | none => w
  | some ⟨work, stage⟩ =>
    match stage with
    | .spawned =>
      match work with
      | .settle => w.settle task
      | work => w.call source task work
    | .released call rest => (w.resume task).proceed task work (source call).outcome rest
    | .joining target => w.join task target
    | .aborted => w.finish task .cancelled
    | .running _ _ | .waiting _ _ | .ended _ => w

end World

end ClusterConsole.View
