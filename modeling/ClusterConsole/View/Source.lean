import ClusterConsole.Node.Record
import ClusterConsole.Registry.Outcome

/-! # Sources of nodes

A source answers calls for the list of nodes. What each call does is fixed by its number: where it waits, what it
does to the view that called it, and what comes of it. -/

namespace ClusterConsole.View

/-- What a call may do before it comes to its outcome. -/
inductive Step where
  /-- It waits at a gate until that is opened. -/
  | wait
  /-- It mounts the view that made it. -/
  | mount
  /-- It unmounts the view that made it. -/
  | unmount
deriving DecidableEq, Repr

/-- A call: it reports its entries, waits at a gate if it has one to begin with, does what it does then, and comes to
    its outcome. -/
structure Call where
  outcome : Outcome (List NodeRecord)
  gated : Bool := false
  during : List Step := []
  log : List LogEntry := []
deriving DecidableEq, Repr

/-- The steps of a call, from its beginning to its outcome. -/
def Call.steps (call : Call) : List Step :=
  if call.gated then .wait :: call.during else call.during

/-- A source: its calls by their number, counted from zero. -/
abbrev Source := Nat → Call

/-- The call that comes to an answer at once. -/
def Call.ofAnswer (answer : Answer (List NodeRecord)) : Call where
  outcome := answer.outcome
  log := answer.log

/-- The source of the given calls. After the last one it lists no nodes. -/
def Source.ofList (calls : List Call) : Source :=
  fun number => calls[number]?.getD { outcome := .answered [] }

end ClusterConsole.View
