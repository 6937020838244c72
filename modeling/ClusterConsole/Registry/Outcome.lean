import ClusterConsole.Log
import ClusterConsole.Registry.FetchError

/-! # Outcomes

What comes of asking for nodes, whoever is asked. -/

namespace ClusterConsole

/-- What comes of asking. -/
inductive Outcome (α : Type) where
  | answered (value : α)
  | failed (error : FetchError)
  /-- Whoever was asked died of it, and so does who asked. -/
  | panicked
deriving DecidableEq, Repr

/-- The outcome that an answer or an error is. -/
def Outcome.ofExcept {α : Type} : Except FetchError α → Outcome α
  | .ok value => .answered value
  | .error error => .failed error

/-- An outcome and what was reported on the way to it. -/
structure Answer (α : Type) where
  outcome : Outcome α
  log : List LogEntry := []
deriving DecidableEq, Repr

end ClusterConsole
