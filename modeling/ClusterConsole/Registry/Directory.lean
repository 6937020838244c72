import ClusterConsole.Registry.Client
import ClusterConsole.Registry.Outcome

/-! # Directories

A directory is whatever can be asked for the nodes of the cluster: the registry, over a network, or an
outcome that was fixed beforehand. -/

namespace ClusterConsole

/-- Whatever can be asked for the nodes of the cluster. -/
structure Directory (m : Type → Type) where
  nodes : m (Answer (List NodeRecord))
  /-- Asks for one node. The answer is none when there is no such node. -/
  node : String → m (Answer (Option NodeRecord))

namespace Directory

/-- The registry that a client asks. Each request is reported. -/
def ofClient {m : Type → Type} [Monad m] (client : RegistryClient) (network : Http.Network m) : Directory m where
  nodes := return ⟨.ofExcept (← client.nodes network), [.adminRequest]⟩
  node id := return ⟨.ofExcept (← client.node network id), [.adminRequest]⟩

/-- The first node that is shown under an identifier. -/
def find? (nodes : List NodeRecord) (id : String) : Option NodeRecord :=
  nodes.find? fun node => node.id.display == id

/-- The outcome for one node when that for all nodes is known. -/
def lookup (outcome : Outcome (List NodeRecord)) (id : String) : Outcome (Option NodeRecord) :=
  match outcome with
  | .answered nodes => .answered (find? nodes id)
  | .failed error => .failed error
  | .panicked => .panicked

/-- A fixed outcome. The state is the number of questions so far. -/
def fixed (outcome : Outcome (List NodeRecord)) : Directory (StateM Nat) where
  nodes := do
    modify (· + 1)
    return ⟨outcome, []⟩
  node id := do
    modify (· + 1)
    return ⟨lookup outcome id, []⟩

end Directory

end ClusterConsole
