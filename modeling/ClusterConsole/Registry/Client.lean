import ClusterConsole.Node.Document
import ClusterConsole.Registry.FetchError

/-! # The client of the registry

The registry lists the nodes of the cluster under one route and each node under another. Both routes come
after the path of the address that the client was given, and keep its query. -/

namespace ClusterConsole

namespace Route

/-- The route of the list of nodes. -/
def cluster : String := "/api/v1/cluster"

/-- The route of the nodes, before the identifier. -/
def node : String := "/api/v1/node"

/-- The segments of a route. -/
def segments (route : String) : List (List Char) :=
  (route.toList.splitOn '/').filter (· ≠ [])

end Route

/-- A client of the registry. -/
structure RegistryClient where
  base : Url
  /-- How long a request may take, in milliseconds. -/
  timeout : Nat
deriving DecidableEq, Repr

namespace RegistryClient

/-- How long a request may take when nothing else is said. -/
def defaultTimeout : Nat := 5000

/-- The client of the registry at an address. -/
def ofUrl (text : String) (timeout : Nat := defaultTimeout) : Except FetchError RegistryClient :=
  match Url.parse text.toList with
  | .error fault => .error (.invalidBaseUrl text (.malformed fault))
  | .ok (.other scheme) => .error (.invalidBaseUrl text (.unsupportedScheme scheme))
  | .ok (.web base) =>
    if base.cannotCarryPath then .error (.invalidBaseUrl text .withoutPath) else .ok ⟨base, timeout⟩

/-- The address of a route, and of an identifier under it. An address that cannot carry a path stays as it is. -/
def endpoint (c : RegistryClient) (route : String) (id : Option String := none) : Url :=
  if c.base.cannotCarryPath then c.base
  else
    let path := Path.extend (Path.withoutTrailingSlash c.base.path) (Route.segments route)
    { c.base with path := match id with | none => path | some id => path.push id.toList }

/-- What an answer says: nothing when the registry does not know what was asked for. -/
def interpret {α : Type} (decode : Json.Input → Except Json.Refusal α) (r : Http.Response) :
    Except FetchError (Option α) :=
  if r.status = 404 then .ok none
  else if !Http.isSuccess r.status then .error (.status r.status)
  else if !r.complete then .error (.transport .readingBody)
  else
    match decode r.body with
    | .ok x => .ok (some x)
    | .error refusal => .error (.decode refusal)

/-- Asks for what an address names. -/
def fetch {m : Type → Type} [Monad m] {α : Type} (network : Http.Network m)
    (decode : Json.Input → Except Json.Refusal α) (url : Url) : m (Except FetchError (Option α)) := do
  match ← Http.get network url with
  | .error fault => return .error (.transport fault)
  | .ok response => return interpret decode response

/-- There always is a list of nodes, so not to know it is a failure. -/
def listed {α : Type} : Except FetchError (Option α) → Except FetchError α
  | .error e => .error e
  | .ok (some x) => .ok x
  | .ok none => .error (.status 404)

/-- Asks for the nodes of the cluster. -/
def nodes {m : Type → Type} [Monad m] (c : RegistryClient) (network : Http.Network m) :
    m (Except FetchError (List NodeRecord)) := do
  return listed (← fetch network NodeRecord.decodeList (c.endpoint Route.cluster))

/-- Asks for one node. -/
def node {m : Type → Type} [Monad m] (c : RegistryClient) (network : Http.Network m) (id : String) :
    m (Except FetchError (Option NodeRecord)) :=
  fetch network NodeRecord.decode (c.endpoint Route.node (some id))

end RegistryClient

end ClusterConsole
