import ClusterConsole.Http.Status
import ClusterConsole.Text.Base64
import ClusterConsole.Url.Resolve

/-! # Exchanges

A request goes out and an answer comes back, or none does. An answer may send the client to another address;
the client goes on at most ten times. The network is a parameter: it takes a request and gives what came of
it, by whatever effects it has. -/

namespace ClusterConsole.Http

/-- A request for what an address names. User name and password are not part of the address, but go in a
    field of their own. -/
structure Request where
  url : Url
  authorization : Option String := none
deriving DecidableEq, Repr

/-- Path and query, as a request names them. -/
def Request.target (r : Request) : String :=
  String.ofList (r.url.pathText ++ r.url.queryText)

/-- An answer. -/
structure Response where
  status : Nat
  /-- The other address that the answer names. -/
  location : Option String := none
  body : List UInt8 := []
  /-- Whether the body came to its announced end. -/
  complete : Bool := true
deriving DecidableEq, Repr

/-- What came of a request. -/
inductive Exchange where
  /-- No connection, no answer in time, or an answer that is not HTTP. -/
  | failed
  | answered (response : Response)
deriving DecidableEq, Repr

/-- A network. -/
structure Network (m : Type → Type) where
  exchange : Request → m Exchange

/-- Why there is no answer. -/
inductive TransportFault where
  | sending (url : Url)
  | redirecting (url : Url)
  | readingBody
deriving DecidableEq, Repr

/-- The fault in words. -/
def TransportFault.message : TransportFault → String
  | .sending url => "error sending request for url (" ++ url.text ++ ")"
  | .redirecting url => "error following redirect for url (" ++ url.text ++ ")"
  | .readingBody => "error decoding response body"

/-- The value of the field for user name and password. -/
def basicAuthorization? (u : Url) : Option String := do
  let username ← Utf8.decode? (Percent.decode (Utf8.encode u.username))
  let password := (Utf8.decode? (Percent.decode (Utf8.encode u.password))).getD []
  if username = [] ∧ u.password = [] then none
  else some ("Basic " ++ String.ofList (Base64.encode (Utf8.encode (username ++ ':' :: password))))

/-- An address without user name and password. -/
def withoutUserinfo (u : Url) : Url :=
  { u with username := [], password := [] }

/-- The request for what an address names. -/
def Request.ofUrl (u : Url) : Request :=
  ⟨withoutUserinfo u, basicAuthorization? u⟩

/-- Whether two addresses are of one server. -/
def sameServer (a b : Url) : Bool :=
  a.host == b.host && a.effectivePort == b.effectivePort

/-- The request that a redirect leads to. What authorizes is not told to another server. -/
def Request.redirected (r : Request) (u : Url) : Request :=
  ⟨withoutUserinfo u, if sameServer r.url u then r.authorization else none⟩

/-- How often a client goes on to another address. -/
def redirectLimit : Nat := 10

/-- The final answer to a request, after at most `left` redirects. An answer that names no address that can
    be read is final. -/
def send {m : Type → Type} [Monad m] (network : Network m) :
    Nat → Request → m (Except TransportFault Response)
  | left, request => do
    match ← network.exchange request with
    | .failed => return .error (.sending request.url)
    | .answered response =>
      if isRedirect response.status then
        match response.location.map (request.url.resolve ·.toList) with
        | some (.ok (.web url)) =>
          match left with
          | 0 => return .error (.redirecting request.url)
          | left + 1 => send network left (request.redirected url)
        | some (.ok (.other _)) => return .error (.redirecting request.url)
        | _ => return .ok response
      else return .ok response

/-- The final answer to a request for what an address names. -/
def get {m : Type → Type} [Monad m] (network : Network m) (url : Url) : m (Except TransportFault Response) :=
  send network redirectLimit (.ofUrl url)

end ClusterConsole.Http
