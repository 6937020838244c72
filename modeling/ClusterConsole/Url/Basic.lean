import ClusterConsole.Url.Address

/-! # Addresses on the web

An address of the scheme `http` or `https`, in the parts that it is made of. Each part is held in the form
in which it is written, so that writing an address is putting its parts together. -/

namespace ClusterConsole

/-- The schemes of web addresses. -/
inductive WebScheme where
  | http
  | https
deriving DecidableEq, Repr

namespace WebScheme

/-- The scheme as written. -/
def text : WebScheme → List Char
  | .http => ['h', 't', 't', 'p']
  | .https => ['h', 't', 't', 'p', 's']

/-- The port that is meant when none is written. -/
def port : WebScheme → Nat
  | .http => 80
  | .https => 443

end WebScheme

/-- The machine that an address names. -/
inductive Host where
  | name (text : List Char)
  | ipv4 (address : Nat)
  | ipv6 (pieces : List Nat)
deriving DecidableEq, Repr

/-- The host as written. -/
def Host.text : Host → List Char
  | .name text => text
  | .ipv4 address => Ipv4.text address
  | .ipv6 pieces => '[' :: (Ipv6.text pieces ++ [']'])

/-- A web address. -/
structure Url where
  scheme : WebScheme
  username : List Char := []
  password : List Char := []
  host : Host
  /-- The port, when it is not the one that the scheme implies. -/
  port : Option Nat := none
  /-- What follows each slash of the path. There is one slash at least. -/
  path : List (List Char)
  query : Option (List Char) := none
  fragment : Option (List Char) := none
deriving DecidableEq, Repr

namespace Url

/-- User name and password as written. -/
def userinfoText (u : Url) : List Char :=
  if u.username = [] ∧ u.password = [] then []
  else u.username ++ (if u.password = [] then [] else ':' :: u.password) ++ ['@']

/-- The port as written. -/
def portText (u : Url) : List Char :=
  match u.port with
  | none => []
  | some port => ':' :: Decimal.digits port

/-- The path as written. -/
def pathText (u : Url) : List Char :=
  u.path.flatMap ('/' :: ·)

/-- The query as written. -/
def queryText (u : Url) : List Char :=
  match u.query with
  | none => []
  | some query => '?' :: query

/-- The fragment as written. -/
def fragmentText (u : Url) : List Char :=
  match u.fragment with
  | none => []
  | some fragment => '#' :: fragment

/-- The address as written. -/
def chars (u : Url) : List Char :=
  u.scheme.text ++ [':', '/', '/'] ++ u.userinfoText ++ u.host.text ++ u.portText ++ u.pathText ++ u.queryText ++
    u.fragmentText

/-- The address as written. -/
def text (u : Url) : String :=
  String.ofList u.chars

/-- Whether an address cannot carry a path: no slash follows the colon of its scheme. -/
def cannotCarryPath (u : Url) : Bool :=
  ((u.chars.dropWhile (· != ':')).drop 1).head? != some '/'

/-- A web address always carries a path. -/
theorem cannotCarryPath_eq_false (u : Url) : u.cannotCarryPath = false := by
  obtain ⟨scheme⟩ := u
  cases scheme <;> rfl

/-- The port that is meant. -/
def effectivePort (u : Url) : Nat :=
  u.port.getD u.scheme.port

end Url

end ClusterConsole
