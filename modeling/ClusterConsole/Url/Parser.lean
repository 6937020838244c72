import ClusterConsole.Text.Blank
import ClusterConsole.Url.Domain
import ClusterConsole.Url.Path

/-! # Reading addresses

An address is read from left to right: scheme, user name and password, host, port, path, query, fragment.
Controls and spaces around it are dropped, tabs and line breaks everywhere. Web addresses are given in
their parts. Of an address of another scheme only the scheme is given, but it has to be well formed. -/

namespace ClusterConsole

/-- What a well-formed address is. -/
inductive Reference where
  | web (url : Url)
  | other (scheme : String)
deriving DecidableEq, Repr

namespace Url

/-! ### Preparation -/

/-- A control or a space. -/
def isControlOrSpace (c : Char) : Bool :=
  c.toNat ≤ 0x20

/-- A text as it is read. -/
def prepare (text : List Char) : List Char :=
  (((text.dropWhile isControlOrSpace).reverse.dropWhile isControlOrSpace).reverse).filter (!Path.isDropped ·)

/-- Whether a character may stand in a scheme. -/
def isSchemeChar (c : Char) : Bool :=
  c.isAlphanum || c == '+' || c == '-' || c == '.'

/-- The scheme in lower case, and what follows its colon. -/
def splitScheme? (text : List Char) : Option (List Char × List Char) :=
  match text with
  | [] => none
  | c :: _ =>
    if c.isAlpha then
      match text.dropWhile isSchemeChar with
      | ':' :: rest => some ((text.takeWhile isSchemeChar).map Char.toLower, rest)
      | _ => none
    else none

/-- The kinds of schemes. -/
inductive SchemeKind where
  /-- A host is needed, a backslash is a slash. -/
  | special
  | file
  | plain
deriving DecidableEq, Repr

/-- The kind of a scheme in lower case. -/
def schemeKind (scheme : List Char) : SchemeKind :=
  if scheme ∈ ["http".toList, "https".toList, "ws".toList, "wss".toList, "ftp".toList] then .special
  else if scheme = "file".toList then .file
  else .plain

/-- The port that a scheme implies. -/
def impliedPort? (scheme : List Char) : Option Nat :=
  if scheme ∈ ["http".toList, "ws".toList] then some 80
  else if scheme ∈ ["https".toList, "wss".toList] then some 443
  else if scheme = "ftp".toList then some 21
  else none

/-- Whether a character separates segments of a path. -/
def isSlash (backslash : Bool) (c : Char) : Bool :=
  c == '/' || (backslash && c == '\\')

/-- Whether a character ends what stands before a path. -/
def endsAuthority (backslash : Bool) (c : Char) : Bool :=
  isSlash backslash c || c == '?' || c == '#'

/-! ### User name, password, host and port -/

/-- What stands before a path. -/
structure Authority where
  username : List Char
  password : List Char
  host : Host
  port : Option Nat
deriving DecidableEq, Repr

/-- What stands before the last `@`, if there is one, and what stands after it. -/
def splitUserinfo (text : List Char) : Option (List Char) × List Char :=
  if '@' ∈ text then
    let host := (text.reverse.takeWhile (· != '@')).reverse
    (some (text.take (text.length - host.length - 1)), host)
  else (none, text)

/-- The length of the host at the front of a text: up to a colon that stands in no brackets. -/
def hostLength : Bool → List Char → Nat
  | _, [] => 0
  | bracketed, c :: rest =>
    if c = ':' ∧ !bracketed then 0
    else hostLength (if c = '[' then true else if c = ']' then false else bracketed) rest + 1

/-- An address of version 6 in brackets. -/
def bracketed (text : List Char) : Except UrlFault Host :=
  if text.getLast? = some ']' then
    match Ipv6.parse? (text.drop 1).dropLast with
    | some pieces => .ok (.ipv6 pieces)
    | none => .error .invalidIpv6
  else .error .invalidIpv6

/-- The host of a special scheme. -/
def specialHost (text : List Char) : Except UrlFault Host :=
  if text.head? = some '[' then bracketed text
  else
    match Domain.lookup? text with
    | none => .error .invalidDomain
    | some [] => .error .emptyHost
    | some name =>
      if Ipv4.endsInNumber name then
        match Ipv4.parse? name with
        | some address => .ok (.ipv4 address)
        | none => .error .invalidIpv4
      else .ok (.name name)

/-- Whether a character cannot stand in the host of a plain scheme. -/
def isForbiddenInPlain (c : Char) : Bool :=
  c.toNat == 0 || (Domain.isForbidden c && 0x20 ≤ c.toNat && c.toNat != 0x7F && c != '%')

/-- The host of a plain scheme, which may be empty. -/
def plainHost (text : List Char) : Except UrlFault Host :=
  if text.head? = some '[' then bracketed text
  else if text.any isForbiddenInPlain then .error .invalidDomainCharacter
  else .ok (.name text)

/-- The port of digits, which may be missing; not the implied one. -/
def portOf (implied : Option Nat) (digits : List Char) : Except UrlFault (Option Nat) :=
  if !digits.all Decimal.isDigit then .error .invalidPort
  else
    let port := Decimal.ofDigits digits
    if 65535 < port then .error .invalidPort
    else .ok (if digits = [] ∨ some port = implied then none else some port)

/-- User name and password as written, after percent encoding. -/
def credentials (userinfo : List Char) : List Char × List Char :=
  let username := userinfo.takeWhile (· != ':')
  let password := (userinfo.dropWhile (· != ':')).drop 1
  (Percent.encode Percent.inUserinfo username, Percent.encode Percent.inUserinfo password)

/-- Reads what stands before a path; `after` is what follows it. -/
def authority (kind : SchemeKind) (implied : Option Nat) (text after : List Char) : Except UrlFault Authority := do
  let (userinfo, rest) := splitUserinfo text
  if userinfo = some [] ∧ rest = [] ∧ after ≠ [] then throw .emptyHost
  let (username, password) := credentials (userinfo.getD [])
  let length := hostLength false rest
  let hostText := rest.take length
  let portText := rest.drop length
  let host ← match kind with
    | .plain => plainHost hostText
    | _ => if hostText = [] then throw .emptyHost else specialHost hostText
  if host = .name [] ∧ portText ≠ [] then throw .emptyHost
  let port ← portOf implied (portText.drop 1)
  if host = .name [] ∧ (username ≠ [] ∨ password ≠ []) then throw .emptyHost
  return ⟨username, password, host, port⟩

/-! ### Path, query and fragment -/

/-- The pieces between slashes. -/
def splitSlashes (text : List Char) : List (List Char) :=
  text.foldr (fun c pieces =>
    if isSlash true c then [] :: pieces
    else match pieces with
      | [] => [[c]]
      | piece :: pieces => (c :: piece) :: pieces) [[]]

/-- The path of a web address, from the slash on, if there is one. -/
def pathOf (text : List Char) : Path :=
  let segments := splitSlashes (match text with | c :: rest => if isSlash true c then rest else text | [] => [])
  Path.steps [] (segments.map (Percent.encode Percent.inPath))

/-- The query, from the question mark on. -/
def queryOf : List Char → Option (List Char)
  | '?' :: rest => some (Percent.encode Percent.inQuery rest)
  | _ => none

/-- The fragment, from the number sign on. -/
def fragmentOf : List Char → Option (List Char)
  | '#' :: rest => some (Percent.encode Percent.inFragment rest)
  | _ => none

/-- A web address after its scheme and the slashes that follow it. -/
def ofAuthority (scheme : WebScheme) (text : List Char) : Except UrlFault Url := do
  let before := text.takeWhile (!endsAuthority true ·)
  let after := text.dropWhile (!endsAuthority true ·)
  let a ← authority .special (some scheme.port) before after
  let path := after.takeWhile fun c => c != '?' && c != '#'
  let rest := after.dropWhile fun c => c != '?' && c != '#'
  return {
    scheme
    username := a.username
    password := a.password
    host := a.host
    port := a.port
    path := pathOf path
    query := queryOf (rest.takeWhile (· != '#'))
    fragment := fragmentOf (rest.dropWhile (· != '#')) }

/-! ### Other schemes -/

/-- Checks the host of a file, which may be missing. -/
def checkFileHost (text : List Char) : Except UrlFault Unit := do
  let host := text.takeWhile (!endsAuthority true ·)
  if host = [] ∨ Segment.isDrive host then return ()
  let _ ← specialHost host

/-- Checks an address of another scheme, after the colon. -/
def checkOther (scheme text : List Char) : Except UrlFault Unit := do
  match schemeKind scheme with
  | .special =>
    let text := text.dropWhile (isSlash true)
    let _ ← authority .special (impliedPort? scheme) (text.takeWhile (!endsAuthority true ·))
      (text.dropWhile (!endsAuthority true ·))
  | .file =>
    match text with
    | a :: b :: rest => if isSlash true a && isSlash true b then checkFileHost rest
    | _ => return ()
  | .plain =>
    match text with
    | '/' :: '/' :: rest =>
      let _ ← authority .plain none (rest.takeWhile (!endsAuthority false ·))
        (rest.dropWhile (!endsAuthority false ·))
    | _ => return ()

/-- The scheme of a web address. -/
def webScheme? (scheme : List Char) : Option WebScheme :=
  if scheme = WebScheme.http.text then some .http
  else if scheme = WebScheme.https.text then some .https
  else none

/-- The address that a text denotes. -/
def parse (text : List Char) : Except UrlFault Reference :=
  match splitScheme? (prepare text) with
  | none => .error .relativeWithoutBase
  | some (scheme, rest) =>
    match webScheme? scheme with
    | some web => (ofAuthority web (rest.dropWhile (isSlash true))).map .web
    | none => (checkOther scheme rest).map fun () => .other (String.ofList scheme)

end Url

end ClusterConsole
