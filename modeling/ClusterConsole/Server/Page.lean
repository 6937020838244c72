import ClusterConsole.Table.Html
import ClusterConsole.Text.Utf8
import ClusterConsole.Url.Percent

/-! # The pages of the console

Which page a request asks for. Paths are compared as they are written; only the segment that names a node is
decoded. -/

namespace ClusterConsole.Server

/-- The pages. -/
inductive Page where
  | index
  /-- The page of the node that a segment names, as written. -/
  | node (segment : List Char)
  | logo
  | health
deriving DecidableEq, Repr

namespace Page

/-- Where the state of the server is told. -/
def healthPath : String := "/healthz"

/-- What the paths of the pages of nodes begin with. -/
def nodePath : String := "/nodes/"

/-- The segment after `nodePath`: the rest of the path, which is not empty and has no slash. -/
def segment? (path : List Char) : Option (List Char) :=
  if nodePath.toList.isPrefixOf path then
    let segment := path.drop nodePath.length
    if segment ≠ [] ∧ '/' ∉ segment then some segment else none
  else none

/-- The page at a path. -/
def ofPath? (path : List Char) : Option Page :=
  if path = ['/'] then some .index
  else if path = Html.logoPath.toList then some .logo
  else if path = healthPath.toList then some .health
  else (segment? path).map .node

/-- The path of a target: what stands before the query. A target with scheme and server has the path behind
    them. -/
def pathOf (target : List Char) : List Char :=
  match target with
  | '/' :: _ => untilQuery target
  | _ =>
    match afterScheme? target with
    | some rest =>
      match rest.dropWhile (fun c => c != '/' && c != '?' && c != '#') with
      | '/' :: path => untilQuery ('/' :: path)
      | _ => ['/']
    | none => if target = ['*'] then target else []
where
  untilQuery (text : List Char) : List Char := text.takeWhile fun c => c != '?' && c != '#'
  afterScheme? (text : List Char) : Option (List Char) :=
    match text.dropWhile (· != ':') with
    | ':' :: '/' :: '/' :: rest => some rest
    | _ => none

/-- The identifier that a segment names: its escapes stand for bytes, which have to be a text. -/
def identifier? (segment : List Char) : Option String :=
  (Utf8.decode? (Percent.decode (Utf8.encode segment))).map String.ofList

end Page

end ClusterConsole.Server
