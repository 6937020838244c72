import ClusterConsole.Node.ErrorReport
import ClusterConsole.Registry.Directory
import ClusterConsole.Server.Page
import ClusterConsole.View.Run

/-! # Answering requests

Each request for the list of nodes is one visit: a view is mounted, waited for, shown and given up. A request for one
node asks for that node alone. -/

namespace ClusterConsole.Server

/-- A request. -/
structure Request where
  method : String := "GET"
  target : String
deriving DecidableEq, Repr

/-- An answer. -/
structure Response where
  status : Nat
  contentType : Option String := none
  /-- The methods that may be used instead. -/
  allow : Option String := none
  body : String := ""
deriving DecidableEq, Repr

/-- What came of a request: an answer, or none when what should have answered died. -/
structure Reply where
  response : Option Response
  log : List LogEntry := []
deriving DecidableEq, Repr

/-- The logo of the console. -/
def logo : String :=
  "<svg xmlns=\"http://www.w3.org/2000/svg\" width=\"160\" height=\"32\" viewBox=\"0 0 160 32\">\n" ++
  "  <circle cx=\"16\" cy=\"16\" r=\"6\" fill=\"#7fc8f8\"/>\n" ++
  "  <circle cx=\"34\" cy=\"9\" r=\"4\" fill=\"#7fc8f8\"/>\n" ++
  "  <circle cx=\"34\" cy=\"23\" r=\"4\" fill=\"#7fc8f8\"/>\n" ++
  "  <path d=\"M16 16 L34 9 M16 16 L34 23 M34 9 L34 23\" stroke=\"#7fc8f8\" stroke-width=\"1.5\"/>\n" ++
  "  <text x=\"48\" y=\"22\" font-family=\"system-ui, sans-serif\" font-size=\"16\" fill=\"#ffffff\">" ++
  "cluster console</text>\n" ++
  "</svg>\n"

namespace Response

/-- A page of HTML. -/
def html (body : String) : Response where
  status := 200
  contentType := some "text/html; charset=utf-8"
  body := body

/-- Plain text. -/
def plain (status : Nat) (body : String) : Response where
  status := status
  contentType := some "text/plain; charset=utf-8"
  body := body

/-- A report of an error. -/
def report (status : Nat) (r : ErrorReport) : Response where
  status := status
  contentType := some "application/json"
  body := String.ofList r.write

/-- The logo. -/
def logo : Response where
  status := 200
  contentType := some "image/svg+xml"
  body := Server.logo

/-- The answer where there is nothing. -/
def unknownPath : Response where
  status := 404

/-- The answer to a method that is not served. -/
def wrongMethod : Response where
  status := 405
  allow := some "GET,HEAD"

/-- The answer to an identifier that is not a text. -/
def malformedIdentifier : Response :=
  plain 400 "Invalid URL: Invalid UTF-8 in `id`"

/-- The answer without its body. -/
def headOnly (r : Response) : Response :=
  { r with body := "" }

end Response

/-- The title of the console. -/
def title : String := "Cluster Console"

/-- The page of the list of nodes, from what came of asking for it. -/
def indexReply (zone : DisplayZone) (answer : Answer (List NodeRecord)) : Reply :=
  let w := View.World.visit fun _ => .ofAnswer answer
  { response := some (.html (Html.page title (Html.table zone w.view.nodes))), log := w.log }

/-- The page of a node, from what came of asking for it. -/
def nodeReply (zone : DisplayZone) (answer : Answer (Option NodeRecord)) : Reply :=
  match answer.outcome with
  | .panicked => { response := none, log := answer.log }
  | .failed error =>
    { response := some (.report 502 ⟨.registry, error.message⟩), log := answer.log ++ [.lookupFailed] }
  | .answered none => { response := some (.report 404 ⟨.notFound, "node not found"⟩), log := answer.log }
  | .answered (some node) =>
    { response := some (.html (Html.page (title ++ " - " ++ node.id.display) (Html.table zone [node])))
      log := answer.log }

/-- Answers a request for a page. -/
def get {m : Type → Type} [Monad m] (directory : Directory m) (zone : DisplayZone) : Page → m Reply
  | .index => return indexReply zone (← directory.nodes)
  | .node segment =>
    match Page.identifier? segment with
    | none => return { response := some .malformedIdentifier }
    | some id => return nodeReply zone (← directory.node id)
  | .logo => return { response := some .logo }
  | .health => return { response := some (.plain 200 "ok") }

/-- Answers a request. -/
def handle {m : Type → Type} [Monad m] (directory : Directory m) (zone : DisplayZone) (request : Request) :
    m Reply :=
  match Page.ofPath? (Page.pathOf request.target.toList) with
  | none => return { response := some .unknownPath }
  | some page =>
    if request.method = "GET" then get directory zone page
    else if request.method = "HEAD" then do
      let reply ← get directory zone page
      return { reply with response := reply.response.map Response.headOnly }
    else return { response := some .wrongMethod }

/-- Answers requests in turn. -/
def handleAll {m : Type → Type} [Monad m] (directory : Directory m) (zone : DisplayZone) (requests : List Request) :
    m (List Reply) :=
  requests.mapM (handle directory zone)

end ClusterConsole.Server
