import ClusterConsole.Proofs.Node.ErrorReport
import ClusterConsole.Proofs.Registry.Interpret
import ClusterConsole.Proofs.Table.Html
import ClusterConsole.Proofs.View.Collection
import ClusterConsole.Server.Router

/-! # From the registry to the page

What the registry answers decides what the console answers. The page of a node tells a node that is there from one that
is not and from a failure; the list is always answered with a page. -/

namespace ClusterConsole.Server
open RegistryClient

/-! ### The list -/

/-- The nodes that the list shows. -/
def shown : Except FetchError (List NodeRecord) → List NodeRecord
  | .ok nodes => NodeRecord.sort nodes
  | .error _ => []

/-- A visit ends when the only fetch has, and shows what that one brought. -/
theorem nodes_visit (outcome : Except FetchError (List NodeRecord)) (log : List LogEntry) :
    (View.World.visit fun _ => .ofAnswer ⟨.ofExcept outcome, log⟩).view.nodes = shown outcome := by
  cases outcome <;> rfl

section
variable (c : RegistryClient) (answer : List Http.Request → Http.Exchange) (sent : List Http.Request)
  (zone : DisplayZone) {request : Request}

theorem handle_index (hmethod : request.method = "GET")
    (hpage : Page.ofPath? (Page.pathOf request.target.toList) = some .index) :
    (handle (.ofClient c (.recording answer)) zone request sent).1.response =
      some (.html (Html.page title (Html.table zone (shown (c.nodes (.recording answer) sent).1)))) := by
  rw [handle, hpage]
  dsimp only
  rw [if_pos hmethod, ← nodes_visit _ [.adminRequest]]
  rfl

/-! ### One node -/

theorem handle_node {segment : List Char} {id : String} (hmethod : request.method = "GET")
    (hpage : Page.ofPath? (Page.pathOf request.target.toList) = some (.node segment))
    (hid : Page.identifier? segment = some id) :
    (handle (.ofClient c (.recording answer)) zone request sent).1 =
      nodeReply zone ⟨.ofExcept (c.node (.recording answer) id sent).1, [.adminRequest]⟩ := by
  rw [handle, hpage]
  dsimp only
  rw [if_pos hmethod, get, hid]
  rfl

end

theorem decode_body_report (status : Nat) (r : ErrorReport) :
    ErrorReport.decode (Utf8.ofString (Response.report status r).body) = .ok r := by
  rw [Response.report, Utf8.ofString, String.toList_ofList]
  exact r.decode_encode_write

/-- How the console answers what asking for one node has come to. -/
structure NodeAnswer (zone : DisplayZone) (outcome : Except FetchError (Option NodeRecord)) (response : Response) :
    Prop where
  found_iff : response.status = 200 ↔ ∃ node, outcome = .ok (some node)
  unknown_iff : response.status = 404 ↔ outcome = .ok none
  failed_iff : response.status = 502 ↔ ∃ error, outcome = .error error
  page : ∀ node, outcome = .ok (some node) →
    response = .html (Html.page (title ++ " - " ++ node.id.display) (Html.table zone [node])) ∧
      Markup.rows? (Html.table zone [node]) =
        some [⟨none, columns⟩, ⟨some node.id.display, (NodeRow.ofRecord zone node).cells⟩]
  unknown : outcome = .ok none → ∃ report,
    ErrorReport.decode (Utf8.ofString response.body) = .ok report ∧ report.code.name = "not_found"
  failed : ∀ error, outcome = .error error → ∃ report,
    ErrorReport.decode (Utf8.ofString response.body) = .ok report ∧ report.code.name = "upstream" ∧
      report.message = error.message

theorem nodeAnswer_nodeReply (zone : DisplayZone) (outcome : Except FetchError (Option NodeRecord))
    (log : List LogEntry) : ∃ response, (nodeReply zone ⟨.ofExcept outcome, log⟩).response = some response ∧
      NodeAnswer zone outcome response := by
  cases outcome with
  | error error =>
    refine ⟨_, rfl, by simp [Response.report], by simp [Response.report], by simp [Response.report], nofun, nofun, ?_⟩
    rintro _ ⟨⟩
    exact ⟨_, decode_body_report 502 _, rfl, rfl⟩
  | ok found =>
    cases found with
    | none =>
      refine ⟨_, rfl, by simp [Response.report], by simp [Response.report], by simp [Response.report], nofun, ?_, nofun⟩
      exact fun _ => ⟨_, decode_body_report 404 _, rfl⟩
    | some node =>
      refine ⟨_, rfl, by simp [Response.html], by simp [Response.html], by simp [Response.html], ?_, nofun, nofun⟩
      rintro _ ⟨⟩
      exact ⟨rfl, Html.rows?_table zone [node]⟩

/-- The final answer of the registry decides what the client gets, and that decides what the console answers. The page
    of a node is there exactly when the node is, and everything else is a report that can be read back. The list is
    always answered with a page, which has no node on it after a failure. -/
theorem replies_of_registry (c : RegistryClient) (answer : List Http.Request → Http.Exchange)
    (sent : List Http.Request) (zone : DisplayZone) (id : String) :
    let nodes := (c.nodes (.recording answer) sent).1
    let node := (c.node (.recording answer) id sent).1
    (∀ r, (Http.get (.recording answer) (c.endpoint Route.cluster) sent).1 = .ok r → ListOutcome r nodes) ∧
      (∀ r, (Http.get (.recording answer) (c.endpoint Route.node (some id)) sent).1 = .ok r → NodeOutcome r node) ∧
      (∀ request segment, request.method = "GET" →
        Page.ofPath? (Page.pathOf request.target.toList) = some (.node segment) → Page.identifier? segment = some id →
          ∃ response, (handle (.ofClient c (.recording answer)) zone request sent).1.response = some response ∧
            NodeAnswer zone node response) ∧
      ∀ request, request.method = "GET" → Page.ofPath? (Page.pathOf request.target.toList) = some .index →
        ∃ list, (handle (.ofClient c (.recording answer)) zone request sent).1.response =
            some (.html (Html.page title (Html.table zone list))) ∧
          (∀ found, nodes = .ok found → list = NodeRecord.sort found ∧ NodeRecord.StablySorted found list) ∧
          ∀ error, nodes = .error error → Markup.rows? (Html.table zone list) = some [⟨none, columns⟩] := by
  intro nodes node
  refine ⟨fun r => listOutcome_nodes, fun r => nodeOutcome_node, ?_, ?_⟩
  · intro request segment hmethod hpage hid
    rw [handle_node c answer sent zone hmethod hpage hid]
    exact nodeAnswer_nodeReply zone node [.adminRequest]
  · intro request hmethod hpage
    refine ⟨shown nodes, handle_index c answer sent zone hmethod hpage, fun found hfound => ?_, fun error herror => ?_⟩
    · rw [hfound]
      exact ⟨rfl, NodeRecord.stablySorted_sort found⟩
    · rw [herror]
      exact Html.rows?_table zone []

/-- A registry that knows nothing. -/
def emptyHanded (_ : List Http.Request) : Http.Exchange :=
  .answered { status := 404, body := Utf8.ofString "[]" }

/-- A client of the registry at `http://h`. -/
def bareClient : RegistryClient :=
  { base := { scheme := .http, host := .name ['h'], path := [[]] }, timeout := 5000 }

theorem replies_of_emptyHanded :
    let r : Http.Response := { status := 404, body := Utf8.ofString "[]" }
    (Http.get (.recording emptyHanded) (bareClient.endpoint Route.cluster) []).1 = .ok r ∧
      (bareClient.nodes (.recording emptyHanded) []).1 = .error (.status 404) ∧
      (Http.get (.recording emptyHanded) (bareClient.endpoint Route.node (some "a/b")) []).1 = .ok r ∧
      (bareClient.node (.recording emptyHanded) "a/b" []).1 = .ok none ∧
      Page.ofPath? (Page.pathOf "/nodes/a%2Fb".toList) = some (.node "a%2Fb".toList) ∧
      Page.identifier? "a%2Fb".toList = some "a/b" ∧
      (∃ response, response.status = 404 ∧
        (handle (.ofClient bareClient (.recording emptyHanded)) .utc { target := "/nodes/a%2Fb" } []).1.response =
          some response) ∧
      Page.ofPath? (Page.pathOf "/".toList) = some .index ∧
      ∃ list, (handle (.ofClient bareClient (.recording emptyHanded)) .utc { target := "/" } []).1.response =
          some (.html (Html.page title (Html.table .utc list))) ∧
        Markup.rows? (Html.table .utc list) = some [⟨none, columns⟩] := by
  intro r
  obtain ⟨hnodes, hnode, hreply, hlist⟩ := replies_of_registry bareClient emptyHanded [] .utc "a/b"
  have hfinal : ∀ url, (Http.get (.recording emptyHanded) url []).1 = .ok r :=
    fun url => Http.get_of_not_redirect rfl rfl
  have hrefused : ¬Successful r := by simp [Successful, r]
  have hnodes := ((hnodes r (hfinal _)).status_iff 404).mpr ⟨rfl, hrefused⟩
  have hnode := (hnode r (hfinal _)).none_iff.mpr rfl
  have hpath : Page.ofPath? (Page.pathOf "/nodes/a%2Fb".toList) = some (.node "a%2Fb".toList) := by decide +kernel
  have hid : Page.identifier? "a%2Fb".toList = some "a/b" := by decide +kernel
  have hindex : Page.ofPath? (Page.pathOf "/".toList) = some .index := by decide +kernel
  obtain ⟨response, hresponse, hanswer⟩ := hreply { target := "/nodes/a%2Fb" } _ rfl hpath hid
  obtain ⟨list, hlist, -, hempty⟩ := hlist { target := "/" } rfl hindex
  exact ⟨hfinal _, hnodes, hfinal _, hnode, hpath, hid, ⟨response, hanswer.unknown_iff.mpr hnode, hresponse⟩, hindex,
    list, hlist, hempty _ hnodes⟩

end ClusterConsole.Server
