import ClusterConsole.Listing.Command
import ClusterConsole.Proofs.Server.PageLoad
import ClusterConsole.Proofs.Server.Reply
import ClusterConsole.Proofs.Table.Plain

/-! # The listing and the page

The command and the console ask for the nodes each with a client of its own and in a visit of its own. Both show what
the final answer of the registry says: the nodes that it lists, in their order, or none. So for one answer they show one
table. -/

namespace ClusterConsole

namespace RegistryClient

/-- What the registry finally answers when it is asked for the list; none when no answer comes. -/
def upstream (c : RegistryClient) (answer : List Http.Request → Http.Exchange) (sent : List Http.Request) :
    Option Http.Response :=
  (Http.get (.recording answer) (c.endpoint Route.cluster) sent).1.toOption

/-- The registry has served this list. -/
def Lists (final : Option Http.Response) (found : List NodeRecord) : Prop :=
  ∃ r, final = some r ∧ Served r ∧ NodeRecord.decodeList r.body = .ok found

/-- A table shows the nodes of the list that the registry has served, in their order, and none without such a list. -/
structure Shows (final : Option Http.Response) (nodes : List NodeRecord) : Prop where
  served : ∀ found, Lists final found → nodes = NodeRecord.sort found
  failed : (∀ found, ¬Lists final found) → nodes = []

theorem Shows.unique {final : Option Http.Response} {nodes nodes' : List NodeRecord} (h : Shows final nodes)
    (h' : Shows final nodes') : nodes = nodes' := by
  by_cases hfound : ∃ found, Lists final found
  · obtain ⟨found, hfound⟩ := hfound
    rw [h.served found hfound, h'.served found hfound]
  · rw [h.failed (not_exists.mp hfound), h'.failed (not_exists.mp hfound)]

theorem shows_shown (c : RegistryClient) (answer : List Http.Request → Http.Exchange) (sent : List Http.Request) :
    Shows (c.upstream answer sent) (Server.shown (c.nodes (.recording answer) sent).1) := by
  cases hget : (Http.get (.recording answer) (c.endpoint Route.cluster) sent).1 with
  | error fault =>
    have hnodes : (c.nodes (.recording answer) sent).1 = .error (.transport fault) := by
      rw [nodes_recording, hget]
      rfl
    have hupstream : c.upstream answer sent = none := congrArg Except.toOption hget
    rw [hnodes, hupstream]
    exact ⟨fun _ ⟨_, hnone, _⟩ => (nomatch hnone), fun _ => rfl⟩
  | ok r =>
    have houtcome := listOutcome_nodes hget
    have hupstream : c.upstream answer sent = some r := congrArg Except.toOption hget
    rw [hupstream]
    refine ⟨?_, fun hnone => ?_⟩
    · rintro found ⟨_, ⟨⟩, hserved, hbody⟩
      rw [(houtcome.ok_iff found).mpr ⟨hserved, hbody⟩]
      rfl
    · cases hnodes : (c.nodes (.recording answer) sent).1 with
      | error error => rfl
      | ok found => exact absurd ⟨r, rfl, (houtcome.ok_iff found).mp hnodes⟩ (hnone found)

end RegistryClient

namespace Listing
open RegistryClient

theorem run_list (answer : List Http.Request → Http.Exchange) (sent : List Http.Request) {arguments : List String}
    {o : Options} {client : RegistryClient} (hparse : Invocation.parse arguments = .ok (.list o))
    (hclient : ofUrl o.apiUrl o.timeout.toNat = .ok client) :
    (run (fun _ => .recording answer) arguments sent).1 =
      print o ⟨.ofExcept (client.nodes (.recording answer) sent).1, [.adminRequest]⟩ := by
  rw [run, hparse]
  dsimp only
  rw [list, hclient]
  rfl

/-- The command prints the table of the nodes that its view shows, unless a cell is too wide for plain text. -/
theorem print_eq (o : Options) (fetched : Except FetchError (List NodeRecord)) (log : List LogEntry) :
    print o ⟨.ofExcept fetched, log⟩ =
      match o.table? (Server.shown fetched) with
      | some text => { output := text }
      | none => { code := panicCode } := by
  rw [← Server.nodes_visit fetched log]
  rfl

/-- In whatever order its tasks take turns, a visit shows the same nodes in the end. -/
theorem nodes_visitBy (fetched : Except FetchError (List NodeRecord)) (log : List LogEntry)
    {actions : List View.Action} (hactions : ∀ a ∈ actions, a.Unasked)
    (hended : (View.World.visitBy (fun _ => .ofAnswer ⟨.ofExcept fetched, log⟩) actions).hasEnded 1 = true) :
    (View.World.visitBy (fun _ => .ofAnswer ⟨.ofExcept fetched, log⟩) actions).view.nodes = Server.shown fetched := by
  let source : View.Source := fun _ => .ofAnswer ⟨.ofExcept fetched, log⟩
  have hvisit : View.Visit (source 0).outcome (View.World.visitBy source actions) :=
    .visitBy (List.forall_mem_nil _) hactions
  rw [(hvisit.shown_of_ended hended).2]
  cases fetched <;> rfl

/-- What the listing prints for a final answer of the registry is the table that the page shows for it: as HTML the very
    content of the page, as text a table of the same rows in the same order. After a failure both are the headings
    alone. In whatever order the tasks of a visit take turns, its view shows these nodes in the end. -/
theorem run_shows_page {arguments : List String} {o : Options} {client : RegistryClient}
    (hparse : Invocation.parse arguments = .ok (.list o)) (hclient : ofUrl o.apiUrl o.timeout.toNat = .ok client)
    (c : RegistryClient) (answer answer' : List Http.Request → Http.Exchange) (sent sent' : List Http.Request)
    (hfinal : client.upstream answer sent = c.upstream answer' sent') {request : Server.Request}
    (hrequest : request.LoadsList) :
    let final := client.upstream answer sent
    let result := (run (fun _ => .recording answer) arguments sent).1
    let reply := (Server.handle (.ofClient c (.recording answer')) o.zone request sent').1
    ∃ nodes front, Shows final nodes ∧ Html.pageStart Server.title = front ++ Html.navigation ∧
      reply.response = some (.html (front ++ Html.navigation ++ Html.table o.zone nodes ++ Html.pageEnd)) ∧
      (o.format = .html → result = { output := Html.table o.zone nodes }) ∧
      (o.format = .text → Plain.Fits o.zone nodes →
        ∃ text, Plain.table? o.zone nodes = some text ∧ result = { output := text }) ∧
      Markup.rows? (Html.table o.zone nodes) =
        some (⟨none, columns⟩ :: (rows o.zone nodes).map fun row => ⟨some row.id, row.cells⟩) ∧
      Plain.lines o.zone nodes = columns :: (rows o.zone nodes).map NodeRow.cells ∧
      ((∀ found, ¬Lists final found) → Markup.rows? (Html.table o.zone nodes) = some [⟨none, columns⟩] ∧
        (o.format = .text → result = { output := "ID  Service  Locality  Created  Revision\n" })) ∧
      ∀ fetched, fetched = (client.nodes (.recording answer) sent).1 ∨
          fetched = (c.nodes (.recording answer') sent').1 → ∀ actions : List View.Action,
        (∀ a ∈ actions, a.Unasked) →
          let w := View.World.visitBy (fun _ => .ofAnswer ⟨.ofExcept fetched, [.adminRequest]⟩) actions
          w.hasEnded 1 → w.view.nodes = nodes := by
  intro final result reply
  have hprinted := (run_list answer sent hparse hclient).trans (print_eq o _ _)
  have hshown := client.shows_shown answer sent
  -- One final answer has one list to show, whichever of the two asked for it.
  have hsame : Server.shown (c.nodes (.recording answer') sent').1 =
      Server.shown (client.nodes (.recording answer) sent).1 :=
    (hfinal ▸ c.shows_shown answer' sent').unique hshown
  obtain ⟨front, hfront⟩ : ∃ front, Html.pageStart Server.title = front ++ Html.navigation := ⟨_, rfl⟩
  refine ⟨_, front, hshown, hfront, ?_, fun hformat => ?_, fun hformat hfits => ?_, Html.rows?_table _ _, rfl,
    fun hnone => ?_, fun fetched hfetched actions hactions hended => ?_⟩
  · rw [← hfront, ← hsame]
    exact Server.handle_index c answer' sent' o.zone hrequest.method hrequest.page
  · rw [Options.table?, hformat] at hprinted
    exact hprinted
  · obtain ⟨text, htext⟩ := Option.isSome_iff_exists.mp ((Plain.isSome_table?_iff _ _).mpr hfits)
    rw [Options.table?, hformat] at hprinted
    dsimp only at hprinted
    rw [htext] at hprinted
    exact ⟨text, htext, hprinted⟩
  · rw [hshown.failed hnone] at hprinted ⊢
    refine ⟨Html.rows?_table o.zone [], fun hformat => ?_⟩
    rw [Options.table?, hformat] at hprinted
    dsimp only at hprinted
    rw [Plain.table?_nil] at hprinted
    exact hprinted
  · rw [nodes_visitBy fetched [.adminRequest] hactions hended]
    rcases hfetched with rfl | rfl
    · rfl
    · exact hsame

/-- A registry that lists two nodes, the second one first. -/
def twoNodes (_ : List Http.Request) : Http.Exchange :=
  .answered { status := 200, body := Utf8.ofString "[\x7b\"id\":2\x7d,\x7b\"id\":1\x7d]" }

theorem run_shows_page_of_twoNodes :
    let arguments := ["--api-url", "http://h", "--utc"]
    let o : Options := { apiUrl := "http://h", utc := true }
    let nodes : List NodeRecord := [{ id := .numeric 1 }, { id := .numeric 2 }]
    Invocation.parse arguments = .ok (.list o) ∧ ofUrl o.apiUrl o.timeout.toNat = .ok Server.bareClient ∧
      Server.Request.LoadsList { target := "/" } ∧ Plain.Fits .utc nodes ∧
      (∃ text, Plain.table? .utc nodes = some text ∧
        (run (fun _ => .recording twoNodes) arguments []).1 = { output := text }) ∧
      ∃ front, (Server.handle (.ofClient Server.bareClient (.recording twoNodes)) .utc { target := "/" } []).1.response =
        some (.html (front ++ Html.navigation ++ Html.table .utc nodes ++ Html.pageEnd)) := by
  intro arguments o nodes
  have hparse : Invocation.parse arguments = .ok (.list o) := by decide +kernel
  have hclient : ofUrl o.apiUrl o.timeout.toNat = .ok Server.bareClient := by decide +kernel
  have hrequest : Server.Request.LoadsList { target := "/" } := ⟨rfl, by decide +kernel⟩
  have hfits : Plain.Fits .utc nodes := by
    show ∀ cells ∈ Plain.lines .utc nodes, ∀ cell ∈ cells, cell.length ≤ Plain.greatestWidth
    decide +kernel
  have hlists : Lists (Server.bareClient.upstream twoNodes []) nodes.reverse := by
    refine ⟨_, congrArg Except.toOption (Http.get_of_not_redirect rfl rfl), ⟨⟨by decide, by decide⟩, rfl⟩, ?_⟩
    decide +kernel
  have hsorted : NodeRecord.sort nodes.reverse = nodes :=
    (NodeRecord.sort_eq_of_perm nodes.reverse_perm (by decide +kernel)).trans
      (NodeRecord.sort_of_ordered (by decide +kernel))
  obtain ⟨shown, front, hshown, -, hpage, -, htext, -⟩ :=
    run_shows_page hparse hclient Server.bareClient twoNodes twoNodes [] [] rfl hrequest
  obtain rfl := (hshown.served _ hlists).trans hsorted
  exact ⟨hparse, hclient, hrequest, hfits, htext rfl hfits, front, hpage⟩

end Listing
end ClusterConsole
