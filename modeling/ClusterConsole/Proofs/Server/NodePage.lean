import ClusterConsole.Proofs.Server.Reply
import ClusterConsole.Proofs.Table.Page
import ClusterConsole.Proofs.Url.Unreserved

/-! # Every node has its page

A text is asked for with all its bytes escaped that are not unreserved. Whatever the text is, the target names one page,
and the identifier read there is the text. So every node has its page, under what its identifier is shown as. -/

namespace ClusterConsole.Server

/-! ### The page that is asked for -/

/-- The target of the page of the node that is shown under a text. -/
def Page.target (text : String) : String :=
  Page.nodePath ++ String.ofList (Percent.write text)

theorem toList_target (text : String) :
    (Page.target text).toList = Page.nodePath.toList ++ Percent.write text := by
  rw [Page.target, String.toList_append, String.toList_ofList]

theorem pathOf_target (text : String) : Page.pathOf (Page.target text).toList = (Page.target text).toList := by
  have hfront : Page.nodePath.toList.all (fun c => c != '?' && c != '#') = true := by decide +kernel
  have hwritten : ('%' :: Percent.unreserved).all (fun c => c != '?' && c != '#') = true := by decide +kernel
  have hplain : ∀ c ∈ (Page.target text).toList, (c != '?' && c != '#') = true := by
    intro c hc
    rw [toList_target] at hc
    rcases List.mem_append.mp hc with hc | hc
    · exact List.all_eq_true.mp hfront c hc
    · exact List.all_eq_true.mp hwritten c (List.mem_cons.mpr (Percent.mem_write hc))
  have hpath : Page.pathOf (Page.target text).toList = Page.pathOf.untilQuery (Page.target text).toList := by
    rw [toList_target]
    rfl
  rw [hpath, Page.pathOf.untilQuery, List.takeWhile_eq_self_iff.mpr hplain]

theorem segment?_target {text : String} (h : text ≠ "") :
    Page.segment? (Page.target text).toList = some (Percent.write text) := by
  have hslash : '/' ∉ Percent.write text := fun hmem =>
    absurd (List.mem_cons.mpr (Percent.mem_write hmem)) (by decide +kernel)
  have hne : Percent.write text ≠ [] := mt Percent.write_eq_nil h
  have hlength : Page.nodePath.length = Page.nodePath.toList.length := String.length_toList.symm
  rw [Page.segment?, toList_target, if_pos (List.isPrefixOf_iff_prefix.mpr (List.prefix_append _ _))]
  dsimp only
  rw [hlength, List.drop_left, if_pos ⟨hne, hslash⟩]

theorem ofPath?_target {text : String} (h : text ≠ "") :
    Page.ofPath? (Page.pathOf (Page.target text).toList) = some (.node (Percent.write text)) := by
  -- The other paths differ from it in the second character, or have none.
  have hsecond : (Page.target text).toList[1]? = some 'n' := by
    rw [toList_target]
    rfl
  have hother : ∀ path : List Char, path[1]? ≠ some 'n' → (Page.target text).toList ≠ path := by
    rintro path hpath rfl
    exact hpath hsecond
  rw [pathOf_target, Page.ofPath?, if_neg (hother _ (by decide)), if_neg (hother _ (by decide +kernel)),
    if_neg (hother _ (by decide +kernel)), segment?_target h]
  rfl

theorem identifier?_write (text : String) : Page.identifier? (Percent.write text) = some text := by
  rw [Page.identifier?, Percent.bytes_of_write]
  exact Utf8.string?_eq_some_iff.mpr rfl

/-! ### The answer -/

theorem handle_target (outcome : Outcome (List NodeRecord)) (zone : DisplayZone) (asked : Nat) {text : String}
    (h : text ≠ "") : (handle (.fixed outcome) zone { target := Page.target text } asked).1 =
      nodeReply zone ⟨Directory.lookup outcome text, []⟩ := by
  rw [handle, ofPath?_target h]
  dsimp only
  rw [if_pos rfl, get, identifier?_write]
  rfl

/-- The answer with the page of a node: its title and its row name the node by the text. -/
structure ShowsNode (zone : DisplayZone) (text : String) (node : NodeRecord) (response : Response) : Prop where
  html : response = .html (Html.page (title ++ " - " ++ text) (Html.table zone [node]))
  ok : response.status = 200
  title : Markup.title? response.body = some (title ++ " - " ++ text)
  rows : Markup.rows? response.body = some [⟨none, columns⟩, ⟨some text, (NodeRow.ofRecord zone node).cells⟩]

theorem showsNode_of_display (zone : DisplayZone) {text : String} {node : NodeRecord} (h : node.id.display = text) :
    ShowsNode zone text node (.html (Html.page (title ++ " - " ++ text) (Html.table zone [node]))) where
  html := rfl
  ok := rfl
  title := Html.title?_page _ zone [node]
  rows := by
    subst h
    exact Html.rows?_page _ zone [node]

/-- Whatever text is asked for, the answer is the page of the first node that is shown under it, and the title and the
    row on that page name the node by the text. If no node is shown under it, the answer says so. -/
theorem page_of_each_node (nodes : List NodeRecord) (zone : DisplayZone) (asked : Nat) (text : String)
    (h : text ≠ "") :
    ∃ response, (handle (.fixed (.answered nodes)) zone { target := Page.target text } asked).1.response =
        some response ∧
      (∀ before node after, nodes = before ++ node :: after → node.id.display = text →
        (∀ other ∈ before, other.id.display ≠ text) → ShowsNode zone text node response) ∧
      ((∀ node ∈ nodes, node.id.display ≠ text) → response.status = 404 ∧ ∃ report,
        ErrorReport.decode (Utf8.ofString response.body) = .ok report ∧ report.code.name = "not_found") := by
  rw [handle_target _ zone asked h, Directory.lookup, Directory.find?]
  cases hfound : nodes.find? (fun node => node.id.display == text) with
  | none =>
    have hnone : ∀ node ∈ nodes, node.id.display ≠ text := by simpa using hfound
    refine ⟨_, rfl, ?_, fun _ => ⟨rfl, _, decode_body_report 404 _, rfl⟩⟩
    rintro before node after rfl hnode -
    exact absurd hnode (hnone node (by simp))
  | some found =>
    have hdisplay : found.id.display = text := by simpa using List.find?_some hfound
    refine ⟨_, rfl, ?_, fun hnone => absurd hdisplay (hnone found (List.mem_of_find?_eq_some hfound))⟩
    rintro before node after rfl hnode hbefore
    have hfirst : (before ++ node :: after).find? (fun node => node.id.display == text) = some node :=
      List.find?_eq_some_iff_append.mpr ⟨by simpa using hnode, before, after, rfl, by simpa using hbefore⟩
    obtain rfl : found = node := Option.some.inj (hfound.symm.trans hfirst)
    rw [hdisplay]
    exact showsNode_of_display zone hdisplay

/-- A text with all that has a meaning in addresses, in escapes and in markup, under which two nodes are shown, and a
    number that another node has as a text. -/
theorem page_of_odd_nodes :
    let odd := "../%2F<é \"&?#"
    let named : NodeRecord := { id := .text odd, service := "a" }
    let again : NodeRecord := { id := .text odd, service := "b" }
    let number : NodeRecord := { id := .numeric (-7) }
    let nodes := [number, named, again, { id := .text "-7" }]
    Page.target odd = "/nodes/..%2F%252F%3C%C3%A9%20%22%26%3F%23" ∧
      (∃ response, (handle (.fixed (.answered nodes)) .utc { target := Page.target odd } 0).1.response =
        some response ∧ ShowsNode .utc odd named response) ∧
      (∃ response, (handle (.fixed (.answered nodes)) .utc { target := Page.target "-7" } 0).1.response =
        some response ∧ ShowsNode .utc "-7" number response) ∧
      ∃ response, (handle (.fixed (.answered nodes)) .utc { target := Page.target "." } 0).1.response =
        some response ∧ response.status = 404 := by
  intro odd named again number nodes
  obtain ⟨first, hfirst, hnamed, -⟩ := page_of_each_node nodes .utc 0 odd (by decide)
  obtain ⟨second, hsecond, hnumber, -⟩ := page_of_each_node nodes .utc 0 "-7" (by decide)
  obtain ⟨third, hthird, -, hunknown⟩ := page_of_each_node nodes .utc 0 "." (by decide)
  have hminus : number.id.display = "-7" := by decide +kernel
  have hnot : number.id.display ≠ odd := by decide +kernel
  have hnowhere : ∀ node ∈ nodes, node.id.display ≠ "." := by decide +kernel
  exact ⟨by decide +kernel, ⟨first, hfirst, hnamed [number] named _ rfl rfl (List.forall_mem_singleton.mpr hnot)⟩,
    ⟨second, hsecond, hnumber [] number _ rfl hminus (List.forall_mem_nil _)⟩, third, hthird, (hunknown hnowhere).1⟩

end ClusterConsole.Server
