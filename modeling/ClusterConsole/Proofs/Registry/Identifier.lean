import ClusterConsole.Proofs.Registry.Client
import ClusterConsole.Proofs.Url.Written

/-! # Identifiers in addresses

The last segment of the address of a node is its identifier, written so that it is read back as the same bytes. Two
identifiers have the same address only if they are the same. -/

namespace ClusterConsole

namespace RegistryClient
open Percent

/-- An identifier that is no step of a path and has none of the characters that are dropped from addresses. -/
structure Lasting (id : String) : Prop where
  notHere : id ≠ "."
  notBack : id ≠ ".."
  nothingDropped : ∀ c ∈ id.toList, c ≠ '\t' ∧ c ≠ '\n' ∧ c ≠ '\r'

variable {c : RegistryClient} {x y : String}

theorem Lasting.kept (h : Lasting x) : Path.Kept x.toList where
  notHere heq := h.notHere (String.toList_injective heq)
  notBack heq := h.notBack (String.toList_injective heq)
  nothingDropped c hc := by simp [Path.isDropped, h.nothingDropped c hc]

theorem Lasting.pathText_endpoint (h : Lasting x) : (c.endpoint Route.node (some x)).pathText =
    ({ c.base with path := c.nodeFront } : Url).pathText ++ '/' :: encode inSegment x.toList := by
  rw [endpoint_node, h.kept.push c.nodeFront_ne_root, Url.pathText_concat]

/-- Whatever address a client has, the path of the address of a node ends in a slash and a segment that is read back as
    the identifier. The segment has none of the characters that could end it, and percent signs only begin its escapes.
    Different identifiers are asked for at different addresses. -/
theorem node_segment_of_lasting (c : RegistryClient) (hx : Lasting x) (hy : Lasting y) :
    (∃ front segment, (c.endpoint Route.node (some x)).pathText = front ++ '/' :: segment ∧
        (∀ mark ∈ segment, mark ≠ '/' ∧ mark ≠ '\\' ∧ mark ≠ '?' ∧ mark ≠ '#') ∧ Escaped segment ∧
        decode (Utf8.encode segment) = Utf8.ofString x) ∧
      ((c.endpoint Route.node (some x)).text = (c.endpoint Route.node (some y)).text → x = y) := by
  refine ⟨⟨_, _, hx.pathText_endpoint, ?_, escaped_encode rfl _, decode_encode rfl _⟩, fun htext => ?_⟩
  · exact (Segment.proper_encode hx.kept.notHere hx.kept.notBack).noMark
  · have hpath : (c.endpoint Route.node (some x)).pathText = (c.endpoint Route.node (some y)).pathText := by
      rw [endpoint_node, endpoint_node] at htext ⊢
      exact Url.pathText_of_text_eq htext
    rw [hx.pathText_endpoint, hy.pathText_endpoint] at hpath
    have hsegment := (List.cons.inj (List.append_cancel_left hpath)).2
    have hbytes := congrArg (fun segment => decode (Utf8.encode segment)) hsegment
    rw [decode_encode rfl, decode_encode rfl] at hbytes
    exact Utf8.ofString_injective hbytes

/-- An identifier that looks escaped already, behind a path that ends in a slash and has a query behind it. -/
theorem node_segment_of_escaped :
    let c : RegistryClient :=
      { base := { scheme := .http, host := .name ['h'], path := [['p'], []], query := some ['q'] }, timeout := 5000 }
    ofUrl "http://h/p/?q" = .ok c ∧ Lasting "%2e%2e/é" ∧ Lasting "" ∧
      (∃ front segment, (c.endpoint Route.node (some "%2e%2e/é")).pathText = front ++ '/' :: segment ∧
        Escaped segment ∧ decode (Utf8.encode segment) = Utf8.ofString "%2e%2e/é") ∧
      (c.endpoint Route.node (some "%2e%2e/é")).text ≠ (c.endpoint Route.node (some "")).text := by
  intro c
  have hx : Lasting "%2e%2e/é" := ⟨by decide, by decide, by simp⟩
  have hy : Lasting "" := ⟨by decide, by decide, List.forall_mem_nil _⟩
  obtain ⟨⟨front, segment, hpath, -, hescaped, hread⟩, hsame⟩ := c.node_segment_of_lasting hx hy
  exact ⟨by decide +kernel, hx, hy, ⟨front, segment, hpath, hescaped, hread⟩, fun h => absurd (hsame h) (by decide)⟩

end RegistryClient
end ClusterConsole
