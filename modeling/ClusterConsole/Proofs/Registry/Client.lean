import Mathlib.Control.Monad.Basic
import ClusterConsole.Proofs.Http.Exchange
import ClusterConsole.Proofs.Url.Path
import ClusterConsole.Registry.Client

/-! # Where requests for nodes go

The identifier of a node is one segment behind the route of the nodes. There are exceptions: `.` and `..` add no
segment, and an identifier of which only `..` is left without its tabs and line breaks leads out of the route. -/

namespace ClusterConsole
open ClusterConsole.Path

namespace Route

/-- The segments of the route of the nodes. -/
def nodeSegments : Path := ["api".toList, "v1".toList, "node".toList]

theorem segments_node : segments node = nodeSegments := by decide +kernel

theorem verbatim_nodeSegments : ∀ t ∈ nodeSegments, Verbatim t := by
  intro t ht
  simp only [nodeSegments, List.mem_cons, List.not_mem_nil, or_false] at ht
  obtain rfl | rfl | rfl := ht
  all_goals exact ⟨by decide, by decide, by decide, by decide⟩

end Route

namespace RegistryClient
open Route
variable (c : RegistryClient) (id : String)

/-- The requests that a client makes to get a node. -/
def nodeRequests (answer : List Http.Request → Http.Exchange) : List Http.Request :=
  (c.node (.recording answer) id []).2

theorem exists_nodeRequests_eq_cons (answer : List Http.Request → Http.Exchange) :
    ∃ later, c.nodeRequests id answer = .ofUrl (c.endpoint Route.node (some id)) :: later := by
  obtain ⟨later, h⟩ := Http.send_requests answer Http.redirectLimit (.ofUrl (c.endpoint Route.node (some id))) []
  refine ⟨later, ?_⟩
  rw [List.nil_append] at h
  rw [← h]
  unfold nodeRequests node fetch Http.get
  simp only [bind, StateT.bind]
  split
  rename_i result requests hsend
  rw [hsend]
  cases result <;> rfl

/-- What stands before the identifier. -/
def nodeFront : Path :=
  stem c.base.path ++ nodeSegments

/-- Both routes find a path that they come after. -/
theorem endpoint_eq (route : String) (id : Option String) : c.endpoint route id =
    let path := Path.extend (withoutTrailingSlash c.base.path) (segments route)
    { c.base with path := match id with | none => path | some id => path.push id.toList } :=
  if_neg (Bool.eq_false_iff.mp c.base.cannotCarryPath_eq_false)

theorem endpoint_node : c.endpoint Route.node (some id) = { c.base with path := c.nodeFront.push id.toList } := by
  have hextend : Path.extend (withoutTrailingSlash c.base.path) (segments Route.node) = c.nodeFront := by
    rw [segments_node, extend_of_verbatim verbatim_nodeSegments (by decide)]
    rfl
  rw [endpoint_eq, hextend]

theorem nodeFront_ne_root : c.nodeFront ≠ [[]] := by
  rw [nodeFront, nodeSegments, List.append_cons, List.append_cons]
  exact append_ne_root (by decide) _

theorem back_nodeFront : c.nodeFront.back = stem c.base.path ++ ["api".toList, "v1".toList] := by
  have hlast : c.nodeFront.getLast? = some "node".toList := by
    rw [nodeFront, nodeSegments, List.append_cons, List.append_cons, List.getLast?_concat]
  unfold Path.back
  rw [hlast]
  show c.nodeFront.dropLast = _
  rw [nodeFront, nodeSegments, List.append_cons, List.append_cons, List.dropLast_concat, List.append_assoc]
  rfl

/-- An identifier becomes one proper segment unless it is `.` or comes to `..`. -/
theorem exists_push_nodeFront_iff :
    (∃ segment, c.nodeFront.push id.toList = c.nodeFront ++ [segment] ∧ Segment.Proper segment) ↔
      id.toList ≠ ['.'] ∧ stripped id.toList ≠ ['.', '.'] := by
  by_cases hdots : id.toList = ['.'] ∨ id.toList = ['.', '.']
  · rw [push_of_dots hdots]
    constructor
    · rintro ⟨segment, heq, -⟩
      simpa using congrArg List.length heq
    · rintro ⟨hhere, hback⟩
      obtain heq | heq := hdots
      · exact absurd heq hhere
      · exact absurd (by rw [heq]; rfl) hback
  have hhere : id.toList ≠ ['.'] := fun heq => hdots (Or.inl heq)
  by_cases hback : stripped id.toList = ['.', '.']
  · rw [push_of_stripped_back hdots c.nodeFront_ne_root hback, back_nodeFront]
    constructor
    · rintro ⟨segment, heq, -⟩
      simpa [nodeFront, nodeSegments] using congrArg List.length heq
    · rintro ⟨-, hback'⟩
      exact absurd hback hback'
  refine ⟨fun _ => ⟨hhere, hback⟩, fun _ => ?_⟩
  by_cases hstripped : stripped id.toList = ['.']
  · exact ⟨[], push_of_stripped_here hdots c.nodeFront_ne_root hstripped, Segment.proper_nil⟩
  · refine ⟨_, ?_, Segment.proper_encode hstripped hback⟩
    rw [push_of_segment hstripped hback, if_neg c.nodeFront_ne_root]

/-- The first request for a node differs from the address of the registry in its path alone. The path is that of the
    address, the route of the nodes and one proper segment, exactly when the identifier is not `.` and does not come to
    `..` without its tabs and line breaks. With `.` and `..` the segment is missing, and what only comes to `..` leads
    out of the route. -/
theorem node_request_path (answer : List Http.Request → Http.Exchange) :
    ∃ request later, c.nodeRequests id answer = request :: later ∧
      request.url = Http.withoutUserinfo { c.base with path := request.url.path } ∧
      ((∃ segment, request.url.path =
          stem c.base.path ++ ["api".toList, "v1".toList, "node".toList] ++ [segment] ∧ Segment.Proper segment) ↔
        id ≠ "." ∧ stripped id.toList ≠ "..".toList) ∧
      (id = "." ∨ id = ".." →
        request.url.path = stem c.base.path ++ ["api".toList, "v1".toList, "node".toList]) ∧
      (id ≠ ".." → stripped id.toList = "..".toList →
        request.url.path = stem c.base.path ++ ["api".toList, "v1".toList] ++ [[]]) := by
  obtain ⟨later, hrequests⟩ := c.exists_nodeRequests_eq_cons id answer
  have htoList : ∀ text : String, id = text ↔ id.toList = text.toList := fun _ => String.toList_inj.symm
  refine ⟨_, later, hrequests, ?_⟩
  rw [endpoint_node]
  refine ⟨rfl, ?_, ?_, ?_⟩
  · rw [ne_eq, htoList]
    exact c.exists_push_nodeFront_iff id
  · intro h
    rw [htoList, htoList] at h
    exact push_of_dots h
  · intro hne hback
    have hdots : ¬(id.toList = ['.'] ∨ id.toList = ['.', '.']) := by
      rintro (heq | heq)
      · rw [heq] at hback
        cases hback
      · exact hne ((htoList "..").mpr heq)
    exact (push_of_stripped_back hdots c.nodeFront_ne_root hback).trans (by rw [back_nodeFront])

/-- Two points with a tab between them lead to the route above that of the nodes, and without it to the route itself. -/
theorem node_request_leaves_route :
    let c : RegistryClient := { base := { scheme := .http, host := .name ['h'], path := [[]] }, timeout := 5000 }
    ofUrl "http://h" = .ok c ∧ (c.endpoint Route.node (some ".\t.")).text = "http://h/api/v1/" ∧
      (c.endpoint Route.node (some "..")).text = "http://h/api/v1/node" ∧
      ¬∃ segment, (c.endpoint Route.node (some ".\t.")).path =
        stem c.base.path ++ ["api".toList, "v1".toList, "node".toList] ++ [segment] := by
  intro c
  have hpath : (c.endpoint Route.node (some ".\t.")).path = ["api".toList, "v1".toList, []] := by decide +kernel
  refine ⟨by decide +kernel, by decide +kernel, by decide +kernel, ?_⟩
  rintro ⟨segment, heq⟩
  rw [hpath] at heq
  simpa using congrArg List.length heq

end RegistryClient
end ClusterConsole
