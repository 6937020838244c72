import Mathlib.Control.Monad.Basic
import ClusterConsole.Proofs.Node.Sorted
import ClusterConsole.Proofs.View.Visit
import ClusterConsole.Server.Router

/-! # Page loads in turn

Each request for the list of nodes asks for the nodes once, and what it is answered follows from what came of that
question alone. The directory may answer as it likes, also by what it was asked before, and may fail or panic. -/

namespace ClusterConsole

/-- What a directory may be asked. -/
inductive Question where
  | nodes
  | node (id : String)
deriving DecidableEq, Repr

/-- A directory whose answers may depend on all questions so far, which it keeps. -/
def Directory.recording (nodes : List Question → Answer (List NodeRecord))
    (node : List Question → String → Answer (Option NodeRecord)) : Directory (StateM (List Question)) where
  nodes asked := (nodes asked, asked ++ [.nodes])
  node id asked := (node asked id, asked ++ [.node id])

namespace Server

/-- What is asked to make a page. -/
def Page.questions : Page → List Question
  | .index => [.nodes]
  | .node segment => (identifier? segment).toList.map .node
  | .logo | .health => []

/-- What is asked to answer a request. -/
def Request.questions (request : Request) : List Question :=
  match Page.ofPath? (Page.pathOf request.target.toList) with
  | none => []
  | some page => if request.method = "GET" ∨ request.method = "HEAD" then page.questions else []

/-- A request for the page with the list of nodes. -/
structure Request.LoadsList (request : Request) : Prop where
  method : request.method = "GET"
  page : Page.ofPath? (Page.pathOf request.target.toList) = some .index

/-- The page with a list of nodes. -/
def listPage (zone : DisplayZone) (nodes : List NodeRecord) : Response where
  status := 200
  contentType := some "text/html; charset=utf-8"
  body := Html.page title (Html.table zone nodes)

theorem Request.LoadsList.questions_eq {request : Request} (h : request.LoadsList) : request.questions = [.nodes] := by
  rw [questions, h.page]
  exact if_pos (.inl h.method)

/-! ### One request -/

/-- Turns given until no task can go on are actions that nobody asks for. -/
theorem exists_turns_eq_run (source : View.Source) (w : View.World) (more : Nat) :
    ∃ actions : List View.Action, (∀ a ∈ actions, a.Unasked) ∧ w.turns source more = w.run source actions := by
  induction more generalizing w with
  | zero => exact ⟨[], List.forall_mem_nil _, rfl⟩
  | succ more ih =>
    unfold View.World.turns
    split
    · exact ⟨[], List.forall_mem_nil _, rfl⟩
    · rename_i task _ _
      obtain ⟨actions, hactions, hrun⟩ := ih (w.turn source task)
      exact ⟨.turn task :: actions, List.forall_mem_cons.mpr ⟨.turn task, hactions⟩, hrun⟩

/-- The visit that a page is made from is one of those in which the tasks take turns. -/
theorem visit_eq_visitBy (source : View.Source) : ∃ actions : List View.Action,
    (∀ a ∈ actions, a.Unasked) ∧ View.World.visit source = View.World.visitBy source actions :=
  exists_turns_eq_run source (View.World.visitBy source []) 6

/-- The visit to a source that comes to an answer at once comes to its end, has made one call, and shows what came of
    it. -/
theorem visit_ofAnswer (answer : Answer (List NodeRecord)) :
    let w := View.World.visit fun _ => .ofAnswer answer
    w.hasEnded 1 ∧ w.calls = 1 ∧ w.view.nodes = answer.outcome.shown := by
  intro w
  let source : View.Source := fun _ => .ofAnswer answer
  have hended : w.hasEnded 1 = true := by
    obtain ⟨outcome, log⟩ := answer
    cases outcome <;> rfl
  obtain ⟨actions, hactions, hvisit⟩ := visit_eq_visitBy source
  have hreached : View.Visit (source 0).outcome (View.World.visitBy source actions) :=
    .visitBy (List.forall_mem_nil _) hactions
  rw [← hvisit] at hreached
  exact ⟨hended, hreached.shown_of_ended hended⟩

section
variable (nodes : List Question → Answer (List NodeRecord)) (node : List Question → String → Answer (Option NodeRecord))
  (zone : DisplayZone) (request : Request) (asked : List Question)

theorem get_asks (page : Page) : (get (.recording nodes node) zone page asked).2 = asked ++ page.questions := by
  cases page with
  | index => rfl
  | node segment =>
    unfold get Page.questions
    dsimp only
    cases Page.identifier? segment with
    | none => exact (List.append_nil asked).symm
    | some id => rfl
  | logo => exact (List.append_nil asked).symm
  | health => exact (List.append_nil asked).symm

theorem handle_asks : (handle (.recording nodes node) zone request asked).2 = asked ++ request.questions := by
  unfold handle Request.questions
  cases Page.ofPath? (Page.pathOf request.target.toList) with
  | none => exact (List.append_nil asked).symm
  | some page =>
    dsimp only
    split
    · rename_i hget
      rw [if_pos (.inl hget)]
      exact get_asks nodes node zone asked page
    · rename_i hget
      split
      · rename_i hhead
        rw [if_pos (.inr hhead)]
        exact get_asks nodes node zone asked page
      · rename_i hhead
        rw [if_neg (not_or.mpr ⟨hget, hhead⟩)]
        exact (List.append_nil asked).symm

theorem handle_loadsList (h : request.LoadsList) : (handle (.recording nodes node) zone request asked).1.response =
    some (listPage zone (nodes asked).outcome.shown) := by
  rw [handle, h.page]
  dsimp only
  rw [if_pos h.method, ← (visit_ofAnswer (nodes asked)).2.2]
  rfl

/-! ### Requests in turn -/

theorem handleAll_cons (requests : List Request) : handleAll (.recording nodes node) zone (request :: requests) asked =
    let first := handle (.recording nodes node) zone request asked
    let more := handleAll (.recording nodes node) zone requests first.2
    (first.1 :: more.1, more.2) := by
  unfold handleAll
  rw [List.mapM_cons]
  rfl

theorem handleAll_asks (requests : List Request) : (handleAll (.recording nodes node) zone requests asked).2 =
    asked ++ requests.flatMap Request.questions := by
  induction requests generalizing asked with
  | nil => exact (List.append_nil asked).symm
  | cons request requests ih =>
    rw [handleAll_cons]
    dsimp only
    rw [ih, handle_asks, List.append_assoc]
    rfl

theorem handleAll_length (requests : List Request) :
    (handleAll (.recording nodes node) zone requests asked).1.length = requests.length := by
  induction requests generalizing asked with
  | nil => rfl
  | cons request requests ih =>
    rw [handleAll_cons]
    exact congrArg Nat.succ (ih _)

/-- Each request is answered as if the ones before it had done nothing but ask their questions. -/
theorem handleAll_getElem? (requests : List Request) (i : Nat) :
    (handleAll (.recording nodes node) zone requests asked).1[i]? = requests[i]?.map fun request =>
      (handle (.recording nodes node) zone request (asked ++ (requests.take i).flatMap Request.questions)).1 := by
  induction requests generalizing asked i with
  | nil => rfl
  | cons request requests ih =>
    rw [handleAll_cons]
    cases i with
    | zero => simp
    | succ i =>
      have hlater := ih (asked ++ request.questions) i
      simp only [handle_asks, List.getElem?_cons_succ, List.take_succ_cons, List.flatMap_cons]
      rw [hlater, List.append_assoc]

/-- Every request for the list of nodes is answered with the page of that list, and asks for the nodes once. What stands
    on the page comes from the outcome of that question alone, whatever the requests before it asked and whatever became
    of them: the nodes of the answer in the order of their identifiers, and none after an error or a panic. The page is
    made from a visit to a new view, which has made one call and come to its end. It is one of the visits in which the
    tasks take turns by themselves, and these may have their turns in any order and wait as long as they like: a visit
    makes one call, it comes to its end, and when the task that waits for it has ended the outcome of the call is
    shown. -/
theorem page_of_each_request (requests : List Request) :
    let run := handleAll (.recording nodes node) zone requests []
    run.2 = requests.flatMap Request.questions ∧ run.1.length = requests.length ∧
      (∀ earlier request later, requests = earlier ++ request :: later → request.LoadsList →
        let answer := nodes (earlier.flatMap Request.questions)
        let outcome := answer.outcome
        let visit := View.World.visit fun _ => .ofAnswer answer
        request.questions = [.nodes] ∧
          (visit.calls = 1 ∧ visit.hasEnded 1 ∧ visit.view.nodes = outcome.shown ∧
            ∃ actions : List View.Action, (∀ a ∈ actions, a.Unasked) ∧
              visit = View.World.visitBy (fun _ => .ofAnswer answer) actions) ∧
          (∃ reply, run.1[earlier.length]? = some reply ∧ reply.response = some (listPage zone outcome.shown)) ∧
          (∀ list, outcome = .answered list → NodeRecord.Arranged list outcome.shown) ∧
          ((∀ list, outcome ≠ .answered list) → outcome.shown = [])) ∧
      ∀ (source : View.Source) (actions : List View.Action), (∀ step ∈ (source 0).steps, step = .wait) →
        (∀ a ∈ actions, a.Unasked) →
        let w := View.World.visitBy source actions
        w.calls ≤ 1 ∧ (w.ready = [] → w.gates = [] → w.hasEnded 1) ∧
          (w.hasEnded 1 → w.calls = 1 ∧ w.view.nodes = (source 0).outcome.shown) := by
  intro run
  refine ⟨handleAll_asks nodes node zone [] requests, handleAll_length nodes node zone [] requests, ?_, ?_⟩
  · rintro earlier request later rfl hloads answer outcome visit
    have hreply := handleAll_getElem? nodes node zone [] (earlier ++ request :: later) earlier.length
    rw [List.getElem?_append_right (Nat.le_refl _), Nat.sub_self, List.take_left] at hreply
    -- The reply is made from the question asked here, whatever was asked before.
    obtain ⟨hended, hcalls, hshown⟩ := visit_ofAnswer answer
    refine ⟨hloads.questions_eq, ⟨hcalls, hended, hshown, visit_eq_visitBy _⟩,
      ⟨_, hreply, handle_loadsList nodes node zone request _ hloads⟩, ?_, ?_⟩
    · intro list houtcome
      rw [houtcome]
      exact NodeRecord.arranged_sort list
    · intro hnone
      cases houtcome : outcome with
      | answered list => exact absurd houtcome (hnone list)
      | failed error => rfl
      | panicked => rfl
  · intro source actions hsteps hactions w
    have hvisit : View.Visit (source 0).outcome w := .visitBy hsteps hactions
    exact ⟨hvisit.calls_le_one, hvisit.ended_of_quiet, hvisit.shown_of_ended⟩

end

/-- Three requests to a directory that panics when it is first asked, then fails, and then answers with two nodes; and a
    visit whose waiting task comes first and whose call has two gates. -/
theorem page_of_third_request :
    let list : List NodeRecord := [{ id := .text "b" }, { id := .text "a" }]
    let nodes : List Question → Answer (List NodeRecord) :=
      fun asked => ⟨if asked = [] then .panicked else .answered list, []⟩
    let requests : List Request := [{ target := "/" }, { target := "/nodes/a?x" }, { target := "/?x" }]
    let source : View.Source := fun _ => { outcome := .answered list, gated := true, during := [.wait] }
    let actions : List View.Action := [.turn 1, .turn 0, .openGate, .turn 0, .openGate, .turn 0, .turn 1]
    Request.LoadsList { target := "/" } ∧ Request.LoadsList { target := "/?x" } ∧
      (∃ reply, (handleAll (.recording nodes fun _ _ => ⟨.panicked, []⟩) .utc requests []).1[0]? = some reply ∧
        reply.response = some (listPage .utc [])) ∧
      (∃ reply, (handleAll (.recording nodes fun _ _ => ⟨.panicked, []⟩) .utc requests []).1[2]? = some reply ∧
        reply.response = some (listPage .utc list.reverse)) ∧
      (∀ a ∈ actions, a.Unasked) ∧ (View.World.visitBy source actions).view.nodes = list.reverse := by
  intro list nodes requests source actions
  obtain ⟨-, -, hpages, hvisits⟩ := page_of_each_request nodes (fun _ _ => ⟨.panicked, []⟩) .utc requests
  have hfirst : Request.LoadsList { target := "/" } := ⟨rfl, by decide +kernel⟩
  have hthird : Request.LoadsList { target := "/?x" } := ⟨rfl, by decide +kernel⟩
  obtain ⟨-, -, hfirstReply, -⟩ := hpages [] _ _ rfl hfirst
  obtain ⟨-, -, hthirdReply, -⟩ := hpages [{ target := "/" }, { target := "/nodes/a?x" }] _ [] rfl hthird
  have hactions : ∀ a ∈ actions, a.Unasked := by
    simp only [actions, List.forall_mem_cons]
    exact ⟨.turn 1, .turn 0, .openGate, .turn 0, .openGate, .turn 0, .turn 1, List.forall_mem_nil _⟩
  have hsteps : ∀ step ∈ (source 0).steps, step = .wait := by simp [source, View.Call.steps]
  obtain ⟨-, -, hshown⟩ := hvisits source actions hsteps hactions
  have hsorted : NodeRecord.sort list = list.reverse :=
    (NodeRecord.sort_eq_of_perm list.reverse_perm.symm (by decide +kernel)).trans
      (NodeRecord.sort_of_ordered (by decide +kernel))
  have hasked : [({ target := "/" } : Request), { target := "/nodes/a?x" }].flatMap Request.questions ≠ [] := by
    decide +kernel
  have hanswered : (nodes ([({ target := "/" } : Request), { target := "/nodes/a?x" }].flatMap
      Request.questions)).outcome = .answered list := by
    simp only [nodes]
    exact if_neg hasked
  rw [hanswered, Outcome.shown, hsorted] at hthirdReply
  have hended : (View.World.visitBy source actions).hasEnded 1 = true := by decide +kernel
  exact ⟨hfirst, hthird, hfirstReply, hthirdReply, hactions, (hshown hended).2.trans hsorted⟩

end Server
end ClusterConsole
