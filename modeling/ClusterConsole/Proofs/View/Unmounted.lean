import ClusterConsole.Proofs.View.Announcement
import ClusterConsole.Proofs.View.Mounted
import ClusterConsole.Proofs.View.Stale

/-! # Views that are not mounted

From an unmounting to the next mounting no fetch of a mounting counts. A load has no generation: it goes on through
an unmounting, and what it answers counts whenever it returns. -/

namespace ClusterConsole.View

/-- What the view is given by itself or by a load, and takes in any generation. -/
def Effect.given? : Effect → Option (Except FetchError (List NodeRecord))
  | .succeed nodes => some (.ok nodes)
  | .fail error => some (.error error)
  | .loaded _ answer => some answer
  | _ => none

/-- What subscribers are told of an answer that counts. -/
def Event.ofAnswer : Except FetchError (List NodeRecord) → Event
  | .ok nodes => .replaced nodes.length
  | .error error => .failed error.message

namespace World
variable {w : World}

/-! ### What is given counts -/

theorem accepted?_of_stale {e : Effect} (h : ∀ task generation answer, e = .complete task generation answer →
    w.view.generation ≠ generation) : e.accepted? w = e.given?.bind Except.toOption := by
  cases e with
  | complete task generation answer =>
    have hne := h task generation answer rfl
    cases answer <;> simp [Effect.accepted?, Effect.given?, hne]
  | loaded task answer => cases answer <;> rfl
  | _ => rfl

theorem event?_of_stale {e : Effect} (h : ∀ task generation answer, e = .complete task generation answer →
    w.view.generation ≠ generation) : e.event? w = e.given?.map Event.ofAnswer := by
  have hlength : ∀ nodes, Event.replaced (NodeRecord.sort nodes).length = .ofAnswer (.ok nodes) :=
    fun nodes => congrArg Event.replaced (List.length_mergeSort nodes)
  cases e with
  | complete task generation answer =>
    have hne := h task generation answer rfl
    cases answer <;> simp [Effect.event?, Effect.accepted?, Effect.failure?, Effect.given?, hne]
  | succeed nodes => exact congrArg some (hlength nodes)
  | loaded task answer =>
    cases answer with
    | ok nodes => exact congrArg some (hlength nodes)
    | error error => rfl
  | _ => rfl

theorem accepted_of_stale {es : List Effect} (h : ∀ earlier later task generation answer,
    es = earlier ++ .complete task generation answer :: later → (w.replay earlier).view.generation ≠ generation) :
    w.accepted es = (es.filterMap Effect.given?).filterMap Except.toOption ∧
      w.announced es = (es.filterMap Effect.given?).map Event.ofAnswer := by
  induction es generalizing w with
  | nil => exact ⟨rfl, rfl⟩
  | cons e es ih =>
    have he : ∀ task generation answer, e = .complete task generation answer → w.view.generation ≠ generation := by
      rintro task generation answer rfl
      exact h [] es task generation answer rfl
    obtain ⟨haccepted, hannounced⟩ := ih (w := w.apply e) fun earlier later task generation answer hes =>
      h (e :: earlier) later task generation answer (congrArg (e :: ·) hes)
    rw [accepted, announced, accepted?_of_stale he, event?_of_stale he, haccepted, hannounced, List.filterMap_cons]
    cases e.given? with
    | none => exact ⟨rfl, rfl⟩
    | some answer => cases answer <;> exact ⟨rfl, rfl⟩

/-! ### The handle -/

/-- The handle is that of a fetch. -/
def Stored (w : World) : Prop :=
  ∀ task, w.view.handle = some task → ∃ generation, w.works[task]? = some (.fetch generation)

/-- Only a mounting stores a handle, and it is that of its own fetch. -/
theorem Stored.apply (h : w.Stored) (e : Effect) : (w.apply e).Stored := by
  intro task htask
  rw [handle_apply] at htask
  rw [works_apply]
  cases hhandle : e.handles? w with
  | none =>
    rw [hhandle] at htask
    obtain ⟨generation, hwork⟩ := h task htask
    exact ⟨generation, by rw [List.getElem?_append_left (List.getElem?_eq_some_iff.mp hwork).1, hwork]⟩
  | some handle =>
    rw [hhandle] at htask
    obtain rfl : handle = some task := htask
    -- No other effect stores one.
    cases e with
    | mount =>
      cases hm : w.view.mounted with
      | true => simp [Effect.handles?, hm] at hhandle
      | false =>
        obtain rfl : w.works.length = task := by simpa [Effect.handles?, hm] using hhandle
        refine ⟨w.view.generation + 1, ?_⟩
        rw [Effect.newWorks, hm]
        exact List.getElem?_concat_length
    | _ => cases hhandle

theorem Stored.replay (h : w.Stored) (es : List Effect) : (w.replay es).Stored := by
  induction es generalizing w with
  | nil => exact h
  | cons e es ih => exact ih (h.apply e)

end World

/-- The handle is that of a fetch. -/
theorem fetch_of_handle {es : List Effect} {task : Nat} (h : (after es).view.handle = some task) :
    ∃ generation, (after es).works[task]? = some (.fetch generation) :=
  World.Stored.replay (w := {}) nofun es task h

/-- An unmounting leaves a load where it is. -/
theorem stage?_unmount_of_load {es : List Effect} {task : Nat} (h : (after es).works[task]? = some .load) :
    (after (es ++ [.unmount])).stage? task = (after es).stage? task := by
  rw [after_append]
  show (after es).abortFetch.stage? task = _
  unfold World.abortFetch
  split
  · rfl
  · rename_i handle hhandle
    obtain ⟨generation, hfetch⟩ := fetch_of_handle hhandle
    have hne : handle ≠ task := by
      rintro rfl
      cases hfetch.symm.trans h
    exact World.stage?_abort_of_ne hne

/-- After an unmounting and before the next mounting there is no fetch of the view's generation. -/
theorem generation_ne_of_unmounted {before mid : List Effect} {task generation : Nat} (hmid : .mount ∉ mid)
    (h : (after (before ++ .unmount :: mid)).works[task]? = some (.fetch generation)) :
    (after (before ++ .unmount :: mid)).view.generation ≠ generation := by
  obtain ⟨earlier, later, hsplit, hstart, rfl⟩ := mounting_of_fetch h
  rcases before_or_behind (fun heq => by cases heq) hsplit with ⟨between, -, rfl⟩ | ⟨between, -, rfl⟩
  · exact absurd (List.mem_append_right between List.mem_cons_self) hmid
  · rw [hsplit]
    exact Nat.ne_of_gt (hstart.generation_lt between mid)

open World in
/-- Between an unmounting and the next mounting the view shows the last list that it is given by itself or by a load,
    and nothing when there is none. Each of these answers is announced, and no answer of a fetch is. A load goes on
    through the unmounting, so that one which was under way before it still puts its list into the view. -/
theorem given_of_history {source : Source} {actions : List Action} {before mid rest : List Effect}
    (h : history source {} actions = before ++ .unmount :: (mid ++ rest)) (hmount : .mount ∉ mid)
    (hunmount : .unmount ∉ mid) :
    let last := after (before ++ .unmount :: mid)
    let given := mid.filterMap Effect.given?
    run source {} actions = last.replay rest ∧ last.view.mounted = false ∧
      last.view.nodes = ((given.filterMap Except.toOption).getLast?.map NodeRecord.sort).getD [] ∧
      last.broadcast.sent = (after before).broadcast.sent ++ given.map Event.ofAnswer ∧
      ∀ task, (after before).works[task]? = some .load →
        (after (before ++ [.unmount])).stage? task = (after before).stage? task := by
  intro last given
  have hlast : last = (after (before ++ [.unmount])).replay mid := by
    rw [← after_append, List.append_assoc]
    rfl
  have hbegun : after (before ++ [.unmount]) = (after before).unmount := after_append _ _
  -- Without a mounting in between, every fetch that returns is of an earlier generation.
  have hstale : ∀ earlier later task generation answer, mid = earlier ++ .complete task generation answer :: later →
      ((after (before ++ [.unmount])).replay earlier).view.generation ≠ generation := by
    rintro earlier later task generation answer rfl
    have hsplit : history source {} actions = (before ++ .unmount :: earlier) ++
        .complete task generation answer :: (later ++ rest) := by
      rw [h]
      simp
    have hwork : (after (before ++ .unmount :: earlier)).works[task]? = some (.fetch generation) :=
      sound_of_history hsplit
    have hmount' : .mount ∉ earlier := fun hmem => hmount (List.mem_append_left _ hmem)
    rw [← after_append, List.append_assoc]
    exact generation_ne_of_unmounted hmount' hwork
  obtain ⟨haccepted, hannounced⟩ := accepted_of_stale hstale
  refine ⟨?_, ?_, ?_, ?_, fun task htask => stage?_unmount_of_load htask⟩
  · rw [← replay_history, h]
    show after _ = _
    rw [← after_append, List.append_assoc]
    rfl
  · rw [hlast]
    refine mounted_of_not_mem_mount ?_ hmount
    rw [hbegun]
    rfl
  · rw [hlast, nodes_replay hunmount, haccepted, hbegun]
    rfl
  · rw [hlast, sent_replay, hannounced, hbegun, broadcast_unmount]

/-- A fetch whose handle was taken, and a load, that both return after the view was unmounted. -/
def lateAnswers : List Action :=
  [.mount, .turn 0, .settle, .turn 1, .load, .turn 2, .unmount, .openGate, .turn 0, .openGate, .turn 2]

open World in
theorem given_of_lateAnswers : let fetched := lateCall (.answered [{ id := .numeric 3 }])
    let loaded := lateCall (.answered [{ id := .numeric 1 }])
    let es := history (.ofList [fetched, loaded]) {} lateAnswers
    es = es.take 11 ++ .unmount :: (es.drop 12 ++ []) ∧ .mount ∉ es.drop 12 ∧ .unmount ∉ es.drop 12 ∧
      .complete 0 1 (.ok [{ id := .numeric 3 }]) ∈ es.drop 12 ∧
      (after (es.take 11 ++ .unmount :: es.drop 12)).view.nodes = NodeRecord.sort [{ id := .numeric 1 }] ∧
      (after (es.take 11 ++ [.unmount])).stage? 2 = (after (es.take 11)).stage? 2 := by
  intro fetched loaded es
  have hsplit : es = es.take 11 ++ .unmount :: (es.drop 12 ++ []) := by decide +kernel
  have hmount : .mount ∉ es.drop 12 := by decide +kernel
  have hunmount : .unmount ∉ es.drop 12 := by decide +kernel
  have hgiven : (es.drop 12).filterMap Effect.given? = [.ok [{ id := .numeric 1 }]] := by decide +kernel
  obtain ⟨-, -, hnodes, -, hkept⟩ := given_of_history hsplit hmount hunmount
  refine ⟨hsplit, hmount, hunmount, by decide +kernel, ?_, hkept 2 (by decide +kernel)⟩
  rw [hnodes, hgiven]
  rfl

open World in
/-- A load that is at its gate when the view is unmounted fills the view when it returns, and is announced. -/
theorem loaded_of_unmounted : let call := lateCall (.answered [{ id := .numeric 1 }])
    let before := [.subscribe, .load, .pick 0, .call 0 call, .wait 0 []]
    let mid := [.openGate, .pick 0, .resume 0, .loaded 0 (.ok [{ id := .numeric 1 }]), .finish 0 .finished]
    history (.ofList [call]) {} [.subscribe, .load, .turn 0, .unmount, .openGate, .turn 0] =
      before ++ .unmount :: mid ∧ (after before).works[0]? = some .load ∧ (after before).stage? 0 = some (.waiting 0 []) ∧
      .mount ∉ mid ∧ (after (before ++ [.unmount])).view.nodes = [] ∧
      (after (before ++ .unmount :: mid)).view.mounted = false ∧
      (after (before ++ .unmount :: mid)).view.nodes = [{ id := .numeric 1 }] ∧
      (after (before ++ .unmount :: mid)).broadcast.sent = (after before).broadcast.sent ++ [.replaced 1] := by
  decide +kernel

end ClusterConsole.View
