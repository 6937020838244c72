import ClusterConsole.Proofs.Node.Sorted
import ClusterConsole.Proofs.View.Generation

/-! # What the view shows

The view shows the latest list that was accepted since it was last unmounted, in order, and nothing when there is
none. What is asked of the view directly is accepted, and the list of a fetch when its generation is still that of
the view: when nothing has mounted or unmounted the view since the mounting that started the fetch. -/

namespace ClusterConsole

namespace NodeRecord

/-- The same records in the order of their identifiers. What is in order among the given ones keeps its places. -/
structure StablySorted (nodes sorted : List NodeRecord) : Prop where
  perm : sorted.Perm nodes
  pairwise : sorted.Pairwise fun a b => a.compare b ≠ .gt
  stable : ∀ part : List NodeRecord, part.Sublist nodes → (part.Pairwise fun a b => a.compare b ≠ .gt) →
    part.Sublist sorted

theorem stablySorted_sort (nodes : List NodeRecord) : StablySorted nodes (sort nodes) :=
  ⟨List.mergeSort_perm nodes _, pairwise_sort nodes, fun _ => sublist_sort⟩

theorem stablySorted_nil : StablySorted [] [] :=
  ⟨.nil, .nil, fun _ hpart _ => hpart⟩

end NodeRecord

namespace View

/-- The list of nodes that an effect has the view show from then on. -/
def Effect.accepted? (w : World) : Effect → Option (List NodeRecord)
  | .succeed nodes => some nodes
  | .loaded _ (.ok nodes) => some nodes
  | .complete _ generation (.ok nodes) => if w.view.generation = generation then some nodes else none
  | _ => none

/-- The lists of nodes that are accepted in turn. -/
def World.accepted (w : World) : List Effect → List (List NodeRecord)
  | [] => []
  | e :: es => (e.accepted? w).toList ++ accepted (w.apply e) es

/-- The effects `since` come after the last unmounting, if there was one. -/
def SinceUnmounting (es before since : List Effect) : Prop :=
  es = before ++ since ∧ (before = [] ∨ ∃ earlier, before = earlier ++ [.unmount]) ∧ .unmount ∉ since

/-- The fetch `task` was started by a mounting, and no mounting or unmounting has taken effect since. -/
def Current (es : List Effect) (task : Nat) : Prop :=
  ∃ before mid, es = before ++ .mount :: mid ∧ Mounting before task ∧
    World.renewals (after (before ++ [.mount])) mid = 0

namespace World
variable {w : World}

theorem nodes_unmount : w.unmount.view.nodes = [] := rfl

theorem nodes_apply {e : Effect} (h : e ≠ .unmount) :
    (w.apply e).view.nodes = ((e.accepted? w).map NodeRecord.sort).getD w.view.nodes := by
  cases e with
  | unmount => exact absurd rfl h
  | mount => cases hm : w.view.mounted <;> simp [apply, mount, Effect.accepted?, hm, spawn, report]
  | openGate => simp [apply, Effect.accepted?]
  | call task call => simp [apply, Effect.accepted?]
  | wait task rest => simp [apply, Effect.accepted?]
  | resume task => simp [apply, Effect.accepted?]
  | complete task generation answer =>
    simp only [apply, complete]
    by_cases hg : w.view.generation = generation
    · cases answer <;> simp [hg, Effect.accepted?, succeed, fail, send, report]
    · cases answer <;> simp [hg, Effect.accepted?, report]
  | loaded task answer => cases answer <;> rfl
  | takeHandle task =>
    obtain ⟨handle, hv⟩ := view_settle (w := w) task
    simp [apply, Effect.accepted?, hv]
  | join task target => simp [apply, Effect.accepted?]
  | _ => rfl

/-- Without an unmounting the view shows the last list that is accepted, or what it showed before. -/
theorem nodes_replay {es : List Effect} (h : .unmount ∉ es) :
    (w.replay es).view.nodes = ((w.accepted es).getLast?.map NodeRecord.sort).getD w.view.nodes := by
  induction es generalizing w with
  | nil => rfl
  | cons e es ih =>
    have he : e ≠ .unmount := fun heq => h (heq ▸ List.mem_cons_self)
    rw [replay_cons, ih (fun hm => h (List.mem_cons_of_mem e hm)), nodes_apply he, accepted, List.getLast?_append]
    cases ((w.apply e).accepted es).getLast? with
    | some nodes => rfl
    | none => cases e.accepted? w <;> rfl

end World

theorem exists_sinceUnmounting (es : List Effect) : ∃ before since, SinceUnmounting es before since := by
  induction es using List.reverseRecOn with
  | nil => exact ⟨[], [], rfl, Or.inl rfl, by simp⟩
  | append_singleton es e ih =>
    by_cases he : e = .unmount
    · subst he
      exact ⟨es ++ [.unmount], [], by simp, Or.inr ⟨es, rfl⟩, by simp⟩
    · obtain ⟨before, since, hes, hbefore, hsince⟩ := ih
      refine ⟨before, since ++ [e], by simp [hes], hbefore, ?_⟩
      simpa [hsince] using Ne.symm he

theorem SinceUnmounting.nodes_eq {es before since : List Effect} (h : SinceUnmounting es before since) :
    (after es).view.nodes = (((after before).accepted since).getLast?.map NodeRecord.sort).getD [] := by
  obtain ⟨rfl, hbefore, hsince⟩ := h
  have empty : (after before).view.nodes = [] := by
    rcases hbefore with rfl | ⟨earlier, rfl⟩
    · rfl
    · rw [after_append]
      exact World.nodes_unmount
  rw [after_append, World.nodes_replay hsince, empty]

theorem SinceUnmounting.stablySorted {es before since : List Effect} (h : SinceUnmounting es before since) :
    NodeRecord.StablySorted (((after before).accepted since).getLast?.getD []) (after es).view.nodes := by
  rw [h.nodes_eq]
  cases ((after before).accepted since).getLast? with
  | none => exact NodeRecord.stablySorted_nil
  | some nodes => exact NodeRecord.stablySorted_sort nodes

/-- A fetch is of the view's generation as long as nothing has begun a later one since its mounting. -/
theorem generation_eq_iff_current {es : List Effect} {task generation : Nat}
    (h : (after es).works[task]? = some (.fetch generation)) :
    (after es).view.generation = generation ↔ Current es task := by
  have reach : ∀ before mid, Mounting before task → (after (before ++ .mount :: mid)).view.generation =
      (after before).view.generation + 1 + World.renewals (after (before ++ [.mount])) mid := by
    intro before mid hstart
    have hmount : Effect.renews (after before) .mount = true := by simp [Effect.renews, hstart.1]
    rw [List.append_cons, after_append, World.generation_replay, after_append, World.replay_cons, World.replay_nil,
      World.generation_apply, hmount]
    rfl
  constructor
  · intro hgeneration
    obtain ⟨before, mid, rfl, hstart, hg⟩ := mounting_of_fetch h
    have := reach before mid hstart
    exact ⟨before, mid, rfl, hstart, by omega⟩
  · rintro ⟨before, mid, rfl, hstart, hquiet⟩
    have hfetch := hstart.works mid
    rw [h] at hfetch
    obtain rfl : generation = (after before).view.generation + 1 := by simpa using hfetch
    rw [reach before mid hstart, hquiet, Nat.add_zero]

open World in
/-- At every point of a run the view shows the list that was accepted last since the last unmounting, in the order of
    identifiers, and nothing when there is none. A fetch that takes its answer to the view is of the view's generation
    exactly when no mounting or unmounting has taken effect since the mounting that started it. -/
theorem nodes_of_history {source : Source} {actions : List Action} {earlier later : List Effect}
    (h : history source {} actions = earlier ++ later) :
    run source {} actions = (after earlier).replay later ∧
      (∃ before since, SinceUnmounting earlier before since ∧
        (after earlier).view.nodes = (((after before).accepted since).getLast?.map NodeRecord.sort).getD [] ∧
        NodeRecord.StablySorted (((after before).accepted since).getLast?.getD []) (after earlier).view.nodes) ∧
      ∀ task generation answer rest, later = .complete task generation answer :: rest →
        ((after earlier).view.generation = generation ↔ Current earlier task) := by
  obtain ⟨before, since, hsplit⟩ := exists_sinceUnmounting earlier
  refine ⟨?_, ⟨before, since, hsplit, hsplit.nodes_eq, hsplit.stablySorted⟩, ?_⟩
  · rw [← replay_history, h, replay_append]
    rfl
  · rintro task generation answer rest rfl
    exact generation_eq_iff_current (sound_of_history h)

/-- The first fetch mounts the view anew before it answers. -/
def remounting : Source :=
  .ofList [{ outcome := .answered [{ id := .numeric 3 }], during := [.unmount, .mount] },
    { outcome := .answered [{ id := .text "b" }, { id := .text "a" }] }]

open World in
theorem nodes_of_remounting : let es := history remounting {} [.mount, .turn 0, .turn 1]
    es.drop 5 = .complete 0 1 (.ok [{ id := .numeric 3 }]) :: es.drop 6 ∧
      run remounting {} [.mount, .turn 0, .turn 1] = (after (es.take 5)).replay (es.drop 5) ∧
      ((after (es.take 5)).view.generation = 1 ↔ Current (es.take 5) 0) := by
  intro es
  have hsplit : es = es.take 5 ++ es.drop 5 := (List.take_append_drop 5 es).symm
  have hstale : es.drop 5 = .complete 0 1 (.ok [{ id := .numeric 3 }]) :: es.drop 6 := rfl
  obtain ⟨hrun, -, hcurrent⟩ := nodes_of_history hsplit
  exact ⟨hstale, hrun, hcurrent 0 1 _ _ hstale⟩

end View
end ClusterConsole
