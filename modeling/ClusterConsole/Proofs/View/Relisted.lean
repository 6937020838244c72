import ClusterConsole.Proofs.Node.Sorted
import ClusterConsole.Table.Html
import ClusterConsole.View.Run

/-! # The order in which nodes are listed

A view puts each list into the order of the identifiers before it shows it, and nothing else of the list is kept. So a
run is the same when every list in it is sorted beforehand, and two runs are the same whose lists have the same nodes
in different orders, as long as no two nodes of a list share an identifier. -/

namespace ClusterConsole

/-- The same list, or its nodes in another order when no two of them share an identifier. -/
inductive NodeRecord.Relisted (nodes : List NodeRecord) : List NodeRecord → Prop
  | same : Relisted nodes nodes
  | permuted {other : List NodeRecord} (perm : other.Perm nodes) (ids : (nodes.map NodeRecord.id).Nodup) :
      Relisted nodes other

theorem NodeRecord.Relisted.sort_eq {nodes other : List NodeRecord} (h : Relisted nodes other) :
    sort other = sort nodes := by
  cases h with
  | same => rfl
  | permuted perm ids => exact sort_eq_of_perm perm ids

/-- An outcome whose list has been sorted. -/
def Outcome.sorted : Outcome (List NodeRecord) → Outcome (List NodeRecord)
  | .answered nodes => .answered (NodeRecord.sort nodes)
  | outcome => outcome

/-- Outcomes that differ in the order of a list alone. -/
inductive Outcome.Relisted : Outcome (List NodeRecord) → Outcome (List NodeRecord) → Prop
  | answered {nodes other : List NodeRecord} (h : NodeRecord.Relisted nodes other) :
      Relisted (.answered nodes) (.answered other)
  | same (outcome : Outcome (List NodeRecord)) : Relisted outcome outcome

theorem Outcome.Relisted.sorted_eq {outcome other : Outcome (List NodeRecord)} (h : outcome.Relisted other) :
    other.sorted = outcome.sorted := by
  cases h with
  | answered h => exact congrArg Outcome.answered h.sort_eq
  | same => rfl

namespace View

/-- A call whose list has been sorted. -/
def Call.sorted (call : Call) : Call :=
  { call with outcome := call.outcome.sorted }

/-- A source whose lists have been sorted. -/
def Source.sorted (source : Source) : Source :=
  fun number => (source number).sorted

/-- An action whose list has been sorted. -/
def Action.sorted : Action → Action
  | .succeed nodes => .succeed (NodeRecord.sort nodes)
  | action => action

/-- Sources that differ in the order of their lists alone. -/
def Source.Relisted (source other : Source) : Prop :=
  ∀ number, ∃ outcome, (source number).outcome.Relisted outcome ∧ other number = { source number with outcome }

/-- Actions that differ in the order of a list alone. -/
inductive Action.Relisted : Action → Action → Prop
  | succeed {nodes other : List NodeRecord} (h : NodeRecord.Relisted nodes other) :
      Relisted (.succeed nodes) (.succeed other)
  | same (action : Action) : Relisted action action

theorem Source.Relisted.sorted_eq {source other : Source} (h : source.Relisted other) : other.sorted = source.sorted := by
  funext number
  obtain ⟨outcome, hlisted, hother⟩ := h number
  rw [sorted, sorted, hother, Call.sorted, Call.sorted, hlisted.sorted_eq]

theorem Action.Relisted.sorted_eq {action other : Action} (h : action.Relisted other) : other.sorted = action.sorted := by
  cases h with
  | succeed h => exact congrArg Action.succeed h.sort_eq
  | same => rfl

/-- Lists of actions that differ in the order of their lists alone. -/
theorem Action.map_sorted_eq {actions others : List Action} (h : List.Forall₂ Action.Relisted actions others) :
    others.map Action.sorted = actions.map Action.sorted := by
  induction h with
  | nil => rfl
  | cons first _ ih => rw [List.map_cons, List.map_cons, first.sorted_eq, ih]

namespace World
variable (w : World)

/-! ### Sorted beforehand -/

theorem succeed_sort (nodes : List NodeRecord) : w.succeed (NodeRecord.sort nodes) = w.succeed nodes := by
  unfold succeed
  rw [NodeRecord.sort_sort]

theorem take_sort (work : Work) (nodes : List NodeRecord) :
    w.take work (.ok (NodeRecord.sort nodes)) = w.take work (.ok nodes) := by
  cases work with
  | fetch generation =>
    unfold take complete
    dsimp only
    rw [succeed_sort]
  | load => exact w.succeed_sort nodes
  | settle => exact w.succeed_sort nodes

theorem proceed_sorted (task : Nat) (work : Work) (outcome : Outcome (List NodeRecord)) (steps : List Step) :
    w.proceed task work outcome.sorted steps = w.proceed task work outcome steps := by
  induction steps generalizing w with
  | nil =>
    cases outcome with
    | answered nodes => exact congrArg (fun u => finish u task .finished) (take_sort w work nodes)
    | failed error => rfl
    | panicked => rfl
  | cons step rest ih =>
    cases step with
    | wait => rfl
    | mount => exact ih w.mount.2
    | unmount => exact ih w.unmount

theorem poll_sorted (source : Source) (task : Nat) : w.poll source.sorted task = w.poll source task := by
  have hcall : ∀ work, w.call source.sorted task work = w.call source task work := by
    exact fun work => proceed_sorted (w.beginCall task (source w.calls)) task work _ _
  unfold poll
  rcases w.tasks[task]? with - | ⟨work, stage⟩
  · rfl
  · cases stage with
    | spawned => cases work <;> first | rfl | exact hcall _
    | released number rest => exact proceed_sorted (w.resume task) task work (source number).outcome rest
    | _ => rfl

theorem act_sorted (source : Source) (action : Action) : w.act source.sorted action.sorted = w.act source action := by
  cases action with
  | succeed nodes => exact w.succeed_sort nodes
  | turn task =>
    show w.turn source.sorted task = w.turn source task
    unfold turn
    rw [poll_sorted]
  | _ => rfl

/-- A run is the same when all lists in it are sorted beforehand. -/
theorem run_sorted (source : Source) (actions : List Action) :
    w.run source.sorted (actions.map Action.sorted) = w.run source actions := by
  unfold run
  induction actions generalizing w with
  | nil => rfl
  | cons action actions ih => rw [List.map_cons, List.foldl_cons, List.foldl_cons, act_sorted, ih]

end World

open World in
/-- Sorting gives the only list that has the given nodes in the order of their identifiers, and those of one identifier
    as they were given. Nodes that share no identifier are sorted alike in whatever order they are listed, and it is no
    matter to a view in which order that was: whatever it does, and whether it gets the lists from a mounting, from a
    load or directly, the world is the same after each run, and what the view shows is. -/
theorem sort_unique_of_listing (nodes : List NodeRecord) :
    NodeRecord.Arranged nodes (NodeRecord.sort nodes) ∧
      (∀ sorted, NodeRecord.Arranged nodes sorted → sorted = NodeRecord.sort nodes) ∧
      NodeRecord.sort (NodeRecord.sort nodes) = NodeRecord.sort nodes ∧
      (∀ left right : List NodeRecord, left.Perm nodes → right.Perm nodes → (nodes.map NodeRecord.id).Nodup →
        NodeRecord.sort left = NodeRecord.sort right ∧ NodeRecord.Relisted left right) ∧
      ∀ (w : World) (source other : Source) (actions others : List Action), source.Relisted other →
        List.Forall₂ Action.Relisted actions others → run other w others = run source w actions ∧
          ∀ zone, Html.table zone (run other w others).view.nodes =
            Html.table zone (run source w actions).view.nodes := by
  refine ⟨NodeRecord.arranged_sort nodes, fun sorted => NodeRecord.Arranged.eq_sort, NodeRecord.sort_sort nodes, ?_, ?_⟩
  · intro left right hleft hright hids
    have hleftIds : (left.map NodeRecord.id).Nodup := (hleft.map _).nodup_iff.mpr hids
    have hlisted : NodeRecord.Relisted left right := .permuted (hright.trans hleft.symm) hleftIds
    exact ⟨hlisted.sort_eq.symm, hlisted⟩
  · intro w source other actions others hsource hactions
    have hrun : run other w others = run source w actions := by
      rw [← run_sorted, ← run_sorted w source, hsource.sorted_eq, Action.map_sorted_eq hactions]
    exact ⟨hrun, fun zone => by rw [hrun]⟩

open World in
/-- The same two nodes, listed in both orders to a fetch, to a load and to the view itself, which shows the number
    first. -/
theorem sort_unique_of_reversed :
    let nodes : List NodeRecord := [{ id := .text "b" }, { id := .unsigned 9223372036854775808 }]
    let listing := fun nodes => Source.ofList [{ outcome := .answered nodes }, { outcome := .answered nodes }]
    let feeding := fun nodes => [.subscribe, .mount, .turn 0, .load, .turn 1, .unmount, .succeed nodes]
    nodes.reverse.Perm nodes ∧ (nodes.map NodeRecord.id).Nodup ∧
      NodeRecord.sort nodes.reverse = NodeRecord.sort nodes ∧ (listing nodes).Relisted (listing nodes.reverse) ∧
      List.Forall₂ Action.Relisted (feeding nodes) (feeding nodes.reverse) ∧
      run (listing nodes.reverse) {} (feeding nodes.reverse) = run (listing nodes) {} (feeding nodes) ∧
      (run (listing nodes) {} (feeding nodes)).view.nodes = nodes.reverse := by
  intro nodes listing feeding
  obtain ⟨-, -, -, hperms, hruns⟩ := sort_unique_of_listing nodes
  have hperm : nodes.reverse.Perm nodes := nodes.reverse_perm
  have hids : (nodes.map NodeRecord.id).Nodup := by decide +kernel
  obtain ⟨hsort, -⟩ := hperms nodes.reverse nodes hperm (.refl _) hids
  have hlisted : NodeRecord.Relisted nodes nodes.reverse := .permuted hperm hids
  have hsource : (listing nodes).Relisted (listing nodes.reverse) := by
    intro number
    match number with
    | 0 | 1 => exact ⟨_, .answered hlisted, rfl⟩
    | number + 2 => exact ⟨_, .same _, rfl⟩
  have hactions : List.Forall₂ Action.Relisted (feeding nodes) (feeding nodes.reverse) :=
    .cons (.same _) (.cons (.same _) (.cons (.same _) (.cons (.same _) (.cons (.same _) (.cons (.same _)
      (.cons (.succeed hlisted) .nil))))))
  have hfirst : NodeRecord.sort nodes = nodes.reverse :=
    hsort.symm.trans (NodeRecord.sort_of_ordered (by decide +kernel))
  exact ⟨hperm, hids, hsort, hsource, hactions, (hruns {} _ _ _ _ hsource hactions).1, hfirst⟩

end View
end ClusterConsole
