import ClusterConsole.Proofs.View.History

/-! # What an effect leaves alone

Most effects touch one part of the world. The parts that the properties of a view speak of are the view itself,
what its tasks are there for, the calls that they are in, and what subscribers are told. -/

namespace ClusterConsole.View

/-- The call that a task of this stage is in. -/
def Stage.call? : Stage → Option Nat
  | .running number _ | .waiting number _ | .released number _ => some number
  | _ => none

namespace World

/-- What each task is there for. -/
def works (w : World) : List Work :=
  w.tasks.map Task.work

/-- The call that a task is in. -/
def callOf (w : World) (task : Nat) : Option Nat :=
  (w.stage? task).bind Stage.call?

variable {w : World}

/-! ### Stages -/

theorem exists_stage_of_works {task : Nat} {work : Work} (h : w.works[task]? = some work) :
    ∃ stage, w.stage? task = some stage := by
  obtain ⟨t, ht, -⟩ := Option.map_eq_some_iff.mp (List.getElem?_map ▸ h)
  exact ⟨t.stage, congrArg (Option.map Task.stage) ht⟩

theorem exists_work_of_stage? {task : Nat} {stage : Stage} (h : w.stage? task = some stage) :
    ∃ work, w.works[task]? = some work := by
  obtain ⟨t, ht, -⟩ := Option.map_eq_some_iff.mp h
  exact ⟨t.work, List.getElem?_map ▸ congrArg (Option.map Task.work) ht⟩

@[simp] theorem stage?_setStage (task other : Nat) (stage : Stage) :
    (w.setStage task stage).stage? other =
      if task = other then (w.stage? other).map fun _ => stage else w.stage? other := by
  unfold setStage stage?
  rw [List.getElem?_modify]
  split <;> simp [Option.map_map, Function.comp_def]

@[simp] theorem works_setStage (task : Nat) (stage : Stage) : (w.setStage task stage).works = w.works := by
  refine List.ext_getElem? fun i => ?_
  simp only [works, setStage, List.getElem?_map, List.getElem?_modify]
  cases w.tasks[i]? with
  | none => rfl
  | some t => by_cases h : task = i <;> simp [h]

theorem callOf_setStage {task other number : Nat} {stage : Stage}
    (h : (w.setStage task stage).callOf other = some number) :
    w.callOf other = some number ∨ task = other ∧ stage.call? = some number := by
  unfold callOf at h
  rw [stage?_setStage] at h
  split at h
  · rename_i heq
    cases hw : w.stage? other with
    | none => simp [hw] at h
    | some _ => exact Or.inr ⟨heq, by simpa [hw] using h⟩
  · exact Or.inl h

theorem callOf_spawn {work : Work} {task number : Nat} (h : (w.spawn work).callOf task = some number) :
    w.callOf task = some number := by
  simp only [callOf, stage?, spawn, List.getElem?_append] at h ⊢
  split at h
  · exact h
  · cases hk : task - w.tasks.length <;> simp [hk, Stage.call?] at h

/-- A stage that takes a task into no call but the one that it is in. -/
def Confines (w : World) (task : Nat) (stage : Stage) : Prop :=
  ∀ number, stage.call? = some number → w.callOf task = some number

theorem confines_of_none {task : Nat} {stage : Stage} (h : stage.call? = none) : w.Confines task stage := by
  intro number hnumber
  cases h.symm.trans hnumber

theorem confines_of_eq {task : Nat} {stage stage' : Stage} (hw : w.stage? task = some stage)
    (h : stage.call? = stage'.call?) : w.Confines task stage' := by
  intro number hnumber
  rw [callOf, hw]
  exact h.trans hnumber

theorem Confines.callOf {task other number : Nat} {stage : Stage} (h : w.Confines task stage)
    (hother : (w.setStage task stage).callOf other = some number) : w.callOf other = some number := by
  rcases callOf_setStage hother with kept | ⟨rfl, hcall⟩
  · exact kept
  · exact h number hcall

/-- To leave a task alone is to bring it to a stage that it is at. -/
theorem exists_setStage_eq_self (w : World) (task : Nat) :
    ∃ stage, w = w.setStage task stage ∧ w.Confines task stage := by
  have same : ∀ stage, (∀ t, w.tasks[task]? = some t → t.stage = stage) → w = w.setStage task stage := by
    intro stage hstage
    have htasks : w.tasks.modify task (fun t => { t with stage }) = w.tasks := by
      refine List.ext_getElem? fun i => ?_
      rw [List.getElem?_modify]
      split
      · rename_i heq
        subst heq
        cases ht : w.tasks[task]? with
        | none => rfl
        | some t => rw [← hstage t ht]; rfl
      · exact id_map _
    rw [setStage, htasks]
  cases ht : w.tasks[task]? with
  | none => exact ⟨.spawned, same _ (by simp [ht]), nofun⟩
  | some t => exact ⟨t.stage, same _ (by simp [ht]), confines_of_eq (by rw [stage?, ht]; rfl) rfl⟩

/-! ### Shapes

Which fields the changes have that are not plain updates. Each of them brings one task to a stage. -/

theorem mount_of_mounted (h : w.view.mounted = true) : w.mount = (false, w.report [.alreadyMounted]) := by
  rw [mount, if_pos h]

theorem mount_of_not_mounted (h : w.view.mounted = false) : w.mount = (true, { w with view := { w.view with
    mounted := true, generation := w.view.generation + 1, handle := some w.tasks.length } }.spawn
      (.fetch (w.view.generation + 1))) := by
  rw [mount, if_neg (by simp [h])]

theorem exists_abort_eq (w : World) (task : Nat) : ∃ stage ready,
    w.abort task = { w.setStage task stage with ready } ∧ w.ready <+: ready ∧ w.Confines task stage := by
  have left : ∃ stage ready, w = { w.setStage task stage with ready } ∧ w.ready <+: ready ∧ w.Confines task stage := by
    obtain ⟨stage, h, hconfines⟩ := exists_setStage_eq_self w task
    exact ⟨stage, w.ready, h, List.prefix_rfl, hconfines⟩
  unfold abort
  split
  · exact ⟨.aborted, w.ready, rfl, List.prefix_rfl, nofun⟩
  · exact ⟨.aborted, w.ready, rfl, List.prefix_rfl, nofun⟩
  · exact ⟨.aborted, _, rfl, List.prefix_append _ _, nofun⟩
  · exact ⟨.aborted, _, rfl, List.prefix_append _ _, nofun⟩
  · rename_i call _ hrunning
    exact ⟨.running call true, w.ready, rfl, List.prefix_rfl, confines_of_eq hrunning rfl⟩
  all_goals exact left

/-- Aborting a fetch leaves of the view all but the handle. -/
theorem exists_abortFetch_eq (w : World) : ∃ task stage ready,
    w.abortFetch = { w.setStage task stage with view := { w.view with handle := none }, ready } ∧
      w.ready <+: ready ∧ w.Confines task stage := by
  unfold abortFetch
  split
  · rename_i hnone
    obtain ⟨stage, h, hconfines⟩ := exists_setStage_eq_self w 0
    refine ⟨0, stage, w.ready, ?_, List.prefix_rfl, hconfines⟩
    rw [← hnone]
    exact h
  · rename_i task _
    exact ⟨task, exists_abort_eq { w with view := { w.view with handle := none } } task⟩

theorem exists_openGate_eq (w : World) : ∃ task stage ready gates,
    w.openGate = { w.setStage task stage with ready, gates } ∧ w.ready <+: ready ∧ w.Confines task stage := by
  have left : ∀ gates, ∃ task stage ready gates', ({ w with gates } : World) =
      { w.setStage task stage with ready, gates := gates' } ∧ w.ready <+: ready ∧ w.Confines task stage := by
    intro gates
    obtain ⟨stage, h, hconfines⟩ := exists_setStage_eq_self { w with gates } 0
    exact ⟨0, stage, w.ready, gates, h, List.prefix_rfl, hconfines⟩
  unfold openGate
  split
  · exact left w.gates
  · rename_i first gates _
    split
    · rename_i call rest hwaiting
      exact ⟨first, .released call rest, _, gates, rfl, List.prefix_append _ _,
        confines_of_eq (w := { w with gates }) hwaiting rfl⟩
    · exact left gates

theorem exists_join_eq (w : World) (task target : Nat) : ∃ stage ready log,
    w.join task target = { w.setStage task stage with ready, log } ∧ w.ready <+: ready ∧
      (stage = .ended .finished ∨ stage = .joining target) := by
  unfold join
  split
  · exact ⟨.ended .finished, _, _, rfl, List.prefix_append _ _, Or.inl rfl⟩
  · exact ⟨.ended .finished, _, w.log, rfl, List.prefix_append _ _, Or.inl rfl⟩
  · exact ⟨.ended .finished, _, w.log, rfl, List.prefix_append _ _, Or.inl rfl⟩
  · exact ⟨.joining target, w.ready, w.log, rfl, List.prefix_rfl, Or.inr rfl⟩

/-- Settling leaves of the view all but the handle. -/
theorem exists_settle_eq (w : World) (task : Nat) : ∃ stage ready log,
    w.settle task = { w.setStage task stage with view := { w.view with handle := none }, ready, log } ∧
      w.ready <+: ready ∧ (stage = .ended .finished ∨ ∃ target, stage = .joining target) := by
  unfold settle
  split
  · rename_i hnone
    refine ⟨.ended .finished, (w.finish task .finished).ready, w.log, ?_, List.prefix_append _ _, Or.inl rfl⟩
    rw [← hnone]
    rfl
  · rename_i target _
    obtain ⟨stage, ready, log, h, hready, hstage⟩ :=
      exists_join_eq { w with view := { w.view with handle := none } } task target
    exact ⟨stage, ready, log, h, hready, hstage.imp_right fun hjoining => ⟨target, hjoining⟩⟩

theorem exists_await_eq (w : World) (task : Nat) (rest : List Step) : ∃ stage,
    w.await task rest = { w.setStage task stage with gates := w.gates ++ [task] } ∧ w.Confines task stage := by
  unfold await
  dsimp only
  split
  · rename_i call hrunning
    exact ⟨.waiting call rest, rfl, confines_of_eq (w := { w with gates := w.gates ++ [task] }) hrunning rfl⟩
  · exact exists_setStage_eq_self { w with gates := w.gates ++ [task] } task

theorem exists_resume_eq (w : World) (task : Nat) : ∃ stage,
    w.resume task = w.setStage task stage ∧ w.Confines task stage := by
  unfold resume
  split
  · rename_i call _ hreleased
    exact ⟨.running call false, rfl, confines_of_eq hreleased rfl⟩
  · exact exists_setStage_eq_self w task

/-- An outcome that is taken to the view changes what it shows, what is sent and what is reported. -/
theorem exists_complete_eq (w : World) (generation : Nat) (answer : Except FetchError (List NodeRecord)) :
    ∃ nodes sent log, w.complete generation answer =
      { w with view := { w.view with nodes }, broadcast := { w.broadcast with sent }, log } := by
  unfold complete
  split
  · exact ⟨w.view.nodes, w.broadcast.sent, _, rfl⟩
  · cases answer with
    | ok nodes => exact ⟨_, _, _, rfl⟩
    | error error => exact ⟨w.view.nodes, _, _, rfl⟩

/-! ### Calls

No effect but a call of the source brings a task into a call, and the task stays in that call at all its gates. -/

section
variable {task other number : Nat}

theorem callOf_finish {how : End} (h : (w.finish task how).callOf other = some number) :
    w.callOf other = some number :=
  (confines_of_none rfl).callOf h

theorem callOf_unmount (h : w.unmount.callOf other = some number) : w.callOf other = some number := by
  obtain ⟨task, stage, ready, heq, -, hconfines⟩ := exists_abortFetch_eq w
  rw [unmount, heq] at h
  exact hconfines.callOf h

theorem callOf_openGate (h : w.openGate.callOf other = some number) : w.callOf other = some number := by
  obtain ⟨task, stage, ready, gates, heq, -, hconfines⟩ := exists_openGate_eq w
  rw [heq] at h
  exact hconfines.callOf h

theorem callOf_join {target : Nat} (h : (w.join task target).callOf other = some number) :
    w.callOf other = some number := by
  obtain ⟨stage, ready, log, heq, -, rfl | rfl⟩ := exists_join_eq w task target
  all_goals
    rw [heq] at h
    exact (confines_of_none rfl).callOf h

theorem callOf_settle (h : (w.settle task).callOf other = some number) : w.callOf other = some number := by
  obtain ⟨stage, ready, log, heq, -, rfl | ⟨target, rfl⟩⟩ := exists_settle_eq w task
  all_goals
    rw [heq] at h
    exact (confines_of_none rfl).callOf h

theorem callOf_await {rest : List Step} (h : (w.await task rest).callOf other = some number) :
    w.callOf other = some number := by
  obtain ⟨stage, heq, hconfines⟩ := exists_await_eq w task rest
  rw [heq] at h
  exact hconfines.callOf h

theorem callOf_resume (h : (w.resume task).callOf other = some number) : w.callOf other = some number := by
  obtain ⟨stage, heq, hconfines⟩ := exists_resume_eq w task
  rw [heq] at h
  exact hconfines.callOf h

theorem callOf_beginCall {call : Call} (h : (w.beginCall task call).callOf other = some number) :
    w.callOf other = some number ∨ (task = other ∧ number = w.calls) := by
  rcases callOf_setStage h with kept | ⟨heq, hcall⟩
  · exact Or.inl kept
  · exact Or.inr ⟨heq, (Option.some.inj hcall).symm⟩

end

/-! ### The view -/

@[simp] theorem view_openGate : w.openGate.view = w.view := by
  obtain ⟨task, stage, ready, gates, h, -, -⟩ := exists_openGate_eq w
  rw [h]
  rfl

@[simp] theorem view_join (task target : Nat) : (w.join task target).view = w.view := by
  obtain ⟨stage, ready, log, h, -, -⟩ := exists_join_eq w task target
  rw [h]
  rfl

@[simp] theorem view_beginCall (task : Nat) (call : Call) : (w.beginCall task call).view = w.view := rfl

@[simp] theorem view_await (task : Nat) (rest : List Step) : (w.await task rest).view = w.view := by
  obtain ⟨stage, h, -⟩ := exists_await_eq w task rest
  rw [h]
  rfl

@[simp] theorem view_resume (task : Nat) : (w.resume task).view = w.view := by
  obtain ⟨stage, h, -⟩ := exists_resume_eq w task
  rw [h]
  rfl

theorem view_settle (task : Nat) : ∃ handle, (w.settle task).view = { w.view with handle } := by
  obtain ⟨stage, ready, log, h, -, -⟩ := exists_settle_eq w task
  exact ⟨none, by rw [h]⟩

theorem view_abortFetch : ∃ handle, w.abortFetch.view = { w.view with handle } := by
  obtain ⟨task, stage, ready, h, -, -⟩ := exists_abortFetch_eq w
  exact ⟨none, by rw [h]⟩

/-! ### The count of calls -/

@[simp] theorem calls_unmount : w.unmount.calls = w.calls := by
  obtain ⟨task, stage, ready, h, -, -⟩ := exists_abortFetch_eq w
  rw [unmount, h]
  rfl

@[simp] theorem calls_openGate : w.openGate.calls = w.calls := by
  obtain ⟨task, stage, ready, gates, h, -, -⟩ := exists_openGate_eq w
  rw [h]
  rfl

@[simp] theorem calls_join (task target : Nat) : (w.join task target).calls = w.calls := by
  obtain ⟨stage, ready, log, h, -, -⟩ := exists_join_eq w task target
  rw [h]
  rfl

@[simp] theorem calls_settle (task : Nat) : (w.settle task).calls = w.calls := by
  obtain ⟨stage, ready, log, h, -, -⟩ := exists_settle_eq w task
  rw [h]
  rfl

@[simp] theorem calls_complete (generation : Nat) (answer : Except FetchError (List NodeRecord)) :
    (w.complete generation answer).calls = w.calls := by
  obtain ⟨nodes, sent, log, h⟩ := exists_complete_eq w generation answer
  rw [h]

@[simp] theorem calls_beginCall (task : Nat) (call : Call) : (w.beginCall task call).calls = w.calls + 1 := rfl

@[simp] theorem calls_await (task : Nat) (rest : List Step) : (w.await task rest).calls = w.calls := by
  obtain ⟨stage, h, -⟩ := exists_await_eq w task rest
  rw [h]
  rfl

@[simp] theorem calls_resume (task : Nat) : (w.resume task).calls = w.calls := by
  obtain ⟨stage, h, -⟩ := exists_resume_eq w task
  rw [h]
  rfl

/-! ### The broadcast -/

@[simp] theorem broadcast_unmount : w.unmount.broadcast = w.broadcast := by
  obtain ⟨task, stage, ready, h, -, -⟩ := exists_abortFetch_eq w
  rw [unmount, h]
  rfl

@[simp] theorem broadcast_mount : w.mount.2.broadcast = w.broadcast := by
  unfold mount
  split <;> rfl

@[simp] theorem broadcast_openGate : w.openGate.broadcast = w.broadcast := by
  obtain ⟨task, stage, ready, gates, h, -, -⟩ := exists_openGate_eq w
  rw [h]
  rfl

@[simp] theorem broadcast_join (task target : Nat) : (w.join task target).broadcast = w.broadcast := by
  obtain ⟨stage, ready, log, h, -, -⟩ := exists_join_eq w task target
  rw [h]
  rfl

@[simp] theorem broadcast_settle (task : Nat) : (w.settle task).broadcast = w.broadcast := by
  obtain ⟨stage, ready, log, h, -, -⟩ := exists_settle_eq w task
  rw [h]
  rfl

@[simp] theorem broadcast_beginCall (task : Nat) (call : Call) : (w.beginCall task call).broadcast = w.broadcast :=
  rfl

@[simp] theorem broadcast_await (task : Nat) (rest : List Step) : (w.await task rest).broadcast = w.broadcast := by
  obtain ⟨stage, h, -⟩ := exists_await_eq w task rest
  rw [h]
  rfl

@[simp] theorem broadcast_resume (task : Nat) : (w.resume task).broadcast = w.broadcast := by
  obtain ⟨stage, h, -⟩ := exists_resume_eq w task
  rw [h]
  rfl

/-! ### What tasks are there for -/

@[simp] theorem works_finish (task : Nat) (how : End) : (w.finish task how).works = w.works :=
  works_setStage task _

@[simp] theorem works_unmount : w.unmount.works = w.works := by
  obtain ⟨task, stage, ready, h, -, -⟩ := exists_abortFetch_eq w
  rw [unmount, h]
  exact works_setStage task stage

@[simp] theorem works_openGate : w.openGate.works = w.works := by
  obtain ⟨task, stage, ready, gates, h, -, -⟩ := exists_openGate_eq w
  rw [h]
  exact works_setStage task stage

@[simp] theorem works_join (task target : Nat) : (w.join task target).works = w.works := by
  obtain ⟨stage, ready, log, h, -, -⟩ := exists_join_eq w task target
  rw [h]
  exact works_setStage task stage

@[simp] theorem works_settle (task : Nat) : (w.settle task).works = w.works := by
  obtain ⟨stage, ready, log, h, -, -⟩ := exists_settle_eq w task
  rw [h]
  exact works_setStage task stage

@[simp] theorem works_beginCall (task : Nat) (call : Call) : (w.beginCall task call).works = w.works :=
  works_setStage task _

@[simp] theorem works_await (task : Nat) (rest : List Step) : (w.await task rest).works = w.works := by
  obtain ⟨stage, h, -⟩ := exists_await_eq w task rest
  rw [h]
  exact works_setStage task stage

@[simp] theorem works_resume (task : Nat) : (w.resume task).works = w.works := by
  obtain ⟨stage, h, -⟩ := exists_resume_eq w task
  rw [h]
  exact works_setStage task stage

@[simp] theorem works_complete (generation : Nat) (answer : Except FetchError (List NodeRecord)) :
    (w.complete generation answer).works = w.works := by
  obtain ⟨nodes, sent, log, h⟩ := exists_complete_eq w generation answer
  rw [h]
  rfl

@[simp] theorem works_spawn (work : Work) : (w.spawn work).works = w.works ++ [work] := by
  simp [works, spawn]

end World
end ClusterConsole.View
