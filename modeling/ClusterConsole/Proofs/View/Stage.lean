import ClusterConsole.Proofs.View.Generation

/-! # Stages of tasks

A task is at work in some effects of a run, and each of these comes only when the task is at the stage for it. All
other effects leave the task at its stage, but for a gate that opens and an unmounting that aborts the fetch. A fetch
that is aborted while its call runs goes on until it would wait. -/

namespace ClusterConsole.View

/-- The task that is at work in an effect. -/
def Effect.actor? : Effect → Option Nat
  | .call task _ | .wait task _ | .resume task | .complete task _ _ | .loaded task _ => some task
  | .takeHandle task | .join task _ | .finish task _ => some task
  | _ => none

/-- At this stage a task is in a call, and not at a gate of it. -/
def Stage.Runs (stage : Stage) : Prop :=
  ∃ call aborted, stage = .running call aborted

/-- At this stage a task has been aborted, and has not come to its end. -/
def Stage.IsAborted (stage : Stage) : Prop :=
  stage = .aborted ∨ ∃ call, stage = .running call true

/-- What may become of the stage of a task in an effect in which the task is not at work. -/
inductive Stage.Moved : Stage → Stage → Prop
  | kept (stage : Stage) : Moved stage stage
  | aborted {stage : Stage} (runs : ¬stage.Runs) (ended : ∀ how, stage ≠ .ended how) : Moved stage .aborted
  | doomed (call : Nat) : Moved (.running call false) (.running call true)
  | released (call : Nat) (rest : List Step) : Moved (.waiting call rest) (.released call rest)

namespace World
variable {w : World} {task : Nat} {stage : Stage} {source : Source}

/-! ### Single effects -/

theorem stage?_spawn (work : Work) (h : w.stage? task = some stage) : (w.spawn work).stage? task = some stage := by
  obtain ⟨t, ht, hstage⟩ := Option.map_eq_some_iff.mp h
  unfold stage? spawn
  rw [List.getElem?_append_left (List.getElem?_eq_some_iff.mp ht).1, ht]
  exact congrArg some hstage

theorem stage?_setStage_self (stage' : Stage) (h : w.stage? task = some stage) :
    (w.setStage task stage').stage? task = some stage' := by
  rw [stage?_setStage, if_pos rfl, h]
  rfl

theorem stage?_setStage_of_ne {other : Nat} (stage' : Stage) (hne : other ≠ task) :
    (w.setStage other stage').stage? task = w.stage? task := by
  rw [stage?_setStage, if_neg hne]

theorem stage?_join_of_ne {other : Nat} (target : Nat) (hne : other ≠ task) :
    (w.join other target).stage? task = w.stage? task := by
  obtain ⟨stage, ready, log, h, -, -⟩ := exists_join_eq w other target
  rw [h]
  exact stage?_setStage_of_ne (w := w) stage hne

theorem stage?_settle_of_ne {other : Nat} (hne : other ≠ task) : (w.settle other).stage? task = w.stage? task := by
  obtain ⟨stage, ready, log, h, -, -⟩ := exists_settle_eq w other
  rw [h]
  exact stage?_setStage_of_ne (w := w) stage hne

theorem stage?_beginCall_of_ne {other : Nat} (call : Call) (hne : other ≠ task) :
    (w.beginCall other call).stage? task = w.stage? task :=
  stage?_setStage_of_ne (w := { w with calls := w.calls + 1, log := w.log ++ call.log }) _ hne

theorem stage?_await_of_ne {other : Nat} (rest : List Step) (hne : other ≠ task) :
    (w.await other rest).stage? task = w.stage? task := by
  obtain ⟨stage, h, -⟩ := exists_await_eq w other rest
  rw [h]
  exact stage?_setStage_of_ne (w := w) stage hne

theorem stage?_resume_of_ne {other : Nat} (hne : other ≠ task) : (w.resume other).stage? task = w.stage? task := by
  obtain ⟨stage, h, -⟩ := exists_resume_eq w other
  rw [h]
  exact stage?_setStage_of_ne stage hne

theorem stage?_complete (generation : Nat) (answer : Except FetchError (List NodeRecord)) :
    (w.complete generation answer).stage? task = w.stage? task := by
  obtain ⟨nodes, sent, log, h⟩ := exists_complete_eq w generation answer
  rw [h]
  rfl

theorem stage?_abort_of_ne {other : Nat} (hne : other ≠ task) : (w.abort other).stage? task = w.stage? task := by
  obtain ⟨stage, ready, h, -, -⟩ := exists_abort_eq w other
  rw [h]
  exact stage?_setStage_of_ne (w := w) stage hne

theorem stage?_abort (target : Nat) (h : w.stage? task = some stage) :
    ∃ stage', (w.abort target).stage? task = some stage' ∧ stage.Moved stage' := by
  by_cases hne : target ≠ task
  · exact ⟨stage, (stage?_abort_of_ne hne).trans h, .kept stage⟩
  obtain rfl := not_not.mp hne
  have aborted := stage?_setStage_self .aborted h
  unfold abort
  rw [h]
  cases stage with
  | spawned => exact ⟨.aborted, aborted, .aborted nofun nofun⟩
  | released call rest => exact ⟨.aborted, aborted, .aborted nofun nofun⟩
  | waiting call rest => exact ⟨.aborted, aborted, .aborted nofun nofun⟩
  | joining other => exact ⟨.aborted, aborted, .aborted nofun nofun⟩
  | running call aborted =>
    refine ⟨.running call true, stage?_setStage_self _ h, ?_⟩
    cases aborted with
    | false => exact .doomed call
    | true => exact .kept _
  | aborted => exact ⟨_, h, .kept _⟩
  | ended how => exact ⟨_, h, .kept _⟩

theorem stage?_unmount (h : w.stage? task = some stage) :
    ∃ stage', w.unmount.stage? task = some stage' ∧ stage.Moved stage' ∧
      (stage' = stage ∨ w.view.handle = some task) := by
  show ∃ stage', w.abortFetch.stage? task = some stage' ∧ _
  unfold abortFetch
  split
  · exact ⟨stage, h, .kept stage, Or.inl rfl⟩
  · rename_i target htarget
    by_cases heq : target = task
    · obtain ⟨stage', hstage', hmoved⟩ := stage?_abort (w := { w with view := { w.view with handle := none } }) target h
      exact ⟨stage', hstage', hmoved, Or.inr (heq ▸ htarget)⟩
    · exact ⟨stage, (stage?_abort_of_ne (w := { w with view := { w.view with handle := none } }) heq).trans h,
        .kept stage, Or.inl rfl⟩

theorem stage?_openGate (h : w.stage? task = some stage) :
    ∃ stage', w.openGate.stage? task = some stage' ∧ stage.Moved stage' ∧ (stage'.IsAborted → stage.IsAborted) := by
  unfold openGate
  split
  · exact ⟨stage, h, .kept stage, id⟩
  · rename_i first gates _
    split
    · rename_i call rest hwaiting
      show ∃ stage', ({ w with gates }.setStage first (.released call rest)).stage? task = _ ∧ _
      by_cases heq : first = task
      · subst heq
        obtain rfl : .waiting call rest = stage := Option.some.inj (hwaiting.symm.trans h)
        exact ⟨_, stage?_setStage_self (w := { w with gates }) _ h, .released call rest, nofun⟩
      · exact ⟨stage, (stage?_setStage_of_ne (w := { w with gates }) _ heq).trans h, .kept stage, id⟩
    · exact ⟨stage, h, .kept stage, id⟩

/-- What an effect does to a task that is not at work in it. Only an unmounting aborts one, and it is that of the
    handle. -/
theorem stage?_apply {e : Effect} (h : w.stage? task = some stage) (he : e.actor? ≠ some task) :
    ∃ stage', (w.apply e).stage? task = some stage' ∧ stage.Moved stage' ∧
      (stage'.IsAborted → stage.IsAborted ∨ e = .unmount ∧ w.view.handle = some task) := by
  have kept : ∀ u : World, u.stage? task = w.stage? task → ∃ stage', u.stage? task = some stage' ∧
      stage.Moved stage' ∧ (stage'.IsAborted → stage.IsAborted ∨ e = .unmount ∧ w.view.handle = some task) :=
    fun u hu => ⟨stage, hu.trans h, .kept stage, Or.inl⟩
  have hne : ∀ other, some other ≠ some task → other ≠ task := fun other hne heq => hne (congrArg some heq)
  cases e with
  | mount =>
    cases hm : w.view.mounted with
    | true => exact kept _ (by rw [apply, mount_of_mounted hm]; rfl)
    | false =>
      refine kept _ ?_
      rw [apply, mount_of_not_mounted hm]
      exact (stage?_spawn (w := { w with view := _ }) _ h).trans h.symm
  | unmount =>
    obtain ⟨stage', hstage', hmoved, hcause⟩ := stage?_unmount h
    refine ⟨stage', hstage', hmoved, fun haborted => ?_⟩
    rcases hcause with rfl | hhandle
    · exact Or.inl haborted
    · exact Or.inr ⟨rfl, hhandle⟩
  | settle => exact kept _ ((stage?_spawn _ h).trans h.symm)
  | load => exact kept _ ((stage?_spawn _ h).trans h.symm)
  | openGate =>
    obtain ⟨stage', hstage', hmoved, hcause⟩ := stage?_openGate h
    exact ⟨stage', hstage', hmoved, fun haborted => Or.inl (hcause haborted)⟩
  | call other call => exact kept _ (stage?_beginCall_of_ne call (hne other he))
  | wait other rest => exact kept _ (stage?_await_of_ne rest (hne other he))
  | resume other => exact kept _ (stage?_resume_of_ne (hne other he))
  | complete other generation answer => exact kept _ (stage?_complete generation answer)
  | loaded other answer => cases answer <;> exact kept _ rfl
  | takeHandle other => exact kept _ (stage?_settle_of_ne (hne other he))
  | join other target => exact kept _ (stage?_join_of_ne target (hne other he))
  | finish other how => exact kept _ (stage?_setStage_of_ne (w := w) _ (hne other he))
  | _ => exact kept _ rfl

/-- In its call a task is left alone by all others, until it is aborted. -/
theorem runs_apply {e : Effect} (hruns : stage.Runs) (h : w.stage? task = some stage) (he : e.actor? ≠ some task) :
    ∃ stage', (w.apply e).stage? task = some stage' ∧ stage'.Runs := by
  obtain ⟨stage', hstage', hmoved, -⟩ := stage?_apply h he
  refine ⟨stage', hstage', ?_⟩
  cases hmoved with
  | kept => exact hruns
  | aborted runs _ => exact absurd hruns runs
  | doomed call => exact ⟨call, true, rfl⟩
  | released => exact nomatch hruns

theorem ended_apply {how : End} {e : Effect} (h : w.stage? task = some (.ended how)) (he : e.actor? ≠ some task) :
    (w.apply e).stage? task = some (.ended how) := by
  obtain ⟨stage', hstage', hmoved, -⟩ := stage?_apply h he
  cases hmoved with
  | kept => exact hstage'
  | aborted _ ended => exact absurd rfl (ended how)

end World

/-! ### At work -/

/-- A task is in a call, and not at a gate of it. -/
def World.Runs (w : World) (task : Nat) : Prop :=
  ∃ stage, w.stage? task = some stage ∧ stage.Runs

/-- A task that is at work in an effect of a run is at the stage for it: it calls the source in its first turn and
    resumes behind an open gate, and it finishes while it runs, unless it was aborted. A task that waits for the end
    of a fetch has nothing else to do. -/
def Effect.Timely (w : World) : Effect → Prop
  | .pick task => task ∈ w.ready
  | .call task _ => w.stage? task = some .spawned ∧ w.works[task]? ≠ some .settle
  | .wait task _ => w.Runs task
  | .resume task => ∃ number rest, w.stage? task = some (.released number rest)
  | .complete task generation _ => w.Runs task ∧ w.works[task]? = some (.fetch generation)
  | .loaded task _ => w.Runs task ∧ ∀ generation, w.works[task]? ≠ some (.fetch generation)
  | .takeHandle task => w.stage? task = some .spawned ∧ w.works[task]? = some .settle
  | .join task target => w.stage? task = some (.joining target)
  | .finish task .cancelled => ∃ stage, w.stage? task = some stage ∧ stage.IsAborted
  | .finish task _ => w.Runs task
  | _ => True

/-- At what stage an effect finds the task that is at work in it. -/
def Effect.Finds : Effect → Stage → Prop
  | .call _ _, stage | .takeHandle _, stage => stage = .spawned
  | .resume _, stage => ∃ number rest, stage = .released number rest
  | .wait _ _, stage | .complete _ _ _, stage | .loaded _ _, stage => stage.Runs
  | .join _ target, stage => stage = .joining target
  | .finish _ .cancelled, stage => stage.IsAborted
  | .finish _ _, stage => stage.Runs
  | _, _ => False

/-- At what stage an effect leaves the task that is at work in it. -/
def Effect.Leaves : Effect → Stage → Prop
  | .call _ _, stage | .resume _, stage => ∃ number, stage = .running number false
  | .wait _ rest, stage => ∃ number, stage = .waiting number rest ∨ stage = .running number true
  | .complete _ _ _, stage | .loaded _ _, stage => stage.Runs
  | .takeHandle _, stage => stage = .ended .finished ∨ ∃ target, stage = .joining target
  | .join _ target, stage => stage = .ended .finished ∨ stage = .joining target
  | .finish _ how, stage => stage = .ended how
  | _, _ => False

/-- No task comes back to where it was before its first turn. -/
theorem Effect.Leaves.ne_spawned {e : Effect} {stage : Stage} (h : e.Leaves stage) : stage ≠ .spawned := by
  rintro rfl
  cases e <;> simp [Leaves, Stage.Runs] at h

namespace Effect.Timely
variable {w : World} {e : Effect} {task : Nat} {stage : Stage}

theorem finds (h : e.Timely w) (he : e.actor? = some task) (hstage : w.stage? task = some stage) : e.Finds stage := by
  have only : ∀ {stage' : Stage}, w.stage? task = some stage' → stage = stage' :=
    fun hstage' => Option.some.inj (hstage.symm.trans hstage')
  have found : ∀ {P : Stage → Prop}, (∃ stage', w.stage? task = some stage' ∧ P stage') → P stage := by
    rintro P ⟨stage', hstage', hP⟩
    exact only hstage' ▸ hP
  cases e with
  | call _ _ => cases he; exact only h.1
  | wait _ _ => cases he; exact found h
  | resume _ =>
    cases he
    obtain ⟨number, rest, hreleased⟩ := h
    exact ⟨number, rest, only hreleased⟩
  | complete _ _ _ => cases he; exact found h.1
  | loaded _ _ => cases he; exact found h.1
  | takeHandle _ => cases he; exact only h.1
  | join _ _ => cases he; exact only h
  | finish _ how => cases he; cases how <;> exact found h
  | _ => cases he

/-- The first turn of a task is to call the source or to take the handle of the fetch. -/
theorem of_spawned (h : e.Timely w) (he : e.actor? = some task) (hstage : w.stage? task = some .spawned) :
    (∃ call, e = .call task call) ∨ e = .takeHandle task := by
  have hfinds := h.finds he hstage
  cases e with
  | call _ call => cases he; exact Or.inl ⟨call, rfl⟩
  | takeHandle _ => cases he; exact Or.inr rfl
  | finish _ how => cases how <;> simp [Finds, Stage.Runs, Stage.IsAborted] at hfinds
  | _ => simp [Finds, Stage.Runs] at hfinds

theorem of_joining {target : Nat} (h : e.Timely w) (he : e.actor? = some task)
    (hstage : w.stage? task = some (.joining target)) : e = .join task target := by
  have hfinds := h.finds he hstage
  cases e with
  | join _ _ => cases he; cases hfinds; rfl
  | finish _ how => cases how <;> simp [Finds, Stage.Runs, Stage.IsAborted] at hfinds
  | _ => simp [Finds, Stage.Runs] at hfinds

theorem of_aborted (h : e.Timely w) (he : e.actor? = some task) (hstage : w.stage? task = some .aborted) :
    e = .finish task .cancelled := by
  have hfinds := h.finds he hstage
  cases e with
  | finish _ how =>
    cases he
    cases how with
    | cancelled => rfl
    | _ => simp [Finds, Stage.Runs] at hfinds
  | _ => simp [Finds, Stage.Runs] at hfinds

/-- A task that has ended is not at work. -/
theorem ne_ended {how : End} (h : e.Timely w) (he : e.actor? = some task) : w.stage? task ≠ some (.ended how) := by
  intro hstage
  have hfinds := h.finds he hstage
  cases e with
  | finish _ how => cases how <;> simp [Finds, Stage.Runs, Stage.IsAborted] at hfinds
  | _ => simp [Finds, Stage.Runs] at hfinds

end Effect.Timely

namespace World
variable {w : World} {task : Nat} {source : Source}

theorem stage?_join_self {stage : Stage} (target : Nat) (h : w.stage? task = some stage) :
    (w.join task target).stage? task = some (.ended .finished) ∨
      (w.join task target).stage? task = some (.joining target) := by
  obtain ⟨stage', ready, log, hjoin, -, rfl | rfl⟩ := exists_join_eq w task target
  · rw [hjoin]
    exact Or.inl (stage?_setStage_self (w := w) _ h)
  · rw [hjoin]
    exact Or.inr (stage?_setStage_self (w := w) _ h)

theorem stage?_beginCall_self {stage : Stage} (call : Call) (h : w.stage? task = some stage) :
    (w.beginCall task call).stage? task = some (.running w.calls false) :=
  stage?_setStage_self (w := { w with calls := _, log := _ }) _ h

/-- Who comes to a gate waits there, unless it has been aborted. -/
theorem stage?_await_self {number : Nat} {aborted : Bool} (rest : List Step)
    (h : w.stage? task = some (.running number aborted)) :
    (w.await task rest).stage? task = some (if aborted then .running number true else .waiting number rest) := by
  have hgate : ({ w with gates := w.gates ++ [task] } : World).stage? task = some (.running number aborted) := h
  unfold await
  dsimp only
  rw [hgate]
  cases aborted with
  | false => exact stage?_setStage_self _ hgate
  | true => exact hgate

theorem stage?_resume_self {number : Nat} {rest : List Step} (h : w.stage? task = some (.released number rest)) :
    (w.resume task).stage? task = some (.running number false) := by
  unfold resume
  rw [h]
  exact stage?_setStage_self _ h

/-- What an effect does to the task that is at work in it. -/
theorem stage?_apply_self {e : Effect} (h : e.Timely w) (he : e.actor? = some task) :
    ∃ stage, (w.apply e).stage? task = some stage ∧ e.Leaves stage := by
  cases e with
  | call _ call =>
    cases he
    exact ⟨_, stage?_beginCall_self call h.1, _, rfl⟩
  | wait _ rest =>
    cases he
    obtain ⟨_, hstage, number, aborted, rfl⟩ := h
    refine ⟨_, stage?_await_self rest hstage, number, ?_⟩
    cases aborted with
    | false => exact Or.inl rfl
    | true => exact Or.inr rfl
  | resume _ =>
    cases he
    obtain ⟨number, rest, hreleased⟩ := h
    exact ⟨_, stage?_resume_self hreleased, number, rfl⟩
  | complete _ generation answer =>
    cases he
    obtain ⟨⟨stage, hstage, hruns⟩, -⟩ := h
    exact ⟨stage, (stage?_complete generation answer).trans hstage, hruns⟩
  | loaded _ answer =>
    cases he
    obtain ⟨⟨stage, hstage, hruns⟩, -⟩ := h
    cases answer <;> exact ⟨stage, hstage, hruns⟩
  | takeHandle _ =>
    cases he
    obtain ⟨stage, ready, log, hsettle, -, hstage⟩ := exists_settle_eq w task
    rw [apply, hsettle]
    exact ⟨stage, stage?_setStage_self (w := w) stage h.1, hstage⟩
  | join _ target =>
    cases he
    rcases stage?_join_self target h with hstage | hstage
    · exact ⟨_, hstage, Or.inl rfl⟩
    · exact ⟨_, hstage, Or.inr rfl⟩
  | finish _ how =>
    cases he
    obtain ⟨stage, hstage⟩ : ∃ stage, w.stage? task = some stage := by
      cases how <;> exact h.imp fun _ => And.left
    exact ⟨_, stage?_setStage_self (w := w) _ hstage, rfl⟩
  | _ => cases he

/-! ### First turns -/

theorem stage?_spawn_self (work : Work) : (w.spawn work).stage? w.works.length = some .spawned := by
  rw [works, List.length_map]
  simp [stage?, spawn]

/-- A task that was not there before an effect is the one that the effect starts. -/
theorem exists_spawn_of_new {e : Effect} {work : Work} (hnew : w.works.length ≤ task)
    (h : (w.apply e).works[task]? = some work) :
    task = w.works.length ∧ ∃ view, w.apply e = { w with view }.spawn work := by
  rw [works_apply, List.getElem?_append_right hnew] at h
  have only : ∀ started, [started][task - w.works.length]? = some work → task = w.works.length ∧ started = work := by
    intro started hstarted
    rw [List.getElem?_singleton] at hstarted
    split at hstarted
    · exact ⟨by omega, Option.some.inj hstarted⟩
    · cases hstarted
  cases e with
  | mount =>
    cases hm : w.view.mounted with
    | true => simp [Effect.newWorks, hm] at h
    | false =>
      rw [Effect.newWorks, hm] at h
      obtain ⟨htask, rfl⟩ := only _ h
      exact ⟨htask, _, congrArg Prod.snd (mount_of_not_mounted hm)⟩
  | settle => obtain ⟨htask, rfl⟩ := only _ h; exact ⟨htask, w.view, rfl⟩
  | load => obtain ⟨htask, rfl⟩ := only _ h; exact ⟨htask, w.view, rfl⟩
  | _ => simp [Effect.newWorks] at h

/-- A task that has just been started has not had a turn. -/
theorem stage?_apply_new {e : Effect} {work : Work} (hnew : w.works.length ≤ task)
    (h : (w.apply e).works[task]? = some work) : (w.apply e).stage? task = some .spawned := by
  obtain ⟨rfl, view, hspawn⟩ := exists_spawn_of_new hnew h
  rw [hspawn]
  exact stage?_spawn_self (w := { w with view }) work

/-- A task that has had its first turn does not have it again. -/
theorem begun_apply {e : Effect} {stage : Stage} (h : w.stage? task = some stage) (hbegun : stage ≠ .spawned)
    (he : e.Timely w) : ∃ stage', (w.apply e).stage? task = some stage' ∧ stage' ≠ .spawned := by
  by_cases hactor : e.actor? = some task
  · obtain ⟨stage', hstage', hleaves⟩ := stage?_apply_self he hactor
    exact ⟨stage', hstage', hleaves.ne_spawned⟩
  · obtain ⟨stage', hstage', hmoved, -⟩ := stage?_apply h hactor
    refine ⟨stage', hstage', ?_⟩
    cases hmoved with
    | kept => exact hbegun
    | aborted => nofun
    | doomed => nofun
    | released => nofun

/-! ### Runs -/

/-- Each effect comes when the task that is at work in it is at the stage for it. -/
def TimelyFrom (w : World) : List Effect → Prop
  | [] => True
  | e :: es => e.Timely w ∧ TimelyFrom (w.apply e) es

theorem timelyFrom_append {es fs : List Effect} :
    TimelyFrom w (es ++ fs) ↔ TimelyFrom w es ∧ TimelyFrom (w.replay es) fs := by
  induction es generalizing w with
  | nil => simp [TimelyFrom]
  | cons e es ih => simp [TimelyFrom, ih, and_assoc]

theorem Runs.apply {e : Effect} (h : w.Runs task) (he : e.actor? ≠ some task) : (w.apply e).Runs task := by
  obtain ⟨stage, hstage, hruns⟩ := h
  exact runs_apply hruns hstage he

theorem isDoomed_iff : w.isDoomed task = true ↔ ∃ number, w.stage? task = some (.running number true) := by
  unfold isDoomed
  split
  · rename_i number hdoomed
    exact ⟨fun _ => ⟨number, hdoomed⟩, fun _ => rfl⟩
  · rename_i hnot
    exact ⟨nofun, fun ⟨number, hdoomed⟩ => absurd hdoomed (hnot number)⟩

theorem timelyFrom_onward {work : Work} (outcome : Outcome (List NodeRecord)) (steps : List Step) :
    w.Runs task → w.works[task]? = some work → TimelyFrom w (w.onward task work outcome steps) := by
  refine onward_induction (P := fun w es => w.Runs task → w.works[task]? = some work → TimelyFrom w es)
    ?_ ?_ ?_ ?_ ?_ ?_ w outcome steps
  · intro w answer h hwork
    refine ⟨?_, ?_, trivial⟩
    · cases work with
      | fetch generation => exact ⟨h, hwork⟩
      | _ => exact ⟨h, fun generation hfetch => by cases hfetch.symm.trans hwork⟩
    · obtain ⟨stage, hstage, hruns⟩ := h
      refine ⟨stage, ?_, hruns⟩
      rw [apply_ofAnswer]
      cases work with
      | fetch generation => exact (stage?_complete generation answer).trans hstage
      | load => cases answer <;> exact hstage
      | settle => cases answer <;> exact hstage
  · exact fun _ h _ => ⟨h, trivial⟩
  · exact fun _ _ _ h _ => ⟨h, trivial⟩
  · intro w rest hdoomed h _
    obtain ⟨number, hnumber⟩ := isDoomed_iff.mp hdoomed
    exact ⟨h, ⟨_, hnumber, Or.inr ⟨number, rfl⟩⟩, trivial⟩
  · exact fun _ _ hes h hwork => ⟨trivial, hes (h.apply (e := .mount) nofun) (works_replay_of_some [.mount] hwork)⟩
  · exact fun _ _ hes h hwork => ⟨trivial, hes (h.apply (e := .unmount) nofun) (works_replay_of_some [.unmount] hwork)⟩

theorem Turn.timely {es : List Effect} (h : Turn source w task es) : TimelyFrom w es := by
  have hstage : ∀ {work : Work} {stage : Stage}, w.tasks[task]? = some ⟨work, stage⟩ →
      w.stage? task = some stage ∧ w.works[task]? = some work := by
    intro work stage ht
    simp [stage?, works, ht]
  cases h with
  | idle _ => trivial
  | takeHandle ht => exact ⟨hstage ht, trivial⟩
  | call ht hwork =>
    obtain ⟨hspawned, hworks⟩ := hstage ht
    refine ⟨⟨hspawned, by simpa [hworks] using hwork⟩, timelyFrom_onward _ _ ?_ ?_⟩
    · exact ⟨_, stage?_beginCall_self _ hspawned, _, _, rfl⟩
    · exact works_replay_of_some [.call task (source w.calls)] hworks
  | resume ht =>
    obtain ⟨hreleased, hworks⟩ := hstage ht
    refine ⟨⟨_, _, hreleased⟩, timelyFrom_onward _ _ ?_ (works_replay_of_some [.resume task] hworks)⟩
    exact ⟨_, stage?_resume_self hreleased, _, _, rfl⟩
  | join ht => exact ⟨(hstage ht).1, trivial⟩
  | cancel ht => exact ⟨⟨_, (hstage ht).1, Or.inl rfl⟩, trivial⟩

theorem timelyFrom_history (source : Source) (w : World) (actions : List Action) :
    TimelyFrom w (w.history source actions) := by
  refine history_induction (P := TimelyFrom) (fun _ => trivial) ?_ ?_ ?_ w actions
  · exact fun w es fs hes hfs => timelyFrom_append.mpr ⟨hes, hfs⟩
  · intro w action haction
    cases action with
    | turn task => exact absurd rfl (haction task)
    | _ => exact ⟨trivial, trivial⟩
  · exact fun w task es hready hturn => ⟨hready, hturn.timely⟩

/-- At any point of a run all effects have come in time, and the others will. -/
theorem timelyFrom_of_history {actions : List Action} {es rest : List Effect}
    (h : w.history source actions = es ++ rest) : TimelyFrom w es ∧ TimelyFrom (w.replay es) rest := by
  have timely := timelyFrom_history source w actions
  rw [h] at timely
  exact timelyFrom_append.mp timely

/-- An effect of a run comes when the task that is at work in it is at the stage for it. -/
theorem timely_of_history {actions : List Action} {before after : List Effect} {e : Effect}
    (h : w.history source actions = before ++ e :: after) : e.Timely (w.replay before) :=
  (timelyFrom_of_history h).2.1

end World
end ClusterConsole.View
