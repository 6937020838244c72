import ClusterConsole.Proofs.View.Stage

/-! # First turns

A task can go on from its start until its first turn. In that turn a fetch or a load calls the source at once, and no
task calls it in any other turn. -/

namespace ClusterConsole.View

/-- The task that has its first turn, and what it is there for. -/
def Effect.begins? (w : World) : Effect → Option (Nat × Work)
  | .pick task => (w.tasks[task]?.filter fun t => t.stage = .spawned).map fun t => (task, t.work)
  | _ => none

namespace World

/-- The tasks that have their first turn, in the order in which they have it. -/
def begun (w : World) : List Effect → List (Nat × Work)
  | [] => []
  | e :: es => (e.begins? w).toList ++ begun (w.apply e) es

variable {w : World} {source : Source} {e : Effect} {es fs : List Effect} {task : Nat} {work : Work}

theorem begun_append : w.begun (es ++ fs) = w.begun es ++ (w.replay es).begun fs := by
  induction es generalizing w with
  | nil => rfl
  | cons e es ih => simp [begun, ih]

theorem begins?_pick {t : Task} (ht : w.tasks[task]? = some t) :
    (Effect.pick task).begins? w = if t.stage = .spawned then some (task, t.work) else none := by
  rw [Effect.begins?, ht, Option.filter_some]
  by_cases h : t.stage = .spawned <;> simp [h]

theorem begins?_pick_of_ne (h : w.stage? task ≠ some .spawned) : (Effect.pick task).begins? w = none := by
  cases ht : w.tasks[task]? with
  | none => rw [Effect.begins?, ht]; rfl
  | some t =>
    rw [begins?_pick ht, if_neg]
    rintro heq
    exact h (by rw [stage?, ht, Option.map_some, heq])

theorem works_of_begins? (h : e.begins? w = some (task, work)) : w.works[task]? = some work := by
  cases e with
  | pick other =>
    obtain ⟨t, ht, heq⟩ := Option.map_eq_some_iff.mp h
    obtain ⟨rfl, rfl⟩ := Prod.mk.inj heq
    exact List.getElem?_map ▸ congrArg (Option.map Task.work) (Option.filter_eq_some_iff.mp ht).1
  | _ => cases h

theorem works_of_mem_begun (h : (task, work) ∈ w.begun es) : (w.replay es).works[task]? = some work := by
  induction es generalizing w with
  | nil => cases h
  | cons e es ih =>
    rcases List.mem_append.mp h with hbegins | hbegun
    · exact works_replay_of_some (e :: es) (works_of_begins? (Option.mem_toList.mp hbegins))
    · exact ih hbegun

/-! ### Tasks that can go on -/

/-- A task that can go on can still do so until it is picked. -/
theorem ready_prefix_apply (he : ∀ other, e ≠ .pick other) : w.ready <+: (w.apply e).ready := by
  cases e with
  | pick other => exact absurd rfl (he other)
  | mount =>
    cases hm : w.view.mounted with
    | true => rw [apply, mount_of_mounted hm]; exact List.prefix_rfl
    | false => rw [apply, mount_of_not_mounted hm]; exact List.prefix_append _ _
  | unmount =>
    obtain ⟨task, stage, ready, h, hready, -⟩ := exists_abortFetch_eq w
    rw [apply, unmount, h]
    exact hready
  | settle => exact List.prefix_append _ _
  | load => exact List.prefix_append _ _
  | openGate =>
    obtain ⟨task, stage, ready, gates, h, hready, -⟩ := exists_openGate_eq w
    rw [apply, h]
    exact hready
  | wait other rest =>
    obtain ⟨stage, h, -⟩ := exists_await_eq w other rest
    rw [apply, h]
    exact List.prefix_rfl
  | resume other =>
    obtain ⟨stage, h, -⟩ := exists_resume_eq w other
    rw [apply, h]
    exact List.prefix_rfl
  | complete other generation answer =>
    obtain ⟨nodes, sent, log, h⟩ := exists_complete_eq w generation answer
    have hready : (w.complete generation answer).ready = w.ready := by rw [h]
    exact hready.symm ▸ List.prefix_rfl
  | loaded other answer => cases answer <;> exact List.prefix_rfl
  | takeHandle other =>
    obtain ⟨stage, ready, log, h, hready, -⟩ := exists_settle_eq w other
    rw [apply, h]
    exact hready
  | join other target =>
    obtain ⟨stage, ready, log, h, hready, -⟩ := exists_join_eq w other target
    rw [apply, h]
    exact hready
  | finish other how => exact List.prefix_append _ _
  | _ => exact List.prefix_rfl

theorem mem_ready_apply_of_new (hnew : w.works.length ≤ task) (h : (w.apply e).works[task]? = some work) :
    task ∈ (w.apply e).ready := by
  obtain ⟨rfl, view, hspawn⟩ := exists_spawn_of_new hnew h
  rw [hspawn, works, List.length_map]
  exact List.mem_append_right w.ready List.mem_cons_self

end World

theorem begun_concat (es : List Effect) (e : Effect) :
    World.begun {} (es ++ [e]) = World.begun {} es ++ (e.begins? (after es)).toList := by
  rw [World.begun_append]
  exact congrArg _ (List.append_nil _)

/-- A task that has not had its first turn can go on to it. -/
theorem mem_ready_of_spawned {es : List Effect} {task : Nat} (hes : World.TimelyFrom {} es)
    (hspawned : (after es).stage? task = some .spawned) (hbegun : ∀ work, (task, work) ∉ World.begun {} es) :
    task ∈ (after es).ready := by
  induction es using List.reverseRecOn with
  | nil => cases hspawned
  | append_singleton es e ih =>
    obtain ⟨hes, he, -⟩ := World.timelyFrom_append.mp hes
    rw [after_concat] at hspawned ⊢
    rw [begun_concat] at hbegun
    obtain ⟨work, hwork⟩ := World.exists_work_of_stage? hspawned
    by_cases hnew : (after es).works.length ≤ task
    · exact World.mem_ready_apply_of_new hnew hwork
    have hold := List.getElem?_eq_getElem (Nat.lt_of_not_le hnew)
    obtain ⟨stage, hstage⟩ := World.exists_stage_of_works hold
    -- A task that was there before was ready before. Only its own pick takes that away, and with it the task begins.
    by_cases hfirst : stage = .spawned
    · subst hfirst
      have hready := ih hes hstage fun work hmem => hbegun work (List.mem_append_left _ hmem)
      by_cases hpick : ∃ other, e = .pick other
      · obtain ⟨other, rfl⟩ := hpick
        have hother : task ≠ other := by
          rintro rfl
          obtain ⟨t, ht, hspawned⟩ := Option.map_eq_some_iff.mp hstage
          refine hbegun t.work (List.mem_append_right _ ?_)
          rw [World.begins?_pick ht, if_pos hspawned]
          exact List.mem_cons_self
        exact (List.mem_erase_of_ne hother).mpr hready
      · exact (World.ready_prefix_apply fun other heq => hpick ⟨other, heq⟩).mem hready
    · obtain ⟨stage', hstage', hbegun'⟩ := World.begun_apply hstage hfirst he
      exact absurd (Option.some.inj (hstage'.symm.trans hspawned)) hbegun'

/-! ### Calls in first turns -/

/-- The task that calls the source first of all. -/
def nextCaller? (es : List Effect) : Option Nat :=
  es.head?.bind Effect.caller?

/-- The task that has its first turn, if it is there to call the source. -/
def Effect.prompts? (w : World) (e : Effect) : Option Nat :=
  ((e.begins? w).filter fun begun => begun.2 ≠ .settle).map Prod.fst

namespace World
variable {w : World} {source : Source} {es fs : List Effect}

/-- The tasks that call the source are those that are there for it and have just been picked for their first turn. -/
def Prompt (w : World) : List Effect → Prop
  | [] => True
  | e :: es => nextCaller? es = e.prompts? w ∧ Prompt (w.apply e) es

theorem Prompt.append (hes : w.Prompt es) (hfs : (w.replay es).Prompt fs) (hnext : nextCaller? fs = none) :
    w.Prompt (es ++ fs) := by
  induction es generalizing w with
  | nil => exact hfs
  | cons e es ih =>
    refine ⟨?_, ih hes.2 hfs⟩
    cases es with
    | nil => exact hnext.trans hes.1
    | cons e' es => exact hes.1

theorem prompt_of_callers_tail (hpick : ∀ e ∈ es, ∀ other, e ≠ .pick other) (hcallers : callers es.tail = []) :
    w.Prompt es := by
  induction es generalizing w with
  | nil => trivial
  | cons e es ih =>
    obtain ⟨he, hes⟩ := List.forall_mem_cons.mp hpick
    have hnone : e.prompts? w = none := by
      cases e with
      | pick other => exact absurd rfl (he other)
      | _ => rfl
    rw [List.tail_cons] at hcallers
    cases es with
    | nil => exact ⟨hnone.symm, trivial⟩
    | cons e' es =>
      have hcallers' := List.filterMap_eq_nil_iff.mp hcallers
      refine ⟨(hcallers' e' List.mem_cons_self).trans hnone.symm, ih hes ?_⟩
      exact List.filterMap_eq_nil_iff.mpr fun e'' he'' => hcallers' e'' (List.mem_cons_of_mem e' he'')

theorem ne_pick_of_mem_onward {task : Nat} {work : Work} {outcome : Outcome (List NodeRecord)} {steps : List Step}
    {e : Effect} (he : e ∈ w.onward task work outcome steps) (other : Nat) : e ≠ .pick other := by
  cases inCall_of_mem_onward he with
  | answer _ => cases work <;> nofun
  | _ => nofun

theorem Turn.ne_pick {task : Nat} (h : Turn source w task es) : ∀ e ∈ es, ∀ other, e ≠ .pick other := by
  cases h with
  | idle _ => exact List.forall_mem_nil _
  | call _ _ => exact List.forall_mem_cons.mpr ⟨nofun, fun _ => ne_pick_of_mem_onward⟩
  | resume _ => exact List.forall_mem_cons.mpr ⟨nofun, fun _ => ne_pick_of_mem_onward⟩
  | _ => exact List.forall_mem_singleton.mpr nofun

theorem Turn.callers_tail {task : Nat} (h : Turn source w task es) : callers es.tail = [] := by
  cases h with
  | call _ _ => exact callers_onward _ task _ _ _
  | resume _ => exact callers_onward _ task _ _ _
  | _ => rfl

/-- A task that is there to call the source does so at once when it has been picked for its first turn. -/
theorem Turn.nextCaller?_eq {task : Nat} (h : Turn source (w.apply (.pick task)) task es) :
    nextCaller? es = (Effect.pick task).prompts? w := by
  have first : ∀ work : Work, w.tasks[task]? = some ⟨work, .spawned⟩ →
      (Effect.pick task).prompts? w = if work = .settle then none else some task := by
    intro work ht
    rw [Effect.prompts?, begins?_pick ht, if_pos rfl]
    cases work <;> rfl
  have other : ∀ (work : Work) (stage : Stage), w.tasks[task]? = some ⟨work, stage⟩ → stage ≠ .spawned →
      none = (Effect.pick task).prompts? w := by
    intro work stage ht hstage
    rw [Effect.prompts?, begins?_pick ht, if_neg hstage]
    rfl
  cases h with
  | idle hstage => rw [Effect.prompts?, begins?_pick_of_ne (w := w) hstage]; rfl
  | takeHandle ht => exact (first _ ht).symm
  | call ht hwork => rw [first _ ht, if_neg hwork]; rfl
  | resume ht => exact other _ _ ht nofun
  | join ht => exact other _ _ ht nofun
  | cancel ht => exact other _ _ ht nofun

theorem Turn.callers_eq {task : Nat} (h : Turn source (w.apply (.pick task)) task es) :
    callers es = ((Effect.pick task).prompts? w).toList := by
  rw [← h.nextCaller?_eq]
  cases es with
  | nil => rfl
  | cons e es =>
    have htail : callers es = [] := h.callers_tail
    calc callers (e :: es) = e.caller?.toList ++ callers es := callers_append [e] es
      _ = e.caller?.toList := by rw [htail, List.append_nil]

theorem prompt_history (source : Source) (w : World) (actions : List Action) :
    nextCaller? (w.history source actions) = none ∧ w.Prompt (w.history source actions) := by
  refine history_induction (P := fun w es => nextCaller? es = none ∧ w.Prompt es) ?_ ?_ ?_ ?_ w actions
  · exact fun _ => ⟨rfl, trivial⟩
  · rintro w es fs ⟨hnext, hes⟩ ⟨hnext', hfs⟩
    refine ⟨?_, hes.append hfs hnext'⟩
    cases es with
    | nil => exact hnext'
    | cons e es => exact hnext
  · intro w action haction
    cases action with
    | turn task => exact absurd rfl (haction task)
    | _ => exact ⟨rfl, rfl, trivial⟩
  · exact fun w task es _ hturn => ⟨rfl, hturn.nextCaller?_eq, prompt_of_callers_tail hturn.ne_pick hturn.callers_tail⟩

/-- The tasks that have called the source are those that have had their first turn and are there for it. -/
theorem Prompt.callers_eq (h : w.Prompt (es ++ fs)) (hstart : nextCaller? (es ++ fs) = none)
    (hend : nextCaller? fs = none) :
    callers es = ((w.begun es).filter fun begun => begun.2 ≠ .settle).map Prod.fst := by
  have general : ∀ {w : World} (es : List Effect), w.Prompt (es ++ fs) →
      callers es = (nextCaller? (es ++ fs)).toList ++
        ((w.begun es).filter fun begun => begun.2 ≠ .settle).map Prod.fst := by
    intro w es
    induction es generalizing w with
    | nil => rw [List.nil_append, hend]; exact fun _ => rfl
    | cons e es ih =>
      rintro ⟨hnext, h⟩
      have hprompts : (e.prompts? w).toList =
          ((e.begins? w).toList.filter fun begun => begun.2 ≠ .settle).map Prod.fst := by
        rw [Effect.prompts?]
        cases e.begins? w with
        | none => rfl
        | some begun =>
          obtain ⟨task, work⟩ := begun
          cases work <;> rfl
      calc callers (e :: es) = e.caller?.toList ++ callers es := callers_append [e] es
        _ = e.caller?.toList ++ ((e.prompts? w).toList ++
              (((w.apply e).begun es).filter fun begun => begun.2 ≠ .settle).map Prod.fst) := by rw [ih h, ← hnext]; rfl
        _ = e.caller?.toList ++ ((w.begun (e :: es)).filter fun begun => begun.2 ≠ .settle).map Prod.fst := by
              rw [hprompts, begun, List.filter_append, List.map_append]
  rw [general es h, hstart]
  rfl

end World
end ClusterConsole.View
