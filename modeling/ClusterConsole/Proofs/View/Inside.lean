import ClusterConsole.Proofs.View.Stage

/-! # Inside a call of the source

A task runs only inside a call that it makes, and while it runs nothing happens but what the call does to the view. So
an unmounting that finds a task running is one that the task's own call asks for. -/

namespace ClusterConsole.View

/-- The task comes to run in an effect: it calls the source, or goes on behind a gate. -/
def Effect.Enters (task : Nat) : Effect → Prop
  | .call caller _ => caller = task
  | .resume resumed => resumed = task
  | _ => False

/-- These effects end inside a call that the task makes: since it has come to run, nothing came but what the call did to
    the view. -/
def Inside (es : List Effect) (task : Nat) : Prop :=
  ∃ (earlier : List Effect) (e : Effect) (during : List Effect),
    es = earlier ++ e :: during ∧ e.Enters task ∧ ∀ d ∈ during, d = .mount ∨ d = .unmount

theorem Inside.append_left {es : List Effect} {task : Nat} (h : Inside es task) (before : List Effect) :
    Inside (before ++ es) task := by
  obtain ⟨earlier, e, during, rfl, henters, hduring⟩ := h
  exact ⟨before ++ earlier, e, during, (List.append_assoc _ _ _).symm, henters, hduring⟩

namespace World
variable {w : World} {source : Source} {e : Effect} {es xs ys : List Effect} {task : Nat}

/-- No task is running. -/
def Quiet (w : World) : Prop :=
  ∀ task, ¬w.Runs task

/-! ### Who runs -/

theorem runs_of_enters (he : e.Timely w) (henters : e.Enters task) : (w.apply e).Runs task := by
  cases e with
  | call caller asked =>
    cases henters
    exact ⟨_, stage?_beginCall_self asked he.1, _, _, rfl⟩
  | resume resumed =>
    cases henters
    obtain ⟨number, rest, hreleased⟩ := he
    exact ⟨_, stage?_resume_self hreleased, _, _, rfl⟩
  | _ => cases henters

theorem Runs.replay (h : w.Runs task) (hes : ∀ e ∈ es, e.actor? ≠ some task) : (w.replay es).Runs task := by
  induction es generalizing w with
  | nil => exact h
  | cons e es ih =>
    obtain ⟨he, hes⟩ := List.forall_mem_cons.mp hes
    exact ih (h.apply he) hes

theorem runs_of_inside (hes : TimelyFrom w es) (h : Inside es task) : (w.replay es).Runs task := by
  obtain ⟨earlier, e, during, rfl, henters, hduring⟩ := h
  obtain ⟨-, he, -⟩ := timelyFrom_append.mp hes
  rw [replay_append, replay_cons]
  refine (runs_of_enters he henters).replay fun d hd => ?_
  rcases hduring d hd with rfl | rfl <;> nofun

/-- No task comes to run without being at work. -/
theorem runs_of_apply (he : e.actor? ≠ some task) (h : (w.apply e).Runs task) : w.Runs task := by
  obtain ⟨stage', hruns', call, aborted, rfl⟩ := h
  obtain ⟨work, hwork⟩ := exists_work_of_stage? hruns'
  by_cases hnew : w.works.length ≤ task
  · cases hruns'.symm.trans (stage?_apply_new hnew hwork)
  obtain ⟨stage, hstage⟩ := exists_stage_of_works (List.getElem?_eq_getElem (Nat.lt_of_not_le hnew))
  obtain ⟨stage', hstage', hmoved, -⟩ := stage?_apply hstage he
  obtain rfl : stage' = .running call aborted := Option.some.inj (hstage'.symm.trans hruns')
  cases hmoved <;> exact ⟨_, hstage, _, _, rfl⟩

theorem runs_of_replay (hes : ∀ e ∈ es, e.actor? ≠ some task) (h : (w.replay es).Runs task) : w.Runs task := by
  induction es generalizing w with
  | nil => exact h
  | cons e es ih =>
    obtain ⟨he, hes⟩ := List.forall_mem_cons.mp hes
    exact runs_of_apply he (ih hes h)

/-! ### Turns -/

theorem actor?_of_mem_onward {work : Work} {outcome : Outcome (List NodeRecord)} {steps : List Step}
    (he : e ∈ w.onward task work outcome steps) : e.actor? = none ∨ e.actor? = some task := by
  cases inCall_of_mem_onward he with
  | mount => exact Or.inl rfl
  | unmount => exact Or.inl rfl
  | answer _ => cases work <;> exact Or.inr rfl
  | _ => exact Or.inr rfl

/-- Nobody else is at work in the turn of a task. -/
theorem Turn.actor?_of_mem (h : Turn source w task es) (he : e ∈ es) : e.actor? = none ∨ e.actor? = some task := by
  cases h with
  | idle _ => cases he
  | call _ _ =>
    rcases List.mem_cons.mp he with rfl | he
    · exact Or.inr rfl
    · exact actor?_of_mem_onward he
  | resume _ =>
    rcases List.mem_cons.mp he with rfl | he
    · exact Or.inr rfl
    · exact actor?_of_mem_onward he
  | _ =>
    obtain rfl := List.mem_singleton.mp he
    exact Or.inr rfl

theorem not_runs_of_leaves (init : List Effect) (hes : TimelyFrom w (init ++ [e])) (hactor : e.actor? = some task)
    (hleaves : ∀ stage, e.Leaves stage → ¬stage.Runs) : ¬(w.replay (init ++ [e])).Runs task := by
  rintro ⟨stage, hstage, hruns⟩
  obtain ⟨stage', hstage', hleft⟩ := stage?_apply_self (timelyFrom_append.mp hes).2.1 hactor
  rw [replay_append, replay_cons] at hstage
  obtain rfl : stage' = stage := Option.some.inj (hstage'.symm.trans hstage)
  exact hleaves stage' hleft hruns

theorem not_runs_ended {how : End} {stage : Stage} (h : (Effect.finish task how).Leaves stage) : ¬stage.Runs := by
  cases h
  nofun

/-- A call goes on until its task waits or has ended. -/
theorem not_runs_onward {work : Work} (outcome : Outcome (List NodeRecord)) (steps : List Step) (h : w.Runs task)
    (hwork : w.works[task]? = some work) : ¬(w.replay (w.onward task work outcome steps)).Runs task := by
  have htimely := timelyFrom_onward outcome steps h hwork
  revert h htimely
  refine onward_induction (P := fun w es => w.Runs task → TimelyFrom w es → ¬(w.replay es).Runs task)
    ?_ ?_ ?_ ?_ ?_ ?_ w outcome steps
  · exact fun w answer _ htimely => not_runs_of_leaves [_] htimely rfl fun _ => not_runs_ended
  · exact fun w _ htimely => not_runs_of_leaves [] htimely rfl fun _ => not_runs_ended
  · -- Who still runs at the gate has been aborted, and would have ended.
    rintro w rest hnot h - ⟨_, hstage, number, aborted, rfl⟩
    obtain ⟨_, hleft, number', hwaiting | hdoomed⟩ := stage?_apply_self (e := .wait task rest) h rfl
    · cases hwaiting ▸ hleft.symm.trans hstage
    · cases hnot.symm.trans (isDoomed_iff.mpr ⟨number', hdoomed ▸ hleft⟩)
  · exact fun w rest _ _ htimely => not_runs_of_leaves [_] htimely rfl fun _ => not_runs_ended
  · exact fun w es hes h htimely => hes (h.apply (e := .mount) nofun) htimely.2
  · exact fun w es hes h htimely => hes (h.apply (e := .unmount) nofun) htimely.2

/-- A task that had its turn waits or has ended. -/
theorem Turn.not_runs (h : Turn source w task es) (hquiet : w.Quiet) : ¬(w.replay es).Runs task := by
  have htimely := h.timely
  have hworks : ∀ {work : Work} {stage : Stage} (e : Effect), w.tasks[task]? = some ⟨work, stage⟩ →
      (w.apply e).works[task]? = some work := by
    intro work stage e ht
    exact works_replay_of_some [e] (by simp [works, ht])
  cases h with
  | idle _ => exact hquiet task
  | takeHandle _ => exact not_runs_of_leaves [] htimely rfl (by simp [Effect.Leaves, Stage.Runs])
  | call ht _ => exact not_runs_onward _ _ (runs_of_enters htimely.1 rfl) (hworks _ ht)
  | resume ht => exact not_runs_onward _ _ (runs_of_enters htimely.1 rfl) (hworks _ ht)
  | join _ => exact not_runs_of_leaves [] htimely rfl (by simp [Effect.Leaves, Stage.Runs])
  | cancel _ => exact not_runs_of_leaves [] htimely rfl fun _ => not_runs_ended

/-- What comes in a call before an unmounting is what the call does to the view. -/
theorem reenters_of_onward {work : Work} {outcome : Outcome (List NodeRecord)} {steps : List Step}
    (h : w.onward task work outcome steps = xs ++ .unmount :: ys) : ∀ d ∈ xs, d = .mount ∨ d = .unmount := by
  have none : ∀ es : List Effect, .unmount ∉ es → ∀ xs ys, es = xs ++ .unmount :: ys →
      ∀ d ∈ xs, d = .mount ∨ d = .unmount :=
    fun es hes xs ys heq => absurd (mem_of_eq_append_cons heq) hes
  have behind : ∀ e : Effect, e = .mount ∨ e = .unmount → ∀ es, (∀ xs ys, es = xs ++ .unmount :: ys →
      ∀ d ∈ xs, d = .mount ∨ d = .unmount) → ∀ xs ys, e :: es = xs ++ .unmount :: ys →
        ∀ d ∈ xs, d = .mount ∨ d = .unmount := by
    intro e he es hes xs ys heq
    cases xs with
    | nil => exact List.forall_mem_nil _
    | cons x xs =>
      obtain ⟨rfl, htail⟩ := List.cons.inj heq
      exact List.forall_mem_cons.mpr ⟨he, hes xs ys htail⟩
  refine onward_induction (P := fun _ es => ∀ xs ys, es = xs ++ .unmount :: ys → ∀ d ∈ xs, d = .mount ∨ d = .unmount)
    ?_ ?_ ?_ ?_ ?_ ?_ w outcome steps xs ys h
  · exact fun _ answer => none _ (by cases work <;> simp [Effect.ofAnswer])
  · exact fun _ => none _ (by simp)
  · exact fun _ rest _ => none _ (by simp)
  · exact fun _ rest _ => none _ (by simp)
  · exact fun _ es => behind .mount (Or.inl rfl) es
  · exact fun _ es => behind .unmount (Or.inr rfl) es

/-- An unmounting in the turn of a task is one that the task's own call asks for. -/
theorem Turn.inside (h : Turn source w task es) (hes : es = xs ++ .unmount :: ys) : Inside xs task := by
  have single : ∀ e : Effect, e ≠ .unmount → [e] ≠ xs ++ .unmount :: ys := by
    exact fun e he heq => he (List.mem_singleton.mp (mem_of_eq_append_cons heq)).symm
  have behind : ∀ (first : Effect) {u : World} {work : Work} {outcome : Outcome (List NodeRecord)} {steps : List Step},
      first ≠ .unmount → first.Enters task → first :: u.onward task work outcome steps = xs ++ .unmount :: ys →
      Inside xs task := by
    intro first u work outcome steps hfirst henters heq
    cases xs with
    | nil => exact absurd (List.cons.inj heq).1 hfirst
    | cons x xs =>
      obtain ⟨rfl, htail⟩ := List.cons.inj heq
      exact ⟨[], first, xs, rfl, henters, reenters_of_onward htail⟩
  cases h with
  | idle _ => simp at hes
  | call _ _ => exact behind (.call task _) nofun rfl hes
  | resume _ => exact behind (.resume task) nofun rfl hes
  | _ => exact absurd hes (single _ nofun)

/-! ### Runs -/

/-- No task runs between turns, and an unmounting that finds one running comes from inside the task's call. -/
theorem inside_history (source : Source) (w : World) (actions : List Action) : w.Quiet →
    (w.replay (w.history source actions)).Quiet ∧ ∀ xs ys task, w.history source actions = xs ++ .unmount :: ys →
      (w.replay xs).Runs task → Inside xs task := by
  refine history_induction (P := fun w es => w.Quiet → (w.replay es).Quiet ∧ ∀ xs ys task,
    es = xs ++ .unmount :: ys → (w.replay xs).Runs task → Inside xs task) ?_ ?_ ?_ ?_ w actions
  · exact fun w hquiet => ⟨hquiet, fun xs ys task hes => by simp at hes⟩
  · intro w es fs hes hfs hquiet
    obtain ⟨hquiet, hinside⟩ := hes hquiet
    obtain ⟨hquiet', hinside'⟩ := hfs hquiet
    refine ⟨replay_append w es fs ▸ hquiet', fun xs ys task heq hruns => ?_⟩
    rcases append_eq_append_cons heq with ⟨zs, rfl, -⟩ | ⟨zs, rfl, hsplit⟩
    · exact hinside xs zs task rfl hruns
    · rw [replay_append] at hruns
      exact (hinside' zs ys task hsplit hruns).append_left es
  · intro w action haction hquiet
    have single : ∀ es, (∃ e : Effect, es = [e] ∧ e.actor? = none) → (w.replay es).Quiet ∧ ∀ xs ys task,
        es = xs ++ .unmount :: ys → (w.replay xs).Runs task → Inside xs task := by
      rintro _ ⟨e, rfl, he⟩
      refine ⟨fun task hruns => hquiet task (runs_of_apply (by rw [he]; nofun) hruns), ?_⟩
      intro xs ys task hsplit hruns
      cases xs with
      | nil => exact absurd hruns (hquiet task)
      | cons x xs => simp at hsplit
    cases action with
    | turn task => exact absurd rfl (haction task)
    | _ => exact single _ ⟨_, rfl, rfl⟩
  · intro w task es _ hturn hquiet
    have hquiet : (w.apply (.pick task)).Quiet := fun other hruns =>
      hquiet other (runs_of_apply (e := .pick task) nofun hruns)
    -- While the turn goes on, nobody else runs.
    have alone : ∀ xs, (∀ e ∈ xs, e ∈ es) → ∀ other, ((w.apply (.pick task)).replay xs).Runs other →
        other = task := by
      intro xs hxs other hruns
      by_contra hne
      refine hquiet other (runs_of_replay (fun e he hactor => ?_) hruns)
      rcases hturn.actor?_of_mem (hxs e he) with hnone | hself
      · cases hnone.symm.trans hactor
      · exact hne (Option.some.inj (hactor.symm.trans hself))
    refine ⟨fun other hruns => ?_, fun xs ys other hsplit hruns => ?_⟩
    · obtain rfl := alone es (fun _ => id) other hruns
      exact hturn.not_runs hquiet hruns
    · cases xs with
      | nil => cases hsplit
      | cons x xs =>
        obtain ⟨rfl, hes⟩ := List.cons.inj hsplit
        obtain rfl := alone xs (fun e he => hes ▸ List.mem_append_left _ he) other hruns
        exact (hturn.inside hes).append_left [.pick other]

end World
end ClusterConsole.View
