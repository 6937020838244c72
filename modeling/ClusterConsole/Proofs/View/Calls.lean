import Mathlib.Data.List.Nodup
import ClusterConsole.Proofs.View.Begun
import ClusterConsole.Proofs.View.Mounted

/-! # Calls of the source

The fetch of a mounting calls the source in its first turn and then no more. It never does when an unmounting has
aborted it before that turn. Besides the fetches only the loads call, each of them in its first turn too. -/

namespace ClusterConsole.View

/-! ### The calls of one task -/

/-- An unmounting has aborted the task before its first turn. -/
def Forestalled (es : List Effect) (task : Nat) : Prop :=
  ∃ earlier later, es = earlier ++ .unmount :: later ∧ (after earlier).stage? task = some .spawned ∧
    (after (earlier ++ [.unmount])).stage? task = some .aborted

/-- How often a task has called the source that is there to call it. -/
inductive Called (es : List Effect) (task : Nat) : Prop
  /-- It waits for its first turn. -/
  | notYet (hstage : (after es).stage? task = some .spawned) (hforestalled : ¬Forestalled es task)
      (hcalls : (callers es).count task = 0)
  /-- It never has a turn in which it could. -/
  | never (hstage : (after es).stage? task = some .aborted ∨ (after es).stage? task = some (.ended .cancelled))
      (hforestalled : Forestalled es task) (hcalls : (callers es).count task = 0)
  | once {stage : Stage} (hstage : (after es).stage? task = some stage) (hbegun : stage ≠ .spawned)
      (hforestalled : ¬Forestalled es task) (hcalls : (callers es).count task = 1)

section
variable {es : List Effect} {e : Effect} {task : Nat}

theorem count_callers_of_ne (es : List Effect) (h : e.caller? ≠ some task) :
    (callers (es ++ [e])).count task = (callers es).count task := by
  rw [callers_append, List.count_append, Nat.add_eq_left, List.count_eq_zero]
  intro hmem
  obtain ⟨caller, hcaller, heq⟩ := List.mem_filterMap.mp hmem
  obtain rfl := List.mem_singleton.mp hcaller
  exact h heq

theorem count_callers_of_call (es : List Effect) (task : Nat) (call : Call) :
    (callers (es ++ [.call task call])).count task = (callers es).count task + 1 := by
  rw [callers_append, List.count_append]
  exact congrArg _ List.count_singleton_self

theorem forestalled_concat : Forestalled (es ++ [e]) task ↔ Forestalled es task ∨
    e = .unmount ∧ (after es).stage? task = some .spawned ∧ (after (es ++ [e])).stage? task = some .aborted := by
  constructor
  · rintro ⟨earlier, later, hes, hspawned, haborted⟩
    rcases List.eq_nil_or_concat later with rfl | ⟨later, last, rfl⟩
    · obtain ⟨rfl, rfl⟩ := List.append_singleton_inj.mp hes
      exact Or.inr ⟨rfl, hspawned, haborted⟩
    · rw [List.concat_eq_append, ← List.cons_append, ← List.append_assoc] at hes
      obtain ⟨rfl, -⟩ := List.append_singleton_inj.mp hes
      exact Or.inl ⟨earlier, later, rfl, hspawned, haborted⟩
  · rintro (⟨earlier, later, rfl, hstages⟩ | ⟨rfl, hstages⟩)
    · exact ⟨earlier, later ++ [e], by simp, hstages⟩
    · exact ⟨es, [], rfl, hstages⟩

/-- Only an unmounting that finds the task before its first turn can forestall it. -/
theorem not_forestalled_of_begun {stage : Stage} (h : ¬Forestalled es task)
    (hstage : (after es).stage? task = some stage) (hbegun : stage ≠ .spawned) : ¬Forestalled (es ++ [e]) task := by
  rw [forestalled_concat]
  rintro (hold | ⟨-, hspawned, -⟩)
  · exact h hold
  · exact hbegun (Option.some.inj (hstage.symm.trans hspawned))

theorem not_forestalled_of_not_aborted {stage : Stage} (h : ¬Forestalled es task)
    (hstage : (after (es ++ [e])).stage? task = some stage) (hne : stage ≠ .aborted) :
    ¬Forestalled (es ++ [e]) task := by
  rw [forestalled_concat]
  rintro (hold | ⟨-, -, haborted⟩)
  · exact h hold
  · exact hne (Option.some.inj (hstage.symm.trans haborted))

/-! ### One effect -/

theorem Called.step_of_actor (h : Called es task) (he : e.Timely (after es)) (hactor : e.actor? = some task)
    (hsettle : (after es).works[task]? ≠ some .settle) : Called (es ++ [e]) task := by
  obtain ⟨stage', hstage', hleaves⟩ := World.stage?_apply_self he hactor
  rw [← after_concat] at hstage'
  cases h with
  | notYet hstage hforestalled hcalls =>
    rcases he.of_spawned hactor hstage with ⟨call, rfl⟩ | rfl
    · have hcount := (count_callers_of_call es task call).trans (congrArg (· + 1) hcalls)
      obtain ⟨number, rfl⟩ := hleaves
      exact .once hstage' nofun (not_forestalled_of_not_aborted hforestalled hstage' nofun) hcount
    · exact absurd he.2 hsettle
  | never hstage hforestalled hcalls =>
    rcases hstage with haborted | hcancelled
    · obtain rfl := he.of_aborted hactor haborted
      cases hleaves
      exact .never (Or.inr hstage') (forestalled_concat.mpr (Or.inl hforestalled))
        ((count_callers_of_ne es (by rintro ⟨⟩)).trans hcalls)
    · exact absurd hcancelled (he.ne_ended hactor)
  | once hstage hbegun hforestalled hcalls =>
    -- Who has begun does not call again.
    have hcaller : e.caller? ≠ some task := by
      intro hcaller
      cases e with
      | call _ _ => cases hcaller; exact hbegun (Option.some.inj (hstage.symm.trans he.1))
      | _ => cases hcaller
    obtain ⟨stage'', hstage'', hbegun'⟩ := World.begun_apply hstage hbegun he
    exact .once (after_concat es e ▸ hstage'') hbegun' (not_forestalled_of_begun hforestalled hstage hbegun)
      ((count_callers_of_ne es hcaller).trans hcalls)

theorem Called.step_of_not_actor (h : Called es task) (he : e.Timely (after es)) (hactor : e.actor? ≠ some task) :
    Called (es ++ [e]) task := by
  have hcaller : e.caller? ≠ some task := by
    intro hcaller
    cases e with
    | call _ _ => exact hactor hcaller
    | _ => cases hcaller
  have hcount := count_callers_of_ne es hcaller
  cases h with
  | notYet hstage hforestalled hcalls =>
    obtain ⟨stage', hstage', hmoved, hcause⟩ := World.stage?_apply hstage hactor
    rw [← after_concat] at hstage'
    cases hmoved with
    | kept =>
      exact .notYet hstage' (not_forestalled_of_not_aborted hforestalled hstage' nofun) (hcount.trans hcalls)
    | aborted =>
      rcases hcause (Or.inl rfl) with hold | ⟨rfl, -⟩
      · exact absurd hold nofun
      · exact .never (Or.inl hstage') (forestalled_concat.mpr (Or.inr ⟨rfl, hstage, hstage'⟩)) (hcount.trans hcalls)
  | never hstage hforestalled hcalls =>
    refine .never ?_ (forestalled_concat.mpr (Or.inl hforestalled)) (hcount.trans hcalls)
    rw [after_concat]
    rcases hstage with haborted | hcancelled
    · obtain ⟨stage', hstage', hmoved, -⟩ := World.stage?_apply haborted hactor
      cases hmoved <;> exact Or.inl hstage'
    · exact Or.inr (World.ended_apply hcancelled hactor)
  | once hstage hbegun hforestalled hcalls =>
    obtain ⟨stage', hstage', hbegun'⟩ := World.begun_apply hstage hbegun he
    exact .once (after_concat es e ▸ hstage') hbegun' (not_forestalled_of_begun hforestalled hstage hbegun)
      (hcount.trans hcalls)

/-! ### A run -/

/-- A task that was at some stage earlier is there. -/
theorem lt_works_of_stage? {earlier : List Effect} {stage : Stage} (later : List Effect)
    (h : (after earlier).stage? task = some stage) : task < (after (earlier ++ later)).works.length := by
  obtain ⟨t, ht, -⟩ := Option.map_eq_some_iff.mp h
  have hlt := (List.getElem?_eq_some_iff.mp ht).1
  have hle := (World.works_prefix_replay (after earlier) later).length_le
  rw [← after_append, World.works, List.length_map] at hle
  omega

/-- A task that has just been started waits for its first turn. -/
theorem called_of_new {work : Work} (hes : World.TimelyFrom {} es) (hnew : (after es).works.length ≤ task)
    (hwork : ((after es).apply e).works[task]? = some work) : Called (es ++ [e]) task := by
  have hstage := World.stage?_apply_new hnew hwork
  rw [← after_concat] at hstage
  refine .notYet hstage (not_forestalled_of_not_aborted ?_ hstage nofun) ?_
  · rintro ⟨earlier, later, rfl, hspawned, -⟩
    exact absurd (lt_works_of_stage? (.unmount :: later) hspawned) (Nat.not_lt.mpr hnew)
  · have hcaller : e.caller? ≠ some task := by
      intro hcaller
      cases e with
      | call _ _ =>
        have hnone : ((after es).works ++ [])[task]? = some work := World.works_apply (.call _ _) ▸ hwork
        rw [List.append_nil] at hnone
        exact absurd (List.getElem?_eq_some_iff.mp hnone).1 (Nat.not_lt.mpr hnew)
      | _ => cases hcaller
    rw [count_callers_of_ne es hcaller]
    refine List.count_eq_zero.mpr fun hmem => ?_
    obtain ⟨e', he', hcaller'⟩ := List.mem_filterMap.mp hmem
    obtain ⟨earlier, later, rfl⟩ := List.append_of_mem he'
    obtain ⟨-, htimely, -⟩ := World.timelyFrom_append.mp hes
    cases e' with
    | call _ call =>
      cases hcaller'
      exact absurd (lt_works_of_stage? (.call task call :: later) htimely.1) (Nat.not_lt.mpr hnew)
    | _ => cases hcaller'

theorem called_of_works {work : Work} (hes : World.TimelyFrom {} es) (hwork : (after es).works[task]? = some work)
    (hsettle : work ≠ .settle) : Called es task := by
  induction es using List.reverseRecOn with
  | nil => cases hwork
  | append_singleton es e ih =>
    obtain ⟨hes, he, -⟩ := World.timelyFrom_append.mp hes
    rw [after_concat] at hwork
    by_cases hnew : (after es).works.length ≤ task
    · exact called_of_new hes hnew hwork
    · rw [World.works_apply, List.getElem?_append_left (Nat.lt_of_not_le hnew)] at hwork
      by_cases hactor : e.actor? = some task
      · exact (ih hes hwork).step_of_actor he hactor fun heq => hsettle (Option.some.inj (hwork.symm.trans heq))
      · exact (ih hes hwork).step_of_not_actor he hactor

theorem Called.count_le_one (h : Called es task) : (callers es).count task ≤ 1 := by
  cases h <;> omega

theorem Called.not_mem_callers (h : Called es task) (hspawned : (after es).stage? task = some .spawned) :
    task ∉ callers es := by
  cases h with
  | notYet _ _ hcalls => exact List.count_eq_zero.mp hcalls
  | never _ _ hcalls => exact List.count_eq_zero.mp hcalls
  | once hstage hbegun _ _ => exact absurd (Option.some.inj (hstage.symm.trans hspawned)) hbegun

theorem Called.count_eq_one_iff (h : Called es task) (hbegun : (after es).stage? task ≠ some .spawned) :
    (callers es).count task = 1 ↔ ¬Forestalled es task := by
  cases h with
  | notYet hstage => exact absurd hstage hbegun
  | never _ hforestalled hcalls => simp [hcalls, hforestalled]
  | once _ _ hforestalled hcalls => simp [hcalls, hforestalled]

/-- Only a fetch or a load calls the source, and it does in its first turn. -/
theorem timely_of_mem_callers (hes : World.TimelyFrom {} es) (h : task ∈ callers es) :
    ∃ work, (after es).works[task]? = some work ∧ work ≠ .settle := by
  obtain ⟨e, he, hcaller⟩ := List.mem_filterMap.mp h
  obtain ⟨earlier, later, rfl⟩ := List.append_of_mem he
  obtain ⟨-, htimely, -⟩ := World.timelyFrom_append.mp hes
  cases e with
  | call _ call =>
    cases hcaller
    obtain ⟨work, hwork⟩ := World.exists_work_of_stage? htimely.1
    refine ⟨work, ?_, fun hsettle => htimely.2 (hsettle ▸ hwork)⟩
    rw [after_append]
    exact World.works_replay_of_some (.call task call :: later) hwork
  | _ => cases hcaller

/-- No task calls the source twice. -/
theorem nodup_callers (hes : World.TimelyFrom {} es) : (callers es).Nodup := by
  refine List.nodup_iff_count_le_one.mpr fun task => ?_
  by_cases hmem : task ∈ callers es
  · obtain ⟨work, hwork, hsettle⟩ := timely_of_mem_callers hes hmem
    exact (called_of_works hes hwork hsettle).count_le_one
  · rw [List.count_eq_zero.mpr hmem]
    exact Nat.zero_le 1

end

/-! ### Counting -/

/-- Whether the work is a fetch for a mounting. -/
def Work.isFetch : Work → Bool
  | .fetch _ => true
  | _ => false

/-- Whether the work is a fetch for whoever asks. -/
def Work.isLoad : Work → Bool
  | .load => true
  | _ => false

/-- How many tasks for work of a kind have had their first turn. -/
def startedOf (es : List Effect) (kind : Work → Bool) : Nat :=
  (World.begun {} es).countP fun begun => kind begun.2

theorem length_filter_ne_settle (begun : List (Nat × Work)) :
    (begun.filter fun b => b.2 ≠ .settle).length =
      (begun.countP fun b => b.2.isFetch) + begun.countP fun b => b.2.isLoad := by
  induction begun with
  | nil => rfl
  | cons b begun ih =>
    obtain ⟨task, work⟩ := b
    rw [List.countP_cons, List.countP_cons, List.filter_cons]
    cases work with
    | fetch generation => exact (congrArg (· + 1) ih).trans (Nat.add_right_comm _ _ _)
    | load => exact congrArg (· + 1) ih
    | settle => exact ih

section
variable {source : Source} {actions : List Action} {earlier later : List Effect}

theorem callers_of_history (h : World.history source {} actions = earlier ++ later) (hnext : nextCaller? later = none) :
    callers earlier = ((World.begun {} earlier).filter fun begun => begun.2 ≠ .settle).map Prod.fst := by
  obtain ⟨hstart, hprompt⟩ := World.prompt_history source {} actions
  rw [h] at hstart hprompt
  exact hprompt.callers_eq hstart hnext

/-- A fetch or load that cannot go on has had its first turn. -/
theorem not_spawned_of_not_ready {task : Nat} {work : Work} (h : World.history source {} actions = earlier ++ later)
    (hnext : nextCaller? later = none) (hwork : (after earlier).works[task]? = some work) (hsettle : work ≠ .settle)
    (hready : task ∉ (after earlier).ready) : (after earlier).stage? task ≠ some .spawned := by
  intro hspawned
  have htimely := (World.timelyFrom_of_history h).1
  refine hready (mem_ready_of_spawned htimely hspawned fun begun hbegun => ?_)
  obtain rfl : begun = work := Option.some.inj ((World.works_of_mem_begun hbegun).symm.trans hwork)
  have hcaller : task ∈ callers earlier := by
    rw [callers_of_history h hnext]
    exact List.mem_map.mpr ⟨(task, begun), List.mem_filter.mpr ⟨hbegun, decide_eq_true hsettle⟩, rfl⟩
  exact (called_of_works htimely hwork hsettle).not_mem_callers hspawned hcaller

end

open World in
/-- At every point of a run: mounting starts one fetch exactly when the view is not mounted, and otherwise does nothing
    but report that. The fetch of a mounting has called the source at most once, and, when it has had its turn, exactly
    once unless an unmounting had aborted it before. Nothing but the first turn of a fetch or a load calls the source,
    so that it has had as many calls as fetches and loads have had their first turns. -/
theorem calls_of_history {source : Source} {actions : List Action} {earlier later : List Effect}
    (h : history source {} actions = earlier ++ later) :
    let w := after earlier
    (w.mount.1 = true ↔ w.view.mounted = false) ∧
      (w.mount.1 = true → w.mount.2.works = w.works ++ [.fetch (w.view.generation + 1)]) ∧
      (w.mount.1 = false → w.mount.2 = { w with log := w.log ++ [.alreadyMounted] }) ∧
      (∀ before mid task, earlier = before ++ .mount :: mid → Mounting before task →
        (callers earlier).count task ≤ 1 ∧
          (nextCaller? later = none → task ∉ w.ready →
            ((callers earlier).count task = 1 ↔ ¬Forestalled earlier task))) ∧
      (∀ e, e.caller? = none → (w.apply e).calls = w.calls) ∧
      (∀ task call rest, later = .call task call :: rest →
        w.stage? task = some .spawned ∧ w.works[task]? ≠ some .settle ∧
          (w.apply (.call task call)).calls = w.calls + 1) ∧
      (nextCaller? later = none →
        callers earlier = ((begun {} earlier).filter fun begun => begun.2 ≠ .settle).map Prod.fst ∧
          (callers earlier).Nodup ∧ w.calls = startedOf earlier Work.isFetch + startedOf earlier Work.isLoad) := by
  intro w
  have htimely := (timelyFrom_of_history h).1
  refine ⟨?_, fun hmount => ?_, fun hmount => ?_, ?_, fun e he => ?_, ?_, fun hnext => ?_⟩
  · rw [mount_fst, Bool.not_eq_true']
  · rw [mount_fst, Bool.not_eq_true'] at hmount
    have hworks := works_apply (w := w) .mount
    rwa [Effect.newWorks, hmount] at hworks
  · rw [mount_fst, Bool.not_eq_false'] at hmount
    rw [mount_of_mounted hmount]
    rfl
  · rintro before mid task rfl hstart
    have hwork := hstart.works mid
    have hsettle : Work.fetch ((after before).view.generation + 1) ≠ .settle := by rintro ⟨⟩
    have hcalled := called_of_works htimely hwork hsettle
    exact ⟨hcalled.count_le_one, fun hnext hready =>
      hcalled.count_eq_one_iff (not_spawned_of_not_ready h hnext hwork hsettle hready)⟩
  · have hcalls := calls_apply (w := w) e
    simpa [callers, he] using hcalls
  · rintro task call rest rfl
    obtain ⟨hspawned, hsettle⟩ := timely_of_history h
    exact ⟨hspawned, hsettle, calls_apply (.call task call)⟩
  -- Each call is that of a first turn, and fetches and loads are told apart.
  · have hcallers := callers_of_history h hnext
    refine ⟨hcallers, nodup_callers htimely, ?_⟩
    have hcalls : w.calls = (callers earlier).length := (calls_replay {} earlier).trans (Nat.zero_add _)
    rw [hcalls, hcallers, List.length_map]
    exact length_filter_ne_settle _

/-- The fetch of the first mounting is aborted before its first turn, and that of the second panics. -/
def remountedEarly : List Action :=
  [.mount, .unmount, .mount, .load, .turn 0, .turn 1, .turn 2, .mount]

open World in
theorem calls_of_remountedEarly : let es := history (.ofList [{ outcome := .panicked }]) {} remountedEarly
    es = es ++ [] ∧ Mounting [] 0 ∧ Mounting [.mount, .unmount] 1 ∧ (after es).ready = [] ∧ Forestalled es 0 ∧
      (callers es).count 0 = 0 ∧ (callers es).count 1 = 1 ∧ (after es).calls = 2 ∧ startedOf es Work.isFetch = 1 ∧
      startedOf es Work.isLoad = 1 ∧ (after es).mount.1 = false := by
  intro es
  have hsplit : es = es ++ [] := (List.append_nil es).symm
  have hready : (after es).ready = [] := rfl
  obtain ⟨-, -, -, hfetch, -, -, hcount⟩ := calls_of_history hsplit
  obtain ⟨-, -, hcalls⟩ := hcount rfl
  have hforestalled : Forestalled es 0 := ⟨[.mount], es.drop 2, rfl, rfl, rfl⟩
  have hfirst : (callers es).count 0 ≠ 1 := fun hone =>
    ((hfetch [] (es.drop 1) 0 rfl ⟨rfl, rfl⟩).2 rfl (by rw [hready]; exact List.not_mem_nil)).mp hone hforestalled
  have hmost := (hfetch [] (es.drop 1) 0 rfl ⟨rfl, rfl⟩).1
  have hload : startedOf es Work.isLoad = 1 := rfl
  have hstarted : startedOf es Work.isFetch = 1 := rfl
  refine ⟨hsplit, ⟨rfl, rfl⟩, ⟨rfl, rfl⟩, hready, hforestalled, by omega, rfl, ?_, hstarted, hload, rfl⟩
  rw [hcalls, hstarted, hload]

end ClusterConsole.View
