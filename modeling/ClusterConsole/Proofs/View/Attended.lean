import ClusterConsole.Proofs.View.Begun
import ClusterConsole.Proofs.View.Cancelled
import ClusterConsole.Proofs.View.Reported

/-! # Tasks that wait for a fetch

A task that has taken the handle of a fetch cannot be aborted, and it waits until the fetch has ended in some way. From
then on it can go on, and its next turn is its last. It reports nothing, unless the fetch has panicked: then it reports
that, once. -/

namespace ClusterConsole.View

namespace World
variable {w : World} {source : Source} {e : Effect} {es xs ys : List Effect} {settler task : Nat}

/-! ### Waiting -/

/-- A task waits for the end of a fetch, and nobody has its own handle. -/
structure Attends (w : World) (settler task : Nat) : Prop where
  settle : w.works[settler]? = some .settle
  fetch : ∃ generation, w.works[task]? = some (.fetch generation)
  stored : w.Stored
  awaits : w.Awaits settler task

/-- A task is not left waiting for what has ended. -/
def Awake (w : World) (settler task : Nat) : Prop :=
  w.stage? settler = some (.joining task) → w.hasEnded task = true → settler ∈ w.ready

theorem Attends.ne (h : w.Attends settler task) : settler ≠ task := by
  rintro rfl
  obtain ⟨generation, hfetch⟩ := h.fetch
  cases h.settle.symm.trans hfetch

theorem Attends.apply (h : w.Attends settler task) (he : e.Timely w) : (w.apply e).Attends settler task := by
  obtain ⟨generation, hfetch⟩ := h.fetch
  refine ⟨works_replay_of_some [e] h.settle, ⟨generation, works_replay_of_some [e] hfetch⟩, h.stored.apply e,
    h.awaits.apply hfetch h.settle he fun _ hhandle => ?_⟩
  obtain ⟨generation, hown⟩ := h.stored settler hhandle
  cases h.settle.symm.trans hown

theorem Attends.replay (h : w.Attends settler task) (hes : TimelyFrom w es) :
    (w.replay es).Attends settler task := by
  induction es generalizing w with
  | nil => exact h
  | cons e es ih => exact ih (h.apply hes.1) hes.2

theorem Attends.ended_of_ended (h : w.Attends settler task) (hended : w.hasEnded settler = true) :
    w.hasEnded task = true := by
  obtain ⟨how, hhow⟩ := hasEnded_iff.mp hended
  rcases h.awaits with hjoining | ⟨-, htask⟩
  · cases hjoining.symm.trans hhow
  · exact hasEnded_iff.mpr htask

theorem attends_takeHandle (hstored : w.Stored) (he : (Effect.takeHandle settler).Timely w)
    (hhandle : w.view.handle = some task) : (w.apply (.takeHandle settler)).Attends settler task := by
  obtain ⟨generation, hfetch⟩ := hstored task hhandle
  exact ⟨works_replay_of_some [.takeHandle settler] he.2,
    ⟨generation, works_replay_of_some [.takeHandle settler] hfetch⟩, hstored.apply _,
    awaits_takeHandle hfetch he hhandle⟩

/-! ### Looking for the end -/

theorem ended_join {how : End} {stage : Stage} (hsettler : w.stage? settler = some stage)
    (htask : w.stage? task = some (.ended how)) :
    (w.join settler task).stage? settler = some (.ended .finished) := by
  have finished : ∀ u : World, u.stage? settler = some stage →
      (u.finish settler .finished).stage? settler = some (.ended .finished) :=
    fun u hu => stage?_setStage_self (w := u) _ hu
  unfold join
  rw [htask]
  cases how <;> exact finished _ hsettler

/-- What a task that waits finds when it looks whether the other one has ended. -/
structure Looks (w : World) (settler task : Nat) (e : Effect) : Prop where
  actor : e.actor? = some settler
  reports : e.reports w = Stage.reports (w.stage? task)
  kept : (w.apply e).stage? task = w.stage? task
  ends : w.hasEnded task = true → (w.apply e).hasEnded settler = true

theorem looks_join {stage : Stage} (hne : settler ≠ task) (hsettler : w.stage? settler = some stage) :
    w.Looks settler task (.join settler task) where
  actor := rfl
  reports := rfl
  kept := stage?_join_of_ne task hne
  ends hended := by
    obtain ⟨how, htask⟩ := hasEnded_iff.mp hended
    exact hasEnded_iff.mpr ⟨.finished, ended_join hsettler htask⟩

theorem looks_takeHandle (hne : settler ≠ task) (he : (Effect.takeHandle settler).Timely w)
    (hhandle : w.view.handle = some task) : w.Looks settler task (.takeHandle settler) where
  actor := rfl
  reports := by rw [Effect.reports, hhandle]; rfl
  kept := stage?_settle_of_ne hne
  ends hended := by
    obtain ⟨how, htask⟩ := hasEnded_iff.mp hended
    refine hasEnded_iff.mpr ⟨.finished, ?_⟩
    show (w.settle settler).stage? settler = _
    unfold settle
    rw [hhandle]
    exact ended_join (w := { w with view := { w.view with handle := none } }) he.1 htask

/-- Who has just looked does not wait for what has ended. -/
theorem Looks.awake (h : w.Looks settler task e) : (w.apply e).Awake settler task := by
  intro hjoining hended
  have htask : w.hasEnded task = true := by
    obtain ⟨how, hhow⟩ := hasEnded_iff.mp hended
    exact hasEnded_iff.mpr ⟨how, h.kept ▸ hhow⟩
  obtain ⟨how, hhow⟩ := hasEnded_iff.mp (h.ends htask)
  cases hjoining.symm.trans hhow

/-! ### Who is woken -/

theorem mem_joiners (h : w.stage? settler = some (.joining task)) : settler ∈ w.joiners task := by
  obtain ⟨t, ht, -⟩ := Option.map_eq_some_iff.mp h
  exact List.mem_filter.mpr ⟨List.mem_range.mpr (List.getElem?_eq_some_iff.mp ht).1, by simpa using h⟩

theorem mem_ready_finish (how : End) (h : w.stage? settler = some (.joining task)) :
    settler ∈ (w.finish task how).ready :=
  List.mem_append_right _ (mem_joiners h)

theorem mem_ready_join {stage : Stage} (target : Nat) (h : w.stage? settler = some (.joining task))
    (hstage : w.stage? task = some stage) (hended : (w.join task target).hasEnded task = true) :
    settler ∈ (w.join task target).ready := by
  unfold join at hended ⊢
  split at hended
  · exact mem_ready_finish (w := w.report [.taskPanicked]) .finished h
  · exact mem_ready_finish .finished h
  · exact mem_ready_finish .finished h
  · obtain ⟨how, hhow⟩ := hasEnded_iff.mp hended
    cases (stage?_setStage_self _ hstage).symm.trans hhow

/-- Whoever waits for a task is woken by what ends the task. -/
theorem mem_ready_of_actor (h : w.stage? settler = some (.joining task)) (he : e.Timely w)
    (hactor : e.actor? = some task) (hended : (w.apply e).hasEnded task = true) : settler ∈ (w.apply e).ready := by
  obtain ⟨how, hhow⟩ := hasEnded_iff.mp hended
  obtain ⟨stage, hstage, hleaves⟩ := stage?_apply_self he hactor
  obtain rfl : stage = .ended how := Option.some.inj (hstage.symm.trans hhow)
  -- A task ends in its end, or where it finds that there is nothing to wait for.
  cases e with
  | takeHandle _ =>
    cases hactor
    show settler ∈ (w.settle task).ready
    have hended : (w.settle task).hasEnded task = true := hended
    unfold settle at hended ⊢
    split
    · exact mem_ready_finish .finished h
    · rename_i target htarget
      rw [htarget] at hended
      exact mem_ready_join (w := { w with view := { w.view with handle := none } }) target h he.1 hended
  | join _ target =>
    cases hactor
    exact mem_ready_join target h he hended
  | finish _ how =>
    cases hactor
    exact mem_ready_finish how h
  | _ => simp [Effect.Leaves, Stage.Runs] at hleaves

theorem Attends.looks (h : w.Attends settler task) (he : e.Timely w) (hactor : e.actor? = some settler) :
    w.stage? settler = some (.joining task) ∧ e = .join settler task := by
  rcases h.awaits with hjoining | ⟨⟨how, hended⟩, -⟩
  · exact ⟨hjoining, he.of_joining hactor hjoining⟩
  · exact absurd hended (he.ne_ended hactor)

/-- Who can go on when the fetch ends stays so until it is picked. -/
theorem Awake.apply (h : w.Attends settler task) (hawake : w.Awake settler task) (he : e.Timely w)
    (hpick : e ≠ .pick settler) : (w.apply e).Awake settler task := by
  by_cases hactor : e.actor? = some settler
  · obtain ⟨hjoining, rfl⟩ := h.looks he hactor
    exact (looks_join h.ne hjoining).awake
  intro hjoining hended
  have hold : w.stage? settler = some (.joining task) := by
    rcases h.awaits with hold | ⟨⟨how, hsettler⟩, -⟩
    · exact hold
    · cases (ended_apply hsettler hactor).symm.trans hjoining
  by_cases htask : e.actor? = some task
  · exact mem_ready_of_actor hold he htask hended
  -- The fetch has ended before, and the task was woken then.
  have hready : settler ∈ w.ready := by
    refine hawake hold ?_
    obtain ⟨how, hhow⟩ := hasEnded_iff.mp hended
    obtain ⟨generation, hfetch⟩ := h.fetch
    obtain ⟨stage, hstage⟩ := exists_stage_of_works hfetch
    obtain ⟨stage', hstage', hmoved, -⟩ := stage?_apply hstage htask
    obtain rfl : stage' = .ended how := Option.some.inj (hstage'.symm.trans hhow)
    cases hmoved
    exact hasEnded_iff.mpr ⟨how, hstage⟩
  by_cases hother : ∃ other, e = .pick other
  · obtain ⟨other, rfl⟩ := hother
    exact (List.mem_erase_of_ne fun heq => hpick (congrArg Effect.pick heq.symm)).mpr hready
  · exact (ready_prefix_apply fun other heq => hother ⟨other, heq⟩).mem hready

/-! ### Turns -/

/-- A task waits for the end of a fetch, and can go on when the fetch has ended. -/
structure Attended (w : World) (settler task : Nat) : Prop where
  attends : w.Attends settler task
  awake : w.Awake settler task

theorem Attended.replay (h : w.Attended settler task) (hes : TimelyFrom w es) (hpick : .pick settler ∉ es) :
    (w.replay es).Attended settler task := by
  induction es generalizing w with
  | nil => exact h
  | cons e es ih =>
    obtain ⟨hne, hpick⟩ := not_or.mp (mt List.mem_cons.mpr hpick)
    exact ih ⟨h.attends.apply hes.1, h.awake.apply h.attends hes.1 (Ne.symm hne)⟩ hes.2 hpick

theorem pollEffects_of_joining {target : Nat} (h : w.stage? task = some (.joining target)) :
    w.pollEffects source task = [.join task target] := by
  obtain ⟨⟨work, stage⟩, ht, rfl⟩ := Option.map_eq_some_iff.mp h
  rw [pollEffects, ht]

theorem pollEffects_of_ended {how : End} (h : w.stage? task = some (.ended how)) : w.pollEffects source task = [] := by
  obtain ⟨⟨work, stage⟩, ht, rfl⟩ := Option.map_eq_some_iff.mp h
  rw [pollEffects, ht]

/-- In its turn the task looks again, or it has ended already. -/
theorem Attends.attended_pollEffects (h : w.Attends settler task) :
    (w.replay (w.pollEffects source settler)).Attended settler task := by
  rcases h.awaits with hjoining | ⟨⟨how, hended⟩, -⟩
  · have htimely : (Effect.join settler task).Timely w := hjoining
    rw [pollEffects_of_joining hjoining]
    exact ⟨h.apply htimely, (looks_join h.ne hjoining).awake⟩
  · rw [pollEffects_of_ended hended]
    refine ⟨h, fun hjoining => ?_⟩
    cases hjoining.symm.trans hended

theorem Attended.effects (h : w.Attended settler task) (action : Action) :
    (w.replay (w.effects source action)).Attended settler task := by
  have single : ∀ e, e.Timely w → e ≠ .pick settler → (w.replay [e]).Attended settler task :=
    fun e he hne => h.replay ⟨he, trivial⟩ fun hmem => hne (List.mem_singleton.mp hmem).symm
  cases action with
  | turn other =>
    simp only [World.effects]
    split
    · rename_i hready
      have hpicked : (Effect.pick other).Timely w := hready
      have hturn := turn_pollEffects source (w.apply (.pick other)) other
      by_cases hown : other = settler
      · subst hown
        exact (h.attends.apply hpicked).attended_pollEffects
      · have htimely : TimelyFrom w (.pick other :: _) := ⟨hpicked, hturn.timely⟩
        refine h.replay htimely fun hmem => ?_
        rcases List.mem_cons.mp hmem with heq | hmem
        · exact hown (Effect.pick.inj heq).symm
        · exact hturn.ne_pick _ hmem settler rfl
    · exact h
  | _ =>
    refine single _ trivial fun heq => ?_
    cases heq

/-- A task takes the handle in a turn of its own, in which it does nothing else. -/
theorem Turn.takeHandle_of_mem (h : Turn source w task es) (hmem : .takeHandle settler ∈ es) :
    settler = task ∧ es = [.takeHandle task] := by
  have behind : ∀ {e : Effect} {u : World} {work : Work} {outcome : Outcome (List NodeRecord)} {steps : List Step},
      e ∈ u.onward task work outcome steps → e ≠ .takeHandle settler := by
    intro e u work outcome steps he
    cases inCall_of_mem_onward he with
    | answer _ => cases work <;> nofun
    | _ => nofun
  cases h with
  | idle _ => cases hmem
  | takeHandle _ =>
    cases List.mem_singleton.mp hmem
    exact ⟨rfl, rfl⟩
  | call _ _ => exact absurd rfl (behind ((List.mem_cons.mp hmem).resolve_left nofun))
  | resume _ => exact absurd rfl (behind ((List.mem_cons.mp hmem).resolve_left nofun))
  | _ => cases List.mem_singleton.mp hmem

/-- A task that takes the handle of a fetch waits for its end from then on. -/
theorem attended_of_takeHandle {action : Action} (hstored : w.Stored)
    (heffects : w.effects source action = xs ++ .takeHandle settler :: ys)
    (hhandle : (w.replay xs).view.handle = some task) :
    (w.replay (w.effects source action)).Attended settler task := by
  have hmem : .takeHandle settler ∈ w.effects source action :=
    mem_of_eq_append_cons heffects
  cases action with
  | turn other =>
    simp only [World.effects] at heffects hmem ⊢
    split at hmem
    · rename_i hready
      rw [if_pos hready] at heffects ⊢
      have hturn := turn_pollEffects source (w.apply (.pick other)) other
      obtain ⟨rfl, hes⟩ := hturn.takeHandle_of_mem ((List.mem_cons.mp hmem).resolve_left fun heq => by cases heq)
      have htimely := hturn.timely
      rw [hes] at htimely
      rw [hes] at heffects ⊢
      -- Nothing else comes in such a turn, and so it splits right behind the pick.
      obtain rfl : xs = [.pick settler] := by
        cases xs with
        | nil => cases heffects
        | cons x xs =>
          obtain ⟨rfl, htail⟩ := List.cons.inj heffects
          cases xs with
          | nil => rfl
          | cons x xs => simp at htail
      have hattends := attends_takeHandle (hstored.apply _) htimely.1 hhandle
      exact ⟨hattends, (looks_takeHandle hattends.ne htimely.1 hhandle).awake⟩
    · cases hmem
  | _ => cases List.mem_singleton.mp hmem

theorem attended_history (source : Source) (w : World) (actions : List Action) :
    (w.Attended settler task → (w.replay (w.history source actions)).Attended settler task) ∧
      (w.Stored → ∀ xs ys, w.history source actions = xs ++ .takeHandle settler :: ys →
        (w.replay xs).view.handle = some task → (w.replay (w.history source actions)).Attended settler task) := by
  induction actions generalizing w with
  | nil => exact ⟨id, fun _ xs ys hes => by simp [history] at hes⟩
  | cons action actions ih =>
    obtain ⟨hkept, htaken⟩ := ih (w.act source action)
    simp only [history, replay_append, replay_effects]
    refine ⟨fun h => hkept (replay_effects source w action ▸ h.effects action), fun hstored xs ys hes hhandle => ?_⟩
    rcases append_eq_append_cons hes with ⟨zs, hfirst, -⟩ | ⟨zs, rfl, hlater⟩
    · exact hkept (replay_effects source w action ▸ attended_of_takeHandle hstored hfirst hhandle)
    · rw [replay_append, replay_effects] at hhandle
      exact htaken (replay_effects source w action ▸ hstored.replay _) zs ys hlater hhandle

/-! ### The last turn -/

theorem Attended.ended_turn (h : w.Attended settler task) (hended : w.hasEnded task = true)
    (hwaiting : w.hasEnded settler = false) : settler ∈ w.ready ∧ (w.turn source settler).hasEnded settler = true := by
  obtain ⟨how, htask⟩ := hasEnded_iff.mp hended
  have hjoining : w.stage? settler = some (.joining task) := by
    rcases h.attends.awaits with hjoining | ⟨⟨how', hsettler⟩, -⟩
    · exact hjoining
    · exact absurd hsettler (hasEnded_eq_false_iff.mp hwaiting how')
  have hready := h.awake hjoining hended
  refine ⟨hready, hasEnded_iff.mpr ⟨.finished, ?_⟩⟩
  obtain ⟨⟨work, stage⟩, ht, rfl⟩ := Option.map_eq_some_iff.mp hjoining
  have hpoll : w.turn source settler = { w with ready := w.ready.erase settler }.join settler task := by
    rw [turn, if_pos hready, poll]
    simp only [ht]
  rw [hpoll]
  exact ended_join (w := { w with ready := w.ready.erase settler }) hjoining htask

/-! ### What is reported -/

theorem reports_of_not_ended (h : w.hasEnded task = false) : Stage.reports (w.stage? task) = [] := by
  have hnot := hasEnded_eq_false_iff.mp h
  cases hstage : w.stage? task with
  | none => rfl
  | some stage =>
    cases stage with
    | ended how => exact absurd hstage (hnot how)
    | _ => rfl

/-- What a task has reported that waits for a fetch: nothing while it waits, and then what it has found. -/
def told (w : World) (settler task : Nat) : List LogEntry :=
  if w.hasEnded settler then Stage.reports (w.stage? task) else []

theorem told_eq : w.told settler task =
    if w.hasEnded settler = true ∧ w.stage? task = some (.ended .panicked) then [.taskPanicked] else [] := by
  unfold told
  by_cases hended : w.hasEnded settler = true
  · by_cases hpanicked : w.stage? task = some (.ended .panicked)
    · rw [if_pos hended, if_pos ⟨hended, hpanicked⟩, hpanicked]
      rfl
    · rw [if_pos hended, if_neg fun h => hpanicked h.2]
      unfold Stage.reports
      split
      · rename_i hstage
        exact absurd hstage hpanicked
      · rfl
  · rw [if_neg hended, if_neg fun h => hended h.1]

theorem told_of_ended {how : End} (h : w.hasEnded settler = true) (htask : w.stage? task = some (.ended how))
    (hes : TimelyFrom w es) : (w.replay es).told settler task = Stage.reports (w.stage? task) := by
  obtain ⟨how', hsettler⟩ := hasEnded_iff.mp h
  have hended : (w.replay es).hasEnded settler = true := hasEnded_iff.mpr ⟨how', ended_replay hsettler hes⟩
  rw [told, if_pos hended, ended_replay htask hes, htask]

/-- From a look on, what the task reports is what it finds in the end. -/
theorem Looks.entriesBy_cons (h : w.Looks settler task e) (hes : TimelyFrom (w.apply e) es)
    (hwaiting : (w.apply e).Attends settler task)
    (hlater : (w.apply e).stage? settler = some (.joining task) →
      (w.apply e).entriesBy settler es = ((w.apply e).replay es).told settler task) :
    w.entriesBy settler (e :: es) = (w.replay (e :: es)).told settler task := by
  rw [entriesBy_cons_of_actor h.actor, h.reports, replay_cons]
  cases htask : w.hasEnded task with
  | true =>
    obtain ⟨how, hhow⟩ := hasEnded_iff.mp htask
    obtain ⟨how', hsettler⟩ := hasEnded_iff.mp (h.ends htask)
    have hkept : (w.apply e).stage? task = some (.ended how) := h.kept.trans hhow
    rw [told_of_ended (h.ends htask) hkept hes, h.kept, entriesBy_of_idle (actor?_ne_of_ended hsettler hes),
      List.append_nil]
  | false =>
    have hjoining : (w.apply e).stage? settler = some (.joining task) := by
      rcases hwaiting.awaits with hjoining | ⟨-, how, hhow⟩
      · exact hjoining
      · exact absurd (h.kept ▸ hhow) (hasEnded_eq_false_iff.mp htask how)
    rw [reports_of_not_ended htask, hlater hjoining, List.nil_append]

theorem Attends.entriesBy (h : w.Attends settler task) (hjoining : w.stage? settler = some (.joining task))
    (hes : TimelyFrom w es) : w.entriesBy settler es = (w.replay es).told settler task := by
  induction es generalizing w with
  | nil =>
    have hended : w.hasEnded settler = false := hasEnded_eq_false_iff.mpr fun how hhow => by
      cases hjoining.symm.trans hhow
    rw [replay_nil, told, hended]
    rfl
  | cons e es ih =>
    obtain ⟨he, hes⟩ := hes
    have happly := h.apply he
    by_cases hactor : e.actor? = some settler
    · obtain ⟨-, rfl⟩ := h.looks he hactor
      exact (looks_join h.ne hjoining).entriesBy_cons hes happly fun hstill => ih happly hstill hes
    · rw [entriesBy_cons_of_ne hactor]
      refine ih happly ?_ hes
      rcases happly.awaits with hstill | ⟨⟨how, hended⟩, -⟩
      · exact hstill
      · obtain ⟨stage, hstage, hmoved, -⟩ := stage?_apply hjoining hactor
        obtain rfl : stage = .ended how := Option.some.inj (hstage.symm.trans hended)
        cases hmoved

theorem not_spawned_replay {stage : Stage} (h : w.stage? task = some stage) (hbegun : stage ≠ .spawned)
    (hes : TimelyFrom w es) : (w.replay es).stage? task ≠ some .spawned := by
  induction es generalizing w stage with
  | nil => exact fun hspawned => hbegun (Option.some.inj (h.symm.trans hspawned))
  | cons e es ih =>
    obtain ⟨stage', hstage', hbegun'⟩ := begun_apply h hbegun hes.1
    exact ih hstage' hbegun' hes.2

/-- A task that has not had its first turn has not been at work. -/
theorem idle_of_spawned (hes : TimelyFrom w es) (h : (w.replay es).stage? task = some .spawned) :
    ∀ e ∈ es, e.actor? ≠ some task := by
  induction es generalizing w with
  | nil => exact List.forall_mem_nil _
  | cons e es ih =>
    refine List.forall_mem_cons.mpr ⟨fun hactor => ?_, ih hes.2 h⟩
    obtain ⟨stage, hstage, hleaves⟩ := stage?_apply_self hes.1 hactor
    exact not_spawned_replay hstage hleaves.ne_spawned hes.2 h

theorem entriesBy_of_takeHandle (hes : TimelyFrom {} (xs ++ .takeHandle settler :: ys))
    (hhandle : (after xs).view.handle = some task) :
    entriesBy {} settler (xs ++ .takeHandle settler :: ys) =
      (after (xs ++ .takeHandle settler :: ys)).told settler task := by
  obtain ⟨hxs, he, hys⟩ := timelyFrom_append.mp hes
  have hstored : (after xs).Stored := Stored.replay (w := {}) nofun xs
  have hattends := attends_takeHandle hstored he hhandle
  rw [entriesBy_append, entriesBy_of_idle (idle_of_spawned hxs he.1), List.nil_append, after_append]
  exact (looks_takeHandle hattends.ne he hhandle).entriesBy_cons hys hattends fun hjoining =>
    hattends.entriesBy hjoining hys

end World

open World in
/-- How fetches end, and who is told. An unmounting that finds the handle of a fetch which has not ended cancels it,
    unless it comes from inside the fetch's own call: nothing comes of that fetch any more but its end. One that unmounts
    the view itself goes on and ends in the same turn, cancelled if it comes to another gate. So a fetch that returns in
    a later generation, which is what the warning reports, has lost its handle to a task that waits, or has unmounted
    the view itself. Who waits for a fetch ends after it, and does so in its next turn, which it can have at once. It
    reports nothing, but for a panic, which it reports once. -/
theorem ends_of_history (source : Source) (actions : List Action) :
    let es := history source {} actions
    let w := run source {} actions
    (∀ before rest task, es = before ++ .unmount :: rest → (after before).view.handle = some task →
        (after before).hasEnded task = false →
        (¬Inside before task → (after (before ++ [.unmount])).stage? task = some .aborted ∧
          (after (before ++ [.unmount])).Cancelled task rest) ∧
        (Inside before task → (after (before ++ [.unmount])).isDoomed task = true ∧ w.hasEnded task = true ∧
          ∀ earlier steps later, rest = earlier ++ .wait task steps :: later →
            later.head? = some (.finish task .cancelled))) ∧
      (∀ before rest task generation answer, es = before ++ .complete task generation answer :: rest →
        (after before).view.generation ≠ generation → (∃ settler, TookHandle before settler task) ∨
          ∃ earlier later, before = earlier ++ .unmount :: later ∧ Inside earlier task) ∧
      (w.log = (entries {} es).map Prod.snd ∧ ∀ before e rest, es = before ++ e :: rest →
        .staleOutcome ∈ e.reports (after before) → (∃ task call, e = .call task call ∧ .staleOutcome ∈ call.log) ∨
          ∃ task generation answer, e = .complete task generation answer ∧
            (after before).view.generation ≠ generation) ∧
      ∀ settler task, TookHandle es settler task →
        (w.hasEnded settler = true → w.hasEnded task = true) ∧
        (w.hasEnded task = true → w.hasEnded settler = false →
          settler ∈ w.ready ∧ (w.act source (.turn settler)).hasEnded settler = true) ∧
        entriesBy {} settler es = if w.hasEnded settler = true ∧ w.stage? task = some (.ended .panicked) then
          [.taskPanicked] else [] := by
  intro es w
  have hrun : w = after es := (replay_history source {} actions).symm
  refine ⟨?_, fun before rest task generation answer => loose_of_stale, ⟨?_, ?_⟩, ?_⟩
  · intro before rest task h hhandle hended
    refine ⟨cancelled_of_unmount h hhandle hended, fun hinside => ?_⟩
    have hdoomed := doomed_of_unmount_inside h hhandle hinside
    have hsplit : history source {} actions = (before ++ [.unmount]) ++ rest :=
      h.trans (List.append_cons before .unmount rest)
    refine ⟨hdoomed, hasEnded_of_doomed hsplit hdoomed, ?_⟩
    rintro earlier steps later rfl
    exact cancelled_at_gate hsplit hdoomed
  · rw [hrun]
    exact log_replay {} es
  · exact fun before e rest _ => stale_of_reports
  · rintro settler task ⟨earlier, later, hes, hhandle⟩
    -- From the turn in which it took the handle on, the task attends to the fetch.
    have hattended : w.Attended settler task := by
      rw [hrun]
      exact (attended_history source {} actions).2 nofun earlier later hes hhandle
    refine ⟨hattended.attends.ended_of_ended, hattended.ended_turn, ?_⟩
    have htimely : TimelyFrom {} (earlier ++ .takeHandle settler :: later) :=
      timelyFrom_append.mpr (timelyFrom_of_history hes)
    rw [hes, entriesBy_of_takeHandle htimely hhandle, ← hes, ← hrun, told_eq]

/-- A fetch that is cancelled although its gate is open, one that panics while a task waits for it, and two that unmount
    the view themselves: one of them answers then, and the other one comes to a gate. -/
def fourEnds : List Action :=
  [.mount, .turn 0, .openGate, .unmount, .turn 0, .mount, .settle, .turn 2, .turn 1, .turn 2, .unmount, .mount, .turn 3,
    .mount, .turn 4]

open World in
theorem ends_of_fourEnds :
    let source := Source.ofList
      [lateCall (.answered []), { outcome := .panicked }, { outcome := .answered [], during := [.unmount] },
        { outcome := .answered [], during := [.unmount, .wait] }]
    let es := history source {} fourEnds
    (es = es.take 5 ++ .unmount :: es.drop 6 ∧ (after (es.take 5)).view.handle = some 0 ∧
        (after (es.take 5)).stage? 0 = some (.released 0 []) ∧ ¬Inside (es.take 5) 0 ∧
        (after (es.take 5 ++ [.unmount])).Cancelled 0 (es.drop 6)) ∧
      (TookHandle es 2 1 ∧ entriesBy {} 2 es = [.taskPanicked]) ∧
      (es = es.take 22 ++ .complete 3 5 (.ok []) :: es.drop 23 ∧ (after (es.take 22)).view.generation ≠ 5 ∧
        ((∃ settler, TookHandle (es.take 22) settler 3) ∨
          ∃ earlier later, es.take 22 = earlier ++ .unmount :: later ∧ Inside earlier 3)) ∧
      es = es.take 27 ++ .unmount :: es.drop 28 ∧ Inside (es.take 27) 4 ∧ es.drop 28 = .wait 4 [] :: es.drop 29 ∧
        (es.drop 29).head? = some (.finish 4 .cancelled) ∧ (run source {} fourEnds).hasEnded 4 = true := by
  intro source es
  obtain ⟨hunmount, hstale, -, hwaits⟩ := ends_of_history source fourEnds
  have hfirst : es = es.take 5 ++ .unmount :: es.drop 6 := by decide +kernel
  have hhandle : (after (es.take 5)).view.handle = some 0 := by decide +kernel
  have hreleased : (after (es.take 5)).stage? 0 = some (.released 0 []) := by decide +kernel
  have houtside : ¬Inside (es.take 5) 0 := fun hinside => by
    obtain ⟨_, hstage, _, _, rfl⟩ := runs_of_inside (timelyFrom_of_history hfirst).1 hinside
    cases hstage.symm.trans hreleased
  have hcancelled := ((hunmount _ _ 0 hfirst hhandle (by decide +kernel)).1 houtside).2
  have htook : TookHandle es 2 1 := ⟨es.take 11, es.drop 12, by decide +kernel, by decide +kernel⟩
  have hended : (run source {} fourEnds).hasEnded 2 = true ∧
      (run source {} fourEnds).stage? 1 = some (.ended .panicked) := by decide +kernel
  have htold := (hwaits 2 1 htook).2.2
  rw [if_pos hended] at htold
  have hlate : es = es.take 22 ++ .complete 3 5 (.ok []) :: es.drop 23 := by decide +kernel
  have hgeneration : (after (es.take 22)).view.generation ≠ 5 := by decide +kernel
  have hlast : es = es.take 27 ++ .unmount :: es.drop 28 := by decide +kernel
  have hinside : Inside (es.take 27) 4 :=
    ⟨es.take 26, .call 4 (source 3), [], by decide +kernel, rfl, List.forall_mem_nil _⟩
  have hgate : es.drop 28 = .wait 4 [] :: es.drop 29 := by decide +kernel
  obtain ⟨-, hends, hstops⟩ := (hunmount _ _ 4 hlast (by decide +kernel) (by decide +kernel)).2 hinside
  exact ⟨⟨hfirst, hhandle, hreleased, houtside, hcancelled⟩, ⟨htook, htold⟩,
    ⟨hlate, hgeneration, hstale _ _ 3 5 _ hlate hgeneration⟩, hlast, hinside, hgate, hstops [] [] _ hgate, hends⟩

end ClusterConsole.View
