import ClusterConsole.Proofs.View.Inside
import ClusterConsole.Proofs.View.Settled

/-! # Fetches that an unmounting cancels

An unmounting that finds the handle of a fetch cancels it, wherever it waits: before its first turn, at a gate, or
behind a gate that is open already. Nothing comes of the fetch then. Only a call that unmounts the view itself goes on,
until it would wait, so that a fetch which returns too late has lost its handle before or has unmounted the view. -/

namespace ClusterConsole.View

/-- A task has taken the handle of a fetch. -/
def TookHandle (es : List Effect) (settler task : Nat) : Prop :=
  ∃ earlier later, es = earlier ++ .takeHandle settler :: later ∧ (after earlier).view.handle = some task

namespace World
variable {w : World} {es : List Effect} {task : Nat} {stage : Stage}

theorem hasEnded_eq_false_iff : w.hasEnded task = false ↔ ∀ how, w.stage? task ≠ some (.ended how) := by
  rw [← Bool.not_eq_true, hasEnded_iff, not_exists]

/-- Of a cancelled task nothing comes but its end. -/
structure Cancelled (w : World) (task : Nat) (es : List Effect) : Prop where
  idle : ∀ e ∈ es, e.actor? = some task → e = .finish task .cancelled
  stage : (w.replay es).stage? task = some .aborted ∨ (w.replay es).stage? task = some (.ended .cancelled)

theorem abortFetch_of_handle (hhandle : w.view.handle = some task) :
    w.abortFetch = { w with view := { w.view with handle := none } }.abort task := by
  unfold abortFetch
  rw [hhandle]

theorem stage?_unmount_of_handle (hhandle : w.view.handle = some task) (hstage : w.stage? task = some stage)
    (hruns : ¬stage.Runs) (hended : ∀ how, stage ≠ .ended how) : w.unmount.stage? task = some .aborted := by
  let u : World := { w with view := { w.view with handle := none } }
  have hu : u.stage? task = some stage := hstage
  have haborted : (u.setStage task .aborted).stage? task = some .aborted := stage?_setStage_self .aborted hu
  show w.abortFetch.stage? task = _
  rw [abortFetch_of_handle hhandle, abort, hu]
  cases stage with
  | running number aborted => exact absurd ⟨number, aborted, rfl⟩ hruns
  | ended how => exact absurd rfl (hended how)
  | aborted => exact hu
  | _ => exact haborted

/-- Who unmounts the view from its own call is aborted, and goes on. -/
theorem doomed_of_unmount (hhandle : w.view.handle = some task) (hruns : w.Runs task) :
    w.unmount.isDoomed task = true := by
  obtain ⟨_, hstage, number, aborted, rfl⟩ := hruns
  let u : World := { w with view := { w.view with handle := none } }
  have hu : u.stage? task = some (.running number aborted) := hstage
  have hdoomed : (u.setStage task (.running number true)).stage? task = some (.running number true) :=
    stage?_setStage_self _ hu
  refine isDoomed_iff.mpr ⟨number, ?_⟩
  show w.abortFetch.stage? task = _
  rw [abortFetch_of_handle hhandle, abort, hu]
  exact hdoomed

theorem ended_replay {how : End} (h : w.stage? task = some (.ended how)) (hes : TimelyFrom w es) :
    (w.replay es).stage? task = some (.ended how) := by
  induction es generalizing w with
  | nil => exact h
  | cons e es ih => exact ih (ended_apply h fun hactor => hes.1.ne_ended hactor h) hes.2

theorem cancelled_of_ended (h : w.stage? task = some (.ended .cancelled)) (hes : TimelyFrom w es) :
    w.Cancelled task es where
  idle e he hactor := absurd hactor (actor?_ne_of_ended h hes e he)
  stage := Or.inr (ended_replay h hes)

theorem cancelled_of_aborted (h : w.stage? task = some .aborted) (hes : TimelyFrom w es) : w.Cancelled task es := by
  induction es generalizing w with
  | nil => exact ⟨List.forall_mem_nil _, Or.inl h⟩
  | cons e es ih =>
    obtain ⟨he, hes⟩ := hes
    by_cases hactor : e.actor? = some task
    · obtain rfl := he.of_aborted hactor h
      have hended : (w.finish task .cancelled).stage? task = some (.ended .cancelled) :=
        stage?_setStage_self (w := w) _ h
      obtain ⟨hidle, hstage⟩ := cancelled_of_ended hended hes
      exact ⟨List.forall_mem_cons.mpr ⟨fun _ => rfl, hidle⟩, hstage⟩
    · obtain ⟨stage', hstage', hmoved, -⟩ := stage?_apply h hactor
      obtain rfl : stage' = .aborted := by cases hmoved <;> rfl
      obtain ⟨hidle, hstage⟩ := ih hstage' hes
      exact ⟨List.forall_mem_cons.mpr ⟨fun hself => absurd hself hactor, hidle⟩, hstage⟩

/-! ### Aborted in its own call -/

/-- A task that is aborted in its own call stays in it until it ends. -/
theorem doomed_replay (h : w.isDoomed task = true) (hes : TimelyFrom w es) :
    (w.replay es).isDoomed task = true ∨ (w.replay es).hasEnded task = true := by
  induction es generalizing w with
  | nil => exact Or.inl h
  | cons e es ih =>
    obtain ⟨he, hes⟩ := hes
    obtain ⟨number, hdoomed⟩ := isDoomed_iff.mp h
    by_cases hactor : e.actor? = some task
    · have hfinds := he.finds hactor hdoomed
      have still : ∀ u : World, u.stage? task = w.stage? task → u.isDoomed task = true := fun u hu =>
        isDoomed_iff.mpr ⟨number, hu.trans hdoomed⟩
      -- In its call it comes to a gate, takes its answer to the view, or ends.
      cases e with
      | wait _ rest =>
        cases hactor
        exact ih (still _ ((stage?_await_self rest hdoomed).trans hdoomed.symm)) hes
      | complete _ generation answer => exact ih (still _ (stage?_complete generation answer)) hes
      | loaded _ answer => cases answer <;> exact ih (still _ rfl) hes
      | finish _ how =>
        cases hactor
        have hended : (w.finish task how).stage? task = some (.ended how) := stage?_setStage_self (w := w) _ hdoomed
        exact Or.inr (hasEnded_iff.mpr ⟨how, ended_replay (w := w.finish task how) hended hes⟩)
      | resume _ => obtain ⟨_, _, hreleased⟩ := hfinds; cases hreleased
      | _ => cases hfinds
    · obtain ⟨stage', hstage', hmoved, -⟩ := stage?_apply hdoomed hactor
      obtain rfl : stage' = .running number true := by
        cases hmoved with
        | kept => rfl
        | aborted runs _ => exact absurd ⟨number, true, rfl⟩ runs
      exact ih (isDoomed_iff.mpr ⟨number, hstage'⟩) hes

end World

section
open World
variable {source : Source} {actions : List Action} {before rest : List Effect} {task : Nat}

theorem cancelled_of_unmount (h : history source {} actions = before ++ .unmount :: rest)
    (hhandle : (after before).view.handle = some task) (hended : (after before).hasEnded task = false)
    (hinside : ¬Inside before task) :
    (after (before ++ [.unmount])).stage? task = some .aborted ∧
      (after (before ++ [.unmount])).Cancelled task rest := by
  obtain ⟨generation, hfetch⟩ := fetch_of_handle hhandle
  obtain ⟨stage, hstage⟩ := exists_stage_of_works hfetch
  have hruns : ¬stage.Runs := fun hruns =>
    hinside ((inside_history source {} actions nofun).2 before rest task h ⟨stage, hstage, hruns⟩)
  have hends : ∀ how, stage ≠ .ended how := by
    rintro how rfl
    exact hasEnded_eq_false_iff.mp hended how hstage
  have haborted : (after (before ++ [.unmount])).stage? task = some .aborted := by
    rw [after_concat]
    exact stage?_unmount_of_handle hhandle hstage hruns hends
  exact ⟨haborted, cancelled_of_aborted haborted
    (timelyFrom_of_history (h.trans (List.append_cons before .unmount rest))).2⟩

theorem doomed_of_unmount_inside (h : history source {} actions = before ++ .unmount :: rest)
    (hhandle : (after before).view.handle = some task) (hinside : Inside before task) :
    (after (before ++ [.unmount])).isDoomed task = true := by
  rw [after_concat]
  exact doomed_of_unmount hhandle (runs_of_inside (timelyFrom_of_history h).1 hinside)

/-- A task that has been aborted in its own call ends in the same turn. -/
theorem hasEnded_of_doomed (h : history source {} actions = before ++ rest)
    (hdoomed : (after before).isDoomed task = true) : (run source {} actions).hasEnded task = true := by
  have hrun : run source {} actions = (after before).replay rest := by
    rw [← replay_history, h, replay_append]
    rfl
  rw [hrun]
  refine (doomed_replay hdoomed (timelyFrom_of_history h).2).resolve_left fun hstill => ?_
  -- After a turn no task is in a call, unless it waits there.
  obtain ⟨number, hnumber⟩ := isDoomed_iff.mp hstill
  have hquiet := (inside_history source {} actions nofun).1 task
  rw [replay_history, hrun] at hquiet
  exact hquiet ⟨_, hnumber, _, _, rfl⟩

/-- It ends at the latest at the next gate that it comes to. -/
theorem cancelled_at_gate {earlier later : List Effect} {steps : List Step}
    (h : history source {} actions = before ++ (earlier ++ .wait task steps :: later))
    (hdoomed : (after before).isDoomed task = true) : later.head? = some (.finish task .cancelled) := by
  have hconcluded := concluded_history source {} actions
  rw [h] at hconcluded
  obtain ⟨hearlier, hwait, -⟩ := timelyFrom_append.mp (timelyFrom_of_history h).2
  refine hconcluded.of_append.of_append.1 _ (if_pos ?_)
  refine (doomed_replay hdoomed hearlier).resolve_right fun hended => ?_
  obtain ⟨how, hhow⟩ := hasEnded_iff.mp hended
  exact hwait.ne_ended rfl hhow

/-- A fetch that returns in a later generation has lost its handle to a task that waits for it, or has itself unmounted
    the view. -/
theorem loose_of_stale {generation : Nat} {answer : Except FetchError (List NodeRecord)}
    (h : history source {} actions = before ++ .complete task generation answer :: rest)
    (hstale : (after before).view.generation ≠ generation) :
    (∃ settler, TookHandle before settler task) ∨
      ∃ earlier later, before = earlier ++ .unmount :: later ∧ Inside earlier task := by
  have hwork : (after before).works[task]? = some (.fetch generation) := sound_of_history h
  obtain ⟨start, mid, rfl, hstart, rfl⟩ := mounting_of_fetch hwork
  have hunmount : .unmount ∈ mid := by
    by_contra hmid
    exact hstale (hstart.generation_eq hmid)
  -- The first unmounting since the mounting decides: it finds the handle of the fetch, unless a task has taken that
  -- before.
  obtain ⟨earlier, later, rfl, hfirst⟩ := List.eq_append_cons_of_mem hunmount
  by_cases htaken : ∃ settler, .takeHandle settler ∈ earlier
  · obtain ⟨settler, hmem⟩ := htaken
    obtain ⟨xs, first, ys, rfl, hnone⟩ := exists_first_takeHandle hmem
    have hxs : .unmount ∉ xs := fun hmem => hfirst (List.mem_append_left _ hmem)
    exact Or.inl ⟨first, start ++ .mount :: xs, ys ++ .unmount :: later, by simp, hstart.handle_of_not_taken hxs hnone⟩
  · refine Or.inr ⟨start ++ .mount :: earlier, later, by simp, ?_⟩
    by_contra hinside
    have hhandle := hstart.handle_of_not_taken hfirst fun settler hmem => htaken ⟨settler, hmem⟩
    have hsplit : history source {} actions = (start ++ .mount :: earlier) ++
        .unmount :: (later ++ .complete task ((after start).view.generation + 1) answer :: rest) := by
      rw [h]
      simp
    have hreturns : .complete task ((after start).view.generation + 1) answer ∈
        .unmount :: (later ++ .complete task ((after start).view.generation + 1) answer :: rest) := by simp
    have hended : (after (start ++ .mount :: earlier)).hasEnded task = false := by
      refine hasEnded_eq_false_iff.mpr fun how hhow => ?_
      exact actor?_ne_of_ended hhow (timelyFrom_of_history hsplit).2 _ hreturns rfl
    -- A cancelled fetch would not return.
    have hidle := (cancelled_of_unmount hsplit hhandle hended hinside).2.idle
    cases hidle _ ((List.mem_cons.mp hreturns).resolve_left nofun) rfl

end

end ClusterConsole.View
