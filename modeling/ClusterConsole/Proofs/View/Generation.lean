import Mathlib.Data.List.Induction
import ClusterConsole.Proofs.View.Frame

/-! # Generations and the fetches that belong to them

A mounting or unmounting that takes effect begins a new generation, and nothing else does. The fetch that a
mounting starts carries the generation that begins with it, and keeps it. -/

namespace ClusterConsole.View

/-- Whether an effect begins a new generation: it is a mounting of a view that is not mounted, or an unmounting. -/
def Effect.renews (w : World) : Effect → Bool
  | .mount => !w.view.mounted
  | .unmount => true
  | _ => false

/-- What the tasks that an effect starts are there for. -/
def Effect.newWorks (w : World) : Effect → List Work
  | .mount => if w.view.mounted then [] else [.fetch (w.view.generation + 1)]
  | .settle => [.settle]
  | .load => [.load]
  | _ => []

/-- The task that calls the source in an effect. -/
def Effect.caller? : Effect → Option Nat
  | .call task _ => some task
  | _ => none

/-- The tasks that called the source, by the numbers of their calls. -/
def callers (es : List Effect) : List Nat :=
  es.filterMap Effect.caller?

@[simp] theorem callers_append (es fs : List Effect) : callers (es ++ fs) = callers es ++ callers fs :=
  List.filterMap_append

/-- No task calls the source inside a call. -/
theorem callers_onward (w : World) (task : Nat) (work : Work) (outcome : Outcome (List NodeRecord))
    (steps : List Step) : callers (w.onward task work outcome steps) = [] := by
  refine List.filterMap_eq_nil_iff.mpr fun e he => ?_
  cases World.inCall_of_mem_onward he with
  | answer _ => cases work <;> rfl
  | _ => rfl

/-- What a run lets happen in a world: a call is the one that the source gives next, and a fetch that takes an
    answer to the view does so for its own generation. -/
def Effect.Sound (source : Source) (w : World) : Effect → Prop
  | .call _ asked => asked = source w.calls
  | .complete task generation _ => w.works[task]? = some (.fetch generation)
  | _ => True

namespace World
variable {w : World} {source : Source}

/-! ### Single effects -/

theorem generation_unmount : w.unmount.view.generation = w.view.generation + 1 := by
  obtain ⟨handle, h⟩ := view_abortFetch (w := w)
  simp [unmount, h]

theorem generation_apply (e : Effect) :
    (w.apply e).view.generation = w.view.generation + if e.renews w then 1 else 0 := by
  cases e with
  | mount => cases hm : w.view.mounted <;> simp [apply, mount, Effect.renews, hm, spawn, report]
  | unmount => exact generation_unmount
  | openGate => simp [apply, Effect.renews]
  | call task call => simp [apply, Effect.renews]
  | wait task rest => simp [apply, Effect.renews]
  | resume task => simp [apply, Effect.renews]
  | complete task generation answer =>
    obtain ⟨nodes, sent, log, h⟩ := exists_complete_eq w generation answer
    simp [apply, Effect.renews, h]
  | loaded task answer => cases answer <;> rfl
  | takeHandle task =>
    obtain ⟨handle, h⟩ := view_settle (w := w) task
    simp [apply, Effect.renews, h]
  | join task target => simp [apply, Effect.renews]
  | _ => rfl

theorem works_apply (e : Effect) : (w.apply e).works = w.works ++ e.newWorks w := by
  cases e with
  | mount => cases hm : w.view.mounted <;> simp [apply, mount, Effect.newWorks, hm] <;> rfl
  | loaded task answer => cases answer <;> simp [apply, Effect.newWorks] <;> rfl
  | _ => simp [apply, Effect.newWorks] <;> rfl

theorem calls_apply (e : Effect) : (w.apply e).calls = w.calls + (callers [e]).length := by
  cases e with
  | mount => cases hm : w.view.mounted <;> simp [apply, mount, hm, callers] <;> rfl
  | loaded task answer => cases answer <;> rfl
  | _ => simp [apply, callers, Effect.caller?] <;> rfl

/-- Only a call of the source brings a task into a call, and that is the next one. -/
theorem callOf_apply {e : Effect} {task number : Nat} (h : (w.apply e).callOf task = some number) :
    w.callOf task = some number ∨ (e.caller? = some task ∧ number = w.calls) := by
  cases e with
  | mount =>
    left
    simp only [apply, mount] at h
    split at h
    · exact h
    · have kept := callOf_spawn h
      exact kept
  | unmount => exact Or.inl (callOf_unmount h)
  | settle => exact Or.inl (callOf_spawn h)
  | load => exact Or.inl (callOf_spawn h)
  | openGate => exact Or.inl (callOf_openGate h)
  | call other asked =>
    rcases callOf_beginCall h with kept | ⟨rfl, rfl⟩
    · exact Or.inl kept
    · exact Or.inr ⟨rfl, rfl⟩
  | wait other rest => exact Or.inl (callOf_await h)
  | resume other => exact Or.inl (callOf_resume h)
  | complete other generation answer =>
    obtain ⟨nodes, sent, log, hcomplete⟩ := exists_complete_eq w generation answer
    rw [apply, hcomplete] at h
    exact Or.inl h
  | loaded other answer => cases answer <;> exact Or.inl h
  | takeHandle other => exact Or.inl (callOf_settle h)
  | join other target => exact Or.inl (callOf_join h)
  | finish other how => exact Or.inl (callOf_finish h)
  | _ => exact Or.inl h

/-! ### Effects in turn -/

/-- How many of some effects begin a new generation. -/
def renewals (w : World) : List Effect → Nat
  | [] => 0
  | e :: es => (if e.renews w then 1 else 0) + renewals (w.apply e) es

theorem generation_replay (w : World) (es : List Effect) :
    (w.replay es).view.generation = w.view.generation + renewals w es := by
  induction es generalizing w with
  | nil => rfl
  | cons e es ih =>
    rw [replay_cons, ih, generation_apply, renewals]
    omega

theorem works_prefix_replay (w : World) (es : List Effect) : w.works <+: (w.replay es).works := by
  induction es generalizing w with
  | nil => exact List.prefix_rfl
  | cons e es ih =>
    have step : w.works <+: (w.apply e).works := by
      rw [works_apply]
      exact List.prefix_append _ _
    exact step.trans (ih (w.apply e))

/-- A task stays there for what it was started for. -/
theorem works_replay_of_some {task : Nat} {work : Work} (es : List Effect) (h : w.works[task]? = some work) :
    (w.replay es).works[task]? = some work := by
  obtain ⟨more, hmore⟩ := works_prefix_replay w es
  rw [← hmore]
  exact List.getElem?_append_left (List.getElem?_eq_some_iff.mp h).1 ▸ h

theorem calls_replay (w : World) (es : List Effect) : (w.replay es).calls = w.calls + (callers es).length := by
  induction es generalizing w with
  | nil => rfl
  | cons e es ih =>
    have hsplit : callers (e :: es) = callers [e] ++ callers es := callers_append [e] es
    rw [replay_cons, ih, calls_apply, hsplit, List.length_append]
    omega

/-! ### What a run lets happen -/

/-- Each effect is one that a run lets happen where it comes. -/
def SoundFrom (source : Source) (w : World) : List Effect → Prop
  | [] => True
  | e :: es => e.Sound source w ∧ SoundFrom source (w.apply e) es

theorem soundFrom_append {es fs : List Effect} :
    SoundFrom source w (es ++ fs) ↔ SoundFrom source w es ∧ SoundFrom source (w.replay es) fs := by
  induction es generalizing w with
  | nil => simp [SoundFrom]
  | cons e es ih => simp [SoundFrom, ih, and_assoc]

theorem soundFrom_onward {task : Nat} {work : Work} (outcome : Outcome (List NodeRecord)) (steps : List Step) :
    w.works[task]? = some work → SoundFrom source w (w.onward task work outcome steps) := by
  refine onward_induction (P := fun w es => w.works[task]? = some work → SoundFrom source w es)
    ?_ ?_ ?_ ?_ ?_ ?_ w outcome steps
  · intro w answer h
    refine ⟨?_, trivial, trivial⟩
    cases work <;> first | exact h | trivial
  · exact fun _ _ => ⟨trivial, trivial⟩
  · exact fun _ _ _ _ => ⟨trivial, trivial⟩
  · exact fun _ _ _ _ => ⟨trivial, trivial, trivial⟩
  · exact fun _ _ hes h => ⟨trivial, hes (works_replay_of_some [.mount] h)⟩
  · exact fun _ _ hes h => ⟨trivial, hes (works_replay_of_some [.unmount] h)⟩

theorem Turn.sound {task : Nat} {es : List Effect} (h : Turn source w task es) : SoundFrom source w es := by
  have hworks : ∀ {work : Work} {stage : Stage}, w.tasks[task]? = some ⟨work, stage⟩ →
      w.works[task]? = some work := by
    intro work stage ht
    simp [works, ht]
  cases h with
  | idle _ => trivial
  | call ht _ =>
    exact ⟨rfl, soundFrom_onward _ _ (works_replay_of_some [.call task (source w.calls)] (hworks ht))⟩
  | resume ht => exact ⟨trivial, soundFrom_onward _ _ (works_replay_of_some [.resume task] (hworks ht))⟩
  | _ => exact ⟨trivial, trivial⟩

theorem soundFrom_history (source : Source) (w : World) (actions : List Action) :
    SoundFrom source w (w.history source actions) := by
  refine history_induction (P := SoundFrom source) (fun _ => trivial) ?_ ?_ ?_ w actions
  · exact fun w es fs hes hfs => soundFrom_append.mpr ⟨hes, hfs⟩
  · intro w action haction
    cases action with
    | turn task => exact absurd rfl (haction task)
    | _ => exact ⟨trivial, trivial⟩
  · exact fun w task es _ hturn => ⟨trivial, hturn.sound⟩

/-- An effect of a run is one that the run lets happen in the world before it. -/
theorem sound_of_history {actions : List Action} {before after : List Effect} {e : Effect}
    (h : w.history source actions = before ++ e :: after) : e.Sound source (w.replay before) := by
  have sound := soundFrom_history source w actions
  rw [h] at sound
  exact (soundFrom_append.mp sound).2.1

end World

/-! ### From the start -/

/-- The world after effects from the start. -/
def after (es : List Effect) : World :=
  World.replay {} es

@[simp] theorem after_append (es fs : List Effect) : after (es ++ fs) = (after es).replay fs :=
  World.replay_append {} es fs

theorem after_concat (es : List Effect) (e : Effect) : after (es ++ [e]) = (after es).apply e :=
  after_append es [e]

/-- A mounting that comes after these effects takes effect, and starts the fetch `task`. -/
def Mounting (before : List Effect) (task : Nat) : Prop :=
  (after before).view.mounted = false ∧ (after before).works.length = task

/-- A task that is in a call is the one that made it. -/
theorem caller_of_callOf {es : List Effect} {task number : Nat} (h : (after es).callOf task = some number) :
    (callers es)[number]? = some task := by
  induction es using List.reverseRecOn with
  | nil => simp [after, World.callOf, World.stage?] at h
  | append_singleton es e ih =>
    rw [after_append] at h
    rw [callers_append]
    rcases World.callOf_apply h with kept | ⟨hcaller, rfl⟩
    · have hold := ih kept
      rw [List.getElem?_append_left (List.getElem?_eq_some_iff.mp hold).1, hold]
    · have hcalls : (after es).calls = (callers es).length := by simp [after, World.calls_replay]
      simp [hcalls, callers, hcaller]

/-- A fetch was started by a mounting that took effect, and carries the generation that began with it. -/
theorem mounting_of_fetch {es : List Effect} {task generation : Nat}
    (h : (after es).works[task]? = some (.fetch generation)) :
    ∃ before mid, es = before ++ .mount :: mid ∧ Mounting before task ∧
      generation = (after before).view.generation + 1 := by
  induction es using List.reverseRecOn with
  | nil => simp [after, World.works] at h
  | append_singleton es e ih =>
    have happly : (after (es ++ [e])).works = (after es).works ++ e.newWorks (after es) := by
      rw [after_append]
      exact World.works_apply e
    rw [happly, List.getElem?_append] at h
    split at h
    · obtain ⟨before, mid, rfl, hb, hg⟩ := ih h
      exact ⟨before, mid ++ [e], by simp, hb, hg⟩
    · rename_i hnew
      -- The fetch is new, so that the last effect has started it.
      cases e with
      | mount =>
        cases hm : (after es).view.mounted with
        | true => simp [Effect.newWorks, hm] at h
        | false =>
          simp only [Effect.newWorks, hm, Bool.false_eq_true, ↓reduceIte, List.getElem?_singleton] at h
          split at h
          · rename_i hzero
            cases h
            exact ⟨es, [], rfl, ⟨hm, by omega⟩, rfl⟩
          · cases h
      | settle => simp [Effect.newWorks, List.getElem?_singleton] at h
      | load => simp [Effect.newWorks, List.getElem?_singleton] at h
      | _ => simp [Effect.newWorks] at h

/-- A task that a mounting starts is the fetch of the generation that begins with it. -/
theorem Mounting.works {before : List Effect} {task : Nat} (h : Mounting before task) (more : List Effect) :
    (after (before ++ .mount :: more)).works[task]? = some (.fetch ((after before).view.generation + 1)) := by
  rw [after_append, World.replay_cons]
  apply World.works_replay_of_some
  rw [World.works_apply, Effect.newWorks, h.1]
  simp [← h.2]

end ClusterConsole.View
