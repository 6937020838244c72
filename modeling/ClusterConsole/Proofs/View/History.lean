import Mathlib.Control.Monad.Basic
import ClusterConsole.View.Run

/-! # Histories of runs

A turn of a task may change the world several times: a call of the source begins, mounts or unmounts the view,
waits, and comes to its answer. An effect is one such change. The history of a run lists its effects in their order, and
the world at any point of the run is the replay of the effects before that point. -/

namespace ClusterConsole.View

/-- One change of the world. -/
inductive Effect where
  | mount
  | unmount
  | settle
  | load
  | succeed (nodes : List NodeRecord)
  | fail (error : FetchError)
  | subscribe
  | drain (subscriber : Nat)
  | openGate
  /-- A task is taken out of those that can go on. -/
  | pick (task : Nat)
  /-- A task calls the source. -/
  | call (task : Nat) (call : Call)
  /-- A task comes to a gate in its call, with the steps that come behind it. -/
  | wait (task : Nat) (rest : List Step)
  /-- A task goes on behind its gate. -/
  | resume (task : Nat)
  /-- The fetch of a generation takes its answer to the view. -/
  | complete (task generation : Nat) (answer : Except FetchError (List NodeRecord))
  /-- A fetch of no generation takes its answer to the view. -/
  | loaded (task : Nat) (answer : Except FetchError (List NodeRecord))
  /-- A task takes the handle of the fetch. -/
  | takeHandle (task : Nat)
  | join (task target : Nat)
  | finish (task : Nat) (how : End)
deriving DecidableEq

/-! ### Where effects stand -/

section
variable {es fs xs ys : List Effect} {e f : Effect}

/-- Where an effect stands in what follows one another. -/
theorem append_eq_append_cons (h : es ++ fs = xs ++ e :: ys) :
    (∃ zs, es = xs ++ e :: zs ∧ ys = zs ++ fs) ∨ ∃ zs, xs = es ++ zs ∧ fs = zs ++ e :: ys := by
  rcases List.append_eq_append_iff.mp h with hlater | ⟨zs, rfl, htail⟩
  · exact Or.inr hlater
  · cases zs with
    | nil => exact Or.inr ⟨[], by simp, htail.symm⟩
    | cons z zs =>
      obtain ⟨rfl, rfl⟩ := List.cons.inj htail
      exact Or.inl ⟨zs, rfl, rfl⟩

theorem mem_of_eq_append_cons (h : es = xs ++ e :: ys) : e ∈ es :=
  h ▸ List.mem_append_right xs List.mem_cons_self

/-- Of two effects in one history one comes before the other. -/
theorem before_or_behind {us vs : List Effect} (hne : e ≠ f) (h : xs ++ e :: ys = us ++ f :: vs) :
    (∃ zs, us = xs ++ e :: zs ∧ ys = zs ++ f :: vs) ∨ ∃ zs, xs = us ++ f :: zs ∧ vs = zs ++ e :: ys := by
  rcases append_eq_append_cons h with hbehind | ⟨zs, rfl, htail⟩
  · exact Or.inr hbehind
  · cases zs with
    | nil => exact absurd (List.cons.inj htail).1 hne
    | cons z zs =>
      obtain ⟨rfl, rfl⟩ := List.cons.inj htail
      exact Or.inl ⟨zs, rfl, rfl⟩

end

/-! ### Replaying -/

namespace World

/-- The world after an effect. -/
def apply (w : World) : Effect → World
  | .mount => w.mount.2
  | .unmount => w.unmount
  | .settle => w.spawn .settle
  | .load => w.spawn .load
  | .succeed nodes => w.succeed nodes
  | .fail error => w.fail error
  | .subscribe => { w with broadcast := w.broadcast.subscribe }
  | .drain subscriber => { w with broadcast := (w.broadcast.drain subscriber).2 }
  | .openGate => w.openGate
  | .pick task => { w with ready := w.ready.erase task }
  | .call task call => w.beginCall task call
  | .wait task rest => w.await task rest
  | .resume task => w.resume task
  | .complete _ generation answer => w.complete generation answer
  | .loaded _ (.ok nodes) => w.succeed nodes
  | .loaded _ (.error error) => w.fail error
  | .takeHandle task => w.settle task
  | .join task target => w.join task target
  | .finish task how => w.finish task how

/-- The world after effects. -/
def replay (w : World) (effects : List Effect) : World :=
  effects.foldl apply w

@[simp] theorem replay_nil (w : World) : w.replay [] = w := rfl

@[simp] theorem replay_cons (w : World) (e : Effect) (es : List Effect) : w.replay (e :: es) = (w.apply e).replay es :=
  rfl

@[simp] theorem replay_append (w : World) (es fs : List Effect) : w.replay (es ++ fs) = (w.replay es).replay fs :=
  List.foldl_append

end World

/-! ### What a turn consists of -/

/-- The answer of the source for a task, as an effect. -/
def Effect.ofAnswer (task : Nat) (work : Work) (answer : Except FetchError (List NodeRecord)) : Effect :=
  match work with
  | .fetch generation => .complete task generation answer
  | _ => .loaded task answer

/-- What ends a call and its task. -/
def ending (task : Nat) (work : Work) : Outcome (List NodeRecord) → List Effect
  | .answered nodes => [.ofAnswer task work (.ok nodes), .finish task .finished]
  | .failed error => [.ofAnswer task work (.error error), .finish task .finished]
  | .panicked => [.finish task .panicked]

/-- What may come in a call of a task. -/
inductive Effect.InCall (task : Nat) (work : Work) : Effect → Prop
  | mount : InCall task work .mount
  | unmount : InCall task work .unmount
  | wait (rest : List Step) : InCall task work (.wait task rest)
  | answer (answer : Except FetchError (List NodeRecord)) : InCall task work (.ofAnswer task work answer)
  | finish (how : End) : InCall task work (.finish task how)

namespace World

/-- What a call does through its steps, until its task waits or ends. -/
def onward (w : World) (task : Nat) (work : Work) (outcome : Outcome (List NodeRecord)) : List Step → List Effect
  | [] => ending task work outcome
  | .wait :: rest => .wait task rest :: if (w.await task rest).isDoomed task then [.finish task .cancelled] else []
  | .mount :: rest => .mount :: onward w.mount.2 task work outcome rest
  | .unmount :: rest => .unmount :: onward w.unmount task work outcome rest

/-- What holds of each way in which a call comes to its outcome or to a gate, and is kept by what the call does to the
    view before that, holds of all that a call does until its task waits or ends. -/
theorem onward_induction {task : Nat} {work : Work} {P : World → List Effect → Prop}
    (answers : ∀ w answer, P w [.ofAnswer task work answer, .finish task .finished])
    (panics : ∀ w, P w [.finish task .panicked])
    (waits : ∀ w rest, (w.await task rest).isDoomed task = false → P w [.wait task rest])
    (stops : ∀ w rest, (w.await task rest).isDoomed task = true → P w [.wait task rest, .finish task .cancelled])
    (mounts : ∀ w es, P w.mount.2 es → P w (.mount :: es))
    (unmounts : ∀ w es, P w.unmount es → P w (.unmount :: es))
    (w : World) (outcome : Outcome (List NodeRecord)) (steps : List Step) :
    P w (w.onward task work outcome steps) := by
  induction steps generalizing w with
  | nil =>
    cases outcome with
    | answered nodes => exact answers w (.ok nodes)
    | failed error => exact answers w (.error error)
    | panicked => exact panics w
  | cons step rest ih =>
    cases step with
    | wait =>
      rw [onward]
      split
      · exact stops w rest ‹_›
      · exact waits w rest (Bool.eq_false_iff.mpr ‹_›)
    | mount => exact mounts w _ (ih w.mount.2)
    | unmount => exact unmounts w _ (ih w.unmount)

/-- In a call nothing comes but what it does to the view, its gates, its answer, and the end of its task. -/
theorem inCall_of_mem_onward {w : World} {task : Nat} {work : Work} {outcome : Outcome (List NodeRecord)}
    {steps : List Step} {e : Effect} (h : e ∈ w.onward task work outcome steps) : e.InCall task work := by
  refine onward_induction (P := fun _ es => ∀ e ∈ es, e.InCall task work) ?_ ?_ ?_ ?_ ?_ ?_ w outcome steps e h
  · exact fun _ answer => List.forall_mem_cons.mpr ⟨.answer answer, List.forall_mem_singleton.mpr (.finish .finished)⟩
  · exact fun _ => List.forall_mem_singleton.mpr (.finish .panicked)
  · exact fun _ rest _ => List.forall_mem_singleton.mpr (.wait rest)
  · exact fun _ rest _ => List.forall_mem_cons.mpr ⟨.wait rest, List.forall_mem_singleton.mpr (.finish .cancelled)⟩
  · exact fun _ _ hes => List.forall_mem_cons.mpr ⟨.mount, hes⟩
  · exact fun _ _ hes => List.forall_mem_cons.mpr ⟨.unmount, hes⟩

/-- The effects of a turn, after the task has been picked. -/
def pollEffects (source : Source) (w : World) (task : Nat) : List Effect :=
  match w.tasks[task]? with
  | none => []
  | some ⟨work, stage⟩ =>
    match stage with
    | .spawned =>
      match work with
      | .settle => [.takeHandle task]
      | work =>
        let call := source w.calls
        .call task call :: (w.beginCall task call).onward task work call.outcome call.steps
    | .released number rest => .resume task :: (w.resume task).onward task work (source number).outcome rest
    | .joining target => [.join task target]
    | .aborted => [.finish task .cancelled]
    | .running _ _ | .waiting _ _ | .ended _ => []

/-- The effects of an action. -/
def effects (source : Source) (w : World) : Action → List Effect
  | .mount => [.mount]
  | .unmount => [.unmount]
  | .settle => [.settle]
  | .load => [.load]
  | .succeed nodes => [.succeed nodes]
  | .fail error => [.fail error]
  | .subscribe => [.subscribe]
  | .drain subscriber => [.drain subscriber]
  | .openGate => [.openGate]
  | .turn task => if task ∈ w.ready then .pick task :: (w.apply (.pick task)).pollEffects source task else []

/-- The effects of a run. -/
def history (source : Source) (w : World) : List Action → List Effect
  | [] => []
  | action :: actions => w.effects source action ++ history source (w.act source action) actions

/-- What a task does in its turn, by the stage at which it has it. -/
inductive Turn (source : Source) (w : World) (task : Nat) : List Effect → Prop
  | idle (h : w.stage? task ≠ some .spawned) : Turn source w task []
  | takeHandle (h : w.tasks[task]? = some ⟨.settle, .spawned⟩) : Turn source w task [.takeHandle task]
  | call {work : Work} (h : w.tasks[task]? = some ⟨work, .spawned⟩) (hwork : work ≠ .settle) :
      Turn source w task (.call task (source w.calls) ::
        (w.apply (.call task (source w.calls))).onward task work (source w.calls).outcome (source w.calls).steps)
  | resume {work : Work} {number : Nat} {rest : List Step} (h : w.tasks[task]? = some ⟨work, .released number rest⟩) :
      Turn source w task (.resume task :: (w.apply (.resume task)).onward task work (source number).outcome rest)
  | join {work : Work} {target : Nat} (h : w.tasks[task]? = some ⟨work, .joining target⟩) :
      Turn source w task [.join task target]
  | cancel {work : Work} (h : w.tasks[task]? = some ⟨work, .aborted⟩) : Turn source w task [.finish task .cancelled]

theorem turn_pollEffects (source : Source) (w : World) (task : Nat) :
    Turn source w task (w.pollEffects source task) := by
  unfold pollEffects
  cases ht : w.tasks[task]? with
  | none => exact .idle (by simp [stage?, ht])
  | some t =>
    obtain ⟨work, stage⟩ := t
    cases stage with
    | spawned =>
      cases work with
      | settle => exact .takeHandle ht
      | fetch generation => exact .call ht nofun
      | load => exact .call ht nofun
    | released number rest => exact .resume ht
    | joining target => exact .join ht
    | aborted => exact .cancel ht
    | _ => exact .idle (by simp [stage?, ht])

@[simp] theorem apply_ofAnswer (w : World) (task : Nat) (work : Work) (answer : Except FetchError (List NodeRecord)) :
    w.apply (.ofAnswer task work answer) = w.take work answer := by
  cases work <;> cases answer <;> rfl

theorem replay_onward (w : World) (task : Nat) (work : Work) (outcome : Outcome (List NodeRecord)) (steps : List Step) :
    w.replay (w.onward task work outcome steps) = w.proceed task work outcome steps := by
  induction steps generalizing w with
  | nil =>
    cases outcome with
    | answered nodes => rw [onward, ending, replay_cons, apply_ofAnswer]; rfl
    | failed error => rw [onward, ending, replay_cons, apply_ofAnswer]; rfl
    | panicked => rfl
  | cons step rest ih =>
    cases step with
    | wait =>
      rw [onward, proceed, replay_cons]
      dsimp only [apply]
      split <;> rfl
    | mount => exact ih w.mount.2
    | unmount => exact ih w.unmount

theorem replay_pollEffects (source : Source) (w : World) (task : Nat) :
    w.replay (w.pollEffects source task) = w.poll source task := by
  unfold pollEffects poll
  rcases w.tasks[task]? with - | ⟨work, stage⟩
  · rfl
  · cases stage with
    | spawned =>
      cases work with
      | settle => rfl
      | fetch generation => exact replay_onward (w.beginCall task (source w.calls)) task _ _ _
      | load => exact replay_onward (w.beginCall task (source w.calls)) task _ _ _
    | released number rest => exact replay_onward (w.resume task) task work (source number).outcome rest
    | _ => rfl

/-- An action does to the world what its effects do in turn. -/
theorem replay_effects (source : Source) (w : World) (action : Action) :
    w.replay (w.effects source action) = w.act source action := by
  cases action with
  | turn task =>
    simp only [effects, act, turn]
    split
    · exact replay_pollEffects source { w with ready := w.ready.erase task } task
    · rfl
  | _ => rfl

theorem run_append (source : Source) (w : World) (before after : List Action) :
    w.run source (before ++ after) = (w.run source before).run source after :=
  List.foldl_append

theorem history_append (source : Source) (w : World) (before after : List Action) :
    w.history source (before ++ after) = w.history source before ++ (w.run source before).history source after := by
  induction before generalizing w with
  | nil => rfl
  | cons action before ih => simp [history, ih, run]

/-- What holds of every request and of every turn holds of a run, when it holds of effects that follow each other. -/
theorem history_induction {source : Source} {P : World → List Effect → Prop} (nil : ∀ w, P w [])
    (append : ∀ w es fs, P w es → P (w.replay es) fs → P w (es ++ fs))
    (request : ∀ w action, (∀ task, action ≠ .turn task) → P w (w.effects source action))
    (turn : ∀ w task es, task ∈ w.ready → Turn source (w.apply (.pick task)) task es → P w (.pick task :: es))
    (w : World) (actions : List Action) : P w (w.history source actions) := by
  induction actions generalizing w with
  | nil => exact nil w
  | cons action actions ih =>
    refine append w _ _ ?_ ?_
    · cases action with
      | turn task =>
        simp only [effects]
        split
        · rename_i hready
          exact turn w task _ hready (turn_pollEffects source (w.apply (.pick task)) task)
        · exact nil w
      | _ => exact request w _ nofun
    · rw [replay_effects]
      exact ih _

/-- A run is the replay of its history. -/
theorem replay_history (source : Source) (w : World) (actions : List Action) :
    w.replay (w.history source actions) = w.run source actions := by
  induction actions generalizing w with
  | nil => rfl
  | cons action actions ih =>
    rw [history, replay_append, replay_effects, ih]
    rfl

end World

end ClusterConsole.View
