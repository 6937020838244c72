import Mathlib.Data.List.Chain
import ClusterConsole.Proofs.View.Stage

/-! # Tasks that have ended

A task is not at work when it has ended, so that nothing comes of it then. It takes an answer to the view just before
it finishes, and so a task that is cancelled or panics never does, and one that has finished did. A task that is
aborted as it runs ends when it comes to a gate. -/

namespace ClusterConsole.View

/-- The task that takes an answer to the view. -/
def Effect.answers? : Effect → Option Nat
  | .complete task _ _ | .loaded task _ => some task
  | _ => none

/-- What has to come at once behind an effect: a task that has taken its answer to the view finishes, and one that has
    been aborted stops at the next gate. -/
def Effect.demands? (w : World) : Effect → Option Effect
  | .complete task _ _ | .loaded task _ => some (.finish task .finished)
  | .wait task _ => if w.isDoomed task then some (.finish task .cancelled) else none
  | _ => none

theorem Effect.demands?_of_answers? {w : World} {e : Effect} {task : Nat} (h : e.answers? = some task) :
    e.demands? w = some (.finish task .finished) := by
  cases e <;> cases h <;> rfl

namespace World
variable {w : World} {e : Effect} {es fs : List Effect}

/-- Behind each effect comes what has to. -/
def Concluded (w : World) : List Effect → Prop
  | [] => True
  | e :: es => (∀ f, e.demands? w = some f → es.head? = some f) ∧ Concluded (w.apply e) es

theorem Concluded.cons (he : e.demands? w = none) (hes : (w.apply e).Concluded es) : w.Concluded (e :: es) := by
  refine ⟨fun f hf => ?_, hes⟩
  rw [he] at hf
  cases hf

theorem Concluded.append (hes : w.Concluded es) (hfs : (w.replay es).Concluded fs) : w.Concluded (es ++ fs) := by
  induction es generalizing w with
  | nil => exact hfs
  | cons e es ih =>
    refine ⟨fun f hf => ?_, ih hes.2 hfs⟩
    show (es ++ fs).head? = _
    rw [List.head?_append, hes.1 f hf]
    rfl

theorem Concluded.of_append (h : w.Concluded (es ++ fs)) : (w.replay es).Concluded fs := by
  induction es generalizing w with
  | nil => exact h
  | cons e es ih => exact ih h.2

/-- A gate does not change whether the task that comes to it has been aborted. -/
theorem isDoomed_await (w : World) (task : Nat) (rest : List Step) :
    (w.await task rest).isDoomed task = w.isDoomed task := by
  unfold await
  dsimp only
  split
  · rename_i call hrunning
    have hrunning : w.stage? task = some (.running call false) := hrunning
    have hwaiting : ({ w with gates := w.gates ++ [task] }.setStage task (.waiting call rest)).stage? task =
        some (.waiting call rest) := stage?_setStage_self (w := { w with gates := w.gates ++ [task] }) _ hrunning
    rw [isDoomed, isDoomed, hwaiting, hrunning]
  · rfl

theorem concluded_onward (w : World) (task : Nat) (work : Work) (outcome : Outcome (List NodeRecord))
    (steps : List Step) : w.Concluded (w.onward task work outcome steps) := by
  refine onward_induction (P := Concluded) ?_ ?_ ?_ ?_ ?_ ?_ w outcome steps
  · intro w answer
    refine ⟨fun f hf => ?_, .cons rfl trivial⟩
    have hanswers : (Effect.ofAnswer task work answer).answers? = some task := by cases work <;> rfl
    exact (Effect.demands?_of_answers? hanswers).symm.trans hf
  · exact fun _ => .cons rfl trivial
  · intro w rest hnot
    rw [isDoomed_await] at hnot
    exact .cons (if_neg (Bool.eq_false_iff.mp hnot)) trivial
  · intro w rest hdoomed
    rw [isDoomed_await] at hdoomed
    exact ⟨fun f hf => (if_pos hdoomed).symm.trans hf, .cons rfl trivial⟩
  · exact fun _ _ => .cons (e := .mount) rfl
  · exact fun _ _ => .cons (e := .unmount) rfl

end World

/-- Where a task finishes in an effect, the one before takes its answer to the view. -/
def Effect.Heralds (e e' : Effect) : Prop :=
  ∀ task, e' = .finish task .finished → e.answers? = some task

/-- Each task that finishes has just taken an answer to the view. -/
structure Answered (es : List Effect) : Prop where
  chain : es.IsChain Effect.Heralds
  head : ∀ task, es.head? ≠ some (.finish task .finished)

theorem answered_nil : Answered [] :=
  ⟨.nil, nofun⟩

theorem Answered.append {es fs : List Effect} (hes : Answered es) (hfs : Answered fs) : Answered (es ++ fs) := by
  refine ⟨hes.chain.append hfs.chain fun _ _ e' he' task heq => ?_, fun task hhead => ?_⟩
  · exact absurd (heq ▸ he') (hfs.head task)
  · cases es with
    | nil => exact hfs.head task hhead
    | cons e es => exact hes.head task hhead

theorem Answered.cons {e : Effect} {es : List Effect} (he : ∀ task, e ≠ .finish task .finished) (hes : Answered es) :
    Answered (e :: es) :=
  .append ⟨.singleton e, fun task hhead => he task (Option.some.inj hhead)⟩ hes

theorem Answered.exists_of_finish {before rest : List Effect} {task : Nat}
    (h : Answered (before ++ .finish task .finished :: rest)) :
    ∃ earlier e, before = earlier ++ [e] ∧ e.answers? = some task := by
  rcases List.eq_nil_or_concat before with rfl | ⟨earlier, e, rfl⟩
  · exact absurd rfl (h.head task)
  · refine ⟨earlier, e, List.concat_eq_append, ?_⟩
    have hchain := (List.isChain_append.mp h.chain).2.2
    exact hchain e (by simp) _ rfl task rfl

theorem answered_onward (w : World) (task : Nat) (work : Work) (outcome : Outcome (List NodeRecord))
    (steps : List Step) : Answered (w.onward task work outcome steps) := by
  refine World.onward_induction (P := fun _ => Answered) ?_ ?_ ?_ ?_ ?_ ?_ w outcome steps
  · intro _ answer
    refine ⟨List.isChain_pair.mpr fun other hother => ?_, ?_⟩
    · cases hother
      cases work <;> rfl
    · cases work <;> nofun
  · exact fun _ => .cons nofun answered_nil
  · exact fun _ _ _ => .cons nofun answered_nil
  · exact fun _ _ _ => .cons nofun (.cons nofun answered_nil)
  · exact fun _ _ => .cons nofun
  · exact fun _ _ => .cons nofun

namespace World
variable {w : World} {task : Nat} {source : Source}

/-- A task that has ended is not at work again. -/
theorem actor?_ne_of_ended {how : End} {es : List Effect} (h : w.stage? task = some (.ended how))
    (hes : TimelyFrom w es) : ∀ e ∈ es, e.actor? ≠ some task := by
  induction es generalizing w with
  | nil => exact List.forall_mem_nil _
  | cons e es ih =>
    have he : e.actor? ≠ some task := fun hactor => hes.1.ne_ended hactor h
    exact List.forall_mem_cons.mpr ⟨he, ih (ended_apply h he) hes.2⟩

theorem Turn.concluded {es : List Effect} (h : Turn source w task es) : w.Concluded es := by
  cases h with
  | idle _ => trivial
  | call _ _ => exact .cons rfl (concluded_onward _ task _ _ _)
  | resume _ => exact .cons rfl (concluded_onward _ task _ _ _)
  | _ => exact .cons rfl trivial

theorem concluded_history (source : Source) (w : World) (actions : List Action) :
    w.Concluded (w.history source actions) := by
  refine history_induction (P := Concluded) (fun _ => trivial) ?_ ?_ ?_ w actions
  · exact fun _ _ _ => Concluded.append
  · intro w action haction
    cases action with
    | turn task => exact absurd rfl (haction task)
    | _ => exact .cons rfl trivial
  · exact fun w task es _ hturn => .cons rfl hturn.concluded

theorem Turn.answered {es : List Effect} (h : Turn source w task es) : Answered es := by
  cases h with
  | idle _ => exact answered_nil
  | call _ _ => exact .cons nofun (answered_onward _ task _ _ _)
  | resume _ => exact .cons nofun (answered_onward _ task _ _ _)
  | _ => exact .cons nofun answered_nil

theorem answered_history (source : Source) (w : World) (actions : List Action) :
    Answered (w.history source actions) := by
  refine history_induction (P := fun _ => Answered) (fun _ => answered_nil) ?_ ?_ ?_ w actions
  · exact fun _ _ _ => Answered.append
  · intro w action haction
    cases action with
    | turn task => exact absurd rfl (haction task)
    | _ => exact .cons nofun answered_nil
  · exact fun w task es _ hturn => .cons nofun hturn.answered

/-- A task that ends in another way than by finishing takes no answer to the view. -/
theorem answers?_ne_of_finish {actions : List Action} {before rest : List Effect} {how : End}
    (h : w.history source actions = before ++ .finish task how :: rest) (hhow : how ≠ .finished) :
    ∀ e ∈ w.history source actions, e.answers? ≠ some task := by
  have hactor : ∀ e : Effect, e.answers? = some task → e.actor? = some task := by
    intro e he
    cases e <;> first | exact he | cases he
  -- After its end nothing comes of the task.
  have idle : ∀ xs ys how', w.history source actions = xs ++ .finish task how' :: ys →
      ∀ e ∈ ys, e.actor? ≠ some task := by
    intro xs ys how' hsplit
    obtain ⟨-, hfinish, hys⟩ := timelyFrom_of_history hsplit
    obtain ⟨stage, hstage⟩ : ∃ stage, (w.replay xs).stage? task = some stage := by
      cases how' <;> exact hfinish.imp fun _ => And.left
    have hended : (((w.replay xs).finish task how').stage? task) = some (.ended how') := stage?_setStage_self _ hstage
    exact actor?_ne_of_ended hended hys
  intro e he hanswer
  rw [h] at he
  rcases List.mem_append.mp he with hbefore | hrest
  · obtain ⟨xs, ys, rfl⟩ := List.append_of_mem hbefore
    have hconcluded := concluded_history source w actions
    rw [h, List.append_assoc] at hconcluded
    have hnext := hconcluded.of_append.1 _ (Effect.demands?_of_answers? hanswer)
    cases ys with
    | nil => exact hhow (by simpa using hnext)
    | cons next ys =>
      obtain rfl : next = .finish task .finished := by simpa using hnext
      have hidle := idle (xs ++ [e]) (ys ++ .finish task how :: rest) .finished (by simp [h])
      exact hidle (.finish task how) (List.mem_append_right ys List.mem_cons_self) rfl
  · rcases List.mem_cons.mp hrest with rfl | hrest
    · cases hanswer
    · exact idle before rest how h e hrest (hactor e hanswer)

end World
end ClusterConsole.View
