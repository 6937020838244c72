import ClusterConsole.Proofs.View.Begun

/-! # Answers that come too late

A fetch whose view has been unmounted since its mounting may still get its answer: someone took its handle, so that
the unmounting could not abort it, or its own call unmounted the view. The answer then finds a later generation.
Two sources that differ only in such an answer give the same run. -/

namespace ClusterConsole.View

/-- The source gives another answer, or another error, in one call, and is the same in all else. -/
structure Source.Swapped (source source' : Source) (number : Nat) : Prop where
  others : ∀ n, n ≠ number → source' n = source n
  steps : (source' number).steps = (source number).steps
  log : (source' number).log = (source number).log
  returns : (source number).outcome ≠ .panicked
  returns' : (source' number).outcome ≠ .panicked

/-- The fetch `task` was started by a mounting, and an unmounting came after that and before the fetch took an answer
    to the view. -/
def Overtaken (es : List Effect) (task : Nat) : Prop :=
  ∃ before mid rest, es = before ++ .mount :: (mid ++ .unmount :: rest) ∧ Mounting before task ∧
    ∀ generation answer, .complete task generation answer ∉ mid

section
variable {es xs ys : List Effect} {task : Nat}

/-- What is done after an unmounting is done in a later generation than that of a fetch started before it. -/
theorem Mounting.generation_lt {before : List Effect} (h : Mounting before task) (mid more : List Effect) :
    (after before).view.generation + 1 < (after (before ++ .mount :: (mid ++ .unmount :: more))).view.generation := by
  rw [after_append, World.generation_replay]
  have hmount : Effect.renews (after before) .mount = true := by simp [Effect.renews, h.1]
  simp only [World.renewals, hmount, ↓reduceIte]
  have hunmount : ∀ w : World, 1 ≤ World.renewals w (mid ++ .unmount :: more) := by
    intro w
    induction mid generalizing w with
    | nil => simp [World.renewals, Effect.renews]
    | cons e mid ih => exact Nat.le_trans (ih _) (Nat.le_add_left _ _)
  have := hunmount ((after before).apply .mount)
  omega

/-- When an overtaken fetch takes its answer to the view, the view is in a later generation. -/
theorem Overtaken.generation_lt {generation : Nat} {answer : Except FetchError (List NodeRecord)}
    (h : Overtaken es task) (hes : es = xs ++ .complete task generation answer :: ys)
    (hwork : (after xs).works[task]? = some (.fetch generation)) : generation < (after xs).view.generation := by
  obtain ⟨before, mid, rest, rfl, hstart, hmid⟩ := h
  rcases before_or_behind (fun heq => by cases heq) hes with ⟨zs, hxs, htail⟩ | ⟨zs, hbefore, -⟩
  · have hfetch := hstart.works zs
    rw [← hxs, hwork] at hfetch
    obtain rfl : generation = (after before).view.generation + 1 := by simpa using hfetch
    rcases before_or_behind (fun heq => by cases heq) htail with ⟨vs, rfl, -⟩ | ⟨vs, hmid', -⟩
    · rw [hxs]
      exact hstart.generation_lt mid vs
    · exact absurd (hmid' ▸ List.mem_append_right zs List.mem_cons_self) (hmid _ answer)
  · -- Before its mounting the task is not there.
    have hlt := (List.getElem?_eq_some_iff.mp hwork).1
    have hle := (World.works_prefix_replay (after xs) (.complete task generation answer :: zs)).length_le
    rw [← after_append, ← hbefore, hstart.2] at hle
    omega

theorem Overtaken.works (h : Overtaken es task) : ∃ generation, (after es).works[task]? = some (.fetch generation) := by
  obtain ⟨before, mid, rest, rfl, hstart, -⟩ := h
  exact ⟨_, hstart.works _⟩

end

namespace World

variable {source source' : Source} {es ys : List Effect} {number task : Nat}

/-- A fetch comes to the same with either outcome when it returns in a later generation. -/
theorem proceed_nil_eq_of_stale {w : World} {generation : Nat} {outcome outcome' : Outcome (List NodeRecord)}
    (hr : outcome ≠ .panicked) (hr' : outcome' ≠ .panicked) (hstale : generation < w.view.generation) :
    w.proceed task (.fetch generation) outcome' [] = w.proceed task (.fetch generation) outcome [] := by
  have hlate : ∀ answer, w.take (.fetch generation) answer = w.report [.staleOutcome] := by
    intro answer
    simp [take, complete, Nat.ne_of_gt hstale]
  cases h : outcome with
  | panicked => exact absurd h hr
  | answered nodes => cases h' : outcome' with
    | panicked => exact absurd h' hr'
    | _ => simp only [proceed, hlate]
  | failed error => cases h' : outcome' with
    | panicked => exact absurd h' hr'
    | _ => simp only [proceed, hlate]

/-- From any of its steps on the call of an overtaken fetch does the same with either outcome. -/
theorem proceed_swapped {w : World} {work : Work} {outcome outcome' : Outcome (List NodeRecord)} {steps : List Step}
    (xs : List Effect) (hr : outcome ≠ .panicked) (hr' : outcome' ≠ .panicked) (overtaken : Overtaken es task)
    (hes : es = xs ++ (w.onward task work outcome steps ++ ys)) (hxs : after xs = w)
    (hwork : w.works[task]? = some work) :
    w.proceed task work outcome' steps = w.proceed task work outcome steps := by
  -- Along the steps, the outcome is not looked at before the last of them.
  induction steps generalizing w xs with
  | nil =>
    obtain ⟨generation, hfetch⟩ := overtaken.works
    obtain rfl : work = .fetch generation := by
      have kept := works_replay_of_some (w.onward task work outcome [] ++ ys) hwork
      rw [← hxs, ← after_append, hxs, ← hes, hfetch] at kept
      exact (Option.some.inj kept).symm
    refine proceed_nil_eq_of_stale hr hr' ?_
    subst hxs
    cases outcome with
    | panicked => exact absurd rfl hr
    | answered nodes => exact overtaken.generation_lt hes hwork
    | failed error => exact overtaken.generation_lt hes hwork
  | cons step rest ih =>
    have hafter : ∀ e, after (xs ++ [e]) = w.apply e := fun e => by rw [after_concat, hxs]
    cases step with
    | wait => rfl
    | mount =>
      refine ih (xs ++ [.mount]) ?_ (hafter _) (works_replay_of_some [.mount] hwork)
      rw [List.append_assoc]
      exact hes
    | unmount =>
      refine ih (xs ++ [.unmount]) ?_ (hafter _) (works_replay_of_some [.unmount] hwork)
      rw [List.append_assoc]
      exact hes

/-- A task that calls the source does the same with either source. -/
theorem call_swapped {w : World} {other : Nat} {work : Work} (xs : List Effect) (swap : source.Swapped source' number)
    (overtaken : Overtaken es task) (hcaller : (callers es)[number]? = some task) (hw : after xs = w)
    (hwork : w.works[other]? = some work)
    (hes : es = xs ++ ((.call other (source w.calls) :: (w.beginCall other (source w.calls)).onward other work
      (source w.calls).outcome (source w.calls).steps) ++ ys)) :
    w.call source' other work = w.call source other work := by
  unfold call
  dsimp only
  by_cases hn : w.calls = number
  -- The next call is the swapped one, and so it is the overtaken fetch that makes it.
  · obtain rfl : other = task := by
      have hlen : (callers xs).length = number := by simpa [← hw, after, calls_replay] using hn
      rw [hes] at hcaller
      simpa [callers, Effect.caller?, ← hlen] using hcaller
    rw [hn] at hes ⊢
    have hbegun : w.beginCall other (source' number) = w.beginCall other (source number) := by
      rw [beginCall, beginCall, swap.log]
    rw [hbegun, swap.steps]
    refine proceed_swapped (xs ++ [.call other (source number)]) swap.returns swap.returns' overtaken
      (by simpa using hes) ?_ (works_replay_of_some [.call other (source number)] hwork)
    rw [after_concat, hw]
    rfl
  · rw [swap.others _ hn]

/-- A turn is the same with either source. -/
theorem poll_swapped {w : World} {other : Nat} (xs : List Effect) (swap : source.Swapped source' number)
    (overtaken : Overtaken es task)
    (hcaller : (callers es)[number]? = some task) (hw : after xs = w)
    (hes : es = xs ++ (w.pollEffects source other ++ ys)) : w.poll source' other = w.poll source other := by
  unfold pollEffects at hes
  unfold poll
  cases ht : w.tasks[other]? with
  | none => rfl
  | some t =>
    obtain ⟨work, stage⟩ := t
    have hwork : w.works[other]? = some work := by simp [works, ht]
    rw [ht] at hes
    cases stage with
    | spawned =>
      cases work with
      | settle => rfl
      | fetch generation => exact call_swapped xs swap overtaken hcaller hw hwork hes
      | load => exact call_swapped xs swap overtaken hcaller hw hwork hes
    | released n rest =>
      show (w.resume other).proceed other work (source' n).outcome rest = _
      by_cases hn : n = number
      -- Who is in the swapped call has made it.
      · subst hn
        obtain rfl : other = task := by
          have hcall : (after xs).callOf other = some n := by simp [hw, callOf, stage?, ht, Stage.call?]
          have hold := caller_of_callOf hcall
          rw [hes, callers_append, List.getElem?_append_left (List.getElem?_eq_some_iff.mp hold).1, hold] at hcaller
          exact Option.some.inj hcaller
        refine proceed_swapped (xs ++ [.resume other]) swap.returns swap.returns' overtaken (by simpa using hes) ?_
          (works_replay_of_some [.resume other] hwork)
        rw [after_concat, hw]
        rfl
      · rw [swap.others n hn]
    | _ => rfl

/-- Which tasks call the source in a turn does not depend on what the source answers. -/
theorem callers_effects (source source' : Source) (w : World) (action : Action) :
    callers (w.effects source' action) = callers (w.effects source action) := by
  cases action with
  | turn other =>
    simp only [effects]
    split
    · exact (turn_pollEffects source' (w.apply (.pick other)) other).callers_eq.trans
        (turn_pollEffects source (w.apply (.pick other)) other).callers_eq.symm
    · rfl
  | _ => rfl

/-- One action is the same with either source. -/
theorem act_swapped {w : World} {action : Action} (xs : List Effect) (swap : source.Swapped source' number)
    (overtaken : Overtaken es task) (hcaller : (callers es)[number]? = some task) (hw : after xs = w)
    (hes : es = xs ++ (w.effects source action ++ ys)) : w.act source' action = w.act source action := by
  cases action with
  | turn other =>
    simp only [act, turn]
    split
    · rename_i hready
      have hturn : es = (xs ++ [.pick other]) ++ ((w.apply (.pick other)).pollEffects source other ++ ys) := by
        rw [hes, effects, if_pos hready]
        simp
      have hpicked : after (xs ++ [.pick other]) = { w with ready := w.ready.erase other } := by
        rw [after_append, hw]
        rfl
      exact poll_swapped _ swap overtaken hcaller hpicked hturn
    · rfl
  | _ => rfl

end World

open World in
/-- The answer of an overtaken fetch is of no consequence. Whatever its call of the source gives in its place, an
    answer or an error, the world is the same after every action: the view, the events sent and received, the tasks
    and the calls of the source. -/
theorem run_eq_of_overtaken {source source' : Source} {actions : List Action} {task number : Nat}
    (swap : source.Swapped source' number) (overtaken : Overtaken (history source {} actions) task)
    (hcaller : (callers (history source {} actions))[number]? = some task) :
    (∀ earlier, earlier <+: actions → run source' {} earlier = run source {} earlier) ∧
      callers (history source' {} actions) = callers (history source {} actions) := by
  have same : ∀ earlier later, earlier ++ later = actions → run source' {} earlier = run source {} earlier ∧
      callers (history source' {} earlier) = callers (history source {} earlier) := by
    intro earlier
    induction earlier using List.reverseRecOn with
    | nil => exact fun _ _ => ⟨rfl, rfl⟩
    | append_singleton earlier action ih =>
      intro later hlater
      obtain ⟨hrun, hcallers⟩ := ih (action :: later) (by simpa using hlater)
      have hsplit : history source {} actions = history source {} earlier ++
          ((run source {} earlier).effects source action ++
            history source ((run source {} earlier).act source action) later) := by
        rw [← hlater, List.append_assoc, history_append]
        rfl
      refine ⟨?_, ?_⟩
      · rw [run_append, run_append, hrun]
        exact act_swapped _ swap overtaken hcaller (replay_history source {} earlier) hsplit
      · rw [history_append, history_append, callers_append, callers_append, hcallers, hrun]
        simp only [history, List.append_nil]
        rw [callers_effects source source']
  refine ⟨?_, (same actions [] (by simp)).2⟩
  rintro earlier ⟨later, h⟩
  exact (same earlier later h).1

/-- A call that waits at its gate for what it gives. -/
def lateCall (outcome : Outcome (List NodeRecord)) : Call :=
  { outcome, gated := true }

/-- A fetch whose handle was taken before the view was unmounted, and that returns after the next mounting. -/
def lateReturn : List Action :=
  [.subscribe, .mount, .turn 0, .settle, .turn 1, .unmount, .mount, .openGate, .turn 0, .turn 2, .turn 1, .drain 0]

open World in
theorem run_lateReturn : let answer := Source.ofList [lateCall (.answered [{ id := .numeric 1 }])]
    let error := Source.ofList [lateCall (.failed (.status 503))]
    answer.Swapped error 0 ∧ Overtaken (history answer {} lateReturn) 0 ∧
      (callers (history answer {} lateReturn))[0]? = some 0 ∧
      run error {} lateReturn = run answer {} lateReturn := by
  intro answer error
  have swap : answer.Swapped error 0 := by
    refine ⟨fun n hn => ?_, rfl, rfl, nofun, nofun⟩
    obtain ⟨n, rfl⟩ := Nat.exists_eq_succ_of_ne_zero hn
    rfl
  have overtaken : Overtaken (history answer {} lateReturn) 0 :=
    ⟨[.subscribe], [.pick 0, .call 0 (answer 0), .wait 0 [], .settle, .pick 1, .takeHandle 1], _, rfl, ⟨rfl, rfl⟩, by simp⟩
  exact ⟨swap, overtaken, rfl, (run_eq_of_overtaken swap overtaken rfl).1 _ List.prefix_rfl⟩

end ClusterConsole.View
