import ClusterConsole.Proofs.View.Ended
import ClusterConsole.Proofs.View.Unmounted

/-! # Waiting for the end of a fetch

The first task that waits for the fetch of a mounting takes its handle, and goes on only when the fetch is over. A
later one finds no handle and goes on at once, whether the fetch is over or not. -/

namespace ClusterConsole.View

/-- The fetch `task` is over: it has taken its answer to the view, where the answer counted, or it has panicked. -/
def Over (es : List Effect) (task : Nat) : Prop :=
  ((after es).stage? task = some (.ended .finished) ∧ ∃ earlier later generation answer,
      es = earlier ++ .complete task generation answer :: later ∧ (after earlier).view.generation = generation) ∨
    (after es).stage? task = some (.ended .panicked)

/-- At this stage a task has not been aborted, and does not wait for another one. -/
def Stage.Undisturbed (stage : Stage) : Prop :=
  ¬stage.IsAborted ∧ stage ≠ .ended .cancelled ∧ ∀ target, stage ≠ .joining target

namespace World
variable {w : World} {task settler generation : Nat} {e : Effect} {es : List Effect}

theorem hasEnded_iff : w.hasEnded task = true ↔ ∃ how, w.stage? task = some (.ended how) := by
  unfold hasEnded
  split
  · rename_i how hhow
    exact ⟨fun _ => ⟨how, hhow⟩, fun _ => rfl⟩
  · rename_i hnone
    exact ⟨nofun, fun ⟨how, hhow⟩ => absurd hhow (hnone how)⟩

/-! ### The fetch -/

theorem undisturbed_apply_self {stage : Stage} (hwork : w.works[task]? = some (.fetch generation))
    (hstage : w.stage? task = some stage) (h : stage.Undisturbed) (he : e.Timely w) (hactor : e.actor? = some task) :
    ∃ stage', (w.apply e).stage? task = some stage' ∧ stage'.Undisturbed ∧
      ∀ how, stage' = .ended how → stage = .ended how ∨ e = .finish task how := by
  obtain ⟨haborted, hcancelled, hjoining⟩ := h
  obtain ⟨stage', hstage', hleaves⟩ := stage?_apply_self he hactor
  cases e with
  | call _ _ =>
    obtain ⟨number, rfl⟩ := hleaves
    exact ⟨_, hstage', ⟨nofun, nofun, nofun⟩, nofun⟩
  | wait _ rest =>
    cases hactor
    obtain ⟨_, hrunning, number, aborted, rfl⟩ := he
    obtain rfl := Option.some.inj (hstage.symm.trans hrunning)
    cases aborted with
    | true => exact absurd (Or.inr ⟨number, rfl⟩) haborted
    | false => exact ⟨_, stage?_await_self rest hrunning, ⟨nofun, nofun, nofun⟩, nofun⟩
  | resume _ =>
    obtain ⟨number, rfl⟩ := hleaves
    exact ⟨_, hstage', ⟨nofun, nofun, nofun⟩, nofun⟩
  | complete _ generation answer =>
    exact ⟨stage, (stage?_complete generation answer).trans hstage, ⟨haborted, hcancelled, hjoining⟩, fun _ => Or.inl⟩
  | loaded _ answer => cases answer <;> exact ⟨stage, hstage, ⟨haborted, hcancelled, hjoining⟩, fun _ => Or.inl⟩
  -- A fetch neither takes a handle nor waits for another task.
  | takeHandle _ =>
    cases hactor
    cases hwork.symm.trans he.2
  | join _ target =>
    cases hactor
    exact absurd (Option.some.inj (hstage.symm.trans he)) (hjoining target)
  | finish _ how =>
    cases hactor
    cases hleaves
    refine ⟨_, hstage', ⟨nofun, ?_, nofun⟩, ?_⟩
    · rintro ⟨⟩
      obtain ⟨_, hfound, hfinds⟩ := he
      exact haborted (Option.some.inj (hstage.symm.trans hfound) ▸ hfinds)
    · rintro _ ⟨⟩
      exact Or.inr rfl
  | _ => cases hactor

theorem undisturbed_apply {stage : Stage} (hwork : w.works[task]? = some (.fetch generation))
    (hstage : w.stage? task = some stage) (h : stage.Undisturbed) (he : e.Timely w) (hne : e ≠ .unmount) :
    ∃ stage', (w.apply e).stage? task = some stage' ∧ stage'.Undisturbed ∧
      ∀ how, stage' = .ended how → stage = .ended how ∨ e = .finish task how := by
  by_cases hactor : e.actor? = some task
  · exact undisturbed_apply_self hwork hstage h he hactor
  obtain ⟨stage', hstage', hmoved, hcause⟩ := stage?_apply hstage hactor
  have hfree : ¬stage'.IsAborted := fun habort => (hcause habort).elim h.1 fun hcause => hne hcause.1
  refine ⟨stage', hstage', ?_⟩
  cases hmoved with
  | kept => exact ⟨h, fun _ => Or.inl⟩
  | released => exact ⟨⟨nofun, nofun, nofun⟩, nofun⟩
  | aborted => exact absurd (Or.inl rfl) hfree
  | doomed call => exact absurd (Or.inr ⟨call, rfl⟩) hfree

theorem undisturbed_replay {stage : Stage} (hwork : w.works[task]? = some (.fetch generation))
    (hstage : w.stage? task = some stage) (h : stage.Undisturbed) (hes : TimelyFrom w es) (hunmount : .unmount ∉ es) :
    ∃ stage', (w.replay es).stage? task = some stage' ∧ stage'.Undisturbed ∧
      ∀ how, stage' = .ended how → stage = .ended how ∨ .finish task how ∈ es := by
  induction es generalizing w stage with
  | nil => exact ⟨stage, hstage, h, fun _ => Or.inl⟩
  | cons e es ih =>
    obtain ⟨hne, hunmount⟩ : .unmount ≠ e ∧ .unmount ∉ es := by simpa using hunmount
    obtain ⟨between, hbetween, h, hends⟩ := undisturbed_apply hwork hstage h hes.1 (Ne.symm hne)
    obtain ⟨stage', hstage', h', hends'⟩ := ih (works_replay_of_some [e] hwork) hbetween h hes.2 hunmount
    refine ⟨stage', hstage', h', fun how hhow => ?_⟩
    rcases hends' how hhow with hearlier | hlater
    · rcases hends how hearlier with hearlier | rfl
      · exact Or.inl hearlier
      · exact Or.inr List.mem_cons_self
    · exact Or.inr (List.mem_cons_of_mem e hlater)

/-! ### The task that waits -/

/-- A task waits for the end of another one, and has not gone on before that. -/
def Awaits (w : World) (settler task : Nat) : Prop :=
  w.stage? settler = some (.joining task) ∨
    (∃ how, w.stage? settler = some (.ended how)) ∧ ∃ how, w.stage? task = some (.ended how)

theorem awaits_join {stage stage' : Stage} (hne : settler ≠ task) (hsettler : w.stage? settler = some stage)
    (htask : w.stage? task = some stage') : (w.join settler task).Awaits settler task := by
  have finished : ∀ u : World, u.stage? settler = some stage → u.stage? task = some stage' →
      (∃ how, stage' = .ended how) → (u.finish settler .finished).Awaits settler task := by
    rintro u hsettler' htask' ⟨how, rfl⟩
    exact Or.inr ⟨⟨.finished, stage?_setStage_self (w := u) _ hsettler'⟩,
      ⟨how, (stage?_setStage_of_ne (w := u) _ hne).trans htask'⟩⟩
  unfold join
  rw [htask]
  cases stage' with
  | ended how => cases how <;> exact finished _ hsettler htask ⟨_, rfl⟩
  | _ => exact Or.inl (stage?_setStage_self _ hsettler)

theorem Awaits.apply (h : w.Awaits settler task) (hwork : w.works[task]? = some (.fetch generation))
    (hsettler : w.works[settler]? = some .settle) (he : e.Timely w)
    (hkept : e = .unmount → w.view.handle ≠ some settler) : (w.apply e).Awaits settler task := by
  have hother : settler ≠ task := by
    rintro rfl
    cases hwork.symm.trans hsettler
  rcases h with hjoining | ⟨⟨how, hended⟩, ⟨how', hended'⟩⟩
  · by_cases hactor : e.actor? = some settler
    · obtain rfl := he.of_joining hactor hjoining
      obtain ⟨stage', htask⟩ := exists_stage_of_works hwork
      exact awaits_join hother hjoining htask
    · obtain ⟨stage', hstage', hmoved, hcause⟩ := stage?_apply hjoining hactor
      cases hmoved with
      | kept => exact Or.inl hstage'
      | aborted =>
        rcases hcause (Or.inl rfl) with hold | ⟨hunmount, hhandle⟩
        · exact absurd hold nofun
        · exact absurd hhandle (hkept hunmount)
  · have still : ∀ {other : Nat} {how : End}, w.stage? other = some (.ended how) →
        (w.apply e).stage? other = some (.ended how) := fun hstage =>
      ended_apply hstage fun hactor => he.ne_ended hactor hstage
    exact Or.inr ⟨⟨how, still hended⟩, ⟨how', still hended'⟩⟩

theorem Awaits.replay (h : w.Awaits settler task) (hwork : w.works[task]? = some (.fetch generation))
    (hsettler : w.works[settler]? = some .settle) (hes : TimelyFrom w es) (hunmount : .unmount ∉ es) :
    (w.replay es).Awaits settler task := by
  induction es generalizing w with
  | nil => exact h
  | cons e es ih =>
    obtain ⟨hne, hunmount⟩ : .unmount ≠ e ∧ .unmount ∉ es := by simpa using hunmount
    exact ih (h.apply hwork hsettler hes.1 fun heq => absurd heq.symm hne) (works_replay_of_some [e] hwork)
      (works_replay_of_some [e] hsettler) hes.2 hunmount

/-- A task that takes the handle of a fetch waits for its end. -/
theorem awaits_takeHandle (hwork : w.works[task]? = some (.fetch generation))
    (he : (Effect.takeHandle settler).Timely w) (hhandle : w.view.handle = some task) :
    (w.apply (.takeHandle settler)).Awaits settler task := by
  obtain ⟨hspawned, hsettler⟩ := he
  have hother : settler ≠ task := by
    rintro rfl
    cases hwork.symm.trans hsettler
  obtain ⟨stage, hstage⟩ := exists_stage_of_works hwork
  show (w.settle settler).Awaits settler task
  unfold settle
  rw [hhandle]
  exact awaits_join (w := { w with view := { w.view with handle := none } }) hother hspawned hstage

/-- Without a handle there is nothing to wait for. -/
theorem ended_takeHandle_of_none (he : (Effect.takeHandle settler).Timely w) (hhandle : w.view.handle = none) :
    (w.apply (.takeHandle settler)).stage? settler = some (.ended .finished) := by
  show (w.settle settler).stage? settler = _
  unfold settle
  rw [hhandle]
  exact stage?_setStage_self (w := w) _ he.1

end World

/-! ### From a mounting on -/

section
variable {before mid : List Effect} {task settler : Nat}

theorem Mounting.stage?_mount (h : Mounting before task) :
    ((after before).apply .mount).stage? task = some .spawned := by
  rw [World.apply, World.mount_of_not_mounted h.1, ← h.2]
  exact World.stage?_spawn_self (w := { after before with view := _ }) _

/-- A task for waiting looks for the handle in its first turn. -/
theorem takeHandle_of_apply {es : List Effect} {e : Effect} {stage : Stage} (he : e.Timely (after es))
    (hwork : (after es).works[settler]? = some .settle) (hspawned : (after es).stage? settler = some .spawned)
    (hstage : ((after es).apply e).stage? settler = some stage) (hturn : stage ≠ .spawned) :
    e = .takeHandle settler := by
  by_cases hactor : e.actor? = some settler
  · rcases he.of_spawned hactor hspawned with ⟨call, rfl⟩ | rfl
    · exact absurd hwork he.2
    · rfl
  · obtain ⟨stage', hstage', hmoved, hcause⟩ := World.stage?_apply hspawned hactor
    obtain rfl : stage' = stage := Option.some.inj (hstage'.symm.trans hstage)
    cases hmoved with
    | kept => exact absurd rfl hturn
    | aborted =>
      -- Only a fetch is aborted.
      rcases hcause (Or.inl rfl) with hold | ⟨-, hhandle⟩
      · exact absurd hold nofun
      · obtain ⟨generation, hfetch⟩ := fetch_of_handle hhandle
        cases hfetch.symm.trans hwork

theorem takeHandle_mem_of_stage {es : List Effect} {stage : Stage} (hes : World.TimelyFrom {} es)
    (hwork : (after es).works[settler]? = some .settle) (hstage : (after es).stage? settler = some stage)
    (hturn : stage ≠ .spawned) : .takeHandle settler ∈ es := by
  induction es using List.reverseRecOn generalizing stage with
  | nil => cases hwork
  | append_singleton es e ih =>
    obtain ⟨hes, he, -⟩ := World.timelyFrom_append.mp hes
    rw [after_concat] at hwork hstage
    have hworks := hwork
    rw [World.works_apply, List.getElem?_append] at hwork
    split at hwork
    · obtain ⟨old, hold⟩ := World.exists_stage_of_works hwork
      by_cases hspawned : old = .spawned
      · subst hspawned
        rw [takeHandle_of_apply he hwork hold hstage hturn]
        exact List.mem_append_right es List.mem_cons_self
      · exact List.mem_append_left _ (ih hes hwork hold hspawned)
    · rename_i hnew
      have hspawned := World.stage?_apply_new (Nat.le_of_not_lt hnew) hworks
      exact absurd (Option.some.inj (hstage.symm.trans hspawned)) hturn

/-- A task that takes the handle has been started. -/
theorem lt_of_takeHandle_mem {es : List Effect} (hes : World.TimelyFrom {} es) (h : .takeHandle settler ∈ es) :
    settler < (after es).works.length := by
  obtain ⟨earlier, later, rfl⟩ := List.append_of_mem h
  obtain ⟨-, ⟨-, hwork⟩, -⟩ := World.timelyFrom_append.mp hes
  have hlater := World.works_replay_of_some (.takeHandle settler :: later) hwork
  exact (List.getElem?_eq_some_iff.mp (after_append earlier _ ▸ hlater)).1

variable {source : Source} {actions : List Action} {rest : List Effect}

theorem Mounting.works_mount (h : Mounting before task) : ((after before).apply .mount).works[task]? =
    some (.fetch ((after before).view.generation + 1)) := by
  have hworks := h.works []
  rwa [after_append] at hworks

/-- The fetch of a mounting has answered before it finished, and the answer counted if nothing had unmounted the
    view. -/
theorem Mounting.exists_answer (h : World.history source {} actions = before ++ .mount :: (mid ++ rest))
    (hstart : Mounting before task) (hmid : .unmount ∉ mid) (hfinish : .finish task .finished ∈ mid) :
    ∃ earlier later generation answer, before ++ .mount :: mid = earlier ++ .complete task generation answer :: later ∧
      (after earlier).view.generation = generation := by
  obtain ⟨xs, ys, rfl⟩ := List.append_of_mem hfinish
  have hsplit : World.history source {} actions =
      (before ++ .mount :: xs) ++ .finish task .finished :: (ys ++ rest) := by
    rw [h]
    simp
  have hanswered := World.answered_history source {} actions
  rw [hsplit] at hanswered
  obtain ⟨earlier, e, hbefore, he⟩ := hanswered.exists_of_finish
  rcases List.eq_nil_or_concat xs with rfl | ⟨xs, last, rfl⟩
  · obtain ⟨-, rfl⟩ : before = earlier ∧ .mount = e := by simpa using hbefore
    cases he
  obtain ⟨rfl, rfl⟩ : before ++ .mount :: xs = earlier ∧ last = e := by
    rw [List.concat_eq_append, ← List.cons_append, ← List.append_assoc] at hbefore
    exact List.append_inj' hbefore rfl |>.imp id List.singleton_inj.mp
  -- What comes right before its end is its answer, and the task is a fetch.
  have hfetch := hstart.works xs
  have hlast : World.history source {} actions =
      (before ++ .mount :: xs) ++ last :: .finish task .finished :: (ys ++ rest) := by
    rw [hsplit]
    simp
  have htimely := World.timely_of_history hlast
  cases last with
  | complete _ generation answer =>
    cases he
    refine ⟨before ++ .mount :: xs, .finish task .finished :: ys, generation, answer, by simp, ?_⟩
    have hunmount : .unmount ∉ xs := fun hmem => hmid (by simp [hmem])
    have hworks := hfetch.symm.trans htimely.2
    cases hworks
    exact hstart.generation_eq hunmount
  | loaded _ answer =>
    cases he
    exact absurd hfetch (htimely.2 _)
  | _ => cases he

/-- The fetch of a mounting is over when it has ended, as long as nothing has unmounted the view. -/
theorem Mounting.over {how : End} (h : World.history source {} actions = before ++ .mount :: (mid ++ rest))
    (hstart : Mounting before task) (hmid : .unmount ∉ mid)
    (hended : (after (before ++ .mount :: mid)).stage? task = some (.ended how)) :
    Over (before ++ .mount :: mid) task := by
  have hsplit : World.history source {} actions = (before ++ .mount :: mid) ++ rest := by simpa using h
  obtain ⟨-, -, htimely⟩ := World.timelyFrom_append.mp (World.timelyFrom_of_history hsplit).1
  obtain ⟨stage, hstage, ⟨-, hcancelled, -⟩, hends⟩ := World.undisturbed_replay hstart.works_mount hstart.stage?_mount
    ⟨nofun, nofun, nofun⟩ htimely hmid
  have hstage' : (after (before ++ .mount :: mid)).stage? task = some stage := by rwa [after_append, World.replay_cons]
  obtain rfl : stage = .ended how := Option.some.inj (hstage'.symm.trans hended)
  rcases hends how rfl with hspawned | hfinish
  · cases hspawned
  cases how with
  | finished => exact Or.inl ⟨hended, hstart.exists_answer h hmid hfinish⟩
  | panicked => exact Or.inr hended
  | cancelled => exact absurd rfl hcancelled

theorem exists_first_takeHandle (h : .takeHandle settler ∈ mid) : ∃ earlier first later,
    mid = earlier ++ .takeHandle first :: later ∧ ∀ other, .takeHandle other ∉ earlier := by
  induction mid with
  | nil => cases h
  | cons e mid ih =>
    by_cases he : ∃ first, e = .takeHandle first
    · obtain ⟨first, rfl⟩ := he
      exact ⟨[], first, mid, rfl, nofun⟩
    · rcases List.mem_cons.mp h with rfl | h
      · exact absurd ⟨settler, rfl⟩ he
      · obtain ⟨earlier, first, later, rfl, hfirst⟩ := ih h
        refine ⟨e :: earlier, first, later, rfl, fun other hmem => ?_⟩
        rcases List.mem_cons.mp hmem with rfl | hmem
        · exact he ⟨other, rfl⟩
        · exact hfirst other hmem

/-- Who is the first to take the handle of a fetch goes on only when the fetch is over. -/
theorem Mounting.over_of_first {earlier later : List Effect} {first : Nat}
    (h : World.history source {} actions = before ++ .mount :: (mid ++ rest)) (hstart : Mounting before task)
    (hmid : .unmount ∉ mid) (hsplit : mid = earlier ++ .takeHandle first :: later)
    (hfirst : ∀ other, .takeHandle other ∉ earlier)
    (hended : (after (before ++ .mount :: mid)).hasEnded first = true) : Over (before ++ .mount :: mid) task := by
  obtain ⟨hearlier, hlater⟩ : .unmount ∉ earlier ∧ .unmount ∉ later := by simpa [hsplit] using hmid
  have hhistory : World.history source {} actions =
      (before ++ .mount :: earlier) ++ .takeHandle first :: (later ++ rest) := by
    rw [h, hsplit]
    simp
  obtain ⟨-, htimely, hrest⟩ := World.timelyFrom_of_history hhistory
  have hfetch := hstart.works earlier
  have hbegun := World.awaits_takeHandle hfetch htimely (hstart.handle_of_not_taken hearlier hfirst)
  -- Nothing aborts what it waits for, as no unmounting comes.
  have hwaits := hbegun.replay (World.works_replay_of_some [.takeHandle first] hfetch)
    (World.works_replay_of_some [.takeHandle first] htimely.2) (World.timelyFrom_append.mp hrest).1 hlater
  have hend : after (before ++ .mount :: mid) =
      ((after (before ++ .mount :: earlier)).apply (.takeHandle first)).replay later := by
    rw [hsplit, ← List.cons_append, ← List.append_assoc, after_append, World.replay_cons]
  rw [← hend] at hwaits
  obtain ⟨how, hhow⟩ := World.hasEnded_iff.mp hended
  rcases hwaits with hjoining | ⟨-, how', htask⟩
  · cases hjoining.symm.trans hhow
  · exact hstart.over h hmid htask

end

open World in
/-- Whoever waits for the fetch of a mounting, and goes on while the view has not been unmounted: the fetch is over if
    the first one to take its handle has gone on. That is so for the first one itself and for all that come when it
    has gone on. Any other one has found no handle and has gone on at once. -/
theorem over_of_settled {source : Source} {actions : List Action} {before mid rest : List Effect} {task : Nat}
    (h : history source {} actions = before ++ .mount :: (mid ++ rest)) (hstart : Mounting before task)
    (hmid : .unmount ∉ mid) :
    let es := before ++ .mount :: mid
    ∀ settler, task < settler → (after es).works[settler]? = some .settle → (after es).hasEnded settler = true →
      ∃ earlier first later, mid = earlier ++ .takeHandle first :: later ∧ (∀ other, .takeHandle other ∉ earlier) ∧
        ((after es).hasEnded first = true → Over es task) ∧
        (first ≠ settler → ∃ xs ys, mid = xs ++ .takeHandle settler :: ys ∧
          (after (before ++ .mount :: (xs ++ [.takeHandle settler]))).hasEnded settler = true) := by
  intro es settler hcalled hwork hended
  have hsplit : history source {} actions = es ++ rest := by simpa [es] using h
  obtain ⟨how, hhow⟩ := hasEnded_iff.mp hended
  -- It has been started since the mounting, and so it has looked for the handle since.
  have hlooked : .takeHandle settler ∈ mid := by
    have htimely := (timelyFrom_of_history hsplit).1
    rcases List.mem_append.mp (takeHandle_mem_of_stage htimely hwork hhow nofun) with hbefore | hmount
    · exact absurd (lt_of_takeHandle_mem (World.timelyFrom_append.mp htimely).1 hbefore)
        (Nat.not_lt.mpr (Nat.le_of_lt (hstart.2.symm ▸ hcalled)))
    · exact (List.mem_cons.mp hmount).resolve_left nofun
  obtain ⟨earlier, first, later, hmids, hfirst⟩ := exists_first_takeHandle hlooked
  refine ⟨earlier, first, later, hmids, hfirst, hstart.over_of_first h hmid hmids hfirst, fun hne => ?_⟩
  obtain ⟨xs, ys, hown⟩ := List.append_of_mem hlooked
  refine ⟨xs, ys, hown, ?_⟩
  -- The first one to take the handle came before.
  have htaken : .takeHandle first ∈ xs := by
    rcases List.append_eq_append_iff.mp (hmids.symm.trans hown) with ⟨zs, rfl, htail⟩ | ⟨zs, rfl, htail⟩
    · cases zs with
      | nil => exact absurd (Effect.takeHandle.inj (List.cons.inj htail).1) hne
      | cons e zs =>
        obtain ⟨rfl, -⟩ := List.cons.inj htail
        exact List.mem_append_right earlier List.mem_cons_self
    · cases zs with
      | nil => exact absurd (Effect.takeHandle.inj (List.cons.inj htail).1).symm hne
      | cons e zs =>
        obtain ⟨rfl, -⟩ := List.cons.inj htail
        exact absurd (List.mem_append_right xs List.mem_cons_self) (hfirst settler)
  have hhistory : history source {} actions = (before ++ .mount :: xs) ++ .takeHandle settler :: (ys ++ rest) := by
    rw [h, hown]
    simp
  have hunmount : .unmount ∉ xs := fun hmem => hmid (hown ▸ List.mem_append_left _ hmem)
  have hgone := ended_takeHandle_of_none (timely_of_history hhistory) (handle_of_taken before hunmount htaken)
  refine hasEnded_iff.mpr ⟨.finished, ?_⟩
  rwa [← List.cons_append, ← List.append_assoc, after_append]

/-- Two tasks wait for the end of a fetch that is at its gate until both have begun to. -/
def overlapping : List Action :=
  [.mount, .turn 0, .settle, .turn 1, .settle, .turn 2, .openGate, .turn 0, .turn 1]

open World in
theorem over_of_overlapping : let call := lateCall (.answered [{ id := .numeric 1 }])
    let mid := [.pick 0, .call 0 call, .wait 0 [], .settle, .pick 1, .takeHandle 1, .settle, .pick 2, .takeHandle 2,
      .openGate, .pick 0, .resume 0, .complete 0 1 (.ok [{ id := .numeric 1 }]), .finish 0 .finished, .pick 1,
      .join 1 0]
    let es := [] ++ .mount :: mid
    history (.ofList [call]) {} overlapping = [] ++ .mount :: (mid ++ []) ∧ Mounting [] 0 ∧ .unmount ∉ mid ∧ 0 < 2 ∧
      (after es).works[2]? = some .settle ∧ (after es).hasEnded 2 = true ∧ Over es 0 := by
  intro call mid es
  have hsplit : history (.ofList [call]) {} overlapping = [] ++ .mount :: (mid ++ []) := by decide +kernel
  have hstart : Mounting [] 0 := ⟨rfl, rfl⟩
  have hmid : .unmount ∉ mid := by decide +kernel
  have hwork : (after es).works[2]? = some .settle := by decide +kernel
  have hended : (after es).hasEnded 1 = true ∧ (after es).hasEnded 2 = true := by decide +kernel
  refine ⟨hsplit, hstart, hmid, by decide, hwork, hended.2, ?_⟩
  obtain ⟨earlier, first, later, hfirst, -, hover, -⟩ := over_of_settled hsplit hstart hmid 2 (by decide) hwork hended.2
  have hmem : .takeHandle first ∈ mid := hfirst ▸ List.mem_append_right earlier List.mem_cons_self
  obtain rfl | rfl : first = 1 ∨ first = 2 := by simpa [mid] using hmem
  · exact hover hended.1
  · exact hover hended.2

open World in
/-- While the first task waits for a fetch at its gate, the second one has gone on. -/
theorem not_over_of_overlapping : let call := lateCall (.answered [{ id := .numeric 1 }])
    let mid := [.pick 0, .call 0 call, .wait 0 [], .settle, .pick 1, .takeHandle 1, .settle, .pick 2, .takeHandle 2]
    let es := .mount :: mid
    history (.ofList [call]) {} [.mount, .turn 0, .settle, .turn 1, .settle, .turn 2] = es ∧ Mounting [] 0 ∧
      .unmount ∉ mid ∧ (after es).view.mounted = true ∧ (after es).works[2]? = some .settle ∧
      (after es).hasEnded 2 = true ∧ (after es).stage? 0 = some (.waiting 0 []) ∧ (after es).hasEnded 0 = false ∧
      ¬Over es 0 := by
  intro call mid es
  have hgate : (after es).stage? 0 = some (.waiting 0 []) := by decide +kernel
  refine ⟨by decide +kernel, ⟨rfl, rfl⟩, by decide +kernel, by decide +kernel, by decide +kernel, by decide +kernel,
    hgate, by decide +kernel, ?_⟩
  rintro (⟨hfinished, -⟩ | hpanicked)
  · cases hgate.symm.trans hfinished
  · cases hgate.symm.trans hpanicked

end ClusterConsole.View
