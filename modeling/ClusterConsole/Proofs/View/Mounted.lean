import ClusterConsole.Proofs.View.Generation

/-! # While the view is mounted

A view that is mounted stays so until it is unmounted, and in one generation. Mounting it again does nothing but report
that, and so no other fetch is started. The handle of the fetch stays until a task takes it. -/

namespace ClusterConsole.View

/-- Whether the view is mounted after an effect that decides it. -/
def Effect.mounts? : Effect → Option Bool
  | .mount => some true
  | .unmount => some false
  | _ => none

/-- The handle after an effect that stores one or takes it. -/
def Effect.handles? (w : World) : Effect → Option (Option Nat)
  | .mount => if w.view.mounted then none else some (some w.works.length)
  | .unmount | .takeHandle _ => some none
  | _ => none

namespace World
variable {w : World} {e : Effect} {es : List Effect}

theorem mount_fst (w : World) : w.mount.1 = !w.view.mounted := by
  unfold mount
  cases h : w.view.mounted <;> rfl

theorem mounted_apply (e : Effect) : (w.apply e).view.mounted = e.mounts?.getD w.view.mounted := by
  cases e with
  | mount => cases hm : w.view.mounted <;> simp [apply, mount, Effect.mounts?, hm, spawn, report]
  | openGate => rw [apply, view_openGate]; rfl
  | wait task rest => rw [apply, view_await]; rfl
  | resume task => rw [apply, view_resume]; rfl
  | complete task generation answer =>
    simp only [apply, complete]
    split
    · rfl
    · cases answer <;> rfl
  | loaded task answer => cases answer <;> rfl
  | takeHandle task =>
    obtain ⟨handle, hview⟩ := view_settle (w := w) task
    rw [apply, hview]
    rfl
  | join task target => rw [apply, view_join]; rfl
  | _ => rfl

/-- What does not decide otherwise leaves the view mounted or not. -/
theorem mounted_replay {mounted : Bool} (h : w.view.mounted = mounted) (hes : ∀ e ∈ es, e.mounts? ≠ some !mounted) :
    (w.replay es).view.mounted = mounted := by
  induction es generalizing w with
  | nil => exact h
  | cons e es ih =>
    obtain ⟨he, hes⟩ := List.forall_mem_cons.mp hes
    refine ih ?_ hes
    rw [mounted_apply]
    cases hmounts : e.mounts? with
    | none => exact h
    | some decided =>
      rw [hmounts] at he
      cases decided <;> cases mounted <;> first | rfl | exact absurd rfl he

theorem mounted_apply_of_mounted (h : w.view.mounted = true) (he : e ≠ .unmount) :
    (w.apply e).view.mounted = true := by
  rw [mounted_apply]
  cases e with
  | unmount => exact absurd rfl he
  | mount => rfl
  | _ => exact h

theorem mounted_of_not_mem_unmount (h : w.view.mounted = true) (hes : .unmount ∉ es) :
    (w.replay es).view.mounted = true := by
  refine mounted_replay h fun e he hmounts => ?_
  cases e with
  | unmount => exact hes he
  | _ => cases hmounts

theorem mounted_of_not_mem_mount (h : w.view.mounted = false) (hes : .mount ∉ es) :
    (w.replay es).view.mounted = false := by
  refine mounted_replay h fun e he hmounts => ?_
  cases e with
  | mount => exact hes he
  | _ => cases hmounts

/-! ### One generation -/

theorem renews_of_mounted (h : w.view.mounted = true) (he : e ≠ .unmount) : e.renews w = false := by
  cases e with
  | unmount => exact absurd rfl he
  | mount => rw [Effect.renews, h]; rfl
  | _ => rfl

theorem renewals_of_mounted (h : w.view.mounted = true) (hes : .unmount ∉ es) : w.renewals es = 0 := by
  induction es generalizing w with
  | nil => rfl
  | cons e es ih =>
    obtain ⟨he, hes⟩ : .unmount ≠ e ∧ .unmount ∉ es := by simpa using hes
    have hmounted := mounted_apply_of_mounted h (Ne.symm he)
    rw [renewals, renews_of_mounted h (Ne.symm he), ih hmounted hes]
    rfl

/-- No fetch is started while the view is mounted. -/
theorem works_of_mounted {task generation : Nat} (h : w.view.mounted = true) (hes : .unmount ∉ es)
    (hwork : (w.replay es).works[task]? = some (.fetch generation)) : w.works[task]? = some (.fetch generation) := by
  induction es generalizing w with
  | nil => exact hwork
  | cons e es ih =>
    obtain ⟨he, hes⟩ : .unmount ≠ e ∧ .unmount ∉ es := by simpa using hes
    have hmounted := mounted_apply_of_mounted h (Ne.symm he)
    have hold := ih hmounted hes hwork
    rw [works_apply, List.getElem?_append] at hold
    split at hold
    · exact hold
    · cases e <;> simp [Effect.newWorks, h, List.getElem?_singleton] at hold

/-! ### The handle -/

theorem handle_unmount : w.unmount.view.handle = none := by
  obtain ⟨task, stage, ready, h, -, -⟩ := exists_abortFetch_eq w
  rw [unmount, h]

theorem handle_settle (task : Nat) : (w.settle task).view.handle = none := by
  obtain ⟨stage, ready, log, h, -, -⟩ := exists_settle_eq w task
  rw [h]

theorem handle_apply (e : Effect) : (w.apply e).view.handle = (e.handles? w).getD w.view.handle := by
  cases e with
  | mount =>
    cases hm : w.view.mounted with
    | true => rw [apply, mount_of_mounted hm, Effect.handles?, hm]; rfl
    | false => rw [apply, mount_of_not_mounted hm, Effect.handles?, hm, works, List.length_map]; rfl
  | unmount => exact handle_unmount
  | takeHandle task => exact handle_settle task
  | openGate => rw [apply, view_openGate]; rfl
  | wait task rest => rw [apply, view_await]; rfl
  | resume task => rw [apply, view_resume]; rfl
  | complete task generation answer =>
    simp only [apply, complete]
    split
    · rfl
    · cases answer <;> rfl
  | loaded task answer => cases answer <;> rfl
  | join task target => rw [apply, view_join]; rfl
  | _ => rfl

theorem handle_apply_of_mounted (h : w.view.mounted = true) (he : e ≠ .unmount)
    (htake : ∀ task, e ≠ .takeHandle task) : (w.apply e).view.handle = w.view.handle := by
  rw [handle_apply]
  cases e with
  | unmount => exact absurd rfl he
  | takeHandle task => exact absurd rfl (htake task)
  | mount => rw [Effect.handles?, h]; rfl
  | _ => rfl

theorem handle_of_not_taken (h : w.view.mounted = true) (hes : .unmount ∉ es)
    (htake : ∀ task, .takeHandle task ∉ es) : (w.replay es).view.handle = w.view.handle := by
  induction es generalizing w with
  | nil => rfl
  | cons e es ih =>
    obtain ⟨he, hes⟩ : .unmount ≠ e ∧ .unmount ∉ es := by simpa using hes
    have hmounted := mounted_apply_of_mounted h (Ne.symm he)
    have htake' : ∀ task, e ≠ .takeHandle task := fun task heq => htake task (heq ▸ List.mem_cons_self)
    rw [replay_cons, ih hmounted hes fun task hmem => htake task (List.mem_cons_of_mem e hmem),
      handle_apply_of_mounted h (Ne.symm he) htake']

/-- Once a task has taken the handle of the fetch there is none. -/
theorem handle_of_none (h : w.view.mounted = true) (hes : .unmount ∉ es) (hnone : w.view.handle = none) :
    (w.replay es).view.handle = none := by
  induction es generalizing w with
  | nil => exact hnone
  | cons e es ih =>
    obtain ⟨he, hes⟩ : .unmount ≠ e ∧ .unmount ∉ es := by simpa using hes
    have hmounted := mounted_apply_of_mounted h (Ne.symm he)
    refine ih hmounted hes ?_
    by_cases htake : ∃ task, e = .takeHandle task
    · obtain ⟨task, rfl⟩ := htake
      exact handle_settle task
    · rw [handle_apply_of_mounted h (Ne.symm he) fun task heq => htake ⟨task, heq⟩, hnone]

theorem handle_of_taken {task : Nat} (h : w.view.mounted = true) (hes : .unmount ∉ es)
    (htake : .takeHandle task ∈ es) : (w.replay es).view.handle = none := by
  obtain ⟨earlier, later, rfl⟩ := List.append_of_mem htake
  obtain ⟨hearlier, hlater⟩ : .unmount ∉ earlier ∧ .unmount ∉ later := by simpa using hes
  rw [List.append_cons, replay_append, replay_append]
  have hmounted := mounted_apply_of_mounted (e := .takeHandle task) (mounted_of_not_mem_unmount h hearlier) nofun
  exact handle_of_none hmounted hlater (handle_settle task)

end World

/-! ### From a mounting on -/

section
variable {before mid : List Effect} {task : Nat}

theorem Mounting.generation_eq (h : Mounting before task) (hmid : .unmount ∉ mid) :
    (after (before ++ .mount :: mid)).view.generation = (after before).view.generation + 1 := by
  have hquiet := World.renewals_of_mounted (World.mounted_apply (w := after before) .mount) hmid
  have hmount : Effect.renews (after before) .mount = true := by simp [Effect.renews, h.1]
  rw [after_append, World.generation_replay, World.renewals, hmount, hquiet]
  rfl

theorem Mounting.handle_mount (h : Mounting before task) : ((after before).apply .mount).view.handle = some task := by
  rw [World.apply, World.mount_of_not_mounted h.1, ← h.2, World.works, List.length_map]
  rfl

theorem Mounting.handle_of_not_taken (h : Mounting before task) (hmid : .unmount ∉ mid)
    (htake : ∀ other, .takeHandle other ∉ mid) : (after (before ++ .mount :: mid)).view.handle = some task := by
  rw [after_append, World.replay_cons, World.handle_of_not_taken (World.mounted_apply .mount) hmid htake,
    h.handle_mount]

theorem handle_of_taken {other : Nat} (before : List Effect) (hmid : .unmount ∉ mid)
    (htake : .takeHandle other ∈ mid) : (after (before ++ .mount :: mid)).view.handle = none := by
  rw [after_append, World.replay_cons]
  exact World.handle_of_taken (World.mounted_apply .mount) hmid htake

end

end ClusterConsole.View
