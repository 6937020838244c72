import ClusterConsole.Proofs.View.Mounted

/-! # The generations that fetches carry

A generation numbers at most one fetch. While the view is mounted there is one of its own generation, and only the
handle of that fetch can be stored. While the view is not mounted there is none, so that no fetch counts, and no handle
is stored. Every effect keeps this, also one that a call of the source has on the view from within a fetch. -/

namespace ClusterConsole.View

theorem Effect.renews_iff {w : World} {e : Effect} :
    e.renews w = true ↔ e = .mount ∧ w.view.mounted = false ∨ e = .unmount := by
  cases e <;> simp [renews]

namespace World
variable {w : World} {e : Effect} {task generation : Nat}

/-- No two fetches carry the same generation, and none a later one than that of the view. The view is mounted as long as
    a fetch carries its own generation, and only the handle of this fetch is stored. -/
structure Numbered (w : World) : Prop where
  distinct : ∀ {task other generation : Nat}, w.works[task]? = some (.fetch generation) →
    w.works[other]? = some (.fetch generation) → task = other
  bounded : ∀ {task generation : Nat}, w.works[task]? = some (.fetch generation) → generation ≤ w.view.generation
  mounted : w.view.mounted = true ↔ ∃ task : Nat, w.works[task]? = some (.fetch w.view.generation)
  handle : ∀ {task : Nat}, w.view.handle = some task → w.works[task]? = some (.fetch w.view.generation)

/-! ### Single effects -/

/-- Only a mounting that takes effect starts a fetch, behind all tasks and in the generation that it begins. -/
theorem fetch_apply_iff : (w.apply e).works[task]? = some (.fetch generation) ↔
    w.works[task]? = some (.fetch generation) ∨
      e = .mount ∧ w.view.mounted = false ∧ task = w.works.length ∧ generation = w.view.generation + 1 := by
  rw [works_apply]
  by_cases hold : task < w.works.length
  · rw [List.getElem?_append_left hold]
    have hne : task ≠ w.works.length := Nat.ne_of_lt hold
    simp [hne]
  · rw [List.getElem?_append_right (Nat.le_of_not_lt hold), List.getElem?_eq_none (Nat.le_of_not_lt hold)]
    have hfirst : task - w.works.length = 0 ↔ task = w.works.length := by omega
    cases e with
    | mount => cases hm : w.view.mounted <;> simp [Effect.newWorks, hm, List.getElem?_singleton, hfirst, eq_comm]
    | settle => simp [Effect.newWorks, List.getElem?_singleton]
    | load => simp [Effect.newWorks, List.getElem?_singleton]
    | _ => simp [Effect.newWorks]

theorem generation_mount (hm : w.view.mounted = false) :
    (w.apply .mount).view.generation = w.view.generation + 1 := by
  rw [generation_apply, Effect.renews, hm]
  rfl

/-! ### Effects that begin no generation -/

theorem generation_apply_of_not_renews (h : e.renews w = false) :
    (w.apply e).view.generation = w.view.generation := by
  rw [generation_apply, h]
  rfl

theorem fetch_apply_iff_of_not_renews (h : e.renews w = false) :
    (w.apply e).works[task]? = some (.fetch generation) ↔ w.works[task]? = some (.fetch generation) := by
  refine fetch_apply_iff.trans (or_iff_left ?_)
  rintro ⟨rfl, hm, -⟩
  rw [Effect.renews, hm] at h
  cases h

theorem mounted_apply_of_not_renews (h : e.renews w = false) : (w.apply e).view.mounted = w.view.mounted := by
  rw [mounted_apply]
  cases e with
  | mount =>
    rw [Effect.renews, Bool.not_eq_false'] at h
    exact h.symm
  | unmount => cases h
  | _ => rfl

/-- A handle that is stored then was so before. -/
theorem handle_of_handle_apply (h : e.renews w = false) (hhandle : (w.apply e).view.handle = some task) :
    w.view.handle = some task := by
  rw [handle_apply] at hhandle
  cases e with
  | mount =>
    rw [Effect.renews, Bool.not_eq_false'] at h
    rw [Effect.handles?, h] at hhandle
    exact hhandle
  | unmount => cases h
  | takeHandle _ => cases hhandle
  | _ => exact hhandle

namespace Numbered

/-- The next generation is one that no fetch carries yet. -/
theorem not_next (h : w.Numbered) : w.works[task]? ≠ some (.fetch (w.view.generation + 1)) := fun hfetch =>
  Nat.not_succ_le_self _ (h.bounded hfetch)

theorem apply_mount (h : w.Numbered) (hm : w.view.mounted = false) : (w.apply .mount).Numbered where
  distinct htask hother := by
    -- Two fetches from before, twice the new one, or the new one and one from before, which cannot carry what it does.
    rcases fetch_apply_iff.mp htask with htask | ⟨-, -, rfl, rfl⟩
    · rcases fetch_apply_iff.mp hother with hother | ⟨-, -, rfl, rfl⟩
      · exact h.distinct htask hother
      · exact absurd htask h.not_next
    · rcases fetch_apply_iff.mp hother with hother | ⟨-, -, rfl, -⟩
      · exact absurd hother h.not_next
      · rfl
  bounded htask := by
    rw [generation_mount hm]
    rcases fetch_apply_iff.mp htask with htask | ⟨-, -, -, rfl⟩
    · exact Nat.le_succ_of_le (h.bounded htask)
    · exact Nat.le_refl _
  mounted := by
    rw [generation_mount hm, mounted_apply]
    exact ⟨fun _ => ⟨_, fetch_apply_iff.mpr (Or.inr ⟨rfl, hm, rfl, rfl⟩)⟩, fun _ => rfl⟩
  handle hhandle := by
    rw [handle_apply, Effect.handles?, hm] at hhandle
    obtain rfl := Option.some.inj hhandle
    rw [generation_mount hm]
    exact fetch_apply_iff.mpr (Or.inr ⟨rfl, hm, rfl, rfl⟩)

theorem apply_unmount (h : w.Numbered) : w.unmount.Numbered where
  distinct htask hother := by
    rw [works_unmount] at htask hother
    exact h.distinct htask hother
  bounded htask := by
    rw [works_unmount] at htask
    rw [generation_unmount]
    exact Nat.le_succ_of_le (h.bounded htask)
  mounted := by
    rw [works_unmount, generation_unmount]
    exact ⟨nofun, fun ⟨_, hfetch⟩ => absurd hfetch h.not_next⟩
  handle hhandle := by cases handle_unmount.symm.trans hhandle

theorem apply_of_not_renews (h : w.Numbered) (he : e.renews w = false) : (w.apply e).Numbered where
  distinct htask hother :=
    h.distinct ((fetch_apply_iff_of_not_renews he).mp htask) ((fetch_apply_iff_of_not_renews he).mp hother)
  bounded htask := by
    rw [generation_apply_of_not_renews he]
    exact h.bounded ((fetch_apply_iff_of_not_renews he).mp htask)
  mounted := by
    rw [generation_apply_of_not_renews he, mounted_apply_of_not_renews he, h.mounted]
    exact exists_congr fun _ => (fetch_apply_iff_of_not_renews he).symm
  handle hhandle := by
    rw [generation_apply_of_not_renews he, fetch_apply_iff_of_not_renews he]
    exact h.handle (handle_of_handle_apply he hhandle)

theorem apply (h : w.Numbered) (e : Effect) : (w.apply e).Numbered := by
  cases he : e.renews w with
  | false => exact h.apply_of_not_renews he
  | true =>
    rcases Effect.renews_iff.mp he with ⟨rfl, hm⟩ | rfl
    · exact h.apply_mount hm
    · exact h.apply_unmount

/-! ### Runs -/

theorem start : ({} : World).Numbered :=
  ⟨nofun, nofun, ⟨nofun, nofun⟩, nofun⟩

theorem replay (h : w.Numbered) (es : List Effect) : (w.replay es).Numbered := by
  induction es generalizing w with
  | nil => exact h
  | cons e es ih => exact ih (h.apply e)

/-- The fetch of a mounted view's generation is one task. -/
theorem exists_current (h : w.Numbered) (hm : w.view.mounted = true) :
    ∃ task, (∀ other : Nat, w.works[other]? = some (.fetch w.view.generation) ↔ other = task) ∧
      ∀ other, w.view.handle = some other → other = task := by
  obtain ⟨task, htask⟩ := h.mounted.mp hm
  refine ⟨task, fun other => ⟨fun hother => h.distinct hother htask, ?_⟩, fun other hhandle => ?_⟩
  · rintro rfl
    exact htask
  · exact h.distinct (h.handle hhandle) htask

theorem away (h : w.Numbered) (hm : w.view.mounted = false) :
    w.view.handle = none ∧ ∀ task : Nat, w.works[task]? ≠ some (.fetch w.view.generation) := by
  have hnone : ∀ task : Nat, w.works[task]? ≠ some (.fetch w.view.generation) := fun task htask =>
    Bool.false_ne_true (hm.symm.trans (h.mounted.mpr ⟨task, htask⟩))
  exact ⟨Option.eq_none_iff_forall_not_mem.mpr fun task hhandle => hnone task (h.handle hhandle), hnone⟩

end Numbered

/-- No more generations begin than the view is mounted and unmounted. -/
theorem renewals_le_count (w : World) (es : List Effect) : w.renewals es ≤ es.count .mount + es.count .unmount := by
  induction es generalizing w with
  | nil => exact Nat.le_refl 0
  | cons e es ih =>
    have hrest := ih (w.apply e)
    rw [renewals, List.count_cons, List.count_cons]
    split
    · rename_i hrenews
      rcases Effect.renews_iff.mp hrenews with ⟨rfl, -⟩ | rfl
      · rw [if_pos (beq_self_eq_true _)]
        omega
      · rw [if_neg (by decide), if_pos (beq_self_eq_true _)]
        omega
    · omega

end World

open World in
/-- At every point of a run: no two fetches carry the same generation, and none a later one than that of the view. A
    fetch takes its answer to the view with the generation that it carries. While the view is not mounted no fetch
    carries its generation and no handle is stored. While it is mounted exactly one fetch does, and a handle that is
    stored is that of this fetch. The generation grows by one with each unmounting and each mounting that takes effect,
    and with nothing else. It is thus at most the number of mountings and unmountings so far, and fits in 64 bits in
    every run with fewer than `2 ^ 64` of them. -/
theorem generations_of_history {source : Source} {actions : List Action} {earlier later : List Effect}
    (h : history source {} actions = earlier ++ later) :
    let w := after earlier
    (∀ task other generation : Nat, w.works[task]? = some (.fetch generation) →
        w.works[other]? = some (.fetch generation) → task = other) ∧
      (∀ task generation : Nat, w.works[task]? = some (.fetch generation) → generation ≤ w.view.generation) ∧
      (∀ task generation answer rest, later = .complete task generation answer :: rest →
        w.works[task]? = some (.fetch generation)) ∧
      (w.view.mounted = false →
        w.view.handle = none ∧ ∀ task : Nat, w.works[task]? ≠ some (.fetch w.view.generation)) ∧
      (w.view.mounted = true →
        ∃ task, (∀ other : Nat, w.works[other]? = some (.fetch w.view.generation) ↔ other = task) ∧
          ∀ other, w.view.handle = some other → other = task) ∧
      (w.mount.1 = true → w.mount.2.view.generation = w.view.generation + 1) ∧
      w.unmount.view.generation = w.view.generation + 1 ∧
      (∀ e, e ≠ .unmount → (e = .mount → w.mount.1 = false) →
        (w.apply e).view.generation = w.view.generation) ∧
      w.view.generation ≤ earlier.count .mount + earlier.count .unmount := by
  intro w
  have hnumbered : w.Numbered := Numbered.start.replay earlier
  refine ⟨fun _ _ _ => hnumbered.distinct, fun _ _ => hnumbered.bounded, ?_, hnumbered.away, hnumbered.exists_current,
    fun hmount => ?_, generation_unmount, fun e hunmount hmount => ?_, ?_⟩
  · rintro task generation answer rest rfl
    exact sound_of_history h
  · rw [mount_fst, Bool.not_eq_true'] at hmount
    exact generation_mount hmount
  · refine generation_apply_of_not_renews (Bool.eq_false_iff.mpr fun hrenews => ?_)
    -- What begins a generation is a mounting that takes effect, or an unmounting.
    rcases Effect.renews_iff.mp hrenews with ⟨rfl, hm⟩ | rfl
    · have hfalse := hmount rfl
      rw [mount_fst, hm] at hfalse
      cases hfalse
    · exact hunmount rfl
  · have hrenewals : w.view.generation = renewals {} earlier := (generation_replay {} earlier).trans (Nat.zero_add _)
    rw [hrenewals]
    exact renewals_le_count {} earlier

/-- A fetch unmounts and mounts the view in its own call, when its handle has been taken. -/
def remountedInside : List Action :=
  [.mount, .mount, .settle, .turn 0, .turn 1, .openGate, .turn 0]

open World in
theorem generations_of_remountedInside :
    let call : Call := { outcome := .answered [], gated := true, during := [.unmount, .mount] }
    let es := [.mount, .mount, .settle, .pick 0, .call 0 call, .wait 0 [.unmount, .mount], .pick 1, .takeHandle 1,
      .openGate, .pick 0, .resume 0, .unmount, .mount]
    let w := after es
    history (.ofList [call]) {} remountedInside = es ++ [.complete 0 1 (.ok []), .finish 0 .finished] ∧
      w.view.mounted = true ∧ w.view.generation = 3 ∧ w.view.handle = some 2 ∧
      w.works = [.fetch 1, .settle, .fetch 3] ∧
      (∃ task, (∀ other : Nat, w.works[other]? = some (.fetch 3) ↔ other = task) ∧
        ∀ other, w.view.handle = some other → other = task) ∧
      (w.apply (.complete 0 1 (.ok []))).view.generation = 3 ∧ 3 ≤ es.count .mount + es.count .unmount := by
  intro call es w
  have hsplit : history (.ofList [call]) {} remountedInside =
      es ++ [.complete 0 1 (.ok []), .finish 0 .finished] := by decide +kernel
  have hmounted : w.view.mounted = true := by decide +kernel
  have hgeneration : w.view.generation = 3 := by decide +kernel
  obtain ⟨-, -, -, -, hcurrent, -, -, hother, hcount⟩ := generations_of_history hsplit
  refine ⟨hsplit, hmounted, hgeneration, by decide +kernel, by decide +kernel, ?_, ?_, ?_⟩
  · rw [← hgeneration]
    exact hcurrent hmounted
  · rw [← hgeneration]
    exact hother _ nofun nofun
  · rw [← hgeneration]
    exact hcount

end ClusterConsole.View
