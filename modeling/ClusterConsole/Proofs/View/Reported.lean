import ClusterConsole.Proofs.View.Stage

/-! # What is reported

What an effect reports follows from the effect and the world before it. The log of a run is what its effects report in
turn, and each entry comes from the task that is at work in the effect, if one is. -/

namespace ClusterConsole.View

/-- What is reported of an answer that counts. -/
def entryOf : Except FetchError (List NodeRecord) → LogEntry
  | .ok _ => .updated
  | .error _ => .fetchFailed

/-- What a task reports that waits for the end of another one, when it finds it at a stage. -/
def Stage.reports : Option Stage → List LogEntry
  | some (.ended .panicked) => [.taskPanicked]
  | _ => []

/-- What an effect reports. -/
def Effect.reports (w : World) : Effect → List LogEntry
  | .mount => if w.view.mounted then [.alreadyMounted] else []
  | .succeed _ => [.updated]
  | .fail _ => [.fetchFailed]
  | .call _ asked => asked.log
  | .complete _ generation answer => if w.view.generation = generation then [entryOf answer] else [.staleOutcome]
  | .loaded _ answer => [entryOf answer]
  | .takeHandle _ => w.view.handle.elim [] fun target => Stage.reports (w.stage? target)
  | .join _ target => Stage.reports (w.stage? target)
  | _ => []

namespace World
variable {w : World} {e : Effect} {es fs : List Effect} {task : Nat}

/-- What effects report in turn, each entry with the task that is at work. -/
def entries (w : World) : List Effect → List (Option Nat × LogEntry)
  | [] => []
  | e :: es => (e.reports w).map (Prod.mk e.actor?) ++ entries (w.apply e) es

/-- What a task reports in effects. -/
def entriesBy (w : World) (task : Nat) (es : List Effect) : List LogEntry :=
  ((w.entries es).filter fun entry => entry.1 = some task).map Prod.snd

/-! ### Single effects -/

theorem log_join (task target : Nat) : (w.join task target).log = w.log ++ Stage.reports (w.stage? target) := by
  unfold join
  split
  · rename_i hpanicked
    rw [hpanicked]
    rfl
  · rename_i how hne hended
    rw [hended]
    cases how with
    | panicked => exact absurd rfl hne
    | _ => exact (List.append_nil _).symm
  · rename_i hnone
    rw [hnone]
    exact (List.append_nil _).symm
  · rename_i stage _ hne hstage
    rw [hstage]
    cases stage with
    | ended how => exact absurd rfl (hne how)
    | _ => exact (List.append_nil _).symm

theorem log_settle (task : Nat) : (w.settle task).log = w.log ++ (Effect.takeHandle task).reports w := by
  unfold settle Effect.reports
  split
  · rename_i hnone
    rw [hnone]
    exact (List.append_nil _).symm
  · rename_i target htarget
    rw [htarget]
    exact log_join (w := { w with view := { w.view with handle := none } }) task target

theorem log_complete (task generation : Nat) (answer : Except FetchError (List NodeRecord)) :
    (w.complete generation answer).log = w.log ++ (Effect.complete task generation answer).reports w := by
  unfold complete
  rw [Effect.reports]
  by_cases hcurrent : w.view.generation = generation
  · rw [if_neg (not_not.mpr hcurrent), if_pos hcurrent]
    cases answer <;> rfl
  · rw [if_pos hcurrent, if_neg hcurrent]
    rfl

theorem log_apply (e : Effect) : (w.apply e).log = w.log ++ e.reports w := by
  have silent : ∀ u : World, u.log = w.log → u.log = w.log ++ [] := by
    intro u hu
    rw [hu, List.append_nil]
  cases e with
  | mount =>
    rw [apply, Effect.reports]
    cases hm : w.view.mounted with
    | true => rw [mount_of_mounted hm]; rfl
    | false => rw [mount_of_not_mounted hm]; exact silent _ rfl
  | unmount =>
    obtain ⟨task, stage, ready, h, -, -⟩ := exists_abortFetch_eq w
    exact silent _ (by rw [apply, unmount, h]; rfl)
  | openGate =>
    obtain ⟨task, stage, ready, gates, h, -, -⟩ := exists_openGate_eq w
    exact silent _ (by rw [apply, h]; rfl)
  | wait other rest =>
    obtain ⟨stage, h, -⟩ := exists_await_eq w other rest
    exact silent _ (by rw [apply, h]; rfl)
  | resume other =>
    obtain ⟨stage, h, -⟩ := exists_resume_eq w other
    exact silent _ (by rw [apply, h]; rfl)
  | complete other generation answer => exact log_complete other generation answer
  | loaded other answer => cases answer <;> rfl
  | takeHandle other => exact log_settle other
  | join other target => exact log_join other target
  | succeed nodes => rfl
  | fail error => rfl
  | call other call => rfl
  | _ => exact silent _ rfl

/-- Only a fetch of another generation is reported to be stale, unless the source reports so itself. -/
theorem stale_of_reports (h : .staleOutcome ∈ e.reports w) :
    (∃ task call, e = .call task call ∧ .staleOutcome ∈ call.log) ∨
      ∃ task generation answer, e = .complete task generation answer ∧ w.view.generation ≠ generation := by
  have waited : ∀ stage?, .staleOutcome ∉ Stage.reports stage? := by
    intro stage?
    unfold Stage.reports
    split <;> simp
  cases e with
  | call task call => exact Or.inl ⟨task, call, rfl, h⟩
  | complete task generation answer =>
    refine Or.inr ⟨task, generation, answer, rfl, fun hcurrent => ?_⟩
    rw [Effect.reports, if_pos hcurrent] at h
    cases answer <;> simp [entryOf] at h
  | mount => cases hm : w.view.mounted <;> simp [Effect.reports, hm] at h
  | loaded task answer => cases answer <;> simp [Effect.reports, entryOf] at h
  | takeHandle task =>
    rw [Effect.reports] at h
    cases hhandle : w.view.handle with
    | none => simp [hhandle] at h
    | some target =>
      rw [hhandle] at h
      exact absurd h (waited _)
  | join task target => exact absurd h (waited _)
  | _ => simp [Effect.reports] at h

/-! ### Effects in turn -/

theorem map_snd_reports (who : Option Nat) (reports : List LogEntry) :
    (reports.map (Prod.mk who)).map Prod.snd = reports := by
  rw [List.map_map]
  exact List.map_id _

theorem entries_append : w.entries (es ++ fs) = w.entries es ++ (w.replay es).entries fs := by
  induction es generalizing w with
  | nil => rfl
  | cons e es ih => simp [entries, ih]

/-- The log is what the effects have reported. -/
theorem log_replay (w : World) (es : List Effect) : (w.replay es).log = w.log ++ (w.entries es).map Prod.snd := by
  induction es generalizing w with
  | nil => exact (List.append_nil _).symm
  | cons e es ih =>
    rw [replay_cons, ih, log_apply, entries, List.map_append, map_snd_reports, List.append_assoc]

theorem entriesBy_append : w.entriesBy task (es ++ fs) = w.entriesBy task es ++ (w.replay es).entriesBy task fs := by
  rw [entriesBy, entries_append, List.filter_append, List.map_append]
  rfl

theorem entriesBy_cons_of_actor (he : e.actor? = some task) :
    w.entriesBy task (e :: es) = e.reports w ++ (w.apply e).entriesBy task es := by
  rw [entriesBy, entries, he, List.filter_append, List.map_append, List.filter_eq_self.mpr (by simp), map_snd_reports]
  rfl

theorem entriesBy_cons_of_ne (he : e.actor? ≠ some task) :
    w.entriesBy task (e :: es) = (w.apply e).entriesBy task es := by
  rw [entriesBy, entries, List.filter_append, List.filter_eq_nil_iff.mpr (by simp [he])]
  rfl

/-- Who is not at work reports nothing. -/
theorem entriesBy_of_idle (hes : ∀ e ∈ es, e.actor? ≠ some task) : w.entriesBy task es = [] := by
  induction es generalizing w with
  | nil => rfl
  | cons e es ih =>
    obtain ⟨he, hes⟩ := List.forall_mem_cons.mp hes
    rw [entriesBy_cons_of_ne he, ih hes]

end World
end ClusterConsole.View
