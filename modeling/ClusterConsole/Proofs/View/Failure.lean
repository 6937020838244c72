import ClusterConsole.Proofs.View.Anew
import ClusterConsole.Proofs.View.Ended

/-! # Failures

A failure that counts is told and reported, and changes nothing else; a task that panics leaves the view alone. A view
that is mounted does not fetch again then. When it is unmounted it starts anew. -/

namespace ClusterConsole.View

/-- A failure that counts, or the panic of a task. -/
inductive Effect.Fails (w : World) : Effect → Prop
  | failed {e : Effect} {error : FetchError} (h : e.failure? w = some error) : Fails w e
  | panicked (task : Nat) : Fails w (.finish task .panicked)

namespace World
variable {w : World} {e : Effect}

theorem apply_of_failure {error : FetchError} (h : e.failure? w = some error) :
    w.apply e = { w with
      broadcast := w.broadcast.send (.failed error.message)
      log := w.log ++ [.fetchFailed] } := by
  cases e with
  | fail error' => cases h; rfl
  | loaded task answer =>
    cases answer with
    | ok nodes => cases h
    | error error' => cases h; rfl
  | complete task generation answer =>
    cases answer with
    | ok nodes => cases h
    | error error' =>
      simp only [Effect.failure?] at h
      split at h
      · rename_i hcurrent
        cases h
        rw [apply, complete, if_neg (not_not.mpr hcurrent)]
        rfl
      · cases h
  | _ => cases h

theorem ne_unmount_of_fails (h : e.Fails w) : e ≠ .unmount := by
  rintro rfl
  cases h with
  | failed h => cases h

/-- The answer of the fetch of a mounting counts as long as the view has not been unmounted. -/
theorem apply_complete_of_mounted {before since : List Effect} {task generation : Nat} (hstart : Mounting before task)
    (hsince : .unmount ∉ since)
    (hwork : (after (before ++ .mount :: since)).works[task]? = some (.fetch generation))
    (answer : Except FetchError (List NodeRecord)) :
    (after (before ++ .mount :: since)).apply (.complete task generation answer) =
      match answer with
      | .ok nodes => (after (before ++ .mount :: since)).succeed nodes
      | .error error => (after (before ++ .mount :: since)).fail error := by
  have hgeneration : (after (before ++ .mount :: since)).view.generation = generation := by
    cases (hstart.works since).symm.trans hwork
    exact hstart.generation_eq hsince
  cases answer <;> simp only [apply, complete, hgeneration, ne_eq, not_true, ↓reduceIte]

end World

open World in
/-- A failure that counts at any point of a run is told once and reported, and changes nothing else. A panic changes
    neither the view nor what is told, and the task takes no answer to the view. If the view is mounted then, mounting
    it does nothing but report that, in the same generation and without another fetch, until it is unmounted. From an
    unmounting on the view is as a new one, and the answer of the fetch of a mounting counts that is not unmounted. -/
theorem isolated_of_history {source : Source} {actions : List Action} {earlier later : List Effect} {e : Effect}
    (h : history source {} actions = earlier ++ e :: later) (hfails : e.Fails (after earlier)) :
    let w := after earlier
    (∀ error, e.failure? w = some error → w.apply e = { w with
        broadcast := w.broadcast.send (.failed error.message)
        log := w.log ++ [.fetchFailed] }) ∧
      (∀ task, e = .finish task .panicked → (w.apply e).view = w.view ∧ (w.apply e).broadcast = w.broadcast ∧
        ∀ e' ∈ earlier ++ e :: later, e'.answers? ≠ some task) ∧
      (w.view.mounted = true → ∀ mid rest, later = mid ++ rest → .unmount ∉ mid →
        let u := after (earlier ++ e :: mid)
        u.mount = (false, { u with log := u.log ++ [.alreadyMounted] }) ∧ u.view.mounted = true ∧
          u.view.generation = w.view.generation ∧
          ∀ task generation : Nat,
            u.works[task]? = some (.fetch generation) → w.works[task]? = some (.fetch generation)) ∧
      ∀ mid es rest, later = mid ++ .unmount :: (es ++ rest) →
        let past := after (earlier ++ e :: (mid ++ [.unmount]))
        let u := past.replay es
        Alike past u (replay {} (es.filterMap (Effect.anew past))) ∧
          ∀ before since task generation answer, es = before ++ .mount :: since →
            Mounting (earlier ++ e :: (mid ++ .unmount :: before)) task → .unmount ∉ since →
            rest.head? = some (.complete task generation answer) →
              u.apply (.complete task generation answer) =
                match answer with
                | .ok nodes => u.succeed nodes
                | .error error => u.fail error := by
  intro w
  refine ⟨fun error => apply_of_failure, ?_, fun hmounted => ?_, ?_⟩
  · rintro task rfl
    exact ⟨rfl, rfl, h ▸ answers?_ne_of_finish h nofun⟩
  · rintro mid rest rfl hmid u
    -- A failure is no unmounting, so that the view stays mounted up to here.
    have hu : u = w.replay (e :: mid) := after_append earlier (e :: mid)
    have hunmount : .unmount ∉ e :: mid := List.not_mem_cons_of_ne_of_not_mem (ne_unmount_of_fails hfails).symm hmid
    have hstill : u.view.mounted = true := hu ▸ mounted_of_not_mem_unmount hmounted hunmount
    refine ⟨mount_of_mounted hstill, hstill, ?_, fun task generation hfetch => ?_⟩
    · rw [hu, generation_replay, renewals_of_mounted hmounted hunmount, Nat.add_zero]
    · exact works_of_mounted hmounted hunmount (hu ▸ hfetch)
  · rintro mid es rest rfl past u
    -- What counts of a view right after an unmounting is what a new one has.
    have hpast : past = (after (earlier ++ e :: mid)).unmount := by
      show after (earlier ++ (e :: mid ++ [.unmount])) = _
      rw [← List.append_assoc, after_concat]
      rfl
    refine ⟨?_, ?_⟩
    · show Alike past (past.replay es) _
      rw [hpast]
      exact (alike_unmount _).replay es
    · rintro before since task generation answer rfl hstart hsince hnext
      -- The fetch of a later mounting is of the generation that began with it.
      obtain ⟨rest, rfl⟩ := List.head?_eq_some_iff.mp hnext
      have hu : u = after (earlier ++ e :: (mid ++ .unmount :: before) ++ .mount :: since) := by
        show (after _).replay _ = _
        rw [← after_append]
        simp
      have hsplit : history source {} actions = (earlier ++ e :: (mid ++ .unmount :: before) ++ .mount :: since) ++
          .complete task generation answer :: rest := by
        rw [h]
        simp
      rw [hu]
      exact apply_complete_of_mounted hstart hsince (timely_of_history hsplit).2 answer

/-- The first fetch fails and the second one panics. -/
def unlucky : Source :=
  .ofList [{ outcome := .failed (.status 503) }, { outcome := .panicked },
    { outcome := .answered [{ id := .numeric 1 }] }]

/-- Each fetch is followed by another mounting, and then by an unmounting and a mounting. -/
def remountedAfterFailures : List Action :=
  [.mount, .turn 0, .mount, .unmount, .mount, .turn 1, .mount, .unmount, .mount, .turn 2]

open World in
theorem isolated_of_remountedAfterFailures : let es := history unlucky {} remountedAfterFailures
    let failed := Effect.complete 0 1 (.error (.status 503))
    es = es.take 3 ++ failed :: es.drop 4 ∧ failed.Fails (after (es.take 3)) ∧
      ((after (es.take 3)).apply failed).view = (after (es.take 3)).view ∧
      es = es.take 10 ++ .finish 1 .panicked :: es.drop 11 ∧ (Effect.finish 1 .panicked).Fails (after (es.take 10)) ∧
      ((after (es.take 10)).apply (.finish 1 .panicked)).broadcast = (after (es.take 10)).broadcast ∧
      (after (es.take 11)).mount.1 = false ∧
      (after (es.take 16)).apply (.complete 2 5 (.ok [{ id := .numeric 1 }])) =
        (after (es.take 16)).succeed [{ id := .numeric 1 }] := by
  intro es failed
  have hsplit : es = es.take 3 ++ failed :: es.drop 4 := by decide +kernel
  have hfailure : failed.failure? (after (es.take 3)) = some (.status 503) := rfl
  have hsplit' : es = es.take 10 ++ .finish 1 .panicked :: es.drop 11 := by decide +kernel
  obtain ⟨hunchanged, -, -, -⟩ := isolated_of_history hsplit (.failed hfailure)
  obtain ⟨-, hpanic, hmounted, hanew⟩ := isolated_of_history hsplit' (.panicked 1)
  refine ⟨hsplit, .failed hfailure, by rw [hunchanged _ hfailure], hsplit', .panicked 1, (hpanic 1 rfl).2.1, ?_, ?_⟩
  · exact congrArg Prod.fst (hmounted rfl [] (es.drop 11) rfl nofun).1
  · have hlater : es.drop 11 = [.mount] ++ .unmount :: ((es.drop 13).take 3 ++ es.drop 16) := by decide +kernel
    obtain ⟨-, hfetch⟩ := hanew [.mount] ((es.drop 13).take 3) (es.drop 16) hlater
    exact hfetch [] ((es.drop 14).take 2) 2 5 _ rfl ⟨rfl, rfl⟩ (by decide +kernel) rfl

end ClusterConsole.View
