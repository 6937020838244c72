import ClusterConsole.Proofs.View.Announcement
import ClusterConsole.Proofs.View.Mounted

/-! # A new start

An unmounted view is as a new one, but for the count of generations. What it shows and tells from then on is what a new
view shows and tells that is given the same. Answers of fetches from before the unmounting are not given to it. -/

namespace ClusterConsole.View

/-- What an effect gives to a view that is new since the past. Its generations and tasks are counted from there. -/
def Effect.anew (past : World) : Effect → Option Effect
  | .complete task generation answer =>
    if generation < past.view.generation then none
    else some (.complete (task - past.works.length) (generation - past.view.generation) answer)
  | .openGate | .drain _ | .pick _ | .call _ _ | .wait _ _ | .resume _ | .join _ _ | .finish _ _ => none
  | e => some e

/-- A view with a past is as a view without it. -/
structure Alike (past w v : World) : Prop where
  nodes : w.view.nodes = v.view.nodes
  mounted : w.view.mounted = v.view.mounted
  generation : w.view.generation = past.view.generation + v.view.generation
  handle : w.view.handle = v.view.handle.map (past.works.length + ·)
  works : w.works.length = past.works.length + v.works.length
  sent : w.broadcast.sent = past.broadcast.sent ++ v.broadcast.sent

/-- An effect does to a world, in the parts that count, what the other one does to the other world. -/
structure Effect.Matches (past w v : World) (e e' : Effect) : Prop where
  unmount : e = .unmount ↔ e' = .unmount
  accepted : e.accepted? w = e'.accepted? v
  failure : e.failure? w = e'.failure? v
  mounts : e.mounts? = e'.mounts?
  renews : e.renews w = e'.renews v
  handles : e.handles? w = (e'.handles? v).map (Option.map (past.works.length + ·))
  works : (e.newWorks w).length = (e'.newWorks v).length

/-- An effect leaves the parts that count as they are. -/
structure Effect.Silent (w : World) (e : Effect) : Prop where
  unmount : e ≠ .unmount
  accepted : e.accepted? w = none
  failure : e.failure? w = none
  mounts : e.mounts? = none
  renews : e.renews w = false
  handles : e.handles? w = none
  works : e.newWorks w = []

namespace Alike
variable {past w v : World} {e e' : Effect}

theorem silent_of_none (h : Alike past w v) (he : e.anew past = none) : e.Silent w := by
  have hunmount : e ≠ .unmount := by
    rintro rfl
    cases he
  cases e with
  | complete task generation answer =>
    rw [Effect.anew] at he
    split at he
    · rename_i hold
      have hne : w.view.generation ≠ generation := by
        rw [h.generation]
        omega
      exact ⟨hunmount, by cases answer <;> simp [Effect.accepted?, hne],
        by cases answer <;> simp [Effect.failure?, hne], rfl, rfl, rfl, rfl⟩
    · cases he
  | openGate | drain _ | pick _ | call _ _ | wait _ _ | resume _ | join _ _ | finish _ _ =>
    exact ⟨hunmount, rfl, rfl, rfl, rfl, rfl, rfl⟩
  | _ => cases he

theorem matches_of_some (h : Alike past w v) (he : e.anew past = some e') : e.Matches past w v e' := by
  cases e with
  | complete task generation answer =>
    rw [Effect.anew] at he
    split at he
    · cases he
    · cases he
      have hcurrent : w.view.generation = generation ↔
          v.view.generation = generation - past.view.generation := by
        rw [h.generation]
        omega
      exact ⟨⟨nofun, nofun⟩, by cases answer <;> simp [Effect.accepted?, hcurrent],
        by cases answer <;> simp [Effect.failure?, hcurrent], rfl, rfl, rfl, rfl⟩
  | mount =>
    cases he
    refine ⟨Iff.rfl, rfl, rfl, rfl, ?_, ?_, ?_⟩
    · rw [Effect.renews, Effect.renews, h.mounted]
    · rw [Effect.handles?, Effect.handles?, h.mounted, h.works]
      cases v.view.mounted <;> rfl
    · rw [Effect.newWorks, Effect.newWorks, h.mounted]
      cases v.view.mounted <;> rfl
  | loaded task answer => cases he; cases answer <;> exact ⟨Iff.rfl, rfl, rfl, rfl, rfl, rfl, rfl⟩
  | unmount | settle | load | succeed _ | fail _ | subscribe | takeHandle _ =>
    cases he
    exact ⟨Iff.rfl, rfl, rfl, rfl, rfl, rfl, rfl⟩
  | _ => cases he

theorem apply_of_silent (h : Alike past w v) (he : e.Silent w) : Alike past (w.apply e) v where
  nodes := by rw [World.nodes_apply he.unmount, he.accepted]; exact h.nodes
  mounted := by rw [World.mounted_apply, he.mounts]; exact h.mounted
  generation := by rw [World.generation_apply, he.renews]; exact h.generation
  handle := by rw [World.handle_apply, he.handles]; exact h.handle
  works := by rw [World.works_apply, he.works, List.append_nil]; exact h.works
  sent := by
    rw [World.sent_apply, Effect.event?, he.accepted, he.failure, Option.toList_none, List.append_nil]
    exact h.sent

theorem apply_of_matches (h : Alike past w v) (he : e.Matches past w v e') : Alike past (w.apply e) (v.apply e') := by
  have hnodes : (w.apply e).view.nodes = (v.apply e').view.nodes := by
    by_cases hunmount : e = .unmount
    · rw [hunmount, he.unmount.mp hunmount]
      rfl
    · rw [World.nodes_apply hunmount, World.nodes_apply fun heq => hunmount (he.unmount.mpr heq), he.accepted, h.nodes]
  refine ⟨hnodes, ?_, ?_, ?_, ?_, ?_⟩
  · rw [World.mounted_apply, World.mounted_apply, he.mounts, h.mounted]
  · rw [World.generation_apply, World.generation_apply, he.renews, h.generation, Nat.add_assoc]
  · rw [World.handle_apply, World.handle_apply, he.handles, h.handle]
    cases e'.handles? v <;> rfl
  · rw [World.works_apply, World.works_apply, List.length_append, List.length_append, he.works, h.works, Nat.add_assoc]
  · have hevent : e.event? w = e'.event? v := by
      rw [Effect.event?, Effect.event?, he.accepted, he.failure, hnodes]
    rw [World.sent_apply, World.sent_apply, hevent, h.sent, List.append_assoc]

/-! ### From the unmounting on -/

theorem replay (h : Alike past w v) (es : List Effect) :
    Alike past (w.replay es) (v.replay (es.filterMap (Effect.anew past))) := by
  induction es generalizing w v with
  | nil => exact h
  | cons e es ih =>
    rw [List.filterMap_cons]
    cases he : e.anew past with
    | none => exact ih (h.apply_of_silent (h.silent_of_none he))
    | some e' => exact ih (h.apply_of_matches (h.matches_of_some he))

end Alike

theorem alike_unmount (w : World) : Alike w.unmount w.unmount {} :=
  ⟨rfl, rfl, rfl, World.handle_unmount, rfl, (List.append_nil _).symm⟩

end ClusterConsole.View
