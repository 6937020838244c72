import Mathlib.Data.List.Induction
import ClusterConsole.Proofs.View.Frame

/-! # A single visit

Whoever visits a view mounts it, waits for the end of the fetch, and looks at what is shown then. Between the two the
fetch and the waiting task take turns in any order, and the fetch may wait at any number of gates for as long as it
likes. The waiting task does not end before the fetch has, and when that has ended its outcome is shown. -/

namespace ClusterConsole

/-- The nodes to show after an outcome: those of the answer in their order, and none without an answer. -/
def Outcome.shown : Outcome (List NodeRecord) → List NodeRecord
  | .answered nodes => NodeRecord.sort nodes
  | _ => []

/-- How a task ends that comes to an outcome. -/
def Outcome.ending {α : Type} : Outcome α → View.End
  | .panicked => .panicked
  | _ => .finished

namespace View

/-- An action that nobody asks of the view: a task has its turn or a gate opens. -/
inductive Action.Unasked : Action → Prop
  | turn (task : Nat) : Unasked (.turn task)
  | openGate : Unasked .openGate

/-- A visit to a new view: the mounting, a task that waits, and what goes on by itself. -/
def World.visitBy (source : Source) (actions : List Action) : World :=
  World.run source {} (.mount :: .settle :: actions)

/-- The world of a visit when its fetch and its waiting task have come to these stages. -/
def World.visiting (outcome : Outcome (List NodeRecord)) (fetch waiter : Stage) (ready : List Nat)
    (broadcast : Broadcast) (log : List LogEntry) : World where
  view := {
    nodes := if fetch = .ended outcome.ending then outcome.shown else []
    mounted := true
    generation := 1
    handle := if waiter = .spawned then some 0 else none }
  tasks := [⟨.fetch 1, fetch⟩, ⟨.settle, waiter⟩]
  ready
  gates := match fetch with
    | .waiting _ _ => [0]
    | _ => []
  calls := if fetch = .spawned then 0 else 1
  broadcast
  log

/-- The stages of the fetch of a visit before its end, when nothing is left of its call but waits. -/
inductive Stage.Underway : Stage → Prop
  | spawned : Underway .spawned
  | waiting {rest : List Step} (h : ∀ step ∈ rest, step = .wait) : Underway (.waiting 0 rest)
  | released {rest : List Step} (h : ∀ step ∈ rest, step = .wait) : Underway (.released 0 rest)

/-- How far a visit is: the fetch goes on, or it has ended and the waiting task is yet to see it, or both have ended. -/
inductive Visit (outcome : Outcome (List NodeRecord)) : World → Prop
  | fetching {fetch waiter : Stage} {ready : List Nat} {broadcast : Broadcast} {log : List LogEntry}
      (hfetch : fetch.Underway) (hwaiter : waiter = .spawned ∨ waiter = .joining 0)
      (hready : (∀ rest, fetch ≠ .waiting 0 rest) → 0 ∈ ready)
      (hwaits : waiter = .spawned → 1 ∈ ready) : Visit outcome (.visiting outcome fetch waiter ready broadcast log)
  | fetched {waiter : Stage} {ready : List Nat} {broadcast : Broadcast} {log : List LogEntry}
      (hwaiter : waiter = .spawned ∨ waiter = .joining 0) (hready : 1 ∈ ready) :
      Visit outcome (.visiting outcome (.ended outcome.ending) waiter ready broadcast log)
  | left {ready : List Nat} {broadcast : Broadcast} {log : List LogEntry} :
      Visit outcome (.visiting outcome (.ended outcome.ending) (.ended .finished) ready broadcast log)

namespace Visit
variable {source : Source} {outcome : Outcome (List NodeRecord)} {w : World}

theorem start (source : Source) (outcome : Outcome (List NodeRecord)) : Visit outcome (World.visitBy source []) := by
  have hopening : World.visitBy source [] = .visiting outcome .spawned .spawned [0, 1] {} [] := by
    unfold World.visiting
    rw [if_neg nofun]
    rfl
  rw [hopening]
  exact fetching .spawned (.inl rfl) (fun _ => List.mem_cons_self) fun _ => List.mem_cons_of_mem 0 List.mem_cons_self

/-- The fetch goes on in its call: it comes to a gate, or to its end, and then it wakes the waiting task if that is there
    already. -/
theorem proceed {rest : List Step} (hrest : ∀ step ∈ rest, step = .wait) {waiter : Stage} {ready : List Nat}
    {broadcast : Broadcast} {log : List LogEntry} (hwaiter : waiter = .spawned ∨ waiter = .joining 0)
    (hwaits : waiter = .spawned → 1 ∈ ready)
    (hw : w = { World.visiting outcome (.released 0 rest) waiter ready broadcast log with
      tasks := [⟨.fetch 1, .running 0 false⟩, ⟨.settle, waiter⟩] }) :
    Visit outcome (w.proceed 0 (.fetch 1) outcome rest) := by
  subst hw
  have hjoins : ∀ u : World, u.tasks = [⟨.fetch 1, .running 0 false⟩, ⟨.settle, .joining 0⟩] → 1 ∈ u.joiners 0 := by
    intro u hu
    simp [World.joiners, World.stage?, hu]
  cases rest with
  | nil =>
    rcases hwaiter with rfl | rfl
    · cases outcome <;> exact fetched (.inl rfl) (List.mem_append_left _ (hwaits rfl))
    · cases outcome <;> exact fetched (.inr rfl) (List.mem_append_right _ (hjoins _ rfl))
  | cons step rest =>
    obtain ⟨rfl, hlater⟩ := List.forall_mem_cons.mp hrest
    exact fetching (.waiting hlater) hwaiter (fun hne => absurd rfl (hne rest)) hwaits

/-- The turn of the fetch. -/
theorem poll_fetch (hsteps : ∀ step ∈ (source 0).steps, step = .wait) (h : Visit (source 0).outcome w) :
    Visit (source 0).outcome (({ w with ready := w.ready.erase 0 } : World).poll source 0) := by
  have hother : ∀ {ready : List Nat}, 1 ∈ ready → 1 ∈ ready.erase 0 := fun h => (List.mem_erase_of_ne (by decide)).mpr h
  cases h with
  | fetching hfetch hwaiter hready hwaits =>
    cases hfetch with
    | spawned => exact proceed hsteps hwaiter (fun hspawned => hother (hwaits hspawned)) rfl
    | waiting hrest =>
      exact fetching (.waiting hrest) hwaiter (fun hne => absurd rfl (hne _)) fun hspawned => hother (hwaits hspawned)
    | released hrest => exact proceed hrest hwaiter (fun hspawned => hother (hwaits hspawned)) rfl
  | fetched hwaiter hready => exact fetched hwaiter (hother hready)
  | left => exact left

/-- The turn of the waiting task. -/
theorem poll_waiter (h : Visit outcome w) :
    Visit outcome (({ w with ready := w.ready.erase 1 } : World).poll source 1) := by
  have hother : ∀ {ready : List Nat}, 0 ∈ ready → 0 ∈ ready.erase 1 := fun h => (List.mem_erase_of_ne (by decide)).mpr h
  cases h with
  | fetching hfetch hwaiter hready hwaits =>
    -- The fetch has not ended, so the task begins to wait for it, or waits on.
    cases hfetch with
    | spawned =>
      rcases hwaiter with rfl | rfl <;>
        exact fetching .spawned (.inr rfl) (fun hne => hother (hready hne)) nofun
    | waiting hrest =>
      rcases hwaiter with rfl | rfl <;>
        exact fetching (.waiting hrest) (.inr rfl) (fun hne => absurd rfl (hne _)) nofun
    | released hrest =>
      rcases hwaiter with rfl | rfl <;>
        exact fetching (.released hrest) (.inr rfl) (fun hne => hother (hready hne)) nofun
  | fetched hwaiter hready =>
    rcases hwaiter with rfl | rfl <;> cases outcome <;> exact left
  | left => exact left

theorem turn (hsteps : ∀ step ∈ (source 0).steps, step = .wait) (h : Visit (source 0).outcome w) (task : Nat) :
    Visit (source 0).outcome (w.turn source task) := by
  unfold World.turn
  split
  · match task with
    | 0 => exact poll_fetch hsteps h
    | 1 => exact poll_waiter h
    | task + 2 =>
      have hother : ∀ {ready : List Nat} {i : Nat}, i < 2 → i ∈ ready → i ∈ ready.erase (task + 2) :=
        fun hlt hmem => (List.mem_erase_of_ne (by omega)).mpr hmem
      cases h with
      | fetching hfetch hwaiter hready hwaits =>
        exact fetching hfetch hwaiter (fun hne => hother (by decide) (hready hne))
          fun hspawned => hother (by decide) (hwaits hspawned)
      | fetched hwaiter hready => exact fetched hwaiter (hother (by decide) hready)
      | left => exact left
  · exact h

theorem openGate (h : Visit outcome w) : Visit outcome w.openGate := by
  cases h with
  | fetching hfetch hwaiter hready hwaits =>
    cases hfetch with
    | spawned => exact fetching .spawned hwaiter hready hwaits
    | waiting hrest =>
      exact fetching (.released hrest) hwaiter (fun _ => List.mem_append_right _ List.mem_cons_self)
        fun hspawned => List.mem_append_left _ (hwaits hspawned)
    | released hrest => exact fetching (.released hrest) hwaiter hready hwaits
  | fetched hwaiter hready => exact fetched hwaiter hready
  | left => exact left

theorem visitBy (hsteps : ∀ step ∈ (source 0).steps, step = .wait) {actions : List Action}
    (hactions : ∀ a ∈ actions, a.Unasked) :
    Visit (source 0).outcome (World.visitBy source actions) := by
  induction actions using List.reverseRecOn with
  | nil => exact start source _
  | append_singleton actions action ih =>
    obtain ⟨hearlier, hlast⟩ := List.forall_mem_append.mp hactions
    have hrun : World.visitBy source (actions ++ [action]) = (World.visitBy source actions).act source action :=
      List.foldl_append
    rw [hrun]
    cases hlast action List.mem_cons_self with
    | turn task => exact (ih hearlier).turn hsteps task
    | openGate => exact (ih hearlier).openGate

theorem calls_le_one (h : Visit outcome w) : w.calls ≤ 1 := by
  have hcalls : ∀ fetch waiter ready broadcast log,
      (World.visiting outcome fetch waiter ready broadcast log).calls ≤ 1 := by
    intro fetch waiter ready broadcast log
    unfold World.visiting
    dsimp only
    split <;> decide
  cases h <;> exact hcalls _ _ _ _ _

/-- When the waiting task has ended the outcome of the one call is shown. -/
theorem shown_of_ended (h : Visit outcome w) (hended : w.hasEnded 1 = true) :
    w.calls = 1 ∧ w.view.nodes = outcome.shown := by
  cases h with
  | fetching _ hwaiter => rcases hwaiter with rfl | rfl <;> cases hended
  | fetched hwaiter => rcases hwaiter with rfl | rfl <;> cases hended
  | left => exact ⟨rfl, if_pos rfl⟩

/-- When nothing goes on by itself any more the waiting task has ended. -/
theorem ended_of_quiet (h : Visit outcome w) (hready : w.ready = []) (hgates : w.gates = []) :
    w.hasEnded 1 = true := by
  cases h with
  | fetching hfetch _ hmem =>
    obtain rfl : _ = [] := hready
    cases hfetch with
    | spawned => exact absurd (hmem nofun) List.not_mem_nil
    | waiting hrest => cases hgates
    | released hrest => exact absurd (hmem nofun) List.not_mem_nil
  | fetched _ hmem =>
    obtain rfl : _ = [] := hready
    exact absurd hmem List.not_mem_nil
  | left => rfl

end Visit
end View
end ClusterConsole
