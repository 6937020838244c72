import ClusterConsole.View.Event

/-! # What a subscriber receives

Receipts account for events when each event is received in its turn or is among those that a report of lost ones
counts. So nothing is received twice or out of order, and events and losses together are as many as were sent. -/

namespace ClusterConsole.View

namespace Receipt

/-- The event that is received, if it is one. -/
def event? : Receipt → Option Event
  | .event sent => some sent
  | .lagged _ => none

/-- How many events a receipt reports as lost. -/
def lost : Receipt → Nat
  | .event _ => 0
  | .lagged missed => missed

end Receipt

/-- The events among receipts. -/
def delivered (receipts : List Receipt) : List Event :=
  receipts.filterMap Receipt.event?

/-- How many events receipts report as lost. -/
def missed : List Receipt → Nat
  | [] => 0
  | receipt :: receipts => receipt.lost + missed receipts

theorem delivered_map_event (events : List Event) : delivered (events.map .event) = events := by
  induction events with
  | nil => rfl
  | cons e events ih => exact congrArg (e :: ·) ih

/-- Receipts account for events: each event is received in its turn, or is one of those that the report in its place
    counts. -/
inductive Accounts : List Receipt → List Event → Prop
  | nil : Accounts [] []
  | event {receipts : List Receipt} {events : List Event} (e : Event) (h : Accounts receipts events) :
    Accounts (.event e :: receipts) (e :: events)
  | lagged {receipts : List Receipt} {events : List Event} (lost : List Event) (h : Accounts receipts events) :
    Accounts (.lagged lost.length :: receipts) (lost ++ events)

namespace Accounts
variable {receipts more : List Receipt} {events further : List Event}

theorem append (h : Accounts receipts events) (h' : Accounts more further) :
    Accounts (receipts ++ more) (events ++ further) := by
  induction h with
  | nil => exact h'
  | event e _ ih => exact .event e ih
  | lagged lost _ ih =>
    rw [List.append_assoc]
    exact .lagged lost ih

theorem map_event (events : List Event) : Accounts (events.map .event) events := by
  induction events with
  | nil => exact .nil
  | cons e events ih => exact .event e ih

theorem delivered_sublist (h : Accounts receipts events) : (delivered receipts).Sublist events := by
  induction h with
  | nil => exact .slnil
  | event e _ ih => exact ih.cons_cons e
  | lagged lost _ ih => exact ih.trans (List.sublist_append_right lost _)

theorem missed_add_length (h : Accounts receipts events) :
    missed receipts + (delivered receipts).length = events.length := by
  induction h with
  | nil => rfl
  | @event receipts events e _ ih =>
    have hmissed : missed (.event e :: receipts) = missed receipts := Nat.zero_add _
    have hdelivered : delivered (.event e :: receipts) = e :: delivered receipts := rfl
    rw [hmissed, hdelivered, List.length_cons, List.length_cons]
    omega
  | @lagged receipts events lost _ ih =>
    have hmissed : missed (.lagged lost.length :: receipts) = lost.length + missed receipts := rfl
    have hdelivered : delivered (.lagged lost.length :: receipts) = delivered receipts := rfl
    rw [hmissed, hdelivered, List.length_append]
    omega

/-- Where no loss is reported, every event is received. -/
theorem eq_map_of_noLag (h : Accounts receipts events) (hlag : ∀ n, .lagged n ∉ receipts) :
    receipts = events.map .event := by
  induction h with
  | nil => rfl
  | event e _ ih => rw [List.map_cons, ← ih fun n hn => hlag n (List.mem_cons_of_mem _ hn)]
  | lagged lost _ _ => exact absurd List.mem_cons_self (hlag lost.length)

end Accounts

namespace Broadcast
variable {b : Broadcast} {position subscriber : Nat}

/-- How many events a subscriber has not received or been told of as lost. -/
def behind (b : Broadcast) (subscriber : Nat) : Nat :=
  b.sent.length - b.positions.getD subscriber 0

theorem receipts_of_le (h : b.sent.length - position ≤ capacity) :
    b.receipts position = (b.sent.drop position).map .event := by
  have hmissed : b.sent.length - capacity - position = 0 := by omega
  unfold receipts
  rw [hmissed]
  rfl

theorem receipts_of_lt (h : capacity < b.sent.length - position) :
    b.receipts position = .lagged (b.sent.length - capacity - position) ::
      (b.sent.drop (b.sent.length - capacity)).map .event := by
  have hmissed : b.sent.length - capacity - position ≠ 0 := by omega
  have hsum : position + (b.sent.length - capacity - position) = b.sent.length - capacity := by omega
  unfold receipts
  dsimp only
  rw [if_neg hmissed, hsum]

theorem accounts_receipts (b : Broadcast) (position : Nat) : Accounts (b.receipts position) (b.sent.drop position) := by
  by_cases h : b.sent.length - position ≤ capacity
  · rw [receipts_of_le h]
    exact .map_event _
  · have hlt : capacity < b.sent.length - position := Nat.lt_of_not_le h
    have hlost : ((b.sent.drop position).take (b.sent.length - capacity - position)).length =
        b.sent.length - capacity - position := by
      rw [List.length_take, List.length_drop]
      omega
    have hrest : (b.sent.drop position).drop (b.sent.length - capacity - position) =
        b.sent.drop (b.sent.length - capacity) := by
      rw [List.drop_drop]
      congr 1
      omega
    rw [receipts_of_lt hlt, ← List.take_append_drop (b.sent.length - capacity - position) (b.sent.drop position), hrest]
    have haccounts := Accounts.lagged ((b.sent.drop position).take (b.sent.length - capacity - position))
      (Accounts.map_event (b.sent.drop (b.sent.length - capacity)))
    rwa [hlost] at haccounts

/-- What was received up to a position and what is received from there account for all since an earlier one. -/
theorem accounts_drop {start : Nat} {receipts : List Receipt} (hstart : start ≤ position)
    (hend : position ≤ b.sent.length) (h : Accounts receipts ((b.sent.take position).drop start)) :
    Accounts (receipts ++ b.receipts position) (b.sent.drop start) := by
  have hsplit : b.sent.drop start = (b.sent.take position).drop start ++ b.sent.drop position := by
    have hle : start ≤ (b.sent.take position).length := by
      rw [List.length_take]
      omega
    rw [← List.drop_append_of_le_length hle, List.take_append_drop]
  rw [hsplit]
  exact h.append (b.accounts_receipts position)

/-- A loss is reported only to a subscriber that is too far behind, and what it receives then is all that is kept. -/
theorem newest_of_lag {n : Nat} (h : .lagged n ∈ b.receipts position) : capacity < b.sent.length - position ∧
    delivered (b.receipts position) = b.sent.drop (b.sent.length - capacity) := by
  by_cases hle : b.sent.length - position ≤ capacity
  · rw [receipts_of_le hle] at h
    obtain ⟨_, -, heq⟩ := List.mem_map.mp h
    cases heq
  · have hlt : capacity < b.sent.length - position := Nat.lt_of_not_le hle
    refine ⟨hlt, ?_⟩
    rw [receipts_of_lt hlt]
    exact delivered_map_event _

/-! ### Draining -/

theorem drain_fst (h : b.positions[subscriber]? = some position) : (b.drain subscriber).1 = b.receipts position := by
  unfold drain
  rw [h]

@[simp] theorem sent_drain (b : Broadcast) (subscriber : Nat) : (b.drain subscriber).2.sent = b.sent := by
  unfold drain
  split <;> rfl

/-- Draining brings a subscriber up to the last event, and no other one. -/
theorem positions_drain (b : Broadcast) (drained subscriber : Nat) : (b.drain drained).2.positions[subscriber]? =
    if drained = subscriber then b.positions[subscriber]?.map fun _ => b.sent.length
    else b.positions[subscriber]? := by
  unfold drain
  cases hdrained : b.positions[drained]? with
  | none =>
    dsimp only
    split
    · rename_i heq
      rw [← heq, hdrained]
      rfl
    · rfl
  | some position =>
    dsimp only
    rw [List.getElem?_set]
    split
    · rename_i heq
      rw [if_pos (List.getElem?_eq_some_iff.mp hdrained).1, ← heq, hdrained]
      rfl
    · rfl

theorem behind_eq (h : b.positions[subscriber]? = some position) : b.behind subscriber = b.sent.length - position := by
  unfold behind
  rw [List.getD_eq_getElem?_getD, h]
  rfl

theorem newest_of_lag_drain {n : Nat} (h : .lagged n ∈ (b.drain subscriber).1) : capacity < b.behind subscriber ∧
    delivered (b.drain subscriber).1 = b.sent.drop (b.sent.length - capacity) := by
  cases hposition : b.positions[subscriber]? with
  | none =>
    unfold drain at h
    rw [hposition] at h
    cases h
  | some position =>
    rw [drain_fst hposition] at h ⊢
    rw [behind_eq hposition]
    exact newest_of_lag h

end Broadcast
end ClusterConsole.View
