import ClusterConsole.Proofs.View.Broadcast
import ClusterConsole.Proofs.View.Collection
import ClusterConsole.Proofs.View.Ended

/-! # What is announced

Each list that is accepted is announced with its length, each failure that counts with its message, and nothing else
is. Subscribers are told in the order of the effects. -/

namespace ClusterConsole.View

/-- The error that counts in an effect. -/
def Effect.failure? (w : World) : Effect → Option FetchError
  | .fail error => some error
  | .loaded _ (.error error) => some error
  | .complete _ generation (.error error) => if w.view.generation = generation then some error else none
  | _ => none

/-- What an effect tells subscribers. The count is that of the list which is shown from then on. -/
def Effect.event? (w : World) (e : Effect) : Option Event :=
  match e.accepted? w, e.failure? w with
  | some _, _ => some (.replaced (w.apply e).view.nodes.length)
  | none, some error => some (.failed error.message)
  | none, none => none

/-- What a subscriber receives in an effect. -/
def Effect.receipts (w : World) (subscriber : Nat) : Effect → List Receipt
  | .drain drained => if drained = subscriber then (w.broadcast.drain subscriber).1 else []
  | _ => []

namespace World
variable {w : World}

/-- The events that effects tell in turn. -/
def announced (w : World) : List Effect → List Event
  | [] => []
  | e :: es => (e.event? w).toList ++ announced (w.apply e) es

/-- What a subscriber receives in turn. -/
def received (w : World) (subscriber : Nat) : List Effect → List Receipt
  | [] => []
  | e :: es => e.receipts w subscriber ++ received (w.apply e) subscriber es

theorem received_append (w : World) (subscriber : Nat) (es fs : List Effect) :
    w.received subscriber (es ++ fs) = w.received subscriber es ++ (w.replay es).received subscriber fs := by
  induction es generalizing w with
  | nil => rfl
  | cons e es ih => simp [received, ih]

/-! ### What is sent -/

theorem sent_complete (task generation : Nat) (answer : Except FetchError (List NodeRecord)) :
    (w.complete generation answer).broadcast.sent =
      w.broadcast.sent ++ ((Effect.complete task generation answer).event? w).toList := by
  by_cases hg : w.view.generation = generation
  · cases answer <;>
      simp [complete, hg, Effect.event?, Effect.accepted?, Effect.failure?, apply, succeed, fail, send, Broadcast.send,
        report]
  · cases answer <;> simp [complete, hg, Effect.event?, Effect.accepted?, Effect.failure?, report]

theorem sent_apply (e : Effect) : (w.apply e).broadcast.sent = w.broadcast.sent ++ (e.event? w).toList := by
  have silent : ∀ u : World, u.broadcast = w.broadcast → u.broadcast.sent = w.broadcast.sent ++ [] := by
    intro u hu
    rw [hu, List.append_nil]
  cases e with
  | mount => exact silent _ broadcast_mount
  | unmount => exact silent _ broadcast_unmount
  | openGate => exact silent _ broadcast_openGate
  | call task call => exact silent _ (broadcast_beginCall task call)
  | wait task rest => exact silent _ (broadcast_await task rest)
  | resume task => exact silent _ (broadcast_resume task)
  | takeHandle task => exact silent _ (broadcast_settle task)
  | join task target => exact silent _ (broadcast_join task target)
  | complete task generation answer => exact sent_complete task generation answer
  | loaded task answer => cases answer <;> rfl
  | succeed nodes => rfl
  | fail error => rfl
  | drain subscriber =>
    show (w.broadcast.drain subscriber).2.sent = w.broadcast.sent ++ []
    rw [Broadcast.sent_drain, List.append_nil]
  | subscribe => exact (List.append_nil _).symm
  | _ => exact silent _ rfl

theorem sent_replay (w : World) (es : List Effect) :
    (w.replay es).broadcast.sent = w.broadcast.sent ++ w.announced es := by
  induction es generalizing w with
  | nil => exact (List.append_nil _).symm
  | cons e es ih => rw [replay_cons, ih, sent_apply, announced, List.append_assoc]

/-! ### What is received -/

theorem positions_complete (generation : Nat) (answer : Except FetchError (List NodeRecord)) :
    (w.complete generation answer).broadcast.positions = w.broadcast.positions := by
  obtain ⟨nodes, sent, log, h⟩ := exists_complete_eq w generation answer
  rw [h]

/-- A subscriber moves only when it is drained, and then to the end. -/
theorem positions_apply {subscriber position : Nat} (e : Effect)
    (h : w.broadcast.positions[subscriber]? = some position) :
    e.receipts w subscriber = [] ∧ (w.apply e).broadcast.positions[subscriber]? = some position ∨
      e.receipts w subscriber = w.broadcast.receipts position ∧ e = .drain subscriber := by
  have kept : ∀ u : World, u.broadcast = w.broadcast → u.broadcast.positions[subscriber]? = some position := by
    intro u hu
    rw [hu, h]
  cases e with
  | drain drained =>
    by_cases heq : drained = subscriber
    · right
      subst heq
      exact ⟨(if_pos rfl).trans (Broadcast.drain_fst h), rfl⟩
    · left
      refine ⟨if_neg heq, ?_⟩
      show (w.broadcast.drain drained).2.positions[subscriber]? = _
      rw [Broadcast.positions_drain, if_neg heq, h]
  | subscribe =>
    left
    refine ⟨rfl, ?_⟩
    show (w.broadcast.positions ++ [w.broadcast.sent.length])[subscriber]? = _
    rw [List.getElem?_append_left (List.getElem?_eq_some_iff.mp h).1, h]
  | mount => exact Or.inl ⟨rfl, kept _ broadcast_mount⟩
  | unmount => exact Or.inl ⟨rfl, kept _ broadcast_unmount⟩
  | openGate => exact Or.inl ⟨rfl, kept _ broadcast_openGate⟩
  | call task call => exact Or.inl ⟨rfl, kept _ (broadcast_beginCall task call)⟩
  | wait task rest => exact Or.inl ⟨rfl, kept _ (broadcast_await task rest)⟩
  | resume task => exact Or.inl ⟨rfl, kept _ (broadcast_resume task)⟩
  | takeHandle task => exact Or.inl ⟨rfl, kept _ (broadcast_settle task)⟩
  | join task target => exact Or.inl ⟨rfl, kept _ (broadcast_join task target)⟩
  | complete task generation answer => exact Or.inl ⟨rfl, (congrArg (·[subscriber]?) (positions_complete _ _)).trans h⟩
  | loaded task answer => cases answer <;> exact Or.inl ⟨rfl, h⟩
  | _ => exact Or.inl ⟨rfl, h⟩

theorem positions_drain_self {subscriber position : Nat} (h : w.broadcast.positions[subscriber]? = some position) :
    (w.apply (.drain subscriber)).broadcast.positions[subscriber]? = some w.broadcast.sent.length := by
  show (w.broadcast.drain subscriber).2.positions[subscriber]? = _
  rw [Broadcast.positions_drain, if_pos rfl, h]
  rfl

/-- Up to where a subscriber is, what it has received accounts for what was sent since it was somewhere before. -/
theorem accounts_received {subscriber start : Nat} (hstart : w.broadcast.positions[subscriber]? = some start)
    (hle : start ≤ w.broadcast.sent.length) (es : List Effect) :
    ∃ position, (w.replay es).broadcast.positions[subscriber]? = some position ∧ start ≤ position ∧
      position ≤ (w.replay es).broadcast.sent.length ∧
      Accounts (w.received subscriber es) (((w.replay es).broadcast.sent.take position).drop start) := by
  -- From the last effect: what was received before it reaches up to the position, and only a drain moves that.
  induction es using List.reverseRecOn with
  | nil =>
    refine ⟨start, hstart, Nat.le_refl _, hle, ?_⟩
    rw [replay_nil, List.drop_take_self]
    exact .nil
  | append_singleton es e ih =>
    obtain ⟨position, hposition, hlater, hend, haccounts⟩ := ih
    have hreceived : w.received subscriber (es ++ [e]) =
        w.received subscriber es ++ e.receipts (w.replay es) subscriber := by
      rw [received_append]
      exact congrArg _ (List.append_nil _)
    rw [replay_append, hreceived]
    rcases positions_apply e hposition with ⟨hnone, hkept⟩ | ⟨hdrained, rfl⟩
    · refine ⟨position, hkept, hlater, ?_, ?_⟩
      · show position ≤ ((w.replay es).apply e).broadcast.sent.length
        rw [sent_apply, List.length_append]
        exact Nat.le_add_right_of_le hend
      · show Accounts _ ((((w.replay es).apply e).broadcast.sent.take position).drop start)
        rw [hnone, List.append_nil, sent_apply, List.take_append_of_le_length hend]
        exact haccounts
    · have hsent : ((w.replay es).apply (.drain subscriber)).broadcast.sent = (w.replay es).broadcast.sent :=
        Broadcast.sent_drain _ _
      refine ⟨(w.replay es).broadcast.sent.length, positions_drain_self hposition, Nat.le_trans hlater hend, ?_, ?_⟩
      · exact Nat.le_of_eq (congrArg List.length hsent).symm
      · show Accounts _ ((((w.replay es).apply (.drain subscriber)).broadcast.sent.take _).drop start)
        rw [hsent, List.take_length, hdrained]
        exact Broadcast.accounts_drop hlater hend haccounts

/-- What a subscriber has received when it is drained accounts for all that was announced since it subscribed. -/
theorem accounts_announced {subscriber : Nat}
    (hstart : w.broadcast.positions[subscriber]? = some w.broadcast.sent.length) (es : List Effect) :
    Accounts (w.received subscriber (es ++ [.drain subscriber])) (w.announced es) := by
  obtain ⟨position, hposition, -⟩ := accounts_received hstart (Nat.le_refl _) es
  obtain ⟨last, hlast, -, -, haccounts⟩ := accounts_received hstart (Nat.le_refl _) (es ++ [.drain subscriber])
  rw [replay_append] at hlast haccounts
  have hend : last = (w.replay es).broadcast.sent.length :=
    Option.some.inj (hlast.symm.trans (positions_drain_self hposition))
  have hsent : ((w.replay es).replay [.drain subscriber]).broadcast.sent = (w.replay es).broadcast.sent :=
    Broadcast.sent_drain _ _
  rwa [hend, hsent, List.take_length, sent_replay, List.drop_left] at haccounts

/-- A loss is reported in a drain. -/
theorem exists_drain_of_lag {subscriber n : Nat} {es : List Effect} (h : .lagged n ∈ w.received subscriber es) :
    ∃ earlier later, es = earlier ++ .drain subscriber :: later ∧
      .lagged n ∈ ((w.replay earlier).broadcast.drain subscriber).1 := by
  induction es generalizing w with
  | nil => cases h
  | cons e es ih =>
    rcases List.mem_append.mp h with hreceipt | hlater
    · cases e with
      | drain drained =>
        by_cases heq : drained = subscriber
        · subst heq
          exact ⟨[], es, rfl, by rwa [Effect.receipts, if_pos rfl] at hreceipt⟩
        · rw [Effect.receipts, if_neg heq] at hreceipt
          cases hreceipt
      | _ => cases hreceipt
    · obtain ⟨earlier, later, rfl, hlag⟩ := ih hlater
      exact ⟨e :: earlier, later, rfl, hlag⟩

end World

/-- The outcome of a fetch is announced when nothing has mounted or unmounted the view since the mounting that started
    the fetch. -/
theorem event?_complete_iff_current {es : List Effect} {task generation : Nat}
    {answer : Except FetchError (List NodeRecord)} (h : (after es).works[task]? = some (.fetch generation)) :
    (Effect.complete task generation answer).event? (after es) ≠ none ↔ Current es task := by
  rw [← generation_eq_iff_current h]
  by_cases hg : (after es).view.generation = generation
  · cases answer <;> simp [Effect.event?, Effect.accepted?, Effect.failure?, hg]
  · cases answer <;> simp [Effect.event?, Effect.accepted?, Effect.failure?, hg]

open World in
/-- What subscriber `k` receives, from its subscribing up to any of its drains, accounts for what is announced in
    between: each accepted list with its length and each failure that counts with its message. The outcome of a fetch
    that is overtaken is not announced, and a task that is cancelled or panics has none. The subscriber receives the
    events in their turn, without the ones it is told to be lost. When it is told of lost ones in a drain it receives
    the newest that are kept, and when it is never further behind than that it receives them all. -/
theorem receipts_of_history {source : Source} {actions : List Action} {before mid rest : List Effect} {k : Nat}
    (h : history source {} actions = before ++ .subscribe :: (mid ++ .drain k :: rest))
    (hk : (after before).broadcast.positions.length = k) :
    let start := after (before ++ [.subscribe])
    let drained := start.replay mid
    let last := (drained.broadcast.drain k).1
    let receipts := start.received k mid ++ last
    let events := start.announced mid
    run source {} actions = (drained.apply (.drain k)).replay rest ∧
      drained.broadcast.sent = (after before).broadcast.sent ++ events ∧
      (∀ earlier task generation answer later, mid = earlier ++ .complete task generation answer :: later →
        ((Effect.complete task generation answer).event? (start.replay earlier) ≠ none ↔
          Current (before ++ .subscribe :: earlier) task)) ∧
      (∀ task how, how ≠ .finished → .finish task how ∈ history source {} actions →
        ∀ e ∈ mid, e.answers? ≠ some task) ∧
      Accounts receipts events ∧ (delivered receipts).Sublist events ∧
      missed receipts + (delivered receipts).length = events.length ∧
      (∀ n, .lagged n ∈ last → (delivered last).length = Broadcast.capacity ∧
        delivered last = drained.broadcast.sent.drop (drained.broadcast.sent.length - Broadcast.capacity)) ∧
      ((∀ earlier later, mid = earlier ++ later →
        (start.replay earlier).broadcast.behind k ≤ Broadcast.capacity) → receipts = events.map .event) := by
  intro start drained last receipts events
  have hstart : ∀ es, start.replay es = after (before ++ .subscribe :: es) := by
    intro es
    rw [← after_append, List.append_assoc]
    rfl
  have hbegun : start.broadcast = (after before).broadcast.subscribe := by
    show (after (before ++ [.subscribe])).broadcast = _
    rw [after_append]
    rfl
  have hsent : drained.broadcast.sent = (after before).broadcast.sent ++ events := by
    have hbegin : start.broadcast.sent = (after before).broadcast.sent := by
      rw [hbegun]
      rfl
    rw [← hbegin]
    exact sent_replay start mid
  have hlast : receipts = start.received k (mid ++ [.drain k]) := by
    rw [received_append]
    show _ = _ ++ (Effect.receipts _ k (.drain k) ++ [])
    rw [Effect.receipts, if_pos rfl, List.append_nil]
  have haccounts : Accounts receipts events := by
    rw [hlast]
    refine accounts_announced ?_ mid
    rw [hbegun, ← hk]
    exact List.getElem?_concat_length
  refine ⟨?_, hsent, ?_, ?_, haccounts, haccounts.delivered_sublist, haccounts.missed_add_length, ?_, ?_⟩
  · rw [← replay_history, h]
    show after _ = _
    rw [List.append_cons, after_append, replay_append]
    rfl
  · rintro earlier task generation answer later rfl
    rw [hstart]
    have hsplit : history source {} actions = (before ++ .subscribe :: earlier) ++
        .complete task generation answer :: (later ++ .drain k :: rest) := by
      rw [h]
      simp
    exact event?_complete_iff_current (sound_of_history hsplit)
  · intro task how hhow hfinish e he
    obtain ⟨xs, ys, hsplit⟩ := List.append_of_mem hfinish
    refine answers?_ne_of_finish hsplit hhow e ?_
    rw [h]
    simp [he]
  · intro n hn
    obtain ⟨hbehind, hnewest⟩ := Broadcast.newest_of_lag_drain hn
    refine ⟨?_, hnewest⟩
    have hle : drained.broadcast.behind k ≤ drained.broadcast.sent.length := Nat.sub_le _ _
    rw [hnewest, List.length_drop]
    omega
  · intro hbehind
    refine haccounts.eq_map_of_noLag fun n hn => ?_
    rw [hlast] at hn
    obtain ⟨earlier, later, hsplit, hlag⟩ := exists_drain_of_lag hn
    -- The drain that reports the loss is the last one or comes before it.
    obtain ⟨more, hmore⟩ : ∃ more, mid = earlier ++ more := by
      rcases List.append_eq_append_iff.mp hsplit with ⟨between, rfl, hdrain⟩ | ⟨between, rfl, -⟩
      · cases between with
        | nil => exact ⟨[], by simp⟩
        | cons e between => exact absurd (congrArg List.length hdrain) (by simp)
      · exact ⟨between, rfl⟩
    exact Nat.not_le_of_lt (Broadcast.newest_of_lag_drain hlag).1 (hbehind earlier more hmore)

/-- More failures than are kept for subscribers. -/
def backlog : List Effect :=
  List.replicate 18 (.fail (.status 503))

open World in
theorem receipts_of_backlog : let actions := .subscribe :: (List.replicate 18 (.fail (.status 503)) ++ [.drain 0])
    let start := after [.subscribe]
    let last := ((start.replay backlog).broadcast.drain 0).1
    history (.ofList []) {} actions = [] ++ .subscribe :: (backlog ++ .drain 0 :: []) ∧
      (after []).broadcast.positions.length = 0 ∧ .lagged 2 ∈ last ∧ (delivered last).length = Broadcast.capacity ∧
      missed (start.received 0 backlog ++ last) + (delivered (start.received 0 backlog ++ last)).length = 18 := by
  intro actions start last
  have hsplit : history (.ofList []) {} actions = [] ++ .subscribe :: (backlog ++ .drain 0 :: []) := rfl
  have hlag : .lagged 2 ∈ last := by decide +kernel
  obtain ⟨-, -, -, -, -, -, hsum, hnewest, -⟩ := receipts_of_history hsplit rfl
  exact ⟨hsplit, rfl, hlag, (hnewest 2 hlag).1, hsum⟩

end ClusterConsole.View
