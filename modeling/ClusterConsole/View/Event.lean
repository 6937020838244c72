/-! # Events of a view

A view tells its subscribers what became of its fetches. It keeps the newest events for them; a subscriber
that has fallen further behind is told how many it missed. -/

namespace ClusterConsole.View

/-- An event of a view. -/
inductive Event where
  | replaced (count : Nat)
  | failed (reason : String)
deriving DecidableEq, Repr

/-- What a subscriber receives. -/
inductive Receipt where
  /-- This many events are lost to the subscriber. -/
  | lagged (missed : Nat)
  | event (event : Event)
deriving DecidableEq, Repr

/-- The events so far, and for each subscriber how many of them are behind it. -/
structure Broadcast where
  sent : List Event := []
  positions : List Nat := []
deriving DecidableEq, Repr

namespace Broadcast

/-- How many events are kept for subscribers. -/
def capacity : Nat := 16

/-- One more event. -/
def send (b : Broadcast) (event : Event) : Broadcast :=
  { b with sent := b.sent ++ [event] }

/-- One more subscriber. It receives what is sent from now on. -/
def subscribe (b : Broadcast) : Broadcast :=
  { b with positions := b.positions ++ [b.sent.length] }

/-- What is received from a position on: the newest events, after the number of those that are lost. -/
def receipts (b : Broadcast) (position : Nat) : List Receipt :=
  let missed := b.sent.length - capacity - position
  let events := (b.sent.drop (position + missed)).map Receipt.event
  if missed = 0 then events else .lagged missed :: events

/-- A subscriber receives all that is there for it. -/
def drain (b : Broadcast) (subscriber : Nat) : List Receipt × Broadcast :=
  match b.positions[subscriber]? with
  | none => ([], b)
  | some position => (b.receipts position, { b with positions := b.positions.set subscriber b.sent.length })

end Broadcast

end ClusterConsole.View
