import ClusterConsole.Time.Calendar

/-! # Instants

A moment as the whole second it falls in, counted from 1970-01-01 00:00:00 UTC, and the nanoseconds after
the start of that second. A leap second has no count of its own: it is the second before it with another
`10^9` nanoseconds. -/

namespace ClusterConsole

/-- A moment in time. -/
structure Instant where
  /-- The UNIX time of the second, rounded down. -/
  seconds : Int
  /-- The nanoseconds since that second began; `10^9` and more inside a leap second. -/
  nanos : Nat
deriving DecidableEq, Repr

namespace Instant

/-- The nanoseconds of a second. -/
def nanosPerSecond : Nat := 1000000000

/-- Whether the moment lies in a leap second. -/
def isLeap (t : Instant) : Bool :=
  nanosPerSecond ≤ t.nanos

/-- The first and the last millisecond that is a moment: the years -262143 to 262142. -/
def firstMillis : Int := -8334601228800000

/-- The last millisecond that is a moment. -/
def lastMillis : Int := 8210266876799999

/-- The moment of a count of milliseconds. -/
def ofMillis? (millis : Int) : Option Instant :=
  if firstMillis ≤ millis ∧ millis ≤ lastMillis then
    some ⟨millis / 1000, (millis % 1000).toNat * 1000000⟩
  else none

/-- The count of whole milliseconds. A leap second counts on into the second after it. -/
def toMillis (t : Instant) : Int :=
  t.seconds * 1000 + t.nanos / 1000000

end Instant

end ClusterConsole
