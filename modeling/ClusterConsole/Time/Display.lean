import ClusterConsole.Number.Decimal
import ClusterConsole.Time.Instant

/-! # How times are shown

Date and time to the second, in UTC or in local time, which is five and a half hours ahead of it. Years
from 0 to 9999 have four digits; all others have a sign and at least four. -/

namespace ClusterConsole

/-- The zone in which times are shown. -/
inductive DisplayZone where
  | «local»
  | utc
deriving DecidableEq, Repr, Inhabited

namespace DisplayZone

/-- The zone used when none is asked for. -/
def default : DisplayZone := .local

/-- How far local time is ahead of UTC, in seconds. -/
def localOffset : Int := 5 * 3600 + 30 * 60

/-- How far the zone is ahead of UTC, in seconds. -/
def offset : DisplayZone → Int
  | .local => localOffset
  | .utc => 0

end DisplayZone

/-- The text of a year. -/
def yearText (year : Int) : List Char :=
  if 0 ≤ year ∧ year ≤ 9999 then Decimal.padded 4 year.natAbs
  else (if year < 0 then '-' else '+') :: Decimal.padded 4 year.natAbs

/-- The text of a field of a date and a time of day, by its letter. A leap second is second 60. Other letters name no
    field and have no text. -/
def fieldText (date : Date) (second : Nat) (leap : Bool) : Char → List Char
  | 'Y' => yearText date.year
  | 'm' => Decimal.padded 2 date.month.natAbs
  | 'd' => Decimal.padded 2 date.day.natAbs
  | 'H' => Decimal.padded 2 (second / 3600)
  | 'M' => Decimal.padded 2 (second / 60 % 60)
  | 'S' => Decimal.padded 2 (second % 60 + if leap then 1 else 0)
  | _ => []

/-- A pattern with its fields filled in. A percent sign and a letter stand for a field, and all else for itself. -/
def filled (field : Char → List Char) : List Char → List Char
  | '%' :: letter :: pattern => field letter ++ filled field pattern
  | c :: pattern => c :: filled field pattern
  | [] => []

namespace Instant

/-- The pattern of the text. -/
def displayPattern : String := "%Y-%m-%d %H:%M:%S"

/-- The seconds since 1970-01-01 00:00:00 on the clocks of a zone. -/
def wallSeconds (t : Instant) (zone : DisplayZone) : Int :=
  t.seconds + zone.offset

/-- Date and time of day on the clocks of a zone. -/
def display (t : Instant) (zone : DisplayZone) : String :=
  let wall := t.wallSeconds zone
  let field := fieldText (.ofDays (wall / 86400)) (wall % 86400).toNat t.isLeap
  String.ofList (filled field displayPattern.toList)

end Instant

/-- The time of registration as shown: nothing when there is none. -/
def displayCreated (created : Option Instant) (zone : DisplayZone) : String :=
  match created with
  | none => ""
  | some t => t.display zone

end ClusterConsole
