import ClusterConsole.Number.Decimal
import ClusterConsole.Json.Value
import ClusterConsole.Json.Writer
import ClusterConsole.Node.Record

/-! # Records of nodes in documents

A record is an object of its members in any order, or an array of its members in the order of the
definition. Only the identifier has to be there. What the console does not know is ignored, and what is
empty is not written.

The time of registration is a count of milliseconds or a date and time in text; it is written as
milliseconds. -/

namespace ClusterConsole
open Json

namespace NodeId

/-- The identifier that a value gives. -/
def ofValue? : Value → Option NodeId
  | .number (.integer n) =>
    if n < Word.signedLimit then some (.numeric (.ofInt n)) else some (.unsigned (.ofNat n.toNat))
  | .number (.fraction x) => some (.fractional x)
  | .text s => some (.text s)
  | _ => none

/-- Reads an identifier. -/
def read (levels : Nat) (input : Input) : Except Fault (NodeId × Input) := do
  let (v, rest) ← value levels input
  match ofValue? v with
  | some id => .ok (id, rest)
  | none => .error (.pending (.noAlternative "NodeId") rest)

/-- The identifier as documents hold it. -/
def write : NodeId → List Char
  | .numeric n => Decimal.integer n.toInt
  | .unsigned n => Decimal.digits n.toNat
  | .fractional x => x.literal
  | .text s => writeString s

end NodeId

namespace Instant

/-- The moment that a value gives. -/
def ofValue : Value → Except Cause Instant
  | .number (.integer n) =>
    if n < Word.signedLimit then
      match ofMillis? n with
      | some t => .ok t
      | none => .error (.createdOutOfRange n)
    else .error (.noAlternative "Wire")
  | .text s =>
    match Rfc3339.parse s with
    | .ok t => .ok t
    | .error fault => .error (.invalidCreated s fault)
  | _ => .error (.noAlternative "Wire")

/-- Reads a moment. -/
def read (levels : Nat) (input : Input) : Except Fault (Instant × Input) := do
  let (v, rest) ← value levels input
  match ofValue v with
  | .ok t => .ok (t, rest)
  | .error cause => .error (.pending cause rest)

end Instant

namespace Metadata

/-- Reads metadata. Of entries with one name the last counts. -/
def read (levels : Nat) (input : Input) : Except Fault (Metadata × Input) :=
  object levels (fun _ m name input => do
    let rest ← colon input
    let (value, rest) ← string rest
    .ok (m.insert name value, rest)) .empty input

/-- Metadata as documents hold them. -/
def write (m : Metadata) : List Char :=
  writeObject (m.entries.map fun (name, value) => (name, writeString value))

end Metadata

namespace NodeRecord

/-- The members of a record that have been read so far. -/
structure Draft where
  id : Option NodeId := none
  service : Option String := none
  locality : Option String := none
  created : Option (Option Instant) := none
  revision : Option (Option String) := none
  metadata : Option Metadata := none

/-- The record of the members that were there. -/
def Draft.finish? (d : Draft) : Option NodeRecord := do
  some {
    id := ← d.id
    service := d.service.getD ""
    locality := d.locality.getD ""
    created := d.created.getD none
    revision := d.revision.getD none
    metadata := d.metadata.getD .empty }

/-- Reads a member. -/
def readMember (levels : Nat) (d : Draft) (name : String) (input : Input) : Except Fault (Draft × Input) := do
  if name = "id" then
    let (x, rest) ← once name d.id (NodeId.read levels) input
    .ok ({ d with id := some x }, rest)
  else if name = "service" then
    let (x, rest) ← once name d.service string input
    .ok ({ d with service := some x }, rest)
  else if name = "locality" then
    let (x, rest) ← once name d.locality string input
    .ok ({ d with locality := some x }, rest)
  else if name = "created" then
    let (x, rest) ← once name d.created (optional (Instant.read levels)) input
    .ok ({ d with created := some x }, rest)
  else if name = "revision" then
    let (x, rest) ← once name d.revision (optional string) input
    .ok ({ d with revision := some x }, rest)
  else if name = "metadata" then
    let (x, rest) ← once name d.metadata (Metadata.read levels) input
    .ok ({ d with metadata := some x }, rest)
  else
    .ok (d, ← Skip.value (← colon input))

/-- Reads the members of a record. -/
def readMembers (levels : Nat) (input : Input) : Except Fault (NodeRecord × Input) := do
  let (d, rest) ← members (readMember levels) {} input
  match d.finish? with
  | some r => .ok (r, rest)
  | none => .error (.pending (.missingMember "id") rest)

/-- Reads the elements of a record given as an array. Only the first has to be there. -/
def readElements (levels : Nat) (input : Input) : Except Fault (NodeRecord × Input) := do
  let (id, rest) ← element? (NodeId.read levels) true input
  match id with
  | none => .error (.pending (.wrongLength 0 "struct NodeRecord with 6 elements") rest)
  | some id =>
    let (service, rest) ← element? string false rest
    let (locality, rest) ← element? string false rest
    let (created, rest) ← element? (optional (Instant.read levels)) false rest
    let (revision, rest) ← element? (optional string) false rest
    let (metadata, rest) ← element? (Metadata.read levels) false rest
    .ok ({
      id
      service := service.getD ""
      locality := locality.getD ""
      created := created.getD none
      revision := revision.getD none
      metadata := metadata.getD .empty }, rest)

/-- Reads a record, at most `levels` levels deep. -/
def read (levels : Nat) (input : Input) : Except Fault (NodeRecord × Input) :=
  record "NodeRecord" levels readElements readMembers input

/-- The record as documents hold it: the identifier, service and locality always, the rest when it is
    there. -/
def write (r : NodeRecord) : List Char :=
  writeObject (
    [("id", r.id.write), ("service", writeString r.service), ("locality", writeString r.locality)] ++
    (r.created.map fun t => ("created", Decimal.integer t.toMillis)).toList ++
    (r.revision.map fun s => ("revision", writeString s)).toList ++
    if r.metadata.entries = [] then [] else [("metadata", r.metadata.write)])

/-- The record of a document. -/
def decode (document : Input) : Except Refusal NodeRecord :=
  Json.document (read nestingLimit) document

/-- The records of a document that lists them. -/
def decodeList (document : Input) : Except Refusal (List NodeRecord) :=
  Json.document (array nestingLimit read) document

/-- A list of records as documents hold it. -/
def writeList (nodes : List NodeRecord) : List Char :=
  writeArray (nodes.map write)

end NodeRecord

namespace NodeId

/-- The identifiers of a document that lists them. -/
def decodeList (document : Input) : Except Refusal (List NodeId) :=
  Json.document (array nestingLimit read) document

end NodeId

end ClusterConsole
