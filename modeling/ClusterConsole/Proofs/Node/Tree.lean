import ClusterConsole.Node.Document
import ClusterConsole.Proofs.Json.Answer

/-! # Records from trees

What a value gives as a record, told without a reader: an identifier and a moment come from a scalar, metadata from the
members of an object, and a record from the elements of an array or the members of an object. The readers answer just
that, however many levels are left as long as there are two. -/

namespace ClusterConsole
open Json

/-- The identifier that a value gives. -/
def NodeId.ofTree? (t : Tree) : Option NodeId :=
  t.scalar?.bind ofValue?

theorem NodeId.read_answers (levels : Nat) (t : Tree) : Answers (read levels) t.text (ofTree? t) := by
  refine chosen_answers (fun v rest => ?_) rfl levels t
  dsimp only
  cases ofValue? v <;> rfl

/-- The moment that a value gives. -/
def Instant.ofTree? (t : Tree) : Option Instant :=
  t.scalar?.bind fun v => (ofValue v).toOption

theorem Instant.read_answers (levels : Nat) (t : Tree) : Answers (read levels) t.text (ofTree? t) := by
  refine chosen_answers (fun v rest => ?_) rfl levels t
  dsimp only
  cases ofValue v <;> rfl

namespace Metadata

/-- Metadata with an entry more. -/
def add? (m : Metadata) (name : String) (t : Tree) : Option Metadata :=
  t.string?.map (m.insert name)

/-- The metadata that a value gives. -/
def ofTree? (t : Tree) : Option Metadata :=
  t.object? add? Metadata.empty

theorem read_answers (levels : Nat) (t : Tree) : Answers (read (levels + 1)) t.text (ofTree? t) := by
  refine object_answers (fun m name gap t => ?_) Metadata.empty t
  exact ((string_answers t).map (m.insert name)).colon gap

end Metadata

namespace NodeRecord

/-- The draft with a member more; none if the member was there before or its value does not give what it should. -/
def Draft.add? (d : Draft) (name : String) (t : Tree) : Option Draft :=
  if name = "id" then (once? d.id (NodeId.ofTree? t)).map fun x => { d with id := some x }
  else if name = "service" then (once? d.service t.string?).map fun x => { d with service := some x }
  else if name = "locality" then (once? d.locality t.string?).map fun x => { d with locality := some x }
  else if name = "created" then
    (once? d.created (t.optional? Instant.ofTree?)).map fun x => { d with created := some x }
  else if name = "revision" then (once? d.revision (t.optional? Tree.string?)).map fun x => { d with revision := some x }
  else if name = "metadata" then (once? d.metadata (Metadata.ofTree? t)).map fun x => { d with metadata := some x }
  else some d

/-- The record that the members of an object give. -/
def ofMembers? (ms : List (Member Tree)) : Option NodeRecord :=
  (addMembers? Draft.add? {} ms).bind Draft.finish?

/-- The record that the elements of an array give. -/
def ofElements? (ts : List Tree) : Option NodeRecord := do
  let (id, ts) ← take? NodeId.ofTree? ts
  let id ← id
  let (service, ts) ← take? Tree.string? ts
  let (locality, ts) ← take? Tree.string? ts
  let (created, ts) ← take? (Tree.optional? Instant.ofTree?) ts
  let (revision, ts) ← take? (Tree.optional? Tree.string?) ts
  let (metadata, ts) ← take? Metadata.ofTree? ts
  if ts = [] then
    some {
      id
      service := service.getD ""
      locality := locality.getD ""
      created := created.getD none
      revision := revision.getD none
      metadata := metadata.getD .empty }
  else none

/-- The record that a value gives. -/
def ofTree? : Tree → Option NodeRecord
  | .array _ es => ofElements? (es.map Spaced.value)
  | .object _ ms => ofMembers? ms
  | _ => none

theorem readMember_answers (levels : Nat) (d : Draft) (name : String) (gap : Gap) (t : Tree) :
    Answers (readMember (levels + 1) d name) (':' :: (gap.chars ++ t.text)) (d.add? name t) := by
  intro input rest hrest hinput
  unfold readMember Draft.add?
  split
  · exact (once_answers (NodeId.read_answers _ t) name d.id gap).map (fun x => { d with id := some x })
      input rest hrest hinput
  split
  · exact (once_answers (string_answers t) name d.service gap).map (fun x => { d with service := some x })
      input rest hrest hinput
  split
  · exact (once_answers (string_answers t) name d.locality gap).map (fun x => { d with locality := some x })
      input rest hrest hinput
  split
  · exact (once_answers (optional_answers (Instant.read_answers _ t)) name d.created gap).map
      (fun x => { d with created := some x })
      input rest hrest hinput
  split
  · exact (once_answers (optional_answers (string_answers t)) name d.revision gap).map
      (fun x => { d with revision := some x })
      input rest hrest hinput
  split
  · exact (once_answers (Metadata.read_answers levels t) name d.metadata gap).map
      (fun x => { d with metadata := some x })
      input rest hrest hinput
  · exact skip_answers d t gap input rest hrest hinput

theorem readMembers_toOption (levels : Nat) (ms : List (Member Tree)) (inner : Gap) (rest : Input) :
    (readMembers (levels + 1) (restOfItems '\x7d' inner true (ms.map Member.item) rest)).toOption =
      (ofMembers? ms).map
        (·, Utf8.encode (lastGap inner (ms.map Member.item)).chars ++ Ascii.byte '\x7d' :: rest) := by
  rw [readMembers, toOption_bind, members_items (readMember_answers levels), ofMembers?]
  cases addMembers? Draft.add? {} ms with
  | none => rfl
  | some d =>
    dsimp only [Option.map_some, Option.bind_some]
    cases d.finish? <;> rfl

theorem readElements_ends (levels : Nat) (ts : List Tree) (input rest : Input) (h : ElementsLeft rest true ts input) :
    EndsArray (readElements (levels + 1) input) rest (ofElements? ts) := by
  refine EndsArray.element? h (NodeId.read_answers _) fun id ts input h => ?_
  cases id with
  | none => rfl
  | some id =>
    refine EndsArray.element? h string_answers fun service ts input h => ?_
    refine EndsArray.element? h string_answers fun locality ts input h => ?_
    refine EndsArray.element? h (fun t => optional_answers (Instant.read_answers _ t)) fun created ts input h => ?_
    refine EndsArray.element? h (fun t => optional_answers (string_answers t)) fun revision ts input h => ?_
    refine EndsArray.element? h (Metadata.read_answers levels) fun metadata ts input h => ?_
    exact EndsArray.ok h _

theorem read_answers (levels : Nat) (t : Tree) : Answers (read (levels + 2)) t.text (ofTree? t) :=
  record_answers "NodeRecord" (readElements_ends levels) (readMembers_toOption levels) t

/-- A document that is one value among blanks gives the record that the value gives. -/
theorem decode_toOption (e : Spaced Tree) : (decode (Utf8.encode (e.text Tree.text))).toOption = ofTree? e.value :=
  document_toOption (read_answers 125 e.value)

end NodeRecord

end ClusterConsole
