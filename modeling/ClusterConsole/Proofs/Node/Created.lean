import ClusterConsole.Proofs.Node.Document
import ClusterConsole.Proofs.Time.WallClock

/-! # The two forms of the time of registration

A document gives the time of registration in milliseconds or as what a clock shows, with its offset from UTC. If both
name one moment, they make the same record, whatever the document holds besides. -/

namespace ClusterConsole
open Json

theorem WallClock.millis_bounds (w : WallClock) :
    -800000 * 86400000 ≤ w.millis ∧ w.millis < 4000001 * 86400000 := by
  have hdays := Date.toDays_bounds w.year_nonneg (Int.lt_add_one_of_le w.year_le) w.date_exists
  have hhour := w.hour_lt
  have hminute := w.minute_lt
  have hsecond := w.second_lt
  have hmilli := w.milli_lt
  unfold millis
  omega

/-- What a clock shows at an offset is read as the moment that its milliseconds give. -/
theorem Instant.ofValue_text (w : WallClock) {minutes : Int} {zone : List Char} (h : OffsetText minutes zone) :
    ∃ t, ofMillis? (w.millis - minutes * 60000) = some t ∧ t.toMillis = w.millis - minutes * 60000 ∧
      ofValue (.text (String.ofList (w.text ++ zone))) = .ok t := by
  have hclock := w.millis_bounds
  have hminutes : -1440 < minutes ∧ minutes < 1440 := by cases h <;> omega
  refine ⟨_, if_pos ?_, ?_, ?_⟩
  · unfold firstMillis lastMillis
    omega
  · unfold toMillis
    dsimp only
    omega
  · rw [ofValue, Rfc3339.parse_text w h]

namespace NodeRecord
variable {levels : Nat} {d : Draft} {t : Instant}

theorem optional_text_reads {text : List Char} {s : String} (hspells : Spells text s)
    (h : Instant.ofValue (.text s) = .ok t) : Reads (optional (Instant.read levels)) ('"' :: text) (some t) :=
  (Instant.reads_of_value (hspells.value_reads levels) h).optional (by decide) rfl (by decide)

/-! ### The member among others -/

theorem readMember_created (levels : Nat) (d : Draft) (input : Input) :
    readMember levels d "created" input = (do
      let (x, rest) ← once "created" d.created (optional (Instant.read levels)) input
      .ok ({ d with created := some x }, rest)) := rfl

theorem created_reads (hd : d.created = none) {value : List Char}
    (h : Reads (optional (Instant.read levels)) value (some t)) {gap more : List Char} (hgap : Blanks gap)
    (hmore : Blanks more) :
    Reads (readMember levels d "created") (gap ++ ':' :: (more ++ value)) { d with created := some (some t) } := by
  have hskip : ∀ input, optional (Instant.read levels) input = optional (Instant.read levels) (skipSpace input) := by
    intro input
    unfold Json.optional
    rw [skipSpace_skipSpace]
  intro rest hrest
  rw [readMember_created, hd]
  exact ((h.spaced hskip hmore).spacedColon hgap).map (fun x => { d with created := some x }) rest hrest

/-- Once it has been read, no other member changes it, and it is not read again. -/
theorem readMember_keeps_created {x : Option Instant} (levels : Nat) (d : Draft) (name : String)
    (h : d.created = some x) :
    Gives (fun d' : Draft => d'.created = some x) (readMember levels d name) := by
  intro input
  unfold readMember
  split
  · exact .after fun _ => .ok h
  split
  · exact .after fun _ => .ok h
  split
  · exact .after fun _ => .ok h
  split
  · rw [h]
    exact .error _
  split
  · exact .after fun _ => .ok h
  split
  · exact .after fun _ => .ok h
  · exact .after fun _ => .after fun _ => .ok h

theorem Draft.created_of_finish? {r : NodeRecord} (h : d.finish? = some r) : r.created = d.created.getD none := by
  unfold finish? at h
  cases hid : d.id with
  | none =>
    rw [hid] at h
    cases h
  | some id =>
    rw [hid] at h
    obtain rfl := Option.some.inj h
    rfl

/-- The document of a record that was registered at `t`, but for that time: the layout, the members before and behind,
    and what is read of them. -/
structure Around (t : Instant) where
  opening : List Char
  before : List Piece
  lead : List Char
  name : List Char
  gap : List Char
  gap' : List Char
  after : List Piece
  closing : List Char
  ending : List Char
  read : Draft
  complete : Draft
  record : NodeRecord
  opening_blank : Blanks opening
  lead_leads : Leads before.isEmpty lead
  name_spells : Spells name "created"
  gap_blank : Blanks gap
  gap'_blank : Blanks gap'
  closing_blank : Blanks closing
  ending_blank : Blanks ending
  before_reads : ReadsPieces (readMember (nestingLimit - 1)) true {} before read
  created_eq : read.created = none
  after_reads : ReadsPieces (readMember (nestingLimit - 1)) false { read with created := some (some t) } after complete
  finish?_eq : complete.finish? = some record

namespace Around
variable (a : Around t)

/-- The members when the time is given by this value. -/
def pieces (value : List Char) : List Piece :=
  a.before ++ ⟨a.lead, a.name, a.gap ++ ':' :: (a.gap' ++ value)⟩ :: a.after

/-- The document when the time is given by this value. -/
def document (value : List Char) : Input :=
  Utf8.encode (a.opening ++ objectText (a.pieces value) a.closing ++ a.ending)

theorem created_record : a.record.created = some t := by
  have hcomplete : a.complete.created = some (some t) :=
    a.after_reads.keeps (fun d name => readMember_keeps_created _ d name) rfl
  rw [Draft.created_of_finish? a.finish?_eq, hcomplete]
  rfl

theorem decode_document {value : List Char}
    (h : Reads (optional (Instant.read (nestingLimit - 1))) value (some t)) :
    decode (a.document value) = .ok a.record := by
  have hpieces : ReadsPieces (readMember (nestingLimit - 1)) true {} (a.pieces value) a.complete :=
    a.before_reads.append
      (.cons a.lead_leads a.name_spells (created_reads a.created_eq h a.gap_blank a.gap'_blank) a.after_reads)
  have hrecord : Reads (NodeRecord.read nestingLimit) (objectText (a.pieces value) a.closing) a.record := by
    show Reads (Json.record "NodeRecord" (nestingLimit - 1 + 1) readElements readMembers) _ _
    refine record_reads "NodeRecord" a.closing_blank fun rest => ?_
    rw [readMembers, hpieces.members a.closing_blank rest, ok_bind]
    dsimp only
    rw [a.finish?_eq]
  refine document_reads a.ending_blank (hrecord.spaced (fun input => ?_) a.opening_blank)
  unfold NodeRecord.read Json.record
  rw [skipSpace_skipSpace]

end Around

/-- At each offset one clock reading names a moment, if it is one of the years 0 to 9999. A document that gives it, in
    any spelling, is decoded as the same record as the one that gives the milliseconds, and the record is of that moment.
    Days are counted as on the calendar. -/
theorem decode_eq_of_same_moment {millis minutes : Int} {zone : List Char} (hzone : OffsetText minutes zone)
    (hfirst : 0 ≤ (Date.ofDays ((millis + minutes * 60000) / 86400000)).year)
    (hlast : (Date.ofDays ((millis + minutes * 60000) / 86400000)).year ≤ 9999) :
    Date.Calendar Date.toDays Date.ofDays ∧ ∃ (w : WallClock) (t : Instant),
      (w.millis - minutes * 60000 = millis ∧ ∀ v : WallClock, v.millis - minutes * 60000 = millis → v = w) ∧
      Instant.ofMillis? millis = some t ∧ t.toMillis = millis ∧
      ∀ (a : Around t) (text : List Char), Spells text (String.ofList (w.text ++ zone)) →
        decode (a.document (Decimal.integer millis)) = .ok a.record ∧ decode (a.document ('"' :: text)) = .ok a.record ∧
          a.record.created = some t := by
  let w := WallClock.ofMillis (millis + minutes * 60000) hfirst hlast
  have hw : w.millis - minutes * 60000 = millis := by rw [WallClock.millis_ofMillis, Int.add_sub_cancel]
  obtain ⟨t, ht, hmillis, htext⟩ := Instant.ofValue_text w hzone
  rw [hw] at ht hmillis
  refine ⟨Date.calendar, w, t, ⟨hw, fun v hv => WallClock.eq_of_millis_eq (by omega)⟩, ht, hmillis, ?_⟩
  intro a text hspells
  exact ⟨a.decode_document (optional_created_reads _ ht), a.decode_document (optional_text_reads hspells htext),
    a.created_record⟩

/-- The time stands between two members, with some blanks. -/
def Around.ofService : Around ⟨-1, 999000000⟩ where
  opening := []
  before := [⟨[], "id".toList.flatMap escaped ++ ['"'], ':' :: Decimal.integer 7⟩]
  lead := [',', ' ']
  name := "created".toList.flatMap escaped ++ ['"']
  gap := []
  gap' := [' ']
  after := [⟨[','], "service".toList.flatMap escaped ++ ['"'], ':' :: writeString "db"⟩]
  closing := [' ']
  ending := ['\n']
  read := { id := some (.numeric 7) }
  complete := { id := some (.numeric 7), service := some "db", created := some (some ⟨-1, 999000000⟩) }
  record := { id := .numeric 7, service := "db", created := some ⟨-1, 999000000⟩ }
  opening_blank := .nil
  lead_leads := .later .nil (by decide)
  name_spells := spells_escaped _
  gap_blank := .nil
  gap'_blank := by decide
  closing_blank := by decide
  ending_blank := by decide
  before_reads := .cons (.first .nil) (spells_escaped _)
    ((NodeId.write_reads _ (show (NodeId.numeric 7).Canonical from trivial) nofun).colon.map fun id =>
      ({ id := some id } : Draft)) (.nil _ _)
  created_eq := rfl
  after_reads := .cons (.later .nil .nil) (spells_escaped _) ((string_reads "db").colon.map fun s =>
    ({ id := some (.numeric 7), service := some s, created := some (some ⟨-1, 999000000⟩) } : Draft)) (.nil _ _)
  finish?_eq := rfl

/-- One millisecond before 1970, on a clock that shows 1970 already. -/
theorem decode_eq_before_epoch :
    decode (Utf8.ofString "\x7b\"id\":7, \"created\": -1,\"service\":\"db\" \x7d\n") = .ok Around.ofService.record ∧
      decode (Utf8.ofString
        "\x7b\"id\":7, \"created\": \"1970-01-01T05:29:59.999+05:30\",\"service\":\"db\" \x7d\n") =
          .ok Around.ofService.record := by
  let v : WallClock := ⟨⟨1970, 1, 1⟩, 5, 29, 59, 999, by decide, by decide, by decide, by decide, by decide, by decide,
    by decide⟩
  have hzone : OffsetText 330 ('+' :: hoursText 330) := .ahead (by decide)
  have hfirst : 0 ≤ (Date.ofDays ((-1 + 330 * 60000) / 86400000)).year := by decide
  have hlast : (Date.ofDays ((-1 + 330 * 60000) / 86400000)).year ≤ 9999 := by decide
  obtain ⟨-, w, t, ⟨-, hunique⟩, ht, -, hforms⟩ := decode_eq_of_same_moment hzone hfirst hlast
  obtain rfl : v = w := hunique v (by decide)
  have hmoment : Instant.ofMillis? (-1) = some ⟨-1, 999000000⟩ := by decide
  obtain rfl : (⟨-1, 999000000⟩ : Instant) = t := Option.some.inj (hmoment.symm.trans ht)
  obtain ⟨hmillis, htext, -⟩ := hforms .ofService _ (spells_escaped _)
  have hdocument : Around.ofService.document (Decimal.integer (-1)) =
      Utf8.ofString "\x7b\"id\":7, \"created\": -1,\"service\":\"db\" \x7d\n" := by decide +kernel
  have hdocument' : Around.ofService.document
      ('"' :: ((String.ofList (v.text ++ '+' :: hoursText 330)).toList.flatMap escaped ++ ['"'])) = Utf8.ofString
        "\x7b\"id\":7, \"created\": \"1970-01-01T05:29:59.999+05:30\",\"service\":\"db\" \x7d\n" := by decide +kernel
  rw [hdocument] at hmillis
  rw [hdocument'] at htext
  exact ⟨hmillis, htext⟩

end NodeRecord
end ClusterConsole
