import ClusterConsole.Node.Document
import ClusterConsole.Proofs.Json.Gives
import ClusterConsole.Proofs.Json.Object
import ClusterConsole.Proofs.Time.Instant

/-! # Records there and back

A record that has been read is one that can be written: its identifier is a signed word wherever it fits one, and the
time of its registration has a count of milliseconds. What is written for it is read as the same record, with that
time floored to a millisecond, and written again in the same way. -/

namespace ClusterConsole
open Json

/-! ### What is read -/

namespace NodeId

/-- A number is an unsigned word only where it does not fit a signed one, and a fraction is finite. -/
def Canonical : NodeId → Prop
  | .unsigned n => Word.signedLimit ≤ n.toNat
  | .fractional x => x.isFinite = true
  | _ => True

theorem canonical_of_ofValue? {v : Value} {id : NodeId} (hv : v.Bounded) (h : ofValue? v = some id) :
    id.Canonical := by
  unfold ofValue? at h
  split at h
  · rename_i n
    obtain ⟨-, hword⟩ := hv
    split at h
    · obtain rfl := Option.some.inj h
      trivial
    · rename_i hlarge
      obtain rfl := Option.some.inj h
      unfold Word.limit at hword
      unfold Word.signedLimit at hlarge
      unfold Canonical Word.signedLimit
      dsimp only
      rw [UInt64.toNat_ofNat']
      omega
  · obtain rfl := Option.some.inj h
    exact hv
  · obtain rfl := Option.some.inj h
    trivial
  · cases h

theorem read_gives (levels : Nat) : Gives Canonical (read levels) := by
  intro input
  refine (value_gives levels input).bind fun ⟨v, rest⟩ hv => ?_
  dsimp only
  split
  · rename_i id hid
    exact .ok (canonical_of_ofValue? hv hid)
  · exact .error _

end NodeId

theorem Instant.representable_of_ofValue {v : Value} {t : Instant} (h : ofValue v = .ok t) : t.Representable := by
  unfold ofValue at h
  split at h
  · split at h
    · split at h
      · rename_i t' ht
        obtain rfl := Except.ok.inj h
        exact representable_of_ofMillis? ht
      · cases h
    · cases h
  · split at h
    · rename_i t' ht
      obtain rfl := Except.ok.inj h
      exact Rfc3339.parse_yields _ _ ht
    · cases h
  · cases h

theorem Instant.read_gives (levels : Nat) : Gives Representable (read levels) := by
  intro input
  refine .after fun ⟨v, rest⟩ => ?_
  dsimp only
  split
  · rename_i t ht
    exact .ok (representable_of_ofValue ht)
  · exact .error _

namespace NodeRecord

/-- A record that is read as it is written. -/
structure Writable (r : NodeRecord) : Prop where
  id : r.id.Canonical
  created : ∀ t, r.created = some t → t.Representable

/-- What has been read so far is of a record that can be written. -/
structure Draft.Writable (d : Draft) : Prop where
  id : ∀ id, d.id = some id → id.Canonical
  created : ∀ created, d.created = some created → ∀ t, created = some t → t.Representable

theorem readMember_gives (levels : Nat) (d : Draft) (name : String) (h : d.Writable) :
    Gives Draft.Writable (readMember levels d name) := by
  intro input
  unfold readMember
  split
  · refine ((NodeId.read_gives levels).once name d.id input).bind fun ⟨x, rest⟩ hx => .ok ⟨?_, h.created⟩
    rintro y ⟨⟩
    exact hx
  split
  · exact .after fun _ => .ok ⟨h.id, h.created⟩
  split
  · exact .after fun _ => .ok ⟨h.id, h.created⟩
  split
  · refine ((Instant.read_gives levels).optional.once name d.created input).bind fun ⟨x, rest⟩ hx =>
      .ok ⟨h.id, ?_⟩
    rintro y ⟨⟩
    exact hx
  split
  · exact .after fun _ => .ok ⟨h.id, h.created⟩
  split
  · exact .after fun _ => .ok ⟨h.id, h.created⟩
  · exact .after fun _ => .after fun _ => .ok h

theorem Draft.Writable.finish {d : Draft} {r : NodeRecord} (h : d.Writable) (hr : d.finish? = some r) : r.Writable := by
  unfold finish? at hr
  cases hid : d.id with
  | none =>
    rw [hid] at hr
    cases hr
  | some id =>
    rw [hid] at hr
    obtain rfl := Option.some.inj hr
    refine ⟨h.id id hid, fun t ht => ?_⟩
    cases hcreated : d.created with
    | none =>
      rw [hcreated] at ht
      cases ht
    | some created =>
      rw [hcreated] at ht
      exact h.created created hcreated t ht

theorem readMembers_gives (levels : Nat) : Gives Writable (readMembers levels) := by
  intro input
  have hmembers : Gives Draft.Writable (members (readMember levels) {}) :=
    .members ⟨nofun, nofun⟩ (readMember_gives levels)
  refine (hmembers input).bind fun ⟨d, rest⟩ hd => ?_
  dsimp only
  split
  · rename_i r hr
    exact .ok (hd.finish hr)
  · exact .error _

theorem readElements_gives (levels : Nat) : Gives Writable (readElements levels) := by
  intro input
  refine ((NodeId.read_gives levels).element? true input).bind fun ⟨id, rest⟩ hid => ?_
  dsimp only
  split
  · exact .error _
  · rename_i id
    refine .after fun ⟨service, rest⟩ => .after fun ⟨locality, rest⟩ => ?_
    refine ((Instant.read_gives levels).optional.element? false rest).bind fun ⟨created, rest⟩ hcreated => ?_
    refine .after fun ⟨revision, rest⟩ => .after fun ⟨metadata, rest⟩ => .ok ⟨hid id rfl, fun t ht => ?_⟩
    cases created with
    | none => cases ht
    | some created => exact hcreated created rfl t ht

/-- A record that is read can be written. -/
theorem read_gives (levels : Nat) : Gives Writable (read levels) :=
  Gives.record "NodeRecord" levels readElements_gives readMembers_gives

end NodeRecord

/-! ### What is written -/

namespace NodeId

theorem read_of_value {levels : Nat} {input rest : Input} {v : Value} {id : NodeId}
    (hread : value levels input = .ok (v, rest)) (hid : ofValue? v = some id) : read levels input = .ok (id, rest) := by
  rw [read, hread, ok_bind]
  dsimp only
  rw [hid]

theorem write_reads (levels : Nat) {id : NodeId} (h : id.Canonical) (hform : ∀ x, id ≠ .fractional x) :
    Reads (read levels) id.write id := by
  intro rest hrest
  cases id with
  | numeric n =>
    have hlow := n.le_toInt
    have hhigh := n.toInt_lt
    have hword : (Number.integer n.toInt).Bounded := Number.bounded_integer (by omega) (by omega)
    refine read_of_value (value_reads_integer levels hword rest hrest) ?_
    rw [ofValue?, if_pos (by unfold Word.signedLimit; omega), Int64.ofInt_toInt]
  | unsigned n =>
    have hhigh := n.toNat_lt
    have hword : (Number.integer n.toNat).Bounded := Number.bounded_integer (by omega) (by omega)
    have htext : (unsigned n).write = Decimal.integer n.toNat := by
      rw [Decimal.integer, if_neg (by omega)]
      rfl
    rw [htext]
    refine read_of_value (value_reads_integer levels hword rest hrest) ?_
    change Word.signedLimit ≤ n.toNat at h
    rw [ofValue?, if_neg (by omega), Int.toNat_natCast, UInt64.ofNat_toNat]
  | fractional x => exact absurd rfl (hform x)
  | text s => exact read_of_value (value_reads_string levels s rest hrest) rfl

end NodeId

namespace Instant

theorem reads_of_value {levels : Nat} {text : List Char} {v : Value} {t : Instant}
    (hread : Reads (value levels) text v) (ht : ofValue v = .ok t) : Reads (read levels) text t := by
  intro rest hrest
  rw [read, hread rest hrest, ok_bind]
  dsimp only
  rw [ht]

theorem reads_millis (levels : Nat) {millis : Int} {t : Instant} (h : ofMillis? millis = some t) :
    Reads (read levels) (Decimal.integer millis) t := by
  have hbounds : firstMillis ≤ millis ∧ millis ≤ lastMillis := by
    by_contra hout
    rw [ofMillis?, if_neg hout] at h
    cases h
  unfold firstMillis lastMillis at hbounds
  have hword : (Number.integer millis).Bounded := Number.bounded_integer (by omega) (by omega)
  refine reads_of_value (value_reads_integer levels hword) ?_
  rw [ofValue, if_pos (by unfold Word.signedLimit; omega), h]

end Instant

namespace Metadata

theorem eq_of_entries {a b : Metadata} (h : a.entries = b.entries) : a = b := by
  cases a
  cases b
  congr

/-- A name behind all others comes last. -/
theorem insertEntry_of_lt {name value : String} {entries : List (String × String)} (h : ∀ e ∈ entries, e.1 < name) :
    insertEntry name value entries = entries ++ [(name, value)] := by
  induction entries with
  | nil => rfl
  | cons e entries ih =>
    obtain ⟨n, v⟩ := e
    have hn : n < name := h (n, v) List.mem_cons_self
    have hne : name ≠ n := by
      rintro rfl
      exact String.lt_irrefl name hn
    rw [insertEntry, if_neg (String.lt_asymm hn), if_neg hne, ih fun e he => h e (List.mem_cons_of_mem _ he)]
    rfl

/-- What is written last has the greatest name, so each entry is put behind those that were read before it. -/
theorem entries_reads {member : Metadata → String → Input → Except Fault (Metadata × Input)}
    (hmember : ∀ m name value, Reads (member m name) (':' :: writeString value) (m.insert name value)) {m : Metadata}
    (more : List (String × String)) {sofar : Metadata} (h : m.entries = sofar.entries ++ more) :
    ReadsMembers member sofar (more.map fun entry => (entry.1, writeString entry.2)) m := by
  induction more generalizing sofar with
  | nil =>
    rw [List.append_nil] at h
    rw [eq_of_entries h]
    exact .nil sofar
  | cons entry more ih =>
    obtain ⟨name, value⟩ := entry
    have hbefore : ∀ e ∈ sofar.entries, e.1 < name := by
      intro e he
      have hsorted := m.sorted
      rw [h, List.pairwise_append] at hsorted
      exact hsorted.2.2 e he (name, value) List.mem_cons_self
    refine .cons (hmember sofar name value) (ih ?_)
    show m.entries = insertEntry name value sofar.entries ++ more
    rw [insertEntry_of_lt hbefore, h, List.append_assoc]
    rfl

theorem write_reads (levels : Nat) (m : Metadata) : Reads (read (levels + 1)) m.write m := by
  rw [write, writeObject_eq]
  refine object_reads .nil ((entries_reads ?_ m.entries rfl).pieces true)
  exact fun sofar name value => ((string_reads value).map (sofar.insert name)).colon

end Metadata

namespace NodeRecord

theorem optional_created_reads (levels : Nat) {millis : Int} {t : Instant} (h : Instant.ofMillis? millis = some t) :
    Reads (optional (Instant.read levels)) (Decimal.integer millis) (some t) := by
  obtain ⟨c, more, hcons, hc⟩ := exists_integer_eq_cons millis
  have hread := Instant.reads_millis levels h
  rw [hcons] at hread ⊢
  exact hread.optional hc.toNat_lt hc.isSpace_byte (hc.byte_ne (by decide) (by decide) rfl)

theorem optional_revision_reads (s : String) : Reads (optional string) (writeString s) (some s) :=
  (string_reads s).optional (by decide) rfl (by decide)

/-- What is there of a written record when all of its members have been read. -/
def Draft.ofWritten (r : NodeRecord) : Draft where
  id := some r.id
  service := some r.service
  locality := some r.locality
  created := r.created.map fun t => some t.floorMillis
  revision := r.revision.map some
  metadata := if r.metadata.entries = [] then none else some r.metadata

theorem Draft.finish?_ofWritten (r : NodeRecord) :
    (ofWritten r).finish? = some { r with created := r.created.map Instant.floorMillis } := by
  have hcreated : (ofWritten r).created.getD none = r.created.map Instant.floorMillis := by
    unfold ofWritten
    cases r.created <;> rfl
  have hrevision : (ofWritten r).revision.getD none = r.revision := by
    unfold ofWritten
    cases r.revision <;> rfl
  have hmetadata : (ofWritten r).metadata.getD .empty = r.metadata := by
    unfold ofWritten
    dsimp only
    split
    · rename_i hempty
      exact Metadata.eq_of_entries hempty.symm
    · rfl
  show some (NodeRecord.mk r.id r.service r.locality _ _ _) = _
  rw [hcreated, hrevision, hmetadata]

theorem write_reads (levels : Nat) {r : NodeRecord} (h : r.Writable) (hform : ∀ x, r.id ≠ .fractional x) :
    Reads (read (levels + 2)) r.write { r with created := r.created.map Instant.floorMillis } := by
  let required : Draft := { id := some r.id, service := some r.service, locality := some r.locality }
  let dated : Draft := { required with created := r.created.map fun t => some t.floorMillis }
  let revised : Draft := { dated with revision := r.revision.map some }
  -- The draft grows with each member: the three that every record has, then time, revision and metadata, each of
  -- which is only written if there is something to write.
  have hrequired : ReadsMembers (readMember (levels + 1)) {}
      [("id", r.id.write), ("service", writeString r.service), ("locality", writeString r.locality)] required :=
    .cons ((NodeId.write_reads (levels + 1) h.id hform).colon.map fun id => ({ id := some id } : Draft))
      (.cons ((string_reads r.service).colon.map fun s => ({ id := some r.id, service := some s } : Draft))
        (.cons ((string_reads r.locality).colon.map fun s => ({ required with locality := some s } : Draft)) (.nil _)))
  have hcreated : ReadsMembers (readMember (levels + 1)) required
      (r.created.map fun t => ("created", Decimal.integer t.toMillis)).toList dated := by
    refine .ofOption (fun hr => ?_) fun t hr => ?_
    · simp only [dated, required, hr, Option.map_none]
    · simp only [dated, hr, Option.map_some]
      have hmillis := Instant.ofMillis?_toMillis (h.created t hr)
      exact (optional_created_reads _ hmillis).colon.map fun c => ({ required with created := some c } : Draft)
  have hrevision : ReadsMembers (readMember (levels + 1)) dated
      (r.revision.map fun s => ("revision", writeString s)).toList revised := by
    refine .ofOption (fun hr => ?_) fun s hr => ?_
    · simp only [revised, dated, required, hr, Option.map_none]
    · simp only [revised, hr, Option.map_some]
      exact (optional_revision_reads s).colon.map fun c => ({ dated with revision := some c } : Draft)
  have hmetadata : ReadsMembers (readMember (levels + 1)) revised
      (if r.metadata.entries = [] then [] else [("metadata", r.metadata.write)]) (Draft.ofWritten r) := by
    by_cases hr : r.metadata.entries = []
    · have heq : Draft.ofWritten r = revised := by simp only [Draft.ofWritten, revised, dated, required, hr, if_true]
      rw [heq, if_pos hr]
      exact .nil _
    · have heq : Draft.ofWritten r = { revised with metadata := some r.metadata } := by
        simp only [Draft.ofWritten, revised, dated, required, hr, if_false]
      rw [heq, if_neg hr]
      exact .cons ((Metadata.write_reads levels r.metadata).colon.map
        fun m => ({ revised with metadata := some m } : Draft)) (.nil _)
  have hmembers := ((hrequired.append hcreated).append hrevision).append hmetadata
  rw [write, writeObject_eq]
  refine record_reads "NodeRecord" .nil fun rest => ?_
  rw [readMembers, (hmembers.pieces true).members .nil rest, ok_bind]
  dsimp only
  rw [Draft.finish?_ofWritten]

theorem write_floorMillis (r : NodeRecord) :
    write { r with created := r.created.map Instant.floorMillis } = r.write := by
  have hcreated : (r.created.map Instant.floorMillis).map (fun t => ("created", Decimal.integer t.toMillis)) =
      r.created.map fun t => ("created", Decimal.integer t.toMillis) := by
    rw [Option.map_map]
    congr 1
    funext t
    rw [Function.comp_apply, Instant.toMillis_floorMillis]
  rw [write, write, hcreated]

/-- What is written for a record that was decoded is decoded as the same record, with its time floored to a
    millisecond, and is written for this one too. -/
theorem decode_write {document : Input} {r : NodeRecord} (h : decode document = .ok r)
    (hform : ∀ x, r.id ≠ .fractional x) :
    decode (Utf8.encode r.write) = .ok { r with created := r.created.map Instant.floorMillis } ∧
      write { r with created := r.created.map Instant.floorMillis } = r.write ∧
      ∀ t, r.created = some t → Instant.ofMillis? t.toMillis = some t.floorMillis := by
  have hwritable : r.Writable := (read_gives nestingLimit).document document r h
  refine ⟨?_, write_floorMillis r, fun t ht => Instant.ofMillis?_toMillis (hwritable.created t ht)⟩
  have hread := document_reads .nil (write_reads 125 hwritable hform)
  rwa [List.append_nil] at hread

/-- An unsigned word, an escaped control, a leap second before 1970 and a revision that is there but empty. -/
theorem decode_write_leapSecond :
    let document := Utf8.ofString "[18446744073709551615,\"a\\u0000\",\"\",\"1969-12-31T23:59:60.0005Z\",\"\"]"
    let r : NodeRecord :=
      { id := .unsigned 18446744073709551615, service := "a\x00", created := some ⟨-1, 1000500000⟩,
        revision := some "" }
    decode document = .ok r ∧ decode (Utf8.encode r.write) = .ok { r with created := some ⟨0, 0⟩ } := by
  intro document r
  have hread : (decode document).toOption = some r := by decide +kernel
  have hdecode : decode document = .ok r := by
    cases hd : decode document with
    | error refusal =>
      rw [hd] at hread
      cases hread
    | ok r' =>
      rw [hd] at hread
      exact congrArg Except.ok (Option.some.inj hread)
  have hfloor : r.created.map Instant.floorMillis = some ⟨0, 0⟩ := by decide +kernel
  have hback := (decode_write hdecode nofun).1
  rw [hfloor] at hback
  exact ⟨hdecode, hback⟩

end NodeRecord

end ClusterConsole
