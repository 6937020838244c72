import ClusterConsole.Proofs.Json.Written
import ClusterConsole.Proofs.Node.Document
import ClusterConsole.Proofs.Table.Plain
import ClusterConsole.Proofs.Table.Revision
import ClusterConsole.Proofs.Time.Display

/-! # What is too wide for the plain table

What is shown of numbers, times and revisions is short for every node that a document gives: fractions have few digits
and few zeros, and times lie in years of six digits. So it takes a long text to make a column too wide, as the
identifier, the service or the locality of a node. -/

namespace ClusterConsole

/-! ### Numbers -/

namespace Binary64

/-- A decimal is written in its digits, a point, and the zeros that its power of ten asks for. -/
theorem length_positional_le {d : Scientific} {width zeros : Nat} (hdigits : (Decimal.digits d.digits).length ≤ width)
    (hexponent : d.exponent.natAbs ≤ zeros) : (positional [] d).length ≤ width + zeros + 2 := by
  unfold positional
  dsimp only
  split
  · rw [List.append_nil, List.length_append, List.length_replicate]
    omega
  · split
    · rw [List.length_append, List.length_cons, List.length_take, List.length_drop]
      omega
    · rw [List.length_cons, List.length_cons, List.length_append, List.length_replicate]
      omega

theorem length_signed_le (x : Binary64) (text : List Char) : (x.signed text).length ≤ text.length + 1 := by
  unfold signed
  split
  · exact Nat.le_refl _
  · exact Nat.le_succ _

theorem length_display_le (x : Binary64) : x.display.length ≤ 400 := by
  have hsigned : ∀ text : List Char, text.length ≤ 399 → (x.signed text).length ≤ 400 := fun text h =>
    Nat.le_trans (x.length_signed_le text) (Nat.succ_le_succ h)
  unfold display
  by_cases hfinite : x.isFinite = true
  · rw [if_neg (by simp [hfinite])]
    split
    · exact hsigned _ (by decide)
    · rename_i hzero
      have hpositive := positive_size hfinite hzero
      obtain ⟨-, hdigits, -⟩ := hpositive.shortest_reads .up
      obtain ⟨hlow, hhigh⟩ := hpositive.shortest_exponent .up
      have hfew : (x.size.shortest .up).digits < Nat.pow 10 18 := Nat.lt_of_le_of_lt hdigits (by decide)
      refine hsigned _ (Nat.le_trans (length_positional_le (Decimal.length_digits_le (by decide) hfew)
        (show _ ≤ 342 by omega)) (by decide))
  · rw [if_pos (by simp [hfinite])]
    split
    · exact hsigned _ (by decide)
    · decide

end Binary64

theorem NodeId.length_display_le {id : NodeId} (h : ∀ s, id ≠ .text s) : id.display.length ≤ 400 := by
  rw [← String.length_toList]
  cases id with
  | numeric n =>
    have hlow := n.le_toInt
    have hhigh := n.toInt_lt
    rw [display, String.toList_ofList]
    refine Nat.le_trans (Decimal.length_integer_le (show 0 < 19 by decide) ?_) (by decide)
    change n.toInt.natAbs < 10000000000000000000
    omega
  | unsigned n =>
    have hhigh := n.toNat_lt
    rw [display, String.toList_ofList]
    refine Nat.le_trans (Decimal.length_digits_le (show 0 < 20 by decide) ?_) (by decide)
    change n.toNat < 100000000000000000000
    omega
  | fractional x =>
    rw [display, String.toList_ofList]
    exact x.length_display_le
  | text s => exact absurd rfl (h s)

/-! ### Times -/

theorem Date.year_bounds {d : Date} (h : d.Exists) (hlow : -96500000 ≤ d.toDays) (hhigh : d.toDays ≤ 96500000) :
    -1000000 < d.year ∧ d.year < 1000000 := by
  obtain ⟨hmonth, hmonth', hday, hday'⟩ := h
  have hlength := monthLength_le d.year d.month
  unfold toDays at hlow hhigh
  dsimp only at hlow hhigh
  split at hlow <;> omega

theorem length_yearText_le {year : Int} (hlow : -1000000 < year) (hhigh : year < 1000000) :
    (yearText year).length ≤ 7 := by
  have hsmall : year.natAbs < Nat.pow 10 6 := by
    change year.natAbs < 1000000
    omega
  have hlength : (Decimal.padded 4 year.natAbs).length ≤ 6 :=
    Decimal.length_padded_le (by decide) (by decide) hsmall
  unfold yearText
  split
  · exact Nat.le_succ_of_le hlength
  · exact Nat.succ_le_succ hlength

/-- The time that a document gives is shown with a year of at most six digits and a sign. -/
theorem Instant.Representable.length_display_le {t : Instant} (h : t.Representable) (zone : DisplayZone) :
    (t.display zone).length ≤ 22 := by
  have hfirst := h.first_le
  have hlast := h.le_last
  have hnanos := h.nanos_lt
  unfold toMillis firstMillis at hfirst
  unfold toMillis lastMillis at hlast
  unfold nanosPerSecond at hnanos
  have hoffset : 0 ≤ zone.offset ∧ zone.offset ≤ 19800 := by cases zone <;> decide
  have hexists : (t.shown zone).date.Exists := Date.exists_ofDays _
  have hdays : (t.shown zone).date.toDays = (t.seconds + zone.offset) / 86400 := Date.toDays_ofDays _
  obtain ⟨hlow, hhigh⟩ := Date.year_bounds hexists (by omega) (by omega)
  have hyear := length_yearText_le hlow hhigh
  obtain ⟨hmonth, hday⟩ := Date.month_day_lt hexists
  obtain ⟨hhour, hminute, hsecond⟩ := t.hour_lt_minute_lt_second_le zone
  have htwo : ∀ {n : Nat}, n < 100 → (Decimal.padded 2 n).length = 2 := fun hn => Decimal.length_padded (by decide) hn
  rw [← String.length_toList, toList_display]
  simp only [List.length_append, List.length_cons, htwo hmonth, htwo hday,
    htwo (show (t.shown zone).hour < 100 by omega), htwo (show (t.shown zone).minute < 100 by omega),
    htwo (show (t.shown zone).second < 100 by omega)]
  omega

/-! ### Nodes that documents give -/

namespace NodeRecord

/-- A document gives the node, alone or in a list. -/
inductive Decoded (node : NodeRecord) : Prop where
  | alone {document : List UInt8} (h : decode document = .ok node)
  | listed {document : List UInt8} {nodes : List NodeRecord} (h : decodeList document = .ok nodes)
    (hmem : node ∈ nodes)

variable {node : NodeRecord}

theorem Decoded.writable (h : node.Decoded) : node.Writable := by
  cases h with
  | alone h => exact (read_gives Json.nestingLimit).document _ _ h
  | listed h hmem => exact (Json.Gives.array Json.nestingLimit read_gives).document _ _ h _ hmem

theorem Writable.length_displayCreated_le (h : node.Writable) (zone : DisplayZone) :
    (displayCreated node.created zone).length ≤ 22 := by
  cases hcreated : node.created with
  | none => exact Nat.zero_le _
  | some t => exact (h.created t hcreated).length_display_le zone

theorem length_revision_le (node : NodeRecord) : ((node.revision.map truncateRevision).getD "").length ≤ 13 := by
  cases node.revision with
  | none => exact Nat.zero_le _
  | some s =>
    rw [Option.map_some, Option.getD_some, length_truncateRevision]
    split <;> omega

end NodeRecord

namespace Plain
variable {zone : DisplayZone} {nodes : List NodeRecord}

/-- A node fits if its texts that are shown in full do. -/
theorem fits_iff (h : ∀ node ∈ nodes, node.Decoded) : Fits zone nodes ↔ ∀ node ∈ nodes,
    node.id.display.length ≤ 65535 ∧ node.service.length ≤ 65535 ∧ node.locality.length ≤ 65535 := by
  have hheadings : ∀ cell ∈ columns, cell.length ≤ greatestWidth := by decide
  unfold Fits lines rows
  rw [List.forall_mem_cons, and_iff_right hheadings, List.map_map, List.forall_mem_map]
  refine forall₂_congr fun node hnode => ?_
  have hcreated := (h node hnode).writable.length_displayCreated_le zone
  have hrevision := node.length_revision_le
  simp only [Function.comp_apply, NodeRow.cells, NodeRow.ofRecord, List.forall_mem_cons, List.not_mem_nil,
    greatestWidth]
  constructor
  · rintro ⟨hid, hservice, hlocality, -⟩
    exact ⟨hid, hservice, hlocality⟩
  · rintro ⟨hid, hservice, hlocality⟩
    exact ⟨hid, hservice, hlocality, by omega, by omega, nofun⟩

/-- The table of nodes that documents give cannot be written exactly when the identifier, the service or the locality
    of one of them is too wide. The time and the revision are never too wide, and of the identifiers only texts are. -/
theorem unwritten_iff (h : ∀ node ∈ nodes, node.Decoded) (zone : DisplayZone) :
    (table? zone nodes = none ↔ ∃ node ∈ nodes,
        65535 < node.id.display.length ∨ 65535 < node.service.length ∨ 65535 < node.locality.length) ∧
      ∀ node ∈ nodes, (displayCreated node.created zone).length ≤ 22 ∧
        ((node.revision.map truncateRevision).getD "").length ≤ 13 ∧
        ((∀ s, node.id ≠ .text s) → node.id.display.length ≤ 400) := by
  refine ⟨?_, fun node hnode => ⟨(h node hnode).writable.length_displayCreated_le zone, node.length_revision_le,
    NodeId.length_display_le⟩⟩
  rw [← Option.not_isSome_iff_eq_none, isSome_table?_iff, fits_iff h]
  simp only [not_forall, not_and_or, Nat.not_le, exists_prop]

/-- A node whose identifier is a text of as many letters. -/
def longNode (letters : Nat) : NodeRecord where
  id := .text (String.ofList (List.replicate letters 'a'))

theorem decoded_longNode (letters : Nat) : (longNode letters).Decoded := by
  have hwritable : (longNode letters).Writable := ⟨trivial, nofun⟩
  have hread := Json.document_reads .nil (NodeRecord.write_reads 125 hwritable nofun)
  exact .alone hread

theorem unwritten_iff_of_longNode : (∀ node ∈ [longNode 65536], node.Decoded) ∧
    table? .local [longNode 65536] = none ∧ (∀ node ∈ [longNode 65535], node.Decoded) ∧
      table? .local [longNode 65535] ≠ none := by
  have hdecoded : ∀ letters, ∀ node ∈ [longNode letters], node.Decoded := by
    intro letters node hnode
    rw [List.mem_singleton.mp hnode]
    exact decoded_longNode letters
  have hlength : ∀ letters, (longNode letters).id.display.length = letters := by
    intro letters
    rw [longNode, NodeId.display, String.length_ofList, List.length_replicate]
  refine ⟨hdecoded _, (unwritten_iff (hdecoded _) .local).1.mpr ⟨_, List.mem_singleton_self _, .inl ?_⟩,
    hdecoded _, fun hnone => ?_⟩
  · rw [hlength]
    decide
  · obtain ⟨node, hnode, hwide⟩ := (unwritten_iff (hdecoded _) .local).1.mp hnone
    obtain rfl := List.mem_singleton.mp hnode
    rw [hlength] at hwide
    exact absurd hwide (by decide)

end Plain
end ClusterConsole
