import ClusterConsole.Proofs.Json.Literal
import ClusterConsole.Proofs.Node.Document
import ClusterConsole.Proofs.Node.Value

/-! # Identifiers that are given as numbers

A number literal gives an identifier that tells what the literal is: an integer that fits a word gives that word, signed
if it can be, and is shown as it was given. Every other literal gives a finite fraction or is refused. -/

namespace ClusterConsole
open Json

namespace NodeId

/-- The identifier that an integer is when it fits a word. -/
def ofInteger? (n : Int) : Option NodeId :=
  if -(Word.signedLimit : Int) ≤ n ∧ n < Word.signedLimit then some (.numeric (.ofInt n))
  else if Word.signedLimit ≤ n ∧ n < Word.limit then some (.unsigned (.ofNat n.toNat))
  else none

section
variable {m n : Int} {id : NodeId}

theorem ofInteger?_eq_none_iff : ofInteger? n = none ↔ ¬(Number.integer n).Bounded := by
  unfold ofInteger? Number.Bounded Word.signedLimit Word.limit
  dsimp only
  split
  · simp only [reduceCtorEq, false_iff]
    omega
  · split
    · simp only [reduceCtorEq, false_iff]
      omega
    · simp only [true_iff]
      omega

theorem bounded_of_ofInteger? (h : ofInteger? n = some id) : (Number.integer n).Bounded := by
  by_contra hout
  rw [ofInteger?_eq_none_iff.mpr hout] at h
  cases h

theorem ofValue?_of_ofInteger? (h : ofInteger? n = some id) : ofValue? (.number (.integer n)) = some id := by
  unfold ofInteger? at h
  split at h
  · rename_i hsigned
    rw [ofValue?, if_pos hsigned.2, h]
  · split at h
    · rename_i hunsigned
      rw [ofValue?, if_neg (Int.not_lt.mpr hunsigned.1), h]
    · cases h

theorem integer?_of_ofInteger? (h : ofInteger? n = some id) : id.integer? = some n := by
  unfold ofInteger? Word.signedLimit Word.limit at h
  split at h
  · obtain rfl := Option.some.inj h
    exact congrArg some (Int64.toInt_ofInt_of_le (by omega) (by omega))
  · split at h
    · obtain rfl := Option.some.inj h
      have hlt : n.toNat < UInt64.size := by
        unfold UInt64.size
        omega
      refine congrArg some ?_
      rw [UInt64.toNat_ofNat_of_lt' hlt, Int.toNat_of_nonneg (by omega)]
    · cases h

/-- An integer is shown in decimal. -/
theorem display_of_integer? (h : id.integer? = some n) : id.display = String.ofList (Decimal.integer n) := by
  cases id with
  | numeric k =>
    obtain rfl := Option.some.inj h
    rfl
  | unsigned k =>
    obtain rfl := Option.some.inj h
    rw [Decimal.integer, if_neg (by omega)]
    rfl
  | fractional x => cases h
  | text s => cases h

end

/-! ### Reading -/

/-- The object of an identifier alone. -/
def asRecord (text : List Char) : Input :=
  Utf8.encode (writeObject [("id", text)])

/-- The text gives this identifier wherever an identifier is read, and as all that a record has. -/
structure Accepted (text : List Char) (id : NodeId) : Prop where
  reads : ∀ levels, Reads (read levels) text id
  decodes : NodeRecord.decode (asRecord text) = .ok { id }

theorem Accepted.unique {text : List Char} {id id' : NodeId} (h : Accepted text id) (h' : Accepted text id') :
    id = id' :=
  congrArg NodeRecord.id (Except.ok.inj (h.decodes.symm.trans h'.decodes))

/-- The text is refused as a number that is out of range wherever an identifier is read, and with it the record. -/
structure OutOfRange (text : List Char) : Prop where
  refuses : ∀ levels, Refuses (read levels) text .numberOutOfRange
  decodes : ∃ refusal, NodeRecord.decode (asRecord text) = .error refusal ∧ refusal.cause = .numberOutOfRange

section
variable {text : List Char} {id : NodeId}

theorem decode_asRecord (h : ∀ levels, Reads (read levels) text id) :
    NodeRecord.decode (asRecord text) = .ok { id } := by
  have hmembers : ReadsMembers (NodeRecord.readMember 126) {} [("id", text)] { id := some id } :=
    .cons ((h 126).colon.map fun id => ({ id := some id } : NodeRecord.Draft)) (.nil _)
  have hrecord : Reads (NodeRecord.read nestingLimit) (writeObject [("id", text)]) { id } := by
    rw [writeObject_eq]
    refine record_reads "NodeRecord" .nil fun rest => ?_
    rw [NodeRecord.readMembers, (hmembers.pieces true).members .nil rest, ok_bind]
    rfl
  have hread := document_reads .nil hrecord
  rwa [List.append_nil] at hread

theorem accepted_of_value {v : Value} (h : ∀ levels, Reads (value levels) text v) (hid : ofValue? v = some id) :
    Accepted text id := by
  have hreads : ∀ levels, Reads (read levels) text id := fun levels rest hrest =>
    read_of_value (h levels rest hrest) hid
  exact ⟨hreads, decode_asRecord hreads⟩

theorem outOfRange_of_value (h : ∀ levels, Refuses (value levels) text .numberOutOfRange) : OutOfRange text := by
  have hrefuses : ∀ levels, Refuses (read levels) text .numberOutOfRange := by
    intro levels rest hrest
    obtain ⟨left, hleft⟩ := h levels rest hrest
    refine ⟨left, ?_⟩
    rw [read, hleft]
    rfl
  have hmember : Refuses (NodeRecord.readMember 126 {} "id") (':' :: text) .numberOutOfRange :=
    (hrefuses 126).colon.map fun id => ({ id := some id } : NodeRecord.Draft)
  let piece : Piece := ⟨[], "id".toList.flatMap escaped ++ ['"'], ':' :: text⟩
  have hrecord : Refuses (NodeRecord.read nestingLimit) (objectText [piece] []) .numberOutOfRange := by
    refine record_refuses "NodeRecord" fun rest => ?_
    have hrest : AtBreak (restOfObject [] [] rest) := .cons (.inr (.inr (.inl rfl))) rest
    obtain ⟨left, hleft⟩ := members_refuses (p := piece) (.first .nil) (spells_escaped "id") hmember hrest
    refine ⟨left, ?_⟩
    rw [NodeRecord.readMembers, hleft]
    rfl
  have hdocument : asRecord text = Utf8.encode (objectText [piece] []) := congrArg Utf8.encode (writeObject_eq _)
  refine ⟨hrefuses, ?_⟩
  rw [hdocument]
  exact document_refuses hrecord

end

/-! ### Literals -/

section
variable {l : Literal}

theorem accepted_of_integer {n : Int} {id : NodeId} (h : l.integer? = some n) (hzero : l.text ≠ ['-', '0'])
    (hid : ofInteger? n = some id) : Accepted l.text id := by
  rw [Literal.text_eq_integer h hzero]
  exact accepted_of_value (fun levels => value_reads_integer levels (bounded_of_ofInteger? hid))
    (ofValue?_of_ofInteger? hid)

theorem accepted_of_fraction {x : Binary64} (h : Reads number l.text (.fraction x)) :
    x.isFinite = true ∧ Accepted l.text (.fractional x) := by
  obtain ⟨c, more, hcons, hc⟩ := l.exists_text_eq_cons
  have hbounded : (Number.fraction x).Bounded := number_yields _ _ (h [] .nil)
  rw [hcons] at h ⊢
  exact ⟨hbounded, accepted_of_value (fun levels => value_reads_number levels hc h) rfl⟩

theorem outOfRange_of_refuses (h : Refuses number l.text .numberOutOfRange) : OutOfRange l.text := by
  obtain ⟨c, more, hcons, hc⟩ := l.exists_text_eq_cons
  rw [hcons] at h ⊢
  exact outOfRange_of_value fun levels => value_refuses_number levels hc h

end

/-- An integer literal that fits a word gives the signed or else the unsigned word, shown as it was given; `-0` is a
    fraction. Every other literal gives a finite fraction or is refused as out of range. So integers in range give one
    identifier exactly when they are one number, and no record that is decoded has an unsigned word that fits a signed
    one, or a fraction that is not finite. -/
theorem read_literal (l l' : Literal) :
    (∀ n id, l.integer? = some n → l.text ≠ ['-', '0'] → ofInteger? n = some id →
      Accepted l.text id ∧ id.display = String.ofList l.text) ∧
    (l.text = ['-', '0'] →
      Accepted l.text (.fractional ⟨0x8000000000000000⟩) ∧ (fractional ⟨0x8000000000000000⟩).display = "-0") ∧
    ((∀ n, l.integer? = some n → ofInteger? n = none) →
      (∃ x, x.isFinite = true ∧ Accepted l.text (.fractional x)) ∨ OutOfRange l.text) ∧
    (∀ n n' id id', l.integer? = some n → l'.integer? = some n' → l.text ≠ ['-', '0'] → l'.text ≠ ['-', '0'] →
      ofInteger? n ≠ none → ofInteger? n' ≠ none → Accepted l.text id → Accepted l'.text id' →
      (id == id' ↔ n = n')) ∧
    (∀ document r, NodeRecord.decode document = .ok r → r.id.Canonical) ∧
    ∀ document nodes, NodeRecord.decodeList document = .ok nodes → ∀ r ∈ nodes, r.id.Canonical := by
  refine ⟨fun n id hn hzero hid => ?_, fun hzero => ?_, fun hout => ?_, ?_, fun document r hr => ?_,
    fun document nodes hnodes r hr => ?_⟩
  · refine ⟨accepted_of_integer hn hzero hid, ?_⟩
    rw [Literal.text_eq_integer hn hzero, display_of_integer? (integer?_of_ofInteger? hid)]
  · have hbits : (Binary64.ofNat 0).negate = ⟨0x8000000000000000⟩ := by decide +kernel
    exact ⟨(accepted_of_fraction (hbits ▸ Literal.number_reads_minusZero hzero)).2, by decide +kernel⟩
  · rcases Literal.number_readsFraction fun n hn => ofInteger?_eq_none_iff.mp (hout n hn) with ⟨x, hx⟩ | hrefused
    · exact .inl ⟨x, accepted_of_fraction hx⟩
    · exact .inr (outOfRange_of_refuses hrefused)
  · intro n n' id id' hn hn' hzero hzero' hrange hrange' hid hid'
    obtain ⟨known, hknown⟩ := Option.ne_none_iff_exists'.mp hrange
    obtain ⟨known', hknown'⟩ := Option.ne_none_iff_exists'.mp hrange'
    obtain rfl := hid.unique (accepted_of_integer hn hzero hknown)
    obtain rfl := hid'.unique (accepted_of_integer hn' hzero' hknown')
    -- Both ways go through the numbers, of which each identifier has one.
    have hinteger := integer?_of_ofInteger? hknown
    have hinteger' := integer?_of_ofInteger? hknown'
    rw [beq_iff_eq]
    constructor
    · rintro rfl
      exact Option.some.inj (hinteger.symm.trans hinteger')
    · rintro rfl
      exact Option.some.inj (hknown.symm.trans hknown')
  · exact ((NodeRecord.read_gives nestingLimit).document document r hr).id
  · exact ((Gives.array nestingLimit NodeRecord.read_gives).document document nodes hnodes r hr).id

/-- The greatest word, the number beyond it, the least word, and zero with a minus. -/
theorem read_literal_of_limits :
    let greatest := Literal.ofInteger 18446744073709551615
    let beyond := Literal.ofInteger 18446744073709551616
    let least := Literal.ofInteger (-9223372036854775808)
    let minusZero := { Literal.ofInteger 0 with negative := true }
    Accepted greatest.text (.unsigned 18446744073709551615) ∧ (unsigned 18446744073709551615).Canonical ∧
      ((∃ x, x.isFinite = true ∧ Accepted beyond.text (.fractional x)) ∨ OutOfRange beyond.text) ∧
      (∀ id id', Accepted greatest.text id → Accepted least.text id' → ¬id == id') ∧
      Accepted minusZero.text (.fractional ⟨0x8000000000000000⟩) := by
  intro greatest beyond least minusZero
  have hgreatest := Literal.integer?_ofInteger 18446744073709551615
  have hleast := Literal.integer?_ofInteger (-9223372036854775808)
  have haccepted : Accepted greatest.text (.unsigned 18446744073709551615) :=
    ((read_literal greatest least).1 _ _ hgreatest (by decide +kernel) (by decide +kernel)).1
  obtain ⟨-, -, -, hequal, hcanonical, -⟩ := read_literal greatest least
  refine ⟨haccepted, hcanonical _ _ haccepted.decodes, (read_literal beyond least).2.2.1 fun n hn => ?_,
    fun id id' hid hid' heq => ?_, ((read_literal minusZero least).2.1 (by decide +kernel)).1⟩
  · obtain rfl := Option.some.inj ((Literal.integer?_ofInteger 18446744073709551616).symm.trans hn)
    decide +kernel
  · have hsame := (hequal _ _ id id' hgreatest hleast (by decide +kernel) (by decide +kernel) (by decide +kernel)
      (by decide +kernel) hid hid').mp heq
    cases hsame

end NodeId
end ClusterConsole
