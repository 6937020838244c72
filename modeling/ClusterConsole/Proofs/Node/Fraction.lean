import ClusterConsole.Proofs.Json.ReadBack
import ClusterConsole.Proofs.Node.Literal

/-! # Fractions there and back

An identifier that is a finite fraction is written so that it is read as a finite fraction of the same sign. Where its
digits and its power of ten need no rounding it is the same one. -/

namespace ClusterConsole.NodeId
open Json Binary64

/-- The identifier that a document is. -/
def decode (document : Input) : Except Refusal NodeId :=
  Json.document (read nestingLimit) document

section
variable {x : Binary64}

theorem Accepted.decode_eq {text : List Char} {id : NodeId} (h : Accepted text id) :
    decode (Utf8.encode text) = .ok id := by
  have hread := document_reads .nil (h.reads nestingLimit)
  rwa [List.append_nil] at hread

theorem accepted_of_scale? (hx : x.isFinite = true) {y : Binary64}
    (h : scale? x.written.digits x.written.exponent = some y) :
    Accepted (write (.fractional x)) (.fractional (withSign x.negative y)) := by
  have hreads := literal_reads hx h
  obtain ⟨c, more, hcons, hc⟩ := literal_startsNumber hx
  rw [hcons] at hreads
  rw [write, hcons]
  exact accepted_of_value (fun levels => value_reads_number levels hc hreads) rfl

/-- A finite fraction is read back as a finite fraction of its sign, alone and in a record: as itself when the digits of
    its literal, without the point, are at most 2^53 and the power of ten that belongs to them is at most the
    twenty-second, up or down; and else as one that is at most two places beside it, or three when that power is less
    than the least one that is divided by at once. -/
theorem fractional_read_back (hx : x.isFinite = true) : ∃ y : Binary64,
    Accepted (write (.fractional x)) (.fractional y) ∧
      decode (Utf8.encode (write (.fractional x))) = .ok (.fractional y) ∧
      y.isFinite = true ∧ y.negative = x.negative ∧ Near (drift x) y.magnitude x.magnitude ∧ (Exact x → y = x) := by
  obtain ⟨size, hscale, hread⟩ := scale?_written hx
  have haccepted := accepted_of_scale? hx hscale
  obtain ⟨hnegative, hmagnitude⟩ := withSign_eq x.negative hread.unsigned hread.finite
  refine ⟨withSign x.negative size, haccepted, haccepted.decode_eq, isFinite_withSign hread.finite _, hnegative, ?_,
    fun hexact => rank_injective ?_⟩
  · rw [hmagnitude]
    exact hread.near
  · rw [rank, rank, hnegative, hmagnitude, hread.exact hexact]

end

/-- One and a half is written in few digits. -/
theorem fractional_read_back_of_half : let x : Binary64 := ⟨0x3FF8000000000000⟩
    x.isFinite = true ∧ Exact x ∧ write (.fractional x) = ['1', '.', '5'] ∧
      decode (Utf8.encode ['1', '.', '5']) = .ok (.fractional x) := by
  intro x
  have hfinite : x.isFinite = true := by decide +kernel
  have hexact : Exact x := by decide +kernel
  have hwrite : write (.fractional x) = ['1', '.', '5'] := by decide +kernel
  obtain ⟨y, -, hdecode, -, -, -, heq⟩ := fractional_read_back hfinite
  rw [heq hexact, hwrite] at hdecode
  exact ⟨hfinite, hexact, hwrite, hdecode⟩

/-- The greatest odd number of 53 bits is written with one more digit behind the point, and what is read is the even
    number below it. -/
theorem fractional_not_read_back :
    ¬∀ x : Binary64, x.isFinite = true → decode (Utf8.encode (write (.fractional x))) = .ok (.fractional x) := by
  intro h
  let x : Binary64 := ⟨0x433FFFFFFFFFFFFF⟩
  have hfinite : x.isFinite = true := by decide +kernel
  have hwritten : x.written = ⟨90071992547409910, -1⟩ := by decide +kernel
  have hscale : scale? x.written.digits x.written.exponent =
      some ((ofNat 90071992547409910).dividedBy (powerOfTen 1)) := by
    rw [hwritten, scale?]
    exact congrArg some (scaleDown_near (by decide))
  have hread := (accepted_of_scale? hfinite hscale).decode_eq
  rw [h x hfinite] at hread
  have heq := fractional.inj (Except.ok.inj hread)
  revert heq
  decide +kernel

end ClusterConsole.NodeId
