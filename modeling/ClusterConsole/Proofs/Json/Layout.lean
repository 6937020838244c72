import Mathlib.Data.List.DropRight
import ClusterConsole.Proofs.Json.Gives
import ClusterConsole.Proofs.Json.Value

/-! # Objects in any layout

Between the parts of a document there may be blanks, and a string may be spelled with more escapes than it is written
with. However an object is laid out, it is read member by member. -/

namespace ClusterConsole.Json
open Ascii

/-! ### Blanks -/

/-- Only what may stand between the parts of a document. -/
def Blanks (text : List Char) : Prop :=
  ∀ c ∈ text, c = ' ' ∨ c = '\n' ∨ c = '\t' ∨ c = '\r'

instance (text : List Char) : Decidable (Blanks text) :=
  List.decidableBAll _ text

theorem skipSpace_skipSpace (input : Input) : skipSpace (skipSpace input) = skipSpace input :=
  List.dropWhile_idempotent isSpace input

namespace Blanks
variable {blanks : List Char}

theorem nil : Blanks [] := nofun

theorem skipSpace (h : Blanks blanks) (rest : Input) :
    Json.skipSpace (Utf8.encode blanks ++ rest) = Json.skipSpace rest := by
  induction blanks with
  | nil => rfl
  | cons c blanks ih =>
    obtain ⟨hc, hmore⟩ := List.forall_mem_cons.mp h
    have hascii : c.toNat < 0x80 := by rcases hc with rfl | rfl | rfl | rfl <;> decide
    have hspace : isSpace (byte c) = true := by rcases hc with rfl | rfl | rfl | rfl <;> rfl
    rw [Utf8.encode_cons_of_ascii hascii, List.cons_append, Json.skipSpace, List.dropWhile_cons_of_pos hspace]
    exact ih hmore

theorem atBreak (h : Blanks blanks) {rest : Input} (hrest : AtBreak rest) : AtBreak (Utf8.encode blanks ++ rest) := by
  cases blanks with
  | nil => exact hrest
  | cons c blanks =>
    have hc := h c List.mem_cons_self
    have hascii : c.toNat < 0x80 := by rcases hc with rfl | rfl | rfl | rfl <;> decide
    rw [Utf8.encode_cons_of_ascii hascii, List.cons_append]
    exact .cons (.inr (.inr (.inr hc))) _

end Blanks

section
variable {α : Type} {read : Input → Except Fault (α × Input)} {text blanks : List Char} {x : α}

/-- A reader that skips blanks may find some. -/
theorem Reads.spaced (hskip : ∀ input, read input = read (skipSpace input)) (hblanks : Blanks blanks)
    (h : Reads read text x) : Reads read (blanks ++ text) x := by
  intro rest hrest
  rw [Utf8.encode_append, List.append_assoc, hskip, hblanks.skipSpace, ← hskip]
  exact h rest hrest

theorem Reads.spacedColon (hblanks : Blanks blanks) (h : Reads read text x) :
    Reads (fun input => do read (← Json.colon input)) (blanks ++ ':' :: text) x := by
  refine Reads.spaced (fun input => ?_) hblanks h.colon
  unfold Json.colon
  rw [skipSpace_skipSpace]

end

/-! ### Strings -/

/-- The text, which ends with the closing quote, is read as this string behind an opening quote. -/
def Spells (text : List Char) (s : String) : Prop :=
  ∀ rest, stringText (Utf8.encode text ++ rest) = .ok (s, rest)

/-- The spelling in which strings are written. -/
theorem spells_escaped (s : String) : Spells (s.toList.flatMap escaped ++ ['"']) s := by
  intro rest
  rw [Utf8.encode_append, List.append_assoc]
  exact stringText_encode s rest

theorem Spells.value_reads {text : List Char} {s : String} (h : Spells text s) (levels : Nat) :
    Reads (value levels) ('"' :: text) (.text s) := by
  intro rest _
  rw [Utf8.encode_cons_of_ascii (by decide), List.cons_append, value.eq_def, skipSpace_cons rfl]
  dsimp only
  rw [if_neg (by decide), if_neg (by decide), if_neg (by decide), if_neg (by decide), if_pos rfl, h rest, ok_bind]

/-! ### Members -/

/-- A member of an object in a document: what leads to its opening quote, its name from there on, and its colon and
    value. -/
structure Piece where
  lead : List Char
  name : List Char
  value : List Char

/-- A member as it stands in the document. -/
def Piece.text (p : Piece) : List Char :=
  p.lead ++ '"' :: (p.name ++ p.value)

/-- What leads to a member: to the `first` one blanks, to any other a comma among blanks. -/
inductive Leads : Bool → List Char → Prop
  | first {blanks : List Char} (h : Blanks blanks) : Leads true blanks
  | later {blanks more : List Char} (h : Blanks blanks) (hmore : Blanks more) : Leads false (blanks ++ ',' :: more)

theorem Leads.nextMember {first : Bool} {lead : List Char} (h : Leads first lead) (rest : Input) :
    nextMember first (Utf8.encode lead ++ byte '"' :: rest) = .ok (some rest) := by
  cases h with
  | first h =>
    rw [Json.nextMember, h.skipSpace, skipSpace_cons rfl]
    rfl
  | later h hmore =>
    rw [Utf8.encode_append, Utf8.encode_cons_of_ascii (by decide), List.append_assoc, List.cons_append,
      Json.nextMember, h.skipSpace, skipSpace_cons rfl]
    dsimp only
    rw [if_neg (by decide), if_neg (by decide), if_pos rfl, hmore.skipSpace, skipSpace_cons rfl]
    rfl

theorem Leads.atBreak {lead : List Char} (h : Leads false lead) (rest : Input) :
    AtBreak (Utf8.encode lead ++ rest) := by
  cases h with
  | later h hmore =>
    rw [Utf8.encode_append, Utf8.encode_cons_of_ascii (by decide), List.append_assoc]
    exact h.atBreak (.cons (.inl rfl) _)

section
variable {σ : Type} {member : σ → String → Input → Except Fault (σ × Input)}

variable (member) in
/-- The members are read in turn, from one state to another. -/
inductive ReadsPieces : Bool → σ → List Piece → σ → Prop where
  | nil (first : Bool) (s : σ) : ReadsPieces first s [] s
  | cons {first : Bool} {s mid last : σ} {p : Piece} {name : String} {more : List Piece} (lead : Leads first p.lead)
      (spells : Spells p.name name) (value : Reads (member s name) p.value mid)
      (next : ReadsPieces false mid more last) : ReadsPieces first s (p :: more) last

/-- What every member keeps holds at the end if it holds at the start. -/
theorem ReadsPieces.keeps {P : σ → Prop} (hmember : ∀ s name, P s → Gives P (member s name)) {first : Bool}
    {s last : σ} {pieces : List Piece} (h : ReadsPieces member first s pieces last) (hs : P s) : P last := by
  induction h with
  | nil => exact hs
  | cons _ _ value _ ih => exact ih (hmember _ _ hs _ _ (value [] .nil))

theorem ReadsPieces.append {first : Bool} {s mid last : σ} {ps more : List Piece}
    (h : ReadsPieces member first s ps mid) (hmore : ReadsPieces member (first && ps.isEmpty) mid more last) :
    ReadsPieces member first s (ps ++ more) last := by
  induction h with
  | nil first s => simpa using hmore
  | cons lead spells value _ ih => exact .cons lead spells value (ih (by simpa using hmore))

/-- What stands behind the opening brace of an object. -/
def restOfObject (pieces : List Piece) (closing : List Char) (rest : Input) : Input :=
  Utf8.encode (pieces.flatMap Piece.text) ++ (Utf8.encode closing ++ byte '\x7d' :: rest)

theorem restOfObject_cons (p : Piece) (more : List Piece) (closing : List Char) (rest : Input) :
    restOfObject (p :: more) closing rest = Utf8.encode p.lead ++ byte '"' ::
      (Utf8.encode p.name ++ (Utf8.encode p.value ++ restOfObject more closing rest)) := by
  rw [restOfObject, List.flatMap_cons, Piece.text]
  simp (disch := decide) only [Utf8.encode_append, Utf8.encode_cons_of_ascii, List.append_assoc, List.cons_append]
  rfl

theorem ReadsPieces.atBreak {s last : σ} {pieces : List Piece} (h : ReadsPieces member false s pieces last)
    {closing : List Char} (hclosing : Blanks closing) (rest : Input) : AtBreak (restOfObject pieces closing rest) := by
  cases h with
  | nil => exact hclosing.atBreak (.cons (.inr (.inr (.inl rfl))) rest)
  | cons lead =>
    rw [restOfObject_cons]
    exact lead.atBreak _

theorem length_lt_restOfObject (pieces : List Piece) (closing : List Char) (rest : Input) :
    pieces.length < (restOfObject pieces closing rest).length := by
  induction pieces with
  | nil =>
    simp only [restOfObject, List.length_append, List.length_cons, List.length_nil]
    omega
  | cons p more ih =>
    rw [restOfObject_cons]
    simp only [List.length_append, List.length_cons]
    omega

theorem ReadsPieces.membersWithin {first : Bool} {s last : σ} {pieces : List Piece}
    (h : ReadsPieces member first s pieces last) {closing : List Char} (hclosing : Blanks closing) {limit : Nat}
    (hlimit : pieces.length < limit) (rest : Input) :
    membersWithin member limit first s (restOfObject pieces closing rest) =
      .ok (last, Utf8.encode closing ++ byte '\x7d' :: rest) := by
  induction h generalizing limit with
  | nil first s =>
    obtain ⟨limit, rfl⟩ := Nat.exists_eq_succ_of_ne_zero (Nat.ne_of_gt hlimit)
    have hend : nextMember first (Utf8.encode closing ++ byte '\x7d' :: rest) = .ok none := by
      rw [nextMember, hclosing.skipSpace, skipSpace_cons rfl]
      rfl
    show Json.membersWithin member (limit + 1) first s (Utf8.encode closing ++ byte '\x7d' :: rest) = _
    rw [Json.membersWithin, hend, ok_bind]
  | cons lead spells value next ih =>
    rw [List.length_cons] at hlimit
    obtain ⟨limit, rfl⟩ := Nat.exists_eq_succ_of_ne_zero (Nat.ne_of_gt (Nat.zero_lt_of_lt hlimit))
    rw [restOfObject_cons, Nat.succ_eq_add_one, Json.membersWithin, lead.nextMember, ok_bind]
    dsimp only
    rw [spells, ok_bind]
    dsimp only
    rw [value _ (next.atBreak hclosing rest), ok_bind]
    exact ih (by omega)

/-! ### Objects -/

/-- An object in a document. -/
def objectText (pieces : List Piece) (closing : List Char) : List Char :=
  '\x7b' :: (pieces.flatMap Piece.text ++ closing ++ ['\x7d'])

theorem encode_objectText (pieces : List Piece) (closing : List Char) (rest : Input) :
    Utf8.encode (objectText pieces closing) ++ rest = byte '\x7b' :: restOfObject pieces closing rest := by
  rw [objectText, restOfObject]
  simp (disch := decide) only [Utf8.encode_append, Utf8.encode_cons_of_ascii, List.append_assoc, List.cons_append]
  rfl

theorem Blanks.enclosed_object {α : Type} {inside : Input → Except Fault (α × Input)} {x : α} {input rest : Input}
    {closing : List Char} (hclosing : Blanks closing)
    (h : inside input = .ok (x, Utf8.encode closing ++ byte '\x7d' :: rest)) (b : UInt8) :
    enclosed inside closeObject leaveObject (b :: input) = .ok (x, rest) := by
  rw [enclosed, List.drop_one, List.tail_cons, h]
  dsimp only
  rw [closeObject, hclosing.skipSpace, skipSpace_cons rfl]
  rfl

/-- The members of an object are read from what stands between its braces. -/
theorem ReadsPieces.members {s last : σ} {pieces : List Piece} (h : ReadsPieces member true s pieces last)
    {closing : List Char} (hclosing : Blanks closing) (rest : Input) :
    members member s (restOfObject pieces closing rest) = .ok (last, Utf8.encode closing ++ byte '\x7d' :: rest) :=
  h.membersWithin hclosing (Nat.lt_succ_of_lt (length_lt_restOfObject pieces closing rest)) rest

/-- A member that is refused ends the reading of the object, whatever comes behind it. -/
theorem members_refuses {s : σ} {p : Piece} {more : List Piece} {name : String} {closing : List Char} {cause : Cause}
    (lead : Leads true p.lead) (spells : Spells p.name name) (h : Refuses (member s name) p.value cause) {rest : Input}
    (hrest : AtBreak (restOfObject more closing rest)) :
    ∃ left, members member s (restOfObject (p :: more) closing rest) = .error ⟨cause, .settled left⟩ := by
  obtain ⟨left, hleft⟩ := h _ hrest
  refine ⟨left, ?_⟩
  rw [restOfObject_cons, Json.members, Json.membersWithin, lead.nextMember, ok_bind]
  dsimp only
  rw [spells, ok_bind]
  dsimp only
  rw [hleft]
  rfl

theorem object_reads {levels : Nat} {member : Nat → σ → String → Input → Except Fault (σ × Input)} {s last : σ}
    {pieces : List Piece} {closing : List Char} (hclosing : Blanks closing)
    (h : ReadsPieces (member levels) true s pieces last) :
    Reads (object (levels + 1) member s) (objectText pieces closing) last := by
  intro rest _
  rw [encode_objectText, object, skipSpace_cons rfl]
  exact hclosing.enclosed_object (h.members hclosing rest) _

theorem record_reads {α : Type} {levels : Nat} {ofElements ofMembers : Nat → Input → Except Fault (α × Input)} {x : α}
    {pieces : List Piece} {closing : List Char} (name : String) (hclosing : Blanks closing)
    (h : ∀ rest, ofMembers levels (restOfObject pieces closing rest) =
      .ok (x, Utf8.encode closing ++ byte '\x7d' :: rest)) :
    Reads (record name (levels + 1) ofElements ofMembers) (objectText pieces closing) x := by
  intro rest _
  rw [encode_objectText, record, skipSpace_cons rfl]
  exact hclosing.enclosed_object (h rest) _

theorem record_refuses {α : Type} {levels : Nat} {ofElements ofMembers : Nat → Input → Except Fault (α × Input)}
    {pieces : List Piece} {closing : List Char} {cause : Cause} (name : String)
    (h : ∀ rest, ∃ left, ofMembers levels (restOfObject pieces closing rest) = .error ⟨cause, .settled left⟩) :
    Refuses (record name (levels + 1) ofElements ofMembers) (objectText pieces closing) cause := by
  intro rest _
  obtain ⟨left, hleft⟩ := h rest
  refine ⟨left, ?_⟩
  rw [encode_objectText, record, skipSpace_cons rfl]
  dsimp only
  rw [if_neg (by decide), if_pos rfl, deeper, enclosed, List.drop_one, List.tail_cons, hleft]
  rfl

end

theorem document_reads {α : Type} {read : Input → Except Fault (α × Input)} {text closing : List Char} {x : α}
    (hclosing : Blanks closing) (h : Reads read text x) : document read (Utf8.encode (text ++ closing)) = .ok x := by
  have hread := h _ (hclosing.atBreak .nil)
  have hend := hclosing.skipSpace []
  rw [List.append_nil] at hread hend
  rw [document, only, Utf8.encode_append, hread, ok_bind]
  dsimp only
  rw [hend]
  rfl

theorem document_refuses {α : Type} {read : Input → Except Fault (α × Input)} {text : List Char} {cause : Cause}
    (h : Refuses read text cause) :
    ∃ refusal, document read (Utf8.encode text) = .error refusal ∧ refusal.cause = cause := by
  obtain ⟨left, hleft⟩ := h [] .nil
  rw [List.append_nil] at hleft
  refine ⟨Fault.refusal (Utf8.encode text) ⟨cause, .settled left⟩, ?_, rfl⟩
  rw [document, only, hleft]
  rfl

end ClusterConsole.Json
