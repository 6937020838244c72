import ClusterConsole.Proofs.Json.Layout

/-! # Objects as written

Of all its layouts, an object is written in the one without blanks, so it is read member by member, in the order in
which the members are written. -/

namespace ClusterConsole.Json
open Ascii

/-- The members of an object as they are written; `first` before any member has been. -/
def writtenPieces (first : Bool) : List (String × List Char) → List Piece
  | [] => []
  | (name, value) :: ms =>
    ⟨if first then [] else [','], name.toList.flatMap escaped ++ ['"'], ':' :: value⟩ :: writtenPieces false ms

theorem commaSeparated_cons (part : List Char) (parts : List (List Char)) :
    commaSeparated (part :: parts) = part ++ parts.flatMap (',' :: ·) := by
  induction parts generalizing part with
  | nil => simp [commaSeparated]
  | cons next parts ih =>
    have hnext := ih next
    rw [commaSeparated] at hnext ⊢
    rw [List.intercalate_cons_cons, hnext, List.flatMap_cons]
    simp

theorem text_writtenPieces (ms : List (String × List Char)) :
    (writtenPieces false ms).flatMap Piece.text =
      (ms.map fun (name, value) => writeString name ++ ':' :: value).flatMap (',' :: ·) := by
  induction ms with
  | nil => rfl
  | cons m ms ih =>
    obtain ⟨name, value⟩ := m
    rw [writtenPieces, List.flatMap_cons, ih]
    rfl

theorem writeObject_eq (ms : List (String × List Char)) : writeObject ms = objectText (writtenPieces true ms) [] := by
  cases ms with
  | nil => rfl
  | cons m ms =>
    obtain ⟨name, value⟩ := m
    rw [writeObject, List.map_cons, commaSeparated_cons, ← text_writtenPieces, objectText, writtenPieces,
      List.flatMap_cons, List.append_nil]
    rfl

section
variable {σ : Type} {member : σ → String → Input → Except Fault (σ × Input)}

variable (member) in
/-- Members are read in turn as they are written, from one state to another. -/
inductive ReadsMembers : σ → List (String × List Char) → σ → Prop where
  | nil (s : σ) : ReadsMembers s [] s
  | cons {s mid last : σ} {name : String} {value : List Char} {more : List (String × List Char)}
      (first : Reads (member s name) (':' :: value) mid) (next : ReadsMembers mid more last) :
      ReadsMembers s ((name, value) :: more) last

theorem ReadsMembers.append {s mid last : σ} {ms more : List (String × List Char)} (h : ReadsMembers member s ms mid)
    (hmore : ReadsMembers member mid more last) : ReadsMembers member s (ms ++ more) last := by
  induction h with
  | nil s => exact hmore
  | cons first _ ih => exact .cons first (ih hmore)

/-- A member that is written when there is something. -/
theorem ReadsMembers.ofOption {β : Type} {s last : σ} {name : String} {value : β → List Char} {o : Option β}
    (hnone : o = none → last = s) (hsome : ∀ x, o = some x → Reads (member s name) (':' :: value x) last) :
    ReadsMembers member s (o.map fun x => (name, value x)).toList last := by
  cases o with
  | none =>
    rw [hnone rfl]
    exact .nil s
  | some x => exact .cons (hsome x rfl) (.nil last)

theorem ReadsMembers.pieces {s last : σ} {ms : List (String × List Char)} (h : ReadsMembers member s ms last)
    (first : Bool) : ReadsPieces member first s (writtenPieces first ms) last := by
  induction h generalizing first with
  | nil s => exact .nil first s
  | cons value _ ih =>
    refine .cons ?_ (spells_escaped _) value (ih false)
    cases first with
    | true => exact .first .nil
    | false => exact .later .nil .nil

end

end ClusterConsole.Json
