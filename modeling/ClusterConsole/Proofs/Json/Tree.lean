import ClusterConsole.Proofs.Json.Literal
import ClusterConsole.Proofs.Json.Object

/-! # Documents as trees

The grammar of documents. A tree is a value as it stands in a document: with its blanks, the spelling of its strings and
the literals of its numbers. Nothing is said here of what a reader makes of it: strings may hold halves of pairs of
units, numbers may be too great, and arrays and objects may be nested to any depth. -/

namespace ClusterConsole.Json
open Ascii

/-- Blanks between the parts of a document. -/
structure Gap where
  chars : List Char
  blank : Blanks chars

/-- No blanks. -/
def Gap.none : Gap := ⟨[], .nil⟩

/-- Something among blanks. -/
structure Spaced (α : Type) where
  before : Gap
  value : α
  after : Gap

/-- A member of an object. -/
structure Member (α : Type) where
  before : Gap
  name : List StringPart
  beforeColon : Gap
  afterColon : Gap
  value : α
  after : Gap

/-- A value as it stands in a document. -/
inductive Tree where
  | null
  | boolean (value : Bool)
  | number (literal : Literal)
  | string (parts : List StringPart)
  /-- An array; `inner` are the blanks behind its bracket, all that there is of an empty one. -/
  | array (inner : Gap) (elements : List (Spaced Tree))
  /-- An object; `inner` are the blanks behind its brace, all that there is of an empty one. -/
  | object (inner : Gap) (members : List (Member Tree))

/-- A string with its quotes. -/
def quotedText (parts : List StringPart) : List Char :=
  '"' :: (parts.flatMap StringPart.text ++ ['"'])

/-- The text of something, with the blanks around it. -/
def Spaced.text {α : Type} (text : α → List Char) (e : Spaced α) : List Char :=
  e.before.chars ++ (text e.value ++ e.after.chars)

/-- The colon and the value of a member. -/
def Member.valueText {α : Type} (text : α → List Char) (m : Member α) : List Char :=
  m.beforeColon.chars ++ ':' :: (m.afterColon.chars ++ text m.value)

/-- The text of a member, with the blanks around it. -/
def Member.text {α : Type} (text : α → List Char) (m : Member α) : List Char :=
  m.before.chars ++ (quotedText m.name ++ (m.valueText text ++ m.after.chars))

namespace Tree

mutual
/-- The text of a value. -/
def text : Tree → List Char
  | null => ['n', 'u', 'l', 'l']
  | boolean b => if b then ['t', 'r', 'u', 'e'] else ['f', 'a', 'l', 's', 'e']
  | number l => l.text
  | string parts => quotedText parts
  | array inner elements => '[' :: (inner.chars ++ (commaSeparated (elementTexts elements) ++ [']']))
  | object inner members => '\x7b' :: (inner.chars ++ (commaSeparated (memberTexts members) ++ ['\x7d']))

/-- The texts of elements. -/
def elementTexts : List (Spaced Tree) → List (List Char)
  | [] => []
  | ⟨before, value, after⟩ :: more => (before.chars ++ (value.text ++ after.chars)) :: elementTexts more

/-- The texts of members. -/
def memberTexts : List (Member Tree) → List (List Char)
  | [] => []
  | ⟨before, name, beforeColon, afterColon, value, after⟩ :: more =>
    (before.chars ++ (quotedText name ++ ((beforeColon.chars ++ ':' :: (afterColon.chars ++ value.text)) ++ after.chars)))
      :: memberTexts more
end

theorem elementTexts_eq (elements : List (Spaced Tree)) : elementTexts elements = elements.map (Spaced.text text) := by
  induction elements with
  | nil => rw [elementTexts, List.map_nil]
  | cons e more ih => rw [elementTexts, ih, List.map_cons, Spaced.text]

theorem memberTexts_eq (members : List (Member Tree)) : memberTexts members = members.map (Member.text text) := by
  induction members with
  | nil => rw [memberTexts, List.map_nil]
  | cons m more ih => rw [memberTexts, ih, List.map_cons, Member.text, Member.valueText]

/-! ### Beginnings -/

end Tree

/-- A value begins with this character. -/
def StartsValue (c : Char) : Prop :=
  c ∈ ['n', 't', 'f', '"', '[', '\x7b'] ∨ StartsNumber c

instance (c : Char) : Decidable (StartsValue c) :=
  inferInstanceAs (Decidable (_ ∨ _ ∨ _))

namespace StartsValue
variable {c : Char}

theorem toNat_lt (h : StartsValue c) : c.toNat < 0x80 := by
  rcases h with h | h
  · have hall : ['n', 't', 'f', '"', '[', '\x7b'].all (fun d => d.toNat < 0x80) = true := by decide
    exact of_decide_eq_true (List.all_eq_true.mp hall c h)
  · exact h.toNat_lt

theorem byte_ne (h : StartsValue c) {d : Char} (hascii : d.toNat < 0x80) (hd : ¬StartsValue d) : byte c ≠ byte d := by
  intro heq
  exact hd (byte_injective h.toNat_lt hascii heq ▸ h)

theorem isSpace_byte (h : StartsValue c) : isSpace (byte c) = false := by
  simp only [isSpace, Bool.or_eq_false_iff, beq_eq_false_iff_ne]
  exact ⟨⟨⟨h.byte_ne (by decide) (by decide), h.byte_ne (by decide) (by decide)⟩, h.byte_ne (by decide) (by decide)⟩,
    h.byte_ne (by decide) (by decide)⟩

end StartsValue

namespace Tree

/-- The characters that a value of this kind begins with. -/
def Begins : Tree → Char → Prop
  | null, c => c = 'n'
  | boolean _, c => c = 't' ∨ c = 'f'
  | number _, c => StartsNumber c
  | string _, c => c = '"'
  | array .., c => c = '['
  | object .., c => c = '\x7b'

theorem Begins.startsValue {t : Tree} {c : Char} (h : t.Begins c) : StartsValue c := by
  cases t with
  | null => exact h ▸ by decide
  | boolean b => rcases h with rfl | rfl <;> decide
  | number l => exact .inr h
  | string parts => exact h ▸ by decide
  | array inner elements => exact h ▸ by decide
  | object inner members => exact h ▸ by decide

theorem exists_text_eq_cons (t : Tree) : ∃ c more, t.text = c :: more ∧ t.Begins c := by
  cases t with
  | null => exact ⟨'n', _, rfl, rfl⟩
  | boolean b =>
    cases b with
    | true => exact ⟨'t', _, rfl, .inl rfl⟩
    | false => exact ⟨'f', _, rfl, .inr rfl⟩
  | number l =>
    rw [text]
    exact l.exists_text_eq_cons
  | string parts => exact ⟨'"', _, by rw [text, quotedText], rfl⟩
  | array inner elements => exact ⟨'[', _, by rw [text], rfl⟩
  | object inner members => exact ⟨'\x7b', _, by rw [text], rfl⟩

/-! Null, a string, an array and an object are told from all other kinds by how they begin. -/

theorem Begins.eq_null {t : Tree} (h : t.Begins 'n') : t = null := by
  cases t with
  | null => rfl
  | _ => simp [Begins, StartsNumber] at h

theorem Begins.exists_eq_string {t : Tree} (h : t.Begins '"') : ∃ parts, t = string parts := by
  cases t with
  | string parts => exact ⟨parts, rfl⟩
  | _ => simp [Begins, StartsNumber] at h

theorem Begins.exists_eq_array {t : Tree} (h : t.Begins '[') : ∃ inner elements, t = array inner elements := by
  cases t with
  | array inner elements => exact ⟨inner, elements, rfl⟩
  | _ => simp [Begins, StartsNumber] at h

theorem Begins.exists_eq_object {t : Tree} (h : t.Begins '\x7b') : ∃ inner members, t = object inner members := by
  cases t with
  | object inner members => exact ⟨inner, members, rfl⟩
  | _ => simp [Begins, StartsNumber] at h

end Tree

/-! ### Behind a bracket -/

/-- An element and its text. -/
def Spaced.item (e : Spaced Tree) : Spaced (List Char) :=
  ⟨e.before, e.value.text, e.after⟩

/-- A member and its text. -/
def Member.item (m : Member Tree) : Spaced (List Char) :=
  ⟨m.before, quotedText m.name ++ m.valueText Tree.text, m.after⟩

/-- What stands behind the bracket of an array or an object or behind one of its items: blanks, the items that are still
to come, each with a comma in front unless it is the `first`, and the closing bracket. -/
def restOfItems (close : Char) : Gap → Bool → List (Spaced (List Char)) → Input → Input
  | gap, _, [], rest => Utf8.encode gap.chars ++ byte close :: rest
  | gap, first, e :: es, rest =>
    Utf8.encode (gap.chars ++ if first then [] else [',']) ++
      (Utf8.encode e.before.chars ++ (Utf8.encode e.value ++ restOfItems close e.after false es rest))

/-- The blanks behind the last of the items. -/
def lastGap : Gap → List (Spaced (List Char)) → Gap
  | gap, [] => gap
  | _, e :: es => lastGap e.after es

section
variable {close : Char}

theorem encode_items (hclose : close.toNat < 0x80) (gap : Gap) (es : List (Spaced (List Char))) (rest : Input) :
    Utf8.encode (gap.chars ++ ((es.map (Spaced.text id)).flatMap (',' :: ·) ++ [close])) ++ rest =
      restOfItems close gap false es rest := by
  induction es generalizing gap with
  | nil =>
    rw [List.map_nil, List.flatMap_nil, List.nil_append, Utf8.encode_append, Utf8.encode_cons_of_ascii hclose,
      List.append_assoc]
    rfl
  | cons e es ih =>
    have hsplit : ∀ more : List Char, gap.chars ++ (',' :: Spaced.text id e ++ more) =
        (gap.chars ++ [',']) ++ (e.before.chars ++ (e.value ++ (e.after.chars ++ more))) := by
      simp only [Spaced.text, id_eq, List.append_assoc, List.cons_append, List.nil_append, implies_true]
    rw [restOfItems, ← ih e.after, List.map_cons, List.flatMap_cons, List.append_assoc, hsplit]
    simp only [Utf8.encode_append, List.append_assoc, Bool.false_eq_true, if_false]

theorem encode_enclosed {opening : Char} (hopening : opening.toNat < 0x80) (hclose : close.toNat < 0x80) (inner : Gap)
    (es : List (Spaced (List Char))) (rest : Input) :
    Utf8.encode (opening :: (inner.chars ++ (commaSeparated (es.map (Spaced.text id)) ++ [close]))) ++ rest =
      byte opening :: restOfItems close inner true es rest := by
  rw [Utf8.encode_cons_of_ascii hopening, List.cons_append]
  refine congrArg (byte opening :: ·) ?_
  cases es with
  | nil =>
    rw [List.map_nil, commaSeparated, List.intercalate_nil, List.nil_append, Utf8.encode_append,
      Utf8.encode_cons_of_ascii hclose, List.append_assoc]
    rfl
  | cons e es =>
    rw [restOfItems, ← encode_items hclose e.after, List.map_cons, commaSeparated_cons, Spaced.text]
    simp only [Utf8.encode_append, List.append_assoc, id_eq, if_true, List.append_nil]

theorem Tree.encode_array (inner : Gap) (es : List (Spaced Tree)) (rest : Input) :
    Utf8.encode (array inner es).text ++ rest = byte '[' :: restOfItems ']' inner true (es.map Spaced.item) rest := by
  rw [← encode_enclosed (by decide) (by decide), text, elementTexts_eq, List.map_map]
  rfl

theorem Tree.encode_object (inner : Gap) (ms : List (Member Tree)) (rest : Input) :
    Utf8.encode (object inner ms).text ++ rest =
      byte '\x7b' :: restOfItems '\x7d' inner true (ms.map Member.item) rest := by
  rw [← encode_enclosed (by decide) (by decide), text, memberTexts_eq, List.map_map]
  refine congrArg (fun texts => Utf8.encode ('\x7b' :: (inner.chars ++ (commaSeparated texts ++ ['\x7d']))) ++ rest)
    (List.map_congr_left fun m _ => ?_)
  simp only [Member.text, Spaced.text, Member.item, Function.comp_apply, id_eq, List.append_assoc]

theorem restOfItems_atBreak (hclose : close = ']' ∨ close = '\x7d') (gap : Gap) (es : List (Spaced (List Char)))
    (rest : Input) : AtBreak (restOfItems close gap false es rest) := by
  cases es with
  | nil => exact gap.blank.atBreak (.cons (by rcases hclose with rfl | rfl <;> decide) rest)
  | cons e es =>
    rw [restOfItems, Utf8.encode_append, List.append_assoc]
    exact gap.blank.atBreak (.cons (.inl rfl) _)

theorem length_lt_restOfItems (gap : Gap) (first : Bool) (es : List (Spaced (List Char))) (rest : Input) :
    rest.length < (restOfItems close gap first es rest).length := by
  induction es generalizing gap first with
  | nil =>
    rw [restOfItems, List.length_append, List.length_cons]
    omega
  | cons e es ih =>
    have hmore := ih e.after false
    rw [restOfItems]
    simp only [List.length_append]
    omega

theorem count_lt_restOfItems (gap : Gap) (es : List (Spaced (List Char))) (rest : Input) :
    es.length < (restOfItems close gap false es rest).length := by
  induction es generalizing gap with
  | nil =>
    rw [restOfItems, List.length_append, List.length_cons, List.length_nil]
    omega
  | cons e es ih =>
    have hmore := ih e.after
    rw [restOfItems, if_neg Bool.false_ne_true, Utf8.encode_append, Utf8.encode_cons_of_ascii (by decide)]
    simp only [List.length_append, List.length_cons]
    omega

theorem count_le_restOfItems (gap : Gap) (first : Bool) (es : List (Spaced (List Char)))
    (rest : Input) : es.length ≤ (restOfItems close gap first es rest).length := by
  cases es with
  | nil => exact Nat.zero_le _
  | cons e es =>
    have hmore : es.length < (restOfItems close e.after false es rest).length :=
      count_lt_restOfItems e.after es rest
    rw [restOfItems]
    simp only [List.length_append, List.length_cons]
    omega

end

end ClusterConsole.Json
