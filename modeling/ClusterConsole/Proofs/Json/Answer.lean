import ClusterConsole.Proofs.Json.Skip

/-! # What readers answer

What a reader makes of a value depends on its text alone: wherever the text stands, it is read as one and the same value
or refused. Of an array or an object that is so if it is of the items. -/

namespace ClusterConsole.Json
open Ascii

/-- Wherever the text stands, with or without blanks in front, the reader gives the answer and stops right behind the
text; where there is no answer, it refuses. -/
def Answers {α : Type} (read : Input → Except Fault (α × Input)) (text : List Char) (answer : Option α) : Prop :=
  ∀ input rest, AtBreak rest → skipSpace input = Utf8.encode text ++ rest →
    (read input).toOption = answer.map (·, rest)

/-! ### Numbers -/

namespace Literal

/-- A literal is read as a number, or refused, wherever it stands. -/
theorem reads_or_refuses (l : Literal) : (∃ n, Reads number l.text n) ∨ ∃ cause, Refuses number l.text cause := by
  have hfraction : ReadsFraction number l.text →
      (∃ n, Reads number l.text n) ∨ ∃ cause, Refuses number l.text cause := by
    rintro (⟨x, hx⟩ | hrefused)
    · exact .inl ⟨_, hx⟩
    · exact .inr ⟨_, hrefused⟩
  by_cases hzero : l.text = ['-', '0']
  · exact .inl ⟨_, number_reads_minusZero hzero⟩
  by_cases hinteger : ∃ n, l.integer? = some n ∧ (Number.integer n).Bounded
  · obtain ⟨n, hn, hbounded⟩ := hinteger
    refine .inl ⟨.integer n, ?_⟩
    rw [text_eq_integer hn hzero]
    exact number_reads hbounded
  · exact hfraction (number_readsFraction fun n hn hbounded => hinteger ⟨n, hn, hbounded⟩)

/-- The number that a literal is read as; none when it is out of range. -/
def number? (l : Literal) : Option Number :=
  (number (Utf8.encode l.text)).toOption.map Prod.fst

theorem number_text_toOption (l : Literal) {rest : Input} (h : AtBreak rest) :
    (number (Utf8.encode l.text ++ rest)).toOption = l.number?.map (·, rest) := by
  rcases l.reads_or_refuses with ⟨n, hn⟩ | ⟨cause, hrefused⟩
  · have halone := hn [] .nil
    rw [List.append_nil] at halone
    rw [number?, halone, hn rest h]
    rfl
  · obtain ⟨left, halone⟩ := hrefused [] .nil
    obtain ⟨left', hleft⟩ := hrefused rest h
    rw [List.append_nil] at halone
    rw [number?, halone, hleft]
    rfl

end Literal

/-! ### Scalars -/

/-- The string that is spelled so, if there is one. -/
def spelledString? (parts : List StringPart) : Option String :=
  (StringPart.spelled? parts).map String.ofList

theorem stringText_toOption (parts : List StringPart) (rest : Input) :
    (stringText (restOfString parts rest)).toOption = (spelledString? parts).map (·, rest) := by
  rw [stringText_restOfString, spelledString?, Option.map_map]
  rfl

namespace Tree

/-- The value of a scalar. -/
def scalar? : Tree → Option Value
  | null => some .null
  | boolean b => some (.boolean b)
  | number l => l.number?.map .number
  | string parts => (spelledString? parts).map .text
  | array .. => none
  | object .. => none

/-- The string that a value is. -/
def string? : Tree → Option String
  | string parts => spelledString? parts
  | _ => none

/-- Nothing for null, and else what the value gives. -/
def optional? {α : Type} (value? : Tree → Option α) : Tree → Option (Option α)
  | null => some none
  | t => (value? t).map some

end Tree

section
variable {input rest : Input}

/-- The front of a value, behind the blanks. -/
theorem exists_skipSpace_eq_cons {t : Tree} (h : skipSpace input = Utf8.encode t.text ++ rest) :
    ∃ c more, t.Begins c ∧ skipSpace input = byte c :: (Utf8.encode more ++ rest) := by
  obtain ⟨c, more, htext, hc⟩ := t.exists_text_eq_cons
  refine ⟨c, more, hc, ?_⟩
  rw [h, htext, Utf8.encode_cons_of_ascii hc.startsValue.toNat_lt, List.cons_append]

theorem value_null (levels : Nat) (h : skipSpace input = Utf8.encode Tree.null.text ++ rest) :
    value levels input = .ok (.null, rest) := by
  rw [value.eq_def, h]
  show (word ['u', 'l', 'l'] (Utf8.encode ['u', 'l', 'l'] ++ rest) >>= fun rest => Except.ok (Value.null, rest)) = _
  rw [Skip.word_encode _ (by decide), ok_bind]

theorem value_boolean (levels : Nat) {b : Bool} (h : skipSpace input = Utf8.encode (Tree.boolean b).text ++ rest) :
    value levels input = .ok (.boolean b, rest) := by
  rw [value.eq_def, h]
  cases b with
  | true =>
    show (word ['r', 'u', 'e'] (Utf8.encode ['r', 'u', 'e'] ++ rest) >>=
      fun rest => Except.ok (Value.boolean true, rest)) = _
    rw [Skip.word_encode _ (by decide), ok_bind]
  | false =>
    show (word ['a', 'l', 's', 'e'] (Utf8.encode ['a', 'l', 's', 'e'] ++ rest) >>=
      fun rest => Except.ok (Value.boolean false, rest)) = _
    rw [Skip.word_encode _ (by decide), ok_bind]

theorem value_number (levels : Nat) {l : Literal} (hrest : AtBreak rest)
    (h : skipSpace input = Utf8.encode (Tree.number l).text ++ rest) :
    (value levels input).toOption = (l.number?.map Value.number).map (·, rest) := by
  obtain ⟨c, more, htext, hc⟩ := l.exists_text_eq_cons
  have hskip : value levels input = value levels (Utf8.encode l.text ++ rest) := by
    rw [Tree.text] at h
    rw [value.eq_def, value.eq_def levels (Utf8.encode l.text ++ rest), h, htext,
      Utf8.encode_cons_of_ascii hc.toNat_lt, List.cons_append, skipSpace_cons hc.isSpace_byte]
  have hnumber := l.number_text_toOption hrest
  rw [htext] at hskip hnumber
  rw [hskip, value_of_startsNumber levels hc, toOption_bind, hnumber]
  cases l.number? <;> rfl

theorem value_string (levels : Nat) {parts : List StringPart}
    (h : skipSpace input = Utf8.encode (Tree.string parts).text ++ rest) :
    (value levels input).toOption = ((spelledString? parts).map Value.text).map (·, rest) := by
  rw [value.eq_def, h, Tree.text, Skip.encode_quotedText]
  show (stringText (restOfString parts rest) >>= fun found => Except.ok (Value.text found.1, found.2)).toOption = _
  rw [toOption_bind, stringText_toOption]
  cases spelledString? parts <;> rfl

theorem value_array (levels : Nat) {inner : Gap} {es : List (Spaced Tree)}
    (h : skipSpace input = Utf8.encode (Tree.array inner es).text ++ rest) :
    Yields (·.1 = .compound) (value levels input) := by
  rw [value.eq_def, h, Tree.encode_array]
  cases levels with
  | zero => exact .error _
  | succ levels => exact Yields.after fun _ => .ok rfl

theorem value_object (levels : Nat) {inner : Gap} {ms : List (Member Tree)}
    (h : skipSpace input = Utf8.encode (Tree.object inner ms).text ++ rest) :
    Yields (·.1 = .compound) (value levels input) := by
  rw [value.eq_def, h, Tree.encode_object]
  cases levels with
  | zero => exact .error _
  | succ levels => exact Yields.after fun _ => .ok rfl

end

/-- What is made of a value that has been read whole, if an array or an object gives nothing. -/
theorem chosen_answers {β : Type} {choose : Value → Option β} {next : Value × Input → Except Fault (β × Input)}
    (hnext : ∀ v rest, (next (v, rest)).toOption = (choose v).map (·, rest)) (hcompound : choose .compound = none)
    (levels : Nat) (t : Tree) : Answers (fun input => value levels input >>= next) t.text (t.scalar?.bind choose) := by
  intro input rest hrest hinput
  have hscalar : (value levels input).toOption = t.scalar?.map (·, rest) →
      (value levels input >>= next).toOption = (t.scalar?.bind choose).map (·, rest) := by
    intro h
    rw [toOption_bind, h]
    cases t.scalar? with
    | none => rfl
    | some v => exact hnext v rest
  have hrefused : Yields (·.1 = .compound) (value levels input) → (value levels input >>= next).toOption = none := by
    intro h
    rw [toOption_bind]
    cases hvalue : value levels input with
    | error fault => rfl
    | ok found =>
      obtain ⟨v, rest'⟩ := found
      obtain rfl : v = .compound := h _ hvalue
      show (next (.compound, rest')).toOption = none
      rw [hnext, hcompound]
      rfl
  cases t with
  | null => exact hscalar (by rw [value_null levels hinput]; rfl)
  | boolean b => exact hscalar (by rw [value_boolean levels hinput]; rfl)
  | number l => exact hscalar (value_number levels hrest hinput)
  | string parts => exact hscalar (value_string levels hinput)
  | array inner es => exact hrefused (value_array levels hinput)
  | object inner ms => exact hrefused (value_object levels hinput)

theorem string_answers (t : Tree) : Answers string t.text t.string? := by
  intro input rest _ hinput
  obtain ⟨c, more, hc, hskip⟩ := exists_skipSpace_eq_cons hinput
  by_cases hquote : byte c = byte '"'
  · obtain rfl := byte_injective hc.startsValue.toNat_lt (by decide) hquote
    obtain ⟨parts, rfl⟩ := hc.exists_eq_string
    rw [string, hinput, Tree.text, Skip.encode_quotedText]
    exact stringText_toOption parts rest
  · rw [string, hskip]
    dsimp only
    rw [if_neg hquote]
    have hother : ∀ parts, t ≠ .string parts := by
      rintro parts rfl
      exact hquote (congrArg byte hc)
    cases t with
    | string parts => exact absurd rfl (hother parts)
    | _ => rfl

/-- Null is told from anything else by its first letter. -/
theorem optional_answers {α : Type} {read : Input → Except Fault (α × Input)} {value? : Tree → Option α} {t : Tree}
    (h : Answers read t.text (value? t)) : Answers (optional read) t.text (t.optional? value?) := by
  intro input rest hrest hinput
  obtain ⟨c, more, hc, hskip⟩ := exists_skipSpace_eq_cons hinput
  by_cases hnull : byte c = byte 'n'
  · obtain rfl := byte_injective hc.startsValue.toNat_lt (by decide) hnull
    obtain rfl := hc.eq_null
    rw [optional, hinput]
    show (word ['u', 'l', 'l'] (Utf8.encode ['u', 'l', 'l'] ++ rest) >>= fun rest => Except.ok (none, rest)).toOption = _
    rw [Skip.word_encode _ (by decide), ok_bind]
    rfl
  · have hread := h (byte c :: (Utf8.encode more ++ rest)) rest hrest (by
      rw [skipSpace_cons hc.startsValue.isSpace_byte, ← hskip, hinput])
    have hoption : t.optional? value? = (value? t).map some := by
      cases t with
      | null => exact absurd (congrArg byte hc) hnull
      | _ => rfl
    rw [optional, hskip, hoption]
    dsimp only
    rw [if_neg hnull, toOption_bind, hread]
    cases value? t <;> rfl

/-! ### Parts -/

section
variable {α : Type} {read : Input → Except Fault (α × Input)} {text : List Char} {answer : Option α}

theorem Answers.map {β : Type} (h : Answers read text answer) (f : α → β) :
    Answers (fun input => do
      let (y, rest) ← read input
      .ok (f y, rest)) text (answer.map f) := by
  intro input rest hrest hinput
  rw [toOption_bind, h input rest hrest hinput]
  cases answer <;> rfl

theorem colon_text {input rest : Input} (gap : Gap)
    (h : skipSpace input = Utf8.encode (':' :: (gap.chars ++ text)) ++ rest) :
    colon input = .ok (Utf8.encode gap.chars ++ (Utf8.encode text ++ rest)) := by
  rw [colon, h, Utf8.encode_cons_of_ascii (by decide), Utf8.encode_append, List.cons_append, List.append_assoc]
  rfl

theorem skipSpace_text (t : Tree) (gap : Gap) (rest : Input) :
    skipSpace (Utf8.encode gap.chars ++ (Utf8.encode t.text ++ rest)) = Utf8.encode t.text ++ rest := by
  obtain ⟨c, more, htext, hc⟩ := t.exists_text_eq_cons
  rw [gap.blank.skipSpace, htext, Utf8.encode_cons_of_ascii hc.startsValue.toNat_lt, List.cons_append,
    skipSpace_cons hc.startsValue.isSpace_byte]

theorem Answers.colon {t : Tree} (h : Answers read t.text answer) (gap : Gap) :
    Answers (fun input => do read (← Json.colon input)) (':' :: (gap.chars ++ t.text)) answer := by
  intro input rest hrest hinput
  dsimp only
  rw [colon_text gap hinput, ok_bind]
  exact h _ rest hrest (skipSpace_text t gap rest)

theorem skip_answers {σ : Type} (s : σ) (t : Tree) (gap : Gap) :
    Answers (fun input => do .ok (s, ← Skip.value (← Json.colon input))) (':' :: (gap.chars ++ t.text)) (some s) := by
  intro input rest hrest hinput
  dsimp only
  rw [colon_text gap hinput, ok_bind, Skip.value_text hrest (skipSpace_text t gap rest)]
  rfl

/-- A value that may be given once. -/
def once? (sofar : Option α) (value : Option α) : Option α :=
  match sofar with
  | some _ => none
  | none => value

theorem once_answers {t : Tree} (h : Answers read t.text answer) (name : String) (sofar : Option α) (gap : Gap) :
    Answers (once name sofar read) (':' :: (gap.chars ++ t.text)) (once? sofar answer) := by
  intro input rest hrest hinput
  cases sofar with
  | some x => rfl
  | none => exact h.colon gap input rest hrest hinput

theorem enclosed_toOption {close : Input → Except Fault Input} (leave : Input → Input) (b : UInt8) (input : Input) :
    (enclosed read close leave (b :: input)).toOption =
      (read input).toOption.bind fun (x, rest) => (close rest).toOption.map (x, ·) := by
  rw [enclosed, List.drop_one, List.tail_cons]
  cases read input with
  | error fault => rfl
  | ok found =>
    obtain ⟨x, rest⟩ := found
    dsimp only [Except.toOption, Option.bind_some]
    cases close rest <;> rfl

end

/-! ### Arrays -/

section
variable {α : Type} {read : Input → Except Fault (α × Input)} {value? : Tree → Option α}

theorem nextElement_end (gap : Gap) (first : Bool) (rest : Input) :
    nextElement first (restOfItems ']' gap first [] rest) = .ok none := by
  rw [restOfItems, nextElement, gap.blank.skipSpace, skipSpace_cons rfl]
  rfl

theorem nextElement_item (gap : Gap) (first : Bool) (e : Spaced Tree) (es : List (Spaced (List Char))) (rest : Input) :
    nextElement first (restOfItems ']' gap first (e.item :: es) rest) =
      .ok (some (Utf8.encode e.value.text ++ restOfItems ']' e.after false es rest)) := by
  obtain ⟨c, more, htext, hc⟩ := e.value.exists_text_eq_cons
  have hnot : byte c ≠ byte ']' := hc.startsValue.byte_ne (by decide) (by decide)
  have hitem : skipSpace (Utf8.encode e.before.chars ++
      (Utf8.encode e.value.text ++ restOfItems ']' e.after false es rest)) =
      byte c :: (Utf8.encode more ++ restOfItems ']' e.after false es rest) := by
    rw [skipSpace_text, htext, Utf8.encode_cons_of_ascii hc.startsValue.toNat_lt, List.cons_append]
  rw [htext, Utf8.encode_cons_of_ascii hc.startsValue.toNat_lt, List.cons_append, restOfItems, Spaced.item]
  cases first with
  | true =>
    rw [if_pos rfl, List.append_nil, nextElement, gap.blank.skipSpace, hitem]
    dsimp only
    rw [if_neg hnot, if_pos rfl]
  | false =>
    rw [if_neg Bool.false_ne_true, Utf8.encode_append, List.append_assoc, nextElement, gap.blank.skipSpace,
      Utf8.encode_cons_of_ascii (by decide), List.cons_append, skipSpace_cons rfl]
    dsimp only
    rw [if_neg (by decide), if_neg Bool.false_ne_true, if_pos rfl, Utf8.encode, List.flatMap_nil, List.nil_append, hitem]
    exact if_neg hnot

/-- The elements that are still to come are read in turn, and if none is refused the blanks behind the last one and the
bracket are left. -/
theorem elementsWithin_items {es : List (Spaced Tree)} (h : ∀ e ∈ es, Answers read e.value.text (value? e.value))
    (gap : Gap) (first : Bool) {limit : Nat} (hlimit : es.length < limit) (rest : Input) :
    (elementsWithin read limit first (restOfItems ']' gap first (es.map Spaced.item) rest)).toOption =
      (es.mapM fun e => value? e.value).map
        (·, Utf8.encode (lastGap gap (es.map Spaced.item)).chars ++ byte ']' :: rest) := by
  induction es generalizing gap first limit with
  | nil =>
    obtain ⟨limit, rfl⟩ := Nat.exists_eq_succ_of_ne_zero (Nat.ne_of_gt (Nat.zero_lt_of_lt hlimit))
    rw [List.map_nil, elementsWithin, nextElement_end, ok_bind]
    rfl
  | cons e es ih =>
    obtain ⟨he, hmore⟩ := List.forall_mem_cons.mp h
    rw [List.length_cons] at hlimit
    obtain ⟨limit, rfl⟩ := Nat.exists_eq_succ_of_ne_zero (Nat.ne_of_gt (Nat.zero_lt_of_lt hlimit))
    have hread := he (Utf8.encode e.value.text ++ restOfItems ']' e.after false (es.map Spaced.item) rest) _
      (restOfItems_atBreak (.inl rfl) _ _ _) (skipSpace_text e.value .none _)
    rw [List.map_cons, elementsWithin, nextElement_item, ok_bind]
    dsimp only
    rw [toOption_bind, hread, List.mapM_cons]
    cases value? e.value with
    | none => rfl
    | some x =>
      dsimp only [Option.map_some, Option.bind_some]
      rw [toOption_bind, ih hmore e.after false (by omega)]
      show _ = Option.map _ (Option.bind (es.mapM fun e => value? e.value) _)
      cases es.mapM fun e => value? e.value <;> rfl

theorem closeArray_end (gap : Gap) (rest : Input) :
    closeArray (Utf8.encode gap.chars ++ byte ']' :: rest) = .ok rest := by
  rw [closeArray, gap.blank.skipSpace, skipSpace_cons rfl]
  rfl

theorem array_answers {element : Nat → Input → Except Fault (α × Input)} {levels : Nat} {es : List (Spaced Tree)}
    (h : ∀ e ∈ es, Answers (element levels) e.value.text (value? e.value)) (inner : Gap) :
    Answers (array (levels + 1) element) (Tree.array inner es).text (es.mapM fun e => value? e.value) := by
  intro input rest _ hinput
  rw [array, hinput, Tree.encode_array]
  show (enclosed (elements (element levels)) closeArray leaveArray (byte '[' :: _)).toOption = _
  rw [enclosed_toOption, elements, elementsWithin_items h inner true
    (Nat.lt_succ_of_le (Nat.le_trans (Nat.le_of_eq (List.length_map _).symm) (count_le_restOfItems _ _ _ _)))]
  cases es.mapM fun e => value? e.value with
  | none => rfl
  | some xs =>
    dsimp only [Option.map_some, Option.bind_some]
    rw [closeArray_end]
    rfl

end

/-! ### Elements one by one -/

/-- The first of the values, and the others. -/
def take? {α : Type} (value? : Tree → Option α) : List Tree → Option (Option α × List Tree)
  | [] => some (none, [])
  | t :: more => (value? t).map (some ·, more)

/-- The input is what is left of an array when these elements are still to come. -/
inductive ElementsLeft (rest : Input) : Bool → List Tree → Input → Prop where
  | intro (gap : Gap) (first : Bool) (es : List (Spaced Tree)) :
    ElementsLeft rest first (es.map Spaced.value) (restOfItems ']' gap first (es.map Spaced.item) rest)

/-- What is read inside an array is the answer if the array ends there. -/
def EndsArray {α : Type} (inside : Except Fault (α × Input)) (rest : Input) (answer : Option α) : Prop :=
  (inside.toOption.bind fun (x, rest) => (closeArray rest).toOption.map (x, ·)) = answer.map (·, rest)

section
variable {α β : Type} {read : Input → Except Fault (α × Input)} {value? : Tree → Option α} {rest : Input}

/-- An element is read if there is one. -/
theorem EndsArray.element? {first : Bool} {ts : List Tree} {input : Input} (h : ElementsLeft rest first ts input)
    (hread : ∀ t, Answers read t.text (value? t)) {next : Option α × Input → Except Fault (β × Input)}
    {answer : Option α × List Tree → Option β}
    (hnext : ∀ x more input, ElementsLeft rest false more input → EndsArray (next (x, input)) rest (answer (x, more))) :
    EndsArray (element? read first input >>= next) rest ((take? value? ts).bind answer) := by
  obtain ⟨gap, first, es⟩ := h
  cases es with
  | nil =>
    have hnone : Json.element? read first (restOfItems ']' gap first [] rest) =
        .ok (none, restOfItems ']' gap false [] rest) := by
      rw [Json.element?, nextElement_end, ok_bind]
      rfl
    rw [List.map_nil, List.map_nil, hnone, ok_bind]
    exact hnext none [] _ (.intro gap false [])
  | cons e es =>
    have hfound := hread e.value (Utf8.encode e.value.text ++ restOfItems ']' e.after false (es.map Spaced.item) rest) _
      (restOfItems_atBreak (.inl rfl) _ _ _) (skipSpace_text e.value .none _)
    rw [List.map_cons, List.map_cons, Json.element?, nextElement_item, ok_bind]
    dsimp only
    unfold EndsArray
    rw [toOption_bind, toOption_bind, hfound, take?]
    cases value? e.value with
    | none => rfl
    | some x => exact hnext (some x) (es.map Spaced.value) _ (.intro e.after false es)

theorem EndsArray.ok {ts : List Tree} {input : Input} (h : ElementsLeft rest false ts input) (x : α) :
    EndsArray (.ok (x, input)) rest (if ts = [] then some x else none) := by
  obtain ⟨gap, _, es⟩ := h
  cases es with
  | nil =>
    show ((closeArray (Utf8.encode gap.chars ++ byte ']' :: rest)).toOption.map (x, ·)) = _
    rw [closeArray_end]
    rfl
  | cons e es =>
    have herror : (closeArray (restOfItems ']' gap false (e.item :: es.map Spaced.item) rest)).toOption = none := by
      rw [restOfItems, if_neg Bool.false_ne_true, Utf8.encode_append, List.append_assoc, closeArray, gap.blank.skipSpace,
        Utf8.encode_cons_of_ascii (by decide), List.cons_append, skipSpace_cons rfl]
      dsimp only
      rw [if_neg (by decide), if_pos rfl]
      split <;> rfl
    show ((closeArray (restOfItems ']' gap false (e.item :: es.map Spaced.item) rest)).toOption.map (x, ·)) = _
    rw [herror]
    rfl

end

/-! ### Objects -/

/-- The name of a member, if it spells a string. -/
def Member.name? {α : Type} (m : Member α) : Option String :=
  spelledString? m.name

section
variable {σ : Type} {member : σ → String → Input → Except Fault (σ × Input)} {add? : σ → String → Tree → Option σ}

theorem nextMember_end (gap : Gap) (first : Bool) (rest : Input) :
    nextMember first (restOfItems '\x7d' gap first [] rest) = .ok none := by
  rw [restOfItems, nextMember, gap.blank.skipSpace, skipSpace_cons rfl]
  rfl

theorem nextMember_item (gap : Gap) (first : Bool) (m : Member Tree) (es : List (Spaced (List Char))) (rest : Input) :
    nextMember first (restOfItems '\x7d' gap first (m.item :: es) rest) = .ok (some (restOfString m.name
      (Utf8.encode m.beforeColon.chars ++ (Utf8.encode (':' :: (m.afterColon.chars ++ m.value.text)) ++
        restOfItems '\x7d' m.after false es rest)))) := by
  have hitem : Utf8.encode m.item.before.chars ++
      (Utf8.encode m.item.value ++ restOfItems '\x7d' m.item.after false es rest) = Utf8.encode m.before.chars ++
        byte '"' :: restOfString m.name (Utf8.encode m.beforeColon.chars ++
          (Utf8.encode (':' :: (m.afterColon.chars ++ m.value.text)) ++ restOfItems '\x7d' m.after false es rest)) := by
    rw [Member.item, Member.valueText, Utf8.encode_append, List.append_assoc, Skip.encode_quotedText, Utf8.encode_append,
      List.append_assoc]
  rw [restOfItems, hitem]
  cases first with
  | true =>
    rw [if_pos rfl, List.append_nil, nextMember, gap.blank.skipSpace, m.before.blank.skipSpace, skipSpace_cons rfl]
    rfl
  | false =>
    rw [if_neg Bool.false_ne_true, Utf8.encode_append, List.append_assoc, nextMember, gap.blank.skipSpace,
      Utf8.encode_cons_of_ascii (by decide), List.cons_append, skipSpace_cons rfl]
    dsimp only
    rw [if_neg (by decide), if_neg (by decide), if_pos rfl, Utf8.encode, List.flatMap_nil, List.nil_append,
      m.before.blank.skipSpace, skipSpace_cons rfl]
    rfl

/-- What the members that are still to come make of the state. -/
def addMembers? (add? : σ → String → Tree → Option σ) (s : σ) (ms : List (Member Tree)) : Option σ :=
  ms.foldlM (fun s m => m.name?.bind fun name => add? s name m.value) s

/-- The members that are still to come are read in turn, and if none is refused the blanks behind the last one and the
brace are left. -/
theorem membersWithin_items
    (h : ∀ s name gap t, Answers (member s name) (':' :: (Gap.chars gap ++ t.text)) (add? s name t))
    (ms : List (Member Tree)) (s : σ) (gap : Gap) (first : Bool) {limit : Nat} (hlimit : ms.length < limit)
    (rest : Input) :
    (membersWithin member limit first s (restOfItems '\x7d' gap first (ms.map Member.item) rest)).toOption =
      (addMembers? add? s ms).map (·, Utf8.encode (lastGap gap (ms.map Member.item)).chars ++ byte '\x7d' :: rest) := by
  induction ms generalizing s gap first limit with
  | nil =>
    obtain ⟨limit, rfl⟩ := Nat.exists_eq_succ_of_ne_zero (Nat.ne_of_gt (Nat.zero_lt_of_lt hlimit))
    rw [List.map_nil, membersWithin, nextMember_end, ok_bind]
    rfl
  | cons m ms ih =>
    rw [List.length_cons] at hlimit
    obtain ⟨limit, rfl⟩ := Nat.exists_eq_succ_of_ne_zero (Nat.ne_of_gt (Nat.zero_lt_of_lt hlimit))
    rw [List.map_cons, membersWithin, nextMember_item, ok_bind]
    dsimp only
    rw [toOption_bind, stringText_toOption, addMembers?, List.foldlM_cons, Member.name?]
    -- A name that spells no text is refused before its value is read.
    cases spelledString? m.name with
    | none => rfl
    | some name =>
      dsimp only [Option.map_some, Option.bind_some]
      have hread := h s name m.afterColon m.value (Utf8.encode m.beforeColon.chars ++
        (Utf8.encode (':' :: (m.afterColon.chars ++ m.value.text)) ++
          restOfItems '\x7d' m.after false (ms.map Member.item) rest)) _ (restOfItems_atBreak (.inr rfl) _ _ _) (by
        rw [m.beforeColon.blank.skipSpace, Utf8.encode_cons_of_ascii (by decide), List.cons_append, skipSpace_cons rfl])
      rw [toOption_bind, hread]
      cases add? s name m.value with
      | none => rfl
      | some mid => exact ih mid m.after false (by omega)

theorem members_items (h : ∀ s name gap t, Answers (member s name) (':' :: (Gap.chars gap ++ t.text)) (add? s name t))
    (ms : List (Member Tree)) (s : σ) (gap : Gap) (rest : Input) :
    (members member s (restOfItems '\x7d' gap true (ms.map Member.item) rest)).toOption =
      (addMembers? add? s ms).map (·, Utf8.encode (lastGap gap (ms.map Member.item)).chars ++ byte '\x7d' :: rest) :=
  membersWithin_items h ms s gap true
    (Nat.lt_succ_of_le (Nat.le_trans (Nat.le_of_eq (List.length_map _).symm) (count_le_restOfItems _ _ _ _))) rest

theorem closeObject_end (gap : Gap) (rest : Input) :
    closeObject (Utf8.encode gap.chars ++ byte '\x7d' :: rest) = .ok rest := by
  rw [closeObject, gap.blank.skipSpace, skipSpace_cons rfl]
  rfl

/-- What an object gives. -/
def Tree.object? (add? : σ → String → Tree → Option σ) (start : σ) : Tree → Option σ
  | object _ ms => addMembers? add? start ms
  | _ => none

theorem object_answers {member : Nat → σ → String → Input → Except Fault (σ × Input)} {levels : Nat}
    (h : ∀ s name gap t, Answers (member levels s name) (':' :: (Gap.chars gap ++ t.text)) (add? s name t)) (start : σ)
    (t : Tree) : Answers (object (levels + 1) member start) t.text (t.object? add? start) := by
  intro input rest _ hinput
  obtain ⟨c, more, hc, hskip⟩ := exists_skipSpace_eq_cons hinput
  by_cases hbrace : byte c = byte '\x7b'
  · obtain rfl := byte_injective hc.startsValue.toNat_lt (by decide) hbrace
    obtain ⟨inner, ms, rfl⟩ := hc.exists_eq_object
    rw [object, hinput, Tree.encode_object]
    show (enclosed (members (member levels) start) closeObject leaveObject (byte '\x7b' :: _)).toOption = _
    rw [enclosed_toOption, members_items h, Tree.object?]
    cases addMembers? add? start ms with
    | none => rfl
    | some last =>
      dsimp only [Option.map_some, Option.bind_some]
      rw [closeObject_end]
      rfl
  · rw [object, hskip]
    dsimp only
    rw [if_neg hbrace]
    cases t with
    | object inner ms => exact absurd (congrArg byte hc) hbrace
    | _ => rfl

end

/-! ### Records -/

section
variable {α : Type} {ofElements ofMembers : Nat → Input → Except Fault (α × Input)} {levels : Nat}

/-- A structure is answered by its elements or by its members, and nothing else stands for it. -/
theorem record_answers {elements? : List Tree → Option α} {members? : List (Member Tree) → Option α} (name : String)
    (helements : ∀ ts input rest, ElementsLeft rest true ts input →
      EndsArray (ofElements levels input) rest (elements? ts))
    (hmembers : ∀ ms inner rest, (ofMembers levels (restOfItems '\x7d' inner true (ms.map Member.item) rest)).toOption =
      (members? ms).map (·, Utf8.encode (lastGap inner (ms.map Member.item)).chars ++ byte '\x7d' :: rest)) (t : Tree) :
    Answers (record name (levels + 1) ofElements ofMembers) t.text (match t with
      | .array _ es => elements? (es.map Spaced.value)
      | .object _ ms => members? ms
      | _ => none) := by
  intro input rest _ hinput
  obtain ⟨c, more, hc, hskip⟩ := exists_skipSpace_eq_cons hinput
  -- The first character decides, and it is that of the value.
  by_cases hbracket : byte c = byte '['
  · obtain rfl := byte_injective hc.startsValue.toNat_lt (by decide) hbracket
    obtain ⟨inner, es, rfl⟩ := hc.exists_eq_array
    rw [record, hinput, Tree.encode_array]
    show (enclosed (ofElements levels) closeArray leaveArray (byte '[' :: _)).toOption = _
    rw [enclosed_toOption]
    exact helements _ _ rest (.intro inner true es)
  by_cases hbrace : byte c = byte '\x7b'
  · obtain rfl := byte_injective hc.startsValue.toNat_lt (by decide) hbrace
    obtain ⟨inner, ms, rfl⟩ := hc.exists_eq_object
    rw [record, hinput, Tree.encode_object]
    show (enclosed (ofMembers levels) closeObject leaveObject (byte '\x7b' :: _)).toOption = _
    rw [enclosed_toOption, hmembers]
    dsimp only
    cases members? ms with
    | none => rfl
    | some last =>
      dsimp only [Option.map_some, Option.bind_some]
      rw [closeObject_end]
      rfl
  · rw [record, hskip]
    dsimp only
    rw [if_neg hbracket, if_neg hbrace]
    cases t with
    | array inner es => exact absurd (congrArg byte hc) hbracket
    | object inner ms => exact absurd (congrArg byte hc) hbrace
    | _ => rfl

end

/-! ### Documents -/

/-- A document that is one value among blanks is decoded to what the reader answers. -/
theorem document_toOption {α : Type} {read : Input → Except Fault (α × Input)} {answer : Option α} {e : Spaced Tree}
    (h : Answers read e.value.text answer) : (document read (Utf8.encode (e.text Tree.text))).toOption = answer := by
  have hread := h (Utf8.encode e.before.chars ++ (Utf8.encode e.value.text ++ Utf8.encode e.after.chars)) _
    (by simpa using e.after.blank.atBreak .nil) (skipSpace_text e.value e.before _)
  have honly : (only read (Utf8.encode (e.text Tree.text))).toOption = answer := by
    rw [only, Spaced.text, Utf8.encode_append, Utf8.encode_append, toOption_bind, hread]
    have hend := e.after.blank.skipSpace []
    rw [List.append_nil] at hend
    cases answer with
    | none => rfl
    | some x =>
      dsimp only [Option.map_some, Option.bind_some]
      rw [hend]
      rfl
  rw [← honly, document]
  cases only read (Utf8.encode (e.text Tree.text)) <;> rfl

end ClusterConsole.Json
