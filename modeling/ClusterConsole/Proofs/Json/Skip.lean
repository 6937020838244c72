import ClusterConsole.Proofs.Json.Tree

/-! # Passing over what nobody wants

Any value is passed over as a whole, however deep it is nested and whatever its strings and numbers hold: what is left is
what stands behind it. -/

namespace ClusterConsole.Json.Skip
open Ascii

/-! ### Numbers -/

section
variable {rest : Input}

theorem dropWhile_digits {ds : List Char} (hds : ∀ c ∈ ds, c.isDigit) (h : NoDigit rest) :
    (Utf8.encode ds ++ rest).dropWhile isDigit = rest :=
  skipDigits_encode hds h

/-- At least one digit. -/
theorem exists_encode_digits (ds : Digits) :
    ∃ c more, c.isDigit ∧ (∀ d ∈ more, d.isDigit) ∧ ds.chars = c :: more ∧
      ∀ rest, Utf8.encode ds.chars ++ rest = byte c :: (Utf8.encode more ++ rest) := by
  obtain ⟨c, more, hcons⟩ := List.exists_cons_of_ne_nil ds.ne_nil
  have hdigits := ds.isDigit
  rw [hcons] at hdigits
  obtain ⟨hc, hmore⟩ := List.forall_mem_cons.mp hdigits
  refine ⟨c, more, hc, hmore, hcons, fun rest => ?_⟩
  rw [hcons, Utf8.encode_cons_of_isDigit hc, List.cons_append]

theorem exponent_text (e : Exponent) (h : AtBreak rest) :
    exponent (Utf8.encode (e.sign.toList ++ e.digits.chars) ++ rest) = .ok rest := by
  obtain ⟨c, more, hc, hmore, -, hencode⟩ := exists_encode_digits e.digits
  have hdigit := isDigit_byte hc
  have hrest := dropWhile_digits hmore h.noDigit
  cases hsign : e.sign with
  | none =>
    show exponent (Utf8.encode e.digits.chars ++ rest) = _
    rw [hencode, exponent]
    rw [if_neg (by
      rintro (heq | heq)
      · exact byte_ne_of_isDigit hc (by decide) rfl heq
      · exact byte_ne_of_isDigit hc (by decide) rfl heq)]
    dsimp only
    rw [if_pos hdigit, hrest]
  | some s =>
    have hs : byte s = byte '+' ∨ byte s = byte '-' := (e.sign_eq s hsign).imp (congrArg byte) (congrArg byte)
    have hascii : s.toNat < 0x80 := by rcases e.sign_eq s hsign with rfl | rfl <;> decide
    show exponent (Utf8.encode (s :: e.digits.chars) ++ rest) = _
    rw [Utf8.encode_cons_of_ascii hascii, List.cons_append, exponent, if_pos hs, hencode]
    dsimp only
    rw [if_pos hdigit, hrest]

theorem exponent?_text (power : Option Exponent) (h : AtBreak rest) :
    exponent? (Utf8.encode (powerText power) ++ rest) = .ok rest := by
  cases power with
  | none =>
    cases h with
    | nil => rfl
    | cons hb rest => rcases hb with rfl | rfl | rfl | rfl | rfl | rfl | rfl <;> rfl
  | some e =>
    have hletter : byte e.letter = byte 'e' ∨ byte e.letter = byte 'E' :=
      e.letter_eq.imp (congrArg byte) (congrArg byte)
    have hascii : e.letter.toNat < 0x80 := by rcases e.letter_eq with hletter | hletter <;> rw [hletter] <;> decide
    rw [powerText, Utf8.encode_cons_of_ascii hascii, List.cons_append, exponent?, if_pos hletter]
    exact exponent_text e h

theorem afterInteger_text (fraction : Option Digits) (power : Option Exponent) (h : AtBreak rest) :
    afterInteger (Utf8.encode (fractionText fraction ++ powerText power) ++ rest) = .ok rest := by
  cases fraction with
  | none =>
    have hend := exponent?_text power h
    rw [fractionText, List.nil_append]
    cases power with
    | none =>
      cases h with
      | nil => rfl
      | cons hb rest => rcases hb with rfl | rfl | rfl | rfl | rfl | rfl | rfl <;> rfl
    | some e =>
      rcases e.letter_eq with hletter | hletter <;>
      · rw [powerText, hletter, Utf8.encode_cons_of_ascii (by decide)] at hend ⊢
        exact hend
  | some ds =>
    obtain ⟨c, more, hc, hmore, hcons, hencode⟩ := exists_encode_digits ds
    rw [fractionText, List.cons_append, Utf8.encode_cons_of_ascii (by decide), List.cons_append, afterInteger, if_pos rfl,
      decimals, Utf8.encode_append, List.append_assoc]
    rw [if_pos (by
      rw [hencode]
      exact isDigit_byte hc), dropWhile_digits ds.isDigit (noDigit_powerText power h)]
    exact exponent?_text power h

theorem unsigned_text (l : Literal) (h : AtBreak rest) :
    unsigned (Utf8.encode (l.whole.chars ++ (fractionText l.fraction ++ powerText l.power)) ++ rest) = .ok rest := by
  obtain ⟨c, more, hc, hmore, hcons, hencode⟩ := exists_encode_digits l.whole
  have htail := noDigit_tail l.fraction l.power h
  rw [Utf8.encode_append, List.append_assoc, hencode, unsigned]
  by_cases h0 : c = '0'
  · obtain ⟨-, rfl⟩ := List.cons.inj (hcons.symm.trans (l.head_whole (by rw [hcons, h0]; rfl)))
    show (if byte c = byte '0' then _ else _) = _
    rw [if_pos (congrArg byte h0), Utf8.encode, List.flatMap_nil, List.nil_append, isDigit_head htail,
      if_neg Bool.false_ne_true]
    exact afterInteger_text l.fraction l.power h
  · have hascii := (bounds_of_isDigit hc).2
    rw [if_neg fun heq => h0 (byte_injective (by omega) (by decide) heq), if_pos (isDigit_byte hc),
      dropWhile_digits hmore htail]
    exact afterInteger_text l.fraction l.power h

end

/-! ### Frames -/

/-- What comes of the rest when the next value has been found, or when all frames are closed. -/
def resume (limit : Nat) : Option (List Frame) × Input → Except Fault Input
  | (none, rest) => .ok rest
  | (some frames, rest) => valueWithin limit frames rest

/-- What comes of the rest inside the open frames; `complete` says that the innermost one has just got a value. -/
def proceed (limit : Nat) (complete : Bool) (frames : List Frame) (input : Input) : Except Fault Input := do
  resume limit (← advance complete frames input)

theorem valueWithin_succ (limit : Nat) (frames : List Frame) (input : Input) :
    valueWithin (limit + 1) frames input = (do
      let (opened, rest) ← front input
      match opened with
      | none => proceed limit true frames rest
      | some frame => proceed limit false (frame :: frames) rest) := by
  rw [valueWithin]
  cases front input with
  | error fault => rfl
  | ok opened =>
    obtain ⟨opened, rest⟩ := opened
    cases opened with
    | none =>
      show (advance true frames rest >>= _) = advance true frames rest >>= _
      exact bind_congr fun found => by obtain ⟨_ | frames, rest⟩ := found <;> rfl
    | some frame =>
      show (advance false (frame :: frames) rest >>= _) = advance false (frame :: frames) rest >>= _
      exact bind_congr fun found => by obtain ⟨_ | frames, rest⟩ := found <;> rfl

/-- What comes of all that is behind something. -/
def ProceedsTo (frames : List Frame) (rest : Input) (result : Except Fault Input) : Prop :=
  ∀ limit, rest.length < limit → proceed limit true frames rest = result

/-- Wherever the text stands, with or without blanks in front, it is passed over as a value. -/
def Passes (text : List Char) : Prop :=
  ∀ (frames : List Frame) (input rest : Input) (result : Except Fault Input), AtBreak rest →
    ProceedsTo frames rest result → skipSpace input = Utf8.encode text ++ rest →
    ∀ limit, input.length < limit → valueWithin limit frames input = result

theorem length_skipSpace_le (input : Input) : (skipSpace input).length ≤ input.length :=
  (List.dropWhile_sublist _).length_le

/-- A scalar is passed over at once. -/
theorem passes_of_front {text : List Char} (hne : text ≠ [])
    (h : ∀ {input rest : Input}, AtBreak rest → skipSpace input = Utf8.encode text ++ rest →
      front input = .ok (none, rest)) : Passes text := by
  intro frames input rest result hrest hresult hinput limit hlimit
  obtain ⟨limit, rfl⟩ := Nat.exists_eq_succ_of_ne_zero (Nat.ne_of_gt (Nat.zero_lt_of_lt hlimit))
  have hlength := length_skipSpace_le input
  obtain ⟨c, more, rfl⟩ := List.exists_cons_of_ne_nil hne
  have hpos : 0 < (Utf8.encode (c :: more)).length := by
    rw [List.length_pos_iff, Utf8.encode, List.flatMap_cons]
    exact fun hnil => Utf8.encodeChar_ne_nil c (List.append_eq_nil_iff.mp hnil).1
  rw [hinput, List.length_append] at hlength
  rw [valueWithin_succ, h hrest hinput, ok_bind]
  exact hresult limit (by omega)

theorem passes_number (l : Literal) : Passes l.text := by
  obtain ⟨c, ds, hcons⟩ := List.exists_cons_of_ne_nil l.whole.ne_nil
  have hc : c.isDigit := l.whole.isDigit c (hcons ▸ List.mem_cons_self)
  have hstarts : StartsNumber c := .inr hc
  obtain ⟨d, more, htext, -⟩ := l.exists_text_eq_cons
  refine passes_of_front (htext ▸ List.cons_ne_nil d more) fun {input rest} hrest hinput => ?_
  have hdigits := unsigned_text l hrest
  rw [Literal.text] at hinput
  generalize hwhole : l.whole.chars ++ (fractionText l.fraction ++ powerText l.power) = text at hinput hdigits
  cases hnegative : l.negative with
  | true =>
    have hminus : skipSpace input = byte '-' :: (Utf8.encode text ++ rest) := by
      rw [hinput, hnegative]
      exact congrArg (· ++ rest) (Utf8.encode_cons_of_ascii (by decide) text)
    rw [front, hminus]
    dsimp only
    rw [if_neg (by decide), if_neg (by decide), if_neg (by decide), if_pos rfl, hdigits, ok_bind]
  | false =>
    have hbare : skipSpace input = Utf8.encode text ++ rest := by
      rw [hinput, hnegative]
      rfl
    rw [front, hbare]
    rw [← hwhole, hcons, List.cons_append, Utf8.encode_cons_of_isDigit hc, List.cons_append] at hdigits ⊢
    dsimp only
    rw [if_neg (hstarts.byte_ne (by decide) (by decide) rfl), if_neg (hstarts.byte_ne (by decide) (by decide) rfl),
      if_neg (hstarts.byte_ne (by decide) (by decide) rfl), if_neg (byte_ne_of_isDigit hc (by decide) rfl),
      if_pos (isDigit_byte hc), hdigits, ok_bind]

theorem word_encode (letters : List Char) (h : letters.all (fun c => c.toNat < 0x80) = true) (rest : Input) :
    word letters (Utf8.encode letters ++ rest) = .ok rest := by
  induction letters with
  | nil => rfl
  | cons c letters ih =>
    rw [List.all_cons, Bool.and_eq_true, decide_eq_true_eq] at h
    rw [Utf8.encode_cons_of_ascii h.1, List.cons_append, word, if_pos rfl, ih h.2]

theorem passes_null : Passes Tree.null.text := by
  refine passes_of_front (List.cons_ne_nil _ _) fun {input rest} _ hinput => ?_
  rw [front, hinput]
  show (word ['u', 'l', 'l'] (Utf8.encode ['u', 'l', 'l'] ++ rest) >>= fun rest => Except.ok (none, rest)) = _
  rw [word_encode _ (by decide), ok_bind]

theorem passes_boolean (b : Bool) : Passes (Tree.boolean b).text := by
  cases b with
  | true =>
    refine passes_of_front (List.cons_ne_nil _ _) fun {input rest} _ hinput => ?_
    rw [front, hinput]
    show (word ['r', 'u', 'e'] (Utf8.encode ['r', 'u', 'e'] ++ rest) >>= fun rest => Except.ok (none, rest)) = _
    rw [word_encode _ (by decide), ok_bind]
  | false =>
    refine passes_of_front (List.cons_ne_nil _ _) fun {input rest} _ hinput => ?_
    rw [front, hinput]
    show (word ['a', 'l', 's', 'e'] (Utf8.encode ['a', 'l', 's', 'e'] ++ rest) >>= fun rest => Except.ok (none, rest)) = _
    rw [word_encode _ (by decide), ok_bind]

theorem encode_quotedText (parts : List StringPart) (rest : Input) :
    Utf8.encode (quotedText parts) ++ rest = byte '"' :: restOfString parts rest := by
  rw [quotedText, Utf8.encode_cons_of_ascii (by decide), Utf8.encode_append, List.cons_append, List.append_assoc]
  rfl

theorem passes_string (parts : List StringPart) : Passes (quotedText parts) := by
  refine passes_of_front (List.cons_ne_nil _ _) fun {input rest} _ hinput => ?_
  rw [front, hinput, encode_quotedText]
  show (string (restOfString parts rest) >>= fun rest => Except.ok (none, rest)) = _
  rw [string_restOfString, ok_bind]

/-! ### Arrays and objects -/

/-- The bracket that closes a frame. -/
def Frame.close : Frame → Char
  | .array => ']'
  | .object => '\x7d'

theorem Frame.close_eq (frame : Frame) : frame.close = ']' ∨ frame.close = '\x7d' := by
  cases frame
  · exact .inl rfl
  · exact .inr rfl

theorem Frame.close_toNat_lt (frame : Frame) : frame.close.toNat < 0x80 := by
  cases frame <;> decide

theorem Frame.not_startsValue_close (frame : Frame) : ¬StartsValue frame.close := by
  cases frame <;> decide

/-- An item of an array or an object: wherever it stands inside the frame, it is passed over. -/
structure PassesItem (frame : Frame) (text : List Char) : Prop where
  starts : ∃ c more, text = c :: more ∧ StartsValue c
  passes : ∀ (frames : List Frame) (input rest : Input) (result : Except Fault Input), AtBreak rest →
    ProceedsTo (frame :: frames) rest result → skipSpace input = Utf8.encode text ++ rest →
    ∀ limit, input.length < limit → (advance.enter frame frames input >>= resume limit) = result

theorem advance_of_close {frame : Frame} {input rest : Input} (h : skipSpace input = byte frame.close :: rest)
    (complete : Bool) (frames : List Frame) : advance complete (frame :: frames) input = advance true frames rest := by
  cases frame <;>
  · rw [advance, h]
    exact if_pos rfl

theorem advance_of_first {frame : Frame} {b : UInt8} {input rest : Input} (h : skipSpace input = b :: rest)
    (hb : b ≠ byte frame.close) (frames : List Frame) :
    advance false (frame :: frames) input = advance.enter frame frames (b :: rest) := by
  cases frame <;>
  · rw [advance, h]
    exact (if_neg hb).trans (if_neg Bool.false_ne_true)

theorem advance_of_comma {frame : Frame} {input rest : Input} (h : skipSpace input = byte ',' :: rest)
    (frames : List Frame) : advance true (frame :: frames) input = advance.enter frame frames rest := by
  cases frame <;>
  · rw [advance, h]
    dsimp only
    rw [if_neg (by decide), if_pos rfl, if_pos rfl]

/-- The items that are still to come are passed over, and the bracket behind them. -/
theorem proceed_restOfItems {frame : Frame} {es : List (Spaced (List Char))}
    (hes : ∀ e ∈ es, PassesItem frame e.value) {frames : List Frame} {rest : Input} {result : Except Fault Input}
    (hresult : ProceedsTo frames rest result) (gap : Gap) (first : Bool) {limit : Nat}
    (hlimit : (restOfItems frame.close gap first es rest).length < limit) :
    proceed limit (!first) (frame :: frames) (restOfItems frame.close gap first es rest) = result := by
  induction es generalizing gap first limit with
  | nil =>
    have hend : skipSpace (restOfItems frame.close gap first [] rest) = byte frame.close :: rest := by
      rw [restOfItems, gap.blank.skipSpace]
      exact skipSpace_cons (by cases frame <;> rfl) rest
    -- Each item takes at least one byte, which is what bounds the turns that are left.
    have hlength : rest.length < (restOfItems frame.close gap first [] rest).length :=
      length_lt_restOfItems gap first [] rest
    rw [proceed, advance_of_close hend]
    exact hresult limit (by omega)
  | cons e es ih =>
    obtain ⟨he, hmore⟩ := List.forall_mem_cons.mp hes
    have hbreak := restOfItems_atBreak frame.close_eq e.after es rest
    -- The items behind this one are the frame that its value returns to.
    have hnext : ProceedsTo (frame :: frames) (restOfItems frame.close e.after false es rest) result :=
      fun limit hlimit => ih hmore e.after false hlimit
    obtain ⟨c, more, htext, hc⟩ := he.starts
    have hstarts : Utf8.encode e.value ++ restOfItems frame.close e.after false es rest =
        byte c :: (Utf8.encode more ++ restOfItems frame.close e.after false es rest) := by
      rw [htext, Utf8.encode_cons_of_ascii hc.toNat_lt, List.cons_append]
    have hitem : skipSpace (Utf8.encode e.before.chars ++ (Utf8.encode e.value ++
        restOfItems frame.close e.after false es rest)) =
        Utf8.encode e.value ++ restOfItems frame.close e.after false es rest := by
      rw [e.before.blank.skipSpace, hstarts, skipSpace_cons hc.isSpace_byte]
    rw [restOfItems] at hlimit ⊢
    rw [List.length_append] at hlimit
    -- The first item stands right behind the bracket, any other behind a comma.
    cases first with
    | true =>
      have hfound : skipSpace (Utf8.encode (gap.chars ++ []) ++ (Utf8.encode e.before.chars ++ (Utf8.encode e.value ++
          restOfItems frame.close e.after false es rest))) =
          byte c :: (Utf8.encode more ++ restOfItems frame.close e.after false es rest) := by
        rw [List.append_nil, gap.blank.skipSpace, hitem, hstarts]
      have hlength := length_skipSpace_le (Utf8.encode e.before.chars ++ (Utf8.encode e.value ++
        restOfItems frame.close e.after false es rest))
      rw [hitem] at hlength
      rw [if_pos rfl, proceed, Bool.not_true,
        advance_of_first hfound (hc.byte_ne frame.close_toNat_lt frame.not_startsValue_close), ← hstarts]
      refine he.passes frames _ _ result hbreak hnext ?_ limit (by omega)
      rw [hstarts, skipSpace_cons hc.isSpace_byte]
    | false =>
      have hfound : skipSpace (Utf8.encode (gap.chars ++ [',']) ++ (Utf8.encode e.before.chars ++
          (Utf8.encode e.value ++ restOfItems frame.close e.after false es rest))) =
          byte ',' :: (Utf8.encode e.before.chars ++ (Utf8.encode e.value ++
            restOfItems frame.close e.after false es rest)) := by
        rw [Utf8.encode_append, List.append_assoc, gap.blank.skipSpace]
        exact skipSpace_cons rfl _
      rw [if_neg Bool.false_ne_true, proceed, Bool.not_false, advance_of_comma hfound]
      exact he.passes frames _ _ result hbreak hnext hitem limit (by omega)

/-- An array or an object is passed over if its items are. -/
theorem passes_of_items {frame : Frame} {opening : Char} {inner : Gap} {es : List (Spaced (List Char))}
    {text : List Char} (hes : ∀ e ∈ es, PassesItem frame e.value)
    (htext : ∀ rest, Utf8.encode text ++ rest = byte opening :: restOfItems frame.close inner true es rest)
    (hfront : ∀ {input rest : Input}, skipSpace input = byte opening :: rest → front input = .ok (some frame, rest)) :
    Passes text := by
  intro frames input rest result _ hresult hinput limit hlimit
  obtain ⟨limit, rfl⟩ := Nat.exists_eq_succ_of_ne_zero (Nat.ne_of_gt (Nat.zero_lt_of_lt hlimit))
  rw [htext] at hinput
  have hlength := length_skipSpace_le input
  rw [hinput, List.length_cons] at hlength
  rw [valueWithin_succ, hfront hinput, ok_bind]
  exact proceed_restOfItems hes hresult inner true (by omega)

theorem passesItem_element {t : Tree} (h : Passes t.text) : PassesItem .array t.text :=
  have ⟨c, more, htext, hc⟩ := t.exists_text_eq_cons
  ⟨⟨c, more, htext, hc.startsValue⟩, fun frames => h (.array :: frames)⟩

/-- The name of a member is passed over with its colon. -/
theorem name_encode {input rest : Input} {parts : List StringPart} {gap : Gap}
    (h : skipSpace input = Utf8.encode (quotedText parts ++ (gap.chars ++ [':'])) ++ rest) : name input = .ok rest := by
  rw [Utf8.encode_append, List.append_assoc, encode_quotedText] at h
  rw [name, h]
  dsimp only
  rw [if_pos rfl, string_restOfString, ok_bind, colon, Utf8.encode_append, List.append_assoc, gap.blank.skipSpace,
    Utf8.encode_cons_of_ascii (by decide), List.cons_append, skipSpace_cons rfl]
  rfl

theorem passesItem_member {m : Member Tree} (h : Passes m.value.text) : PassesItem .object m.item.value := by
  refine ⟨⟨'"', _, rfl, by decide⟩, fun frames input rest result hrest hresult hinput limit hlimit => ?_⟩
  have hname : name input = .ok (Utf8.encode m.afterColon.chars ++ (Utf8.encode m.value.text ++ rest)) := by
    have hmember : skipSpace input = Utf8.encode (quotedText m.name ++ (m.beforeColon.chars ++ [':'])) ++
        (Utf8.encode m.afterColon.chars ++ (Utf8.encode m.value.text ++ rest)) := by
      rw [hinput, Member.item, Member.valueText]
      simp only [Utf8.encode, List.flatMap_append, List.flatMap_cons, List.flatMap_nil, List.append_assoc,
        List.nil_append]
    exact name_encode hmember
  have hlength : (Utf8.encode m.afterColon.chars ++ (Utf8.encode m.value.text ++ rest)).length < limit := by
    have hall := length_skipSpace_le input
    rw [hinput, Member.item, Member.valueText] at hall
    simp only [Utf8.encode, List.flatMap_append, List.flatMap_cons, List.length_append] at hall ⊢
    omega
  obtain ⟨c, more, htext, hbegins⟩ := m.value.exists_text_eq_cons
  have hc := hbegins.startsValue
  rw [advance.enter, hname]
  refine h (.object :: frames) _ rest result hrest hresult ?_ limit hlength
  rw [m.afterColon.blank.skipSpace, htext, Utf8.encode_cons_of_ascii hc.toNat_lt, List.cons_append,
    skipSpace_cons hc.isSpace_byte]

mutual
/-- A value is passed over, whatever is in it. -/
theorem passes : (t : Tree) → Passes t.text
  | .null => passes_null
  | .boolean b => passes_boolean b
  | .number l => by
    rw [Tree.text]
    exact passes_number l
  | .string parts => by
    rw [Tree.text]
    exact passes_string parts
  | .array inner es => by
    refine passes_of_items (List.forall_mem_map.mpr (passes_elements es)) (Tree.encode_array inner es) fun h => ?_
    rw [front, h]
    rfl
  | .object inner ms => by
    refine passes_of_items (List.forall_mem_map.mpr (passes_members ms)) (Tree.encode_object inner ms) fun h => ?_
    rw [front, h]
    rfl

theorem passes_elements : (es : List (Spaced Tree)) → ∀ e ∈ es, PassesItem .array e.item.value
  | [] => nofun
  | ⟨_, value, _⟩ :: more => List.forall_mem_cons.mpr ⟨passesItem_element (passes value), passes_elements more⟩

theorem passes_members : (ms : List (Member Tree)) → ∀ m ∈ ms, PassesItem .object m.item.value
  | [] => nofun
  | ⟨_, _, _, _, value, _⟩ :: more => List.forall_mem_cons.mpr ⟨passesItem_member (passes value), passes_members more⟩
end

/-- Exactly the value is passed over, with the blanks in front. -/
theorem value_text {t : Tree} {input rest : Input} (hrest : AtBreak rest)
    (h : skipSpace input = Utf8.encode t.text ++ rest) : value input = .ok rest :=
  passes t [] input rest (.ok rest) hrest (fun _ _ => rfl) h _ (Nat.lt_succ_self _)

end ClusterConsole.Json.Skip
