import ClusterConsole.Proofs.Toml.Statement

/-! # What stands behind a line break

A reader that has read something of a text reads the same when a line break and more stand behind the text: nothing that
can be read to its end goes on over the break, and what may go on, such as an array or a string of several lines, is not
at its end yet. So a document can be read part by part. -/

namespace ClusterConsole.Toml

/-- A line break comes next. -/
def AtBreak (input : List Char) : Prop :=
  ∃ rest, newline? input = some rest

/-- Neither character of a line break is among these. -/
def Unbroken (p : Char → Bool) : Prop :=
  p '\n' = false ∧ p '\r' = false

section
variable {input rest more : List Char} {p : Char → Bool}

theorem newline?_cases (h : newline? input = some rest) : input = '\n' :: rest ∨ input = '\r' :: '\n' :: rest := by
  unfold newline? at h
  split at h
  · cases h
    exact .inl rfl
  · cases h
    exact .inr rfl
  · cases h

theorem newline?_append (h : newline? input = some rest) (more : List Char) :
    newline? (input ++ more) = some (rest ++ more) := by
  rcases newline?_cases h with rfl | rfl <;> rfl

theorem AtBreak.exists_cons (h : AtBreak more) : ∃ c rest, more = c :: rest ∧ (c = '\n' ∨ c = '\r') := by
  obtain ⟨rest, hrest⟩ := h
  rcases newline?_cases hrest with rfl | rfl
  · exact ⟨_, _, rfl, .inl rfl⟩
  · exact ⟨_, _, rfl, .inr rfl⟩

theorem Unbroken.head (hp : Unbroken p) (h : AtBreak more) : ∃ c rest, more = c :: rest ∧ p c = false := by
  obtain ⟨c, rest, rfl, rfl | rfl⟩ := h.exists_cons
  · exact ⟨_, _, rfl, hp.1⟩
  · exact ⟨_, _, rfl, hp.2⟩

theorem Unbroken.dropWhile_append (hp : Unbroken p) (h : AtBreak more) (input : List Char) :
    (input ++ more).dropWhile p = input.dropWhile p ++ more := by
  induction input with
  | nil =>
    obtain ⟨c, rest, rfl, hc⟩ := hp.head h
    exact List.dropWhile_cons_of_neg (Bool.eq_false_iff.mp hc)
  | cons c input ih =>
    rw [List.cons_append, List.dropWhile_cons, List.dropWhile_cons, ih]
    split <;> rfl

theorem Unbroken.takeWhile_append (hp : Unbroken p) (h : AtBreak more) (input : List Char) :
    (input ++ more).takeWhile p = input.takeWhile p := by
  induction input with
  | nil =>
    obtain ⟨c, rest, rfl, hc⟩ := hp.head h
    exact List.takeWhile_cons_of_neg (Bool.eq_false_iff.mp hc)
  | cons c input ih => rw [List.cons_append, List.takeWhile_cons, List.takeWhile_cons, ih]

theorem Unbroken.head?_any_append (hp : Unbroken p) (h : AtBreak more) (input : List Char) :
    (input ++ more).head?.any p = input.head?.any p := by
  cases input with
  | nil =>
    obtain ⟨c, rest, rfl, hc⟩ := hp.head h
    exact hc
  | cons c input => rfl

end

/-! ### Blanks and comments -/

section
variable {input rest more : List Char} {c : Char}

theorem skipSpace_append (h : AtBreak more) (input : List Char) : skipSpace (input ++ more) = skipSpace input ++ more :=
  Unbroken.dropWhile_append ⟨rfl, rfl⟩ h input

/-- Behind a break nothing else can come next than before it. -/
theorem head?_append (h : AtBreak more) (hc : c ≠ '\n' ∧ c ≠ '\r') (input : List Char) :
    (input ++ more).head? = some c ↔ input.head? = some c := by
  cases input with
  | nil =>
    obtain ⟨d, rest, rfl, hd⟩ := h.exists_cons
    have hne : d ≠ c := by
      rintro rfl
      rcases hd with rfl | rfl
      · exact hc.1 rfl
      · exact hc.2 rfl
    exact iff_of_false (fun heq => hne (Option.some.inj heq)) nofun
  | cons d input => exact Iff.rfl

theorem skipComment_append (h : AtBreak more) (input : List Char) :
    skipComment (input ++ more) = skipComment input ++ more := by
  cases input with
  | nil => obtain ⟨c, rest, rfl, rfl | rfl⟩ := h.exists_cons <;> rfl
  | cons c input =>
    by_cases hc : c = '#'
    · subst hc
      exact Unbroken.dropWhile_append ⟨rfl, rfl⟩ h input
    · have hsame : ∀ text, skipComment (c :: text) = c :: text := by
        intro text
        unfold skipComment
        split
        · rename_i heq
          exact absurd (List.cons.inj heq).1 hc
        · rfl
      rw [List.cons_append, hsame, hsame, List.cons_append]

/-- A line that ends with the text ends at the break behind it. -/
theorem endLine_append {after : List Char} (h : newline? more = some after) (hend : endLine input = some rest) :
    endLine (input ++ more) = some (rest ++ more) ∨ rest = [] ∧ endLine (input ++ more) = some after := by
  have hbreak : AtBreak more := ⟨after, h⟩
  unfold endLine at hend ⊢
  rw [skipSpace_append hbreak, skipComment_append hbreak]
  generalize skipComment (skipSpace input) = left at hend
  cases left with
  | nil =>
    cases hend
    rcases newline?_cases h with rfl | rfl
    · exact .inr ⟨rfl, rfl⟩
    · exact .inr ⟨rfl, rfl⟩
  | cons c left => exact .inl (newline?_append hend more)

theorem endLine_break {after : List Char} (h : newline? more = some after) : endLine more = some after := by
  rcases newline?_cases h with rfl | rfl <;> rfl

/-- Blanks, breaks and comments within an array, when they are not the end of the text. -/
theorem skipLines_append {comment : Bool} (hskip : skipLines comment input = some rest) (hne : rest ≠ [])
    (more : List Char) : skipLines comment (input ++ more) = some (rest ++ more) := by
  induction input generalizing comment with
  | nil =>
    cases comment <;> cases hskip <;> exact absurd rfl hne
  | cons c input ih =>
    -- A carriage return has to be followed by a feed, with more behind the text too.
    have hreturn : (if input.head? = some '\n' then skipLines false input else none) = some rest →
        (if (input ++ more).head? = some '\n' then skipLines false (input ++ more) else none) =
          some (rest ++ more) := by
      intro hread
      split at hread
      · rename_i hhead
        have hmore : (input ++ more).head? = some '\n' := by
          obtain ⟨tail, rfl⟩ := List.head?_eq_some_iff.mp hhead
          rfl
        rw [if_pos hmore]
        exact ih hread
      · cases hread
    rw [List.cons_append]
    cases comment with
    | false =>
      unfold skipLines at hskip ⊢
      by_cases hblank : isSpace c ∨ c = '\n'
      · rw [if_pos hblank] at hskip ⊢
        exact ih hskip
      rw [if_neg hblank] at hskip ⊢
      by_cases hcr : c = '\r'
      · rw [if_pos hcr] at hskip ⊢
        exact hreturn hskip
      rw [if_neg hcr] at hskip ⊢
      by_cases hcomment : c = '#'
      · rw [if_pos hcomment] at hskip ⊢
        exact ih hskip
      -- Anything else ends what is passed over, and so there is something left.
      · rw [if_neg hcomment] at hskip ⊢
        cases hskip
        rfl
    | true =>
      unfold skipLines at hskip ⊢
      by_cases hfeed : c = '\n'
      · rw [if_pos hfeed] at hskip ⊢
        exact ih hskip
      rw [if_neg hfeed] at hskip ⊢
      by_cases hcr : c = '\r'
      · rw [if_pos hcr] at hskip ⊢
        exact hreturn hskip
      rw [if_neg hcr] at hskip ⊢
      by_cases htext : isText c
      · rw [if_pos htext] at hskip ⊢
        exact ih hskip
      · rw [if_neg htext] at hskip
        cases hskip

/-! ### Strings -/

theorem numbered_eq_some_iff {count : Nat} : numbered count input = some (c, rest) ↔
    ∃ digits, input = digits ++ rest ∧ digits.length = count ∧ ofRadix? 16 digits = some c.toNat := by
  have hnumbered : numbered count input = if (input.take count).length ≠ count then none else
      (ofRadix? 16 (input.take count)).bind fun n =>
        if n.isValidChar then some (Char.ofNat n, input.drop count) else none := by
    unfold numbered
    rfl
  rw [hnumbered]
  constructor
  · intro h
    split at h
    · cases h
    · rename_i hlength
      obtain ⟨n, hn, h⟩ := Option.bind_eq_some_iff.mp h
      split at h
      · rename_i hvalid
        cases h
        refine ⟨input.take count, (List.take_append_drop count input).symm, not_not.mp hlength, ?_⟩
        rw [hn, Char.ofNat, dif_pos hvalid]
        rfl
      · cases h
  · rintro ⟨digits, rfl, rfl, hdigits⟩
    rw [List.take_left, if_neg (not_not.mpr rfl), hdigits, List.drop_left, Option.bind_some,
      if_pos (show c.toNat.isValidChar from c.valid), Char.ofNat_toNat]

theorem numbered_append {count : Nat} (hread : numbered count input = some (c, rest)) (more : List Char) :
    numbered count (input ++ more) = some (c, rest ++ more) := by
  obtain ⟨digits, rfl, hlength, hdigits⟩ := numbered_eq_some_iff.mp hread
  exact numbered_eq_some_iff.mpr ⟨digits, List.append_assoc _ _ _, hlength, hdigits⟩

theorem escape_append (hread : escape input = some (c, rest)) (more : List Char) :
    escape (input ++ more) = some (c, rest ++ more) := by
  unfold escape at hread
  split at hread
  case h_8 => exact numbered_append hread more
  case h_9 => exact numbered_append hread more
  case h_10 => cases hread
  all_goals
    cases hread
    rfl

theorem basicWithin_succ (limit : Nat) (c : Char) (rest : List Char) : basicWithin (limit + 1) (c :: rest) =
    if c = '"' then some ([], rest)
    else if c = '\\' then (escape rest).bind fun read =>
      (basicWithin limit read.2).bind fun text => some (read.1 :: text.1, text.2)
    else if isText c then (basicWithin limit rest).bind fun text => some (c :: text.1, text.2)
    else none := rfl

theorem basicWithin_append {limit limit' : Nat} {text : List Char} (hlimit : limit ≤ limit')
    (hread : basicWithin limit input = some (text, rest)) (more : List Char) :
    basicWithin limit' (input ++ more) = some (text, rest ++ more) := by
  induction limit generalizing limit' input text with
  | zero => cases hread
  | succ limit ih =>
    obtain ⟨limit', rfl⟩ := Nat.exists_eq_add_of_le' (Nat.le_trans (Nat.le_add_left 1 limit) hlimit)
    cases input with
    | nil => cases hread
    | cons c input =>
      rw [List.cons_append]
      rw [basicWithin_succ] at hread ⊢
      -- The quote ends the text; an escape and any other character leave the rest to the induction.
      by_cases hquote : c = '"'
      · rw [if_pos hquote] at hread ⊢
        cases hread
        rfl
      rw [if_neg hquote] at hread ⊢
      by_cases hback : c = '\\'
      · rw [if_pos hback] at hread ⊢
        obtain ⟨⟨x, tail⟩, hx, hread⟩ := Option.bind_eq_some_iff.mp hread
        obtain ⟨⟨text', rest'⟩, htext, hread⟩ := Option.bind_eq_some_iff.mp hread
        cases hread
        rw [escape_append hx more, Option.bind_some, ih (Nat.le_of_succ_le_succ hlimit) htext]
        rfl
      rw [if_neg hback] at hread ⊢
      by_cases htext : isText c
      · rw [if_pos htext] at hread ⊢
        obtain ⟨⟨text', rest'⟩, hmore, hread⟩ := Option.bind_eq_some_iff.mp hread
        cases hread
        rw [ih (Nat.le_of_succ_le_succ hlimit) hmore]
        rfl
      · rw [if_neg htext] at hread
        cases hread

theorem basic_append {text : List Char} (hread : basic input = some (text, rest)) (more : List Char) :
    basic (input ++ more) = some (text, rest ++ more) := by
  refine basicWithin_append ?_ hread more
  rw [List.length_append]
  omega

theorem literal_append (h : AtBreak more) {text : List Char} (hread : literal input = some (text, rest)) :
    literal (input ++ more) = some (text, rest ++ more) := by
  have hp : Unbroken fun c => c != '\'' && isText c := ⟨rfl, rfl⟩
  unfold literal at hread ⊢
  rw [hp.dropWhile_append h, hp.takeWhile_append h]
  split at hread
  · rename_i heq
    rw [heq]
    cases hread
    rfl
  · cases hread

/-! ### Strings of several lines -/

theorem unbroken_quote {quote : Char} (hq : quote = '"' ∨ quote = '\'') : Unbroken (· == quote) := by
  rcases hq with rfl | rfl <;> exact ⟨rfl, rfl⟩

theorem closing?_append (h : AtBreak more) {quote : Char} (hq : quote = '"' ∨ quote = '\'') (input : List Char) :
    closing? quote (input ++ more) = (closing? quote input).map fun ended => (ended.1, ended.2 ++ more) := by
  have hp := unbroken_quote hq
  have hlength : (input.takeWhile (· == quote)).length ≤ input.length := (List.takeWhile_sublist _).length_le
  unfold closing?
  dsimp only
  rw [hp.takeWhile_append h, List.drop_append_of_le_length hlength]
  split <;> rfl

/-- What can go on behind a text of which this is left: it is not the end, nor the first half of a break. -/
def Stops (rest : List Char) : Prop :=
  rest ≠ [] ∧ rest ≠ ['\r']

theorem newline?_eq_none_append (hnone : newline? input = none) (hinput : Stops input) (more : List Char) :
    newline? (input ++ more) = none := by
  refine Option.eq_none_iff_forall_ne_some.mpr fun after hafter => ?_
  cases input with
  | nil => exact hinput.1 rfl
  | cons c input =>
    rcases newline?_cases hafter with heq | heq
    · obtain rfl := (List.cons.inj heq).1
      cases hnone
    · obtain rfl := (List.cons.inj heq).1
      cases input with
      | nil => exact hinput.2 rfl
      | cons d input =>
        obtain rfl := (List.cons.inj (List.cons.inj heq).2).1
        cases hnone

theorem joinLines_go_append (h : AtBreak more) {limit limit' : Nat} {left : List Char} (hlimit : input.length ≤ limit)
    (hlimit' : input.length ≤ limit') (hgo : joinLines?.go limit input = some left) (hleft : Stops left) :
    joinLines?.go limit' (input ++ more) = some (left ++ more) := by
  induction limit generalizing limit' input with
  | zero =>
    obtain rfl := List.length_eq_zero_iff.mp (Nat.le_zero.mp hlimit)
    cases hgo
    exact absurd rfl hleft.1
  | succ limit ih =>
    rw [joinLines?.go] at hgo
    have hskip : (skipSpace input).length ≤ input.length := (List.dropWhile_sublist _).length_le
    cases hnext : newline? (skipSpace input) with
    | some after =>
      rw [hnext] at hgo
      have hshorter : after.length < (skipSpace input).length := by
        rcases newline?_cases hnext with heq | heq <;> rw [heq] <;> simp only [List.length_cons] <;> omega
      obtain ⟨limit', rfl⟩ := Nat.exists_eq_add_of_le' (m := 1) (n := limit') (by omega)
      rw [joinLines?.go, skipSpace_append h, newline?_append hnext]
      exact ih (by omega) (by omega) hgo
    | none =>
      rw [hnext] at hgo
      cases hgo
      have hpos : 0 < (skipSpace input).length := List.length_pos_iff.mpr hleft.1
      obtain ⟨limit', rfl⟩ := Nat.exists_eq_add_of_le' (m := 1) (n := limit') (by omega)
      rw [joinLines?.go, skipSpace_append h, newline?_eq_none_append hnext hleft]

theorem joinLines?_append (h : AtBreak more) (hjoin : joinLines? input = some rest) (hrest : Stops rest) :
    joinLines? (input ++ more) = some (rest ++ more) := by
  obtain ⟨after, hafter, hgo⟩ := Option.bind_eq_some_iff.mp hjoin
  unfold joinLines?
  rw [skipSpace_append h, newline?_append hafter]
  refine joinLines_go_append h (Nat.le_refl _) ?_ hgo hrest
  rw [List.length_append]
  exact Nat.le_add_right _ _

/-- Where an escape stands, no line is joined. -/
theorem joinLines?_of_escape (hread : escape input = some (c, rest)) : joinLines? input = none := by
  unfold escape at hread
  split at hread
  case h_10 => cases hread
  all_goals rfl

theorem linesWithin_succ (quote : Char) (limit : Nat) (c : Char) (rest : List Char) :
    linesWithin quote (limit + 1) (c :: rest) =
      let onward := fun (x : Char) (rest : List Char) =>
        (linesWithin quote limit rest).bind fun text => some (x :: text.1, text.2)
      if c = quote then
        match closing? quote (c :: rest) with
        | some ended => some ended
        | none => if (rest.take 2).all (· == quote) ∧ 2 ≤ rest.length then none else onward c rest
      else if c = '\\' ∧ quote = '"' then
        match joinLines? rest with
        | some rest => linesWithin quote limit rest
        | none => (escape rest).bind fun read => onward read.1 read.2
      else
        match newline? (c :: rest) with
        | some rest => onward '\n' rest
        | none => if isText c then onward c rest else none := rfl

theorem stops_of_linesWithin {quote : Char} (hq : quote = '"' ∨ quote = '\'') {limit : Nat}
    {read : List Char × List Char} (hread : linesWithin quote limit input = some read) : Stops input := by
  cases limit with
  | zero => cases hread
  | succ limit =>
    constructor
    · rintro rfl
      cases hread
    · rintro rfl
      rcases hq with rfl | rfl <;> cases hread

/-- Two quotes do not come of a break. -/
theorem quotes_of_append (h : AtBreak more) {quote : Char} (hq : quote = '"' ∨ quote = '\'')
    (hquotes : ((input ++ more).take 2).all (· == quote) = true ∧ 2 ≤ (input ++ more).length) :
    (input.take 2).all (· == quote) = true ∧ 2 ≤ input.length := by
  have hp := unbroken_quote hq
  obtain ⟨d, after, rfl, hd⟩ := hp.head h
  match input, hquotes.1 with
  | [], hall =>
    simp [hd] at hall
  | [c], hall =>
    simp [hd] at hall
  | _ :: _ :: _, hall => exact ⟨hall, by simp⟩

/-- What is read of strings within one limit is read within the other with more behind it. -/
def CarriesOn (quote : Char) (limit limit' : Nat) (more : List Char) : Prop :=
  ∀ {input text rest : List Char}, linesWithin quote limit input = some (text, rest) →
    linesWithin quote limit' (input ++ more) = some (text, rest ++ more)

namespace CarriesOn
variable {quote : Char} {limit limit' : Nat} {text : List Char}

theorem onward (hon : CarriesOn quote limit limit' more) {x : Char}
    (hread : ((linesWithin quote limit input).bind fun text => some (x :: text.1, text.2)) = some (text, rest)) :
    ((linesWithin quote limit' (input ++ more)).bind fun text => some (x :: text.1, text.2)) =
      some (text, rest ++ more) := by
  obtain ⟨⟨text', rest'⟩, htext, hread⟩ := Option.bind_eq_some_iff.mp hread
  cases hread
  rw [hon htext]
  rfl

theorem atQuote (hon : CarriesOn quote limit limit' more) (h : AtBreak more) (hq : quote = '"' ∨ quote = '\'')
    (hread : linesWithin quote (limit + 1) (quote :: input) = some (text, rest)) :
    linesWithin quote (limit' + 1) (quote :: (input ++ more)) = some (text, rest ++ more) := by
  rw [linesWithin_succ] at hread ⊢
  dsimp only at hread ⊢
  rw [if_pos rfl] at hread ⊢
  have hclosing := closing?_append h hq (quote :: input)
  rw [List.cons_append] at hclosing
  rw [hclosing]
  cases hclose : closing? quote (quote :: input) with
  | some ended =>
    rw [hclose] at hread
    cases hread
    rfl
  | none =>
    rw [hclose] at hread
    dsimp only [Option.map_none] at hread ⊢
    split at hread
    · cases hread
    · rename_i hquotes
      rw [if_neg fun hmore => hquotes (quotes_of_append h hq hmore)]
      exact hon.onward hread

theorem atEscape (hon : CarriesOn '"' limit limit' more) (h : AtBreak more)
    (hread : linesWithin '"' (limit + 1) ('\\' :: input) = some (text, rest)) :
    linesWithin '"' (limit' + 1) ('\\' :: (input ++ more)) = some (text, rest ++ more) := by
  have hback : '\\' = '\\' ∧ '"' = '"' := ⟨rfl, rfl⟩
  rw [linesWithin_succ] at hread ⊢
  dsimp only at hread ⊢
  rw [if_neg (by decide), if_pos hback] at hread ⊢
  cases hjoin : joinLines? input with
  | some joined =>
    rw [hjoin] at hread
    rw [joinLines?_append h hjoin (stops_of_linesWithin (.inl rfl) hread)]
    exact hon hread
  | none =>
    rw [hjoin] at hread
    obtain ⟨⟨x, tail⟩, hx, hread⟩ := Option.bind_eq_some_iff.mp hread
    have hescape := escape_append hx more
    rw [joinLines?_of_escape hescape, hescape]
    exact hon.onward hread

theorem atOther (hon : CarriesOn quote limit limit' more) (hquote : c ≠ quote) (hback : ¬(c = '\\' ∧ quote = '"'))
    (hread : linesWithin quote (limit + 1) (c :: input) = some (text, rest)) :
    linesWithin quote (limit' + 1) (c :: (input ++ more)) = some (text, rest ++ more) := by
  rw [linesWithin_succ] at hread ⊢
  dsimp only at hread ⊢
  rw [if_neg hquote, if_neg hback] at hread ⊢
  rw [← List.cons_append]
  cases hbreak : newline? (c :: input) with
  | some after =>
    rw [hbreak] at hread
    rw [newline?_append hbreak more]
    exact hon.onward hread
  | none =>
    rw [hbreak] at hread
    dsimp only at hread
    split at hread
    · rename_i htext
      have hstops : Stops (c :: input) := by
        refine ⟨List.cons_ne_nil _ _, ?_⟩
        rintro heq
        obtain rfl := (List.cons.inj heq).1
        cases htext
      rw [newline?_eq_none_append hbreak hstops more]
      dsimp only
      rw [if_pos htext]
      exact hon.onward hread
    · cases hread

end CarriesOn

theorem linesWithin_append (h : AtBreak more) {quote : Char} (hq : quote = '"' ∨ quote = '\'') {limit limit' : Nat}
    (hlimit : limit ≤ limit') : CarriesOn quote limit limit' more := by
  intro input text rest hread
  induction limit generalizing limit' input text rest with
  | zero => cases hread
  | succ limit ih =>
    obtain ⟨limit', rfl⟩ := Nat.exists_eq_add_of_le' (Nat.le_trans (Nat.le_add_left 1 limit) hlimit)
    have hon : CarriesOn quote limit limit' more := ih (Nat.le_of_succ_le_succ hlimit)
    cases input with
    | nil => cases hread
    | cons c input =>
      by_cases hquote : c = quote
      · subst hquote
        exact hon.atQuote h hq hread
      by_cases hback : c = '\\' ∧ quote = '"'
      · obtain ⟨rfl, rfl⟩ := hback
        exact hon.atEscape h hread
      · exact hon.atOther hquote hback hread

theorem lines_append (h : AtBreak more) {quote : Char} (hq : quote = '"' ∨ quote = '\'') {text : List Char}
    (hread : lines quote input = some (text, rest)) : lines quote (input ++ more) = some (text, rest ++ more) := by
  have hstart : (newline? (input ++ more)).getD (input ++ more) = (newline? input).getD input ++ more := by
    cases hbreak : newline? input with
    | some after => rw [newline?_append hbreak, Option.getD_some, Option.getD_some]
    | none =>
      unfold lines at hread
      rw [hbreak] at hread
      rw [newline?_eq_none_append hbreak (stops_of_linesWithin hq hread), Option.getD_none, Option.getD_none]
  unfold lines at hread ⊢
  dsimp only at hread ⊢
  rw [hstart]
  refine linesWithin_append h hq ?_ hread
  rw [List.length_append]
  omega

/-- A string between quotes: three of them open one of several lines. -/
theorem string?_quote (quote : Char) (hq : quote = '"' ∨ quote = '\'') (rest : List Char) : string? (quote :: rest) =
    if [quote, quote] <+: rest then lines quote (rest.drop 2)
    else if quote = '"' then basic rest else literal rest := by
  by_cases hthree : [quote, quote] <+: rest
  · rw [if_pos hthree]
    obtain ⟨rest, rfl⟩ := hthree
    rcases hq with rfl | rfl <;> rfl
  · rw [if_neg hthree]
    have hnot : ∀ tail, rest ≠ quote :: quote :: tail := fun tail heq => hthree ⟨tail, heq.symm⟩
    rcases hq with rfl | rfl
    · unfold string?
      split
      case h_1 heq => exact absurd (List.cons.inj heq).2 (hnot _)
      case h_2 heq =>
        cases heq
        rfl
      case h_3 heq => exact absurd (List.cons.inj heq).1 (by decide)
      case h_4 heq => exact absurd (List.cons.inj heq).1 (by decide)
      case h_5 hnone _ _ => exact (hnone rest rfl).elim
    · unfold string?
      split
      case h_1 heq => exact absurd (List.cons.inj heq).1 (by decide)
      case h_2 heq => exact absurd (List.cons.inj heq).1 (by decide)
      case h_3 heq => exact absurd (List.cons.inj heq).2 (hnot _)
      case h_4 heq =>
        cases heq
        rfl
      case h_5 hnone => exact (hnone rest rfl).elim

theorem prefix_of_append (h : AtBreak more) {quote : Char} (hq : quote = '"' ∨ quote = '\'')
    (hquotes : [quote, quote] <+: input ++ more) : [quote, quote] <+: input := by
  have hp := unbroken_quote hq
  obtain ⟨d, after, rfl, hd⟩ := hp.head h
  replace hd : d ≠ quote := bne_iff_ne.mp (by simp [bne, hd])
  obtain ⟨tail, htail⟩ := hquotes
  match input, htail with
  | [], htail => exact absurd (List.cons.inj htail).1.symm hd
  | [c], htail => exact absurd (List.cons.inj (List.cons.inj htail).2).1.symm hd
  | c :: c' :: input, htail =>
    obtain ⟨rfl, hrest⟩ := List.cons.inj htail
    obtain ⟨rfl, -⟩ := List.cons.inj hrest
    exact ⟨input, rfl⟩

theorem string?_append (h : AtBreak more) {text : List Char} (hread : string? input = some (text, rest)) :
    string? (input ++ more) = some (text, rest ++ more) := by
  obtain ⟨quote, hq, tail, rfl⟩ : ∃ quote, (quote = '"' ∨ quote = '\'') ∧ ∃ tail, input = quote :: tail := by
    unfold string? at hread
    split at hread
    · exact ⟨_, .inl rfl, _, rfl⟩
    · exact ⟨_, .inl rfl, _, rfl⟩
    · exact ⟨_, .inr rfl, _, rfl⟩
    · exact ⟨_, .inr rfl, _, rfl⟩
    · cases hread
  rw [List.cons_append]
  rw [string?_quote quote hq] at hread ⊢
  by_cases hthree : [quote, quote] <+: tail
  · rw [if_pos hthree] at hread
    rw [if_pos (hthree.trans (List.prefix_append _ _))]
    obtain ⟨tail, rfl⟩ := hthree
    exact lines_append h hq hread
  · rw [if_neg hthree] at hread
    rw [if_neg fun hmore => hthree (prefix_of_append h hq hmore)]
    split at hread
    · rename_i hdouble
      rw [if_pos hdouble]
      exact basic_append hread more
    · rename_i hdouble
      rw [if_neg hdouble]
      exact literal_append h hread

/-! ### Keys -/

theorem tail_append_of_head (hhead : input.head? = some c) (more : List Char) :
    (input ++ more).tail = input.tail ++ more := by
  rw [eq_cons_of_head? hhead]
  rfl

theorem keyPart_of_bare {c : Char} (hc : c ≠ '"' ∧ c ≠ '\'') (rest : List Char) : keyPart (c :: rest) =
    let text := (c :: rest).takeWhile isBare
    if text = [] then none else some (String.ofList text, (c :: rest).dropWhile isBare) := by
  unfold keyPart
  split
  · rename_i heq
    exact absurd (List.cons.inj heq).1 hc.1
  · rename_i heq
    exact absurd (List.cons.inj heq).1 hc.2
  · rfl

theorem keyPart_append (h : AtBreak more) {part : String} (hread : keyPart input = some (part, rest)) :
    keyPart (input ++ more) = some (part, rest ++ more) := by
  have hp : Unbroken isBare := ⟨by decide, by decide⟩
  cases input with
  | nil => cases hread
  | cons c input =>
    -- Quotes tell where a key ends; a bare key could go on, but not beyond a break.
    by_cases hdouble : c = '"'
    · subst hdouble
      obtain ⟨⟨text, rest'⟩, htext, hread⟩ := Option.bind_eq_some_iff.mp hread
      cases hread
      show (basic (input ++ more)).bind _ = _
      rw [basic_append htext more]
      rfl
    by_cases hsingle : c = '\''
    · subst hsingle
      obtain ⟨⟨text, rest'⟩, htext, hread⟩ := Option.bind_eq_some_iff.mp hread
      cases hread
      show (literal (input ++ more)).bind _ = _
      rw [literal_append h htext]
      rfl
    · rw [keyPart_of_bare ⟨hdouble, hsingle⟩] at hread
      rw [List.cons_append, keyPart_of_bare ⟨hdouble, hsingle⟩, ← List.cons_append, hp.takeWhile_append h,
        hp.dropWhile_append h]
      dsimp only at hread ⊢
      split at hread
      · cases hread
      · rename_i hne
        cases hread
        rw [if_neg hne]

theorem keyWithin_succ (limit : Nat) (input : List Char) : keyWithin (limit + 1) input =
    (keyPart (skipSpace input)).bind fun part =>
      let next := skipSpace part.2
      if next.head? = some '.' then (keyWithin limit next.tail).bind fun parts => some (part.1 :: parts.1, parts.2)
      else some ([part.1], next) := by
  rw [keyWithin]
  refine Option.bind_congr fun part _ => ?_
  dsimp only
  split
  · rename_i heq
    rw [heq]
    rfl
  · rename_i hpoint
    rw [if_neg fun hhead => hpoint _ (eq_cons_of_head? hhead)]

theorem keyWithin_append (h : AtBreak more) {limit : Nat} {parts : List String}
    (hread : keyWithin limit input = some (parts, rest)) :
    keyWithin limit (input ++ more) = some (parts, rest ++ more) := by
  induction limit generalizing input parts with
  | zero => cases hread
  | succ limit ih =>
    rw [keyWithin_succ] at hread ⊢
    obtain ⟨⟨part, rest'⟩, hpart, hread⟩ := Option.bind_eq_some_iff.mp hread
    rw [skipSpace_append h, keyPart_append h hpart, Option.bind_some]
    dsimp only at hread ⊢
    rw [skipSpace_append h]
    split at hread
    · rename_i hpoint
      obtain ⟨⟨parts', rest''⟩, hparts, hread⟩ := Option.bind_eq_some_iff.mp hread
      cases hread
      rw [if_pos ((head?_append h (by decide) _).mpr hpoint), tail_append_of_head hpoint, ih hparts]
      rfl
    · rename_i hpoint
      rw [if_neg fun hmore => hpoint ((head?_append h (by decide) _).mp hmore)]
      cases hread
      rfl

theorem after?_append (hread : after? c input = some rest) (more : List Char) :
    after? c (input ++ more) = some (rest ++ more) := by
  cases input with
  | nil => cases hread
  | cons d input =>
    by_cases hd : d = c
    · rw [after?, if_pos hd] at hread
      cases hread
      exact if_pos hd
    · rw [after?, if_neg hd] at hread
      cases hread

/-! ### Scalars without quotes -/

theorem cutScalar_eq (input : List Char) : cutScalar input =
    let text := input.takeWhile (!endsScalar ·)
    let rest := input.dropWhile (!endsScalar ·)
    if date? text = some [] ∧ rest.head? = some ' ' ∧ rest.tail.head?.any Decimal.isDigit then
      (text ++ ' ' :: rest.tail.takeWhile (!endsScalar ·), rest.tail.dropWhile (!endsScalar ·))
    else (text, rest) := by
  unfold cutScalar
  dsimp only
  split
  · rename_i c more hdate hrest
    simp only [hdate, hrest, List.head?_cons, List.tail_cons, Option.any_some, true_and]
  · rename_i hnot
    rw [if_neg]
    rintro ⟨hdate, hblank, hdigit⟩
    obtain ⟨c, hc⟩ : ∃ c, (input.dropWhile (!endsScalar ·)).tail.head? = some c :=
      Option.isSome_iff_exists.mp (Option.isSome_of_any hdigit)
    exact hnot c _ hdate ((eq_cons_of_head? hblank).trans (congrArg _ (eq_cons_of_head? hc)))

theorem cutScalar_append (h : AtBreak more) (input : List Char) :
    cutScalar (input ++ more) = ((cutScalar input).1, (cutScalar input).2 ++ more) := by
  have hp : Unbroken (!endsScalar ·) := ⟨rfl, rfl⟩
  rw [cutScalar_eq, cutScalar_eq, hp.takeWhile_append h, hp.dropWhile_append h]
  dsimp only
  generalize input.dropWhile (!endsScalar ·) = rest
  have hhead := head?_append h (c := ' ') (by decide) rest
  by_cases hblank : rest.head? = some ' '
  · simp only [hhead]
    rw [tail_append_of_head hblank, Unbroken.head?_any_append ⟨by decide, by decide⟩ h, hp.takeWhile_append h,
      hp.dropWhile_append h]
    split <;> rfl
  · rw [if_neg fun hdate => hblank (hhead.mp hdate.2.1), if_neg fun hdate => hblank hdate.2.1]

end

end ClusterConsole.Toml
