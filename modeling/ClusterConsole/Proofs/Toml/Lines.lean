import ClusterConsole.Proofs.Toml.Break

/-! # Reading a document further

When a text has been read as statements and a line break and more stand behind it, the statements of the whole are those
of the text and then those that are read behind the break, under the header the text ends with. -/

namespace ClusterConsole.Toml

/-- Reading reads the same when a break and more stand behind the text. -/
structure Stable {α : Type} (read : List Char → Option (α × List Char)) : Prop where
  append {input : List Char} {x : α} {rest more : List Char} : AtBreak more → read input = some (x, rest) →
    read (input ++ more) = some (x, rest ++ more)

/-- An item that does not begin with a bracket or a brace: a string, or a scalar without quotes. -/
theorem written?_of_flat {c : Char} (hc : c ≠ '[' ∧ c ≠ '\x7b') (levels : Nat) (rest : List Char) :
    written? levels (c :: rest) =
      if c = '"' ∨ c = '\'' then
        (string? (c :: rest)).bind fun read => some (.scalar (.string (String.ofList read.1)) trivial, read.2)
      else (scalar (cutScalar (c :: rest)).1).bind fun written => some (written, (cutScalar (c :: rest)).2) := by
  cases levels <;>
  · rw [written?]
    by_cases hquote : c = '"' ∨ c = '\''
    · rw [if_pos hquote, if_pos hquote]
      rfl
    · rw [if_neg hquote, if_neg hquote, if_neg hc.1, if_neg hc.2]
      rfl

theorem written?_append_of_flat {levels : Nat} {c : Char} {input rest more : List Char} {x : Written}
    (hc : c ≠ '[' ∧ c ≠ '\x7b') (h : AtBreak more) (hread : written? levels (c :: input) = some (x, rest)) :
    written? levels (c :: (input ++ more)) = some (x, rest ++ more) := by
  rw [written?_of_flat hc] at hread ⊢
  by_cases hquote : c = '"' ∨ c = '\''
  · rw [if_pos hquote] at hread ⊢
    obtain ⟨⟨text, rest'⟩, htext, hread⟩ := Option.bind_eq_some_iff.mp hread
    cases hread
    rw [← List.cons_append, string?_append h htext]
    rfl
  · rw [if_neg hquote] at hread ⊢
    obtain ⟨x', hx, hread⟩ := Option.bind_eq_some_iff.mp hread
    cases hread
    rw [← List.cons_append, cutScalar_append h, hx]
    rfl

namespace Stable
variable {α : Type} {item : List Char → Option (α × List Char)} {input rest more : List Char} {limit limit' : Nat}

/-! ### Items -/

theorem key : Stable key where
  append h hread := keyWithin_append h hread

theorem keyValue (hitem : Stable item) : Stable (keyValue item) := by
  refine ⟨fun {input x rest more} h hread => ?_⟩
  obtain ⟨⟨parts, afterKey⟩, hkey, hread⟩ := Option.bind_eq_some_iff.mp hread
  obtain ⟨afterSign, hsign, hread⟩ := Option.bind_eq_some_iff.mp hread
  obtain ⟨⟨value, afterValue⟩, hvalue, hread⟩ := Option.bind_eq_some_iff.mp hread
  obtain ⟨last, hlast, hread⟩ := Option.bind_eq_some_iff.mp hread
  cases hread
  unfold Toml.keyValue
  simp only [Option.bind_eq_bind, key.append h hkey, Option.bind_some, after?_append hsign,
    skipSpace_append h, hitem.append h hvalue, hlast]

theorem arrayWithin {xs : List α} (hitem : Stable item) (hnil : item [] = none) (h : AtBreak more)
    (hlimit : limit ≤ limit') (hread : arrayWithin item limit input = some (xs, rest)) :
    arrayWithin item limit' (input ++ more) = some (xs, rest ++ more) := by
  induction limit generalizing limit' input xs with
  | zero => cases hread
  | succ limit ih =>
    obtain ⟨limit', rfl⟩ := Nat.exists_eq_add_of_le' (Nat.le_trans (Nat.le_add_left 1 limit) hlimit)
    rw [arrayWithin_succ] at hread ⊢
    obtain ⟨start, hstart, hread⟩ := Option.bind_eq_some_iff.mp hread
    -- The text does not end where an item or the bracket is still to come.
    have hne : start ≠ [] := by
      rintro rfl
      rw [hnil] at hread
      cases hread
    rw [skipLines_append hstart hne, Option.bind_some, List.head?_append_of_ne_nil _ hne]
    by_cases hclose : start.head? = some ']'
    · rw [if_pos hclose] at hread ⊢
      cases hread
      rw [tail_append_of_head hclose]
    rw [if_neg hclose] at hread ⊢
    obtain ⟨⟨x, afterItem⟩, hx, hread⟩ := Option.bind_eq_some_iff.mp hread
    obtain ⟨next, hnext, hread⟩ := Option.bind_eq_some_iff.mp hread
    have hne : next ≠ [] := by
      rintro rfl
      cases hread
    rw [hitem.append h hx, Option.bind_some, skipLines_append hnext hne, Option.bind_some,
      List.head?_append_of_ne_nil _ hne]
    by_cases hcomma : next.head? = some ','
    · rw [if_pos hcomma] at hread ⊢
      obtain ⟨⟨xs', rest'⟩, hmore, hread⟩ := Option.bind_eq_some_iff.mp hread
      cases hread
      rw [tail_append_of_head hcomma, ih (Nat.le_of_succ_le_succ hlimit) hmore]
      rfl
    rw [if_neg hcomma] at hread ⊢
    by_cases hend : next.head? = some ']'
    · rw [if_pos hend] at hread ⊢
      cases hread
      rw [tail_append_of_head hend]
    · rw [if_neg hend] at hread
      cases hread

theorem assignmentsWithin {assigned : List (List String × String × α)} (hitem : Stable item) (h : AtBreak more)
    (hlimit : limit ≤ limit') (hread : assignmentsWithin item limit input = some (assigned, rest)) :
    assignmentsWithin item limit' (input ++ more) = some (assigned, rest ++ more) := by
  induction limit generalizing limit' input assigned with
  | zero => cases hread
  | succ limit ih =>
    obtain ⟨limit', rfl⟩ := Nat.exists_eq_add_of_le' (Nat.le_trans (Nat.le_add_left 1 limit) hlimit)
    obtain ⟨⟨assignment, afterValue⟩, hvalue, hread⟩ := Option.bind_eq_some_iff.mp hread
    rw [Toml.assignmentsWithin, hitem.keyValue.append h hvalue]
    dsimp only [Option.bind_eq_bind, Option.bind_some] at hread ⊢
    rw [skipSpace_append h]
    -- A comma or the brace is still to come, so the text does not end here.
    have hne : skipSpace afterValue ≠ [] := by
      intro heq
      rw [heq] at hread
      cases hread
    rw [List.head?_append_of_ne_nil _ hne]
    by_cases hcomma : (skipSpace afterValue).head? = some ','
    · rw [if_pos hcomma] at hread ⊢
      obtain ⟨⟨assigned', rest'⟩, hmore, hread⟩ := Option.bind_eq_some_iff.mp hread
      cases hread
      rw [tail_append_of_head hcomma, ih (Nat.le_of_succ_le_succ hlimit) hmore]
      rfl
    rw [if_neg hcomma] at hread ⊢
    by_cases hend : (skipSpace afterValue).head? = some '\x7d'
    · rw [if_pos hend] at hread ⊢
      cases hread
      rw [tail_append_of_head hend]
    · rw [if_neg hend] at hread
      cases hread

theorem assignments (hitem : Stable item) : Stable (assignments item) := by
  refine ⟨fun {input assigned rest more} h hread => ?_⟩
  unfold Toml.assignments at hread ⊢
  dsimp only at hread ⊢
  rw [skipSpace_append h]
  by_cases hend : (skipSpace input).head? = some '\x7d'
  · rw [if_pos hend] at hread
    cases hread
    rw [if_pos ((head?_append h (by decide) _).mpr hend), tail_append_of_head hend]
  · rw [if_neg hend] at hread
    rw [if_neg fun hmore => hend ((head?_append h (by decide) _).mp hmore)]
    refine hitem.assignmentsWithin h ?_ hread
    rw [List.length_append]
    omega

theorem written? (levels : Nat) : Stable (written? levels) := by
  induction levels with
  | zero =>
    refine ⟨fun {input x rest more} h hread => ?_⟩
    cases input with
    | nil => cases hread
    | cons c input =>
      refine written?_append_of_flat ⟨?_, ?_⟩ h hread
      · rintro rfl
        cases hread
      · rintro rfl
        cases hread
  | succ levels ih =>
    refine ⟨fun {input x rest more} h hread => ?_⟩
    cases input with
    | nil => cases hread
    | cons c input =>
      -- Only arrays and inline tables hold further items, so only they need the induction.
      by_cases hbracket : c = '['
      · subst hbracket
        obtain ⟨⟨items, rest'⟩, hitems, hread⟩ := Option.bind_eq_some_iff.mp hread
        cases hread
        have hlimit : input.length + 1 ≤ (input ++ more).length + 1 := by
          rw [List.length_append]
          omega
        have hmore := ih.arrayWithin (by cases levels <;> rfl) h hlimit hitems
        rw [List.cons_append]
        show (Toml.arrayWithin _ _ (input ++ more)).bind _ = _
        rw [hmore]
        rfl
      by_cases hbrace : c = '\x7b'
      · subst hbrace
        obtain ⟨⟨assigned, rest'⟩, hassigned, hread⟩ := Option.bind_eq_some_iff.mp hread
        cases hread
        rw [List.cons_append]
        show (Toml.assignments _ (input ++ more)).bind _ = _
        rw [ih.assignments.append h hassigned]
        rfl
      · exact written?_append_of_flat ⟨hbracket, hbrace⟩ h hread

end Stable

/-! ### Lines -/

section
variable {input rest more after : List Char} {limit limit' : Nat}

theorem headerStatement?_append {statement : Statement} (h : AtBreak more)
    (hread : headerStatement? input = some (statement, rest)) :
    headerStatement? (input ++ more) = some (statement, rest ++ more) := by
  by_cases hopen : ∃ tail, input = '[' :: tail
  · obtain ⟨tail, rfl⟩ := hopen
    rw [List.cons_append]
    rw [headerStatement?] at hread ⊢
    obtain ⟨⟨parts, afterKey⟩, hkey, hread⟩ := Option.bind_eq_some_iff.mp hread
    obtain ⟨afterFirst, hfirst, hread⟩ := Option.bind_eq_some_iff.mp hread
    obtain ⟨afterSecond, hsecond, hread⟩ := Option.bind_eq_some_iff.mp hread
    obtain ⟨last, hlast, hread⟩ := Option.bind_eq_some_iff.mp hread
    cases hread
    simp only [Option.bind_eq_bind, Stable.key.append h hkey, Option.bind_some, after?_append hfirst,
      after?_append hsecond, hlast]
  · have hopen' : ∀ tail, input ++ more = '[' :: tail → False := by
      intro tail heq
      have hhead : (input ++ more).head? = some '[' := by rw [heq, List.head?_cons]
      exact hopen ⟨_, eq_cons_of_head? ((head?_append h (by decide) input).mp hhead)⟩
    rw [headerStatement?.eq_2 _ fun tail heq => hopen ⟨tail, heq⟩] at hread
    rw [headerStatement?.eq_2 _ hopen']
    obtain ⟨⟨parts, afterKey⟩, hkey, hread⟩ := Option.bind_eq_some_iff.mp hread
    obtain ⟨afterFirst, hfirst, hread⟩ := Option.bind_eq_some_iff.mp hread
    obtain ⟨last, hlast, hread⟩ := Option.bind_eq_some_iff.mp hread
    cases hread
    simp only [Option.bind_eq_bind, Stable.key.append h hkey, Option.bind_some, after?_append hfirst, hlast]

/-- A line that is neither empty nor a comment nor a header. -/
theorem lineStatement?_of_key {c : Char} (hc : c ≠ '#' ∧ c ≠ '\n' ∧ c ≠ '\r' ∧ c ≠ '[') (header : List String)
    (rest : List Char) : lineStatement? header (c :: rest) =
      (keyValue (written? nestingLimit) (c :: rest)).bind fun read =>
        some (some (.set header read.1.1 read.1.2.1 read.1.2.2), read.2) := by
  unfold lineStatement?
  split
  case h_1 heq => cases heq
  case h_2 heq => exact absurd (List.cons.inj heq).1 hc.1
  case h_3 heq => exact absurd (List.cons.inj heq).1 hc.2.1
  case h_4 heq => exact absurd (List.cons.inj heq).1 hc.2.2.1
  case h_5 heq => exact absurd (List.cons.inj heq).1 hc.2.2.2
  case h_6 => rfl

theorem lineStatement?_append {header : List String} {statement : Option Statement} (h : AtBreak more)
    (hread : lineStatement? header input = some (statement, rest)) :
    lineStatement? header (input ++ more) = some (statement, rest ++ more) := by
  cases input with
  | nil =>
    cases hread
    obtain ⟨c, rest, rfl, rfl | rfl⟩ := h.exists_cons <;> rfl
  | cons c input =>
    by_cases hempty : c = '#' ∨ c = '\n' ∨ c = '\r'
    · rcases hempty with rfl | rfl | rfl <;>
      · cases hread
        rfl
    by_cases hopen : c = '['
    · subst hopen
      obtain ⟨⟨statement, rest'⟩, hstatement, hread⟩ := Option.bind_eq_some_iff.mp hread
      cases hread
      rw [List.cons_append]
      show (headerStatement? (input ++ more)).bind _ = _
      rw [headerStatement?_append h hstatement]
      rfl
    · have hc : c ≠ '#' ∧ c ≠ '\n' ∧ c ≠ '\r' ∧ c ≠ '[' := by tauto
      rw [lineStatement?_of_key hc] at hread
      rw [List.cons_append, lineStatement?_of_key hc]
      obtain ⟨⟨read, rest'⟩, hvalue, hread⟩ := Option.bind_eq_some_iff.mp hread
      cases hread
      rw [← List.cons_append, (Stable.written? nestingLimit).keyValue.append h hvalue]
      rfl

/-! ### Documents -/

/-- The header that keys after statements belong to. -/
def Statement.headerAfterAll (header : List String) (statements : List Statement) : List String :=
  statements.foldl (fun _ statement => statement.headerAfter) header

theorem Statement.headerAfterAll_toList (header : List String) (statement : Option Statement) :
    headerAfterAll header statement.toList = (statement.map headerAfter).getD header := by
  cases statement <;> rfl

theorem statementsWithin_of_blank (h : skipSpace input = []) (header : List String) :
    statementsWithin (limit + 1) header input = some [] := by
  rw [statementsWithin, h]

theorem statementsWithin_of_ne (h : skipSpace input ≠ []) (header : List String) :
    statementsWithin (limit + 1) header input = (lineStatement? header (skipSpace input)).bind fun read =>
      (endLine read.2).bind fun rest =>
        (statementsWithin limit ((read.1.map Statement.headerAfter).getD header) rest).bind fun more =>
          some (read.1.toList ++ more) := by
  rw [statementsWithin]
  split
  · rename_i heq
    exact absurd heq h
  · rfl

theorem statementsWithin_mono {header : List String} {statements : List Statement} (hlimit : limit ≤ limit')
    (hread : statementsWithin limit header input = some statements) :
    statementsWithin limit' header input = some statements := by
  induction limit generalizing limit' header input statements with
  | zero => cases hread
  | succ limit ih =>
    obtain ⟨limit', rfl⟩ := Nat.exists_eq_add_of_le' (Nat.le_trans (Nat.le_add_left 1 limit) hlimit)
    by_cases hblank : skipSpace input = []
    · rw [statementsWithin_of_blank hblank] at hread ⊢
      exact hread
    · rw [statementsWithin_of_ne hblank] at hread ⊢
      obtain ⟨read, hread₁, hread⟩ := Option.bind_eq_some_iff.mp hread
      obtain ⟨rest, hrest, hread⟩ := Option.bind_eq_some_iff.mp hread
      obtain ⟨statements', hmore, hread⟩ := Option.bind_eq_some_iff.mp hread
      rw [hread₁, Option.bind_some, hrest, Option.bind_some, ih (Nat.le_of_succ_le_succ hlimit) hmore, Option.bind_some,
        hread]

theorem statementsWithin_append {header : List String} {statements statements' : List Statement}
    (hafter : newline? more = some after) (hread : statementsWithin limit header input = some statements)
    (hmore : statementsWithin limit' (Statement.headerAfterAll header statements) after = some statements') :
    statementsWithin (limit + limit') header (input ++ more) = some (statements ++ statements') := by
  have h : AtBreak more := ⟨after, hafter⟩
  induction limit generalizing header input statements with
  | zero => cases hread
  | succ limit ih =>
    have hne : skipSpace input ++ more ≠ [] := by
      obtain ⟨c, rest, rfl, -⟩ := h.exists_cons
      exact List.append_ne_nil_of_right_ne_nil _ (List.cons_ne_nil _ _)
    rw [Nat.add_right_comm, statementsWithin_of_ne (skipSpace_append h input ▸ hne), skipSpace_append h]
    have hlimit : limit' ≤ limit + limit' := Nat.le_add_left _ _
    -- Where the first text is at its end the second one begins behind the break, under the header reached there.
    by_cases hblank : skipSpace input = []
    · rw [statementsWithin_of_blank hblank] at hread
      cases hread
      have hfinal : statementsWithin (limit + limit') header after = some statements' :=
        statementsWithin_mono hlimit hmore
      have hline : lineStatement? header ([] ++ more) = some (none, [] ++ more) := lineStatement?_append h rfl
      rw [hblank, hline, Option.bind_some]
      dsimp only [List.nil_append, Option.map_none, Option.getD_none]
      rw [endLine_break hafter, Option.bind_some, hfinal]
      rfl
    · rw [statementsWithin_of_ne hblank] at hread
      obtain ⟨⟨statement, rest⟩, hstatement, hread⟩ := Option.bind_eq_some_iff.mp hread
      obtain ⟨rest', hrest, hread⟩ := Option.bind_eq_some_iff.mp hread
      obtain ⟨tail, htail, hread⟩ := Option.bind_eq_some_iff.mp hread
      cases hread
      dsimp only at hrest htail
      rw [lineStatement?_append h hstatement, Option.bind_some]
      dsimp only
      rw [Statement.headerAfterAll, List.foldl_append, ← Statement.headerAfterAll, ← Statement.headerAfterAll,
        Statement.headerAfterAll_toList] at hmore
      -- The line ends in the first text, or it is its last one and ends at the break.
      rcases endLine_append hafter hrest with hon | ⟨rfl, hover⟩
      · rw [hon, Option.bind_some, ih htail hmore, Option.bind_some, List.append_assoc]
      · have htail' := statementsWithin_mono (Nat.le_succ limit) htail
        rw [statementsWithin_of_blank rfl] at htail'
        cases htail'
        have hfinal : statementsWithin (limit + limit') ((statement.map Statement.headerAfter).getD header) after =
            some statements' := statementsWithin_mono hlimit hmore
        rw [hover, Option.bind_some, hfinal, Option.bind_some, List.append_nil]

end

end ClusterConsole.Toml
