import Mathlib.Data.List.TakeWhile
import ClusterConsole.Proofs.Number.Decimal
import ClusterConsole.Proofs.Toml.Parts

/-! # Lines that assign a value

How a line may be written that gives a key a string, a truth value or a number that is not negative. Each such line is a
document with this one entry. -/

namespace ClusterConsole.Toml

/-! ### Strings -/

/-- The letters that stand for a character behind a backslash. -/
def letterEscapes : List (Char × Char) :=
  [('b', '\x08'), ('t', '\t'), ('n', '\n'), ('f', '\x0c'), ('r', '\r'), ('"', '"'), ('\\', '\\')]

/-- How a character may be written between double quotes: as it is, by a letter behind a backslash, or by its number. -/
inductive Spells : Char → List Char → Prop
  | plain {c : Char} (htext : isText c) (hquote : c ≠ '"') (hback : c ≠ '\\') : Spells c [c]
  | letter {letter c : Char} (h : (letter, c) ∈ letterEscapes) : Spells c ['\\', letter]
  | short {c : Char} {digits : List Char} (hlength : digits.length = 4) (h : ofRadix? 16 digits = some c.toNat) :
    Spells c ('\\' :: 'u' :: digits)
  | long {c : Char} {digits : List Char} (hlength : digits.length = 8) (h : ofRadix? 16 digits = some c.toNat) :
    Spells c ('\\' :: 'U' :: digits)

/-- How characters may be written between double quotes. -/
inductive Spelled : List Char → List Char → Prop
  | nil : Spelled [] []
  | cons {c : Char} {part chars text : List Char} (h : Spells c part) (hmore : Spelled chars text) :
    Spelled (c :: chars) (part ++ text)

section
variable {c : Char} {part chars text rest : List Char} {limit : Nat}

theorem escape_of_mem {letter : Char} (h : (letter, c) ∈ letterEscapes) (rest : List Char) :
    escape (letter :: rest) = some (c, rest) := by
  simp only [letterEscapes, List.mem_cons, Prod.mk.injEq, List.not_mem_nil, or_false] at h
  rcases h with ⟨rfl, rfl⟩ | ⟨rfl, rfl⟩ | ⟨rfl, rfl⟩ | ⟨rfl, rfl⟩ | ⟨rfl, rfl⟩ | ⟨rfl, rfl⟩ | ⟨rfl, rfl⟩ <;> rfl

theorem basicWithin_of_escape {text : List Char} (h : escape text = some (c, rest)) :
    basicWithin (limit + 1) ('\\' :: text) = (basicWithin limit rest).bind fun read => some (c :: read.1, read.2) := by
  rw [basicWithin_succ, if_neg (by decide), if_pos rfl, h, Option.bind_some]

theorem basicWithin_of_spells (h : Spells c part) (rest : List Char) : basicWithin (limit + 1) (part ++ rest) =
    (basicWithin limit rest).bind fun read => some (c :: read.1, read.2) := by
  cases h with
  | plain htext hquote hback =>
    rw [List.cons_append, List.nil_append, basicWithin_succ, if_neg hquote, if_neg hback, if_pos htext]
  | letter h => exact basicWithin_of_escape (escape_of_mem h rest)
  | short hlength h => exact basicWithin_of_escape (numbered_eq_some_iff.mpr ⟨_, rfl, hlength, h⟩)
  | long hlength h => exact basicWithin_of_escape (numbered_eq_some_iff.mpr ⟨_, rfl, hlength, h⟩)

theorem basicWithin_of_spelled (h : Spelled chars text) (hlimit : chars.length ≤ limit) (rest : List Char) :
    basicWithin (limit + 1) (text ++ '"' :: rest) = some (chars, rest) := by
  induction h generalizing limit with
  | nil => rfl
  | cons h hmore ih =>
    rw [List.length_cons] at hlimit
    obtain ⟨limit, rfl⟩ := Nat.exists_eq_add_of_le' (Nat.le_trans (Nat.le_add_left 1 _) hlimit)
    rw [List.append_assoc, basicWithin_of_spells h, ih (Nat.le_of_succ_le_succ hlimit)]
    rfl

theorem Spells.exists_cons (h : Spells c part) : ∃ first rest, part = first :: rest ∧ first ≠ '"' := by
  cases h with
  | plain htext hquote hback => exact ⟨_, _, rfl, hquote⟩
  | letter | short | long => exact ⟨_, _, rfl, by decide⟩

theorem Spelled.length_le (h : Spelled chars text) : chars.length ≤ text.length := by
  induction h with
  | nil => exact Nat.le_refl _
  | cons h hmore ih =>
    obtain ⟨first, rest, rfl, -⟩ := h.exists_cons
    rw [List.length_append, List.length_cons, List.length_cons]
    omega

theorem basic_of_spelled (h : Spelled chars text) (rest : List Char) :
    basic (text ++ '"' :: rest) = some (chars, rest) := by
  refine basicWithin_of_spelled h ?_ rest
  rw [List.length_append]
  have hlength := h.length_le
  omega

/-- No two quotes open a string of several lines if none follow its closing one. -/
theorem string?_of_spelled (h : Spelled chars text) (hrest : rest.head? ≠ some '"') :
    string? ('"' :: (text ++ '"' :: rest)) = some (chars, rest) := by
  have hthree : ¬['"', '"'] <+: text ++ '"' :: rest := by
    rintro ⟨tail, htail⟩
    cases h with
    | nil =>
      obtain ⟨-, htail⟩ := List.cons.inj htail
      exact hrest (htail ▸ rfl)
    | cons h hmore =>
      obtain ⟨first, more, rfl, hfirst⟩ := h.exists_cons
      exact hfirst (List.cons.inj htail).1.symm
  rw [string?_quote '"' (.inl rfl), if_neg hthree, if_pos rfl, basic_of_spelled h]

theorem exists_spells (c : Char) : ∃ part, Spells c part := by
  by_cases hplain : isText c ∧ c ≠ '"' ∧ c ≠ '\\'
  · exact ⟨_, .plain hplain.1 hplain.2.1 hplain.2.2⟩
  · have hlow : c.toNat < 0x80 := by
      refine Nat.lt_of_not_le fun hge => hplain ⟨?_, ?_, ?_⟩
      · have htext : 0x20 ≤ c.toNat ∧ c.toNat ≠ 0x7F := by omega
        simp [isText, htext]
      · rintro rfl
        exact absurd hge (by decide)
      · rintro rfl
        exact absurd hge (by decide)
    have hall : ∀ n < 0x80, ofRadix? 16 ['0', '0', Nat.digitChar (n / 16), Nat.digitChar (n % 16)] = some n := by decide
    exact ⟨_, .short rfl (hall _ hlow)⟩

/-- Every string can be written. -/
theorem exists_spelled (chars : List Char) : ∃ text, Spelled chars text := by
  induction chars with
  | nil => exact ⟨[], .nil⟩
  | cons c chars ih =>
    obtain ⟨text, htext⟩ := ih
    obtain ⟨part, hpart⟩ := exists_spells c
    exact ⟨_, .cons hpart htext⟩

end

/-! ### Scalars without quotes -/

section
variable {c : Char} {text rest ds : List Char} {radix n : Nat}

/-- A text is taken up to what a condition does not hold of. -/
theorem span_append {p : Char → Bool} (htext : ∀ c ∈ text, p c) (hrest : ∀ c ∈ rest.head?, p c = false) :
    (text ++ rest).takeWhile p = text ∧ (text ++ rest).dropWhile p = rest := by
  rw [List.takeWhile_append_of_pos htext, List.dropWhile_append_of_pos htext]
  cases rest with
  | nil => exact ⟨List.append_nil text, rfl⟩
  | cons c rest =>
    have hc : ¬p c = true := Bool.eq_false_iff.mp (hrest c rfl)
    rw [List.takeWhile_cons_of_neg hc, List.dropWhile_cons_of_neg hc]
    exact ⟨List.append_nil text, rfl⟩

theorem forall_mem_head?_append {p : Char → Prop} (htext : ∀ c ∈ text, p c) (hrest : ∀ c ∈ rest.head?, p c) :
    ∀ c ∈ (text ++ rest).head?, p c := by
  cases text with
  | nil => exact hrest
  | cons d text =>
    rintro c ⟨⟩
    exact htext d List.mem_cons_self

/-- What may follow a scalar without quotes. -/
def EndsScalar (rest : List Char) : Prop :=
  ∀ c ∈ rest.head?, endsScalar c

theorem after?_of_not_mem (h : c ∉ text) : after? c text = none := by
  cases text with
  | nil => rfl
  | cons d text => exact if_neg fun heq : d = c => h (heq ▸ List.mem_cons_self)

/-- Every date has a minus in it. -/
theorem date?_of_not_mem (h : '-' ∉ text) : date? text = none := by
  unfold date?
  refine Option.bind_eq_none_iff.mpr fun year hyear => ?_
  have hrest : year.2 = text.drop 4 := by
    unfold fixed? at hyear
    dsimp only at hyear
    split at hyear
    · obtain ⟨n, -, hyear⟩ := Option.bind_eq_some_iff.mp hyear
      cases hyear
      rfl
    · cases hyear
  have hminus : after? '-' year.2 = none := after?_of_not_mem (hrest ▸ fun hmem => h (List.mem_of_mem_drop hmem))
  dsimp only
  rw [hminus]
  rfl

theorem cutScalar_of_ends (htext : ∀ c ∈ text, endsScalar c = false) (hminus : '-' ∉ text) (hrest : EndsScalar rest) :
    cutScalar (text ++ rest) = (text, rest) := by
  have hspan : (text ++ rest).takeWhile (!endsScalar ·) = text ∧ (text ++ rest).dropWhile (!endsScalar ·) = rest :=
    span_append (fun c hc => by rw [htext c hc]; rfl) fun c hc => by rw [hrest c hc]; rfl
  rw [cutScalar_eq, hspan.1, hspan.2]
  refine if_neg fun h => ?_
  cases (date?_of_not_mem hminus).symm.trans h.1

/-- Digits, and the text that has single underscores between some of them. -/
inductive Separated : List Char → List Char → Prop
  | last (c : Char) : Separated [c] [c]
  | next {ds text : List Char} (c : Char) (h : Separated ds text) : Separated (c :: ds) (c :: text)
  | underscore {ds text : List Char} (c : Char) (h : Separated ds text) : Separated (c :: ds) (c :: '_' :: text)

theorem separated_self (h : ds ≠ []) : Separated ds ds := by
  induction ds with
  | nil => exact absurd rfl h
  | cons c ds ih =>
    cases ds with
    | nil => exact .last c
    | cons d ds => exact .next c (ih (List.cons_ne_nil d ds))

theorem Separated.exists_cons (h : Separated ds text) : ∃ c ds' text', ds = c :: ds' ∧ text = c :: text' := by
  cases h with
  | last | next | underscore => exact ⟨_, _, _, rfl, rfl⟩

theorem Separated.mem (h : Separated ds text) (hc : c ∈ text) : c ∈ ds ∨ c = '_' := by
  induction h with
  | last => exact .inl hc
  | next d h ih =>
    rcases List.mem_cons.mp hc with rfl | hc
    · exact .inl List.mem_cons_self
    · exact (ih hc).imp_left (List.mem_cons_of_mem d)
  | underscore d h ih =>
    rcases List.mem_cons.mp hc with rfl | hc
    · exact .inl List.mem_cons_self
    rcases List.mem_cons.mp hc with rfl | hc
    · exact .inr rfl
    · exact (ih hc).imp_left (List.mem_cons_of_mem d)

theorem separated?_of_separated {isDigit : Char → Bool} (hunder : isDigit '_' = false) (hds : ∀ c ∈ ds, isDigit c)
    (h : Separated ds text) : separated? isDigit text = some ds := by
  induction h with
  | last c => exact if_pos (hds c List.mem_cons_self)
  | next c h ih =>
    obtain ⟨hc, hmore⟩ := List.forall_mem_cons.mp hds
    obtain ⟨d, ds', text', rfl, rfl⟩ := h.exists_cons
    have hd : d ≠ '_' := by
      rintro rfl
      exact absurd (hmore '_' List.mem_cons_self) (by simp [hunder])
    rw [separated?, if_pos hc, ih hmore]
    · rfl
    · exact List.cons_ne_nil _ _
    · exact fun rest heq => hd (List.cons.inj heq).1
  | underscore c h ih =>
    obtain ⟨hc, hmore⟩ := List.forall_mem_cons.mp hds
    rw [separated?, if_pos hc, ih hmore]
    rfl

/-- How a whole number may be written: in decimal, also with a plus, or in another base. -/
inductive NumberText : Nat → List Char → Prop
  | decimal {n : Nat} {plus text : List Char} (hplus : plus = [] ∨ plus = ['+'])
    (h : Separated (Decimal.digits n) text) : NumberText n (plus ++ text)
  | based {n radix : Nat} {mark : Char} {ds text : List Char} (hmark : (radix, mark) ∈ [(16, 'x'), (8, 'o'), (2, 'b')])
    (hds : ofRadix? radix ds = some n) (h : Separated ds text) : NumberText n ('0' :: mark :: text)

/-- Digits that denote a number in a base are digits of that base. -/
theorem digit_of_ofRadix? (h : ofRadix? radix ds = some n) : ∀ c ∈ ds, ∃ d, hexValue? c = some d ∧ d < radix := by
  have hfrom : ∀ start, ds.foldlM (fun n c => do
      let d ← hexValue? c
      if d < radix then some (n * radix + d) else none) start = some n →
        ∀ c ∈ ds, ∃ d, hexValue? c = some d ∧ d < radix := by
    clear h
    induction ds with
    | nil => intro _ _ c hc; cases hc
    | cons c ds ih =>
      intro start h
      obtain ⟨next, hnext, h⟩ := Option.bind_eq_some_iff.mp h
      obtain ⟨d, hd, hnext⟩ := Option.bind_eq_some_iff.mp hnext
      split at hnext
      · rename_i hlt
        exact List.forall_mem_cons.mpr ⟨⟨d, hd, hlt⟩, ih next h⟩
      · cases hnext
  exact hfrom 0 h

/-- The characters of numbers without a fraction. -/
def inNumber (c : Char) : Bool :=
  (hexValue? c).isSome || ['_', '+', 'x', 'o', 'b'].contains c

theorem endsScalar_of_inNumber (h : inNumber c) : endsScalar c = false ∧ c ≠ '-' := by
  constructor
  · refine Bool.eq_false_iff.mpr fun hends => ?_
    have hcases : c ∈ [' ', '\t', '\n', '\r', ',', ']', '\x7d', '#'] := by
      simpa [endsScalar, or_assoc] using hends
    have hnone : [' ', '\t', '\n', '\r', ',', ']', '\x7d', '#'].any inNumber = false := by decide
    exact List.any_eq_false.mp hnone c hcases h
  · rintro rfl
    exact absurd h (by decide)

theorem hexValue?_of_isDigit (h : c.isDigit) : (hexValue? c).isSome := by
  have hdigit : '0' ≤ c ∧ c ≤ '9' := by
    have hdec : Decimal.isDigit c = true := h
    simpa [Decimal.isDigit] using hdec
  rw [hexValue?, if_pos hdigit]
  rfl

theorem inNumber_of_separated (h : Separated ds text) (hds : ∀ c ∈ ds, (hexValue? c).isSome) :
    ∀ c ∈ text, inNumber c := by
  intro c hc
  rcases h.mem hc with hc | rfl
  · exact Bool.or_eq_true_iff.mpr (.inl (hds c hc))
  · rfl

theorem inNumber_of_numberText (h : NumberText n text) : ∀ c ∈ text, inNumber c := by
  cases h with
  | decimal hplus h =>
    refine List.forall_mem_append.mpr ⟨?_, inNumber_of_separated h fun c hc => ?_⟩
    · rcases hplus with rfl | rfl
      · exact nofun
      · exact List.forall_mem_singleton.mpr rfl
    · exact hexValue?_of_isDigit (Decimal.isDigit_of_mem_digits hc)
  | based hmark hds h =>
    refine List.forall_mem_cons.mpr ⟨rfl, List.forall_mem_cons.mpr ⟨?_, inNumber_of_separated h fun c hc => ?_⟩⟩
    · have hall : ∀ base ∈ [(16, 'x'), (8, 'o'), (2, 'b')], inNumber base.2 := by decide
      exact hall _ hmark
    · obtain ⟨d, hd, -⟩ := digit_of_ofRadix? hds c hc
      rw [hd]
      rfl

theorem decimal?_of_split (hsign : splitSign text = (false, rest)) (h : Separated (Decimal.digits n) rest)
    (hn : n < Word.signedLimit) : decimal? text = some (n : Int) := by
  have hdigits : separated? Decimal.isDigit rest = some (Decimal.digits n) :=
    separated?_of_separated rfl (fun c hc => Decimal.isDigit_of_mem_digits hc) h
  have hzero : ¬((Decimal.digits n).head? = some '0' ∧ 1 < (Decimal.digits n).length) := by
    rintro ⟨hhead, hlength⟩
    rw [Decimal.digits_eq_of_head hhead] at hlength
    exact absurd hlength (by decide)
  have hvalue : Decimal.ofDigits (Decimal.digits n) = n :=
    Nat.ofDigitChars_eq_foldl.symm.trans Nat.ofDigitChars_ten_toDigits
  unfold decimal? wholeDigits?
  rw [hsign]
  dsimp only [Option.bind_eq_bind]
  rw [hdigits, Option.bind_some, if_neg hzero, Option.bind_some, hvalue]
  exact if_pos hn

theorem based?_of_separated (hds : ofRadix? radix ds = some n) (h : Separated ds text) (hn : n < Word.signedLimit) :
    based? radix text = some (n : Int) := by
  have hdigits : separated? (fun c => ((hexValue? c).map (decide <| · < radix)).getD false) text = some ds := by
    refine separated?_of_separated rfl (fun c hc => ?_) h
    obtain ⟨d, hd, hlt⟩ := digit_of_ofRadix? hds c hc
    rw [hd, Option.map_some, Option.getD_some]
    exact decide_eq_true hlt
  unfold based?
  rw [hdigits, Option.bind_eq_bind, Option.bind_some, hds]
  exact if_pos hn

theorem integer?_of_ne (h : ∀ mark rest, text ≠ '0' :: mark :: rest) : integer? text = decimal? text := by
  unfold integer?
  split
  · exact absurd rfl (h _ _)
  · exact absurd rfl (h _ _)
  · exact absurd rfl (h _ _)
  · rfl

theorem splitSign_of_isDigit (hc : c.isDigit) (rest : List Char) : splitSign (c :: rest) = (false, c :: rest) := by
  unfold splitSign
  split
  · rename_i heq
    exact absurd ((List.cons.inj heq).1 ▸ hc) (by decide)
  · rename_i heq
    exact absurd ((List.cons.inj heq).1 ▸ hc) (by decide)
  · rfl

theorem integer?_of_numberText (h : NumberText n text) (hn : n < Word.signedLimit) :
    integer? text = some (n : Int) := by
  cases h with
  | @decimal plus text hplus h =>
    rcases hplus with rfl | rfl
    · obtain ⟨c, ds', text', hds, rfl⟩ := h.exists_cons
      have hc : c.isDigit := Decimal.isDigit_of_mem_digits (hds ▸ List.mem_cons_self)
      rw [List.nil_append, integer?_of_ne, decimal?_of_split (splitSign_of_isDigit hc text') h hn]
      -- A number that begins with a zero has no second digit.
      intro mark rest heq
      obtain ⟨rfl, rfl⟩ := List.cons.inj heq
      have hzero := Decimal.digits_eq_of_head (n := n) (by rw [hds]; rfl)
      rw [hzero] at h
      cases h with
      | next _ h | underscore _ h => cases h
    · rw [List.singleton_append, integer?_of_ne fun _ _ heq => absurd (List.cons.inj heq).1 (by decide)]
      exact decimal?_of_split rfl h hn
  | based hmark hds h =>
    simp only [List.mem_cons, Prod.mk.injEq, List.not_mem_nil, or_false] at hmark
    rcases hmark with ⟨rfl, rfl⟩ | ⟨rfl, rfl⟩ | ⟨rfl, rfl⟩ <;> exact based?_of_separated hds h hn

end

/-! ### Values, keys and comments -/

/-- How a value may be written: a string between double quotes, a truth value, or a number that fits a word with a
    sign. -/
inductive ValueText : Item → List Char → Prop
  | string {chars text : List Char} (h : Spelled chars text) :
    ValueText (.string (String.ofList chars)) ('"' :: (text ++ ['"']))
  | truth (b : Bool) : ValueText (.boolean b) (toString b).toList
  | number {n : Nat} {text : List Char} (hn : n < Word.signedLimit) (h : NumberText n text) :
    ValueText (.integer n) text

/-- How a key may be written: without quotes, or between quotes of either kind. -/
inductive KeyText : String → List Char → Prop
  | bare {chars : List Char} (hne : chars ≠ []) (h : ∀ c ∈ chars, isBare c) : KeyText (String.ofList chars) chars
  | basic {chars text : List Char} (h : Spelled chars text) : KeyText (String.ofList chars) ('"' :: (text ++ ['"']))
  | literal {chars : List Char} (h : ∀ c ∈ chars, c ≠ '\'' ∧ isText c) :
    KeyText (String.ofList chars) ('\'' :: (chars ++ ['\'']))

/-- A comment, or nothing. -/
inductive Comment : List Char → Prop
  | none : Comment []
  | some {text : List Char} (h : ∀ c ∈ text, isText c) : Comment ('#' :: text)

/-- Spaces and tabs. -/
def Spaces (text : List Char) : Prop :=
  ∀ c ∈ text, isSpace c

section
variable {item : Item} {key : String} {text rest comment spaces : List Char}

theorem ValueText.fits (h : ValueText item text) : item.Fits := by
  cases h with
  | string | truth => trivial
  | number hn h =>
    show -(Word.signedLimit : Int) ≤ _ ∧ _ < (Word.signedLimit : Int)
    omega

/-- A scalar without quotes is read as a whole. -/
theorem written?_of_scalar {c : Char} (hc : c ∉ ['[', '\x7b', '"', '\'']) (hfits : item.Fits)
    (htext : ∀ d ∈ c :: text, endsScalar d = false ∧ d ≠ '-') (hscalar : scalar? (c :: text) = some item)
    (hrest : EndsScalar rest) (levels : Nat) :
    written? levels (c :: text ++ rest) = some (.scalar item hfits, rest) := by
  simp only [List.mem_cons, List.not_mem_nil, or_false, not_or] at hc
  rw [List.cons_append, written?_of_flat ⟨hc.1, hc.2.1⟩, if_neg (not_or.mpr hc.2.2), ← List.cons_append,
    cutScalar_of_ends (fun d hd => (htext d hd).1) (fun hmem => (htext '-' hmem).2 rfl) hrest]
  dsimp only
  have hwritten : scalar (c :: text) = some (.scalar item hfits) := by
    unfold scalar
    simp only [hscalar, Option.pmap_some]
  rw [hwritten, Option.bind_some]

theorem scalar?_of_numberText {n : Nat} (h : NumberText n text) (hn : n < Word.signedLimit) :
    scalar? text = some (.integer n) := by
  have hword : ∀ word : List Char, (∃ c ∈ word, inNumber c = false) → text ≠ word := by
    rintro word ⟨c, hmem, hc⟩ rfl
    exact absurd (inNumber_of_numberText h c hmem) (Bool.eq_false_iff.mp hc)
  unfold scalar?
  rw [if_neg (hword _ ⟨'t', by decide, by decide⟩), if_neg (hword _ ⟨'l', by decide, by decide⟩),
    integer?_of_numberText h hn]

theorem ValueText.written? (h : ValueText item text) (hrest : EndsScalar rest) (levels : Nat) :
    written? levels (text ++ rest) = some (.scalar item h.fits, rest) := by
  have hfits := h.fits
  cases h with
  | @string chars text h =>
    have hquote : rest.head? ≠ some '"' := fun heq => absurd (hrest _ heq) (by decide)
    rw [List.cons_append, List.append_assoc, List.singleton_append, written?_of_flat (by decide), if_pos (.inl rfl),
      string?_of_spelled h hquote, Option.bind_some]
  | truth b =>
    have hword : (toString b).toList.all (fun d => endsScalar d = false ∧ d ≠ '-') = true := by cases b <;> decide
    have hends d hd := of_decide_eq_true (List.all_eq_true.mp hword d hd)
    cases b
    · exact written?_of_scalar (by decide) hfits hends rfl hrest levels
    · exact written?_of_scalar (by decide) hfits hends rfl hrest levels
  | number hn h =>
    have hnumber := inNumber_of_numberText h
    have hscalar := scalar?_of_numberText h hn
    cases text with
    | nil => cases hscalar
    | cons c text =>
      have hnone : ['[', '\x7b', '"', '\''].any inNumber = false := by decide
      have hc : c ∉ ['[', '\x7b', '"', '\''] := fun hmem =>
        List.any_eq_false.mp hnone c hmem (hnumber c List.mem_cons_self)
      exact written?_of_scalar hc hfits (fun d hd => endsScalar_of_inNumber (hnumber d hd)) hscalar hrest levels

/-! ### Lines -/

theorem isSpace_cases {c : Char} (h : isSpace c) : c = ' ' ∨ c = '\t' :=
  (Bool.or_eq_true_iff.mp h).imp beq_iff_eq.mp beq_iff_eq.mp

theorem skipSpace_of_spaces (h : Spaces spaces) (rest : List Char) : skipSpace (spaces ++ rest) = skipSpace rest :=
  List.dropWhile_append_of_pos h

/-- A text that begins with something to read. -/
theorem skipSpace_of_head {c : Char} (hc : isSpace c = false) (rest : List Char) : skipSpace (c :: rest) = c :: rest :=
  List.dropWhile_cons_of_neg (Bool.eq_false_iff.mp hc)

theorem ValueText.skipSpace (h : ValueText item text) (rest : List Char) : skipSpace (text ++ rest) = text ++ rest := by
  cases h with
  | string h => exact skipSpace_of_head rfl _
  | truth b => cases b <;> exact skipSpace_of_head rfl _
  | number hn h =>
    have hnumber := inNumber_of_numberText h
    have hscalar := scalar?_of_numberText h hn
    cases text with
    | nil => cases hscalar
    | cons c text =>
      refine skipSpace_of_head (Bool.eq_false_iff.mpr fun hspace => ?_) _
      have hends : endsScalar c = true := by rcases isSpace_cases hspace with rfl | rfl <;> rfl
      exact Bool.eq_false_iff.mp (endsScalar_of_inNumber (hnumber c List.mem_cons_self)).1 hends

/-- What a key may begin with. -/
theorem KeyText.exists_cons (h : KeyText key text) : ∃ c tail, text = c :: tail ∧ isSpace c = false ∧
    c ≠ '#' ∧ c ≠ '\n' ∧ c ≠ '\r' ∧ c ≠ '[' := by
  cases h with
  | bare hne h =>
    cases text with
    | nil => exact absurd rfl hne
    | cons c tail =>
      have hnone : [' ', '\t', '#', '\n', '\r', '['].any isBare = false := by decide
      have hc : c ∉ [' ', '\t', '#', '\n', '\r', '['] := fun hmem =>
        List.any_eq_false.mp hnone c hmem (h c List.mem_cons_self)
      simp only [List.mem_cons, List.not_mem_nil, or_false, not_or] at hc
      refine ⟨c, tail, rfl, Bool.eq_false_iff.mpr fun hspace => ?_, hc.2.2⟩
      rcases isSpace_cases hspace with rfl | rfl
      · exact hc.1 rfl
      · exact hc.2.1 rfl
  | basic | literal => exact ⟨_, _, rfl, by decide⟩

theorem KeyText.keyPart (h : KeyText key text) (hrest : ∀ c ∈ rest.head?, isBare c = false) :
    keyPart (text ++ rest) = some (key, rest) := by
  cases h with
  | bare hne h =>
    -- A key without quotes ends where a character stands that cannot be in one.
    have hspan := span_append h hrest
    cases text with
    | nil => exact absurd rfl hne
    | cons c tail =>
      have hc : c ≠ '"' ∧ c ≠ '\'' := by
        constructor <;>
        · rintro rfl
          exact absurd (h _ List.mem_cons_self) (by decide)
      rw [List.cons_append, keyPart_of_bare hc, ← List.cons_append, hspan.1, hspan.2]
      exact if_neg (List.cons_ne_nil c tail)
  | basic h =>
    rw [List.cons_append, List.append_assoc]
    show (Toml.basic _).bind _ = _
    rw [List.singleton_append, basic_of_spelled h]
    rfl
  | @literal chars h =>
    rw [List.cons_append, List.append_assoc, List.singleton_append]
    have hread : Toml.literal (chars ++ '\'' :: rest) = some (chars, rest) := by
      obtain ⟨htake, hdrop⟩ := @span_append chars ('\'' :: rest) (fun c => c != '\'' && isText c)
        (fun c hc => by simp [h c hc]) (by rintro c ⟨⟩; rfl)
      unfold Toml.literal
      rw [htake, hdrop]
      rfl
    show (Toml.literal _).bind _ = _
    rw [hread]
    rfl

theorem endsScalar_trail (htrail : Spaces spaces) (hcomment : Comment comment) : EndsScalar (spaces ++ comment) := by
  refine forall_mem_head?_append (fun c hc => ?_) ?_
  · rcases isSpace_cases (htrail c hc) with rfl | rfl <;> rfl
  · cases hcomment with
    | none => exact nofun
    | some =>
      rintro c ⟨⟩
      rfl

theorem endLine_trail (htrail : Spaces spaces) (hcomment : Comment comment) :
    endLine (spaces ++ comment) = some [] := by
  unfold endLine
  rw [skipSpace_of_spaces htrail]
  cases hcomment with
  | none => rfl
  | some h =>
    rw [skipSpace_of_head rfl, skipComment, List.dropWhile_eq_nil_iff.mpr h]

theorem key_of_keyText (h : KeyText key text) (hspaces : Spaces spaces) (rest : List Char) :
    Toml.key (text ++ (spaces ++ '=' :: rest)) = some ([key], '=' :: rest) := by
  obtain ⟨c, tail, htext, hspace, -⟩ := h.exists_cons
  have hstart : skipSpace (text ++ (spaces ++ '=' :: rest)) = text ++ (spaces ++ '=' :: rest) := by
    rw [htext]
    exact skipSpace_of_head hspace _
  have hsign : ∀ c ∈ (spaces ++ '=' :: rest).head?, isBare c = false := by
    refine forall_mem_head?_append (fun c hc => ?_) ?_
    · rcases isSpace_cases (hspaces c hc) with rfl | rfl <;> rfl
    · rintro c ⟨⟩
      rfl
  unfold Toml.key keyLimit
  rw [keyWithin_succ, hstart, h.keyPart hsign, Option.bind_some]
  dsimp only
  rw [skipSpace_of_spaces hspaces, skipSpace_of_head rfl]
  rfl

theorem keyValue_of_texts {keyText before after valueText : List Char} (hkey : KeyText key keyText)
    (hbefore : Spaces before) (hafter : Spaces after) (hvalue : ValueText item valueText) (hrest : EndsScalar rest) :
    keyValue (written? nestingLimit) (keyText ++ (before ++ '=' :: (after ++ (valueText ++ rest)))) =
      some (([], key, .scalar item hvalue.fits), rest) := by
  unfold keyValue
  rw [key_of_keyText hkey hbefore]
  dsimp only [Option.bind_eq_bind, Option.bind_some]
  rw [after?, if_pos rfl, Option.bind_some, skipSpace_of_spaces hafter, hvalue.skipSpace, hvalue.written? hrest]
  rfl

/-- The statement of a text of one line. -/
theorem statementsUnder?_line {header : List String} {line : List Char} {statement : Option Statement}
    (hstart : skipSpace text = line) (hne : line ≠ []) (hline : lineStatement? header line = some (statement, rest))
    (hend : endLine rest = some []) : statementsUnder? header text = some statement.toList := by
  cases text with
  | nil => exact absurd hstart.symm hne
  | cons c text =>
    unfold statementsUnder?
    rw [statementsWithin_of_ne (hstart ▸ hne), hstart, hline, Option.bind_some, hend, Option.bind_some,
      List.length_cons, statementsWithin_of_blank rfl, Option.bind_some, List.append_nil]

/-- A line that assigns an item to a key. -/
inductive Assigns (key : String) (item : Item) : List Char → Prop
  | intro {lead before after trail keyText valueText comment : List Char} (hlead : Spaces lead)
    (hbefore : Spaces before) (hafter : Spaces after) (htrail : Spaces trail) (hkey : KeyText key keyText)
    (hvalue : ValueText item valueText) (hcomment : Comment comment) :
    Assigns key item (lead ++ (keyText ++ (before ++ '=' :: (after ++ (valueText ++ (trail ++ comment))))))

namespace Assigns

theorem fits (h : Assigns key item text) : item.Fits := by
  cases h with
  | intro _ _ _ _ _ hvalue _ => exact hvalue.fits

theorem read (h : Assigns key item text) (hfits : item.Fits) :
    statementsUnder? [] text = some [.set [] [] key (.scalar item hfits)] := by
  cases h with
  | @intro lead before after trail _ valueText comment hlead hbefore hafter htrail hkey hvalue hcomment =>
    have hread := keyValue_of_texts hkey hbefore hafter hvalue (endsScalar_trail htrail hcomment)
    obtain ⟨c, tail, rfl, hspace, hhead⟩ := hkey.exists_cons
    have hline := lineStatement?_of_key hhead []
      (tail ++ (before ++ '=' :: (after ++ (valueText ++ (trail ++ comment)))))
    rw [← List.cons_append, hread, Option.bind_some] at hline
    refine statementsUnder?_line ?_ (List.cons_ne_nil _ _) hline (endLine_trail htrail hcomment)
    rw [skipSpace_of_spaces hlead]
    exact skipSpace_of_head hspace _

/-- A line that assigns an item to a key, as a document. -/
def part (h : Assigns key item text) : Part where
  text := text
  statements := [.set [] [] key (.scalar item h.fits)]
  entries := [(key, item)]
  read := h.read h.fits
  run := rfl

theorem isPlain_part (h : Assigns key item text) : h.part.IsPlain := rfl

/-- Whatever can be written as a value can be assigned to whatever can be written as a key. -/
theorem exists_assigns {keyText valueText : List Char} (hkey : KeyText key keyText)
    (hvalue : ValueText item valueText) : ∃ text, Assigns key item text :=
  ⟨_, @intro key item [] [] [] [] keyText valueText [] nofun nofun nofun nofun hkey hvalue .none⟩

end Assigns

end
end ClusterConsole.Toml
