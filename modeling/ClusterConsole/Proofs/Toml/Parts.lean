import ClusterConsole.Proofs.Toml.Lines

/-! # Documents in parts

A document of parts that are documents themselves, each on lines of its own, holds the entries of them all, if no two of
them have a key of the outermost table in common and no part without a header follows one with a header. -/

namespace ClusterConsole.Toml

namespace Entries
variable {key : String} {item : Item} {entries entries' front : Entries}

/-- The keys of a table. -/
def keys (entries : Entries) : List String :=
  entries.map Prod.fst

theorem lookup_eq_none_iff_keys : entries.lookup key = none ↔ key ∉ keys entries := by
  rw [List.lookup_eq_none_iff, keys, List.mem_map]
  constructor
  · rintro h ⟨entry, hmem, rfl⟩
    exact absurd rfl (bne_iff_ne.mp (h entry hmem))
  · exact fun h entry hmem => bne_iff_ne.mpr fun heq => h ⟨entry, hmem, heq.symm⟩

theorem mem_keys_put {other : String} : other ∈ keys (put key item entries) ↔ other = key ∨ other ∈ keys entries := by
  rw [← not_iff_not, ← lookup_eq_none_iff_keys, not_or, ← lookup_eq_none_iff_keys]
  by_cases heq : other = key
  · subst heq
    simp [lookup_put_self]
  · simp [lookup_put_ne heq, heq]

theorem lookup_beside (h : key ∉ keys front) (entries : Entries) :
    (front ++ entries).lookup key = entries.lookup key := by
  rw [List.lookup_append, lookup_eq_none_iff_keys.mpr h, Option.none_or]

theorem put_beside (h : key ∉ keys front) (item : Item) (entries : Entries) :
    put key item (front ++ entries) = front ++ put key item entries := by
  induction front with
  | nil => rfl
  | cons entry front ih =>
    obtain ⟨hne, hmore⟩ := not_or.mp (mt List.mem_cons.mpr h)
    rw [List.cons_append, put, if_neg (Ne.symm hne), ih hmore, List.cons_append]

/-- An edit that decides by what stands under a key what to put there, if anything. -/
def EditsKey (key : String) (edit : Entries → Option Entries) : Prop :=
  ∀ before, ∃ after : Option Item, ∀ entries, entries.lookup key = before →
    edit entries = after.map fun item => put key item entries

namespace EditsKey
variable {edit : Entries → Option Entries}

theorem mem_keys (h : EditsKey key edit) (hedit : edit entries = some entries') {other : String} :
    other ∈ keys entries' ↔ other = key ∨ other ∈ keys entries := by
  obtain ⟨after, hafter⟩ := h (entries.lookup key)
  rw [hafter entries rfl] at hedit
  obtain ⟨item, -, rfl⟩ := Option.map_eq_some_iff.mp hedit
  exact mem_keys_put

/-- Entries in front of the table have no part in an edit of another key. -/
theorem beside (h : EditsKey key edit) (hkey : key ∉ keys front) (entries : Entries) :
    edit (front ++ entries) = (edit entries).map (front ++ ·) := by
  obtain ⟨after, hafter⟩ := h (entries.lookup key)
  rw [hafter _ (lookup_beside hkey entries), hafter entries rfl, Option.map_map]
  simp only [put_beside hkey]
  rfl

theorem change {made : Origin} {enter : Origin → Bool} {edit : Origin → Entries → Option Entries}
    (hedit : ∀ origin, EditsKey key (edit origin)) (path : List String) (origin : Origin) :
    EditsKey (path.headD key) (change made enter edit path origin) := by
  cases path with
  | nil => exact hedit origin
  | cons first path =>
    -- A longer path edits only what stands under its first name, by what is found there.
    rintro (_ | item)
    · refine ⟨(Entries.change made enter edit path made []).map (.table made), fun entries hlookup => ?_⟩
      rw [List.headD_cons] at hlookup ⊢
      simp only [Entries.change, hlookup, Option.map_map]
      exact Option.map_eq_bind.symm
    cases item with
    | table origin inner =>
      refine ⟨if enter origin then (Entries.change made enter edit path origin inner).map (.table origin) else none,
        fun entries hlookup => ?_⟩
      rw [List.headD_cons] at hlookup ⊢
      simp only [Entries.change, hlookup]
      split
      · rw [Option.map_map]
        exact Option.map_eq_bind.symm
      · rfl
    | tables elements =>
      refine ⟨elements.getLast?.bind fun last => (Entries.change made enter edit path .header last).map fun inner =>
        .tables (elements.dropLast ++ [inner]), fun entries hlookup => ?_⟩
      rw [List.headD_cons] at hlookup ⊢
      simp only [Entries.change, hlookup, Option.map_bind]
      refine Option.bind_congr fun last _ => ?_
      rw [Function.comp_apply, Option.map_map]
      exact Option.map_eq_bind.symm
    | _ =>
      refine ⟨none, fun entries hlookup => ?_⟩
      rw [List.headD_cons] at hlookup
      simp only [Entries.change, hlookup, Option.map_none]

theorem set (path : List String) (key : String) (item : Item) : EditsKey (path.headD key) (set path key item) := by
  refine change (fun origin before =>
    ⟨if (origin == .dotted) == path.isEmpty ∨ before.isSome then none else some item, ?_⟩) path .header
  rintro entries rfl
  by_cases horigin : (origin == .dotted) == path.isEmpty
  · simp only [horigin, if_true, true_or, Option.map_none]
  · by_cases hset : (entries.lookup key).isSome <;>
      simp only [horigin, hset, Bool.false_eq_true, if_true, if_false, false_or, Option.map_none, Option.map_some]

theorem setUnder (header path : List String) (key : String) (item : Item) :
    EditsKey ((header ++ path).headD key) (setUnder header path key item) := by
  have h : EditsKey (header.headD (path.headD key)) (Entries.setUnder header path key item) :=
    change (fun _ => set path key item) header .header
  cases header <;> exact h

theorem define (path : List String) (key : String) : EditsKey (path.headD key) (define path key) := by
  refine change (fun _ => ?_) path .header
  rintro (_ | item)
  · exact ⟨some (.table .header []), fun entries hlookup => by simp only [hlookup, Option.map_some]⟩
  cases item with
  | table origin inner =>
    cases origin with
    | around => exact ⟨some (.table .header inner), fun entries hlookup => by simp only [hlookup, Option.map_some]⟩
    | _ => exact ⟨none, fun entries hlookup => by simp only [hlookup, Option.map_none]⟩
  | _ => exact ⟨none, fun entries hlookup => by simp only [hlookup, Option.map_none]⟩

theorem append (path : List String) (key : String) : EditsKey (path.headD key) (append path key) := by
  refine change (fun _ => ?_) path .header
  rintro (_ | item)
  · exact ⟨some (.tables [[]]), fun entries hlookup => by simp only [hlookup, Option.map_some]⟩
  cases item with
  | tables elements =>
    exact ⟨some (.tables (elements ++ [[]])), fun entries hlookup => by simp only [hlookup, Option.map_some]⟩
  | _ => exact ⟨none, fun entries hlookup => by simp only [hlookup, Option.map_none]⟩

end EditsKey
end Entries

/-! ### Statements beside each other -/

namespace Statement
open Entries (keys)
variable {statement : Statement} {statements : List Statement} {entries entries' front : Entries} {key : String}

/-- The key of the outermost table that a statement goes into. -/
def root (statement : Statement) : String :=
  statement.table.headD statement.key

/-- A statement whose value can be put together edits the key it goes into. -/
theorem run_eq_none_or_editsKey (statement : Statement) : (∀ entries, statement.run entries = none) ∨
    Entries.EditsKey statement.root fun entries => statement.run entries := by
  cases statement with
  | set header path key value =>
    cases hvalue : value.item? with
    | none => exact .inl fun entries => by rw [run, hvalue, Option.bind_none]
    | some item =>
      have hrun : ∀ entries, (set header path key value).run entries = entries.setUnder header path key item :=
        fun entries => by rw [run, hvalue, Option.bind_some]
      exact .inr (funext hrun ▸ Entries.EditsKey.setUnder header path key item)
  | define path key => exact .inr (.define path key)
  | append path key => exact .inr (.append path key)

theorem mem_keys_run (hrun : statement.run entries = some entries') :
    key ∈ keys entries' ↔ key = statement.root ∨ key ∈ keys entries := by
  rcases statement.run_eq_none_or_editsKey with hnone | hedits
  · cases (hnone entries).symm.trans hrun
  · exact hedits.mem_keys hrun

theorem mem_keys_runAll (hrun : runAll entries statements = some entries') :
    key ∈ keys entries' ↔ (∃ statement ∈ statements, key = statement.root) ∨ key ∈ keys entries := by
  induction statements generalizing entries with
  | nil =>
    cases hrun
    simp
  | cons statement statements ih =>
    obtain ⟨next, hnext, hrun⟩ := Option.bind_eq_some_iff.mp hrun
    rw [ih hrun, mem_keys_run hnext, List.exists_mem_cons_iff, or_left_comm, or_assoc]

theorem run_beside (hroot : statement.root ∉ keys front) (entries : Entries) :
    statement.run (front ++ entries) = (statement.run entries).map (front ++ ·) := by
  rcases statement.run_eq_none_or_editsKey with hnone | hedits
  · rw [hnone, hnone, Option.map_none]
  · exact hedits.beside hroot entries

theorem runAll_beside (hroots : ∀ statement ∈ statements, statement.root ∉ keys front)
    (hrun : runAll entries statements = some entries') :
    runAll (front ++ entries) statements = some (front ++ entries') := by
  induction statements generalizing entries with
  | nil =>
    cases hrun
    rfl
  | cons statement statements ih =>
    obtain ⟨hroot, hmore⟩ := List.forall_mem_cons.mp hroots
    obtain ⟨next, hnext, hrun⟩ := Option.bind_eq_some_iff.mp hrun
    show (statement.run (front ++ entries)).bind _ = _
    rw [run_beside hroot, hnext]
    exact ih hmore hrun

/-- Statements that put a table of other keys together put it behind what stands there. -/
theorem runAll_of_disjoint (hrun : runAll [] statements = some entries)
    (hdisjoint : (keys front).Disjoint (keys entries)) : runAll front statements = some (front ++ entries) := by
  rw [← List.append_nil front]
  refine (List.append_nil front).symm ▸ runAll_beside (fun statement hmem hroot => ?_) hrun
  exact hdisjoint hroot ((mem_keys_runAll hrun).mpr (.inl ⟨statement, hmem, rfl⟩))

end Statement

/-! ### Headers -/

namespace Statement

/-- A header of a table or of a table of an array. -/
def IsHeader : Statement → Prop
  | .set .. => False
  | _ => True

instance : DecidablePred IsHeader
  | .set .. => inferInstanceAs (Decidable False)
  | .define .. => inferInstanceAs (Decidable True)
  | .append .. => inferInstanceAs (Decidable True)

end Statement

/-- The statements of a text whose first keys belong to a header. -/
def statementsUnder? (header : List String) (text : List Char) : Option (List Statement) :=
  statementsWithin (text.length + 1) header text

section
variable {input rest more after : List Char} {limit : Nat} {header : List String}
  {statements statements' : List Statement}

theorem statementsUnder?_append (hafter : newline? more = some after)
    (hread : statementsUnder? header input = some statements)
    (hmore : statementsUnder? (Statement.headerAfterAll header statements) after = some statements') :
    statementsUnder? header (input ++ more) = some (statements ++ statements') := by
  refine statementsWithin_mono ?_ (statementsWithin_append hafter hread hmore)
  rcases newline?_cases hafter with rfl | rfl <;> simp only [List.length_append, List.length_cons] <;> omega

/-- A line that is no assignment is read the same under each header. -/
theorem lineStatement?_of_header {statement : Option Statement}
    (hread : lineStatement? header input = some (statement, rest)) (hheader : ∀ s, statement = some s → s.IsHeader)
    (other : List String) : lineStatement? other input = some (statement, rest) := by
  cases input with
  | nil => exact hread
  | cons c input =>
    by_cases hc : c ≠ '#' ∧ c ≠ '\n' ∧ c ≠ '\r' ∧ c ≠ '['
    · rw [lineStatement?_of_key hc] at hread
      obtain ⟨read, -, hread⟩ := Option.bind_eq_some_iff.mp hread
      cases hread
      exact (hheader _ rfl).elim
    · have hcases : c = '#' ∨ c = '\n' ∨ c = '\r' ∨ c = '[' := by tauto
      rcases hcases with rfl | rfl | rfl | rfl <;> exact hread

/-- A text whose first statement is a header is read the same under each. -/
theorem statementsWithin_of_header {first : Statement}
    (hread : statementsWithin limit header input = some (first :: statements)) (hfirst : first.IsHeader)
    (other : List String) : statementsWithin limit other input = some (first :: statements) := by
  induction limit generalizing input with
  | zero => cases hread
  | succ limit ih =>
    by_cases hblank : skipSpace input = []
    · rw [statementsWithin_of_blank hblank] at hread
      cases hread
    · rw [statementsWithin_of_ne hblank] at hread ⊢
      obtain ⟨⟨statement, rest⟩, hline, hread⟩ := Option.bind_eq_some_iff.mp hread
      obtain ⟨rest', hrest, hread⟩ := Option.bind_eq_some_iff.mp hread
      obtain ⟨tail, htail, hread⟩ := Option.bind_eq_some_iff.mp hread
      dsimp only at hrest htail hread
      -- Empty lines leave the header as it is, and the first statement is the header itself.
      cases statement with
      | none =>
        obtain rfl : tail = first :: statements := Option.some.inj hread
        rw [lineStatement?_of_header hline nofun, Option.bind_some]
        dsimp only
        rw [hrest, Option.bind_some]
        dsimp only [Option.map_none, Option.getD_none]
        rw [ih htail]
        rfl
      | some statement =>
        obtain ⟨rfl, rfl⟩ := List.cons.inj (Option.some.inj hread)
        rw [lineStatement?_of_header hline (by rintro s ⟨⟩; exact hfirst), Option.bind_some]
        dsimp only
        rw [hrest, Option.bind_some]
        dsimp only [Option.map_some, Option.getD_some] at htail ⊢
        rw [htail]
        rfl

end

/-! ### Documents of parts -/

/-- A text that is a document by itself. -/
structure Part where
  text : List Char
  statements : List Statement
  entries : Entries
  read : statementsUnder? [] text = some statements
  run : Statement.runAll [] statements = some entries

namespace Part

/-- Keys that follow a part are keys of the outermost table still: no header is in the part. -/
def IsPlain (part : Part) : Prop :=
  Statement.headerAfterAll [] part.statements = []

instance (part : Part) : Decidable part.IsPlain :=
  inferInstanceAs (Decidable (_ = _))

/-- The first statement of a part is a header. -/
def BeginsTable (part : Part) : Prop :=
  ∃ first ∈ part.statements.head?, first.IsHeader

instance (part : Part) : Decidable part.BeginsTable :=
  inferInstanceAs (Decidable (∃ first ∈ _, Statement.IsHeader first))

/-- No key of the outermost table is in both parts. -/
def Apart (first second : Part) : Prop :=
  first.entries.keys.Disjoint second.entries.keys

theorem Apart.symm {first second : Part} (h : first.Apart second) : second.Apart first :=
  fun _ hsecond hfirst => h hfirst hsecond

/-- The part of a text that is a document. -/
def ofText (text : List Char) (h : ((statementsUnder? [] text).bind (Statement.runAll [])).isSome) : Part where
  text := text
  statements := (statementsUnder? [] text).get (Option.isSome_of_isSome_bind h)
  entries := ((statementsUnder? [] text).bind (Statement.runAll [])).get h
  read := (Option.some_get _).symm
  run := by
    rw [Option.some_get]
    exact congrArg (Option.bind · (Statement.runAll [])) (Option.some_get _)

end Part

/-- A text in which texts stand in turn, a line break behind each but the last. -/
inductive Joined : List (List Char) → List Char → Prop
  | nil : Joined [] []
  | last (text : List Char) : Joined [text] text
  | feed {texts : List (List Char)} {more : List Char} (text : List Char) (h : Joined texts more) :
    Joined (text :: texts) (text ++ '\n' :: more)
  | returnFeed {texts : List (List Char)} {more : List Char} (text : List Char) (h : Joined texts more) :
    Joined (text :: texts) (text ++ '\r' :: '\n' :: more)

section
variable {text input : List Char} {texts : List (List Char)} {header : List String}
  {statements statements' : List Statement} {plain tables parts : List Part}

theorem statementsUnder?_cons (hread : statementsUnder? header text = some statements)
    (hmore : ∀ more, Joined texts more →
      statementsUnder? (Statement.headerAfterAll header statements) more = some statements')
    (h : Joined (text :: texts) input) : statementsUnder? header input = some (statements ++ statements') := by
  cases h with
  | last =>
    cases hmore [] .nil
    rw [List.append_nil, hread]
  | feed _ h => exact statementsUnder?_append rfl hread (hmore _ h)
  | returnFeed _ h => exact statementsUnder?_append rfl hread (hmore _ h)

theorem statementsUnder?_tables (htables : ∀ part ∈ tables, part.BeginsTable)
    (h : Joined (tables.map Part.text) input) (header : List String) :
    statementsUnder? header input = some (tables.flatMap Part.statements) := by
  induction tables generalizing header input with
  | nil =>
    cases h
    rfl
  | cons part tables ih =>
    obtain ⟨⟨first, hhead, hfirst⟩, hmore⟩ := List.forall_mem_cons.mp htables
    obtain ⟨rest, hstatements⟩ := List.head?_eq_some_iff.mp hhead
    have hread : statementsUnder? header part.text = some part.statements := by
      rw [hstatements]
      exact statementsWithin_of_header (hstatements ▸ part.read) hfirst header
    exact statementsUnder?_cons hread (fun more h => ih hmore h _) h

theorem statementsUnder?_parts (hplain : ∀ part ∈ plain, part.IsPlain) (htables : ∀ part ∈ tables, part.BeginsTable)
    (h : Joined ((plain ++ tables).map Part.text) input) :
    statementsUnder? [] input = some ((plain ++ tables).flatMap Part.statements) := by
  induction plain generalizing input with
  | nil => exact statementsUnder?_tables htables h []
  | cons part plain ih =>
    obtain ⟨hpart, hmore⟩ := List.forall_mem_cons.mp hplain
    refine statementsUnder?_cons part.read (fun more h => ?_) h
    rw [hpart]
    exact ih hmore h

theorem runAll_parts {front : Entries} (hapart : parts.Pairwise Part.Apart)
    (hfront : ∀ part ∈ parts, front.keys.Disjoint part.entries.keys) :
    Statement.runAll front (parts.flatMap Part.statements) = some (front ++ parts.flatMap Part.entries) := by
  induction parts generalizing front with
  | nil => exact congrArg some (List.append_nil front).symm
  | cons part parts ih =>
    obtain ⟨hpart, hparts⟩ := List.pairwise_cons.mp hapart
    obtain ⟨hfirst, hmore⟩ := List.forall_mem_cons.mp hfront
    rw [List.flatMap_cons, Statement.runAll_append, Statement.runAll_of_disjoint part.run hfirst, Option.bind_some,
      List.flatMap_cons, ← List.append_assoc]
    refine ih hparts fun other hmem => ?_
    rw [Entries.keys, List.map_append, List.disjoint_append_left]
    exact ⟨hmore other hmem, hpart other hmem⟩

/-- No statement begins with a byte order mark. -/
theorem statementsUnder?_mark (header : List String) (rest : List Char) :
    statementsUnder? header ('\ufeff' :: rest) = none := by
  have hspace : skipSpace ('\ufeff' :: rest) = '\ufeff' :: rest := rfl
  have hkey : Toml.key ('\ufeff' :: rest) = none := rfl
  unfold statementsUnder?
  rw [statementsWithin_of_ne (by rw [hspace]; exact List.cons_ne_nil _ _), hspace, lineStatement?_of_key (by decide)]
  unfold keyValue
  rw [hkey]
  rfl

theorem statements?_of_under {text : String} (hmark : text.toList = input ∨ text.toList = '\ufeff' :: input)
    (hread : statementsUnder? [] input = some statements) : statements? text = some statements := by
  unfold statements?
  rcases hmark with heq | heq
  · rw [heq]
    split
    · rw [statementsUnder?_mark] at hread
      cases hread
    · exact hread
  · rw [heq]
    exact hread

/-- A document of parts without headers and then of parts that begin with one, of which no two have a key in common,
    holds the entries of them all. -/
theorem parse_parts {text : String} (hplain : ∀ part ∈ plain, part.IsPlain)
    (htables : ∀ part ∈ tables, part.BeginsTable) (hapart : (plain ++ tables).Pairwise Part.Apart)
    (hmark : text.toList = input ∨ text.toList = '\ufeff' :: input)
    (hjoined : Joined ((plain ++ tables).map Part.text) input) :
    parse text = some ((plain ++ tables).flatMap Part.entries) := by
  rw [parse_eq, statements?_of_under hmark (statementsUnder?_parts hplain htables hjoined), Option.bind_some]
  exact runAll_parts hapart fun part _ => List.disjoint_nil_left _

theorem lookup_parts_eq_some_iff {key : String} {item : Item} (hapart : parts.Pairwise Part.Apart) :
    (parts.flatMap Part.entries).lookup key = some item ↔ ∃ part ∈ parts, part.entries.lookup key = some item := by
  induction parts with
  | nil => simp
  | cons part parts ih =>
    obtain ⟨hpart, hparts⟩ := List.pairwise_cons.mp hapart
    rw [List.flatMap_cons, List.exists_mem_cons_iff, ← ih hparts]
    by_cases hkey : key ∈ part.entries.keys
    · have hnone : (parts.flatMap Part.entries).lookup key ≠ some item := by
        rw [ne_eq, ih hparts]
        rintro ⟨other, hmem, hlookup⟩
        have hother : key ∈ other.entries.keys := by
          by_contra hnot
          rw [Entries.lookup_eq_none_iff_keys.mpr hnot] at hlookup
          cases hlookup
        exact hpart other hmem hkey hother
      obtain ⟨found, hfound⟩ := Option.ne_none_iff_exists'.mp (mt Entries.lookup_eq_none_iff_keys.mp (not_not.mpr hkey))
      rw [List.lookup_append, hfound, Option.some_or, or_iff_left hnone]
    · rw [Entries.lookup_beside hkey, Entries.lookup_eq_none_iff_keys.mpr hkey]
      simp

theorem exists_joined (texts : List (List Char)) : ∃ input, Joined texts input := by
  induction texts with
  | nil => exact ⟨[], .nil⟩
  | cons text texts ih =>
    obtain ⟨more, hmore⟩ := ih
    exact ⟨_, .feed text hmore⟩

end
end ClusterConsole.Toml
