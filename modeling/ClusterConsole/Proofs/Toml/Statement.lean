import Mathlib.Data.List.Basic
import ClusterConsole.Proofs.Toml.Written

/-! # Documents as lists of statements

A document is read in two steps: its text says a list of statements, unless a fault of syntax stands in it, and the
statements put its table together, unless one of them does not go with those before it. -/

namespace ClusterConsole.Toml

/-- What a line of a document states. -/
inductive Statement where
  /-- A key is set, in the table of the header that was read last. -/
  | set (header path : List String) (key : String) (value : Written)
  /-- A table is defined. -/
  | define (path : List String) (key : String)
  /-- A table is added to an array. -/
  | append (path : List String) (key : String)

namespace Statement

/-- The path to the table that a statement puts something into. -/
def table : Statement → List String
  | .set header path _ _ => header ++ path
  | .define path _ => path
  | .append path _ => path

/-- The key that a statement defines in that table. -/
def key : Statement → String
  | .set _ _ key _ => key
  | .define _ key => key
  | .append _ key => key

/-- The header that the keys after a statement belong to. -/
def headerAfter : Statement → List String
  | .set header _ _ _ => header
  | .define path key => path ++ [key]
  | .append path key => path ++ [key]

/-- The entries after a statement. -/
def run (entries : Entries) : Statement → Option Entries
  | .set header path key value => value.item?.bind fun item => entries.setUnder header path key item
  | .define path key => entries.define path key
  | .append path key => entries.append path key

/-- The entries that statements put together. -/
def runAll (entries : Entries) (statements : List Statement) : Option Entries :=
  statements.foldlM run entries

section
variable {entries : Entries} {statement : Statement} {statements more : List Statement}

theorem runAll_singleton : runAll entries [statement] = statement.run entries :=
  Option.bind_fun_some (statement.run entries)

theorem runAll_append : runAll entries (statements ++ more) = (runAll entries statements).bind (runAll · more) :=
  List.foldlM_append

end
end Statement

/-! ### The statements of a text -/

/-- The statement of a header, after its first bracket. -/
def headerStatement? (input : List Char) : Option (Statement × List Char) :=
  match input with
  | '[' :: rest => do
    let (parts, rest) ← Toml.key rest
    let rest ← after? ']' (← after? ']' rest)
    some (.append parts.dropLast (← parts.getLast?), rest)
  | rest => do
    let (parts, rest) ← Toml.key rest
    let rest ← after? ']' rest
    some (.define parts.dropLast (← parts.getLast?), rest)

/-- The statement of a line, if there is one. -/
def lineStatement? (header : List String) (input : List Char) : Option (Option Statement × List Char) :=
  match input with
  | [] | '#' :: _ | '\n' :: _ | '\r' :: _ => some (none, input)
  | '[' :: rest => do
    let (statement, rest) ← headerStatement? rest
    some (some statement, rest)
  | _ => do
    let ((path, key, value), rest) ← keyValue (written? nestingLimit) input
    some (some (.set header path key value), rest)

/-- The statements of the lines after a header. -/
def statementsWithin : Nat → List String → List Char → Option (List Statement)
  | 0, _, _ => none
  | limit + 1, header, input =>
    match skipSpace input with
    | [] => some []
    | rest => do
      let (statement, rest) ← lineStatement? header rest
      let more ← statementsWithin limit ((statement.map Statement.headerAfter).getD header) (← endLine rest)
      some (statement.toList ++ more)

/-- The statements of a text; none when there is a fault of syntax. -/
def statements? (text : String) : Option (List Statement) :=
  let input := match text.toList with
    | '\ufeff' :: rest => rest
    | cs => cs
  statementsWithin (input.length + 1) [] input

theorem header_eq (p : Progress) (input : List Char) : header p input =
    (headerStatement? input).bind fun read =>
      (read.1.run p.entries).bind fun entries => some (⟨entries, read.1.headerAfter⟩, read.2) := by
  have hparts : ∀ {parts : List String} {last : String}, parts.getLast? = some last → parts.dropLast ++ [last] = parts :=
    fun h => List.dropLast_append_getLast? _ h
  unfold header
  split
  · rw [headerStatement?]
    simp only [Option.bind_eq_bind, Option.bind_assoc, Option.bind_some]
    refine Option.bind_congr fun read _ => Option.bind_congr fun _ _ => Option.bind_congr fun _ _ =>
      Option.bind_congr fun last hlast => ?_
    rw [Statement.headerAfter, hparts hlast]
    rfl
  · rename_i h
    rw [headerStatement?.eq_2 _ h]
    simp only [Option.bind_eq_bind, Option.bind_assoc, Option.bind_some]
    refine Option.bind_congr fun read _ => Option.bind_congr fun _ _ => Option.bind_congr fun last hlast => ?_
    rw [Statement.headerAfter, hparts hlast]
    rfl

theorem line_eq (p : Progress) (input : List Char) : line p input =
    (lineStatement? p.header input).bind fun read =>
      (Statement.runAll p.entries read.1.toList).bind fun entries =>
        some (⟨entries, (read.1.map Statement.headerAfter).getD p.header⟩, read.2) := by
  unfold line
  split
  case h_5 =>
    rw [header_eq, lineStatement?]
    simp only [Option.bind_eq_bind, Option.bind_assoc, Option.bind_some, Option.toList_some, Statement.runAll_singleton]
    rfl
  case h_6 =>
    unfold lineStatement?
    split
    case h_6 =>
      rw [(putTogether_item nestingLimit).keyValue]
      simp only [Option.bind_eq_bind, Option.bind_assoc, Option.bind_some, Option.toList_some,
        Statement.runAll_singleton, Statement.run]
      rfl
    all_goals simp_all
  all_goals rfl

theorem linesWithinDocument_eq (limit : Nat) (p : Progress) (input : List Char) : linesWithinDocument limit p input =
    (statementsWithin limit p.header input).bind (Statement.runAll p.entries) := by
  induction limit generalizing p input with
  | zero => rfl
  | succ limit ih =>
    unfold linesWithinDocument statementsWithin
    cases skipSpace input with
    | nil => rfl
    | cons c rest =>
      simp only [line_eq, Option.bind_eq_bind, Option.bind_assoc, Option.bind_some, ih]
      refine Option.bind_congr fun read _ => ?_
      rw [Option.bind_comm]
      refine Option.bind_congr fun rest _ => ?_
      rw [Option.bind_comm]
      refine Option.bind_congr fun more _ => ?_
      exact Statement.runAll_append.symm

theorem parse_eq (text : String) : parse text = (statements? text).bind (Statement.runAll []) :=
  linesWithinDocument_eq _ {} _

/-! ### What a document holds -/

namespace Statement
variable {kept : Item → Prop} {path : List String} {key : String} {entries entries' : Entries}
  {statement first second : Statement} {statements : List Statement}

/-- A statement that begins a new element in an array of tables on the way to a table. -/
def Hides (statement : Statement) (table : List String) : Prop :=
  ∃ path key, statement = .append path key ∧ path ++ [key] <+: table

theorem holds_run (hkept : Entries.Stays kept) (h : Entries.Holds kept path key entries)
    (hides : ¬statement.Hides path) (hrun : statement.run entries = some entries') :
    Entries.Holds kept path key entries' := by
  cases statement with
  | set =>
    obtain ⟨item, -, hrun⟩ := Option.bind_eq_some_iff.mp hrun
    exact h.setUnder hkept hrun
  | define => exact h.define hkept hrun
  | append path key => exact h.append hkept (fun hprefix => hides ⟨path, key, rfl, hprefix⟩) hrun

theorem holds_runAll (hkept : Entries.Stays kept) (h : Entries.Holds kept path key entries)
    (hides : ∀ s ∈ statements, ¬s.Hides path) (hrun : runAll entries statements = some entries') :
    Entries.Holds kept path key entries' := by
  induction statements generalizing entries with
  | nil =>
    cases hrun
    exact h
  | cons statement statements ih =>
    obtain ⟨next, hnext, hrun⟩ := Option.bind_eq_some_iff.mp hrun
    obtain ⟨hfirst, hrest⟩ := List.forall_mem_cons.mp hides
    exact ih (holds_run hkept h hfirst hnext) hrest hrun

theorem isDefined_run (happend : ∀ path key, statement ≠ .append path key)
    (hrun : statement.run entries = some entries') :
    Entries.Holds Item.IsDefined statement.table statement.key entries' := by
  cases statement with
  | set =>
    obtain ⟨item, hitem, hrun⟩ := Option.bind_eq_some_iff.mp hrun
    exact Entries.holds_of_setUnder (Written.fits_of_item? hitem).isValue.isDefined hrun
  | define => exact Entries.holds_of_define (fun _ => rfl) hrun
  | append path key => exact absurd rfl (happend path key)

theorem run_eq_none (h : Entries.Holds Item.IsDefined statement.table statement.key entries) :
    statement.run entries = none := by
  cases statement with
  | set => exact Option.bind_eq_none_iff.mpr fun item _ => Entries.setUnder_eq_none h
  | define => exact Entries.define_eq_none h
  | append => exact Entries.append_eq_none h

/-- Statements that define a key of a table twice: the key is set or the table under it defined, then no array on the
    way gets another element, and then the key is defined once more. -/
def Redefine (statements : List Statement) : Prop :=
  ∃ before first between second after, statements = before ++ first :: between ++ second :: after ∧
    (∀ path key, first ≠ .append path key) ∧ (∀ s ∈ between, ¬s.Hides first.table) ∧
    second.table = first.table ∧ second.key = first.key

theorem runAll_of_redefine (h : Redefine statements) : runAll entries statements = none := by
  obtain ⟨before, first, between, second, after, rfl, happend, hides, htable, hkey⟩ := h
  refine Option.eq_none_iff_forall_ne_some.mpr fun entries' hrun => ?_
  rw [runAll_append] at hrun
  obtain ⟨atSecond, hrunFirst, hrun⟩ := Option.bind_eq_some_iff.mp hrun
  obtain ⟨afterSecond, hsecond, -⟩ := Option.bind_eq_some_iff.mp hrun
  rw [runAll_append] at hrunFirst
  obtain ⟨atFirst, -, hrunFirst⟩ := Option.bind_eq_some_iff.mp hrunFirst
  obtain ⟨afterFirst, hfirst, hbetween⟩ := Option.bind_eq_some_iff.mp hrunFirst
  have hdefined := isDefined_run happend hfirst
  have hkept := holds_runAll Entries.stays_isDefined hdefined hides hbetween
  rw [← htable, ← hkey] at hkept
  cases (run_eq_none hkept).symm.trans hsecond

/-- A key is defined twice: by two statements, or somewhere in a value that is set. -/
inductive DefinesTwice (statements : List Statement) : Prop
  | statements (h : Redefine statements)
  | value {header path : List String} {key : String} {value : Written} (hmem : .set header path key value ∈ statements)
    (h : value.Twice)

theorem runAll_eq_none (hmem : statement ∈ statements) (h : ∀ entries, statement.run entries = none) :
    runAll entries statements = none := by
  obtain ⟨before, after, rfl⟩ := List.append_of_mem hmem
  rw [runAll_append]
  refine Option.bind_eq_none_iff.mpr fun entries _ => Option.bind_eq_none_iff.mpr fun next hnext => ?_
  cases (h entries).symm.trans hnext

theorem runAll_of_definesTwice (h : DefinesTwice statements) : runAll entries statements = none := by
  cases h with
  | statements h => exact runAll_of_redefine h
  | value hmem h =>
    refine runAll_eq_none hmem fun entries => ?_
    rw [run, Written.item?_of_twice h, Option.bind_none]

theorem lookup_of_run {value : Item} (hvalue : value.IsValue) (hrun : statement.run entries = some entries')
    (hitem : entries'.lookup key = some value) :
    entries.lookup key = some value ∨ ∃ written, written.item? = some value ∧ statement = .set [] [] key written := by
  cases statement with
  | set _ _ _ written =>
    obtain ⟨item, hwritten, hrun⟩ := Option.bind_eq_some_iff.mp hrun
    refine (Entries.lookup_of_setUnder hvalue hrun hitem).imp_right ?_
    rintro ⟨rfl, rfl, rfl, rfl⟩
    exact ⟨written, hwritten, rfl⟩
  | define => exact .inl (Entries.lookup_of_define hvalue hrun hitem)
  | append => exact .inl (Entries.lookup_of_append hvalue hrun hitem)

theorem lookup_of_runAll {value : Item} (hvalue : value.IsValue) (hrun : runAll entries statements = some entries')
    (hitem : entries'.lookup key = some value) :
    entries.lookup key = some value ∨ ∃ written, written.item? = some value ∧ .set [] [] key written ∈ statements := by
  induction statements generalizing entries with
  | nil =>
    cases hrun
    exact .inl hitem
  | cons statement statements ih =>
    obtain ⟨next, hnext, hrun⟩ := Option.bind_eq_some_iff.mp hrun
    rcases ih hrun with hlookup | ⟨written, hwritten, hmem⟩
    · rcases lookup_of_run hvalue hnext hlookup with hlookup | ⟨written, hwritten, rfl⟩
      · exact .inl hlookup
      · exact .inr ⟨written, hwritten, List.mem_cons_self⟩
    · exact .inr ⟨written, hwritten, List.mem_cons_of_mem _ hmem⟩

/-- The values in the outermost table are those that are set there, outside any header and without points. -/
theorem lookup_eq_some_iff {value : Item} (hvalue : value.IsValue) (hrun : runAll [] statements = some entries) :
    entries.lookup key = some value ↔ ∃ written, written.item? = some value ∧ .set [] [] key written ∈ statements := by
  constructor
  · exact fun hitem => (lookup_of_runAll hvalue hrun hitem).resolve_left nofun
  · rintro ⟨written, hwritten, hmem⟩
    obtain ⟨before, after, rfl⟩ := List.append_of_mem hmem
    rw [runAll_append] at hrun
    obtain ⟨atSet, -, hrun⟩ := Option.bind_eq_some_iff.mp hrun
    obtain ⟨afterSet, hset, hrun⟩ := Option.bind_eq_some_iff.mp hrun
    rw [run, hwritten, Option.bind_some] at hset
    have hself : (fun item => item = value) value := rfl
    have hides : ∀ s ∈ after, ¬s.Hides [] := by
      rintro s - ⟨path, key, -, hprefix⟩
      simpa using hprefix.length_le
    obtain ⟨item, hitem, rfl⟩ := holds_runAll (Entries.stays_eq hvalue) (Entries.holds_of_setUnder hself hset) hides hrun
    exact hitem

end Statement

theorem fits_of_parse {text : String} {entries : Entries} {key : String} {item : Item} (h : parse text = some entries)
    (hitem : entries.lookup key = some item) (hvalue : item.IsValue) : item.Fits := by
  rw [parse_eq] at h
  obtain ⟨statements, -, hrun⟩ := Option.bind_eq_some_iff.mp h
  obtain ⟨written, hwritten, -⟩ := (Statement.lookup_eq_some_iff hvalue hrun).mp hitem
  exact Written.fits_of_item? hwritten

end ClusterConsole.Toml
