import ClusterConsole.Proofs.Toml.Entries
import ClusterConsole.Toml.Reader

/-! # Items as they are written

An inline table is written as a list of assignments and put together from them in turn. That fails if a key is assigned
twice, however deep in an item the table stands. -/

namespace ClusterConsole.Toml

/-- A value that may stand in a text: if it is a whole number, it fits a word with a sign. -/
def Item.Fits : Item → Prop
  | .table _ _ | .tables _ => False
  | .integer n => -(Word.signedLimit : Int) ≤ n ∧ n < Word.signedLimit
  | _ => True

/-- An item as it is written. -/
inductive Written where
  | scalar (item : Item) (h : item.Fits)
  | array (items : List Written)
  | inline (assignments : List (List String × String × Written))

namespace Written

mutual
/-- The item, if its inline tables can be put together. -/
def item? : Written → Option Item
  | .scalar item _ => some item
  | .array items => (items? items).bind fun items => some (.array items)
  | .inline assignments => (entries? [] assignments).bind fun entries => some (.inline entries)

/-- The items of an array. -/
def items? : List Written → Option (List Item)
  | [] => some []
  | written :: more => written.item?.bind fun item => (items? more).bind fun items => some (item :: items)

/-- The entries after assignments. -/
def entries? (entries : Entries) : List (List String × String × Written) → Option Entries
  | [] => some entries
  | (path, key, written) :: more => written.item?.bind fun item =>
    (entries.set path key item).bind fun entries => entries? entries more
end

end Written

/-! ### Scalars -/

theorem Item.Fits.isValue {item : Item} (h : item.Fits) : item.IsValue := by
  cases item with
  | table => exact h
  | tables => exact h
  | _ => trivial

theorem decimal?_fits {text : List Char} {n : Int} (h : decimal? text = some n) : (Item.integer n).Fits := by
  unfold decimal? at h
  generalize splitSign text = signed at h
  obtain ⟨digits, -, h⟩ := Option.bind_eq_some_iff.mp h
  have hlimit : 0 < Word.signedLimit := by decide
  unfold Item.Fits
  dsimp only at h
  split at h
  · split at h
    · cases h
      omega
    · cases h
  · split at h
    · cases h
      omega
    · cases h

theorem based?_fits {radix : Nat} {text : List Char} {n : Int} (h : based? radix text = some n) :
    (Item.integer n).Fits := by
  unfold based? at h
  obtain ⟨digits, -, h⟩ := Option.bind_eq_some_iff.mp h
  obtain ⟨m, -, h⟩ := Option.bind_eq_some_iff.mp h
  unfold Item.Fits
  split at h
  · cases h
    omega
  · cases h

theorem integer?_fits {text : List Char} {n : Int} (h : integer? text = some n) : (Item.integer n).Fits := by
  unfold integer? at h
  split at h
  · exact based?_fits h
  · exact based?_fits h
  · exact based?_fits h
  · exact decimal?_fits h

theorem scalar?_fits {text : List Char} {x : Item} (h : scalar? text = some x) : x.Fits := by
  unfold scalar? at h
  split at h
  · cases h
    trivial
  · split at h
    · cases h
      trivial
    · split at h
      · rename_i n hn
        cases h
        exact integer?_fits hn
      · split at h
        · cases h
          trivial
        · split at h
          · cases h
            trivial
          · cases h

/-! ### Reading what is written -/

/-- The assignments of an inline table that is not empty, after its brace or a comma. -/
def assignmentsWithin {α : Type} (item : List Char → Option (α × List Char)) :
    Nat → List Char → Option (List (List String × String × α) × List Char)
  | 0, _ => none
  | limit + 1, input => do
    let (assignment, rest) ← keyValue item input
    let next := skipSpace rest
    if next.head? = some ',' then
      let (more, rest) ← assignmentsWithin item limit next.tail
      some (assignment :: more, rest)
    else if next.head? = some '\x7d' then some ([assignment], next.tail)
    else none

/-- The assignments of an inline table, after its brace. -/
def assignments {α : Type} (item : List Char → Option (α × List Char)) (input : List Char) :
    Option (List (List String × String × α) × List Char) :=
  let next := skipSpace input
  if next.head? = some '\x7d' then some ([], next.tail) else assignmentsWithin item (next.length + 1) next

/-- What is written as a scalar. -/
def scalar (text : List Char) : Option Written :=
  (scalar? text).pmap Written.scalar fun _ => scalar?_fits

/-- What is written as an item, at most `levels` levels deep. -/
def written? (levels : Nat) (input : List Char) : Option (Written × List Char) :=
  match input with
  | [] => none
  | c :: rest =>
    if c = '"' ∨ c = '\'' then do
      let (text, rest) ← string? input
      some (.scalar (.string (String.ofList text)) trivial, rest)
    else if c = '[' then
      match levels with
      | 0 => none
      | levels + 1 => do
        let (items, rest) ← arrayWithin (written? levels) (rest.length + 1) rest
        some (.array items, rest)
    else if c = '\x7b' then
      match levels with
      | 0 => none
      | levels + 1 => do
        let (assignments, rest) ← assignments (written? levels) rest
        some (.inline assignments, rest)
    else do
      let (text, rest) := cutScalar input
      some (← scalar text, rest)

theorem eq_cons_of_head? {c : Char} {text : List Char} (h : text.head? = some c) : text = c :: text.tail := by
  cases text with
  | nil => cases h
  | cons d rest => rw [Option.some.inj h, List.tail_cons]

theorem arrayWithin_succ {α : Type} (item : List Char → Option (α × List Char)) (limit : Nat) (input : List Char) :
    arrayWithin item (limit + 1) input = (skipLines false input).bind fun start =>
      if start.head? = some ']' then some ([], start.tail)
      else (item start).bind fun read => (skipLines false read.2).bind fun next =>
        if next.head? = some ',' then
          (arrayWithin item limit next.tail).bind fun more => some (read.1 :: more.1, more.2)
        else if next.head? = some ']' then some ([read.1], next.tail) else none := by
  rw [arrayWithin]
  refine Option.bind_congr fun start _ => ?_
  split
  · rfl
  · rename_i hstart
    rw [if_neg fun h => hstart _ (eq_cons_of_head? h)]
    refine Option.bind_congr fun read _ => Option.bind_congr fun next _ => ?_
    split
    · rfl
    · rfl
    · rename_i hcomma hend
      rw [if_neg fun h => hcomma _ (eq_cons_of_head? h), if_neg fun h => hend _ (eq_cons_of_head? h)]

theorem inlineWithin_succ (item : List Char → Option (Item × List Char)) (limit : Nat) (entries : Entries)
    (input : List Char) : inlineWithin item (limit + 1) entries input = (keyValue item input).bind fun read =>
      (entries.set read.1.1 read.1.2.1 read.1.2.2).bind fun entries =>
        let next := skipSpace read.2
        if next.head? = some ',' then inlineWithin item limit entries next.tail
        else if next.head? = some '\x7d' then some (entries, next.tail) else none := by
  rw [inlineWithin]
  refine Option.bind_congr fun read _ => Option.bind_congr fun entries _ => ?_
  dsimp only
  split
  · rename_i heq
    rw [heq]
    rfl
  · rename_i heq
    rw [heq]
    rfl
  · rename_i hcomma hend
    rw [if_neg fun h => hcomma _ (eq_cons_of_head? h), if_neg fun h => hend _ (eq_cons_of_head? h)]

/-- The items that are read are those that can be put together of what is written. -/
def PutTogether (item : List Char → Option (Item × List Char)) (written : List Char → Option (Written × List Char)) :
    Prop :=
  ∀ input, item input = (written input).bind fun read => read.1.item?.bind fun x => some (x, read.2)

namespace PutTogether
variable {item : List Char → Option (Item × List Char)} {written : List Char → Option (Written × List Char)}

theorem keyValue (h : PutTogether item written) (input : List Char) :
    keyValue item input = (keyValue written input).bind fun read =>
      read.1.2.2.item?.bind fun x => some ((read.1.1, read.1.2.1, x), read.2) := by
  unfold Toml.keyValue
  simp only [Option.bind_eq_bind, Option.bind_assoc, Option.bind_some]
  refine Option.bind_congr fun parts _ => Option.bind_congr fun rest _ => ?_
  rw [h]
  simp only [Option.bind_assoc, Option.bind_some]
  refine Option.bind_congr fun value _ => ?_
  rw [Option.bind_comm]

theorem arrayWithin (h : PutTogether item written) (limit : Nat) (input : List Char) :
    arrayWithin item limit input = (arrayWithin written limit input).bind fun read =>
      (Written.items? read.1).bind fun items => some (items, read.2) := by
  induction limit generalizing input with
  | zero => rfl
  | succ limit ih =>
    rw [arrayWithin_succ, arrayWithin_succ, Option.bind_assoc]
    refine Option.bind_congr fun start _ => ?_
    split
    · rfl
    rw [h]
    simp only [Option.bind_assoc, Option.bind_some]
    refine Option.bind_congr fun read _ => ?_
    rw [Option.bind_comm]
    refine Option.bind_congr fun next _ => ?_
    split
    · simp only [ih, Option.bind_assoc, Option.bind_some, Written.items?]
      rw [Option.bind_comm]
    · split
      · simp only [Option.bind_assoc, Option.bind_some, Written.items?]
      · exact Option.bind_fun_none _

theorem inlineWithin (h : PutTogether item written) (limit : Nat) (entries : Entries) (input : List Char) :
    inlineWithin item limit entries input = (assignmentsWithin written limit input).bind fun read =>
      (Written.entries? entries read.1).bind fun entries => some (entries, read.2) := by
  induction limit generalizing entries input with
  | zero => rfl
  | succ limit ih =>
    rw [inlineWithin_succ, assignmentsWithin, h.keyValue]
    simp only [Option.bind_eq_bind, Option.bind_assoc, Option.bind_some]
    refine Option.bind_congr fun read _ => ?_
    split
    · simp only [ih, Option.bind_assoc, Option.bind_some, Written.entries?]
      symm
      rw [Option.bind_comm]
      refine Option.bind_congr fun x _ => ?_
      rw [Option.bind_comm]
    · split
      · simp only [Option.bind_assoc, Option.bind_some, Written.entries?]
      · simp only [Option.bind_fun_none, Option.bind_none]

end PutTogether

theorem inline_eq {item : List Char → Option (Item × List Char)} {written : List Char → Option (Written × List Char)}
    (h : PutTogether item written) (input : List Char) :
    inline item input = (assignments written input).bind fun read =>
      (Written.entries? [] read.1).bind fun entries => some (entries, read.2) := by
  unfold inline assignments
  dsimp only
  split
  · rename_i hinput
    rw [hinput]
    rfl
  · rename_i hinput
    rw [if_neg fun hhead => hinput _ (eq_cons_of_head? hhead)]
    exact h.inlineWithin _ _ _

theorem scalar?_eq (text : List Char) : scalar? text = (scalar text).bind Written.item? := by
  have hself : ∀ (o : Option Item) (h : ∀ x, o = some x → x.Fits), o = (o.pmap Written.scalar h).bind Written.item? := by
    intro o h
    cases o <;> rfl
  exact hself _ _

/-- Every item that is read is put together of what is written. -/
theorem putTogether_item (levels : Nat) : PutTogether (item levels) (written? levels) := by
  induction levels with
  | zero =>
    intro input
    unfold item written?
    cases input with
    | nil => rfl
    | cons c rest =>
      dsimp only
      split
      · simp only [Option.bind_eq_bind, Option.bind_assoc, Option.bind_some, Written.item?]
      split
      · rfl
      split
      · rfl
      · simp only [Option.bind_eq_bind, Option.bind_assoc, Option.bind_some, scalar?_eq]
  | succ levels ih =>
    intro input
    unfold item written?
    cases input with
    | nil => rfl
    | cons c rest =>
      dsimp only
      split
      · simp only [Option.bind_eq_bind, Option.bind_assoc, Option.bind_some, Written.item?]
      split
      · simp only [Option.bind_eq_bind, Option.bind_assoc, Option.bind_some, Written.item?, ih.arrayWithin]
      split
      · simp only [Option.bind_eq_bind, Option.bind_assoc, Option.bind_some, Written.item?, inline_eq ih]
      · simp only [Option.bind_eq_bind, Option.bind_assoc, Option.bind_some, scalar?_eq]

/-! ### Keys that are assigned twice -/

namespace Written
variable {kept : Item → Prop} {path : List String} {key : String} {written : Written} {items : List Written}
  {entries entries' : Entries} {assignment : List String × String × Written}
  {assignments more : List (List String × String × Written)}

/-- Somewhere in what is written an inline table assigns a key twice. -/
inductive Twice : Written → Prop
  | here {before between after : List (List String × String × Written)} {path : List String} {key : String}
    (first second : Written) : Twice (.inline (before ++ (path, key, first) :: between ++ (path, key, second) :: after))
  | element {items : List Written} {written : Written} (hmem : written ∈ items) (h : Twice written) : Twice (.array items)
  | value {assignments : List (List String × String × Written)} {path : List String} {key : String} {written : Written}
    (hmem : (path, key, written) ∈ assignments) (h : Twice written) : Twice (.inline assignments)

theorem fits_of_item? {item : Item} (h : written.item? = some item) : item.Fits := by
  cases written with
  | scalar item hfits =>
    cases h
    exact hfits
  | array items =>
    obtain ⟨_, -, h⟩ := Option.bind_eq_some_iff.mp h
    cases h
    trivial
  | inline assignments =>
    obtain ⟨_, -, h⟩ := Option.bind_eq_some_iff.mp h
    cases h
    trivial

theorem items?_eq_none (hmem : written ∈ items) (h : written.item? = none) : items? items = none := by
  induction items with
  | nil => cases hmem
  | cons first items ih =>
    rw [items?]
    rcases List.mem_cons.mp hmem with rfl | hmem
    · rw [h, Option.bind_none]
    · rw [ih hmem]
      exact Option.bind_fun_none _

theorem entries?_eq_none (hmem : (path, key, written) ∈ assignments) (h : written.item? = none) :
    entries? entries assignments = none := by
  induction assignments generalizing entries with
  | nil => cases hmem
  | cons first assignments ih =>
    obtain ⟨firstPath, firstKey, firstWritten⟩ := first
    rw [entries?]
    rcases List.mem_cons.mp hmem with heq | hmem
    · cases heq
      rw [h, Option.bind_none]
    · refine Option.bind_eq_none_iff.mpr fun item _ => Option.bind_eq_none_iff.mpr fun entries _ => ih hmem

theorem entries?_append : entries? entries (assignments ++ more) =
    (entries? entries assignments).bind fun entries => entries? entries more := by
  induction assignments generalizing entries with
  | nil => rfl
  | cons first assignments ih =>
    obtain ⟨path, key, written⟩ := first
    rw [List.cons_append, entries?, entries?]
    simp only [Option.bind_assoc, ih]

theorem holds_entries? (hkept : Entries.Stays kept) (h : Entries.Holds kept path key entries)
    (hentries : entries? entries assignments = some entries') : Entries.Holds kept path key entries' := by
  induction assignments generalizing entries with
  | nil =>
    cases hentries
    exact h
  | cons first assignments ih =>
    obtain ⟨firstPath, firstKey, written⟩ := first
    rw [entries?] at hentries
    obtain ⟨item, -, hentries⟩ := Option.bind_eq_some_iff.mp hentries
    obtain ⟨next, hset, hentries⟩ := Option.bind_eq_some_iff.mp hentries
    exact ih (h.set hkept hset) hentries

/-- A key is not assigned where it has been. -/
theorem entries?_of_twice {before between after : List (List String × String × Written)} (first second : Written) :
    entries? entries (before ++ (path, key, first) :: between ++ (path, key, second) :: after) = none := by
  refine Option.eq_none_iff_forall_ne_some.mpr fun entries' h => ?_
  rw [entries?_append] at h
  obtain ⟨atSecond, hfirst, h⟩ := Option.bind_eq_some_iff.mp h
  rw [entries?] at h
  obtain ⟨_, -, h⟩ := Option.bind_eq_some_iff.mp h
  obtain ⟨_, hsecond, -⟩ := Option.bind_eq_some_iff.mp h
  rw [entries?_append] at hfirst
  obtain ⟨atFirst, -, hfirst⟩ := Option.bind_eq_some_iff.mp hfirst
  rw [entries?] at hfirst
  obtain ⟨item, hitem, hfirst⟩ := Option.bind_eq_some_iff.mp hfirst
  obtain ⟨afterFirst, hset, hbetween⟩ := Option.bind_eq_some_iff.mp hfirst
  have hdefined : Entries.Holds Item.IsDefined path key afterFirst :=
    Entries.holds_of_set (fits_of_item? hitem).isValue.isDefined hset
  have hkept := holds_entries? Entries.stays_isDefined hdefined hbetween
  cases (Entries.set_eq_none hkept).symm.trans hsecond

theorem item?_of_twice (h : written.Twice) : written.item? = none := by
  induction h with
  | here first second => rw [item?, entries?_of_twice, Option.bind_none]
  | element hmem _ ih => rw [item?, items?_eq_none hmem ih, Option.bind_none]
  | value hmem _ ih => rw [item?, entries?_eq_none hmem ih, Option.bind_none]

end Written
end ClusterConsole.Toml
