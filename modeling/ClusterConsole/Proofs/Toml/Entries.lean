import ClusterConsole.Toml.Item

/-! # What stays in a table

A key that has been set keeps its value, and a table that was defined under a header stays defined, whatever the lines
after that add. Only a new element of an array of tables hides what stands in the element before it. -/

namespace ClusterConsole.Toml

namespace Item

/-- The table that keys after this item lead into: of an array of tables, its last. -/
def inner? : Item → Option Entries
  | .table _ inner => some inner
  | .tables elements => elements.getLast?
  | _ => none

/-- An item that stands in the text of the document. -/
def IsValue : Item → Prop
  | .table _ _ | .tables _ => False
  | _ => True

/-- An item that must not be defined once more: a value, or a table under a header. -/
def IsDefined : Item → Prop
  | .table origin _ => origin = .header
  | .tables _ => False
  | _ => True

theorem IsValue.isDefined {item : Item} (h : item.IsValue) : item.IsDefined := by
  cases item with
  | table => exact h.elim
  | tables => exact h.elim
  | _ => trivial

end Item

namespace Entries

/-- The table that a path leads to. -/
def at? : List String → Entries → Option Entries
  | [], entries => some entries
  | key :: path, entries => ((entries.lookup key).bind Item.inner?).bind (at? path)

/-- What stands under a key of the table that a path leads to. -/
def find? (path : List String) (key : String) (entries : Entries) : Option Item :=
  (at? path entries).bind (List.lookup key)

section
variable {key other : String} {path more : List String} {item : Item} {entries : Entries}

theorem lookup_put_self : (put key item entries).lookup key = some item := by
  induction entries with
  | nil => simp [put]
  | cons entry rest ih =>
    obtain ⟨k, i⟩ := entry
    unfold put
    split
    · rename_i hk
      simp [hk]
    · rename_i hk
      rw [List.lookup_cons, ih, beq_false_of_ne (Ne.symm hk)]

theorem lookup_put_ne (h : other ≠ key) : (put key item entries).lookup other = entries.lookup other := by
  induction entries with
  | nil => simp [put, h]
  | cons entry rest ih =>
    obtain ⟨k, i⟩ := entry
    unfold put
    split
    · rename_i hk
      subst hk
      simp only [List.lookup_cons, beq_false_of_ne h]
    · simp only [List.lookup_cons, ih]

theorem find?_nil : find? [] key entries = entries.lookup key := rfl

theorem find?_cons :
    find? (other :: path) key entries = ((entries.lookup other).bind Item.inner?).bind (find? path key) := by
  rw [find?, at?, Option.bind_assoc]
  rfl

theorem at?_append : at? (path ++ more) entries = (at? path entries).bind (at? more) := by
  induction path generalizing entries with
  | nil => rfl
  | cons key path ih =>
    simp only [List.cons_append, at?, Option.bind_assoc]
    exact congrArg _ (funext fun item => congrArg _ (funext fun inner => ih))

end

/-! ### Changing the table at a path -/

/-- An item, if there is one, and the item in its place when the table inside has been changed. -/
inductive Entered (made : Origin) : Option Item → Entries → Entries → Item → Prop
  | made (after : Entries) : Entered made none [] after (.table made after)
  | table (origin : Origin) (inner after : Entries) :
    Entered made (some (.table origin inner)) inner after (.table origin after)
  | element {elements : List Entries} {inner : Entries} (hlast : elements.getLast? = some inner) (after : Entries) :
    Entered made (some (.tables elements)) inner after (.tables (elements.dropLast ++ [after]))

namespace Entered
variable {made : Origin} {before : Option Item} {inner after : Entries} {item : Item}

theorem inner?_item (h : Entered made before inner after item) : item.inner? = some after := by
  cases h with
  | made | table => rfl
  | element hlast => exact List.getLast?_concat

theorem inner?_before (h : Entered made before inner after item) :
    before.bind Item.inner? = some inner ∨ before.bind Item.inner? = none ∧ inner = [] := by
  cases h with
  | made => exact .inr ⟨rfl, rfl⟩
  | table => exact .inl rfl
  | element hlast => exact .inl hlast

theorem not_isValue (h : Entered made before inner after item) : ¬item.IsValue := by
  cases h <;> exact id

end Entered

section
variable {made : Origin} {enter : Origin → Bool} {edit : Origin → Entries → Option Entries} {origin : Origin}
  {key : String} {path : List String} {entries entries' : Entries}

theorem change_cons (h : change made enter edit (key :: path) origin entries = some entries') :
    ∃ inwards inner after item, Entered made (entries.lookup key) inner after item ∧
      change made enter edit path inwards inner = some after ∧ entries' = put key item entries := by
  unfold change at h
  split at h
  · rename_i hlookup
    obtain ⟨after, hafter, h⟩ := Option.bind_eq_some_iff.mp h
    exact ⟨made, [], after, _, hlookup ▸ .made after, hafter, (Option.some.inj h).symm⟩
  · rename_i o inner hlookup
    split at h
    · obtain ⟨after, hafter, h⟩ := Option.bind_eq_some_iff.mp h
      exact ⟨o, inner, after, _, hlookup ▸ .table o inner after, hafter, (Option.some.inj h).symm⟩
    · cases h
  · rename_i elements hlookup
    obtain ⟨inner, hlast, h⟩ := Option.bind_eq_some_iff.mp h
    obtain ⟨after, hafter, h⟩ := Option.bind_eq_some_iff.mp h
    exact ⟨.header, inner, after, _, hlookup ▸ .element hlast after, hafter, (Option.some.inj h).symm⟩
  · cases h

/-- A change edits the table at its path, or an empty one if there is none. -/
theorem exists_edit_of_change (h : change made enter edit path origin entries = some entries') :
    ∃ o inner after, edit o inner = some after ∧ at? path entries' = some after ∧
      (at? path entries = some inner ∨ at? path entries = none ∧ inner = []) := by
  induction path generalizing origin entries entries' with
  | nil => exact ⟨origin, entries, entries', h, rfl, .inl rfl⟩
  | cons key path ih =>
    obtain ⟨inwards, inner, after, item, hentered, hchange, rfl⟩ := change_cons h
    obtain ⟨o, table, table', hedit, hafter, hbefore⟩ := ih hchange
    refine ⟨o, table, table', hedit, ?_, ?_⟩
    · rw [at?, lookup_put_self, Option.bind_some, hentered.inner?_item, Option.bind_some, hafter]
    · rw [at?]
      rcases hentered.inner?_before with hinner | ⟨hnone, rfl⟩
      · rw [hinner]
        exact hbefore
      · rw [hnone]
        refine .inr ⟨rfl, ?_⟩
        cases path with
        | nil =>
          rcases hbefore with hbefore | hbefore
          · exact (Option.some.inj hbefore).symm
          · cases hbefore.1
        | cons k path =>
          rcases hbefore with hbefore | hbefore
          · cases hbefore
          · exact hbefore.2

end

/-! ### Conditions that stay -/

/-- A condition on items that what is added inside them does not undo. -/
structure Stays (kept : Item → Prop) : Prop where
  table {origin : Origin} {inner : Entries} : kept (.table origin inner) →
    origin = .header ∧ ∀ after, kept (.table .header after)
  tables {elements : List Entries} : ¬kept (.tables elements)

theorem stays_isDefined : Stays Item.IsDefined where
  table h := ⟨h, fun _ => rfl⟩
  tables := id

theorem stays_eq {value : Item} (h : value.IsValue) : Stays (· = value) where
  table heq := (heq ▸ h : Item.IsValue (.table _ _)).elim
  tables heq := (heq ▸ h : Item.IsValue (.tables _)).elim

/-- An item of a condition stands under a key of the table that a path leads to. -/
def Holds (kept : Item → Prop) (table : List String) (key : String) (entries : Entries) : Prop :=
  ∃ item, find? table key entries = some item ∧ kept item

section
variable {kept : Item → Prop} {table path header : List String} {key other : String} {value : Item}
  {entries entries' : Entries}

theorem Entered.stays (hkept : Stays kept) {made : Origin} {before after : Item} {inner inner' : Entries}
    (h : Entered made (some before) inner inner' after) (hbefore : kept before) : kept after := by
  cases h with
  | table =>
    obtain ⟨rfl, hfilled⟩ := hkept.table hbefore
    exact hfilled inner'
  | element hlast => exact (hkept.tables hbefore).elim

namespace Holds

/-- What is under the first key on the way to an item: the item, or what it stands in. -/
theorem first_cases (h : Holds kept table key entries) :
    table = [] ∧ (∃ item, entries.lookup key = some item ∧ kept item) ∨
      ∃ first more item inner, table = first :: more ∧ entries.lookup first = some item ∧ item.inner? = some inner ∧
        Holds kept more key inner := by
  obtain ⟨found, hfound, hkeeps⟩ := h
  cases table with
  | nil => exact .inl ⟨rfl, found, hfound, hkeeps⟩
  | cons first more =>
    rw [find?_cons] at hfound
    obtain ⟨inner, hinner, hfound⟩ := Option.bind_eq_some_iff.mp hfound
    obtain ⟨item, hitem, hinner⟩ := Option.bind_eq_some_iff.mp hinner
    exact .inr ⟨first, more, item, inner, rfl, hitem, hinner, found, hfound, hkeeps⟩

theorem of_lookup {item : Item} (hitem : entries.lookup key = some item) (hkeeps : kept item) :
    Holds kept [] key entries :=
  ⟨item, hitem, hkeeps⟩

theorem of_inner {item : Item} {inner : Entries} (hitem : entries.lookup other = some item)
    (hinner : item.inner? = some inner) (h : Holds kept table key inner) : Holds kept (other :: table) key entries := by
  obtain ⟨found, hfound, hkeeps⟩ := h
  exact ⟨found, by rw [find?_cons, hitem, Option.bind_some, hinner, Option.bind_some, hfound], hkeeps⟩

/-- What is put under a key leaves alone what is not under that key, and keeps what is if the table inside does. -/
theorem put (h : Holds kept table key entries)
    (hkeeps : ∀ before, entries.lookup other = some before → kept before → kept value)
    (hinside : ∀ before inner more, entries.lookup other = some before → before.inner? = some inner →
      table = other :: more → Holds kept more key inner →
        ∃ after, value.inner? = some after ∧ Holds kept more key after) :
    Holds kept table key (put other value entries) := by
  rcases h.first_cases with ⟨rfl, item, hitem, hkept⟩ | ⟨first, more, item, inner, rfl, hitem, hinner, hmore⟩
  · by_cases hkey : key = other
    · subst hkey
      exact of_lookup lookup_put_self (hkeeps item hitem hkept)
    · exact of_lookup ((lookup_put_ne hkey).trans hitem) hkept
  · by_cases hkey : first = other
    · subst hkey
      obtain ⟨after, hafter, hmore'⟩ := hinside item inner more hitem hinner rfl hmore
      exact of_inner lookup_put_self hafter hmore'
    · exact of_inner ((lookup_put_ne hkey).trans hitem) hinner hmore

theorem put_new (h : Holds kept table key entries) (hnew : entries.lookup other = none) :
    Holds kept table key (Entries.put other value entries) :=
  h.put (fun _ hitem => nomatch hnew.symm.trans hitem) fun _ _ _ hitem => nomatch hnew.symm.trans hitem

theorem change (hkept : Stays kept) {made : Origin} {enter : Origin → Bool}
    {edit : Origin → Entries → Option Entries} {origin : Origin}
    (hedit : ∀ more o inner after, table = path ++ more → edit o inner = some after →
      Holds kept more key inner → Holds kept more key after)
    (h : Holds kept table key entries) (hchange : change made enter edit path origin entries = some entries') :
    Holds kept table key entries' := by
  induction path generalizing table origin entries entries' with
  | nil => exact hedit table origin entries entries' rfl hchange h
  | cons first path ih =>
    obtain ⟨inwards, inner, after, item, hentered, hinner, rfl⟩ := change_cons hchange
    refine h.put (fun before hbefore => (hbefore ▸ hentered).stays hkept) ?_
    rintro before inner' more hbefore hinner' rfl hmore
    obtain rfl : inner' = inner := by
      rcases hentered.inner?_before with hsome | ⟨hnone, -⟩
      · rw [hbefore] at hsome
        exact Option.some.inj (hinner'.symm.trans hsome)
      · rw [hbefore] at hnone
        cases hinner'.symm.trans hnone
    exact ⟨after, hentered.inner?_item,
      ih (fun rest o i a heq => hedit rest o i a (congrArg (first :: ·) heq)) hmore hinner⟩

theorem set (hkept : Stays kept) (h : Holds kept table key entries)
    (hset : set path other value entries = some entries') : Holds kept table key entries' := by
  refine h.change hkept (fun more o inner after _ hedit hmore => ?_) hset
  split at hedit
  · cases hedit
  · split at hedit
    · cases hedit
    · rename_i hfree
      obtain rfl := Option.some.inj hedit
      exact hmore.put_new (Option.not_isSome_iff_eq_none.mp hfree)

theorem setUnder (hkept : Stays kept) (h : Holds kept table key entries)
    (hset : setUnder header path other value entries = some entries') : Holds kept table key entries' :=
  h.change hkept (fun _ _ _ _ _ hedit hmore => hmore.set hkept hedit) hset

theorem define (hkept : Stays kept) (h : Holds kept table key entries)
    (hdefine : define path other entries = some entries') : Holds kept table key entries' := by
  refine h.change hkept (fun more o inner after _ hedit hmore => ?_) hdefine
  split at hedit
  · rename_i hnew
    obtain rfl := Option.some.inj hedit
    exact hmore.put_new hnew
  · rename_i around haround
    obtain rfl := Option.some.inj hedit
    refine hmore.put (fun before hbefore hkeeps => ?_) fun before inside rest hbefore hinside _ hrest => ?_
    · cases haround.symm.trans hbefore
      cases (hkept.table hkeeps).1
    · cases haround.symm.trans hbefore
      obtain rfl := Option.some.inj hinside
      exact ⟨around, rfl, hrest⟩
  · cases hedit

/-- A new element hides what stands in the one before it, and nothing else. -/
theorem append (hkept : Stays kept) (h : Holds kept table key entries) (hpath : ¬path ++ [other] <+: table)
    (happend : append path other entries = some entries') : Holds kept table key entries' := by
  refine h.change hkept (fun more o inner after htable hedit hmore => ?_) happend
  split at hedit
  · rename_i hnew
    obtain rfl := Option.some.inj hedit
    exact hmore.put_new hnew
  · rename_i elements helements
    obtain rfl := Option.some.inj hedit
    refine hmore.put (fun before hbefore hkeeps => ?_) fun before inside rest hbefore hinside hrest _ => ?_
    · cases helements.symm.trans hbefore
      exact (hkept.tables hkeeps).elim
    · refine absurd ⟨rest, ?_⟩ hpath
      rw [htable, hrest, List.append_assoc]
      rfl
  · cases hedit

end Holds
end

/-! ### Defining a key -/

section
variable {kept : Item → Prop} {path header : List String} {key other : String} {value item : Item}
  {entries entries' : Entries}

theorem holds_of_at? {table : Entries} (h : at? path entries = some table) (hitem : table.lookup key = some item)
    (hkeeps : kept item) : Holds kept path key entries :=
  ⟨item, by rw [find?, h, Option.bind_some, hitem], hkeeps⟩

theorem holds_of_set (hkeeps : kept value) (hset : set path key value entries = some entries') :
    Holds kept path key entries' := by
  obtain ⟨_, _, after, hedit, hat, -⟩ := exists_edit_of_change hset
  split at hedit
  · cases hedit
  · split at hedit
    · cases hedit
    · obtain rfl := Option.some.inj hedit
      exact holds_of_at? hat lookup_put_self hkeeps

theorem holds_of_setUnder (hkeeps : kept value) (hset : setUnder header path key value entries = some entries') :
    Holds kept (header ++ path) key entries' := by
  obtain ⟨_, _, under, hunder, hheader, -⟩ := exists_edit_of_change hset
  obtain ⟨item, hitem, hkept⟩ := holds_of_set hkeeps hunder
  exact ⟨item, by rw [find?, at?_append, hheader, Option.bind_some, ← find?, hitem], hkept⟩

theorem holds_of_define (hkeeps : ∀ inner, kept (.table .header inner))
    (hdefine : define path key entries = some entries') : Holds kept path key entries' := by
  obtain ⟨_, _, after, hedit, hat, -⟩ := exists_edit_of_change hdefine
  split at hedit
  · obtain rfl := Option.some.inj hedit
    exact holds_of_at? hat lookup_put_self (hkeeps [])
  · rename_i inner _
    obtain rfl := Option.some.inj hedit
    exact holds_of_at? hat lookup_put_self (hkeeps inner)
  · cases hedit

/-- A change brings a value to a key of the outermost table only if that is the table it edits. -/
theorem lookup_of_change {made : Origin} {enter : Origin → Bool} {edit : Origin → Entries → Option Entries}
    {origin : Origin} (hvalue : item.IsValue) (hchange : change made enter edit path origin entries = some entries')
    (hitem : entries'.lookup key = some item) : entries.lookup key = some item ∨ path = [] := by
  cases path with
  | nil => exact .inr rfl
  | cons first path =>
    obtain ⟨_, _, _, after, hentered, -, rfl⟩ := change_cons hchange
    by_cases hkey : key = first
    · subst hkey
      cases lookup_put_self.symm.trans hitem
      exact absurd hvalue hentered.not_isValue
    · exact .inl ((lookup_put_ne hkey).symm.trans hitem)

theorem lookup_put_cases (hitem : (put other value entries).lookup key = some item) :
    entries.lookup key = some item ∨ key = other ∧ item = value := by
  by_cases hkey : key = other
  · subst hkey
    exact .inr ⟨rfl, (Option.some.inj (lookup_put_self.symm.trans hitem)).symm⟩
  · exact .inl ((lookup_put_ne hkey).symm.trans hitem)

theorem lookup_of_set (hvalue : item.IsValue) (hset : set path other value entries = some entries')
    (hitem : entries'.lookup key = some item) :
    entries.lookup key = some item ∨ path = [] ∧ key = other ∧ item = value := by
  rcases lookup_of_change hvalue hset hitem with h | rfl
  · exact .inl h
  · rw [set, change] at hset
    split at hset
    · cases hset
    · split at hset
      · cases hset
      · obtain rfl := Option.some.inj hset
        exact (lookup_put_cases hitem).imp_right fun h => ⟨rfl, h⟩

theorem lookup_of_setUnder (hvalue : item.IsValue) (hset : setUnder header path other value entries = some entries')
    (hitem : entries'.lookup key = some item) :
    entries.lookup key = some item ∨ header = [] ∧ path = [] ∧ key = other ∧ item = value := by
  cases header with
  | nil => exact (lookup_of_set hvalue hset hitem).imp_right fun h => ⟨rfl, h⟩
  | cons first header => exact .inl ((lookup_of_change hvalue hset hitem).resolve_right nofun)

theorem lookup_of_put_table {table : Item} (hvalue : item.IsValue) (htable : ¬table.IsValue)
    (hitem : (put other table entries).lookup key = some item) : entries.lookup key = some item := by
  rcases lookup_put_cases hitem with h | ⟨-, rfl⟩
  · exact h
  · exact absurd hvalue htable

theorem lookup_of_define (hvalue : item.IsValue) (hdefine : define path other entries = some entries')
    (hitem : entries'.lookup key = some item) : entries.lookup key = some item := by
  rcases lookup_of_change hvalue hdefine hitem with h | rfl
  · exact h
  · rw [define, change] at hdefine
    split at hdefine
    · obtain rfl := Option.some.inj hdefine
      exact lookup_of_put_table hvalue id hitem
    · obtain rfl := Option.some.inj hdefine
      exact lookup_of_put_table hvalue id hitem
    · cases hdefine

theorem lookup_of_append (hvalue : item.IsValue) (happend : append path other entries = some entries')
    (hitem : entries'.lookup key = some item) : entries.lookup key = some item := by
  rcases lookup_of_change hvalue happend hitem with h | rfl
  · exact h
  · rw [append, change] at happend
    split at happend
    · obtain rfl := Option.some.inj happend
      exact lookup_of_put_table hvalue id hitem
    · obtain rfl := Option.some.inj happend
      exact lookup_of_put_table hvalue id hitem
    · cases happend

end

/-! ### Defining a key once more -/

section
variable {path header : List String} {key : String} {value : Item} {entries : Entries}

/-- A change at the table of a defined key meets that key. -/
theorem exists_edit_of_holds {kept : Item → Prop} {made : Origin} {enter : Origin → Bool}
    {edit : Origin → Entries → Option Entries} {origin : Origin} {entries' : Entries} {more : List String}
    (h : Holds kept (path ++ more) key entries) (hchange : change made enter edit path origin entries = some entries') :
    ∃ o inner after, edit o inner = some after ∧ Holds kept more key inner := by
  obtain ⟨o, inner, after, hedit, -, hbefore⟩ := exists_edit_of_change hchange
  obtain ⟨item, hitem, hkeeps⟩ := h
  rw [find?, at?_append] at hitem
  rcases hbefore with hbefore | ⟨hbefore, -⟩
  · rw [hbefore] at hitem
    exact ⟨o, inner, after, hedit, item, hitem, hkeeps⟩
  · rw [hbefore] at hitem
    cases hitem

theorem set_eq_none {kept : Item → Prop} (h : Holds kept path key entries) : set path key value entries = none := by
  refine Option.eq_none_iff_forall_ne_some.mpr fun entries' hset => ?_
  obtain ⟨o, inner, after, hedit, item, hitem, -⟩ := exists_edit_of_holds (path.append_nil.symm ▸ h) hset
  rw [find?_nil] at hitem
  simp only [hitem, Option.isSome_some, if_true, ite_self] at hedit
  cases hedit

theorem setUnder_eq_none {kept : Item → Prop} (h : Holds kept (header ++ path) key entries) :
    setUnder header path key value entries = none := by
  refine Option.eq_none_iff_forall_ne_some.mpr fun entries' hset => ?_
  obtain ⟨o, inner, after, hedit, hinner⟩ := exists_edit_of_holds h hset
  cases (set_eq_none hinner).symm.trans hedit

theorem define_eq_none (h : Holds Item.IsDefined path key entries) : define path key entries = none := by
  refine Option.eq_none_iff_forall_ne_some.mpr fun entries' hdefine => ?_
  obtain ⟨o, inner, after, hedit, item, hitem, hdefined⟩ := exists_edit_of_holds (path.append_nil.symm ▸ h) hdefine
  rw [find?_nil] at hitem
  rw [hitem] at hedit
  cases item with
  | table origin inside =>
    obtain rfl : origin = .header := hdefined
    cases hedit
  | _ => cases hedit

theorem append_eq_none (h : Holds Item.IsDefined path key entries) : append path key entries = none := by
  refine Option.eq_none_iff_forall_ne_some.mpr fun entries' happend => ?_
  obtain ⟨o, inner, after, hedit, item, hitem, hdefined⟩ := exists_edit_of_holds (path.append_nil.symm ▸ h) happend
  rw [find?_nil] at hitem
  rw [hitem] at hedit
  cases item with
  | tables elements => exact hdefined
  | _ => cases hedit

end
end Entries
end ClusterConsole.Toml
