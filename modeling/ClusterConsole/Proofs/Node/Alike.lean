import Mathlib.Data.List.Nodup
import ClusterConsole.Proofs.Node.Tree

/-! # Objects that tell the same

Of the members of an object only those count that have one of the keys of a record, and of those only what each key
tells: what its value gives if it is there once, and the default if it is not there. So the order of the members, members
of other keys, the order of the metadata and defaults that are written out make no difference. -/

namespace ClusterConsole
open Json

/-! ### Metadata -/

namespace Metadata

theorem insertEntry_comm {a b : String} (h : a ≠ b) (v w : String) (entries : List (String × String)) :
    insertEntry a v (insertEntry b w entries) = insertEntry b w (insertEntry a v entries) := by
  have htrans : ∀ x y z : String, x < y → y < z → x < z := fun _ _ _ => String.lt_trans
  have hirrefl : ∀ x : String, ¬x < x := String.lt_irrefl
  have htotal : ∀ x y : String, ¬x < y → ¬y < x → x = y :=
    fun x y h h' => String.le_antisymm (String.not_lt.1 h') (String.not_lt.1 h)
  induction entries with
  | nil => grind [insertEntry]
  | cons head rest ih => grind [insertEntry]

/-- Entries of different names are inserted in either order. -/
theorem insert_comm {a b : String} (h : a ≠ b) (m : Metadata) (v w : String) :
    (m.insert b w).insert a v = (m.insert a v).insert b w := by
  rw [insert, mk.injEq]
  exact insertEntry_comm h v w m.entries

/-- The metadata with the entry that a member is. -/
def addMember? (m : Metadata) (e : Member Tree) : Option Metadata :=
  e.name?.bind fun name => m.add? name e.value

theorem addMember?_comm {e e' : Member Tree} (h : e.name? ≠ e'.name?) (m : Metadata) :
    (m.addMember? e).bind (addMember? · e') = (m.addMember? e').bind (addMember? · e) := by
  unfold addMember? add?
  cases hname : e.name? with
  | none => cases e'.name? <;> cases e'.value.string? <;> rfl
  | some a =>
    cases hname' : e'.name? with
    | none => cases e.value.string? <;> rfl
    | some b =>
      have hne : a ≠ b := fun heq => h (by rw [hname, hname', heq])
      cases e.value.string? with
      | none => cases e'.value.string? <;> rfl
      | some v =>
        cases e'.value.string? with
        | none => rfl
        | some w => exact congrArg some (insert_comm hne m v w).symm

theorem addMembers?_eq_foldl (m : Option Metadata) (es : List (Member Tree)) :
    m.bind (addMembers? add? · es) = es.foldl (fun m e => m.bind (addMember? · e)) m := by
  induction es generalizing m with
  | nil => cases m <;> rfl
  | cons e es ih =>
    rw [List.foldl_cons, ← ih]
    cases m with
    | none => rfl
    | some m => rfl

/-- Of entries with different names the order makes no difference. -/
theorem ofTree?_perm {es es' : List (Member Tree)} (h : es.Perm es') (hnames : (es.map Member.name?).Nodup)
    (inner inner' : Gap) : ofTree? (.object inner es) = ofTree? (.object inner' es') := by
  have hcomm : ∀ e ∈ es, ∀ e' ∈ es, ∀ m : Option Metadata, (m.bind (addMember? · e)).bind (addMember? · e') =
      (m.bind (addMember? · e')).bind (addMember? · e) := by
    intro e he e' he' m
    cases m with
    | none => rfl
    | some m =>
      by_cases hname : e.name? = e'.name?
      · rw [List.inj_on_of_nodup_map hnames he he' hname]
      · exact addMember?_comm hname m
  have hfold := h.foldl_eq' (f := fun m e => m.bind (addMember? · e)) hcomm (some empty)
  rw [← addMembers?_eq_foldl, ← addMembers?_eq_foldl] at hfold
  exact hfold

end Metadata

/-! ### Keys -/

namespace NodeRecord

/-- The values under a key. -/
def under (key : String) (ms : List (Member Tree)) : List Tree :=
  ms.filterMap fun m => if m.name? = some key then some m.value else none

theorem under_cons (key : String) (m : Member Tree) (ms : List (Member Tree)) :
    under key (m :: ms) = if m.name? = some key then m.value :: under key ms else under key ms := by
  unfold under
  split
  · rename_i h
    rw [List.filterMap_cons_some (by rw [if_pos h])]
  · rename_i h
    rw [List.filterMap_cons_none (by rw [if_neg h])]

section
variable {α : Type}

/-- What a key tells if `sofar` has been read of it: the default if there is no value at all, what the value gives if
there is one, and nothing if there are more. -/
def keyTells (value? : Tree → Option α) (default? : Option α) : Option α → List Tree → Option α
  | none, [] => default?
  | some x, [] => some x
  | none, [t] => value? t
  | _, _ => none

theorem keyTells_cons (value? : Tree → Option α) (default? sofar : Option α) (t : Tree) (ts : List Tree) :
    keyTells value? default? sofar (t :: ts) =
      (once? sofar (value? t)).bind fun x => keyTells value? default? (some x) ts := by
  cases sofar with
  | some x => cases ts <;> rfl
  | none =>
    cases ts with
    | nil => cases hvalue : value? t <;> exact hvalue
    | cons t' ts =>
      show none = (value? t).bind fun x => none
      cases value? t <;> rfl

theorem keyTells_perm {value? : Tree → Option α} {default? : Option α} {ts ts' : List Tree} (h : ts.Perm ts') :
    keyTells value? default? none ts = keyTells value? default? none ts' := by
  match ts with
  | [] => rw [List.nil_perm.mp h]
  | [t] => rw [List.singleton_perm.mp h]
  | t :: u :: more =>
    match ts', h.length_eq with
    | t' :: u' :: more', _ => rfl

theorem keyTells_of_twice (value? : Tree → Option α) (default? : Option α) {ts : List Tree} (h : 2 ≤ ts.length) :
    keyTells value? default? none ts = none := by
  match ts, h with
  | t :: u :: more, _ => rfl

end

/-! ### What an object tells -/

/-- What an object tells of a record, key by key. -/
structure Told where
  /-- All names are strings. -/
  named : Bool
  id : Option NodeId
  service : Option String
  locality : Option String
  created : Option (Option Instant)
  revision : Option (Option String)
  metadata : Option Metadata

/-- The record that is told if every key tells something. -/
def Told.record? (t : Told) : Option NodeRecord :=
  if t.named then do
    some {
      id := ← t.id
      service := ← t.service
      locality := ← t.locality
      created := ← t.created
      revision := ← t.revision
      metadata := ← t.metadata }
  else none

/-- What the members that are still to come tell together with those that have been read. -/
def toldFrom (d : Draft) (ms : List (Member Tree)) : Told where
  named := ms.all (·.name?.isSome)
  id := keyTells NodeId.ofTree? none d.id (under "id" ms)
  service := keyTells Tree.string? (some "") d.service (under "service" ms)
  locality := keyTells Tree.string? (some "") d.locality (under "locality" ms)
  created := keyTells (Tree.optional? Instant.ofTree?) (some none) d.created (under "created" ms)
  revision := keyTells (Tree.optional? Tree.string?) (some none) d.revision (under "revision" ms)
  metadata := keyTells Metadata.ofTree? (some .empty) d.metadata (under "metadata" ms)

/-- What the members of an object tell. -/
def told (ms : List (Member Tree)) : Told :=
  toldFrom {} ms

theorem finish?_eq (d : Draft) : d.finish? = (toldFrom d []).record? := by
  obtain ⟨id, service, locality, created, revision, metadata⟩ := d
  cases id <;> cases service <;> cases locality <;> cases created <;> cases revision <;> cases metadata <;> rfl

/-- A member is read as what it adds to what is told. -/
theorem add?_bind (d : Draft) {m : Member Tree} {name : String} (hname : m.name? = some name) (ms : List (Member Tree)) :
    ((d.add? name m.value).bind fun mid => (toldFrom mid ms).record?) = (toldFrom d (m :: ms)).record? := by
  -- One key after another: a member adds to what is told under its own and to nothing else.
  unfold Draft.add?
  split
  · subst name
    cases hread : once? d.id (NodeId.ofTree? m.value) <;>
      simp [toldFrom, under_cons, hname, keyTells_cons, Told.record?, hread]
  split
  · subst name
    cases hread : once? d.service m.value.string? <;>
      simp [toldFrom, under_cons, hname, keyTells_cons, Told.record?, hread]
  split
  · subst name
    cases hread : once? d.locality m.value.string? <;>
      simp [toldFrom, under_cons, hname, keyTells_cons, Told.record?, hread]
  split
  · subst name
    cases hread : once? d.created (m.value.optional? Instant.ofTree?) <;>
      simp [toldFrom, under_cons, hname, keyTells_cons, Told.record?, hread]
  split
  · subst name
    cases hread : once? d.revision (m.value.optional? Tree.string?) <;>
      simp [toldFrom, under_cons, hname, keyTells_cons, Told.record?, hread]
  split
  · subst name
    cases hread : once? d.metadata (Metadata.ofTree? m.value) <;>
      simp [toldFrom, under_cons, hname, keyTells_cons, Told.record?, hread]
  · rename_i hid hservice hlocality hcreated hrevision hmetadata
    simp [toldFrom, under_cons, hname, hid, hservice, hlocality, hcreated, hrevision, hmetadata]

theorem addMembers?_finish (d : Draft) (ms : List (Member Tree)) :
    ((addMembers? Draft.add? d ms).bind Draft.finish?) = (toldFrom d ms).record? := by
  induction ms generalizing d with
  | nil => exact finish?_eq d
  | cons m ms ih =>
    rw [addMembers?, List.foldlM_cons]
    cases hname : m.name? with
    | none =>
      have hnot : (toldFrom d (m :: ms)).named = false := by
        show (m :: ms).all (·.name?.isSome) = false
        rw [List.all_cons, hname]
        rfl
      rw [Told.record?, hnot]
      rfl
    | some name =>
      rw [← add?_bind d hname]
      show ((d.add? name m.value).bind fun mid => addMembers? Draft.add? mid ms).bind Draft.finish? = _
      rw [Option.bind_assoc]
      exact Option.bind_congr fun mid _ => ih mid

/-- A record is read from an object as what the object tells. -/
theorem ofMembers?_eq (ms : List (Member Tree)) : ofMembers? ms = (told ms).record? :=
  addMembers?_finish {} ms

/-! ### Rearranging -/

/-- The keys of a record. -/
def keys : List String :=
  ["id", "service", "locality", "created", "revision", "metadata"]

/-- A value under a key that tells no more than no value at all. -/
inductive IsDefault : String → Tree → Prop where
  | service : IsDefault "service" (.string [])
  | locality : IsDefault "locality" (.string [])
  | created : IsDefault "created" .null
  | revision : IsDefault "revision" .null
  | metadata (inner : Gap) : IsDefault "metadata" (.object inner [])

/-- The members of two objects that should tell the same of a record. -/
inductive Alike : List (Member Tree) → List (Member Tree) → Prop where
  /-- The members are permuted. -/
  | permuted {ms ms' : List (Member Tree)} (h : ms.Perm ms') : Alike ms ms'
  /-- The blanks among the members are others, or the names are spelled in another way. -/
  | respaced {ms ms' : List (Member Tree)} (h : ms.Forall₂ (fun m m' => m.name? = m'.name? ∧ m.value = m'.value) ms') :
    Alike ms ms'
  /-- A member of any other key is inserted. -/
  | unknown {m : Member Tree} {key : String} (hname : m.name? = some key) (hkey : key ∉ keys)
      (ms : List (Member Tree)) : Alike ms (m :: ms)
  /-- The metadata are permuted. -/
  | metadata {m m' : Member Tree} {inner inner' : Gap} {es es' : List (Member Tree)} (hname : m.name? = some "metadata")
      (hname' : m'.name? = some "metadata") (hvalue : m.value = .object inner es)
      (hvalue' : m'.value = .object inner' es') (hperm : es.Perm es') (hdistinct : (es.map Member.name?).Nodup)
      (ms : List (Member Tree)) :
    Alike (m :: ms) (m' :: ms)
  /-- A default that was omitted is written out. -/
  | default {m : Member Tree} {key : String} {ms : List (Member Tree)} (hname : m.name? = some key)
      (hvalue : IsDefault key m.value) (habsent : ∀ m' ∈ ms, m'.name? ≠ some key) : Alike ms (m :: ms)
  | symm {ms ms' : List (Member Tree)} (h : Alike ms ms') : Alike ms' ms
  | trans {ms ms' ms'' : List (Member Tree)} (h : Alike ms ms') (h' : Alike ms' ms'') : Alike ms ms''

section
variable {ms ms' : List (Member Tree)}

/-- Objects tell the same if all names are strings in both or in neither, and under each key stand the same values but
for their order. -/
theorem told_eq_of_perm (hnamed : ms.all (·.name?.isSome) = ms'.all (·.name?.isSome))
    (hunder : ∀ key ∈ keys, (under key ms).Perm (under key ms')) : told ms = told ms' := by
  simp only [told, toldFrom, Told.mk.injEq]
  exact ⟨hnamed, keyTells_perm (hunder "id" (by decide)), keyTells_perm (hunder "service" (by decide)),
    keyTells_perm (hunder "locality" (by decide)), keyTells_perm (hunder "created" (by decide)),
    keyTells_perm (hunder "revision" (by decide)), keyTells_perm (hunder "metadata" (by decide))⟩

theorem told_permuted (h : ms.Perm ms') : told ms = told ms' :=
  told_eq_of_perm h.all_eq fun _ _ => h.filterMap _

theorem told_respaced (h : ms.Forall₂ (fun m m' => m.name? = m'.name? ∧ m.value = m'.value) ms') :
    told ms = told ms' := by
  refine told_eq_of_perm ?_ fun key _ => .of_eq ?_
  · induction h with
    | nil => rfl
    | cons hm _ ih => rw [List.all_cons, List.all_cons, hm.1, ih]
  · induction h with
    | nil => rfl
    | cons hm _ ih => rw [under_cons, under_cons, hm.1, hm.2, ih]

theorem told_unknown {m : Member Tree} {key : String} (hname : m.name? = some key) (hkey : key ∉ keys) :
    told ms = told (m :: ms) := by
  refine told_eq_of_perm ?_ fun known hknown => .of_eq ?_
  · rw [List.all_cons, hname, Option.isSome_some, Bool.true_and]
  · have hne : ¬some key = some known := fun heq => hkey (Option.some.inj heq ▸ hknown)
    rw [under_cons, hname, if_neg hne]

theorem told_metadata {m m' : Member Tree} (hname : m.name? = some "metadata") (hname' : m'.name? = some "metadata")
    (hvalue : Metadata.ofTree? m.value = Metadata.ofTree? m'.value) : told (m :: ms) = told (m' :: ms) := by
  simp [told, toldFrom, under_cons, hname, hname', keyTells_cons, hvalue]

theorem told_default {m : Member Tree} {key : String} (hname : m.name? = some key) (hvalue : IsDefault key m.value)
    (habsent : ∀ m' ∈ ms, m'.name? ≠ some key) : told ms = told (m :: ms) := by
  have hunder : under key ms = [] :=
    List.filterMap_eq_nil_iff.mpr fun m' hm' => if_neg (habsent m' hm')
  generalize ht : m.value = t at hvalue
  cases hvalue with
  | service | locality | created | revision =>
    simp [told, toldFrom, under_cons, hname, ht, hunder, keyTells, Tree.string?, Tree.optional?, spelledString?,
      StringPart.spelled?]
  | metadata inner =>
    have hempty : Metadata.ofTree? (.object inner []) = some .empty := rfl
    simp [told, toldFrom, under_cons, hname, ht, hunder, keyTells, hempty]

/-- Objects that should tell the same do. -/
theorem Alike.told_eq (h : Alike ms ms') : told ms = told ms' := by
  induction h with
  | permuted h => exact told_permuted h
  | respaced h => exact told_respaced h
  | unknown hname hkey ms => exact told_unknown hname hkey
  | metadata hname hname' hvalue hvalue' hperm hdistinct ms =>
    refine told_metadata hname hname' ?_
    rw [hvalue, hvalue']
    exact Metadata.ofTree?_perm hperm hdistinct _ _
  | default hname hvalue habsent => exact told_default hname hvalue habsent
  | symm _ ih => exact ih.symm
  | trans _ _ ih ih' => exact ih.trans ih'

/-- An object in which a key of a record occurs twice tells no record. -/
theorem record?_of_twice {key : String} (hkey : key ∈ keys) (h : 2 ≤ (under key ms).length) :
    (told ms).record? = none := by
  have hnothing : ∀ {α : Type} (value? : Tree → Option α) (default? : Option α),
      keyTells value? default? none (under key ms) = none := fun value? default? => keyTells_of_twice value? default? h
  simp only [keys, List.mem_cons, List.not_mem_nil, or_false] at hkey
  rcases hkey with rfl | rfl | rfl | rfl | rfl | rfl <;> simp [told, toldFrom, Told.record?, hnothing]

theorem length_under (key : String) (ms : List (Member Tree)) :
    (under key ms).length = ms.countP (·.name? = some key) := by
  induction ms with
  | nil => rfl
  | cons m ms ih =>
    rw [under_cons, List.countP_cons]
    split
    · rename_i hname
      rw [List.length_cons, ih, if_pos (decide_eq_true hname)]
    · rename_i hname
      rw [ih, if_neg (by simpa using hname)]
      rfl

end

/-! ### Documents -/

/-- A document that is an object. -/
def objectDocument (before inner : Gap) (ms : List (Member Tree)) (after : Gap) : Input :=
  Utf8.encode (Spaced.text Tree.text ⟨before, .object inner ms, after⟩)

theorem decode_objectDocument (before inner : Gap) (ms : List (Member Tree)) (after : Gap) :
    (decode (objectDocument before inner ms after)).toOption = (told ms).record? := by
  rw [objectDocument, decode_toOption, ← ofMembers?_eq]
  rfl

/-- A text that is spelled as it is, without what has to be escaped. -/
def plainParts (text : List Char) : List StringPart :=
  text.filterMap fun c =>
    if h : c ≠ '"' ∧ c ≠ '\\' ∧ ¬c.toNat < 0x20 then some (.plain c h.1 h.2.1 h.2.2) else none

/-- A member without blanks. -/
def plainMember (name : String) (value : Tree) : Member Tree :=
  ⟨.none, plainParts name.toList, .none, .none, value, .none⟩

/-- Decoding an object makes no difference between members in one order and in another, with members of other keys and
without them, between metadata in one order and in another, and between a default that is written out and one that is
omitted: the same record comes of both, or none of either. A key of a record that occurs twice is refused. -/
theorem decode_rearranged (before inner after before' inner' after' : Gap) (ms ms' : List (Member Tree)) :
    (Alike ms ms' → (decode (objectDocument before inner ms after)).toOption =
      (decode (objectDocument before' inner' ms' after')).toOption) ∧
    ∀ key ∈ keys, 2 ≤ ms.countP (·.name? = some key) →
      ∃ refusal, decode (objectDocument before inner ms after) = .error refusal := by
  refine ⟨fun h => ?_, fun key hkey htwice => ?_⟩
  · rw [decode_objectDocument, decode_objectDocument, h.told_eq]
  · rw [← toOption_eq_none_iff, decode_objectDocument]
    exact record?_of_twice hkey (length_under key ms ▸ htwice)

/-- An object with a member of another key, an empty service and metadata, and one with the metadata in another order,
without these members, but with a null. Both give the record of its identifier and its metadata. -/
theorem decode_rearranged_of_defaults :
    let id := plainMember "id" (.number (.ofInteger 7))
    let other := plainMember "other" (.array .none [⟨.none, .object .none [], .none⟩])
    let service := plainMember "service" (.string [])
    let created := plainMember "created" .null
    let a := plainMember "a" (.string (plainParts ['1']))
    let b := plainMember "b" (.string (plainParts ['2']))
    let ms := [other, service, plainMember "metadata" (.object .none [b, a]), id]
    let ms' := [plainMember "metadata" (.object .none [a, b]), created, id]
    let record : NodeRecord := { id := .numeric 7, metadata := (Metadata.empty.insert "a" "1").insert "b" "2" }
    Alike ms ms' ∧
      (decode (objectDocument .none .none ms .none)).toOption = (decode (objectDocument .none .none ms' .none)).toOption ∧
      (decode (objectDocument .none .none ms' .none)).toOption = some record ∧
      2 ≤ (id :: ms).countP (·.name? = some "id") ∧
      ∃ refusal, decode (objectDocument .none .none (id :: ms) .none) = .error refusal := by
  intro id other service created a b ms ms' record
  have hother : other.name? = some "other" := by decide +kernel
  have hservice : service.name? = some "service" := by decide +kernel
  have hcreated : created.name? = some "created" := by decide +kernel
  have hmetadata : ∀ t, (plainMember "metadata" t).name? = some "metadata" := by
    intro t
    show spelledString? (plainParts "metadata".toList) = some "metadata"
    decide +kernel
  have halike : Alike ms ms' :=
    (Alike.unknown hother (by decide) _).symm
      |>.trans (Alike.default hservice .service (by decide +kernel)).symm
      |>.trans (.metadata (hmetadata _) (hmetadata _) rfl rfl (.swap a b []) (by decide +kernel) [id])
      |>.trans (.default hcreated .created (by decide +kernel))
      |>.trans (.permuted (.swap _ created [id]))
  have hrecord : (decode (objectDocument .none .none ms' .none)).toOption = some record := by decide +kernel
  have htwice : 2 ≤ (id :: ms).countP (·.name? = some "id") := by decide +kernel
  exact ⟨halike, (decode_rearranged .none .none .none .none .none .none ms ms').1 halike, hrecord, htwice,
    (decode_rearranged .none .none .none .none .none .none (id :: ms) ms').2 "id" (by decide) htwice⟩

end NodeRecord

end ClusterConsole
