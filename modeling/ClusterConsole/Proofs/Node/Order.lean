import ClusterConsole.Node.IdList
import ClusterConsole.Proofs.Text.Utf8

/-! # The order of identifiers

Comparing identifiers is comparing keys one after another: whether they are texts, then the place of the rounded
number, the form, the number itself, and the bytes of the text. So the order is total, and identifiers that have
all keys in common are the same. -/

namespace ClusterConsole

/-- The place in the total order tells a binary number from all others, also one NaN from another. -/
theorem Binary64.rank_injective {x y : Binary64} (h : x.rank = y.rank) : x = y := by
  have hx := x.bits.toNat_lt
  have hy := y.bits.toNat_lt
  suffices hbits : x.bits.toNat = y.bits.toNat by
    cases x
    cases y
    exact congrArg Binary64.mk (UInt64.toNat_inj.mp hbits)
  unfold rank negative magnitude Word.signedLimit at h
  by_cases hx' : 0x8000000000000000 ≤ x.bits.toNat <;> by_cases hy' : 0x8000000000000000 ≤ y.bits.toNat <;>
    simp only [hx', hy', decide_true, decide_false, ↓reduceIte, Bool.false_eq_true] at h <;> omega

namespace NodeId

/-- Whether an identifier is a text. -/
def isText : NodeId → Bool
  | .text _ => true
  | _ => false

/-- The place of a number after rounding to binary floating point. -/
def roundedRank (a : NodeId) : Int :=
  match a.rounded? with
  | some x => x.rank
  | none => 0

/-- A number in its own form. -/
def exact : NodeId → Int
  | .numeric n => n.toInt
  | .unsigned n => n.toNat
  | .fractional x => x.rank
  | .text _ => 0

/-- The bytes of a text. -/
def bytes : NodeId → List UInt8
  | .text s => Utf8.ofString s
  | _ => []

section
variable {a b : NodeId}

theorem compare_of_number (ha : a.isText = false) (hb : b.isText = false) :
    compare a b = (compareRounded a b).then ((Ord.compare a.form b.form).then (compareExact a b)) := by
  cases a <;> cases b <;> first | rfl | cases ha

theorem compareRounded_of_number (ha : a.isText = false) (hb : b.isText = false) :
    compareRounded a b = Ord.compare a.roundedRank b.roundedRank := by
  cases a <;> cases b <;> simp_all [isText, compareRounded, roundedRank, rounded?, Binary64.compareTotal]

theorem bytes_of_number (ha : a.isText = false) : a.bytes = [] := by
  cases a <;> first | rfl | cases ha

/-- The exact comparison counts for two numbers of one form only. -/
theorem then_compareExact (a b : NodeId) :
    (Ord.compare a.form b.form).then (compareExact a b) =
      (Ord.compare a.form b.form).then (Ord.compare a.exact b.exact) := by
  have hcast : ∀ m n : Nat, Ord.compare m n = Ord.compare (m : Int) n := by
    intro m n
    simp only [Int.compare_eq_ite_lt, Nat.compare_eq_ite_lt, Int.ofNat_lt]
  cases a with
  | unsigned m =>
    cases b with
    | unsigned n => exact congrArg _ (hcast m.toNat n.toNat)
    | _ => rfl
  | _ => cases b <;> rfl

end

theorem compare_eq_compareLex : compare = compareLex (compareOn isText) (compareLex (compareOn roundedRank)
    (compareLex (compareOn form) (compareLex (compareOn exact) (compareOn bytes)))) := by
  funext a b
  simp only [compareLex, compareOn]
  cases ha : a.isText <;> cases hb : b.isText
  · rw [compare_of_number ha hb, compareRounded_of_number ha hb, then_compareExact, bytes_of_number ha,
      bytes_of_number hb, Std.ReflOrd.compare_self, Std.ReflOrd.compare_self]
    simp
  · cases b with
    | text t => cases a <;> first | rfl | cases ha
    | _ => cases hb
  · cases a with
    | text s => cases b <;> first | rfl | cases hb
    | _ => cases ha
  · cases a with
    | text s => cases b with
      | text t => rfl
      | _ => cases hb
    | _ => cases ha

instance : Std.TransOrd NodeId := by
  show Std.TransCmp compare
  rw [compare_eq_compareLex]
  infer_instance

instance : Std.LawfulEqOrd NodeId where
  eq_of_compare {a b} h := by
    change compare a b = .eq at h
    rw [compare_eq_compareLex] at h
    simp only [compareLex_eq_eq, compareOn, Std.LawfulEqOrd.compare_eq_iff_eq] at h
    obtain ⟨-, -, hform, hexact, hbytes⟩ := h
    cases a <;> cases b <;> simp only [form, reduceCtorEq, Nat.reduceEqDiff] at hform
    · exact congrArg numeric (Int64.toInt_inj.mp hexact)
    · exact congrArg unsigned (UInt64.toNat_inj.mp (Int.ofNat_inj.mp hexact))
    · exact congrArg fractional (Binary64.rank_injective hexact)
    · exact congrArg text (Utf8.ofString_injective hbytes)

theorem beq_eq (a b : NodeId) : (a == b) = (compare a b == .eq) := rfl

theorem compare_eq_eq_iff {a b : NodeId} : compare a b = .eq ↔ a = b :=
  Std.LawfulEqOrd.compare_eq_iff_eq (α := NodeId)

instance : LawfulBEq NodeId where
  eq_of_beq h := compare_eq_eq_iff.mp (beq_iff_eq.mp h)
  rfl {a} := by
    rw [beq_eq, compare_eq_eq_iff.mpr rfl]
    rfl

/-! ### Telling identifiers apart without comparing them -/

theorem fingerprint_injective {a b : NodeId} (h : a.fingerprint = b.fingerprint) : a = b := by
  cases a <;> cases b <;> simp only [fingerprint, Prod.mk.injEq, reduceCtorEq, Nat.reduceEqDiff, false_and] at h
  · rename_i m n
    cases m
    cases n
    exact congrArg (fun word => numeric ⟨word⟩) h.2.1
  · exact congrArg unsigned h.2.1
  · rename_i x y
    cases x
    cases y
    exact congrArg (fun bits => fractional ⟨bits⟩) h.2.1
  · exact congrArg text h.2.2

/-- A set takes an identifier as new unless it has it or has just been given it. -/
theorem insertAll_eq (known : Std.HashSet NodeId) (ids : List NodeId) :
    insertAll known ids = ids.mapIdx fun i id => !(known.contains id || (ids.take i).any (· == id)) := by
  induction ids generalizing known with
  | nil => rfl
  | cons id ids ih =>
    rw [insertAll, List.mapIdx_cons]
    dsimp only
    rw [Std.HashSet.containsThenInsert_fst, Std.HashSet.containsThenInsert_snd, ih]
    have later : ∀ i x, (!((known.insert id).contains x || (ids.take i).any (· == x))) =
        !(known.contains x || ((id :: ids).take (i + 1)).any (· == x)) := by
      intro i x
      rw [Std.HashSet.contains_insert, List.take_succ_cons, List.any_cons, Bool.or_left_comm, Bool.or_assoc]
    simp only [later]
    simp

/-- The order of identifiers is total and tells apart what is not the same, texts come after numbers and in the order
    of their UTF-8 bytes, and equality, the partial order and hashing go with it. So a set that takes identifiers in
    turn takes those as new that no equal one came before. -/
theorem compare_total_order (a b c : NodeId) (ids : List NodeId) :
    compare b a = (compare a b).swap ∧
      ((compare a b).isLE → (compare b c).isLE → (compare a c).isLE) ∧
      (compare a b = .eq ↔ a = b) ∧
      compare? a b = some (compare a b) ∧ (a < b ↔ compare a b = .lt) ∧ (a ≤ b ↔ (compare a b).isLE) ∧
      (a == b) = (compare a b == .eq) ∧
      (∀ s, a.isText = false → compare a (.text s) = .lt) ∧
      (∀ s t, compare (.text s) (.text t) = List.compareLex Ord.compare s.toUTF8.data.toList t.toUTF8.data.toList) ∧
      (a == b ↔ a.fingerprint = b.fingerprint) ∧ (a == b → hash a = hash b) ∧
      areNew ids = ids.mapIdx fun i id => !(ids.take i).any (· == id) := by
  refine ⟨Std.OrientedOrd.eq_swap (α := NodeId), Std.TransOrd.isLE_trans (α := NodeId), compare_eq_eq_iff, rfl, ?_, ?_,
    rfl, ?_, ?_, ?_, ?_, ?_⟩
  · exact ⟨Option.some.inj, congrArg some⟩
  · show some (compare a b) = some .lt ∨ some (compare a b) = some .eq ↔ _
    cases compare a b <;> simp
  · intro s ha
    cases a <;> first | rfl | cases ha
  · intro s t
    rw [← Utf8.ofString_eq, ← Utf8.ofString_eq]
    rfl
  · rw [beq_iff_eq]
    exact ⟨congrArg fingerprint, fingerprint_injective⟩
  · intro h
    rw [beq_iff_eq.mp h]
  · rw [areNew, insertAll_eq]
    simp

/-- Three numbers of different forms that are one number after rounding. -/
theorem compare_total_order_of_rounded_equal :
    let a := numeric 9007199254740993
    let b := unsigned 9007199254740992
    let c := fractional ⟨0x4340000000000000⟩
    (a.compare b).isLE ∧ (b.compare c).isLE ∧ (a.compare c).isLE ∧ a.compare (text "") = .lt ∧ (b == b) = true ∧
      hash b = hash b := by
  intro a b c
  have hab : (a.compare b).isLE := by decide +kernel
  have hbc : (b.compare c).isLE := by decide +kernel
  have hbb : b == b := by decide +kernel
  obtain ⟨-, trans, -, -, -, -, -, texts, -⟩ := compare_total_order a b c []
  obtain ⟨-, -, -, -, -, -, -, -, -, -, hashes, -⟩ := compare_total_order b b c []
  exact ⟨hab, hbc, trans hab hbc, texts "" rfl, hbb, hashes hbb⟩

end NodeId
end ClusterConsole
