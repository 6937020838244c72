import Mathlib.Data.List.Nodup
import ClusterConsole.Node.Record
import ClusterConsole.Proofs.Node.Order

/-! # The one stable order of records

Three properties leave no choice of a sorted list: it has the given records, they come in the order of their
identifiers, and those of one identifier come as they were given. So sorting what is sorted changes nothing, and how a
list was ordered before matters only for records that share an identifier. -/

namespace ClusterConsole.NodeRecord

/-- The given records in the order of their identifiers, those of one identifier as they were given. -/
structure Arranged (nodes sorted : List NodeRecord) : Prop where
  perm : sorted.Perm nodes
  ordered : sorted.Pairwise fun a b => a.compare b ≠ .gt
  kept : ∀ id, (sorted.filter fun r => r.id == id) = nodes.filter fun r => r.id == id

section
variable {a b c : NodeRecord}

theorem compare_swap (a b : NodeRecord) : b.compare a = (a.compare b).swap :=
  Std.OrientedOrd.eq_swap (α := NodeId)

theorem ne_gt_trans (hab : a.compare b ≠ .gt) (hbc : b.compare c ≠ .gt) : a.compare c ≠ .gt := by
  rw [ne_eq, ← Ordering.isLE_iff_ne_gt] at hab hbc ⊢
  exact Std.TransOrd.isLE_trans (α := NodeId) hab hbc

theorem ne_gt_total (a b : NodeRecord) : a.compare b ≠ .gt ∨ b.compare a ≠ .gt := by
  rw [compare_swap a b]
  cases a.compare b <;> simp

theorem bne_gt_trans (a b c : NodeRecord) (hab : (a.compare b != .gt) = true) (hbc : (b.compare c != .gt) = true) :
    (a.compare c != .gt) = true :=
  bne_iff_ne.mpr (ne_gt_trans (bne_iff_ne.mp hab) (bne_iff_ne.mp hbc))

theorem bne_gt_total (a b : NodeRecord) : ((a.compare b != .gt) || (b.compare a != .gt)) = true := by
  rw [Bool.or_eq_true, bne_iff_ne, bne_iff_ne]
  exact ne_gt_total a b

theorem id_eq_of_ne_gt (hab : a.compare b ≠ .gt) (hba : b.compare a ≠ .gt) : a.id = b.id := by
  rw [compare_swap a b] at hba
  refine NodeId.compare_eq_eq_iff.mp ?_
  show a.compare b = .eq
  cases h : a.compare b <;> simp_all

theorem ne_gt_of_id_eq (h : a.id = b.id) : a.compare b ≠ .gt := by
  have heq : a.compare b = .eq := NodeId.compare_eq_eq_iff.mpr h
  rw [heq]
  nofun

end

section
variable {nodes other sorted : List NodeRecord}

theorem pairwise_sort (nodes : List NodeRecord) : (sort nodes).Pairwise fun a b => a.compare b ≠ .gt :=
  (List.pairwise_mergeSort bne_gt_trans bne_gt_total nodes).imp fun h => bne_iff_ne.mp h

/-- What is in order among the given records keeps its places. -/
theorem sublist_sort {part : List NodeRecord} (hpart : part.Sublist nodes)
    (h : part.Pairwise fun a b => a.compare b ≠ .gt) : part.Sublist (sort nodes) :=
  List.sublist_mergeSort bne_gt_trans bne_gt_total (h.imp fun hab => bne_iff_ne.mpr hab) hpart

theorem arranged_sort (nodes : List NodeRecord) : Arranged nodes (sort nodes) := by
  refine ⟨List.mergeSort_perm nodes _, pairwise_sort nodes, fun id => ?_⟩
  -- Records of one identifier are in order as they are given, so sorting finds them as they are.
  have hsame : (nodes.filter fun r => r.id == id).Pairwise fun a b => a.compare b ≠ .gt := by
    refine List.pairwise_of_forall_mem_list fun a ha b hb => ne_gt_of_id_eq ?_
    rw [beq_iff_eq.mp (List.mem_filter.mp ha).2, beq_iff_eq.mp (List.mem_filter.mp hb).2]
  have hfiltered := (sublist_sort List.filter_sublist hsame).filter fun r => r.id == id
  rw [List.filter_filter] at hfiltered
  simp only [Bool.and_self] at hfiltered
  have hlength : (nodes.filter fun r => r.id == id).length = ((sort nodes).filter fun r => r.id == id).length :=
    ((List.mergeSort_perm nodes _).filter _).length_eq.symm
  exact (hfiltered.eq_of_length hlength).symm

/-- Two lists in order are the same if they have the same records of each identifier, one after another. -/
theorem eq_of_ordered (h : nodes.Pairwise fun a b => a.compare b ≠ .gt)
    (h' : other.Pairwise fun a b => a.compare b ≠ .gt)
    (hids : ∀ id, (nodes.filter fun r => r.id == id) = other.filter fun r => r.id == id) : nodes = other := by
  have hmem : ∀ r, r ∈ nodes ↔ r ∈ other := by
    intro r
    have := congrArg (r ∈ ·) (hids r.id)
    simpa using this
  induction nodes generalizing other with
  | nil =>
    cases other with
    | nil => rfl
    | cons b other => exact absurd ((hmem b).mpr List.mem_cons_self) List.not_mem_nil
  | cons a nodes ih =>
    cases other with
    | nil => exact absurd ((hmem a).mp List.mem_cons_self) List.not_mem_nil
    | cons b other =>
      obtain ⟨hfirst, hnodes⟩ := List.pairwise_cons.mp h
      obtain ⟨hfirst', hother⟩ := List.pairwise_cons.mp h'
      -- Each head stands somewhere in the other list, so neither can come before the other.
      have hid : a.id = b.id := by
        rcases List.mem_cons.mp ((hmem b).mpr List.mem_cons_self) with rfl | hb
        · rfl
        rcases List.mem_cons.mp ((hmem a).mp List.mem_cons_self) with rfl | ha
        · rfl
        · exact id_eq_of_ne_gt (hfirst b hb) (hfirst' a ha)
      have hheads := hids b.id
      rw [List.filter_cons_of_pos (by simp [hid]), List.filter_cons_of_pos (by simp)] at hheads
      obtain rfl := (List.cons.inj hheads).1
      -- With the head gone the records of each identifier still agree.
      have htails : ∀ id, (nodes.filter fun r => r.id == id) = other.filter fun r => r.id == id := by
        intro id
        have hcons := hids id
        rw [List.filter_cons, List.filter_cons] at hcons
        split at hcons
        · exact (List.cons.inj hcons).2
        · exact hcons
      refine congrArg (a :: ·) (ih hnodes hother htails fun r => ?_)
      have := congrArg (r ∈ ·) (htails r.id)
      simpa using this

theorem Arranged.eq_sort (h : Arranged nodes sorted) : sorted = sort nodes :=
  eq_of_ordered h.ordered (arranged_sort nodes).ordered fun id =>
    (h.kept id).trans ((arranged_sort nodes).kept id).symm

theorem sort_of_ordered (h : nodes.Pairwise fun a b => a.compare b ≠ .gt) : sort nodes = nodes :=
  (Arranged.eq_sort ⟨.refl _, h, fun _ => rfl⟩).symm

theorem sort_sort (nodes : List NodeRecord) : sort (sort nodes) = sort nodes :=
  sort_of_ordered (arranged_sort nodes).ordered

/-- Records that share no identifier are sorted alike in whatever order they come. -/
theorem sort_eq_of_perm (hperm : other.Perm nodes) (hids : (nodes.map NodeRecord.id).Nodup) :
    sort other = sort nodes := by
  have hsorted : (sort other).Perm (sort nodes) :=
    (arranged_sort other).perm.trans (hperm.trans (arranged_sort nodes).perm.symm)
  refine hsorted.eq_of_pairwise (fun a b ha hb hab hba => ?_) (arranged_sort other).ordered (arranged_sort nodes).ordered
  have hmem : a ∈ nodes ∧ b ∈ nodes :=
    ⟨hperm.mem_iff.mp ((arranged_sort other).perm.mem_iff.mp ha), (arranged_sort nodes).perm.mem_iff.mp hb⟩
  exact List.inj_on_of_nodup_map hids hmem.1 hmem.2 (id_eq_of_ne_gt hab hba)

end

end ClusterConsole.NodeRecord
