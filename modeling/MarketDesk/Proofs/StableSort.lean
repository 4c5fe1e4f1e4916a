import Mathlib.Data.List.Basic
import Mathlib.Data.List.Pairwise

/-!
# Stable sorting

Sorting a list that is ordered in one way by another order leaves the first order among elements
that the second does not tell apart. So elements that are all tied stand in a sorted list as they
stood before, and the order of a list before sorting is lost just if ties are equal.
-/

namespace MarketDesk

variable {α : Type} {a b : α} {l : List α}

/-- A list without repetitions has two elements in one order only. -/
theorem not_sublist_swap (nodup : l.Nodup) (h : [a, b].Sublist l) : ¬ [b, a].Sublist l := by
  induction l with
  | nil => cases h
  | cons x l ih =>
    rw [List.nodup_cons] at nodup
    intro swapped
    rw [List.cons_sublist_cons'] at h swapped
    rcases h with h | ⟨rfl, hb⟩
    · rcases swapped with swapped | ⟨rfl, ha⟩
      · exact ih nodup.2 h swapped
      · exact nodup.1 (h.subset (by simp))
    · rcases swapped with swapped | ⟨rfl, ha⟩
      · exact nodup.1 (swapped.subset (by simp))
      · exact nodup.1 (hb.subset (by simp))

/-- Two elements of a list stand in it in some order. -/
theorem pair_sublist_or (ha : a ∈ l) (hb : b ∈ l) (ne : a ≠ b) :
    [a, b].Sublist l ∨ [b, a].Sublist l := by
  have symm : Std.Symm fun x y => [x, y].Sublist l ∨ [y, x].Sublist l := ⟨fun _ _ => Or.symm⟩
  have ordered : l.Pairwise fun x y => [x, y].Sublist l ∨ [y, x].Sublist l :=
    List.pairwise_iff_forall_sublist.2 fun h => Or.inl h
  exact ordered.forall ha hb ne

/-- Elements of a sorted list that the order does not tell apart are ordered as before. -/
theorem pairwise_mergeSort_of_pairwise (le : α → α → Bool) {R : α → α → Prop}
    (trans : ∀ a b c, le a b = true → le b c = true → le a c = true)
    (total : ∀ a b, (le a b || le b a) = true) (irrefl : ∀ a, ¬ R a a) (h : l.Pairwise R) :
    (l.mergeSort le).Pairwise fun a b => le a b = true ∧ (le b a = true → R a b) := by
  have nodup : l.Nodup := by
    refine List.Pairwise.imp (fun r same => ?_) h
    subst same
    exact irrefl _ r
  have nodup' : (l.mergeSort le).Nodup := (List.mergeSort_perm l le).nodup_iff.2 nodup
  refine (List.pairwise_mergeSort trans total l).and (List.pairwise_iff_forall_sublist.2 ?_)
  intro a b here back
  have ne : a ≠ b := List.pairwise_iff_forall_sublist.1 nodup' here
  have ha : a ∈ l := List.mem_mergeSort.1 (here.subset (by simp))
  have hb : b ∈ l := List.mem_mergeSort.1 (here.subset (by simp))
  rcases pair_sublist_or ha hb ne with before | before
  · exact List.pairwise_iff_forall_sublist.1 h before
  · exact (not_sublist_swap nodup' here
      (List.pair_sublist_mergeSort trans total back before)).elim

/-- Elements that the order does not tell apart stay in their order. -/
theorem filter_mergeSort (le : α → α → Bool) {keep : α → Bool}
    (trans : ∀ a b c, le a b = true → le b c = true → le a c = true)
    (total : ∀ a b, (le a b || le b a) = true)
    (tied : ∀ a b, keep a = true → keep b = true → le a b = true) (l : List α) :
    (l.mergeSort le).filter keep = l.filter keep := by
  have kept : ∀ a ∈ l.filter keep, keep a = true := fun a mem => (List.mem_filter.1 mem).2
  have sorted : (l.filter keep).Pairwise fun a b => le a b = true :=
    List.pairwise_of_forall_mem_list fun a ha b hb => tied a b (kept a ha) (kept b hb)
  have here := (List.sublist_mergeSort trans total sorted List.filter_sublist).filter keep
  rw [List.filter_filter, List.filter_congr fun a _ => Bool.and_self (keep a)] at here
  have length := ((List.mergeSort_perm l le).filter keep).length_eq
  exact (here.eq_of_length length.symm).symm

/-- Lists with the same elements sort alike if tied elements are equal. -/
theorem mergeSort_eq_of_perm (le : α → α → Bool) {l' : List α}
    (trans : ∀ a b c, le a b = true → le b c = true → le a c = true)
    (total : ∀ a b, (le a b || le b a) = true) (perm : l'.Perm l)
    (untied : ∀ a ∈ l, ∀ b ∈ l, le a b = true → le b a = true → a = b) :
    l'.mergeSort le = l.mergeSort le := by
  have same := (List.mergeSort_perm l' le).trans (perm.trans (List.mergeSort_perm l le).symm)
  refine same.eq_of_pairwise ?_ (List.pairwise_mergeSort trans total l')
    (List.pairwise_mergeSort trans total l)
  intro a b ha hb
  exact untied a (perm.subset (List.mem_mergeSort.1 ha)) b (List.mem_mergeSort.1 hb)

end MarketDesk
