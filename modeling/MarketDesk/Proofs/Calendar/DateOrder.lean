import MarketDesk.Desk.Timeline
import MarketDesk.Proofs.Calendar.DayCount
import MarketDesk.Proofs.StableSort

/-!
# Ascending by date

What it means that one list is another one in ascending order of dates, when several elements may
have one date: nothing is lost or added, the dates ascend, and elements of one date stand as they
stood. That leaves no choice (`SortedByDate.unique`), and sorting bars or dividends does just that.
-/

namespace MarketDesk

open MarketDesk.Calendar

/-- The second list is the first one in ascending order of dates. -/
structure SortedByDate {α : Type} (date : α → Date) (xs sorted : List α) : Prop where
  perm : sorted.Perm xs
  ascending : sorted.Pairwise fun a b => (date a).dayNumber ≤ (date b).dayNumber
  /-- Elements of one date keep their order. -/
  stable : ∀ day, sorted.filter (fun a => date a == day) = xs.filter fun a => date a == day

section

variable {α : Type} {date : α → Date} {xs ys zs : List α}

theorem sortedByDate_mergeSort (date : α → Date) (xs : List α) :
    SortedByDate date xs (xs.mergeSort fun a b => (date a).notAfter (date b)) where
  perm := List.mergeSort_perm xs _
  ascending := by
    have sorted : (xs.mergeSort fun a b => (date a).notAfter (date b)).Pairwise fun a b =>
        (date a).notAfter (date b) = true := by
      apply List.pairwise_mergeSort
      · exact fun a b c => Date.notAfter_trans (date a) (date b) (date c)
      · exact fun a b => Date.notAfter_total (date a) (date b)
    exact sorted.imp fun h => Date.notAfter_iff.1 h
  stable day := by
    apply filter_mergeSort
    · exact fun a b c => Date.notAfter_trans (date a) (date b) (date c)
    · exact fun a b => Date.notAfter_total (date a) (date b)
    · intro a b ha hb
      have same : date a = date b := (eq_of_beq ha).trans (eq_of_beq hb).symm
      exact Date.notAfter_iff.2 (Int.le_of_eq (congrArg Date.dayNumber same))

theorem sortBars_sortedByDate (bars : List Bar) : SortedByDate Bar.date bars (sortBars bars) :=
  sortedByDate_mergeSort Bar.date bars

theorem sortDividends_sortedByDate (ds : List Dividend) :
    SortedByDate Dividend.date ds (sortDividends ds) :=
  sortedByDate_mergeSort Dividend.date ds

/-- A list that ascends by date is sorted as it stands. -/
theorem sortedByDate_self
    (ascending : xs.Pairwise fun a b => (date a).dayNumber ≤ (date b).dayNumber) :
    SortedByDate date xs xs :=
  ⟨.refl xs, ascending, fun _ => rfl⟩

/-- The first element of an ascending list has the least date. -/
theorem dayNumber_le_of_mem {x y : α}
    (ascending : (x :: xs).Pairwise fun a b => (date a).dayNumber ≤ (date b).dayNumber)
    (mem : y ∈ x :: xs) : (date x).dayNumber ≤ (date y).dayNumber := by
  rw [List.pairwise_cons] at ascending
  rcases List.mem_cons.1 mem with rfl | mem
  · exact Int.le_refl _
  · exact ascending.1 y mem

/-- Lists with the same elements on each date have the same elements. -/
theorem mem_iff_of_filter_eq
    (same : ∀ day, ys.filter (fun a => date a == day) = zs.filter fun a => date a == day) (a : α) :
    a ∈ ys ↔ a ∈ zs := by
  have onDate : a ∈ ys.filter (fun x => date x == date a) ↔
      a ∈ zs.filter (fun x => date x == date a) := by rw [same]
  simpa using onDate

/-- Ascending lists with the same elements on each date, in the same order, are the same. -/
theorem eq_of_filter_eq
    (hy : ys.Pairwise fun a b => (date a).dayNumber ≤ (date b).dayNumber)
    (hz : zs.Pairwise fun a b => (date a).dayNumber ≤ (date b).dayNumber)
    (same : ∀ day, ys.filter (fun a => date a == day) = zs.filter fun a => date a == day) :
    ys = zs := by
  induction ys generalizing zs with
  | nil =>
    rw [eq_comm, List.eq_nil_iff_forall_not_mem]
    intro z mem
    simpa using (mem_iff_of_filter_eq same z).2 mem
  | cons y ys ih =>
    have first : y ∈ zs := (mem_iff_of_filter_eq same y).1 List.mem_cons_self
    cases zs with
    | nil => simp at first
    | cons z zs =>
      -- Both first elements have the least date, so they head the elements of that date.
      have day : date z = date y := by
        apply Date.dayNumber_inj.1
        have below := dayNumber_le_of_mem hy ((mem_iff_of_filter_eq same z).2 List.mem_cons_self)
        have above := dayNumber_le_of_mem hz first
        omega
      have heads := same (date y)
      rw [List.filter_cons_of_pos (by simp), List.filter_cons_of_pos (by simp [day])] at heads
      obtain ⟨rfl, -⟩ := List.cons.inj heads
      apply congrArg (y :: ·)
      apply ih (List.pairwise_cons.1 hy).2 (List.pairwise_cons.1 hz).2
      intro d
      have both := same d
      simp only [List.filter_cons] at both
      split at both
      · exact (List.cons.inj both).2
      · exact both

namespace SortedByDate

/-- There is one way to stand in ascending order of dates. -/
theorem unique (hy : SortedByDate date xs ys) (hz : SortedByDate date xs zs) : ys = zs :=
  eq_of_filter_eq hy.ascending hz.ascending fun day => (hy.stable day).trans (hz.stable day).symm

/-- Sorting twice is sorting. -/
theorem trans (hy : SortedByDate date xs ys) (hz : SortedByDate date ys zs) :
    SortedByDate date xs zs :=
  ⟨hz.perm.trans hy.perm, hz.ascending, fun day => (hz.stable day).trans (hy.stable day)⟩

/-- What is left out is left out of the sorted list. -/
theorem filter (hy : SortedByDate date xs ys) (keep : α → Bool) :
    SortedByDate date (xs.filter keep) (ys.filter keep) where
  perm := hy.perm.filter keep
  ascending := hy.ascending.filter keep
  stable day := by
    rw [List.filter_comm, hy.stable day, List.filter_comm]

end SortedByDate

end

end MarketDesk
