import BoostFeed.Proofs.Feed.Log
import BoostFeed.Proofs.Feed.Insertions

/-! Copies of an index in a batch. What a merge inserts are the first copies of the indices that are not stored, and
they are the same ones whether the batch is sorted first or not. -/

namespace BoostFeed.Feed

/-- The events whose index has not been seen, neither before nor earlier in the list. -/
def firstCopies (seen : UInt64 → Bool) : List Event → List Event
  | [] => []
  | e :: es => if seen e.index then firstCopies seen es else e :: firstCopies (fun j => seen j || j == e.index) es

/-- The events whose index has been seen, before or earlier in the list. -/
def laterCopies (seen : UInt64 → Bool) : List Event → List Event
  | [] => []
  | e :: es => if seen e.index then e :: laterCopies seen es else laterCopies (fun j => seen j || j == e.index) es

variable {seen : UInt64 → Bool} {l : List Event} {e : Event}

theorem length_firstCopies_add (seen : UInt64 → Bool) (l : List Event) :
    (firstCopies seen l).length + (laterCopies seen l).length = l.length := by
  induction l generalizing seen with
  | nil => rfl
  | cons x l ih =>
    by_cases hx : seen x.index = true
    · simp [firstCopies, laterCopies, hx, ← ih seen, Nat.add_assoc]
    · simp [firstCopies, laterCopies, hx, ← ih fun j => seen j || j == x.index, Nat.add_right_comm]

theorem firstCopies_sublist (seen : UInt64 → Bool) (l : List Event) : (firstCopies seen l).Sublist l := by
  induction l generalizing seen with
  | nil => exact .slnil
  | cons x l ih =>
    unfold firstCopies
    split
    · exact (ih seen).cons x
    · exact (ih _).cons_cons x

theorem mem_firstCopies : e ∈ firstCopies seen l ↔ seen e.index = false ∧ l.find? (·.index == e.index) = some e := by
  induction l generalizing seen with
  | nil => simp [firstCopies]
  | cons x l ih =>
    by_cases hsame : x.index = e.index
    · have hfind : (x :: l).find? (·.index == e.index) = some x := List.find?_cons_of_pos (by simp [hsame])
      rw [hfind, firstCopies, hsame]
      by_cases hseen : seen e.index = true
      · simp [hseen, ih]
      · simp [hseen, ih, eq_comm]
    · have hfind : (x :: l).find? (·.index == e.index) = l.find? (·.index == e.index) :=
        List.find?_cons_of_neg (by simp [hsame])
      have hne : e ≠ x := fun he => hsame (he ▸ rfl)
      rw [hfind, firstCopies]
      by_cases hseen : seen x.index = true
      · simp [hseen, ih]
      · simp [hseen, ih, hne, Ne.symm hsame]

theorem firstCopies_distinct (seen : UInt64 → Bool) (l : List Event) :
    (firstCopies seen l).Pairwise (fun a b => a.index ≠ b.index) := by
  induction l generalizing seen with
  | nil => exact .nil
  | cons x l ih =>
    unfold firstCopies
    split
    · exact ih seen
    · refine List.pairwise_cons.mpr ⟨fun y hy hxy => ?_, ih _⟩
      have hseen := (mem_firstCopies.mp hy).1
      simp [hxy] at hseen

/-- Sorting keeps the copies of an index in their order. -/
theorem filter_mergeSort_index (l : List Event) (i : UInt64) :
    (l.mergeSort fun a b => a.index ≤ b.index).filter (·.index == i) = l.filter (·.index == i) := by
  have hcopies : (l.filter (·.index == i)).Pairwise (fun a b => decide (a.index ≤ b.index) = true) := by
    apply List.pairwise_of_forall_mem_list
    intro a ha b hb
    have ha : a.index = i := by simpa using (List.mem_filter.mp ha).2
    have hb : b.index = i := by simpa using (List.mem_filter.mp hb).2
    simp [ha, hb]
  have hsorted : (l.filter (·.index == i)).Sublist (l.mergeSort fun a b => a.index ≤ b.index) :=
    List.sublist_mergeSort (fun a b c => by simpa using UInt64.le_trans)
      (fun a b => by simpa using UInt64.le_total a.index b.index) hcopies List.filter_sublist
  have hkept := hsorted.filter (·.index == i)
  simp only [List.filter_filter, Bool.and_self] at hkept
  exact (hkept.eq_of_length ((List.mergeSort_perm l _).filter _).length_eq.symm).symm

/-- The first copies may be picked before or after sorting. -/
theorem firstCopies_mergeSort (seen : UInt64 → Bool) (l : List Event) :
    firstCopies seen (l.mergeSort fun a b => a.index ≤ b.index) =
      (firstCopies seen l).mergeSort fun a b => a.index ≤ b.index := by
  have hstrict {k : List Event} (hle : k.Pairwise (fun a b => a.index ≤ b.index))
      (hne : k.Pairwise (fun a b => a.index ≠ b.index)) : k.Pairwise (fun a b => a.index < b.index) :=
    (hle.and hne).imp fun h => UInt64.lt_of_le_of_ne h.1 h.2
  apply Store.eq_of_increasing
  · exact hstrict ((ascending_mergeSort l).sublist (firstCopies_sublist seen _)) (firstCopies_distinct seen _)
  · exact hstrict (ascending_mergeSort _)
      ((List.mergeSort_perm _ _).symm.pairwise (firstCopies_distinct seen l) fun h => h.symm)
  · intro e
    rw [List.mem_mergeSort, mem_firstCopies, mem_firstCopies, ← List.head?_filter, ← List.head?_filter,
      filter_mergeSort_index]

/-- A merge inserts the first copies of what is not stored. -/
theorem Store.events_merge (s : Store) (l : List Event) :
    (s.merge l).1.map Insertion.event = firstCopies s.contains l := by
  induction s, l using merge_induction with
  | nil s => rfl
  | known s e l hm ih => rw [merge_cons_of_mem hm, ih, firstCopies, if_pos (contains_iff.mpr hm)]
  | inserted s e l i t he ih =>
    have hnew := contains_eq_false_iff.mpr (index_notMem_of_insert? he)
    have hseen : t.contains = fun j => s.contains j || j == e.index := funext (contains_insert? he)
    rw [merge_cons_of_insert? he, List.map_cons, insert?_event he, ih, hseen, firstCopies, if_neg (by simp [hnew])]

/-- The other copies of a batch leave no trace. -/
theorem Store.merge_firstCopies (s : Store) (l : List Event) : s.merge (firstCopies s.contains l) = s.merge l := by
  induction s, l using merge_induction with
  | nil s => rfl
  | known s e l hm ih => rw [merge_cons_of_mem hm, firstCopies, if_pos (contains_iff.mpr hm), ih]
  | inserted s e l i t he ih =>
    have hnew := contains_eq_false_iff.mpr (index_notMem_of_insert? he)
    have hseen : t.contains = fun j => s.contains j || j == e.index := funext (contains_insert? he)
    rw [firstCopies, if_neg (by simp [hnew]), merge_cons_of_insert? he, merge_cons_of_insert? he, ← hseen, ih]

end BoostFeed.Feed
