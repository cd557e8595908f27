import Mathlib.Data.List.Nodup
import BoostFeed.Proofs.Feed.Insertions
import BoostFeed.Session.Basic

/-! A store is a map from indices to events, read in the order of the indices. Whatever changes it goes through, all
that can be asked of it is answered as by a plain map to which an event is added only under a new index. -/

namespace BoostFeed.Feed

open Std (TreeMap)

abbrev EventMap := TreeMap UInt64 Event

inductive StoreChange where
  | insert (e : Event)
  | merge (batch : List Event)
  | markReplied (i : UInt64)
  | clear

namespace EventMap

/-- An index keeps the event that came first. -/
def add (m : EventMap) (e : Event) : EventMap := m.insertIfNew e.index e

def change (m : EventMap) : StoreChange → EventMap
  | .insert e => m.add e
  | .merge batch => batch.foldl add m
  | .markReplied i => m.modify i fun e => { e with replySent := true }
  | .clear => ∅

end EventMap

namespace Store

variable {s t : Store} {m : EventMap} {e : Event} {i : Insertion} {j : UInt64}

def change (s : Store) : StoreChange → Store
  | .insert e => ((s.insert? e).map Prod.snd).getD s
  | .merge batch => (s.merge batch).2
  | .markReplied i => s.markReplied i
  | .clear => ∅

theorem get?_eq_some_iff : s.get? j = some e ↔ e ∈ s.events ∧ e.index = j := by
  constructor
  · intro h
    exact ⟨List.mem_of_find?_eq_some h, by simpa using List.find?_some h⟩
  · rintro ⟨he, rfl⟩
    have hsome : (s.get? e.index).isSome := List.find?_isSome.mpr ⟨e, he, by simp⟩
    obtain ⟨x, hx⟩ := Option.isSome_iff_exists.mp hsome
    have hindex : x.index = e.index := by simpa using List.find?_some hx
    rw [hx, eq_of_index_eq (List.mem_of_find?_eq_some hx) he hindex]

theorem get?_insert? (h : s.insert? e = some (i, t)) (j : UInt64) :
    t.get? j = if e.index = j then some e else s.get? j := by
  ext x
  rw [get?_eq_some_iff, mem_insert? h]
  split
  next he =>
    subst he
    have hnew : ¬ (x ∈ s.events ∧ x.index = e.index) := fun ⟨hx, hi⟩ =>
      index_notMem_of_insert? h (mem_indices.mpr ⟨x, hx, hi⟩)
    constructor
    · rintro ⟨rfl | hx, hi⟩
      · rfl
      · exact absurd ⟨hx, hi⟩ hnew
    · rintro ⟨⟩
      exact ⟨.inl rfl, rfl⟩
  next he =>
    rw [get?_eq_some_iff]
    constructor
    · rintro ⟨rfl | hx, hi⟩
      · exact absurd hi he
      · exact ⟨hx, hi⟩
    · rintro ⟨hx, hi⟩
      exact ⟨.inr hx, hi⟩

theorem get?_markReplied (s : Store) (k j : UInt64) :
    (s.markReplied k).get? j =
      if k = j then (s.get? j).map fun e => { e with replySent := true } else s.get? j := by
  have hindex (e : Event) : (if e.index = k then { e with replySent := true } else e).index = e.index := by
    split <;> rfl
  rw [get?, markReplied, List.find?_map]
  simp only [Function.comp_def, hindex]
  change (s.get? j).map _ = _
  cases h : s.get? j with
  | none => simp
  | some e =>
    obtain ⟨-, rfl⟩ := get?_eq_some_iff.mp h
    by_cases hk : k = e.index
    · simp [hk]
    · simp [hk, Ne.symm hk]

/-- A store and a map hold the same events. -/
def Holds (s : Store) (m : EventMap) : Prop := ∀ j, s.get? j = m[j]?

theorem Holds.contains (h : s.Holds m) (j : UInt64) : s.contains j = m.contains j := by
  rw [Store.contains, h j, TreeMap.contains_eq_isSome_getElem?]

theorem Holds.mem_iff (h : s.Holds m) {j : UInt64} : j ∈ m ↔ j ∈ s.indices := by
  rw [← contains_iff, h.contains, TreeMap.mem_iff_contains]

theorem Holds.add_of_known (h : s.Holds m) (hm : e.index ∈ s.indices) : s.Holds (m.add e) := by
  intro j
  rw [EventMap.add, TreeMap.getElem?_insertIfNew, if_neg fun hc => hc.2 (h.mem_iff.mpr hm)]
  exact h j

theorem Holds.add_of_insert? (h : s.Holds m) (he : s.insert? e = some (i, t)) : t.Holds (m.add e) := by
  intro j
  have hnew : e.index ∉ m := fun hm => index_notMem_of_insert? he (h.mem_iff.mp hm)
  simp [EventMap.add, TreeMap.getElem?_insertIfNew, hnew, get?_insert? he, h j]

theorem Holds.merge (h : s.Holds m) (l : List Event) : (s.merge l).2.Holds (l.foldl EventMap.add m) := by
  induction s, l using merge_induction generalizing m with
  | nil s => exact h
  | known s e l hm ih =>
    rw [merge_cons_of_mem hm]
    exact ih (h.add_of_known hm)
  | inserted s e l i t he ih =>
    rw [merge_cons_of_insert? he]
    exact ih (h.add_of_insert? he)

theorem Holds.change (h : s.Holds m) (c : StoreChange) : (s.change c).Holds (m.change c) := by
  cases c with
  | insert e =>
    change (((s.insert? e).map Prod.snd).getD s).Holds (m.add e)
    cases he : s.insert? e with
    | none => exact h.add_of_known (insert?_eq_none_iff.mp he)
    | some p => exact h.add_of_insert? he
  | merge batch => exact h.merge batch
  | markReplied k =>
    intro j
    rw [Store.change, EventMap.change, TreeMap.getElem?_modify, get?_markReplied, h j]
    by_cases hk : k = j
    · simp [hk]
    · simp [hk]
  | clear =>
    intro j
    exact TreeMap.getElem?_emptyc.symm

/-- The pairs of the map, in its order, are the stored events under their indices. -/
theorem Holds.toList (h : s.Holds m) : m.toList = s.events.map fun e => (e.index, e) := by
  have hlt : m.toList.Pairwise (fun a b => a.1 < b.1) :=
    TreeMap.ordered_keys_toList.imp fun hab => Std.compare_eq_lt.mp hab
  have hlt' : (s.events.map fun e => (e.index, e)).Pairwise (fun a b => a.1 < b.1) :=
    List.pairwise_map.mpr s.increasing
  apply eq_of_increasing hlt hlt'
  rintro ⟨j, e⟩
  rw [TreeMap.mem_toList_iff_getElem?_eq_some, ← h j, get?_eq_some_iff]
  simp

/-- All that can be asked of a store is answered as by a map. -/
structure Reads (s : Store) (m : EventMap) : Prop where
  get : ∀ j, s.get? j = m[j]?
  contains : ∀ j, s.contains j = m.contains j
  lowest : s.lowest = m.minKey?
  highest : s.highest = m.maxKey?
  size : s.size = m.size
  isEmpty : s.isEmpty = m.isEmpty
  events : s.events = m.toList.map Prod.snd
  indices : s.indices = m.keys
  newestFirst : s.newestFirst = (m.toList.map Prod.snd).reverse

theorem Holds.reads (h : s.Holds m) : s.Reads m := by
  have hevents : s.events = m.toList.map Prod.snd := by simp [h.toList, Function.comp_def]
  have hindices : s.indices = m.keys := by
    rw [← TreeMap.map_fst_toList_eq_keys, h.toList, List.map_map]
    rfl
  have hlowest : s.lowest = m.minKey? := by
    rw [lowest_eq_head?, hindices, TreeMap.minKey?_eq_head?_keys]
  have hhighest : s.highest = m.maxKey? := by
    rw [TreeMap.maxKey?_eq_getLast?_keys, ← hindices, Store.indices, List.getLast?_map, highest]
  have hsize : s.size = m.size := by rw [← TreeMap.length_toList, h.toList, List.length_map, size]
  have hempty : s.isEmpty = m.isEmpty := by rw [← isEmpty_indices, hindices, TreeMap.isEmpty_keys]
  exact ⟨h, h.contains, hlowest, hhighest, hsize, hempty, hevents, hindices, hevents ▸ rfl⟩

theorem Holds.insert_answer (h : s.Holds m) (e : Event) :
    (s.insert? e).map (·.1.event) = if m.contains e.index then none else some e := by
  cases he : s.insert? e with
  | none =>
    have hm : m.contains e.index = true := h.contains e.index ▸ contains_iff.mpr (insert?_eq_none_iff.mp he)
    simp [hm]
  | some p =>
    have hm : m.contains e.index = false :=
      h.contains e.index ▸ contains_eq_false_iff.mpr (index_notMem_of_insert? he)
    simp [hm, insert?_event he]

theorem Holds.merge_answer (h : s.Holds m) (batch : List Event) :
    (s.merge batch).1.map (·.event.index) =
      ((batch.map Event.index).filter fun j => !m.contains j).eraseDups := by
  simp only [indices_insertions, h.contains]

/-- After any changes to an empty store its events are in strictly increasing order, and all that can be asked of
it, also whether an index to be marked is present, is answered as by the plain map after the same changes. An
event is inserted if its index is absent; of a batch, each absent index is inserted once, in the order of the
first copies, with that copy; and the same batch again does nothing. -/
theorem changes_read_as_map (changes : List StoreChange) :
    let s := changes.foldl Store.change ∅
    let m := changes.foldl EventMap.change ∅
    s.indices.Pairwise (· < ·) ∧ s.Reads m ∧
    (∀ (session : Session) (j : UInt64), ({ session with store := s } : Session).markReplied j =
      (m.contains j, { session with store := s.change (.markReplied j) })) ∧
    (∀ e, (s.insert? e).map (·.1.event) = if m.contains e.index then none else some e) ∧
    ∀ batch,
      (s.merge batch).1.map (·.event.index) =
        ((batch.map Event.index).filter fun j => !m.contains j).eraseDups ∧
      (∀ i ∈ (s.merge batch).1, batch.find? (·.index == i.event.index) = some i.event) ∧
      (s.merge batch).2.merge batch = ([], (s.merge batch).2) := by
  intro s m
  have hholds : s.Holds m := by
    have hempty : (∅ : Store).Holds ∅ := fun _ => TreeMap.getElem?_emptyc.symm
    exact List.foldl_rel hempty fun c _ _ _ h => h.change c
  refine ⟨s.indices_increasing, hholds.reads, fun session j => ?_, hholds.insert_answer, fun batch =>
    ⟨hholds.merge_answer batch, fun i => find?_of_mem_insertions, s.merge_merge batch⟩⟩
  rw [← hholds.contains]
  rfl

example : ((∅ : Store).merge ([9, 2, 9, 7, 2, 11, 1].map ({ index := · }))).2.indices = [1, 2, 7, 9, 11] := by
  decide

end Store

end BoostFeed.Feed
