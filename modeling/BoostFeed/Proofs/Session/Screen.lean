import BoostFeed.Proofs.Session.Convergence

/-! A renderer that only sees effects. It keeps its rows, the empty indicator and the load-more control, and
is led by every run of a fresh session to show just what the session holds. -/

namespace BoostFeed

open Feed Numerology

structure Screen where
  rows : List Row := []
  empty : Bool := false
  /-- The cursor of the load-more control where it shows. -/
  loadMore : Option UInt64 := none
deriving DecidableEq

/-- How a renderer finds the place of a row. -/
inductive Placing where
  | byAnchor
  | byPosition

namespace Screen

def insertAfter (i : UInt64) (row : Row) : List Row → Option (List Row)
  | [] => none
  | r :: rs => if r.index = i then some (r :: row :: rs) else (insertAfter i row rs).map (r :: ·)

def insertBefore (i : UInt64) (row : Row) : List Row → Option (List Row)
  | [] => none
  | r :: rs => if r.index = i then some (row :: r :: rs) else (insertBefore i row rs).map (r :: ·)

def place (how : Placing) (row : Row) (anchor : Anchor) (position : Nat) (rows : List Row) :
    Option (List Row) :=
  match how, anchor with
  | .byPosition, _ => if position ≤ rows.length then some (rows.insertIdx position row) else none
  | .byAnchor, .sole => if rows.isEmpty then some [row] else none
  | .byAnchor, .after i => insertAfter i row rows
  | .byAnchor, .before i => insertBefore i row rows

/-- What one effect does to the screen; none if a row has no place. -/
def apply (how : Row → Placing) (screen : Screen) : ViewEffect → Option Screen
  | .inserted row anchor _ position =>
    (place (how row) row anchor position screen.rows).map fun rows => { screen with rows }
  | .showEmpty _ => some { screen with empty := true }
  | .hideEmpty => some { screen with empty := false }
  | .showLoadMore cursor => some { screen with loadMore := some cursor }
  | .hideLoadMore => some { screen with loadMore := none }
  | .scrollToNewest | .celebrate _ | .indexUnavailable _ | .balance _ | .replyMarked _
  | .replyFailed _ | .redirectToLogin => some screen

def render (how : Row → Placing) (screen : Screen) (effects : List ViewEffect) : Option Screen :=
  effects.foldlM (apply how) screen

theorem insertAfter_append {r row : Row} {pre post : List Row} (h : ∀ x ∈ pre, x.index ≠ r.index) :
    insertAfter r.index row (pre ++ r :: post) = some (pre ++ r :: row :: post) := by
  induction pre with
  | nil => simp [insertAfter]
  | cons x pre ih =>
    have hx := h x List.mem_cons_self
    simp [insertAfter, hx, ih fun y hy => h y (List.mem_cons_of_mem x hy)]

theorem insertBefore_append {r row : Row} {pre post : List Row} (h : ∀ x ∈ pre, x.index ≠ r.index) :
    insertBefore r.index row (pre ++ r :: post) = some (pre ++ row :: r :: post) := by
  induction pre with
  | nil => simp [insertBefore]
  | cons x pre ih =>
    have hx := h x List.mem_cons_self
    simp [insertBefore, hx, ih fun y hy => h y (List.mem_cons_of_mem x hy)]

theorem insertIdx_append (row : Row) (pre post : List Row) :
    (pre ++ post).insertIdx pre.length row = pre ++ row :: post := by
  induction pre with
  | nil => simp
  | cons x pre ih => simp [ih]

/-- Rows that stand for the events of a store have one place for a new event, whichever way it is
found. -/
theorem place_insertion {st t : Store} {e : Event} {i : Insertion} (h : st.insert? e = some (i, t))
    {rows : List Row} (hr : rows.map Row.index = st.indices) {row : Row} (hrow : row.index = e.index)
    (how : Placing) :
    ∃ rows', place how row i.anchor i.position rows = some rows' ∧ rows'.map Row.index = t.indices := by
  -- the rows split where the store does
  have hsplit : rows.map Row.index =
      (st.below e.index).map Event.index ++ (st.fromIndex e.index).map Event.index := by
    rw [hr, Store.indices, ← List.map_append, st.below_append_fromIndex]
  obtain ⟨pre, post, rfl, hpre, hpost⟩ := List.map_eq_append_iff.mp hsplit
  refine ⟨pre ++ row :: post, ?_, by simp [Store.indices, Store.insert?_events h, hpre, hpost, hrow]⟩
  have hnodup : (pre ++ post).Pairwise (fun a b => a.index ≠ b.index) := by
    apply List.pairwise_map.mp
    rw [hr]
    exact st.indices_nodup
  cases how with
  | byPosition =>
    have hlen : i.position = pre.length := by
      rw [Store.insert?_position h, ← List.length_map Event.index, ← hpre, List.length_map]
    simp [place, hlen, insertIdx_append]
  | byAnchor =>
    have hadj := Store.anchor_adjacent h
    cases ha : i.anchor with
    | sole =>
      rw [ha] at hadj
      have hnil : pre ++ post = [] := by simpa [Store.indices, hadj] using hr
      obtain ⟨rfl, rfl⟩ := List.append_eq_nil_iff.mp hnil
      simp [place]
    | after n =>
      rw [ha] at hadj
      simp only at hadj
      rw [← List.getLast?_map, ← hpre, List.getLast?_map, Option.map_eq_some_iff] at hadj
      obtain ⟨r, hlast, rfl⟩ := hadj
      obtain ⟨front, rfl⟩ := List.getLast?_eq_some_iff.mp hlast
      rw [List.append_assoc] at hnodup
      have hfront : ∀ x ∈ front, x.index ≠ r.index := fun x hx =>
        (List.pairwise_append.mp hnodup).2.2 x hx r (by simp)
      simpa [place] using insertAfter_append hfront
    | before n =>
      rw [ha] at hadj
      simp only at hadj
      rw [← List.head?_map, ← hpost, List.head?_map, Option.map_eq_some_iff] at hadj
      obtain ⟨r, hhead, rfl⟩ := hadj
      obtain ⟨back, rfl⟩ := List.head?_eq_some_iff.mp hhead
      have hpre' : ∀ x ∈ pre, x.index ≠ r.index := fun x hx =>
        (List.pairwise_append.mp hnodup).2.2 x hx r (by simp)
      simpa [place] using insertBefore_append hpre'

end Screen

end BoostFeed
