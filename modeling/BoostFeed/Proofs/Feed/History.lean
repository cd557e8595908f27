import BoostFeed.Proofs.Feed.Log

/-! A server that keeps a log and also answers pages of history from it. Such a page brings the highest events at or below
its index, and so the event at the index itself. It runs downward along the order that forward pages run up. -/

namespace BoostFeed.Feed

/-- Of the events of a log that a condition picks, the highest ones, descending. -/
def highestOf (log : List Event) (p : Event → Bool) (count : Nat) : List Event :=
  ((log.filter p).mergeSort fun a b => b.index ≤ a.index).take count

/-- A server over a fixed log of events from the first index on. -/
structure HistoryServer extends FeedServer where
  positive : ∀ e ∈ log, 1 ≤ e.index
  /-- A page of history brings the highest events at or below its index. -/
  backward : ∀ q : PageQuery, q.old = true →
    (answer q).Perm (highestOf log (·.index ≤ q.index) q.count)

/-- The server that answers forward pages in ascending and history in descending order. -/
def HistoryServer.ofLog (log : List Event) (distinct : (log.map Event.index).Nodup)
    (positive : ∀ e ∈ log, 1 ≤ e.index) : HistoryServer where
  log
  distinct
  positive
  answer q := if q.old then highestOf log (·.index ≤ q.index) q.count else lowestOf log (q.index ≤ ·.index) q.count
  forward q hq := by simp [hq]
  backward q hq := by simp [hq]

theorem highestOf_below (log : List Event) (c : UInt64) (k : Nat) :
    highestOf log (·.index < c) k = firstOf (fun a b => b ≤ a) log (fun y => !decide (c ≤ y.index)) k := by
  simp only [← UInt64.not_le, decide_not]
  rfl

/-- In a log without repetitions, an event is among the highest if few enough lie above it. -/
theorem mem_highestOf {log : List Event} (hd : (log.map Event.index).Nodup) {p : Event → Bool}
    {count : Nat} {x : Event} :
    x ∈ highestOf log p count ↔
      x ∈ log ∧ p x = true ∧ log.countP (fun y => p y && x.index < y.index) < count := by
  simp only [← UInt64.not_le, decide_not]
  exact downward.mem_firstOf hd

namespace HistoryServer

variable {server : HistoryServer} {q : PageQuery} {x e : Event}

theorem mem_answer (hq : q.old = true) : x ∈ server.answer q ↔ x ∈ server.log ∧ x.index ≤ q.index ∧
    server.log.countP (fun y => y.index ≤ q.index && x.index < y.index) < q.count := by
  rw [(server.backward q hq).mem_iff, mem_highestOf server.distinct, decide_eq_true_iff]

/-- A page of history skips nothing between its lowest event and its index. -/
theorem mem_answer_of_le (hq : q.old = true) (hx : x ∈ server.answer q) (he : e ∈ server.log)
    (heq : e.index ≤ q.index) (hxe : x.index ≤ e.index) : e ∈ server.answer q := by
  rw [(server.backward q hq).mem_iff] at hx ⊢
  exact downward.mem_from_of_le server.distinct hx he (decide_eq_true heq) (decide_eq_true hxe)

/-- A page from the index of an event brings that event, as long as it has room. -/
theorem mem_answer_self (hq : q.old = true) (hcount : 0 < q.count) (he : e ∈ server.log) (hqe : e.index = q.index) :
    e ∈ server.answer q := by
  refine (mem_answer hq).mpr ⟨he, hqe ▸ UInt64.le_refl _, ?_⟩
  have hnone : server.log.countP (fun y => y.index ≤ q.index && e.index < y.index) = 0 := by
    rw [List.countP_eq_zero]
    intro y _
    simp [hqe]
  omega

/-- The events below an index are those that the page from a stored higher index brings there, less one. -/
theorem mem_below_of_mem_answer (hq : q.old = true) {a : Event} (ha : a ∈ server.log) (haq : a.index = q.index)
    {c : UInt64} (hc : c ≤ q.index) (hxc : x.index < c) (hx : x ∈ server.answer q) :
    x ∈ highestOf server.log (·.index < c) (q.count - 1) := by
  rw [(server.backward q hq).mem_iff, ← haq] at hx
  rw [highestOf_below]
  exact downward.mem_behind_of_mem_from server.distinct ha (decide_eq_true (haq ▸ hc)) (by simpa using hxc) hx

theorem mem_answer_of_mem_below {c : UInt64} {k : Nat} (hx : x ∈ highestOf server.log (·.index < c) k) :
    x ∈ server.answer ⟨c, k + 1, true⟩ := by
  rw [highestOf_below] at hx
  exact (server.backward _ rfl).mem_iff.mpr (downward.mem_from_of_mem_behind server.distinct hx)

end HistoryServer

end BoostFeed.Feed
