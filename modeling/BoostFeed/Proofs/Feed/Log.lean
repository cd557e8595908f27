import Mathlib.Data.List.Nodup
import BoostFeed.Session.Basic

/-! A server that keeps a log of events and answers forward pages from it. Which events a page brings is
told by counting the log before them along an order of the indices, so that pages from different indices can be
compared. Forward pages run upward along it. -/

namespace BoostFeed.Feed

/-- Of the events of a log that a condition picks, the lowest ones, ascending. -/
def lowestOf (log : List Event) (p : Event → Bool) (count : Nat) : List Event :=
  ((log.filter p).mergeSort fun a b => a.index ≤ b.index).take count

/-- A server over a fixed log. Nothing is assumed of the order within a page. -/
structure FeedServer where
  log : List Event
  distinct : (log.map Event.index).Nodup
  answer : PageQuery → List Event
  /-- A forward page brings the lowest events at or above its index. -/
  forward : ∀ q : PageQuery, q.old = false →
    (answer q).Perm (lowestOf log (q.index ≤ ·.index) q.count)

/-- The server that answers every query in ascending order. -/
def FeedServer.ascending (log : List Event) (distinct : (log.map Event.index).Nodup) : FeedServer where
  log
  distinct
  answer q := lowestOf log (q.index ≤ ·.index) q.count
  forward _ _ := .refl _

theorem mem_take_iff {α : Type} {r : α → α → Bool} (hasymm : ∀ a b, r a b = true → r b a = false) {l : List α}
    (hl : l.Pairwise (fun a b => r a b = true)) {x : α} {k : Nat} :
    x ∈ l.take k ↔ x ∈ l ∧ l.countP (r · x) < k := by
  induction l generalizing k with
  | nil => simp
  | cons a l ih =>
    obtain ⟨ha, hl⟩ := List.pairwise_cons.mp hl
    have hself : r a a = false := Bool.eq_false_iff.mpr fun h => by simpa [h] using hasymm a a h
    cases k with
    | zero => simp
    | succ k =>
      rw [List.take_succ_cons, List.mem_cons, List.mem_cons, ih hl]
      by_cases hx : x ∈ l
      · have hax := ha x hx
        have hne : x ≠ a := fun he => by simp [he, hself] at hax
        simp [hx, hne, hax]
      · by_cases he : x = a
        · subst he
          have hzero : l.countP (r · x) = 0 := by
            rw [List.countP_eq_zero]
            intro y hy
            simp [hasymm x y (ha y hy)]
          simp [hzero, hself]
        · simp [hx, he]

/-- The laws of a linear order of indices. Pages run along such an order, upward or downward. -/
structure IndexOrder (le : UInt64 → UInt64 → Bool) : Prop where
  trans : ∀ {a b c}, le a b = true → le b c = true → le a c = true
  total : ∀ a b, (le a b || le b a) = true
  antisymm : ∀ {a b}, le a b = true → le b a = true → a = b

theorem upward : IndexOrder fun a b => a ≤ b where
  trans hab hbc := by simpa using UInt64.le_trans (by simpa using hab) (by simpa using hbc)
  total a b := by simpa using UInt64.le_total a b
  antisymm hab hba := UInt64.le_antisymm (by simpa using hab) (by simpa using hba)

theorem downward : IndexOrder fun a b => b ≤ a where
  trans hab hbc := upward.trans hbc hab
  total a b := upward.total b a
  antisymm hab hba := upward.antisymm hba hab

/-- Of the events of a log that a condition picks, the first ones along an order. -/
def firstOf (le : UInt64 → UInt64 → Bool) (log : List Event) (p : Event → Bool) (count : Nat) : List Event :=
  ((log.filter p).mergeSort fun a b => le a.index b.index).take count

theorem countP_lt_countP {l : List Event} {p q : Event → Bool} (h : ∀ y ∈ l, p y = true → q y = true)
    {x : Event} (hx : x ∈ l) (hp : p x = false) (hq : q x = true) : l.countP p < l.countP q := by
  induction l with
  | nil => cases hx
  | cons a l ih =>
    have hl : ∀ y ∈ l, p y = true → q y = true := fun y hy => h y (List.mem_cons_of_mem a hy)
    rcases List.mem_cons.mp hx with rfl | hx
    · have hle := List.countP_mono_left hl
      simp only [List.countP_cons, hp, hq, if_true, Bool.false_eq_true, if_false]
      omega
    · have hlt := ih hl hx
      by_cases ha : p a = true
      · simp [ha, h a List.mem_cons_self ha, hlt]
      · rw [List.countP_cons_of_neg ha, List.countP_cons]
        omega

/-- Once one of the events of a log that lie beyond all stored ones is stored, fewer do. -/
theorem countP_beyond_lt {beyond : Event → Event → Prop} [DecidableRel beyond] {log stored stored' : List Event}
    (hkept : ∀ z ∈ stored, z ∈ stored') {x : Event} (hlog : x ∈ log) (hx : x ∈ stored') (hself : ¬ beyond x x)
    (hbeyond : ∀ z ∈ stored, beyond z x) :
    log.countP (fun y => ∀ z ∈ stored', beyond z y) < log.countP (fun y => ∀ z ∈ stored, beyond z y) := by
  apply countP_lt_countP ?_ hlog
  · exact decide_eq_false fun hall => hself (hall x hx)
  · exact decide_eq_true hbeyond
  · intro y _ hy
    simp only [decide_eq_true_iff] at hy ⊢
    exact fun z hz => hy z (hkept z hz)

theorem countP_le_add {l : List Event} {p q r : Event → Bool}
    (h : ∀ y ∈ l, p y = true → q y = true ∨ r y = true) : l.countP p ≤ l.countP q + l.countP r := by
  induction l with
  | nil => simp
  | cons a l ih =>
    have hle := ih fun y hy => h y (List.mem_cons_of_mem a hy)
    by_cases ha : p a = true
    · rw [List.countP_cons_of_pos ha, List.countP_cons, List.countP_cons]
      rcases h a List.mem_cons_self ha with hq | hr
      · simp only [hq, if_true]
        omega
      · simp only [hr, if_true]
        omega
    · rw [List.countP_cons_of_neg ha, List.countP_cons, List.countP_cons]
      omega

theorem countP_index_le_one {log : List Event} (hd : (log.map Event.index).Nodup) (c : UInt64) :
    log.countP (fun y => y.index == c) ≤ 1 := by
  have hc := List.nodup_iff_count_le_one.mp hd c
  rwa [List.count, List.countP_map] at hc

namespace IndexOrder

variable {le : UInt64 → UInt64 → Bool} {a b c : UInt64} {log : List Event} {x e : Event} {k : Nat}

theorem refl (h : IndexOrder le) (a : UInt64) : le a a = true := by simpa using h.total a a

theorem le_of_not_le (h : IndexOrder le) (hab : (!le a b) = true) : le b a = true := by
  have htotal := h.total a b
  simp only [Bool.not_eq_true'] at hab
  simpa [hab] using htotal

theorem not_le_of_not_le_of_le (h : IndexOrder le) (hab : (!le a b) = true) (hcb : le c b = true) :
    (!le a c) = true := by
  by_contra hac
  have hle := h.trans (by simpa using hac) hcb
  simp [hle] at hab

theorem not_le_of_le_of_not_le (h : IndexOrder le) (hab : le a b = true) (hac : (!le a c) = true) :
    (!le b c) = true := by
  by_contra hbc
  have hle := h.trans hab (by simpa using hbc)
  simp [hle] at hac

theorem pairwise_mergeSort (h : IndexOrder le) (l : List Event) :
    (l.mergeSort fun a b => le a.index b.index).Pairwise (fun a b => le a.index b.index = true) :=
  @List.pairwise_mergeSort _ (fun a b : Event => le a.index b.index) (fun _ _ _ => h.trans)
    (fun a b => h.total a.index b.index) l

/-- In a log without repetitions, an event is among the first that a condition picks if few enough of these come
before it. -/
theorem mem_firstOf (h : IndexOrder le) (hd : (log.map Event.index).Nodup) {p : Event → Bool} :
    x ∈ firstOf le log p k ↔ x ∈ log ∧ p x = true ∧ log.countP (fun y => p y && !le x.index y.index) < k := by
  let s := (log.filter p).mergeSort fun a b => le a.index b.index
  have hperm : s.Perm (log.filter p) := List.mergeSort_perm _ _
  have hsorted : s.Pairwise (fun a b => le a.index b.index = true) := h.pairwise_mergeSort _
  have hne : s.Pairwise (fun a b => a.index ≠ b.index) := by
    apply List.pairwise_map.mp
    exact (hperm.map Event.index).nodup_iff.mpr (hd.sublist (List.filter_sublist.map Event.index))
  have hstrict : s.Pairwise (fun a b => (!le b.index a.index) = true) :=
    (hsorted.and hne).imp fun {a b} hab => by
      simpa using fun hba => hab.2 (h.antisymm hab.1 hba)
  have hasymm : ∀ a b : Event, (!le b.index a.index) = true → (!le a.index b.index) = false := by
    intro a b hba
    simpa using h.le_of_not_le hba
  have hcount : s.countP (fun y => !le x.index y.index) =
      log.countP (fun y => p y && !le x.index y.index) := by
    rw [hperm.countP_eq, List.countP_filter]
    exact List.countP_congr fun y _ => by simp [and_comm]
  change x ∈ s.take k ↔ _
  rw [mem_take_iff (r := fun a b => !le b.index a.index) hasymm hstrict, hperm.mem_iff, List.mem_filter, hcount,
    and_assoc]

/-- A page along an order skips nothing between the index it starts from and its last event. -/
theorem mem_from_of_le (h : IndexOrder le) (hd : (log.map Event.index).Nodup)
    (hx : x ∈ firstOf le log (le a ·.index) k) (he : e ∈ log) (hae : le a e.index = true)
    (hex : le e.index x.index = true) : e ∈ firstOf le log (le a ·.index) k := by
  obtain ⟨_, _, hcount⟩ := (h.mem_firstOf hd).mp hx
  refine (h.mem_firstOf hd).mpr ⟨he, hae, Nat.lt_of_le_of_lt (List.countP_mono_left ?_) hcount⟩
  intro y _ hy
  obtain ⟨hay, hey⟩ := Bool.and_eq_true_iff.mp hy
  exact Bool.and_eq_true_iff.mpr ⟨hay, h.not_le_of_le_of_not_le hex hey⟩

/-- The events behind an index, as the page from an earlier index brings them: one fewer, since that page starts with the
event at its own index. -/
theorem mem_behind_of_mem_from (h : IndexOrder le) (hd : (log.map Event.index).Nodup) (he : e ∈ log)
    (hec : le e.index c = true) (hcx : (!le x.index c) = true) (hx : x ∈ firstOf le log (le e.index ·.index) k) :
    x ∈ firstOf le log (fun y => !le y.index c) (k - 1) := by
  obtain ⟨hlog, _, hcount⟩ := (h.mem_firstOf hd).mp hx
  refine (h.mem_firstOf hd).mpr ⟨hlog, hcx, ?_⟩
  have hlt : log.countP (fun y => !le y.index c && !le x.index y.index) <
      log.countP (fun y => le e.index y.index && !le x.index y.index) := by
    apply countP_lt_countP ?_ he
    · simp [hec]
    · simpa [h.refl] using h.not_le_of_not_le_of_le hcx hec
    · intro y _ hy
      obtain ⟨hcy, hyx⟩ := Bool.and_eq_true_iff.mp hy
      exact Bool.and_eq_true_iff.mpr ⟨h.trans hec (h.le_of_not_le hcy), hyx⟩
  omega

theorem mem_from_of_mem_behind (h : IndexOrder le) (hd : (log.map Event.index).Nodup)
    (hx : x ∈ firstOf le log (fun y => !le y.index c) k) : x ∈ firstOf le log (le c ·.index) (k + 1) := by
  obtain ⟨hlog, hcx, hcount⟩ := (h.mem_firstOf hd).mp hx
  refine (h.mem_firstOf hd).mpr ⟨hlog, h.le_of_not_le hcx, ?_⟩
  have hone := countP_index_le_one hd c
  have hadd : log.countP (fun y => le c y.index && !le x.index y.index) ≤
      log.countP (fun y => y.index == c) + log.countP (fun y => !le y.index c && !le x.index y.index) := by
    apply countP_le_add
    intro y _ hy
    obtain ⟨hcy, hyx⟩ := Bool.and_eq_true_iff.mp hy
    by_cases hyc : le y.index c = true
    · exact .inl (beq_iff_eq.mpr (h.antisymm hyc hcy))
    · exact .inr (Bool.and_eq_true_iff.mpr ⟨by simpa using hyc, hyx⟩)
  omega

end IndexOrder

theorem ascending_mergeSort (l : List Event) :
    (l.mergeSort fun a b => a.index ≤ b.index).Pairwise (fun a b => a.index ≤ b.index) :=
  (upward.pairwise_mergeSort l).imp of_decide_eq_true

theorem lowestOf_above (log : List Event) (c : UInt64) (k : Nat) :
    lowestOf log (c < ·.index) k = firstOf (fun a b => a ≤ b) log (fun y => !decide (y.index ≤ c)) k := by
  simp only [← UInt64.not_le, decide_not]
  rfl

/-- In a log without repetitions, an event is among the lowest if few enough lie below it. -/
theorem mem_lowestOf {log : List Event} (hd : (log.map Event.index).Nodup) {p : Event → Bool}
    {count : Nat} {x : Event} :
    x ∈ lowestOf log p count ↔
      x ∈ log ∧ p x = true ∧ log.countP (fun y => p y && y.index < x.index) < count := by
  simp only [← UInt64.not_le, decide_not]
  exact upward.mem_firstOf hd

theorem exists_mem_lowestOf {log : List Event} {p : Event → Bool} {count : Nat} (hc : 0 < count)
    {y : Event} (hy : y ∈ log) (hp : p y = true) : ∃ x, x ∈ lowestOf log p count := by
  apply List.exists_mem_of_ne_nil
  intro hnil
  rcases List.take_eq_nil_iff.mp hnil with hzero | hsort
  · omega
  · have hperm := List.mergeSort_perm (log.filter p) fun a b => decide (a.index ≤ b.index)
    rw [hsort] at hperm
    have hmem : y ∈ log.filter p := List.mem_filter.mpr ⟨hy, hp⟩
    simp [List.nil_perm.mp hperm] at hmem

namespace FeedServer

variable {server : FeedServer} {q : PageQuery} {x e : Event}

theorem eq_of_index_eq (hx : x ∈ server.log) (he : e ∈ server.log) (h : x.index = e.index) : x = e :=
  List.inj_on_of_nodup_map server.distinct hx he h

theorem mem_answer (hq : q.old = false) : x ∈ server.answer q ↔ x ∈ server.log ∧ q.index ≤ x.index ∧
    server.log.countP (fun y => q.index ≤ y.index && y.index < x.index) < q.count := by
  rw [(server.forward q hq).mem_iff, mem_lowestOf server.distinct, decide_eq_true_iff]

/-- A forward page skips nothing between its index and its highest event. -/
theorem mem_answer_of_le (hq : q.old = false) (hx : x ∈ server.answer q) (he : e ∈ server.log)
    (hqe : q.index ≤ e.index) (hex : e.index ≤ x.index) : e ∈ server.answer q := by
  rw [(server.forward q hq).mem_iff] at hx ⊢
  exact upward.mem_from_of_le server.distinct hx he (decide_eq_true hqe) (decide_eq_true hex)

/-- The events above an index are those that the page from a stored lower index brings there, less one. -/
theorem mem_above_of_mem_answer (hq : q.old = false) {a : Event} (ha : a ∈ server.log)
    (haq : a.index = q.index) {c : UInt64} (hc : q.index ≤ c) (hcx : c < x.index)
    (hx : x ∈ server.answer q) : x ∈ lowestOf server.log (c < ·.index) (q.count - 1) := by
  rw [(server.forward q hq).mem_iff, ← haq] at hx
  rw [lowestOf_above]
  exact upward.mem_behind_of_mem_from server.distinct ha (decide_eq_true (haq ▸ hc)) (by simpa using hcx) hx

theorem mem_answer_of_mem_above {c : UInt64} {k : Nat}
    (hx : x ∈ lowestOf server.log (c < ·.index) k) :
    x ∈ server.answer ⟨c, k + 1, false⟩ := by
  rw [lowestOf_above] at hx
  exact (server.forward _ rfl).mem_iff.mpr (upward.mem_from_of_mem_behind server.distinct hx)

end FeedServer

end BoostFeed.Feed
