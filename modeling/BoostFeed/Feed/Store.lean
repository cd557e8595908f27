import BoostFeed.Feed.Event

/-! The events of a timeline, strictly increasing by index. The first copy of an index stays; every
insertion tells which stored neighbour it stands next to. -/

namespace BoostFeed.Feed

/-- The stored neighbour a new event is attached to. -/
inductive Anchor where
  | sole
  | after (index : UInt64)
  | before (index : UInt64)
deriving DecidableEq

/-- Where in the store a new event lies. -/
inductive Placement where
  | only
  | newest
  | oldest
  | between
deriving DecidableEq

/-- Whether a new event lies above all stored ones. -/
def Placement.isNewest : Placement → Bool
  | .only | .newest => true
  | .oldest | .between => false

/-- A new event, its closest neighbour before the insertion and its ascending position after it. -/
structure Insertion where
  event : Event
  anchor : Anchor
  placement : Placement
  position : Nat
deriving DecidableEq

/-- Events in strictly increasing order of their indices. -/
structure Store where
  events : List Event
  increasing : events.Pairwise (fun a b => a.index < b.index)

namespace Store

theorem ext {s t : Store} (h : s.events = t.events) : s = t := by
  cases s; cases t; cases h; rfl

def empty : Store := ⟨[], .nil⟩

instance : Inhabited Store := ⟨empty⟩

instance : EmptyCollection Store := ⟨empty⟩

/-- The events below an index. -/
def below (s : Store) (i : UInt64) : List Event := s.events.takeWhile (·.index < i)

/-- The events at or above an index. -/
def fromIndex (s : Store) (i : UInt64) : List Event := s.events.dropWhile (·.index < i)

def size (s : Store) : Nat := s.events.length

def isEmpty (s : Store) : Bool := s.events.isEmpty

def indices (s : Store) : List UInt64 := s.events.map Event.index

def newestFirst (s : Store) : List Event := s.events.reverse

/-- The lowest stored index. -/
def lowest (s : Store) : Option UInt64 := s.events.head?.map Event.index

/-- The highest stored index. -/
def highest (s : Store) : Option UInt64 := s.events.getLast?.map Event.index

def get? (s : Store) (i : UInt64) : Option Event := s.events.find? (·.index == i)

def contains (s : Store) (i : UInt64) : Bool := (s.get? i).isSome

/-- Of a lower and an upper neighbour the nearer one, on a tie the lower. -/
def nearer (i : UInt64) : Option UInt64 → Option UInt64 → Option UInt64
  | some lo, some hi => some (if i - lo ≤ hi - i then lo else hi)
  | some lo, none => some lo
  | none, hi => hi

/-- The neighbour of an index that is not stored. -/
def neighbour (s : Store) (i : UInt64) : Option UInt64 :=
  nearer i ((s.below i).getLast?.map Event.index) ((s.fromIndex i).head?.map Event.index)

/-- The stored index nearest to the given one. -/
def closest (s : Store) (i : UInt64) : Option UInt64 :=
  if s.contains i then some i else s.neighbour i

theorem le_of_mem_fromIndex {s : Store} {i : UInt64} {e : Event} (h : e ∈ s.fromIndex i) :
    i ≤ e.index := by
  obtain ⟨l, hl⟩ := s
  unfold fromIndex at h
  simp only at h
  induction l with
  | nil => simp at h
  | cons a l ih =>
    rw [List.pairwise_cons] at hl
    rw [List.dropWhile_cons] at h
    by_cases ha : a.index < i
    · simp only [ha, decide_true, if_true] at h
      exact ih hl.2 h
    · simp only [ha, decide_false] at h
      rcases List.mem_cons.mp h with rfl | h
      · exact UInt64.not_lt.mp ha
      · exact UInt64.le_trans (UInt64.not_lt.mp ha) (UInt64.le_of_lt (hl.1 e h))

theorem lt_of_mem_below {s : Store} {i : UInt64} {e : Event} (h : e ∈ s.below i) : e.index < i := by
  have hall := List.all_takeWhile (p := fun e : Event => decide (e.index < i)) (l := s.events)
  simpa using List.all_eq_true.mp hall e h

theorem below_append_fromIndex (s : Store) (i : UInt64) : s.below i ++ s.fromIndex i = s.events :=
  List.takeWhile_append_dropWhile

theorem index_ne_of_not_contains {s : Store} {i : UInt64} (h : s.contains i = false) {e : Event}
    (he : e ∈ s.events) : e.index ≠ i := by
  simp only [contains, get?, Option.isSome_eq_false_iff, Option.isNone_iff_eq_none,
    List.find?_eq_none] at h
  simpa using h e he

/-- Puts an event at its place; none if its index is stored. -/
def insert? (s : Store) (e : Event) : Option (Insertion × Store) :=
  if h : s.contains e.index then none
  else
    let below := s.below e.index
    let above := s.fromIndex e.index
    let anchor :=
      match s.neighbour e.index with
      | none => .sole
      | some n => if n < e.index then .after n else .before n
    let placement :=
      match below.isEmpty, above.isEmpty with
      | true, true => .only
      | false, true => .newest
      | true, false => .oldest
      | false, false => .between
    some (⟨e, anchor, placement, below.length⟩, ⟨below ++ e :: above, by
      have hs := s.increasing
      rw [← s.below_append_fromIndex e.index, List.pairwise_append] at hs
      rw [List.pairwise_append, List.pairwise_cons]
      refine ⟨hs.1, ⟨fun a ha => ?_, hs.2.1⟩, fun a ha b hb => ?_⟩
      · have hm : a ∈ s.events := by
          rw [← s.below_append_fromIndex e.index]; exact List.mem_append_right _ ha
        exact UInt64.lt_of_le_of_ne (le_of_mem_fromIndex ha)
          (index_ne_of_not_contains (by simpa using h) hm).symm
      · rcases List.mem_cons.mp hb with rfl | hb
        · exact lt_of_mem_below ha
        · exact hs.2.2 a ha b hb⟩)

/-- Puts events in, one after the other; the insertions are in that order. -/
def merge (s : Store) : List Event → List Insertion × Store
  | [] => ([], s)
  | e :: es =>
    match s.insert? e with
    | none => s.merge es
    | some (i, s) => let (is, s) := s.merge es; (i :: is, s)

/-- Flags an event as replied to. -/
def markReplied (s : Store) (i : UInt64) : Store where
  events := s.events.map fun e => if e.index = i then { e with replySent := true } else e
  increasing := by
    have h (e : Event) :
        (if e.index = i then { e with replySent := true } else e : Event).index = e.index := by
      split <;> rfl
    rw [List.pairwise_map]
    exact s.increasing.imp fun {a b} hab => by rw [h a, h b]; exact hab

end Store

end BoostFeed.Feed
