import BoostFeed.Proofs.Feed.Map
import BoostFeed.Proofs.Service.Reporting
import BoostFeed.Terminal.Console

/-! What the console remembers of a session. It learns of every change but a switch of views, which empties the store:
the rows that it has by then stay, until the new view stores an event under their index. Over them lie the rows of the
stored events, as they are now. -/

namespace BoostFeed

open Feed Json Terminal

namespace Terminal.Console

variable {row r : Row} {rows rows' : List (UInt64 × Row)} {i j : UInt64}

theorem lookup_insertRow (row : Row) (rows : List (UInt64 × Row)) (j : UInt64) :
    (insertRow row rows).lookup j = if j = row.index then some row else rows.lookup j := by
  induction rows with
  | nil => grind [insertRow]
  | cons p rows ih =>
    obtain ⟨i, r⟩ := p
    simp only [insertRow]
    split
    · grind
    · split
      · grind
      · grind

theorem mem_indices_insertRow :
    i ∈ (insertRow row rows).map Prod.fst ↔ i = row.index ∨ i ∈ rows.map Prod.fst := by
  induction rows with
  | nil => simp [insertRow]
  | cons p rows ih =>
    obtain ⟨k, r⟩ := p
    simp only [insertRow]
    split
    · simp
    · split
      · next h => simp [h]
      · simp only [List.map_cons, List.mem_cons, ih]
        exact or_left_comm

def Ascending (rows : List (UInt64 × Row)) : Prop := (rows.map Prod.fst).Pairwise (· < ·)

theorem Ascending.insertRow (h : Ascending rows) : Ascending (insertRow row rows) := by
  induction rows with
  | nil => simp [Ascending, Console.insertRow]
  | cons p rows ih =>
    obtain ⟨k, r⟩ := p
    obtain ⟨hk, hrows⟩ := List.pairwise_cons.mp h
    simp only [Console.insertRow]
    split
    · next hlt =>
      refine List.pairwise_cons.mpr ⟨fun j hj => ?_, h⟩
      rcases List.mem_cons.mp hj with rfl | hj
      · exact hlt
      · exact UInt64.lt_trans hlt (hk j hj)
    · split
      · next heq => exact List.pairwise_cons.mpr ⟨heq ▸ hk, hrows⟩
      · next hlt hne =>
        refine List.pairwise_cons.mpr ⟨fun j hj => ?_, ih hrows⟩
        rcases mem_indices_insertRow.mp hj with rfl | hj
        · exact UInt64.lt_of_le_of_ne (UInt64.not_lt.mp hlt) (Ne.symm hne)
        · exact hk j hj

theorem Ascending.mem_iff (h : Ascending rows) : (i, r) ∈ rows ↔ rows.lookup i = some r := by
  induction rows with
  | nil => simp
  | cons p rows ih =>
    obtain ⟨k, r'⟩ := p
    obtain ⟨hk, hrows⟩ := List.pairwise_cons.mp h
    by_cases hik : i = k
    · subst hik
      have hnone : (i, r) ∉ rows := fun hr => UInt64.lt_irrefl i (hk i (List.mem_map_of_mem hr))
      simp [hnone, eq_comm]
    · have hkey : (i == k) = false := by simpa using hik
      simp [List.lookup_cons, hkey, hik, ih hrows]

/-- Ascending rows are determined by what lies under each index. -/
theorem Ascending.ext (h : Ascending rows) (h' : Ascending rows') (hlookup : ∀ i, rows.lookup i = rows'.lookup i) :
    rows = rows' := by
  apply Store.eq_of_increasing (List.pairwise_map.mp h) (List.pairwise_map.mp h')
  rintro ⟨i, r⟩
  rw [h.mem_iff, h'.mem_iff, hlookup]

theorem Ascending.getLast?_eq {p : UInt64 × Row} (h : Ascending rows) (hp : p ∈ rows) (hmax : ∀ q ∈ rows, q.1 ≤ p.1) :
    rows.getLast? = some p := by
  cases hlast : rows.getLast? with
  | none => simp [List.getLast?_eq_none_iff.mp hlast] at hp
  | some q =>
    obtain ⟨front, rfl⟩ := List.getLast?_eq_some_iff.mp hlast
    rcases List.mem_append.mp hp with hfront | hq
    · have hlt : p.1 < q.1 := (List.pairwise_append.mp (List.pairwise_map.mp h)).2.2 p hfront q List.mem_cons_self
      exact absurd hlt (UInt64.not_lt.mpr (hmax q (by simp)))
    · rw [List.mem_singleton.mp hq]

/-- Applies effects, one after the other. -/
def applyAll (c : Console) (now : Int) (effects : List ViewEffect) : Console :=
  effects.foldl (fun c e => (c.apply now e).2) c

theorem remember_of_row? {c : Console} {e : ViewEffect} (h : ∀ i, e ≠ .replyMarked i) :
    c.remember e = { c with rows := (e.row?.toList).foldl (fun rows row => insertRow row rows) c.rows } := by
  cases e with
  | replyMarked i => exact absurd rfl (h i)
  | _ => rfl

/-- Effects that mark nothing put in the rows that they bring. -/
theorem applyAll_of_unmarked {c : Console} {now : Int} {effects : List ViewEffect}
    (h : ∀ i, .replyMarked i ∉ effects) : c.applyAll now effects =
      { c with rows := (effects.filterMap ViewEffect.row?).foldl (fun rows row => insertRow row rows) c.rows } := by
  induction effects generalizing c with
  | nil => rfl
  | cons e effects ih =>
    have he : ∀ i, e ≠ .replyMarked i := fun i hi => h i (hi ▸ List.mem_cons_self)
    have heffects : ∀ i, .replyMarked i ∉ effects := fun i hi => h i (List.mem_cons_of_mem e hi)
    change (c.remember e).applyAll now effects = _
    rw [ih heffects, remember_of_row? he]
    cases hr : e.row? <;> simp [hr]

theorem lookup_marked (rows : List (UInt64 × Row)) (k j : UInt64) :
    (rows.map fun (i, r) => (i, if i = k then { r with replySent := true } else r)).lookup j =
      if j = k then (rows.lookup j).map fun r => { r with replySent := true } else rows.lookup j := by
  induction rows with
  | nil => simp
  | cons p rows ih =>
    obtain ⟨i, r⟩ := p
    by_cases hi : j = i
    · subst hi
      by_cases hk : j = k <;> simp [hk]
    · have hkey : (j == i) = false := by simpa using hi
      simpa [List.lookup_cons, hkey] using ih

theorem ascending_foldl_insertRow (h : Ascending rows) (new : List Row) :
    Ascending (new.foldl (fun rows row => Console.insertRow row rows) rows) := by
  induction new generalizing rows with
  | nil => exact h
  | cons row new ih => exact ih h.insertRow

end Terminal.Console

/-- The rows of the stored events, under their indices. -/
def Session.rows (s : Session) : List (UInt64 × Row) := s.store.events.map fun e => (e.index, s.row e)

theorem Session.ascending_rows (s : Session) : Console.Ascending s.rows := by
  have hindices : s.rows.map Prod.fst = s.store.indices := by simp [Session.rows, Store.indices]
  rw [Console.Ascending, hindices]
  exact s.store.indices_increasing

theorem Session.lookup_rows (s : Session) (i : UInt64) : s.rows.lookup i = (s.store.get? i).map s.row := by
  ext r
  rw [← s.ascending_rows.mem_iff, Option.map_eq_some_iff]
  simp only [Store.get?_eq_some_iff, Session.rows, List.mem_map, Prod.mk.injEq]
  grind

namespace Session

variable {s : Session} {i : UInt64}

theorem replyMarked_notMem_applyPage (q : PageRequest) (page : List Event) :
    .replyMarked i ∉ (s.applyPage q page).1.effects := by
  apply notMem_applyPage <;> simp [insertedEffect]

theorem replyMarked_notMem_planColdStart (raw : Value) : .replyMarked i ∉ (s.planColdStart raw).2.1 := by
  unfold planColdStart
  split
  · simp
  · cases raw.isNumber <;> simp

theorem row_markReplied (s : Session) (k i : UInt64) :
    ((s.markReplied k).2.store.get? i).map (s.markReplied k).2.row =
      if i = k then ((s.store.get? i).map s.row).map fun r => { r with replySent := true }
      else (s.store.get? i).map s.row := by
  have hmark : (s.row ∘ fun e => { e with replySent := true }) = (fun r => { r with replySent := true }) ∘ s.row := rfl
  change ((s.store.markReplied k).get? i).map s.row = _
  rw [Store.get?_markReplied]
  by_cases hi : i = k
  · simp [hi, hmark]
  · simp [hi, Ne.symm hi]

/-- The rows that a merge brings are those of the store behind it, over what lay below. -/
theorem lookup_merged {left : List (UInt64 × Row)} {st : Store} (l : List Event) {rows : List (UInt64 × Row)}
    (h : ∀ i, rows.lookup i = ((st.get? i).map s.row <|> left.lookup i)) (i : UInt64) :
    (((st.merge l).1.map fun i => s.row i.event).foldl (fun rows row => Console.insertRow row rows) rows).lookup i =
      (((st.merge l).2.get? i).map s.row <|> left.lookup i) := by
  induction st, l using Store.merge_induction generalizing rows with
  | nil st => exact h i
  | known st e l hm ih =>
    rw [Store.merge_cons_of_mem hm]
    exact ih h
  | inserted st e l ins t he ih =>
    rw [Store.merge_cons_of_insert? he]
    refine ih fun j => ?_
    have hindex : (s.row e).index = e.index := rfl
    simp only [Console.lookup_insertRow, Store.get?_insert? he, h j, Store.insert?_event he]
    by_cases hj : j = e.index
    · simp [hindex, hj]
    · simp [hindex, hj, Ne.symm hj]

end Session

/-- What is done to a session at a time, whichever calls wait meanwhile. -/
inductive SessionStep where
  /-- A reading of the current index has come. -/
  | prime (raw : Value)
  /-- A page planned for a view has come, or events were pushed for it. -/
  | page (view : View) (q : PageRequest) (events : List Event)
  /-- A reply to the event of an index was answered. -/
  | reply (index : UInt64) (a : ReplyAnswer)
  | switchView (view : View)

/-- The effects that a step tells, and the reconciler behind it. A switch tells none. -/
def Reconciler.perform (r : Reconciler) : SessionStep → List ViewEffect × Reconciler
  | .prime raw =>
    let (_, effects, session) := r.session.planColdStart raw
    (effects, { r with session })
  | .page view q events =>
    let (outcome, r) := r.apply view q events
    (outcome.effects, r)
  | .reply index a => r.recordReply index a
  | .switchView view => ([], { r with session := r.session.reset view })

/-- A reconciler with the console that is told its effects. -/
structure Viewing where
  reconciler : Reconciler
  console : Console := {}
  /-- The rows that the console had when the view was switched last. -/
  left : List (UInt64 × Row) := []

namespace Viewing

def session (v : Viewing) : Session := v.reconciler.session

def step (v : Viewing) (now : Int) (s : SessionStep) : Viewing :=
  let (effects, reconciler) := v.reconciler.perform s
  { reconciler
    console := v.console.applyAll now effects
    left := match s with
      | .switchView _ => v.console.rows
      | _ => v.left }

/-- Steps, each at its time. -/
def run (v : Viewing) (steps : List (Int × SessionStep)) : Viewing :=
  steps.foldl (fun v p => v.step p.1 p.2) v

/-- The console has the rows of the stored events, over those left behind. -/
structure Remembers (v : Viewing) : Prop where
  ascending : Console.Ascending v.console.rows
  lookup : ∀ i, v.console.rows.lookup i = ((v.session.store.get? i).map v.session.row <|> v.left.lookup i)

variable {v : Viewing}

theorem Remembers.prime (h : v.Remembers) (now : Int) (raw : Value) : (v.step now (.prime raw)).Remembers := by
  have hconsole : (v.step now (.prime raw)).console = v.console := by
    change v.console.applyAll now (v.session.planColdStart raw).2.1 = v.console
    rw [Console.applyAll_of_unmarked fun i => Session.replyMarked_notMem_planColdStart raw, Session.rows_planColdStart]
    rfl
  have hsession : (v.step now (.prime raw)).session = (v.session.planColdStart raw).2.2 := rfl
  rw [Session.planColdStart_session] at hsession
  constructor
  · rw [hconsole]
    exact h.ascending
  · rw [hconsole, hsession]
    exact h.lookup

theorem Remembers.page (h : v.Remembers) (now : Int) (view : View) (q : PageRequest) (events : List Event) :
    (v.step now (.page view q events)).Remembers := by
  by_cases hv : v.session.view = view
  · have hsession : (v.step now (.page view q events)).session = (v.session.applyPage q events).2 :=
      (Reconciler.session_apply view q events).trans (if_pos hv)
    have hconsole : (v.step now (.page view q events)).console.rows =
        ((v.session.store.merge (v.session.accepted events)).1.map fun i => v.session.row i.event).foldl
          (fun rows row => Console.insertRow row rows) v.console.rows := by
      have heffects : (v.reconciler.perform (.page view q events)).1 = (v.session.applyPage q events).1.effects := by
        simp only [Viewing.session] at hv
        simp [Reconciler.perform, Reconciler.apply, hv, Viewing.session]
      change (v.console.applyAll now (v.reconciler.perform (.page view q events)).1).rows = _
      rw [heffects, Console.applyAll_of_unmarked fun i => Session.replyMarked_notMem_applyPage q events,
        Session.rows_applyPage]
    constructor
    · rw [hconsole]
      exact Console.ascending_foldl_insertRow h.ascending _
    · rw [hconsole, hsession]
      exact Session.lookup_merged _ h.lookup
  · have hperform : v.reconciler.perform (.page view q events) = ([], v.reconciler) := by
      simp only [Viewing.session] at hv
      simp [Reconciler.perform, Reconciler.apply, hv]
    have hstep : v.step now (.page view q events) = v := by
      unfold Viewing.step
      rw [hperform]
      rfl
    rw [hstep]
    exact h

theorem Remembers.reply (h : v.Remembers) (now : Int) (index : UInt64) (a : ReplyAnswer) :
    (v.step now (.reply index a)).Remembers := by
  cases hsuccess : a.success with
  | false =>
    have hstep : v.step now (.reply index a) = v := by
      simp only [Viewing.step, Reconciler.perform, Reconciler.recordReply, hsuccess]
      rfl
    rw [hstep]
    exact h
  | true =>
    let k := a.replyTo.getD index
    have hperform : v.reconciler.perform (.reply index a) =
        (if v.session.store.contains k then [.replyMarked k] else [],
          { v.reconciler with session := (v.session.markReplied k).2 }) := by
      simp only [Reconciler.perform, Reconciler.recordReply, hsuccess]
      rfl
    have hsession : (v.step now (.reply index a)).session = (v.session.markReplied k).2 := by
      unfold Viewing.step Viewing.session
      rw [hperform]
      rfl
    have hleft : (v.step now (.reply index a)).left = v.left := rfl
    cases hstored : v.session.store.contains k with
    | true =>
      have hrows : (v.step now (.reply index a)).console.rows =
          v.console.rows.map fun (j, r) => (j, if j = k then { r with replySent := true } else r) := by
        unfold Viewing.step
        rw [hperform, if_pos hstored]
        rfl
      obtain ⟨e, he⟩ := Option.isSome_iff_exists.mp hstored
      constructor
      · rw [hrows, Console.Ascending, List.map_map]
        exact h.ascending
      · intro i
        rw [hrows, hsession, hleft, Console.lookup_marked, h.lookup, Session.row_markReplied]
        by_cases hi : i = k
        · simp [hi, he]
        · simp [hi]
    | false =>
      have hconsole : (v.step now (.reply index a)).console = v.console := by
        unfold Viewing.step
        rw [hperform, hstored]
        rfl
      have hnone : v.session.store.get? k = none := by simpa [Store.contains] using hstored
      constructor
      · rw [hconsole]
        exact h.ascending
      · intro i
        rw [hconsole, hsession, hleft, h.lookup, Session.row_markReplied]
        by_cases hi : i = k
        · simp [hi, hnone]
        · simp [hi]

theorem Remembers.step (h : v.Remembers) (now : Int) (s : SessionStep) : (v.step now s).Remembers := by
  cases s with
  | prime raw => exact h.prime now raw
  | page view q events => exact h.page now view q events
  | reply index a => exact h.reply now index a
  | switchView view => exact ⟨h.ascending, fun i => rfl⟩

theorem Remembers.run (h : v.Remembers) (steps : List (Int × SessionStep)) : (v.run steps).Remembers := by
  induction steps generalizing v with
  | nil => exact h
  | cons p steps ih => exact ih (h.step p.1 p.2)

theorem left_run {steps : List (Int × SessionStep)} (h : ∀ p ∈ steps, ∀ view, p.2 ≠ .switchView view) :
    (v.run steps).left = v.left := by
  induction steps generalizing v with
  | nil => rfl
  | cons p steps ih =>
    obtain ⟨hp, hsteps⟩ := List.forall_mem_cons.mp h
    have hstep : (v.step p.1 p.2).left = v.left := by
      cases hs : p.2 with
      | switchView view => exact absurd hs (hp view)
      | _ => rfl
    exact (ih hsteps).trans hstep

theorem Remembers.rows_iff (h : v.Remembers) :
    v.console.rows = v.session.rows ↔ ∀ p ∈ v.left, p.1 ∈ v.session.store.indices := by
  constructor
  · intro hrows p hp
    by_contra hnot
    have hnone : v.session.store.get? p.1 = none := by simpa [Store.contains] using Store.contains_eq_false_iff.mpr hnot
    have hlookup := h.lookup p.1
    rw [hrows, Session.lookup_rows, hnone] at hlookup
    exact absurd (List.lookup_eq_none_iff.mp hlookup.symm p hp) (by simp)
  · intro hleft
    apply h.ascending.ext v.session.ascending_rows
    intro i
    rw [h.lookup, Session.lookup_rows]
    cases hget : v.session.store.get? i with
    | some e => rfl
    | none =>
      have hnot : i ∉ v.session.store.indices := Store.contains_eq_false_iff.mp (by simp [Store.contains, hget])
      have hnone : v.left.lookup i = none := by
        apply List.lookup_eq_none_iff.mpr
        intro p hp
        simpa using fun hi : i = p.1 => hnot (hi ▸ hleft p hp)
      simp [hnone]

/-- Where nothing left behind lies above all stored events, the newest row is that of the newest event. -/
theorem Remembers.getLast?_rows (h : v.Remembers) (hleft : ∀ p ∈ v.left, ∃ e ∈ v.session.store.events, p.1 ≤ e.index) :
    v.console.rows.getLast? = v.session.rows.getLast? := by
  cases hlast : v.session.store.events.getLast? with
  | none =>
    have hempty : v.session.store.events = [] := List.getLast?_eq_none_iff.mp hlast
    have hrows : v.console.rows = v.session.rows := h.rows_iff.mpr fun p hp => by
      obtain ⟨e, he, -⟩ := hleft p hp
      simp [hempty] at he
    rw [hrows]
  | some e =>
    have hmem : e ∈ v.session.store.events := List.mem_of_getLast? hlast
    have hnewest {x : Event} (hx : x ∈ v.session.store.events) : x.index ≤ e.index :=
      Store.le_highest (by simp [Store.highest, hlast]) hx
    have hrow : (e.index, v.session.row e) ∈ v.console.rows := by
      rw [h.ascending.mem_iff, h.lookup, Store.get?_eq_some_iff.mpr ⟨hmem, rfl⟩]
      rfl
    have hmax : ∀ q ∈ v.console.rows, q.1 ≤ e.index := by
      intro q hq
      have hlookup := (h.lookup q.1).symm.trans (h.ascending.mem_iff.mp hq)
      cases hget : v.session.store.get? q.1 with
      | some x =>
        obtain ⟨hx, hindex⟩ := Store.get?_eq_some_iff.mp hget
        exact hindex ▸ hnewest hx
      | none =>
        rw [hget] at hlookup
        obtain ⟨front, back, hleft', -⟩ := List.lookup_eq_some_iff.mp hlookup
        obtain ⟨x, hx, hle⟩ := hleft (q.1, q.2) (by simp [hleft'])
        exact UInt64.le_trans hle (hnewest hx)
    rw [h.ascending.getLast?_eq hrow hmax, Session.rows, List.getLast?_map, hlast]
    rfl

/-- A console that is told of a new session on a server. -/
def fresh (client : Client) (view : View) (settings : Settings) (rules : List Numerology.Rule) (apps : AppCatalog)
    (colors : Bool) : Viewing where
  reconciler := { client, session := .fresh view settings rules apps }
  console := { colors }

theorem remembers_fresh (client : Client) (view : View) (settings : Settings) (rules : List Numerology.Rule)
    (apps : AppCatalog) (colors : Bool) : (fresh client view settings rules apps colors).Remembers where
  ascending := .nil
  lookup _ := rfl

/-- After any run a console has the rows of the stored events, as they are now, and under all other indices the rows
that it had when the view was switched last. So it shows the current view and no more if there has been no switch, or if
all that was left behind has been covered; and it tells the age of the newest event if nothing left behind lies above. -/
theorem console_remembers (client : Client) (view : View) (settings : Settings) (rules : List Numerology.Rule)
    (apps : AppCatalog) (colors : Bool) (steps : List (Int × SessionStep)) (now : Int) :
    let v := (fresh client view settings rules apps colors).run steps
    (∀ i, v.console.rows.lookup i = ((v.session.store.get? i).map v.session.row <|> v.left.lookup i)) ∧
    (v.console.rows = v.session.rows ↔ ∀ p ∈ v.left, p.1 ∈ v.session.store.indices) ∧
    ((∀ p ∈ steps, ∀ view, p.2 ≠ .switchView view) → v.console.rows = v.session.rows) ∧
    ((∀ p ∈ v.left, ∃ e ∈ v.session.store.events, p.1 ≤ e.index) →
      v.console.refreshAges now = { v.console with rows := v.session.rows }.refreshAges now) := by
  intro v
  have h : v.Remembers := (remembers_fresh client view settings rules apps colors).run steps
  refine ⟨h.lookup, h.rows_iff, fun hsteps => ?_, fun hleft => ?_⟩
  · have hleft : v.left = [] := left_run hsteps
    exact h.rows_iff.mpr (by simp [hleft])
  · simp only [Console.refreshAges]
    rw [h.getLast?_rows hleft]

def ofBoosts : Viewing := fresh (Traffic.ofLocal .boosts).client .boosts {} [] {} false

/-- A boost comes, and the view is switched to sent payments. -/
def boostThenSwitch : List (Int × SessionStep) :=
  [(0, .page .boosts (Session.planForward {}) [{ index := 30, action := .boost }]), (0, .switchView .sent)]

/-- A payment under its index covers the boost that was left behind. -/
theorem covered_console_remembers :
    let payment : Int × SessionStep :=
      (0, .page .sent (Session.planForward {}) [{ index := 30, action := .boost, sender := "ann" }])
    let v := ofBoosts.run (boostThenSwitch ++ [payment])
    v.left.length = 1 ∧ (∀ p ∈ v.left, p.1 ∈ v.session.store.indices) ∧ v.console.rows = v.session.rows := by
  intro payment v
  obtain ⟨-, hrows, -, -⟩ := console_remembers (Traffic.ofLocal .boosts).client .boosts {} [] {} false
    (boostThenSwitch ++ [payment]) 0
  have hleft : ∀ p ∈ v.left, p.1 ∈ v.session.store.indices := by decide +kernel
  exact ⟨by decide +kernel, hleft, hrows.mpr hleft⟩

/-- A switch leaves the boost on the console over an empty store, and there it stays the latest over older payments. -/
theorem switch_leaves_rows :
    let v := ofBoosts.run boostThenSwitch
    let v' := v.step 0 (.page .sent v.session.planForward [{ index := 5, action := .boost }])
    (v.session.view = .sent ∧ v.session.store.indices = [] ∧ v.console.rows.map Prod.fst = [30] ∧
      v.console.refreshAges 0 = ["Latest: #30 just now"]) ∧
    (v'.session.store.indices = [5] ∧ v'.console.rows.map Prod.fst = [5, 30] ∧
      v'.console.refreshAges 0 = ["Latest: #30 just now"]) := by
  decide +kernel

end Viewing

end BoostFeed
