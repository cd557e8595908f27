import Mathlib.Logic.Function.Iterate
import Mathlib.Tactic.ByContra
import BoostFeed.Proofs.Feed.History
import BoostFeed.Proofs.Session.Rendering

/-! Loading older history from a server with a fixed log. A page of history starts with the event at the cursor, so it
never comes empty, and the control for more hides only when a page was asked for from the first index. Down to there a
page lowers the cursor as long as fewer dropped events precede one another than it has room for behind the cursor. -/

namespace BoostFeed.Session

open Feed Numerology

variable {server : HistoryServer} {s : Session} {start : UInt64} {e : Event}

/-- The user asks for older history, if the control for it shows. -/
def loadOlder (server : HistoryServer) (s : Session) : Session :=
  match s.loadMoreCursor with
  | none => s
  | some _ => (s.applyPage s.planBackfill (server.answer s.planBackfill.query)).2

theorem loadOlder_of_hidden (h : s.loadMoreCursor = none) : s.loadOlder server = s := by
  simp [loadOlder, h]

@[simp]
theorem admits_loadOlder : (s.loadOlder server).admits = s.admits := by
  unfold loadOlder
  split <;> rfl

theorem mem_loadOlder_of_mem (he : e ∈ s.store.events) : e ∈ (s.loadOlder server).store.events := by
  unfold loadOlder
  split
  · exact he
  · exact mem_applyPage_of_mem he

theorem mem_iterate_of_mem (n : Nat) (he : e ∈ s.store.events) :
    e ∈ ((loadOlder server)^[n] s).store.events := by
  induction n generalizing s with
  | zero => exact he
  | succ n ih => exact ih (mem_loadOlder_of_mem he)

/-- Every stored event stands for one of the log that the session admits. -/
def Known (log : List Event) (s : Session) : Prop :=
  ∀ x ∈ s.store.events, ∃ e ∈ log, e.index = x.index ∧ s.admits e = true

theorem Known.applyPage {log : List Event} (h : s.Known log) (r : PageRequest) {page : List Event}
    (hpage : ∀ e ∈ page, e ∈ log) : (s.applyPage r page).2.Known log := by
  intro x hx
  rcases mem_or_mem_of_mem_applyPage hx with hx | ⟨hx, ha⟩
  · exact h x hx
  · exact ⟨x, hpage x hx, rfl, ha⟩

theorem Known.markReplied {log : List Event} (h : s.Known log) (i : UInt64) : (s.markReplied i).2.Known log := by
  intro x hx
  have hi : x.index ∈ (s.markReplied i).2.store.indices := Store.mem_indices.mpr ⟨x, hx, rfl⟩
  rw [Session.markReplied, Store.indices_markReplied] at hi
  obtain ⟨y, hy, hyx⟩ := Store.mem_indices.mp hi
  obtain ⟨e, he, hey, ha⟩ := h y hy
  exact ⟨e, he, hey.trans hyx, ha⟩

theorem Known.calls {log : List Event} {cs : List SessionCall} (h : s.Known log)
    (hcs : ∀ r page, .applyPage r page ∈ cs → ∀ e ∈ page, e ∈ log) : (s.calls cs).2.Known log := by
  refine calls_invariant_on (fun t c hc ht => ?_) h
  cases c with
  | planColdStart raw =>
    simp only [call, planColdStart_session]
    exact ht
  | plan direction => exact ht
  | applyPage r page => exact ht.applyPage r (hcs r page hc)
  | markReplied i => exact ht.markReplied i

/-- The control for older history stands at the lowest of known events. -/
structure Stands (server : HistoryServer) (s : Session) (c : UInt64) : Prop where
  known : s.Known server.log
  cursor : s.loadMoreCursor = some c
  lowest : s.store.lowest = some c

namespace Stands

variable {c : UInt64} {x : Event}

theorem exists_mem_log (h : Stands server s c) : ∃ a ∈ server.log, a.index = c := by
  obtain ⟨x, hx, rfl⟩ := Store.mem_of_lowest h.lowest
  obtain ⟨a, ha, hax, -⟩ := h.known x hx
  exact ⟨a, ha, hax⟩

theorem one_le (h : Stands server s c) : 1 ≤ c := by
  obtain ⟨a, ha, rfl⟩ := h.exists_mem_log
  exact server.positive a ha

theorem loadOlder_eq (h : Stands server s c) :
    s.loadOlder server = (s.applyPage s.planBackfill (server.answer ⟨c, backfillPageSize, true⟩)).2 := by
  have hquery : s.planBackfill.query = ⟨c, backfillPageSize, true⟩ := by
    simp [planBackfill, h.lowest, Option.filter, h.one_le]
  simp [loadOlder, h.cursor, hquery]

theorem mem_or_mem (h : Stands server s c) (hx : x ∈ (s.loadOlder server).store.events) :
    x ∈ s.store.events ∨ x ∈ server.answer ⟨c, backfillPageSize, true⟩ ∧ s.admits x = true := by
  rw [h.loadOlder_eq] at hx
  exact mem_or_mem_of_mem_applyPage hx

theorem mem_log_of_mem_answer (hx : x ∈ server.answer ⟨c, backfillPageSize, true⟩) : x ∈ server.log :=
  ((HistoryServer.mem_answer rfl).mp hx).1

theorem mem_of_lt (h : Stands server s c) (hx : x ∈ server.answer ⟨c, backfillPageSize, true⟩)
    (ha : s.admits x = true) (hxc : x.index < c) : x ∈ (s.loadOlder server).store.events := by
  rw [h.loadOlder_eq, store_applyPage]
  apply Store.mem_merge_of_new (mem_accepted.mpr ⟨hx, ha⟩)
  · intro hi
    obtain ⟨y, hy, hyx⟩ := Store.mem_indices.mp hi
    exact UInt64.not_lt.mpr (hyx ▸ Store.lowest_le h.lowest hy) hxc
  · intro a ha hax
    exact FeedServer.eq_of_index_eq (mem_log_of_mem_answer (mem_accepted.mp ha).1) (mem_log_of_mem_answer hx) hax

/-- A page of history is never empty, so only the first index hides the control. -/
theorem loadMoreCursor_loadOlder (h : Stands server s c) : (s.loadOlder server).loadMoreCursor =
    if 1 < c then (s.loadOlder server).store.lowest else none := by
  obtain ⟨a, ha, hac⟩ := h.exists_mem_log
  have hpage : (server.answer ⟨c, backfillPageSize, true⟩).isEmpty = false := by
    rw [List.isEmpty_eq_false_iff_exists_mem]
    exact ⟨a, HistoryServer.mem_answer_self rfl (Nat.succ_pos _) ha hac⟩
  rw [h.loadOlder_eq]
  simp [applyPage, nextLoadMore, planBackfill, h.lowest, Option.filter, h.one_le, hpage]

theorem known_loadOlder (h : Stands server s c) : (s.loadOlder server).Known server.log := by
  rw [h.loadOlder_eq]
  exact h.known.applyPage _ fun _ => mem_log_of_mem_answer

end Stands

/-- What loading history keeps. From `start` on downwards nothing admitted is missing above a stored event, and the
control hides only once the first index is stored. -/
structure Descending (server : HistoryServer) (start : UInt64) (s : Session) : Prop where
  known : s.Known server.log
  cursor : s.CursorLowest
  reached : ∃ x ∈ s.store.events, x.index ≤ start
  ended : s.loadMoreCursor = none → ∃ x ∈ s.store.events, x.index ≤ 1
  closed : ∀ e ∈ server.log, e.index < start → s.admits e = true →
    ∀ x ∈ s.store.events, x.index ≤ e.index → e ∈ s.store.events

namespace Descending

theorem stands (h : Descending server start s) {c : UInt64} (hc : s.loadMoreCursor = some c) :
    Stands server s c := ⟨h.known, hc, h.cursor c hc⟩

theorem loadOlder (h : Descending server start s) : Descending server start (s.loadOlder server) := by
  cases hc : s.loadMoreCursor with
  | none => rwa [loadOlder_of_hidden hc]
  | some c =>
    have hstands := h.stands hc
    obtain ⟨y, hy, hyc⟩ := Store.mem_of_lowest hstands.lowest
    refine ⟨hstands.known_loadOlder, fun c' hc' => ?_, ?_, fun hended => ?_, fun e he hstart ha x hx hxe => ?_⟩
    · rw [hstands.loadMoreCursor_loadOlder] at hc'
      split at hc'
      · exact hc'
      · cases hc'
    · obtain ⟨x, hx, hxs⟩ := h.reached
      exact ⟨x, mem_loadOlder_of_mem hx, hxs⟩
    · refine ⟨y, mem_loadOlder_of_mem hy, ?_⟩
      rw [hstands.loadMoreCursor_loadOlder] at hended
      split at hended
      · have hy' : y ∈ (s.loadOlder server).store.events := mem_loadOlder_of_mem hy
        obtain ⟨l, hl⟩ := Store.lowest_isSome hy'
        simp [hl] at hended
      next hone => exact hyc ▸ UInt64.not_lt.mp hone
    · rw [admits_loadOlder] at ha
      rcases hstands.mem_or_mem hx with hx | ⟨hx, -⟩
      · exact mem_loadOlder_of_mem (h.closed e he hstart ha x hx hxe)
      · by_cases hce : c ≤ e.index
        · exact mem_loadOlder_of_mem (h.closed e he hstart ha y hy (hyc ▸ hce))
        · -- between the lowest event of the page and the cursor the page brings all there is
          have hec := UInt64.not_le.mp hce
          exact hstands.mem_of_lt (HistoryServer.mem_answer_of_le rfl hx he (UInt64.le_of_lt hec) hxe) ha hec

theorem iterate (h : Descending server start s) (n : Nat) :
    Descending server start ((Session.loadOlder server)^[n] s) := by
  induction n generalizing s with
  | zero => exact h
  | succ n ih => exact ih h.loadOlder

/-- Once the control is hidden, all older history is there. -/
theorem mem_of_hidden (h : Descending server start s) (hhidden : s.loadMoreCursor = none) (he : e ∈ server.log)
    (hes : e.index < start) (ha : s.admits e = true) : e ∈ s.store.events := by
  obtain ⟨x, hx, hone⟩ := h.ended hhidden
  exact h.closed e he hes ha x hx (UInt64.le_trans hone (server.positive e he))

/-- A stored first index hides the control with the next page. -/
theorem hidden_loadOlder (h : Descending server start s) {x : Event} (hx : x ∈ s.store.events) (hone : x.index ≤ 1) :
    (s.loadOlder server).loadMoreCursor = none := by
  cases hc : s.loadMoreCursor with
  | none => rw [loadOlder_of_hidden hc, hc]
  | some c =>
    have hstands := h.stands hc
    have hle : c ≤ 1 := UInt64.le_trans (Store.lowest_le hstands.lowest hx) hone
    rw [hstands.loadMoreCursor_loadOlder, if_neg (UInt64.not_lt.mpr hle)]

end Descending

@[simp]
theorem admits_iterate (n : Nat) : ((loadOlder server)^[n] s).admits = s.admits := by
  induction n generalizing s with
  | zero => rfl
  | succ n ih => rw [Function.iterate_succ_apply, ih, admits_loadOlder]

/-- How many events of the log lie below all stored ones. -/
def remainingBelow (server : HistoryServer) (s : Session) : Nat :=
  server.log.countP fun y => ∀ x ∈ s.store.events, y.index < x.index

/-- From no index down from `start` to an event do so many dropped events precede that a page ends with them. -/
def WithinReach (server : HistoryServer) (s : Session) (start : UInt64) (e : Event) : Prop :=
  ∀ c, c ≤ start → e.index < c →
    ∃ x ∈ highestOf server.log (·.index < c) (backfillPageSize - 1), s.admits x = true

theorem remainingBelow_loadOlder_lt {c : UInt64} (h : Stands server s c) {x : Event}
    (hx : x ∈ highestOf server.log (·.index < c) (backfillPageSize - 1)) (ha : s.admits x = true) :
    remainingBelow server (s.loadOlder server) < remainingBelow server s := by
  obtain ⟨hlog, hxc, -⟩ := (mem_highestOf server.distinct).mp hx
  simp only [decide_eq_true_iff] at hxc
  have hstored : x ∈ (s.loadOlder server).store.events :=
    h.mem_of_lt (HistoryServer.mem_answer_of_mem_below hx) ha hxc
  exact countP_beyond_lt (fun _ => mem_loadOlder_of_mem) hlog hstored (UInt64.lt_irrefl _)
    fun y hy => UInt64.lt_of_lt_of_le hxc (Store.lowest_le h.lowest hy)

theorem mem_iterate_of_withinReach (h : Descending server start s) (he : e ∈ server.log) (hes : e.index < start)
    (ha : s.admits e = true) (hr : WithinReach server s start e) {n : Nat} (hn : remainingBelow server s ≤ n) :
    e ∈ ((loadOlder server)^[n] s).store.events := by
  -- while the event is missing, each page leaves fewer events below the stored ones
  induction n generalizing s with
  | zero =>
    by_contra hmiss
    have hpos : 0 < remainingBelow server s := by
      simp only [remainingBelow, List.countP_pos_iff, decide_eq_true_iff]
      exact ⟨e, he, fun x hx => UInt64.not_le.mp fun hxe => hmiss (h.closed e he hes ha x hx hxe)⟩
    omega
  | succ n ih =>
    by_cases hm : e ∈ s.store.events
    · exact mem_iterate_of_mem (n + 1) hm
    · cases hc : s.loadMoreCursor with
      | none => exact absurd (h.mem_of_hidden hc he hes ha) hm
      | some c =>
        have hstands := h.stands hc
        obtain ⟨y, hy, hyc⟩ := Store.mem_of_lowest hstands.lowest
        have hec : e.index < c := UInt64.not_le.mp fun hce => hm (h.closed e he hes ha y hy (hyc ▸ hce))
        obtain ⟨z, hz, hzs⟩ := h.reached
        obtain ⟨x, hx, hax⟩ := hr c (UInt64.le_trans (Store.lowest_le hstands.lowest hz) hzs) hec
        have hlt := remainingBelow_loadOlder_lt hstands hx hax
        refine ih h.loadOlder (by simpa using ha) (fun c hc hec => ?_) (by omega)
        simpa using hr c hc hec

/-- Where a page behind `c` brings nothing admitted, nothing below `c` is stored. -/
theorem le_index_loadOlder {c : UInt64} (h : Descending server start s)
    (hle : ∀ x ∈ s.store.events, c ≤ x.index)
    (hstall : ∀ x ∈ highestOf server.log (·.index < c) (backfillPageSize - 1), s.admits x = false) :
    ∀ x ∈ (s.loadOlder server).store.events, c ≤ x.index := by
  cases hl : s.loadMoreCursor with
  | none => rwa [loadOlder_of_hidden hl]
  | some l =>
    intro x hx
    have hstands := h.stands hl
    rcases hstands.mem_or_mem hx with hx | ⟨hx, ha⟩
    · exact hle x hx
    · apply UInt64.not_lt.mp
      intro hxc
      obtain ⟨y, hy, hyl⟩ := Store.mem_of_lowest hstands.lowest
      obtain ⟨a, halog, hal⟩ := hstands.exists_mem_log
      have hmem := HistoryServer.mem_below_of_mem_answer rfl halog hal (hyl ▸ hle y hy) hxc hx
      rw [hstall x hmem] at ha
      cases ha

theorem le_index_iterate {c : UInt64} (h : Descending server start s)
    (hle : ∀ x ∈ s.store.events, c ≤ x.index)
    (hstall : ∀ x ∈ highestOf server.log (·.index < c) (backfillPageSize - 1), s.admits x = false) (n : Nat) :
    ∀ x ∈ ((loadOlder server)^[n] s).store.events, c ≤ x.index := by
  induction n generalizing s with
  | zero => exact hle
  | succ n ih => exact ih h.loadOlder (le_index_loadOlder h hle hstall) (by simpa using hstall)

theorem withinReach_of_mem_iterate (h : Descending server start s) (hlowest : s.store.lowest = some start) {n : Nat}
    {x : Event} (hx : x ∈ ((loadOlder server)^[n] s).store.events) (hxe : x.index = e.index) :
    WithinReach server s start e := by
  intro c hc hec
  by_contra hnone
  have hstall : ∀ y ∈ highestOf server.log (·.index < c) (backfillPageSize - 1), s.admits y = false :=
    fun y hy => by simpa using fun ha => hnone ⟨y, hy, ha⟩
  have hle : ∀ y ∈ s.store.events, c ≤ y.index := fun y hy => UInt64.le_trans hc (Store.lowest_le hlowest hy)
  have hcx := le_index_iterate h hle hstall n x hx
  exact UInt64.not_lt.mpr (hxe ▸ hcx) hec

theorem exists_first_of_hidden (h : Descending server start s) (hlowest : s.store.lowest = some start) {n : Nat}
    (hn : ((loadOlder server)^[n] s).loadMoreCursor = none) :
    ∃ e ∈ server.log, e.index = 1 ∧ s.admits e = true ∧ WithinReach server s start e := by
  obtain ⟨x, hx, hone⟩ := (h.iterate n).ended hn
  obtain ⟨e, he, hex, ha⟩ := (h.iterate n).known x hx
  rw [admits_iterate] at ha
  have hpositive := server.positive e he
  exact ⟨e, he, UInt64.le_antisymm (hex ▸ hone) hpositive, ha, withinReach_of_mem_iterate h hlowest hx hex.symm⟩

/-- As many rounds as the log has events store its first index, and one more hides the control. -/
theorem hidden_of_first (h : Descending server start s) (hlowest : s.store.lowest = some start)
    (he : e ∈ server.log) (hone : e.index = 1) (ha : s.admits e = true) (hr : WithinReach server s start e) :
    ((loadOlder server)^[server.log.length + 1] s).loadMoreCursor = none := by
  have hstored : ∃ x ∈ ((loadOlder server)^[server.log.length] s).store.events, x.index ≤ 1 := by
    by_cases hes : e.index < start
    · exact ⟨e, mem_iterate_of_withinReach h he hes ha hr List.countP_le_length, UInt64.le_of_eq hone⟩
    · obtain ⟨x, hx, hxs⟩ := Store.mem_of_lowest hlowest
      exact ⟨x, mem_iterate_of_mem _ hx, hxs ▸ hone ▸ UInt64.not_lt.mp hes⟩
  obtain ⟨x, hx, hxone⟩ := hstored
  rw [Function.iterate_succ_apply']
  exact (h.iterate server.log.length).hidden_loadOlder hx hxone

/-- A session that has only seen events of the log stands where history starts. -/
theorem descending_of_calls {view : View} {settings : Settings} {rules : List Rule} {apps : AppCatalog}
    {cs : List SessionCall} (hcs : ∀ r page, .applyPage r page ∈ cs → ∀ e ∈ page, e ∈ server.log)
    (hstart : ((fresh view settings rules apps).calls cs).2.loadMoreCursor = some start) :
    Descending server start ((fresh view settings rules apps).calls cs).2 := by
  have hknown : (fresh view settings rules apps).Known server.log := fun _ hx => by cases hx
  have hcursor : (fresh view settings rules apps).CursorLowest := fun _ h => by cases h
  have hlowest := hcursor.calls cs _ hstart
  refine ⟨hknown.calls hcs, hcursor.calls cs, ?_, fun h => by simp [hstart] at h, fun e _ hes _ x hx hxe => ?_⟩
  · obtain ⟨x, hx, rfl⟩ := Store.mem_of_lowest hlowest
    exact ⟨x, hx, UInt64.le_refl _⟩
  · exact absurd hes (UInt64.not_lt.mpr (UInt64.le_trans (Store.lowest_le hlowest hx) hxe))

/-- The user asks for older history over and over, from a state reached over a log. One more round than the log has
events hides the control exactly if the log's first index is admitted and within reach, and once the control is hidden,
all that is admitted below the start is stored. Hidden or not, these rounds store exactly what is admitted and within
reach. -/
theorem history_ends_iff (server : HistoryServer) (view : View) (settings : Settings) (rules : List Rule)
    (apps : AppCatalog) (cs : List SessionCall) (start : UInt64)
    (hcs : ∀ r page, .applyPage r page ∈ cs → ∀ e ∈ page, e ∈ server.log)
    (hstart : ((fresh view settings rules apps).calls cs).2.loadMoreCursor = some start) :
    let s := ((fresh view settings rules apps).calls cs).2
    let loaded (n : Nat) := (loadOlder server)^[n] s
    let rounds := server.log.length + 1
    ((loaded rounds).loadMoreCursor = none ↔
      ∃ e ∈ server.log, e.index = 1 ∧ s.admits e = true ∧ WithinReach server s start e) ∧
    (∀ n, (loaded n).loadMoreCursor = none → (loaded rounds).loadMoreCursor = none ∧
      ∀ e ∈ server.log, e.index < start → s.admits e = true → e ∈ (loaded n).store.events) ∧
    ∀ e ∈ server.log, e.index < start →
      (e ∈ (loaded rounds).store.events ↔ s.admits e = true ∧ WithinReach server s start e) := by
  intro s loaded rounds
  have h : Descending server start s := descending_of_calls hcs hstart
  have hlowest : s.store.lowest = some start := h.cursor start hstart
  have hends : (loaded rounds).loadMoreCursor = none ↔
      ∃ e ∈ server.log, e.index = 1 ∧ s.admits e = true ∧ WithinReach server s start e := by
    constructor
    · exact exists_first_of_hidden h hlowest
    · rintro ⟨e, he, hone, ha, hr⟩
      exact hidden_of_first h hlowest he hone ha hr
  refine ⟨hends, fun n hn => ⟨hends.mpr (exists_first_of_hidden h hlowest hn), fun e he hes ha => ?_⟩,
    fun e he hes => ⟨fun hm => ?_, ?_⟩⟩
  · exact (h.iterate n).mem_of_hidden hn he hes (by simpa using ha)
  · obtain ⟨e', he', hee', ha⟩ := (h.iterate rounds).known e hm
    rw [admits_iterate, FeedServer.eq_of_index_eq he' he hee'] at ha
    exact ⟨ha, withinReach_of_mem_iterate h hlowest hm rfl⟩
  · rintro ⟨ha, hr⟩
    have hcount : remainingBelow server s ≤ rounds := Nat.le_succ_of_le List.countP_le_length
    exact mem_iterate_of_withinReach h he hes ha hr hcount

/-- History behind a stream ends with the first boost. -/
theorem history_ends_behind_stream :
    let e (i : UInt64) (a : Action) : Event := { index := i, action := a }
    let server := HistoryServer.ofLog [e 1 .boost, e 2 .stream, e 3 .boost] (by decide) (by decide)
    let cs : List SessionCall :=
      [.applyPage ((fresh .boosts {} [] {}).planColdStart (.number (.natural 3))).1 [e 3 .boost]]
    let s := ((fresh .boosts {} [] {}).calls cs).2
    ((∀ r page, .applyPage r page ∈ cs → ∀ x ∈ page, x ∈ server.log) ∧ s.loadMoreCursor = some 3) ∧
    ((loadOlder server)^[4] s).loadMoreCursor = none ∧
    e 1 .boost ∈ ((loadOlder server)^[4] s).store.events := by
  intro e server cs s
  have hcs : ∀ r page, .applyPage r page ∈ cs → ∀ x ∈ page, x ∈ server.log := by
    intro r page hc x hx
    obtain ⟨rfl, rfl⟩ : r = _ ∧ page = _ := by simpa [cs] using hc
    rw [List.mem_singleton.mp hx]
    exact List.mem_of_elem_eq_true rfl
  have hstart : s.loadMoreCursor = some 3 := by decide +kernel
  have hfirst : e 1 .boost ∈ server.log := List.mem_cons_self
  have hreach : WithinReach server s 3 (e 1 .boost) := by
    refine fun c _ hc => ⟨e 1 .boost, (mem_highestOf server.distinct).mpr ⟨hfirst, by simpa using hc, ?_⟩, by decide⟩
    exact Nat.lt_of_le_of_lt List.countP_le_length (by decide)
  obtain ⟨hends, hcomplete, -⟩ := history_ends_iff server .boosts {} [] {} cs 3 hcs hstart
  have hhidden := hends.mpr ⟨e 1 .boost, hfirst, rfl, by decide, hreach⟩
  exact ⟨⟨hcs, hstart⟩, hhidden, (hcomplete 4 hhidden).2 _ hfirst (by decide) (by decide)⟩

/-- Where a log starts above the first index, the control never hides. -/
theorem history_never_ends :
    ¬ ∀ (server : HistoryServer) (view : View) (settings : Settings) (rules : List Rule) (apps : AppCatalog)
        (cs : List SessionCall) (start : UInt64),
      (∀ r page, .applyPage r page ∈ cs → ∀ e ∈ page, e ∈ server.log) →
      ((fresh view settings rules apps).calls cs).2.loadMoreCursor = some start →
      let s := ((fresh view settings rules apps).calls cs).2
      let loaded (n : Nat) := (loadOlder server)^[n] s
      (∃ n ≤ server.log.length + 1, (loaded n).loadMoreCursor = none) ∧
      ∀ n, (loaded n).loadMoreCursor = none →
        ∀ e ∈ server.log, e.index < start → s.admits e = true → e ∈ (loaded n).store.events := by
  intro hclaim
  let boost : Event := { index := 5, action := .boost }
  let server := HistoryServer.ofLog [boost] (by decide) (by decide)
  let cs : List SessionCall := [.applyPage (fresh .boosts {} [] {}).planForward [boost]]
  have hcs : ∀ r page, .applyPage r page ∈ cs → ∀ x ∈ page, x ∈ server.log := by
    intro r page hc x hx
    obtain ⟨rfl, rfl⟩ : r = _ ∧ page = _ := by simpa [cs] using hc
    exact hx
  have hstart : ((fresh .boosts {} [] {}).calls cs).2.loadMoreCursor = some 5 := by decide +kernel
  obtain ⟨⟨n, -, hhidden⟩, -⟩ := hclaim server .boosts {} [] {} cs 5 hcs hstart
  -- a hidden control means that the first index is stored, but all that is stored is of the log
  have h := (descending_of_calls hcs hstart).iterate n
  obtain ⟨x, hx, hone⟩ := h.ended hhidden
  obtain ⟨e, he, hex, -⟩ := h.known x hx
  rw [← hex, List.mem_singleton.mp he] at hone
  exact absurd hone (by decide)

end BoostFeed.Session
