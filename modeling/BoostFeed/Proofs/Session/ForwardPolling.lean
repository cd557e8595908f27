import BoostFeed.Proofs.Feed.Log
import BoostFeed.Proofs.Session.Page
import BoostFeed.Session.Plan

/-! Forward polling of a server with a fixed log. A poll asks from the highest stored event on, and events
that the filter drops leave the cursor where it is, so polling goes on as long as fewer dropped events follow
one another than a page has room for behind the cursor. -/

namespace BoostFeed.Session

open Feed

variable {server : FeedServer} {s : Session}

def poll (server : FeedServer) (s : Session) : Session :=
  (s.applyPage s.planForward (server.answer s.planForward.query)).2

def polls (server : FeedServer) : Nat → Session → Session
  | 0, s => s
  | n + 1, s => polls server n (s.poll server)

/-- All stored events come from the log. -/
def Within (log : List Event) (s : Session) : Prop := ∀ e ∈ s.store.events, e ∈ log

instance (log : List Event) (s : Session) : Decidable (s.Within log) :=
  inferInstanceAs (Decidable (∀ e ∈ s.store.events, e ∈ log))

theorem old_planForward (s : Session) : s.planForward.query.old = false := rfl

theorem query_planForward {c : UInt64} (h : s.store.highest = some c) :
    s.planForward.query = ⟨c, forwardPageSize, false⟩ := by
  simp [planForward, h]

theorem mem_log_of_mem_answer {q : PageQuery} (hq : q.old = false) {e : Event}
    (he : e ∈ server.answer q) : e ∈ server.log :=
  ((FeedServer.mem_answer hq).mp he).1

/-- A page from the log adds exactly its admitted events. -/
theorem Within.mem_applyPage (hs : s.Within server.log) {r : PageRequest} {page : List Event}
    (hpage : ∀ e ∈ page, e ∈ server.log) {e : Event} :
    e ∈ (s.applyPage r page).2.store.events ↔ e ∈ s.store.events ∨ e ∈ page ∧ s.admits e = true := by
  have hlog {a : Event} (ha : a ∈ s.store.events ∨ a ∈ s.accepted page) : a ∈ server.log :=
    ha.elim (hs a) fun ha => hpage a (mem_accepted.mp ha).1
  rw [store_applyPage, Store.mem_merge_of_coherent ?_, mem_accepted]
  exact fun a b ha hb => FeedServer.eq_of_index_eq (hlog ha) (hlog hb)

theorem mem_poll (hs : s.Within server.log) {e : Event} :
    e ∈ (s.poll server).store.events ↔
      e ∈ s.store.events ∨ e ∈ server.answer s.planForward.query ∧ s.admits e = true :=
  hs.mem_applyPage fun _ => mem_log_of_mem_answer s.old_planForward

theorem Within.poll (hs : s.Within server.log) : (s.poll server).Within server.log := by
  intro e he
  rcases (mem_poll hs).mp he with he | he
  · exact hs e he
  · exact mem_log_of_mem_answer s.old_planForward he.1

theorem mem_polls_of_mem {e : Event} (n : Nat) (he : e ∈ s.store.events) :
    e ∈ (s.polls server n).store.events := by
  induction n generalizing s with
  | zero => exact he
  | succ n ih => exact ih (mem_applyPage_of_mem he)

/-- What a poll keeps once it runs: from `start` on, nothing admitted is missing below a stored event. -/
structure Gapless (server : FeedServer) (start : UInt64) (s : Session) : Prop where
  within : s.Within server.log
  started : ∃ x ∈ s.store.events, start ≤ x.index
  closed : ∀ e ∈ server.log, start < e.index → s.admits e = true →
    ∀ x ∈ s.store.events, e.index ≤ x.index → e ∈ s.store.events

theorem Gapless.poll {start : UInt64} (h : Gapless server start s) :
    Gapless server start (s.poll server) := by
  refine ⟨h.within.poll, ?_, fun e he hse ha x hx hex => ?_⟩
  · obtain ⟨x, hx, hsx⟩ := h.started
    exact ⟨x, mem_applyPage_of_mem hx, hsx⟩
  · rcases (mem_poll h.within).mp hx with hx | ⟨hx, _⟩
    · exact mem_applyPage_of_mem (h.closed e he hse ha x hx hex)
    · obtain ⟨y, hy, _⟩ := h.started
      obtain ⟨z, hz, hc, _⟩ := Store.exists_newest hy
      by_cases hez : e.index ≤ z.index
      · exact mem_applyPage_of_mem (h.closed e he hse ha z hz hez)
      · refine (mem_poll h.within).mpr (.inr ⟨?_, ha⟩)
        refine FeedServer.mem_answer_of_le s.old_planForward hx he ?_ hex
        rw [query_planForward hc]
        exact UInt64.le_of_lt (UInt64.not_le.mp hez)

/-- How many events of the log lie above all stored ones. -/
def remaining (server : FeedServer) (s : Session) : Nat :=
  server.log.countP fun y => ∀ x ∈ s.store.events, x.index < y.index

theorem remaining_pos : 0 < remaining server s ↔
    ∃ e ∈ server.log, ∀ x ∈ s.store.events, x.index < e.index := by
  simp [remaining, List.countP_pos_iff]

theorem remaining_le_of_subset {s' : Session} (h : ∀ x ∈ s.store.events, x ∈ s'.store.events) :
    remaining server s' ≤ remaining server s := by
  apply List.countP_mono_left
  intro y _ hy
  simp only [decide_eq_true_iff] at hy ⊢
  exact fun x hx => hy x (h x hx)

theorem remaining_poll_lt (hs : s.Within server.log) {c : UInt64}
    (hc : s.store.highest = some c) {x : Event}
    (hx : x ∈ lowestOf server.log (c < ·.index) (forwardPageSize - 1)) (ha : s.admits x = true) :
    remaining server (s.poll server) < remaining server s := by
  obtain ⟨hlog, hcx, _⟩ := (mem_lowestOf server.distinct).mp hx
  simp only [decide_eq_true_iff] at hcx
  have hstored : x ∈ (s.poll server).store.events := by
    refine (mem_poll hs).mpr (.inr ⟨?_, ha⟩)
    rw [query_planForward hc]
    exact FeedServer.mem_answer_of_mem_above hx
  exact countP_beyond_lt (fun _ => mem_applyPage_of_mem) hlog hstored (UInt64.lt_irrefl _)
    fun y hy => UInt64.lt_of_le_of_lt (Store.le_highest hc hy) hcx

/-- From no index between `start` and an event do so many dropped events follow that a page ends with
them. -/
def Reachable (server : FeedServer) (s : Session) (start : UInt64) (e : Event) : Prop :=
  ∀ c, start ≤ c → c < e.index →
    ∃ x ∈ lowestOf server.log (c < ·.index) (forwardPageSize - 1), s.admits x = true

theorem mem_polls_of_reachable {start : UInt64} (h : Gapless server start s) {e : Event}
    (he : e ∈ server.log) (hse : start < e.index) (ha : s.admits e = true)
    (hr : Reachable server s start e) {n : Nat} (hn : remaining server s ≤ n) :
    e ∈ (s.polls server n).store.events := by
  -- while the event is missing, each poll leaves fewer events above the stored ones
  induction n generalizing s with
  | zero =>
    by_contra hmiss
    have hpos : 0 < remaining server s := remaining_pos.mpr
      ⟨e, he, fun x hx => UInt64.not_le.mp fun hex => hmiss (h.closed e he hse ha x hx hex)⟩
    omega
  | succ n ih =>
    by_cases hm : e ∈ s.store.events
    · exact mem_polls_of_mem (n + 1) hm
    · obtain ⟨y, hy, hsy⟩ := h.started
      obtain ⟨z, hz, hc, hle⟩ := Store.exists_newest hy
      have hze : z.index < e.index := UInt64.not_le.mp fun hex => hm (h.closed e he hse ha z hz hex)
      obtain ⟨x, hx, hax⟩ := hr z.index (UInt64.le_trans hsy (hle y hy)) hze
      have hlt := remaining_poll_lt h.within hc hx hax
      exact ih h.poll ha hr (by omega)

theorem admits_of_mem_polls {n : Nat} (hs : s.Within server.log) {e : Event}
    (he : e ∈ (s.polls server n).store.events) : e ∈ s.store.events ∨ s.admits e = true := by
  induction n generalizing s with
  | zero => exact .inl he
  | succ n ih =>
    rcases ih hs.poll he with he | ha
    · exact ((mem_poll hs).mp he).imp_right And.right
    · exact .inr ha

/-- Where a page from the highest stored event brings nothing admitted above `c`, nothing above `c` is
stored. -/
theorem index_le_poll {c : UInt64} (hs : s.Within server.log) (hne : ∃ x, x ∈ s.store.events)
    (hle : ∀ x ∈ s.store.events, x.index ≤ c)
    (hstall : ∀ x ∈ lowestOf server.log (c < ·.index) (forwardPageSize - 1), s.admits x = false) :
    ∀ x ∈ (s.poll server).store.events, x.index ≤ c := by
  intro x hx
  rcases (mem_poll hs).mp hx with hx | ⟨hx, ha⟩
  · exact hle x hx
  · obtain ⟨y, hy⟩ := hne
    obtain ⟨z, hz, hh, _⟩ := Store.exists_newest hy
    apply UInt64.not_lt.mp
    intro hcx
    rw [query_planForward hh] at hx
    have hmem := FeedServer.mem_above_of_mem_answer rfl (hs z hz) rfl (hle z hz) hcx hx
    rw [hstall x hmem] at ha
    cases ha

theorem index_le_polls {c : UInt64} {n : Nat} (hs : s.Within server.log)
    (hne : ∃ x, x ∈ s.store.events) (hle : ∀ x ∈ s.store.events, x.index ≤ c)
    (hstall : ∀ x ∈ lowestOf server.log (c < ·.index) (forwardPageSize - 1), s.admits x = false) :
    ∀ x ∈ (s.polls server n).store.events, x.index ≤ c := by
  induction n generalizing s with
  | zero => exact hle
  | succ n ih =>
    obtain ⟨y, hy⟩ := hne
    exact ih hs.poll ⟨y, mem_applyPage_of_mem hy⟩ (index_le_poll hs ⟨y, hy⟩ hle hstall) hstall

/-- As many polls as the log has events store, of the events above the highest stored one, exactly those
that the filter admits and that no full page of dropped events cuts off. -/
theorem mem_polls_iff_reachable (server : FeedServer) (s : Session) {start : UInt64}
    (hs : s.Within server.log) (hstart : s.store.highest = some start) {e : Event}
    (he : e ∈ server.log) (hse : start < e.index) :
    e ∈ (s.polls server server.log.length).store.events ↔
      s.admits e = true ∧ Reachable server s start e := by
  obtain ⟨y, hy, hye⟩ := Store.mem_of_highest hstart
  have hle : ∀ x ∈ s.store.events, x.index ≤ start := fun x hx => Store.le_highest hstart hx
  constructor
  · intro hm
    have hnew : e ∉ s.store.events := fun hm => UInt64.not_lt.mpr (hle e hm) hse
    refine ⟨(admits_of_mem_polls hs hm).resolve_left hnew, fun c hc hce => ?_⟩
    by_contra hnone
    have hstall : ∀ x ∈ lowestOf server.log (c < ·.index) (forwardPageSize - 1),
        s.admits x = false := fun x hx => by simpa using fun ha => hnone ⟨x, hx, ha⟩
    have hec := index_le_polls hs ⟨y, hy⟩ (fun x hx => UInt64.le_trans (hle x hx) hc) hstall e hm
    exact UInt64.not_lt.mpr hec hce
  · rintro ⟨ha, hr⟩
    have hgapless : Gapless server start s := by
      refine ⟨hs, ⟨y, hy, hye ▸ UInt64.le_refl _⟩, fun x _ hsx _ z hz hxz => ?_⟩
      exact absurd (UInt64.lt_of_lt_of_le hsx (UInt64.le_trans hxz (hle z hz))) (UInt64.lt_irrefl _)
    exact mem_polls_of_reachable hgapless he hse ha hr List.countP_le_length

/-- A boost at each end, and between them as many streams as a page holds behind its first event. -/
def streamsBetweenBoosts : List Event :=
  (List.range 21).map fun i =>
    { index := .ofNat (i + 1), action := if i = 0 ∨ i = 20 then .boost else .stream }

theorem streamsBetweenBoosts_distinct : (streamsBetweenBoosts.map Event.index).Nodup := by
  decide +kernel

/-- A session of boosts that holds the first event of that log. -/
def atFirstBoost : Session :=
  { store := ⟨[{ index := 1, action := .boost }], List.pairwise_singleton _ _⟩ }

/-- The streams behind the first boost fill every page, and the last boost never comes. -/
theorem polls_stall_behind_streams :
    ¬ ∀ (server : FeedServer) (s : Session) (start : UInt64),
      s.Within server.log → s.store.highest = some start →
      ∀ e ∈ server.log, s.admits e = true → start < e.index →
        e ∈ (s.polls server server.log.length).store.events := by
  intro hclaim
  let server := FeedServer.ascending streamsBetweenBoosts streamsBetweenBoosts_distinct
  have hwithin : atFirstBoost.Within server.log := by decide +kernel
  have hmem := hclaim server atFirstBoost 1 hwithin rfl { index := 21, action := .boost }
    (by decide +kernel) (by decide) (by decide)
  have hstall : ∀ x ∈ lowestOf server.log ((1 : UInt64) < ·.index) (forwardPageSize - 1),
      atFirstBoost.admits x = false := by
    intro x hx
    obtain ⟨hlog, habove, hcount⟩ := (mem_lowestOf server.distinct).mp hx
    have hall : ∀ y ∈ streamsBetweenBoosts, decide ((1 : UInt64) < y.index) = true →
        streamsBetweenBoosts.countP (fun z => decide ((1 : UInt64) < z.index) && z.index < y.index) <
          forwardPageSize - 1 → atFirstBoost.admits y = false := by decide +kernel
    exact hall x hlog habove hcount
  have hle := index_le_polls hwithin ⟨_, List.mem_cons_self⟩ (by decide) hstall _ hmem
  exact absurd hle (by decide)

/-- A stream between two boosts holds nothing up. -/
theorem polls_reach_behind_stream :
    let e (i : UInt64) (a : Action) : Event := { index := i, action := a }
    let server := FeedServer.ascending [e 1 .boost, e 2 .stream, e 3 .boost] (by decide)
    (atFirstBoost.Within server.log ∧ atFirstBoost.store.highest = some 1 ∧
      e 3 .boost ∈ server.log ∧ 1 < (e 3 .boost).index) ∧
    e 3 .boost ∈ (atFirstBoost.polls server server.log.length).store.events := by
  intro e server
  have hwithin : atFirstBoost.Within server.log := by decide
  have hlast : e 3 .boost ∈ server.log := by decide
  refine ⟨⟨hwithin, rfl, hlast, by decide⟩, ?_⟩
  apply (mem_polls_iff_reachable server atFirstBoost hwithin rfl hlast (by decide)).mpr
  refine ⟨by decide, fun c _ hc => ⟨e 3 .boost, ?_, by decide⟩⟩
  refine (mem_lowestOf server.distinct).mpr ⟨hlast, by simpa using hc, ?_⟩
  exact Nat.lt_of_le_of_lt List.countP_le_length (by decide)

end BoostFeed.Session
