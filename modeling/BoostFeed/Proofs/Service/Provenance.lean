import BoostFeed.Proofs.Service.Traffic

/-! Where stored events are from. Whatever calls overlap and however the view is switched meanwhile, the store
holds only events that the feed of the current view or a push for it has brought, and none that the filter
drops. -/

namespace BoostFeed

open Feed Json Playback

theorem Feed.Store.mem_markReplied {st : Store} {i : UInt64} {e : Event}
    (h : e ∈ (st.markReplied i).events) :
    ∃ d ∈ st.events, e = d ∨ e = { d with replySent := true } := by
  obtain ⟨d, hd, rfl⟩ := List.mem_map.mp h
  refine ⟨d, hd, ?_⟩
  by_cases hi : d.index = i
  · exact .inr (if_pos hi)
  · exact .inl (if_neg hi)

namespace Traffic

variable {t : Traffic} {turn : Turn} {c : Client} {settings : Settings} {view : View}
  {arrivals : List Arrival} {e : Event}

/-- An event came with a page from the feed endpoint of a view, or was pushed for it. -/
inductive Brought (c : Client) (arrivals : List Arrival) (view : View) (e : Event) : Prop
  | page (met : Session) (p : Pending) (reply : Option HttpReply) (q : PageQuery) (page : List Event) :
      .answer met p reply ∈ arrivals → c.pageRequest view.feedPath q = .ok p.request →
      HttpReply.interpret decodePage reply = .ok page → e ∈ page → Brought c arrivals view e
  | push (events : List Event) : .push view events ∈ arrivals → e ∈ events → Brought c arrivals view e

/-- An event as a view was brought it, but for the mark of a reply. -/
def Delivered (c : Client) (arrivals : List Arrival) (view : View) (e : Event) : Prop :=
  ∃ d, Brought c arrivals view d ∧ (e = d ∨ e = { d with replySent := true })

theorem Brought.mono (new : List Arrival) (h : Brought c arrivals view e) :
    Brought c (new ++ arrivals) view e := by
  cases h with
  | page met p reply q page ha hq hi he =>
    exact .page met p reply q page (List.mem_append_right _ ha) hq hi he
  | push events ha he => exact .push events (List.mem_append_right _ ha) he

theorem Delivered.mono (new : List Arrival) (h : Delivered c arrivals view e) :
    Delivered c (new ++ arrivals) view e :=
  h.imp fun _ hd => ⟨hd.1.mono new, hd.2⟩

theorem Brought.delivered (h : Brought c arrivals view e) : Delivered c arrivals view e :=
  ⟨e, h, .inl rfl⟩

theorem Delivered.replied (h : Delivered c arrivals view e) :
    Delivered c arrivals view { e with replySent := true } := by
  obtain ⟨d, hd, rfl | rfl⟩ := h
  · exact ⟨e, hd, .inr rfl⟩
  · exact ⟨d, hd, .inr rfl⟩

/-- The calls that wait for a page wait for one of the feed it was planned for. -/
def Asked (t : Traffic) : Prop :=
  ∀ p ∈ t.pending, ∀ view q effects thenBalance, p.waiting = .page view q effects thenBalance →
    t.client.pageRequest view.feedPath q.query = .ok p.request

theorem Asked.step (h : Asked t) (turn : Turn) : Asked (t.step turn) := by
  intro p hp view q effects thenBalance hw
  rw [client_step]
  rcases mem_pending_step hp with hp | hsent
  · exact h p hp view q effects thenBalance hw
  · have hask := (sent_page hsent hw).1.request
    rwa [← @client_step t turn]

/-- The stored events are of the current view, and the filter admits them. -/
structure Unmixed (c : Client) (settings : Settings) (t : Traffic) : Prop where
  client : t.client = c
  settings : t.session.settings = settings
  asked : t.Asked
  delivered : ∀ e ∈ t.session.store.events, Delivered c t.arrivals t.session.view e
  admits : ∀ e ∈ t.session.store.events, t.session.admits e = true

theorem settings_step : (t.step turn).session.settings = t.session.settings := by
  have hmoved := moved_step t turn
  generalize (t.step turn).session = s, (t.step turn).arrivals = arrivals at hmoved
  cases hmoved with
  | primed p reply raw => rw [Session.planColdStart_session]
  | _ => rfl

theorem Unmixed.step (h : Unmixed c settings t) (turn : Turn) : Unmixed c settings (t.step turn) := by
  suffices hstored : ∀ e ∈ (t.step turn).session.store.events,
      Delivered c (t.step turn).arrivals (t.step turn).session.view e ∧
        (t.step turn).session.admits e = true from
    ⟨client_step.trans h.client, settings_step.trans h.settings, h.asked.step turn,
      fun e he => (hstored e he).1, fun e he => (hstored e he).2⟩
  have hold (e : Event) (he : e ∈ t.session.store.events) (a : Arrival) :
      Delivered c (a :: t.arrivals) t.session.view e ∧ t.session.admits e = true :=
    ⟨(h.delivered e he).mono [a], h.admits e he⟩
  have hmoved := moved_step t turn
  generalize (t.step turn).session = s, (t.step turn).arrivals = arrivals at hmoved
  intro e he
  cases hmoved with
  | kept authorized new => exact ⟨(h.delivered e he).mono new, h.admits e he⟩
  | switched view => cases he
  | pushed events =>
    rcases Session.mem_or_mem_of_mem_applyPage he with he | ⟨he, hadmits⟩
    · exact hold e he _
    · exact ⟨(Brought.push events List.mem_cons_self he).delivered, hadmits⟩
  | primed p reply raw hp hw hr =>
    rw [Session.planColdStart_session] at he ⊢
    exact hold e he _
  | paged p reply q effects thenBalance page hp hw hi =>
    rcases Session.mem_or_mem_of_mem_applyPage he with he | ⟨he, hadmits⟩
    · exact hold e he _
    · -- the page was asked of the view it was planned for, which is current again
      have hask := h.client ▸ h.asked p hp _ q effects thenBalance hw
      exact ⟨(Brought.page t.session p reply q.query page List.mem_cons_self hask hi he).delivered,
        hadmits⟩
  | marked p reply i hp =>
    obtain ⟨d, hd, rfl | rfl⟩ := Store.mem_markReplied he
    · exact hold e hd _
    · exact (hold d hd _).imp_left Delivered.replied

theorem unmixed_fresh (client : Client) (queue : Queue) (view : View) (settings : Settings)
    (rules : List Numerology.Rule) (apps : AppCatalog) :
    Unmixed client settings (fresh client queue view settings rules apps) :=
  ⟨rfl, rfl, fun _ hp => absurd hp List.not_mem_nil, fun _ he => absurd he List.not_mem_nil,
    fun _ he => absurd he List.not_mem_nil⟩

/-- After any turns, every stored event was brought by the feed endpoint of the current view or by a push for
it, and passes the filter. -/
theorem stored_of_current_view (client : Client) (queue : Queue) (view : View) (settings : Settings)
    (rules : List Numerology.Rule) (apps : AppCatalog) (turns : List Turn) :
    let t := (fresh client queue view settings rules apps).run turns
    ∀ e ∈ t.session.store.events, Delivered client t.arrivals t.session.view e ∧
      t.session.view.accepts e.action = true ∧ settings.minSats ≤ e.displaySats := by
  intro t e he
  have hunmixed : Unmixed client settings t :=
    run_induction (unmixed_fresh client queue view settings rules apps) (fun _ turn h => h.step turn) turns
  have hadmits := hunmixed.admits e he
  simp only [Session.admits, Bool.and_eq_true, decide_eq_true_iff, hunmixed.settings] at hadmits
  exact ⟨hunmixed.delivered e he, hadmits⟩

end Traffic

end BoostFeed
