import BoostFeed.Proofs.Service.Traffic

/-! Which view a cursor is from. A switch of the view forgets the cursor, but an index call that was under way
takes its reading to whatever view is current when the answer comes. Unless that view has another index endpoint,
every cursor that is kept or sent is its own. -/

namespace BoostFeed

open Feed Json Playback

/-- A usable index read for a view whose index endpoint is not the one that was asked. -/
def Arrival.isAstray (c : Client) : Arrival → Bool
  | .answer met ⟨request, .index⟩ reply =>
    ((reading? reply).bind Value.index?).isSome &&
      (c.indexRequest met.view.indexPath).toOption != some request
  | .answer _ _ _ | .push _ _ | .switch _ => false

theorem Session.index_plan (s : Session) (direction : Direction) :
    (s.plan direction).query.index = 1 ∨ (s.plan direction).query.index ∈ s.store.indices ∨
      s.currentIndex = some (s.plan direction).query.index := by
  have hstored {i : UInt64} {l : Option Event} (h : l.map Event.index = some i)
      (hl : ∀ e ∈ l, e ∈ s.store.events) : i ∈ s.store.indices := by
    obtain ⟨e, he, rfl⟩ := Option.map_eq_some_iff.mp h
    exact Store.mem_indices.mpr ⟨e, hl e he, rfl⟩
  cases direction with
  | forward =>
    cases hh : s.store.highest with
    | some i =>
      have hi := hstored hh fun e he => List.mem_of_getLast? he
      simp [plan, planForward, hh, hi]
    | none => cases hc : s.currentIndex <;> simp [plan, planForward, hh, hc]
  | backfill =>
    cases hl : s.store.lowest with
    | some i =>
      have hi := hstored hl fun e he => List.mem_of_head? he
      by_cases h1 : 1 ≤ i <;> simp [plan, planBackfill, hl, hi, h1, Option.filter]
    | none =>
      cases hc : s.currentIndex with
      | none => simp [plan, planBackfill, hl, hc]
      | some i => by_cases h1 : 1 ≤ i <;> simp [plan, planBackfill, hl, hc, h1, Option.filter]

namespace Traffic

variable {t : Traffic} {turn : Turn} {c : Client} {view : View} {arrivals : List Arrival} {i : UInt64}

/-- The index endpoint of a view has answered with an index. -/
def Reported (c : Client) (arrivals : List Arrival) (view : View) (i : UInt64) : Prop :=
  ∃ met p reply raw, .answer met p reply ∈ arrivals ∧
    c.indexRequest view.indexPath = .ok p.request ∧ reading? reply = some raw ∧ raw.index? = some i

theorem Reported.mono (new : List Arrival) (h : Reported c arrivals view i) :
    Reported c (new ++ arrivals) view i := by
  obtain ⟨met, p, reply, raw, ha, h⟩ := h
  exact ⟨met, p, reply, raw, List.mem_append_right _ ha, h⟩

theorem reported_of_not_isAstray {met : Session} {p : Pending} {reply : Option HttpReply} {raw : Value}
    (ha : .answer met p reply ∈ arrivals) (hastray : (Arrival.answer met p reply).isAstray c = false)
    (hw : p.waiting = .index) (hr : reading? reply = some raw) (hi : raw.index? = some i) :
    Reported c arrivals met.view i := by
  refine ⟨met, p, reply, raw, ha, ?_, hr, hi⟩
  obtain ⟨request, w⟩ := p
  simp only at hw
  subst hw
  simp only [Arrival.isAstray, hr, Option.bind_some, hi, Option.isSome_some, Bool.true_and,
    bne_eq_false_iff_eq] at hastray
  cases hc : c.indexRequest met.view.indexPath with
  | ok request' => simpa [hc, Except.toOption] using hastray
  | error f => simp [hc, Except.toOption] at hastray

/-- The cursor of a session is one that its view's index endpoint has reported, or none. -/
structure OnCourse (c : Client) (t : Traffic) : Prop where
  client : t.client = c
  reported : ClearOf (Arrival.isAstray c) t.arrivals →
    ∀ i, t.session.currentIndex = some i → Reported c t.arrivals t.session.view i

theorem OnCourse.step (h : OnCourse c t) (turn : Turn) : OnCourse c (t.step turn) := by
  refine ⟨client_step.trans h.client, ?_⟩
  have hold (a : Arrival) (ha : a.isSwitch = false)
      (hclear : ClearOf (Arrival.isAstray c) (a :: t.arrivals)) (i : UInt64)
      (hi : t.session.currentIndex = some i) : Reported c (a :: t.arrivals) t.session.view i :=
    (h.reported (hclear.of_cons ha).2 i hi).mono [a]
  have hmoved := moved_step t turn
  generalize (t.step turn).session = s, (t.step turn).arrivals = arrivals at hmoved
  intro hclear i hi
  cases hmoved with
  | kept authorized new hnew => exact (h.reported (hclear.of_append hnew).2 i hi).mono new
  | switched view => cases hi
  | pushed events => exact hold _ rfl hclear i hi
  | primed p reply raw hp hw hr =>
    have hraw : raw.index? = some i := by simpa [Session.planColdStart_session] using hi
    have hreported : Reported c (.answer t.session p reply :: t.arrivals) t.session.view i :=
      reported_of_not_isAstray List.mem_cons_self (hclear.of_cons rfl).1 hw hr hraw
    rwa [Session.planColdStart_session]
  | paged p reply q effects thenBalance page => exact hold _ rfl hclear i hi
  | marked p reply j => exact hold _ rfl hclear i hi

/-- The index that a turn leaves as the cursor, and the one that it asks a page from, are of the view then
current: reported by its index endpoint, or stored, or the first of all. -/
structure OwnCursors (c : Client) (t : Traffic) (turn : Turn) : Prop where
  kept : ∀ i, (t.step turn).session.currentIndex = some i →
    Reported c (t.step turn).arrivals (t.step turn).session.view i
  sent : ∀ p view q effects thenBalance, t.sent? turn = some p →
    p.waiting = .page view q effects thenBalance →
    c.pageRequest view.feedPath q.query = .ok p.request ∧ view = (t.step turn).session.view ∧
      (q.query.index = 1 ∨ q.query.index ∈ (t.step turn).session.store.indices ∨
        Reported c (t.step turn).arrivals view q.query.index)

theorem OnCourse.ownCursors (h : OnCourse c t) {turn : Turn}
    (hclear : ClearOf (Arrival.isAstray c) (t.step turn).arrivals) : OwnCursors c t turn := by
  have hstep := h.step turn
  refine ⟨hstep.reported hclear, fun p view q effects thenBalance hsent hw => ?_⟩
  obtain ⟨hask, hq⟩ := sent_page hsent hw
  have hkept (i : UInt64) (hi : (t.step turn).session.currentIndex = some i) :
      Reported c (t.step turn).arrivals view i := hask.view_eq ▸ hstep.reported hclear i hi
  refine ⟨hstep.client ▸ hask.request, hask.view_eq, ?_⟩
  rcases hq with ⟨direction, rfl⟩ | ⟨raw, hprimed, rfl⟩
  · have hindex := Session.index_plan (t.step turn).session direction
    exact hindex.imp_right (Or.imp_right (hkept _))
  · rw [Session.planColdStart_index]
    cases hi : raw.index? with
    | none => exact .inl rfl
    | some i => exact .inr (.inr (hkept i (by simp [hprimed, Session.planColdStart_session, hi])))

theorem onCourse_fresh (client : Client) (queue : Queue) (view : View) (settings : Settings)
    (rules : List Numerology.Rule) (apps : AppCatalog) :
    OnCourse client (fresh client queue view settings rules apps) :=
  ⟨rfl, fun _ _ hi => nomatch hi⟩

/-- In every run that has brought no index astray since the last switch of the view, a turn keeps and sends
only cursors of the current view. -/
theorem cursors_of_own_view (client : Client) (queue : Queue) (view : View) (settings : Settings)
    (rules : List Numerology.Rule) (apps : AppCatalog) (turns : List Turn) (turn : Turn)
    (hclear : ClearOf (Arrival.isAstray client)
      (((fresh client queue view settings rules apps).run turns).step turn).arrivals) :
    OwnCursors client ((fresh client queue view settings rules apps).run turns) turn := by
  have hcourse : OnCourse client ((fresh client queue view settings rules apps).run turns) :=
    run_induction (onCourse_fresh client queue view settings rules apps) (fun _ turn h => h.step turn) turns
  exact hcourse.ownCursors hclear

/-- The index that a tick asks for becomes the cursor, and the priming page is asked for from it. -/
theorem cursors_of_first_tick :
    let t := (ofLocal .boosts).run [.call .tick]
    let answer := Turn.answer 0 (some { status := 200, body := "42" })
    ClearOf (Arrival.isAstray t.client) (t.step answer).arrivals ∧ OwnCursors t.client t answer ∧
      (t.step answer).session.currentIndex = some 42 := by
  intro t answer
  have hclear : ClearOf (Arrival.isAstray t.client) (t.step answer).arrivals := by decide +kernel
  exact ⟨hclear, cursors_of_own_view _ {} .boosts {} [] {} [.call .tick] answer hclear, by decide +kernel⟩

/-- The view is switched while a tick awaits the index of the boosts, which then becomes the cursor of the sent
payments. -/
theorem cursor_crosses_switch :
    ¬ ∀ (client : Client) (queue : Queue) (view : View) (settings : Settings) (rules : List Numerology.Rule)
      (apps : AppCatalog) (turns : List Turn) (turn : Turn),
      OwnCursors client ((fresh client queue view settings rules apps).run turns) turn := by
  intro hclaim
  let t := (ofLocal .boosts).run [.call .tick, .call (.switchView .sent)]
  let answer := Turn.answer 0 (some { status := 200, body := "42" })
  have hown : OwnCursors t.client t answer :=
    hclaim _ {} .boosts {} [] {} [.call .tick, .call (.switchView .sent)] answer
  have hview : (t.step answer).session.view = .sent := by decide +kernel
  have hindex : (t.step answer).session.currentIndex = some 42 := by decide +kernel
  obtain ⟨met, p, reply, raw, harrival, hasked, -⟩ := hview ▸ hown.kept 42 hindex
  have hothers : ∀ a ∈ (t.step answer).arrivals,
      (match a with
        | .answer _ p _ => (t.client.indexRequest View.sent.indexPath).toOption == some p.request
        | .push _ _ | .switch _ => false) = false := by decide +kernel
  have hother := hothers _ harrival
  simp [hasked, Except.toOption] at hother

end Traffic

end BoostFeed
