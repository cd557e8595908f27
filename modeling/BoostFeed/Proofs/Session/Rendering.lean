import BoostFeed.Proofs.Session.Screen

/-! The effects of a run, applied one after the other, keep a screen in step with its session: its rows, the
empty indicator and the load-more control are those of the session after every call. -/

namespace BoostFeed

open Feed Numerology

inductive SessionCall where
  | planColdStart (raw : Json.Value)
  | plan (direction : Direction)
  | applyPage (request : PageRequest) (page : List Event)
  | markReplied (index : UInt64)

namespace Session

def call (s : Session) : SessionCall → List ViewEffect × Session
  | .planColdStart raw => ((s.planColdStart raw).2.1, (s.planColdStart raw).2.2)
  | .plan _ => ([], s)
  | .applyPage r page => ((s.applyPage r page).1.effects, (s.applyPage r page).2)
  | .markReplied i => ([], (s.markReplied i).2)

def calls (s : Session) : List SessionCall → List ViewEffect × Session
  | [] => ([], s)
  | c :: cs => ((s.call c).1 ++ ((s.call c).2.calls cs).1, ((s.call c).2.calls cs).2)

theorem calls_invariant_on {P : Session → Prop} {cs : List SessionCall}
    (hcall : ∀ s, ∀ c ∈ cs, P s → P (s.call c).2) {s : Session} (h : P s) : P (s.calls cs).2 := by
  induction cs generalizing s with
  | nil => exact h
  | cons c cs ih =>
    exact ih (fun t d hd => hcall t d (List.mem_cons_of_mem c hd)) (hcall s c List.mem_cons_self h)

theorem calls_invariant {P : Session → Prop} (hcall : ∀ s c, P s → P (s.call c).2) {s : Session}
    (h : P s) (cs : List SessionCall) : P (s.calls cs).2 :=
  calls_invariant_on (fun s c _ => hcall s c) h

end Session

namespace Screen

variable (how : Row → Placing) {s : Session}

theorem render_append (screen : Screen) (es fs : List ViewEffect) :
    render how screen (es ++ fs) = (render how screen es).bind (render how · fs) :=
  List.foldlM_append

theorem render_cons (screen : Screen) (e : ViewEffect) (es : List ViewEffect) :
    render how screen (e :: es) = (apply how screen e).bind (render how · es) :=
  List.foldlM_cons

/-- Behind the row of an insertion only effects follow that a screen does not show. -/
theorem render_insertionEffects_cons (screen : Screen) (direction : Direction) (mayScroll : Bool)
    (i : Insertion) (is : List Insertion) :
    ∃ mayScroll', render how screen (s.insertionEffects direction mayScroll (i :: is)) =
      (apply how screen (s.insertedEffect i)).bind
        (render how · (s.insertionEffects direction mayScroll' is)) := by
  cases direction with
  | backfill => exact ⟨mayScroll, by simp only [Session.insertionEffects, render_cons]⟩
  | forward =>
    cases hn : i.placement.isNewest with
    | true =>
      refine ⟨false, ?_⟩
      cases mayScroll <;>
        simp [Session.insertionEffects, hn, render_cons, apply]
    | false =>
      refine ⟨mayScroll, ?_⟩
      cases hv : s.view.hasEffects <;>
        simp [Session.insertionEffects, hn, hv, render_cons, apply]

theorem render_insertionEffects {st : Store} {rows : List Row} {empty : Bool}
    {loadMore : Option UInt64} (l : List Event) (direction : Direction) (mayScroll : Bool)
    (hr : rows.map Row.index = st.indices) :
    ∃ rows', render how ⟨rows, empty, loadMore⟩
        (s.insertionEffects direction mayScroll (st.merge l).1) = some ⟨rows', empty, loadMore⟩ ∧
      rows'.map Row.index = (st.merge l).2.indices := by
  induction st, l using Store.merge_induction generalizing rows mayScroll with
  | nil st => exact ⟨rows, rfl, hr⟩
  | known st e l hm ih =>
    rw [Store.merge_cons_of_mem hm]
    exact ih mayScroll hr
  | inserted st e l i t h ih =>
    rw [Store.merge_cons_of_insert? h]
    obtain ⟨mayScroll', hcons⟩ := render_insertionEffects_cons how (s := s)
      ⟨rows, empty, loadMore⟩ direction mayScroll i (t.merge l).1
    let row := Row.ofEvent i.event s.view s.rules s.apps s.settings.showReceivedSats
    have hrow : row.index = e.index := congrArg Event.index (Store.insert?_event h)
    obtain ⟨rows₁, hplace, hrows₁⟩ := place_insertion h hr hrow (how row)
    obtain ⟨rows₂, hrender, hrows₂⟩ := ih mayScroll' hrows₁
    refine ⟨rows₂, ?_, hrows₂⟩
    have happly : apply how ⟨rows, empty, loadMore⟩ (s.insertedEffect i) =
        some ⟨rows₁, empty, loadMore⟩ := by
      simp only [apply, Session.insertedEffect]
      rw [hplace, Option.map_some]
    rw [hcons, happly, Option.bind_some, hrender]

theorem render_emptyEffects (rows : List Row) (loadMore : Option UInt64) (r : PageRequest)
    (st : Store) :
    render how ⟨rows, s.showingEmpty, loadMore⟩ (s.emptyEffects r st) =
      some ⟨rows, st.isEmpty, loadMore⟩ := by
  unfold Session.emptyEffects
  cases he : st.isEmpty <;> cases hs : s.showingEmpty <;> rfl

theorem render_loadMoreEffects (rows : List Row) (empty : Bool) (next : Option UInt64) :
    render how ⟨rows, empty, s.loadMoreCursor⟩ (s.loadMoreEffects next) =
      some ⟨rows, empty, next⟩ := by
  unfold Session.loadMoreEffects
  by_cases hn : next = s.loadMoreCursor
  · simp [hn, render]
  · cases next <;> simp [hn, render, apply]

/-- The screen shows what the session holds. -/
structure Shows (screen : Screen) (s : Session) : Prop where
  rows : screen.rows.map Row.index = s.store.indices
  empty : screen.empty = s.showingEmpty
  loadMore : screen.loadMore = s.loadMoreCursor

theorem Shows.applyPage {screen : Screen} (h : Shows screen s) (r : PageRequest)
    (page : List Event) :
    ∃ screen', render how screen (s.applyPage r page).1.effects = some screen' ∧
      Shows screen' (s.applyPage r page).2 := by
  obtain ⟨rows, empty, loadMore⟩ := screen
  obtain ⟨hr, rfl, rfl⟩ := h
  have he : (s.applyPage r page).1.effects =
      s.insertionEffects r.direction s.atNewest (s.store.merge (s.accepted page)).1 ++
        s.emptyEffects r (s.store.merge (s.accepted page)).2 ++
        s.loadMoreEffects (s.nextLoadMore r page (s.store.merge (s.accepted page)).2) := rfl
  obtain ⟨rows', hrender, hrows⟩ := render_insertionEffects how (s := s)
    (s.accepted page) r.direction s.atNewest hr
  refine ⟨⟨rows', _, _⟩, ?_, hrows, rfl, rfl⟩
  rw [he, render_append, render_append, hrender, Option.bind_some, render_emptyEffects,
    Option.bind_some, render_loadMoreEffects]
  rfl

theorem Shows.call {screen : Screen} (h : Shows screen s) (c : SessionCall) :
    ∃ screen', render how screen (s.call c).1 = some screen' ∧ Shows screen' (s.call c).2 := by
  cases c with
  | planColdStart raw =>
    simp only [Session.call, Session.planColdStart]
    cases raw.index? with
    | some index => exact ⟨screen, rfl, h.rows, h.empty, h.loadMore⟩
    | none =>
      refine ⟨screen, ?_, h.rows, h.empty, h.loadMore⟩
      cases raw.isNumber <;> rfl
  | plan direction => exact ⟨screen, rfl, h⟩
  | applyPage r page => exact h.applyPage how r page
  | markReplied i =>
    refine ⟨screen, rfl, ?_, h.empty, h.loadMore⟩
    simp only [Session.call, Session.markReplied, Store.indices_markReplied]
    exact h.rows

theorem Shows.calls {screen : Screen} (h : Shows screen s) (cs : List SessionCall) :
    ∃ screen', render how screen (s.calls cs).1 = some screen' ∧ Shows screen' (s.calls cs).2 := by
  induction cs generalizing screen s with
  | nil => exact ⟨screen, rfl, h⟩
  | cons c cs ih =>
    obtain ⟨screen₁, h₁, hs₁⟩ := h.call how c
    obtain ⟨screen₂, h₂, hs₂⟩ := ih hs₁
    refine ⟨screen₂, ?_, hs₂⟩
    rw [Session.calls, render_append, h₁, Option.bind_some, h₂]

end Screen

namespace Session

variable {s : Session}

/-- The load-more control stands at the lowest stored event. -/
def CursorLowest (s : Session) : Prop :=
  ∀ cursor, s.loadMoreCursor = some cursor → s.store.lowest = some cursor

theorem CursorLowest.call (h : s.CursorLowest) (c : SessionCall) : (s.call c).2.CursorLowest := by
  cases c with
  | planColdStart raw =>
    simp only [Session.call, planColdStart_session]
    exact h
  | plan direction => exact h
  | applyPage r page => exact fun cursor hc => lowest_of_nextLoadMore hc
  | markReplied i =>
    intro cursor hc
    have hl := h cursor hc
    rw [Store.lowest_eq_head?] at hl ⊢
    simpa only [Session.call, markReplied, Store.indices_markReplied] using hl

theorem CursorLowest.calls (h : s.CursorLowest) (cs : List SessionCall) :
    (s.calls cs).2.CursorLowest :=
  calls_invariant (fun _ c h => h.call c) h cs

theorem showingEmpty_call (h : s.showingEmpty = s.store.isEmpty) (c : SessionCall) :
    (s.call c).2.showingEmpty = (s.call c).2.store.isEmpty := by
  cases c with
  | planColdStart raw =>
    simp only [Session.call, planColdStart_session]
    exact h
  | plan direction => exact h
  | applyPage r page => rfl
  | markReplied i =>
    rw [← Store.isEmpty_indices] at h ⊢
    simpa only [Session.call, markReplied, Store.indices_markReplied] using h

/-- Once a page was applied, the empty indicator tells whether the store is empty. -/
theorem showingEmpty_calls {cs : List SessionCall}
    (h : (∃ r page, .applyPage r page ∈ cs) ∨ s.showingEmpty = s.store.isEmpty) :
    (s.calls cs).2.showingEmpty = (s.calls cs).2.store.isEmpty := by
  induction cs generalizing s with
  | nil =>
    rcases h with ⟨r, page, h⟩ | h
    · cases h
    · exact h
  | cons c cs ih =>
    apply ih
    rcases h with ⟨r, page, h⟩ | h
    · rcases List.mem_cons.mp h with rfl | h
      · exact .inr rfl
      · exact .inl ⟨r, page, h⟩
    · exact .inr (showingEmpty_call h c)

end Session

/-- After any calls to a fresh session, a screen that started blank and applied their effects in order shows
the rows of the store in its order, wherever it takes the place of a row from; the empty indicator, which
from the first page on tells whether the store is empty; and the load-more control at the lowest stored
index. -/
theorem screen_shows_session (how : Row → Placing) (view : View) (settings : Settings)
    (rules : List Rule) (apps : AppCatalog) (cs : List SessionCall) :
    let run := (Session.fresh view settings rules apps).calls cs
    (∃ screen, Screen.render how {} run.1 = some screen ∧
      screen.rows.map Row.index = run.2.store.indices ∧
      screen.empty = run.2.showingEmpty ∧
      screen.loadMore = run.2.loadMoreCursor) ∧
    ((∃ r page, .applyPage r page ∈ cs) → (run.2.showingEmpty = true ↔ run.2.store = ∅)) ∧
    ∀ cursor, run.2.loadMoreCursor = some cursor → run.2.store.lowest = some cursor := by
  intro run
  have hblank : Screen.Shows {} (Session.fresh view settings rules apps) := ⟨rfl, rfl, rfl⟩
  obtain ⟨screen, hrender, hshows⟩ := hblank.calls how cs
  refine ⟨⟨screen, hrender, hshows.rows, hshows.empty, hshows.loadMore⟩, fun h => ?_, ?_⟩
  · rw [Session.showingEmpty_calls (.inl h), Store.isEmpty, List.isEmpty_iff]
    exact ⟨fun he => Store.ext he, fun he => congrArg Store.events he⟩
  · have hfresh : (Session.fresh view settings rules apps).CursorLowest := fun _ h => by cases h
    exact hfresh.calls cs

end BoostFeed
