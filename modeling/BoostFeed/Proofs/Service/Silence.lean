import BoostFeed.Proofs.Service.Traffic
import BoostFeed.Proofs.Session.Indicators

/-! Why history comes in silence. Two flags let a page play whatever it asks for: that the empty indicator
shows, and that the first events are awaited. The first is on only over an empty store. The second is put on by
an unusable index, which is asked for of an empty store but may come when a push has filled it. -/

namespace BoostFeed

open Feed Json Playback

/-- An unusable index that comes to a store with events. -/
def Arrival.isLate : Arrival → Bool
  | .answer met ⟨_, .index⟩ reply =>
    !met.store.isEmpty && (reading? reply).any (·.index?.isNone)
  | .answer _ _ _ | .push _ _ | .switch _ => false

/-- A page of history that comes to a store with events submits nothing to the queue. -/
structure Reconciler.Hushed (r : Reconciler) : Prop where
  indicates : r.session.IndicatesEmpty
  awaits : r.session.AwaitsInEmpty
  backfill : ∀ view q page, q.direction = .backfill → r.session.store.isEmpty = false →
    (r.apply view q page).1.triggersSubmitted = 0 ∧ (r.apply view q page).2.queue = r.queue

theorem Reconciler.hushed_of_flags {r : Reconciler} (hindicates : r.session.IndicatesEmpty)
    (hawaits : r.session.AwaitsInEmpty) : r.Hushed := by
  refine ⟨hindicates, hawaits, fun view q page hq hstore => ?_⟩
  have htriggers : (r.session.applyPage q page).1.triggers = [] :=
    Session.triggers_backfill_of_not_isEmpty hq hindicates hawaits hstore
  by_cases hv : r.session.view = view <;> simp [apply, hv, htriggers, Queue.submitAll]

namespace Traffic

variable {t : Traffic}

theorem indicatesEmpty_step (h : t.session.IndicatesEmpty) (turn : Turn) :
    (t.step turn).session.IndicatesEmpty := by
  have hmoved := moved_step t turn
  generalize (t.step turn).session = s, (t.step turn).arrivals = arrivals at hmoved
  cases hmoved with
  | kept authorized new hnew => exact h
  | switched view => exact fun hs => nomatch hs
  | pushed events => exact Session.indicatesEmpty_applyPage
  | primed p reply raw hp hw hr =>
    rw [Session.planColdStart_session]
    exact h
  | paged p reply q effects thenBalance page => exact Session.indicatesEmpty_applyPage
  | marked p reply i hp =>
    intro hs
    rw [Session.isEmpty_markReplied]
    exact h hs

/-- The first events are awaited over a store with events only if an unusable index has come late. -/
def AwaitsUnlessLate (t : Traffic) : Prop :=
  ClearOf Arrival.isLate t.arrivals → t.session.AwaitsInEmpty

theorem AwaitsUnlessLate.step (h : t.AwaitsUnlessLate) (turn : Turn) : (t.step turn).AwaitsUnlessLate := by
  unfold AwaitsUnlessLate
  have hmoved := moved_step t turn
  generalize (t.step turn).session = s, (t.step turn).arrivals = arrivals at hmoved
  intro hclear
  cases hmoved with
  | kept authorized new hnew => exact h (hclear.of_append hnew).2
  | switched view => exact fun ha => nomatch ha
  | pushed events => exact (h (hclear.of_cons rfl).2).applyPage
  | primed p reply raw hp hw hr =>
    obtain ⟨hlate, hbefore⟩ := hclear.of_cons rfl
    intro ha
    rw [Session.planColdStart_session] at ha ⊢
    by_cases hstore : t.session.store.isEmpty = true
    · exact hstore
    · -- over a store with events the index is usable, so that it was awaited before
      obtain ⟨request, w⟩ := p
      simp only at hw
      subst hw
      have husable : raw.index?.isNone = false := by
        simpa [Arrival.isLate, hr, hstore] using hlate
      exact h hbefore (by simpa [husable] using ha)
  | paged p reply q effects thenBalance page => exact (h (hclear.of_cons rfl).2).applyPage
  | marked p reply i hp =>
    intro ha
    rw [Session.isEmpty_markReplied]
    exact h (hclear.of_cons rfl).2 ha

/-- In every run the empty indicator shows over nothing but an empty store. Unless the run has brought an unusable
index to a store with events since the last switch of the view, the first events are awaited in an empty store
only, and no page of history that comes to a store with events plays. -/
theorem hushed_of_no_late_index (client : Client) (queue : Queue) (view : View) (settings : Settings)
    (rules : List Numerology.Rule) (apps : AppCatalog) (turns : List Turn) :
    let t := (fresh client queue view settings rules apps).run turns
    t.session.IndicatesEmpty ∧ (ClearOf Arrival.isLate t.arrivals → t.reconciler.Hushed) := by
  intro t
  have hindicates : t.session.IndicatesEmpty :=
    run_induction (P := fun t => t.session.IndicatesEmpty) (fun h => absurd h Bool.false_ne_true)
      (fun _ turn h => indicatesEmpty_step h turn) turns
  have hawaits : t.AwaitsUnlessLate :=
    run_induction (fun _ h => absurd h Bool.false_ne_true) (fun _ turn h => h.step turn) turns
  exact ⟨hindicates, fun hclear => Reconciler.hushed_of_flags hindicates (hawaits hclear)⟩

/-- An unusable index comes to an empty store, a push fills it, and the page of history that is still under way
finds nothing to play. -/
theorem hushed_behind_push :
    let t := (ofLocal .boosts).run [.call .tick, .answer 0 (some { status := 200, body := "0" }),
      .call (.push .boosts [{ index := 10, action := .boost }])]
    ClearOf Arrival.isLate t.arrivals ∧ t.reconciler.Hushed ∧ t.session.store.isEmpty = false := by
  intro t
  have hclear : ClearOf Arrival.isLate t.arrivals := by decide +kernel
  exact ⟨hclear, (hushed_of_no_late_index _ {} .boosts {} [] {} _).2 hclear, by decide +kernel⟩

/-- Where the push comes before the unusable index, the page of history plays. -/
theorem late_index_lets_history_play :
    ¬ ∀ (client : Client) (queue : Queue) (view : View) (settings : Settings) (rules : List Numerology.Rule)
      (apps : AppCatalog) (turns : List Turn),
      ((fresh client queue view settings rules apps).run turns).reconciler.Hushed := by
  intro hclaim
  let t := (ofLocal .boosts).run [.call .tick, .call (.push .boosts [{ index := 10, action := .boost }]),
    .answer 0 (some { status := 200, body := "0" })]
  have hhushed : t.reconciler.Hushed := hclaim _ {} .boosts {} [] {} _
  -- the page that the unusable index asks for
  let q := (t.session.planColdStart (.number (.natural 0))).1
  have hsilent := (hhushed.backfill .boosts q [{ index := 3, action := .boost }] rfl (by decide +kernel)).1
  have hplays : (t.reconciler.apply .boosts q [{ index := 3, action := .boost }]).1.triggersSubmitted = 1 := by
    decide +kernel
  exact absurd (hplays.symm.trans hsilent) (by decide)

end Traffic

end BoostFeed
