import BoostFeed.Proofs.Feed.Map
import BoostFeed.Proofs.Service.Traffic

/-! What a reply does to the store. It marks the one event that the server records it against, and a mark stays: until
the view is switched, a stored event is neither removed nor replaced, whatever copies of it still come. -/

namespace BoostFeed

open Feed Json

/-- Where an answer records a reply: at the index that the server names, else at the one asked for. -/
def ReplyAnswer.recordedAt? (a : ReplyAnswer) (asked : UInt64) : Option UInt64 :=
  if a.success then some (a.replyTo.getD asked) else none

/-- Where an answer that came records a reply, if it does. -/
def recorded? (asked : UInt64) (reply : Option HttpReply) : Option UInt64 :=
  (HttpReply.interpret decodeReply reply).toOption.bind (·.recordedAt? asked)

example :
    let body := "\x7b\"success\":true,\"data\":\x7b\"payment_info\":\x7b\"reply_to_idx\":7\x7d\x7d\x7d"
    recorded? 5 (some { status := 200, body }) = some 7 := by
  decide +kernel

namespace Feed.Store

variable {s t u : Store}

/-- All events are still there as they were, but for marks of replies. -/
def Retains (s t : Store) : Prop :=
  ∀ i e, s.get? i = some e → ∃ d, t.get? i = some d ∧ (d = e ∨ d = { e with replySent := true })

theorem Retains.refl (s : Store) : s.Retains s := fun _ e he => ⟨e, he, .inl rfl⟩

theorem Retains.trans (h : s.Retains t) (h' : t.Retains u) : s.Retains u := by
  intro i e he
  obtain ⟨d, hd, hmark⟩ := h i e he
  obtain ⟨c, hc, hmark'⟩ := h' i d hd
  refine ⟨c, hc, ?_⟩
  rcases hmark with rfl | rfl
  · exact hmark'
  · rcases hmark' with rfl | rfl <;> exact .inr rfl

theorem retains_markReplied (s : Store) (i : UInt64) : s.Retains (s.markReplied i) := by
  intro j e he
  rw [get?_markReplied, he]
  by_cases hi : i = j
  · exact ⟨_, if_pos hi, .inr rfl⟩
  · exact ⟨_, if_neg hi, .inl rfl⟩

end Feed.Store

theorem Session.retains_applyPage (s : Session) (q : PageRequest) (page : List Event) :
    s.store.Retains (s.applyPage q page).2.store := by
  intro i e he
  rw [Store.get?_eq_some_iff] at he
  exact ⟨e, Store.get?_eq_some_iff.mpr ⟨mem_applyPage_of_mem he.1, he.2⟩, .inl rfl⟩

namespace Reconciler

variable {r : Reconciler} {asked : UInt64} {reply : Option HttpReply}

theorem resume_reply_of_recorded {i : UInt64} (h : recorded? asked reply = some i) :
    r.resume (.reply asked) reply =
      ({ r with session := (r.session.markReplied i).2 },
        .finished (.ok (.effects (if r.session.store.contains i then [.replyMarked i] else [])))) := by
  cases hi : HttpReply.interpret decodeReply reply with
  | error f => simp [recorded?, hi, Except.toOption] at h
  | ok a =>
    cases ha : a.success with
    | false => simp [recorded?, ReplyAnswer.recordedAt?, hi, ha, Except.toOption] at h
    | true =>
      obtain rfl : a.replyTo.getD asked = i := by
        simpa [recorded?, ReplyAnswer.recordedAt?, hi, ha, Except.toOption] using h
      simp only [resume, hi, recordReply, ha, Bool.not_true, Bool.false_eq_true, if_false]
      rfl

theorem resume_reply_of_unrecorded (h : recorded? asked reply = none) :
    (r.resume (.reply asked) reply).1.session.store = r.session.store ∧
      ((∃ f, (r.resume (.reply asked) reply).2.result? = some (.error f)) ∨
        ∃ message, (r.resume (.reply asked) reply).2.result? = some (.ok (.effects [.replyFailed message]))) := by
  cases hi : HttpReply.interpret decodeReply reply with
  | error f =>
    simp only [resume, hi]
    cases f <;> exact ⟨rfl, .inl ⟨_, rfl⟩⟩
  | ok a =>
    cases ha : a.success with
    | true => simp [recorded?, ReplyAnswer.recordedAt?, hi, ha, Except.toOption] at h
    | false =>
      simp only [resume, hi, recordReply, ha, Bool.not_false, if_true]
      exact ⟨trivial, .inr ⟨_, rfl⟩⟩

end Reconciler

namespace Traffic

variable {t : Traffic} {turn : Turn}

theorem retains_step (hturn : ∀ view, turn ≠ .call (.switchView view)) :
    t.session.store.Retains (t.step turn).session.store := by
  cases turn with
  | call c =>
    change t.session.store.Retains (t.reconciler.start c).1.session.store
    rw [Reconciler.session_start]
    cases c with
    | switchView view => exact absurd rfl (hturn view)
    | push view events =>
      dsimp only
      split
      · exact Session.retains_applyPage _ _ _
      · exact .refl _
    | _ => exact .refl _
  | answer place reply =>
    cases hp : t.pending[place]? with
    | none =>
      simp only [step, hp]
      exact .refl _
    | some p =>
      have hanswered := Reconciler.answered (r := t.reconciler) p.waiting reply
      simp only [step, hp, session]
      generalize (t.reconciler.resume p.waiting reply).1.session = s at hanswered ⊢
      cases hanswered with
      | kept authorized => exact .refl _
      | primed raw =>
        rw [Session.planColdStart_session]
        exact .refl _
      | paged q effects thenBalance page => exact Session.retains_applyPage _ _ _
      | marked i j => exact Store.retains_markReplied _ j

theorem retains_run {turns : List Turn} (h : ∀ turn ∈ turns, ∀ view, turn ≠ .call (.switchView view)) :
    t.session.store.Retains (t.run turns).session.store := by
  induction turns generalizing t with
  | nil => exact .refl _
  | cons turn turns ih =>
    have hfirst : t.session.store.Retains (t.step turn).session.store := retains_step (h turn List.mem_cons_self)
    exact hfirst.trans (ih fun later hlater => h later (List.mem_cons_of_mem turn hlater))

end Traffic

end BoostFeed
