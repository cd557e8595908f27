import BoostFeed.Proofs.Service.Course
import BoostFeed.Proofs.Service.Traffic
import BoostFeed.Watch.Flight

/-! A denied access is final. The call that is told so fails at once, and nothing admits the session again, not even a
switch of the view: every call that starts later fails before it has asked for anything or changed the feed. -/

namespace BoostFeed

open Feed Json Playback

namespace HttpReply

variable {α : Type} {decode : String → Option α} {reply : Option HttpReply}

def denies (reply : Option HttpReply) : Bool := reply.any (·.status = forbidden)

theorem denies_some {r : HttpReply} : denies (some r) = true ↔ r.status = forbidden := by
  simp [denies]

/-- Access is denied by the status alone, whatever the answer was to be read as. -/
theorem interpret_eq_unauthorized_iff : interpret decode reply = .error .unauthorized ↔ denies reply = true := by
  cases reply with
  | none => simp [interpret, denies]
  | some r =>
    rw [denies_some]
    by_cases h : r.status = forbidden
    · have hrefused : r.succeeds = false := by simp [succeeds, h, forbidden]
      simp [interpret, hrefused, h]
    · simp only [interpret, if_neg h]
      split
      · split <;> simp [h]
      · simp [h]

theorem not_worthRetrying_of_denies (h : denies reply = true) : worthRetrying reply = false := by
  cases reply with
  | none => simp [denies] at h
  | some r => simp [worthRetrying, denies_some.mp h, forbidden]

end HttpReply

/-- No attempt follows one that was denied. -/
theorem Watch.Flight.answer_of_denies {reply : Option HttpReply} (h : HttpReply.denies reply = true) (f : Flight)
    (now : Nat) : f.answer now reply = .ends reply := by
  simp [answer, HttpReply.not_worthRetrying_of_denies h]

namespace Reconciler

variable {r : Reconciler} {reply : Option HttpReply}

theorem resume_of_denies (h : HttpReply.denies reply = true) (w : Waiting) :
    r.resume w reply =
      ({ r with session := { r.session with authorized := false } }, .finished (.error .unauthorized)) := by
  have hdenied {α : Type} {decode : String → Option α} :
      HttpReply.interpret decode reply = .error .unauthorized := HttpReply.interpret_eq_unauthorized_iff.mpr h
  cases w <;> simp [resume, readBalance, hdenied, fail]

theorem authorized_start (c : Call) : (r.start c).1.session.authorized = r.session.authorized := by
  rw [session_start]
  cases c with
  | push view events =>
    dsimp only
    split <;> rfl
  | _ => rfl

theorem authorized_apply (view : View) (q : PageRequest) (page : List Event) :
    (r.apply view q page).2.session.authorized = r.session.authorized := by
  rw [session_apply]
  split <;> rfl

/-- Only an answer that denies access ends it. -/
theorem authorized_resume (w : Waiting) (reply : Option HttpReply) :
    (r.resume w reply).1.session.authorized = (r.session.authorized && !HttpReply.denies reply) := by
  cases hd : HttpReply.denies reply with
  | true => simp [resume_of_denies hd]
  | false =>
    have hfail {α : Type} {decode : String → Option α} {f : Failure}
        (hi : HttpReply.interpret decode reply = .error f) : (r.fail f).1 = r :=
      fail_fst_of_ne fun hf => by simp [HttpReply.interpret_eq_unauthorized_iff.mp (hf ▸ hi)] at hd
    have hread {f : Failure} (hb : r.readBalance reply = .error f) : (r.fail f).1 = r := by
      unfold readBalance at hb
      split at hb <;> cases hb
      exact hfail ‹_›
    simp only [Bool.not_false, Bool.and_true]
    cases w with
    | index =>
      simp only [resume]
      split
      · simp [Session.planColdStart_session]
      · simp [Session.planColdStart_session]
      · next hi => rw [hfail hi]
    | page view q effects thenBalance =>
      cases hi : HttpReply.interpret decodePage reply with
      | error f => simp [resume, hi, hfail hi]
      | ok page => rw [resume_page_fst hi, authorized_apply]
    | tickBalance outcome =>
      simp only [resume]
      split
      · next hb => rw [hread hb]
      · next hb => rw [(readBalance_ok hb).1]
    | balance =>
      simp only [resume]
      split
      · next hb => rw [hread hb]
      · next hb => rw [(readBalance_ok hb).1]
    | reply index =>
      simp only [resume]
      split
      · next hi => rw [hfail hi]
      · simp only [recordReply]
        split <;> rfl

/-- Without access a call ends where it starts, and has changed nothing but the view. -/
theorem quiet_start_of_denied (h : r.session.authorized = false) (c : Call) : (Change.mk r (r.start c).1).Quiet := by
  cases c with
  | push view events =>
    rw [start_of_denied h]
    exact Change.quiet_of_frame (fun _ hi => hi) rfl
  | _ => exact quiet_start (by simp)

end Reconciler

namespace Traffic

variable {t : Traffic} {turn : Turn}

/-- The result of the call that ends with a turn. -/
def result? (t : Traffic) : Turn → Option (Except Failure Answer)
  | .call c => (t.reconciler.start c).2.result?
  | .answer place reply => t.pending[place]?.bind fun p => (t.reconciler.resume p.waiting reply).2.result?

/-- A turn tells a call under way that access is denied. -/
def denies (t : Traffic) : Turn → Bool
  | .call _ => false
  | .answer place reply => t.pending[place]?.isSome && HttpReply.denies reply

theorem authorized_step : (t.step turn).session.authorized = (t.session.authorized && !t.denies turn) := by
  cases turn with
  | call c => simpa [step, denies] using Reconciler.authorized_start c
  | answer place reply =>
    cases hp : t.pending[place]? with
    | none => simp [step, denies, hp]
    | some p => simpa [step, denies, hp] using Reconciler.authorized_resume p.waiting reply

theorem denied_run (h : t.session.authorized = false) (turns : List Turn) :
    (t.run turns).session.authorized = false :=
  run_induction (P := fun t => t.session.authorized = false) h
    (fun t turn h => by rw [authorized_step, h, Bool.false_and]) turns

/-- A call that is told that access is denied fails with it, after any attempt, and the session loses its access. From
then on, whatever is still under way and however the view is switched, the session stays without, and a call fails
where it starts: it sends nothing, adds no event and submits no trigger. -/
theorem denial_is_final (t : Traffic) (place : Nat) (p : Pending) (reply : HttpReply)
    (hp : t.pending[place]? = some p) (hdenied : reply.status = HttpReply.forbidden) (later : List Turn) (c : Call) :
    let answer := Turn.answer place (some reply)
    let u := (t.step answer).run later
    (∀ (f : Watch.Flight) (now : Nat), f.answer now (some reply) = .ends (some reply)) ∧
    t.result? answer = some (.error .unauthorized) ∧ (t.step answer).session.authorized = false ∧
    u.session.authorized = false ∧ u.result? (.call c) = some (.error .unauthorized) ∧ u.sent? (.call c) = none ∧
    (Change.mk u.reconciler (u.step (.call c)).reconciler).Quiet := by
  intro answer u
  have hdenies : HttpReply.denies (some reply) = true := HttpReply.denies_some.mpr hdenied
  have hlost : (t.step answer).session.authorized = false := by
    simp [authorized_step, answer, denies, hp, hdenies]
  have hstays : u.session.authorized = false := denied_run hlost later
  refine ⟨Watch.Flight.answer_of_denies hdenies, ?_, hlost, hstays, ?_, ?_, ?_⟩
  · simp [answer, result?, hp, Reconciler.resume_of_denies hdenies, Progress.result?]
  · simp [result?, Reconciler.start_of_denied hstays, Progress.result?]
  · simp [sent?, Reconciler.start_of_denied hstays]
  · exact Reconciler.quiet_start_of_denied hstays c

/-- The balance is denied while a tick awaits its page. The page still comes, but behind a switch of the view a pushed
boost does not. -/
theorem denied_balance_is_final :
    let t := (ofLocal .boosts).run [.call .refreshBalance, .call (.poll .forward)]
    let denied : HttpReply := { status := 403, body := "" }
    let answer := Turn.answer 0 (some denied)
    let u := (t.step answer).run [.answer 0 (some { status := 200, body := "[\x7b\"index\":11,\"action\":2\x7d]" }),
      .call (.switchView .boosts)]
    let push := Turn.call (.push .boosts [{ index := 12, action := .boost }])
    t.pending[0]?.isSome ∧ denied.status = HttpReply.forbidden ∧
    t.result? answer = some (.error .unauthorized) ∧ u.session.authorized = false ∧
    u.result? push = some (.error .unauthorized) ∧ u.sent? push = none ∧
    (Change.mk u.reconciler (u.step push).reconciler).Quiet := by
  intro t denied answer u push
  have hsome : t.pending[0]?.isSome = true := by decide +kernel
  obtain ⟨p, hp⟩ := Option.isSome_iff_exists.mp hsome
  obtain ⟨-, hresult, -, hrest⟩ := denial_is_final t 0 p denied hp rfl
    [.answer 0 (some { status := 200, body := "[\x7b\"index\":11,\"action\":2\x7d]" }), .call (.switchView .boosts)]
    (.push .boosts [{ index := 12, action := .boost }])
  exact ⟨hsome, rfl, hresult, hrest⟩

end Traffic

end BoostFeed
