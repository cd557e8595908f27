import BoostFeed.Proofs.Session.Page
import BoostFeed.Service.Reconciler

/-! What one step of a call does to the session, and which requests it leaves behind. Only a page, a reading of
the index, a recorded reply and a switch of the view reach the session; only planned pages are asked for. -/

namespace BoostFeed

open Feed Json

/-- A call under way: the request it has sent, and what it waits for. -/
structure Pending where
  request : HttpRequest
  waiting : Waiting

def Progress.pending? : Progress → Option Pending
  | .finished _ => none
  | .waiting request w => some ⟨request, w⟩

@[simp]
theorem Progress.pending?_finished (result : Except Failure Answer) :
    (finished result).pending? = none := rfl

def Progress.result? : Progress → Option (Except Failure Answer)
  | .finished result => some result
  | .waiting _ _ => none

/-- What the answer to an index call is read as. A body of another shape is read as the word about it. -/
def reading? (reply : Option HttpReply) : Option Value :=
  match HttpReply.interpret decodeValue reply with
  | .ok raw => some raw
  | .error (.decode reason) => some (.string reason)
  | .error _ => none

namespace Client

variable {c : Client} {path : String}

theorem address_ne_unauthorized : c.address path ≠ .error .unauthorized := by
  unfold address
  cases c.base.join path <;> simp

theorem request_ne_unauthorized {method : String} {body : Option String} :
    c.request method path body ≠ .error .unauthorized := by
  have h : c.address path ≠ .error .unauthorized := address_ne_unauthorized
  unfold request
  cases ha : c.address path with
  | ok a => simp [bind, Except.bind, pure, Except.pure]
  | error f => simpa [bind, Except.bind, ha] using h

theorem get_ne_unauthorized {pairs : List (String × String)} :
    c.get path pairs ≠ .error .unauthorized := by
  have h : c.request "GET" path none ≠ .error .unauthorized := request_ne_unauthorized
  unfold get
  cases hr : c.request "GET" path none with
  | ok r => simp [bind, Except.bind, pure, Except.pure]
  | error f => simpa [bind, Except.bind, hr] using h

end Client

namespace Reconciler

variable {r : Reconciler} {request : HttpRequest} {w : Waiting} {reply : Option HttpReply}
  {view : View} {q : PageRequest} {effects : List ViewEffect} {thenBalance : Bool}

section Requests

theorem fail_fst_of_ne {f : Failure} (h : f ≠ .unauthorized) : (r.fail f).1 = r := by
  cases f <;> first | rfl | exact absurd rfl h

/-- Only an answer denies access, never the failure to build a request. -/
theorem send_fst {e : Except Failure HttpRequest} (h : e ≠ .error .unauthorized) (w : Waiting) :
    (r.send e w).1 = r := by
  cases e with
  | ok request => rfl
  | error f => exact fail_fst_of_ne fun hf => h (hf ▸ rfl)

@[simp]
theorem askPage_fst (q : PageRequest) (effects : List ViewEffect) (thenBalance : Bool) :
    (r.askPage q effects thenBalance).1 = r := send_fst Client.get_ne_unauthorized _

@[simp]
theorem askIndex_fst : r.askIndex.1 = r := send_fst Client.get_ne_unauthorized _

@[simp]
theorem askBalance_fst (w : Waiting) (otherwise : Answer) : (r.askBalance w otherwise).1 = r := by
  unfold askBalance
  split <;> rfl

@[simp]
theorem startPoll_fst (m : PollMode) : (r.startPoll m).1 = r := by
  cases m <;> simp [startPoll]

@[simp]
theorem pending?_fail (f : Failure) : (r.fail f).2.pending? = none := by
  cases f <;> rfl

theorem pending?_send {e : Except Failure HttpRequest} {p : Pending}
    (h : (r.send e w).2.pending? = some p) : e = .ok p.request ∧ p.waiting = w := by
  cases e with
  | ok request =>
    cases h
    exact ⟨rfl, rfl⟩
  | error f => simp [send] at h

theorem pending?_askBalance {p : Pending} {otherwise : Answer}
    (h : (r.askBalance w otherwise).2.pending? = some p) : p.waiting = w := by
  unfold askBalance at h
  split at h <;> cases h
  rfl

/-- A request for a page goes to the feed of the current view. -/
structure AsksPage (r : Reconciler) (p : Pending) (view : View) (q : PageRequest) : Prop where
  view_eq : view = r.session.view
  request : r.client.pageRequest view.feedPath q.query = .ok p.request

theorem asksPage_askPage {p : Pending} {q' : PageRequest} {effects' : List ViewEffect} {b : Bool}
    (h : (r.askPage q' effects' b).2.pending? = some p)
    (hp : p.waiting = .page view q effects thenBalance) : r.AsksPage p view q ∧ q = q' := by
  obtain ⟨hr, hw⟩ := pending?_send h
  rw [hp] at hw
  cases hw
  exact ⟨⟨rfl, hr⟩, rfl⟩

theorem pending?_askIndex {p : Pending} (h : r.askIndex.2.pending? = some p) : p.waiting = .index :=
  (pending?_send h).2

end Requests

section Start

variable {c : Call}

theorem session_apply (view : View) (q : PageRequest) (page : List Event) :
    (r.apply view q page).2.session =
      if r.session.view = view then (r.session.applyPage q page).2 else r.session := by
  by_cases hv : r.session.view = view <;> simp [apply, hv]

/-- The reconciler as a call finds it. -/
def entered (r : Reconciler) : Call → Reconciler
  | .switchView view => { r with session := r.session.reset view }
  | .poll _ | .tick | .push _ _ | .refreshBalance | .reply _ => r

theorem start_of_denied (ha : r.session.authorized = false) :
    r.start c = (r.entered c, .finished (.error .unauthorized)) := by
  cases c <;> simp [start, entered, Session.reset, ha]

theorem start_of_authorized (ha : r.session.authorized = true) :
    r.start c = match c with
      | .poll m => r.startPoll m
      | .tick =>
        if r.session.store.isEmpty then r.askIndex else r.askPage r.session.planForward [] true
      | .push view events =>
        ((r.apply view r.session.planForward events).2,
          .finished (.ok (.outcome (r.apply view r.session.planForward events).1)))
      | .refreshBalance => r.askBalance .balance (.balance none)
      | .reply request => r.send (r.client.replyRequest request) (.reply request.index)
      | .switchView view => (r.entered (.switchView view)).askIndex := by
  cases c with
  | push view events =>
    by_cases hv : r.session.view = view <;> simp [start, apply, ha, hv]
  | _ => simp [start, entered, Session.reset, ha]

theorem session_start (c : Call) :
    (r.start c).1.session = match c with
      | .switchView view => r.session.reset view
      | .push view events =>
        if r.session.authorized = true ∧ r.session.view = view then
          (r.session.applyPage r.session.planForward events).2
        else r.session
      | .poll _ | .tick | .refreshBalance | .reply _ => r.session := by
  cases ha : r.session.authorized with
  | false => cases c <;> simp [start_of_denied ha, entered]
  | true =>
    rw [start_of_authorized ha]
    cases c with
    | poll m => simp
    | tick => by_cases he : r.session.store.isEmpty = true <;> simp [he]
    | push view events => simp [session_apply]
    | refreshBalance => simp
    | reply request => exact congrArg session (send_fst Client.request_ne_unauthorized _)
    | switchView view => simp [entered]

/-- A call that starts by asking for a page asks for the one planned from the session as it stands. -/
theorem start_asksPage {p : Pending} (h : (r.start c).2.pending? = some p)
    (hp : p.waiting = .page view q effects thenBalance) :
    (r.start c).1 = r ∧ r.AsksPage p view q ∧ ∃ direction, q = r.session.plan direction := by
  cases ha : r.session.authorized with
  | false => simp [start_of_denied ha] at h
  | true =>
    rw [start_of_authorized ha] at h ⊢
    cases c with
    | poll m =>
      refine ⟨startPoll_fst m, ?_⟩
      cases m with
      | coldStart => simp [pending?_askIndex h] at hp
      | forward => exact (asksPage_askPage h hp).imp_right fun hq => ⟨.forward, hq⟩
      | backfill => exact (asksPage_askPage h hp).imp_right fun hq => ⟨.backfill, hq⟩
    | tick =>
      by_cases he : r.session.store.isEmpty = true
      · simp only [he, if_true] at h
        simp [pending?_askIndex h] at hp
      · simp only [he, Bool.false_eq_true, if_false, askPage_fst, true_and] at h ⊢
        exact (asksPage_askPage h hp).imp_right fun hq => ⟨.forward, hq⟩
    | push view events => simp at h
    | refreshBalance => simp [pending?_askBalance h] at hp
    | reply request => simp [(pending?_send h).2] at hp
    | switchView view => simp [pending?_askIndex h] at hp

end Start

section Resume

theorem readBalance_ok {b : Option Balance} {r' : Reconciler} (h : r.readBalance reply = .ok (b, r')) :
    r'.session = r.session ∧ r'.client = r.client := by
  unfold readBalance at h
  split at h <;> cases h <;> exact ⟨rfl, rfl⟩

/-- What the answer that a call waits for does to the session. -/
inductive Answered (s : Session) (w : Waiting) (reply : Option HttpReply) : Session → Prop
  | kept (authorized : Bool) : Answered s w reply { s with authorized }
  | primed (raw : Value) : w = .index → reading? reply = some raw →
      Answered s w reply (s.planColdStart raw).2.2
  | paged (q : PageRequest) (effects : List ViewEffect) (thenBalance : Bool) (page : List Event) :
      w = .page s.view q effects thenBalance → HttpReply.interpret decodePage reply = .ok page →
      Answered s w reply (s.applyPage q page).2
  | marked (i j : UInt64) : w = .reply i → Answered s w reply (s.markReplied j).2

theorem Answered.fail (f : Failure) : Answered r.session w reply (r.fail f).1.session := by
  cases f with
  | unauthorized => exact .kept false
  | _ => exact .kept r.session.authorized

theorem resume_index_of_reading {raw : Value} (h : reading? reply = some raw) :
    r.resume .index reply = r.primeFrom raw := by
  unfold reading? at h
  cases hi : HttpReply.interpret decodeValue reply with
  | ok read =>
    obtain rfl : read = raw := by simpa [hi] using h
    simp [resume, hi]
  | error f =>
    cases f with
    | decode reason =>
      obtain rfl : Value.string reason = raw := by simpa [hi] using h
      simp [resume, hi]
    | _ => simp [hi] at h

theorem resume_index_of_no_reading (h : reading? reply = none) :
    ∃ f, r.resume .index reply = r.fail f := by
  unfold reading? at h
  cases hi : HttpReply.interpret decodeValue reply with
  | ok raw => simp [hi] at h
  | error f =>
    cases f with
    | decode reason => simp [hi] at h
    | _ =>
      simp only [resume, hi]
      exact ⟨_, rfl⟩

@[simp]
theorem session_primeFrom (raw : Value) :
    (r.primeFrom raw).1.session = (r.session.planColdStart raw).2.2 := by
  simp [primeFrom]

theorem resume_page_fst {page : List Event} (h : HttpReply.interpret decodePage reply = .ok page) :
    (r.resume (.page view q effects thenBalance) reply).1 = (r.apply view q page).2 := by
  simp only [resume, h]
  split
  · rfl
  · split
    · rfl
    · exact askBalance_fst _ _

theorem answered (w : Waiting) (reply : Option HttpReply) :
    Answered r.session w reply (r.resume w reply).1.session := by
  cases w with
  | index =>
    cases hr : reading? reply with
    | some raw =>
      rw [resume_index_of_reading hr, session_primeFrom]
      exact .primed raw rfl hr
    | none =>
      obtain ⟨f, hf⟩ := resume_index_of_no_reading (r := r) hr
      rw [hf]
      exact .fail f
  | page view q effects thenBalance =>
    cases hi : HttpReply.interpret decodePage reply with
    | error f =>
      simp only [resume, hi]
      exact .fail f
    | ok page =>
      rw [resume_page_fst hi, session_apply]
      by_cases hv : r.session.view = view
      · rw [if_pos hv]
        exact .paged q effects thenBalance page (hv ▸ rfl) hi
      · rw [if_neg hv]
        exact .kept r.session.authorized
  | tickBalance outcome =>
    simp only [resume]
    split
    · exact .fail _
    · next h =>
      rw [(readBalance_ok h).1]
      exact .kept r.session.authorized
  | balance =>
    simp only [resume]
    split
    · exact .fail _
    · next h =>
      rw [(readBalance_ok h).1]
      exact .kept r.session.authorized
  | reply index =>
    simp only [resume]
    split
    · exact .fail _
    · simp only [recordReply]
      split
      · exact .kept r.session.authorized
      · exact .marked index _ rfl

theorem resume_reply_finished (i : UInt64) (reply : Option HttpReply) :
    ∃ result, (r.resume (.reply i) reply).2 = .finished result := by
  simp only [resume]
  split
  · next f _ => cases f <;> exact ⟨_, rfl⟩
  · exact ⟨_, rfl⟩

/-- A call that goes on by asking for a page asks for the one primed from the reading it has got. -/
theorem resume_asksPage {p : Pending} (h : (r.resume w reply).2.pending? = some p)
    (hp : p.waiting = .page view q effects thenBalance) :
    (r.resume w reply).1.AsksPage p view q ∧
      ∃ raw, (r.resume w reply).1.session = (r.session.planColdStart raw).2.2 ∧
        q = (r.session.planColdStart raw).1 := by
  cases w with
  | index =>
    cases hr : reading? reply with
    | some raw =>
      rw [resume_index_of_reading hr] at h ⊢
      simp only [primeFrom, askPage_fst] at h ⊢
      obtain ⟨hask, hq⟩ := asksPage_askPage h hp
      exact ⟨hask, raw, rfl, hq⟩
    | none =>
      obtain ⟨f, hf⟩ := resume_index_of_no_reading (r := r) hr
      simp [hf] at h
  | page view' q' effects' b =>
    simp only [resume] at h
    split at h
    · simp at h
    · split at h
      · simp at h
      · split at h
        · simp at h
        · simp [pending?_askBalance h] at hp
  | tickBalance outcome =>
    simp only [resume] at h
    split at h <;> simp at h
  | balance =>
    simp only [resume] at h
    split at h <;> simp at h
  | reply index =>
    obtain ⟨result, hresult⟩ := resume_reply_finished (r := r) index reply
    simp [hresult] at h

end Resume

section Client

@[simp]
theorem client_fail (f : Failure) : (r.fail f).1.client = r.client := by
  cases f <;> rfl

@[simp]
theorem client_apply (view : View) (q : PageRequest) (page : List Event) :
    (r.apply view q page).2.client = r.client := by
  by_cases hv : r.session.view = view <;> simp [apply, hv]

theorem client_start (c : Call) : (r.start c).1.client = r.client := by
  cases ha : r.session.authorized with
  | false => cases c <;> simp [start_of_denied ha, entered]
  | true =>
    rw [start_of_authorized ha]
    cases c with
    | tick => by_cases he : r.session.store.isEmpty = true <;> simp [he]
    | reply request => exact congrArg client (send_fst Client.request_ne_unauthorized _)
    | _ => simp [entered]

theorem client_resume (w : Waiting) (reply : Option HttpReply) :
    (r.resume w reply).1.client = r.client := by
  cases w with
  | index =>
    cases hr : reading? reply with
    | some raw => simp [resume_index_of_reading hr, primeFrom]
    | none =>
      obtain ⟨f, hf⟩ := resume_index_of_no_reading (r := r) hr
      simp [hf]
  | page view q effects thenBalance =>
    cases hi : HttpReply.interpret decodePage reply with
    | error f => simp [resume, hi]
    | ok page => simp [resume_page_fst hi]
  | tickBalance outcome =>
    simp only [resume]
    split
    · simp
    · next h => exact (readBalance_ok h).2
  | balance =>
    simp only [resume]
    split
    · simp
    · next h => exact (readBalance_ok h).2
  | reply index =>
    simp only [resume]
    split
    · simp
    · simp only [recordReply]
      split <;> rfl

end Client

end Reconciler

end BoostFeed
