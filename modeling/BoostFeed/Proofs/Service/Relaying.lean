import BoostFeed.Proofs.Service.Reporting
import BoostFeed.Service.Outlet
import Mathlib.Data.List.TakeWhile

/-! What reaches the renderer, in whatever order the tasks hand over their results. The sign to stop doubles as the
memory that the user has been sent to log in: the first denied access that finds it unset is shown and sets it. All
else that is handed over while there is a renderer reaches it, complete and in order. -/

namespace BoostFeed

open Feed Json

namespace Session

variable {s : Session}

theorem redirect_notMem_applyPage (r : PageRequest) (page : List Event) :
    .redirectToLogin ∉ (s.applyPage r page).1.effects := by
  apply notMem_applyPage <;> simp [insertedEffect]

theorem redirect_notMem_planColdStart (raw : Value) : .redirectToLogin ∉ (s.planColdStart raw).2.1 := by
  unfold planColdStart
  split
  · simp
  · cases raw.isNumber <;> simp

end Session

namespace Reconciler

variable {r : Reconciler} {c : Call} {w : Waiting} {reply : Option HttpReply} {o : Outcome}

theorem redirect_notMem_apply (view : View) (q : PageRequest) (page : List Event) :
    .redirectToLogin ∉ (r.apply view q page).1.effects := by
  by_cases hv : r.session.view = view
  · simpa [apply, hv] using Session.redirect_notMem_applyPage q page
  · simp [apply, hv]

theorem redirect_notMem_start (h : (r.start c).2.told? = some o) : .redirectToLogin ∉ o.effects := by
  cases c with
  | push view events =>
    cases ha : r.session.authorized with
    | false => simp [start_of_denied ha, Progress.told?] at h
    | true =>
      rw [start_of_authorized ha] at h
      cases h
      exact redirect_notMem_apply view r.session.planForward events
  | _ =>
    rw [told?_start (by simp) h]
    simp

/-- A step of a call tells the renderer of no denied access: it fails instead. -/
theorem redirect_notMem_resume (hw : .redirectToLogin ∉ w.told.effects) (h : (r.resume w reply).2.told? = some o) :
    .redirectToLogin ∉ o.effects := by
  cases w with
  | index =>
    cases hr : reading? reply with
    | some raw =>
      rw [resume_index_of_reading hr] at h
      rw [told?_askPage h]
      exact Session.redirect_notMem_planColdStart raw
    | none =>
      obtain ⟨f, hf⟩ := resume_index_of_no_reading (r := r) hr
      simp [hf, told?_fail] at h
  | page view q effects thenBalance =>
    cases hi : HttpReply.interpret decodePage reply with
    | error f => simp [resume, hi, told?_fail] at h
    | ok page =>
      rw [told?_resume_page hi h]
      simpa [redirect_notMem_apply, Waiting.told] using hw
  | tickBalance outcome =>
    cases hb : r.readBalance reply with
    | error f => simp [resume, hb, told?_fail] at h
    | ok read =>
      simp only [resume, hb] at h
      cases h
      simpa [Answer.told, Waiting.told] using hw
  | balance =>
    cases hb : r.readBalance reply with
    | error f => simp [resume, hb, told?_fail] at h
    | ok read =>
      simp only [resume, hb] at h
      cases h
      simp [Answer.told]
  | reply index =>
    cases hi : HttpReply.interpret decodeReply reply with
    | error f => simp [resume, hi, told?_fail] at h
    | ok a =>
      simp only [resume, hi] at h
      cases h
      simp only [Answer.told, recordReply]
      split
      · simp
      · dsimp only
        split <;> simp

end Reconciler

namespace Course

variable {w : Waiting} {later : List (Reconciler × Option HttpReply)} {a : Answer}

theorem redirect_notMem_goOn (hw : .redirectToLogin ∉ w.told.effects) (h : (goOn w later).result = some (.ok a)) :
    .redirectToLogin ∉ a.told.effects := by
  induction later generalizing w with
  | nil => cases h
  | cons answer later ih =>
    obtain ⟨r, reply⟩ := answer
    cases hp : (r.resume w reply).2 with
    | finished result =>
      simp only [goOn, hp, opened, Option.some.injEq] at h
      subst h
      exact Reconciler.redirect_notMem_resume hw (by rw [hp]; rfl)
    | waiting request w' =>
      simp only [goOn, hp, opened] at h
      exact ih (Reconciler.redirect_notMem_resume hw (by rw [hp]; rfl)) h

theorem redirect_notMem_course {r : Reconciler} {c : Call} (h : (r.course c later).result = some (.ok a)) :
    .redirectToLogin ∉ a.told.effects := by
  unfold Reconciler.course at h
  cases hp : (r.start c).2 with
  | finished result =>
    simp only [hp, opened, Option.some.injEq] at h
    subst h
    exact Reconciler.redirect_notMem_start (by rw [hp]; rfl)
  | waiting request w =>
    simp only [hp, opened] at h
    exact redirect_notMem_goOn (Reconciler.redirect_notMem_start (by rw [hp]; rfl)) h

end Course

/-- The results that the tasks hand over: that of a call, whatever answers it got, and that of a pushed balance. -/
inductive Handed : Except Failure Answer → Prop
  | called {result} (r : Reconciler) (c : Call) (later : List (Reconciler × Option HttpReply)) :
      (r.course c later).result = some result → Handed result
  | pushed (r : Reconciler) (raw : Value) : Handed (.ok (.balance (r.observeBalance raw).1))

theorem Handed.redirect_notMem {a : Answer} (h : Handed (.ok a)) :
    .redirectToLogin ∉ Outlet.answerEffects a := by
  have heffects : Outlet.answerEffects a = a.told.effects := by cases a <;> rfl
  rw [heffects]
  cases h with
  | called r c later hresult => exact Course.redirect_notMem_course hresult
  | pushed r raw => simp [Answer.told]

namespace Outlet

variable {o : Outlet}

@[simp]
theorem cancelled_send (us : List Update) : (o.send us).cancelled = o.cancelled := by
  unfold send
  split <;> rfl

@[simp]
theorem attended_send (us : List Update) : (o.send us).attended = o.attended := by
  unfold send
  split <;> rfl

theorem updates_send (us : List Update) :
    (o.send us).updates = o.updates ++ if o.attended then us else [] := by
  unfold send
  split <;> simp_all

theorem failed_of_ne {f : Failure} (h : f ≠ .unauthorized) : o.failed f = o := by
  cases f with
  | unauthorized => exact absurd rfl h
  | _ => rfl

end Outlet

/-- An outlet with what the renderer has taken of it, oldest first. -/
structure Relay where
  outlet : Outlet := {}
  rendered : List Update := []

namespace Relay

/-- What can come to an outlet, from any task. -/
inductive Turn where
  | result (result : Except Failure Answer)
  | ages (now : Int)
  /-- The sign to stop, from the user or the system. -/
  | cancel
  /-- The renderer takes what is there. -/
  | take
  /-- The renderer goes. -/
  | abandon

namespace Turn

def isDenial : Turn → Bool
  | .result (.error .unauthorized) => true
  | _ => false

def stops : Turn → Bool
  | .cancel => true
  | t => t.isDenial

def isAbandon : Turn → Bool
  | .abandon => true
  | _ => false

/-- What the renderer is to get of it, the way to log in aside: of a result its effects, of a failure nothing. -/
def brings : Turn → List Update
  | .result (.ok a) => (Outlet.answerEffects a).map .effect
  | .ages now => [.refreshAges now]
  | .result (.error _) | .cancel | .take | .abandon => []

end Turn

def step (r : Relay) : Turn → Relay
  | .result result => { r with outlet := r.outlet.forward result }
  | .ages now => { r with outlet := r.outlet.send [.refreshAges now] }
  | .cancel => { r with outlet := r.outlet.cancel }
  | .take => { outlet := r.outlet.take.2, rendered := r.rendered ++ r.outlet.take.1 }
  | .abandon => { r with outlet := r.outlet.abandon }

def run (turns : List Turn) (r : Relay) : Relay := turns.foldl step r

def sent (r : Relay) : List Update := r.rendered ++ r.outlet.updates

/-- The turns while there is a renderer. -/
def heard (turns : List Turn) : List Turn := turns.takeWhile (!·.isAbandon)

/-- The turns up to the first that gives the sign to stop. -/
def early (turns : List Turn) : List Turn := turns.takeWhile (!·.stops)

def late (turns : List Turn) : List Turn := turns.dropWhile (!·.stops)

/-- Whether the sign to stop comes from a denied access. -/
def endsDenied (turns : List Turn) : Bool := (late turns).head?.any Turn.isDenial

variable {r : Relay}

/-- What a turn sends, by whether the sign to stop has been given. -/
def told (cancelled : Bool) (t : Turn) : List Update :=
  if t.isDenial && !cancelled then [.effect .redirectToLogin] else t.brings

theorem isDenial_error {f : Failure} : (Turn.result (.error f)).isDenial = true ↔ f = .unauthorized := by
  cases f <;> simp [Turn.isDenial]

/-- What a turn does to a relay. -/
structure Moved (r : Relay) (t : Turn) (next : Relay) : Prop where
  cancelled : next.outlet.cancelled = (r.outlet.cancelled || t.stops)
  attended : next.outlet.attended = (r.outlet.attended && !t.isAbandon)
  sent : next.sent = r.sent ++ if r.outlet.attended then told r.outlet.cancelled t else []

theorem moved_step (r : Relay) (t : Turn) : r.Moved t (r.step t) := by
  cases t with
  | result result =>
    cases result with
    | ok a =>
      constructor <;> simp [step, Relay.sent, told, Outlet.forward, Outlet.sendEffects, Outlet.updates_send,
        Turn.stops, Turn.isDenial, Turn.isAbandon, Turn.brings]
    | error f =>
      by_cases hf : f = .unauthorized
      · subst hf
        cases hc : r.outlet.cancelled <;> constructor <;> simp [step, Relay.sent, told, Outlet.forward,
          Outlet.failed, Outlet.sendEffects, Outlet.cancel, Outlet.updates_send, hc, Turn.stops, Turn.isDenial,
          Turn.isAbandon, Turn.brings]
      · have hkept : r.step (.result (.error f)) = r := by simp [step, Outlet.forward, Outlet.failed_of_ne hf]
        have hdenial : (Turn.result (.error f)).isDenial = false := Bool.eq_false_iff.mpr (isDenial_error.not.mpr hf)
        rw [hkept]
        constructor <;> simp [told, hdenial, Turn.stops, Turn.isAbandon, Turn.brings]
  | ages now =>
    constructor <;> simp [step, Relay.sent, told, Outlet.updates_send, Turn.stops, Turn.isDenial, Turn.isAbandon,
      Turn.brings]
  | cancel | take | abandon =>
    constructor <;> simp [step, Relay.sent, told, Outlet.cancel, Outlet.take, Outlet.abandon, Turn.stops,
      Turn.isDenial, Turn.isAbandon, Turn.brings]

theorem brings_of_isDenial {t : Turn} (h : t.isDenial = true) : t.brings = [] := by
  unfold Turn.isDenial at h
  split at h
  · rfl
  · cases h

variable {turns : List Turn}

theorem run_cons (t : Turn) : run (t :: turns) r = run turns (r.step t) := rfl

theorem cancelled_run : (run turns r).outlet.cancelled = (r.outlet.cancelled || turns.any Turn.stops) := by
  induction turns generalizing r with
  | nil => exact (Bool.or_false _).symm
  | cons t turns ih => rw [run_cons, ih, (moved_step r t).cancelled, List.any_cons, Bool.or_assoc]

theorem sent_run_of_gone (h : r.outlet.attended = false) : (run turns r).sent = r.sent := by
  induction turns generalizing r with
  | nil => rfl
  | cons t turns ih =>
    have hgone : (r.step t).outlet.attended = false := by rw [(moved_step r t).attended, h, Bool.false_and]
    rw [run_cons, ih hgone, (moved_step r t).sent, h]
    simp

/-- Nothing is sent once the renderer has gone. -/
theorem sent_run_heard : (run turns r).sent = (run (heard turns) r).sent := by
  induction turns generalizing r with
  | nil => rfl
  | cons t turns ih =>
    cases ht : t.isAbandon with
    | false => simpa [heard, ht, run_cons] using ih
    | true =>
      have hgone : (r.step t).outlet.attended = false := by
        rw [(moved_step r t).attended, ht, Bool.not_true, Bool.and_false]
      have hnone : heard (t :: turns) = [] := by simp [heard, ht]
      obtain rfl : t = .abandon := by
        unfold Turn.isAbandon at ht
        split at ht
        · rfl
        · cases ht
      rw [run_cons, sent_run_of_gone hgone, hnone]
      rfl

theorem notAbandon_of_mem_heard {t : Turn} (h : t ∈ heard turns) : t.isAbandon = false := by
  simpa using List.mem_takeWhile_imp h

theorem parts_cons_of_stops (turns : List Turn) {t : Turn} (h : t.stops = true) :
    early (t :: turns) = [] ∧ late (t :: turns) = t :: turns ∧ endsDenied (t :: turns) = t.isDenial := by
  simp [early, late, endsDenied, h]

theorem parts_cons_of_not_stops (turns : List Turn) {t : Turn} (h : t.stops = false) :
    early (t :: turns) = t :: early turns ∧ late (t :: turns) = late turns ∧
      endsDenied (t :: turns) = endsDenied turns := by
  simp [early, late, endsDenied, h]

/-- Once the sign to stop is given, everything goes on but the way to log in. -/
theorem sent_run_of_cancelled (hturns : ∀ t ∈ turns, t.isAbandon = false) (ha : r.outlet.attended = true)
    (hc : r.outlet.cancelled = true) : (run turns r).sent = r.sent ++ turns.flatMap Turn.brings := by
  induction turns generalizing r with
  | nil => simp [run]
  | cons t turns ih =>
    obtain ⟨ht, hturns⟩ := List.forall_mem_cons.mp hturns
    have hmoved := moved_step r t
    have hattended : (r.step t).outlet.attended = true := by rw [hmoved.attended, ha, ht]; rfl
    have hcancelled : (r.step t).outlet.cancelled = true := by rw [hmoved.cancelled, hc, Bool.true_or]
    rw [run_cons, ih hturns hattended hcancelled, hmoved.sent, ha, hc]
    simp [told]

/-- Of a run that meets a renderer and no sign to stop: what the turns bring, and the way to log in where the sign
comes from a denied access. -/
theorem sent_run (hturns : ∀ t ∈ turns, t.isAbandon = false) (ha : r.outlet.attended = true)
    (hc : r.outlet.cancelled = false) :
    (run turns r).sent = r.sent ++ ((early turns).flatMap Turn.brings ++
      ((if endsDenied turns then [.effect .redirectToLogin] else []) ++ (late turns).flatMap Turn.brings)) := by
  -- the sign is unset until the turn that gives it, and set for all turns behind
  induction turns generalizing r with
  | nil => simp [run, early, late, endsDenied]
  | cons t turns ih =>
    obtain ⟨ht, hturns⟩ := List.forall_mem_cons.mp hturns
    have hmoved := moved_step r t
    have hattended : (r.step t).outlet.attended = true := by rw [hmoved.attended, ha, ht]; rfl
    have hsent : (r.step t).sent = r.sent ++ told false t := by rw [hmoved.sent, if_pos ha, hc]
    cases hstops : t.stops with
    | false =>
      have hcancelled : (r.step t).outlet.cancelled = false := by rw [hmoved.cancelled, hc, hstops, Bool.or_false]
      have hdenial : t.isDenial = false := by
        unfold Turn.stops at hstops
        split at hstops
        · cases hstops
        · exact hstops
      obtain ⟨hearly, hlate, hends⟩ := parts_cons_of_not_stops turns hstops
      rw [run_cons, ih hturns hattended hcancelled, hsent, hearly, hlate, hends]
      simp [told, hdenial]
    | true =>
      have hcancelled : (r.step t).outlet.cancelled = true := by rw [hmoved.cancelled, hstops, Bool.or_true]
      obtain ⟨hearly, hlate, hends⟩ := parts_cons_of_stops turns hstops
      rw [run_cons, sent_run_of_cancelled hturns hattended hcancelled, hsent, hearly, hlate, hends]
      -- a denied access brings nothing of its own, so the way to log in takes the place of this turn
      cases hdenial : t.isDenial with
      | false => simp [told, hdenial]
      | true => simp [told, hdenial, brings_of_isDenial hdenial]

theorem redirect_notMem_brings {t : Turn} (h : ∀ result, t = .result result → Handed result) :
    .effect .redirectToLogin ∉ t.brings := by
  cases t with
  | result result =>
    cases result with
    | ok a => simpa [Turn.brings] using (h _ rfl).redirect_notMem
    | error f => simp [Turn.brings]
  | _ => simp [Turn.brings]

theorem count_redirect_brings {part : List Turn} (h : ∀ result, .result result ∈ part → Handed result) :
    (part.flatMap Turn.brings).count (.effect .redirectToLogin) = 0 := by
  rw [List.count_eq_zero, List.mem_flatMap]
  rintro ⟨t, ht, hredirect⟩
  exact redirect_notMem_brings (fun result hresult => h result (hresult ▸ ht)) hredirect

/-- Whatever results the tasks hand over, mixed with whatever else comes: the sign to stop is set from the first denied
access or outer sign on, and by nothing else. While there is a renderer it is sent all effects, complete and in order,
and at the turn that sets the sign, if that is a denied access, the way to log in. It is sent that at most once. -/
theorem denial_is_shown_once (turns : List Turn) (hhanded : ∀ result, .result result ∈ turns → Handed result) :
    (run turns {}).outlet.cancelled = turns.any Turn.stops ∧
    (run turns {}).sent = (early (heard turns)).flatMap Turn.brings ++
      ((if endsDenied (heard turns) then [.effect .redirectToLogin] else []) ++
        (late (heard turns)).flatMap Turn.brings) ∧
    (run turns {}).sent.count (.effect .redirectToLogin) = if endsDenied (heard turns) then 1 else 0 := by
  have hattends : ∀ t ∈ heard turns, t.isAbandon = false := fun _ => notAbandon_of_mem_heard
  have hsent := sent_run_heard.trans (sent_run (r := {}) hattends rfl rfl)
  have hpart (part : List Turn) (hsubset : part ⊆ heard turns) :
      (part.flatMap Turn.brings).count (.effect .redirectToLogin) = 0 :=
    count_redirect_brings fun result hresult => hhanded result (List.takeWhile_subset _ (hsubset hresult))
  have hearly := hpart (early (heard turns)) (List.takeWhile_subset _)
  have hlate := hpart (late (heard turns)) (List.dropWhile_subset _)
  refine ⟨cancelled_run, hsent, ?_⟩
  rw [hsent, List.count_append, List.count_append, List.count_append, hearly, hlate]
  cases endsDenied (heard turns) <;> rfl

/-- A balance, a poll without answer, the ages, two denied polls with a balance between them, and a balance that the
renderer does not live to see. -/
def deniedTwice : List Turn :=
  [.result (.ok (.balance (some (.sats 5 false)))), .result (.error .transport), .ages 60,
    .result (.error .unauthorized), .take, .result (.ok (.balance (some (.sats 7 false)))),
    .result (.error .unauthorized), .abandon, .result (.ok (.balance (some (.sats 9 false))))]

open Reconciler (pushedOne) in
theorem denied_twice_is_shown_once :
    (∀ result, .result result ∈ deniedTwice → Handed result) ∧
    (run deniedTwice {}).outlet.cancelled = true ∧
    (run deniedTwice {}).sent = [.effect (.balance (.sats 5 false)), .refreshAges 60, .effect .redirectToLogin,
      .effect (.balance (.sats 7 false))] ∧
    (run deniedTwice {}).sent.count (.effect .redirectToLogin) = 1 := by
  have hpushed (amount : UInt64) :
      Handed (.ok (.balance (pushedOne.observeBalance (.number (.natural amount))).1)) := .pushed pushedOne _
  have hlost : Handed (.error .transport) := .called pushedOne (.poll .forward) [(pushedOne, none)] rfl
  have hdenied : Handed (.error .unauthorized) :=
    .called pushedOne (.poll .forward) [(pushedOne, some { status := 403, body := "" })] rfl
  have hhanded : ∀ result, .result result ∈ deniedTwice → Handed result := by
    simp only [deniedTwice, List.mem_cons, Turn.result.injEq, reduceCtorEq, false_or, or_false, List.not_mem_nil]
    rintro result (rfl | rfl | rfl | rfl | rfl | rfl)
    · exact hpushed 5
    · exact hlost
    · exact hdenied
    · exact hpushed 7
    · exact hdenied
    · exact hpushed 9
  obtain ⟨hcancelled, hsent, hcount⟩ := denial_is_shown_once deniedTwice hhanded
  exact ⟨hhanded, hcancelled, hsent, hcount⟩

end Relay

end BoostFeed
