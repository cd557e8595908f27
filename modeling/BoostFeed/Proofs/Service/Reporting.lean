import BoostFeed.Proofs.Service.Course
import BoostFeed.Proofs.Service.Traffic

/-! What a call answers is what it has done: its rows are the events that it has added, and it counts the triggers that
it has submitted. Effects are told once, so an outcome that is dropped is never made good. That happens to a tick alone,
which asks for the balance behind the page and fails if access is denied by then. -/

namespace BoostFeed

open Feed Json Playback

def Outcome.rows (o : Outcome) : List Row := o.effects.filterMap ViewEffect.row?

/-- The rows of the events that a step adds. -/
def Change.rows (ch : Change) : List Row := ch.added.map ch.left.session.row

def Course.rows (k : Course) : List Row := k.changes.flatMap Change.rows

/-- What a waiting call has to tell so far. -/
def Waiting.told : Waiting → Outcome
  | .page _ _ effects _ => { effects }
  | .tickBalance o => o
  | .index | .balance | .reply _ => {}

def Answer.told : Answer → Outcome
  | .outcome o => o
  | .balance b => { effects := (b.map ViewEffect.balance).toList }
  | .effects es => { effects := es }

def Progress.told? : Progress → Option Outcome
  | .finished (.ok a) => some a.told
  | .finished (.error _) => none
  | .waiting _ w => some w.told

namespace Session

variable {s : Session}

theorem rows_planColdStart (raw : Value) : (s.planColdStart raw).2.1.filterMap ViewEffect.row? = [] := by
  unfold planColdStart
  split
  · rfl
  · cases raw.isNumber <;> rfl

end Session

/-- Between two accounts lie the rows and triggers of the changes between them. -/
structure Tells (before : Outcome) (changes : List Change) (after : Outcome) : Prop where
  rows : after.rows = before.rows ++ changes.flatMap Change.rows
  triggers : after.triggersSubmitted = before.triggersSubmitted + (changes.flatMap Change.submitted).length

theorem Change.Quiet.tells {ch : Change} (h : ch.Quiet) {before after : Outcome} (hrows : after.rows = before.rows)
    (htriggers : after.triggersSubmitted = before.triggersSubmitted) : Tells before [ch] after where
  rows := by simp [hrows, Change.rows, h.added]
  triggers := by simp [htriggers, h.submitted]

theorem Tells.cons {before between after : Outcome} {ch : Change} {changes : List Change}
    (h : Tells before [ch] between) (h' : Tells between changes after) : Tells before (ch :: changes) after where
  rows := by simpa [h.rows] using h'.rows
  triggers := by simpa [h.triggers, Nat.add_assoc] using h'.triggers

namespace Reconciler

variable {r : Reconciler} {c : Call} {w : Waiting} {reply : Option HttpReply} {o : Outcome}
  {view : View} {q : PageRequest} {effects : List ViewEffect} {thenBalance : Bool}

theorem tells_apply (view : View) (q : PageRequest) (page : List Event) :
    Tells {} [⟨r, (r.apply view q page).2⟩] (r.apply view q page).1 := by
  by_cases hv : r.session.view = view
  · have hrows : (r.apply view q page).1.rows =
        (r.session.store.merge (r.session.accepted page)).1.map fun i => r.session.row i.event := by
      rw [← Session.rows_applyPage r.session q page]
      simp [apply, hv, Outcome.rows]
    have hrow : (r.apply view q page).2.session.row = r.session.row := by
      rw [session_apply, if_pos hv]
      rfl
    have htriggers : (r.apply view q page).1.triggersSubmitted = (r.session.applyPage q page).1.triggers.length := by
      simp [apply, hv]
    constructor
    · rw [hrows]
      simp [Change.rows, hrow, added_apply hv, Outcome.rows]
    · rw [htriggers]
      simp only [List.flatMap_cons, List.flatMap_nil, List.append_nil, submitted_apply hv, Nat.zero_add]
  · apply (quiet_apply_of_ne hv page).tells
    · simp [apply, hv]
    · simp [apply, hv]

theorem told?_fail (f : Failure) : (r.fail f).2.told? = none := by
  cases f <;> rfl

theorem told?_send {e : Except Failure HttpRequest} (h : (r.send e w).2.told? = some o) : o = w.told := by
  cases e with
  | ok request =>
    cases h
    rfl
  | error f => simp [send, told?_fail] at h

theorem told?_askPage (h : (r.askPage q effects thenBalance).2.told? = some o) : o = { effects } :=
  told?_send h

theorem told?_askBalance {w : Waiting} {a : Answer} (hw : w.told = a.told) :
    (r.askBalance w a).2.told? = some a.told := by
  unfold askBalance
  split
  · exact congrArg some hw
  · rfl

theorem told?_start (hc : ∀ view events, c ≠ .push view events) (h : (r.start c).2.told? = some o) : o = {} := by
  cases ha : r.session.authorized with
  | false => simp [start_of_denied ha, Progress.told?] at h
  | true =>
    rw [start_of_authorized ha] at h
    cases c with
    | poll m => cases m <;> exact told?_send h
    | tick =>
      dsimp only at h
      split at h <;> exact told?_send h
    | push view events => exact absurd rfl (hc view events)
    | refreshBalance =>
      have htold : (r.askBalance .balance (.balance none)).2.told? = some {} := told?_askBalance rfl
      exact (Option.some.inj (htold.symm.trans h)).symm
    | reply request => exact told?_send h
    | switchView view => exact told?_send h

theorem tells_start (h : (r.start c).2.told? = some o) : Tells {} [⟨r, (r.start c).1⟩] o := by
  cases c with
  | push view events =>
    cases ha : r.session.authorized with
    | false => simp [start_of_denied ha, Progress.told?] at h
    | true =>
      rw [start_of_authorized ha] at h ⊢
      cases h
      exact tells_apply view r.session.planForward events
  | _ =>
    rw [told?_start (by simp) h]
    exact (quiet_start (by simp)).tells rfl rfl

theorem told?_resume_page {page : List Event} (hi : HttpReply.interpret decodePage reply = .ok page)
    (h : (r.resume (.page view q effects thenBalance) reply).2.told? = some o) :
    o = { (r.apply view q page).1 with effects := effects ++ (r.apply view q page).1.effects } := by
  simp only [resume, hi] at h
  split at h
  · exact (Option.some.inj h).symm
  · split at h
    · cases h
    · rw [told?_askBalance rfl] at h
      exact (Option.some.inj h).symm

theorem rows_recordReply (i : UInt64) (a : ReplyAnswer) : (r.recordReply i a).1.filterMap ViewEffect.row? = [] := by
  unfold recordReply
  split
  · rfl
  · dsimp only
    split <;> rfl

theorem tells_resume (h : (r.resume w reply).2.told? = some o) :
    Tells w.told [⟨r, (r.resume w reply).1⟩] o := by
  cases w with
  | index =>
    have hquiet : (Change.mk r (r.resume .index reply).1).Quiet := quiet_resume (by simp)
    cases hr : reading? reply with
    | some raw =>
      have htold : o = { effects := (r.session.planColdStart raw).2.1 } := by
        rw [resume_index_of_reading hr] at h
        exact told?_askPage h
      subst htold
      exact hquiet.tells (Session.rows_planColdStart raw) rfl
    | none =>
      obtain ⟨f, hf⟩ := resume_index_of_no_reading (r := r) hr
      simp [hf, told?_fail] at h
  | page view q effects thenBalance =>
    cases hi : HttpReply.interpret decodePage reply with
    | error f => simp [resume, hi, told?_fail] at h
    | ok page =>
      obtain ⟨hrows, htriggers⟩ := tells_apply (r := r) view q page
      rw [told?_resume_page hi h, resume_page_fst hi]
      constructor
      · simpa [Outcome.rows, Waiting.told] using hrows
      · simpa [Waiting.told] using htriggers
  | tickBalance outcome =>
    have hquiet : (Change.mk r (r.resume (.tickBalance outcome) reply).1).Quiet := quiet_resume (by simp)
    cases hb : r.readBalance reply with
    | error f => simp [resume, hb, told?_fail] at h
    | ok read =>
      simp only [resume, hb] at h
      cases h
      apply hquiet.tells
      · cases read.1 <;> simp [Answer.told, Waiting.told, Outcome.rows, ViewEffect.row?]
      · rfl
  | balance =>
    have hquiet : (Change.mk r (r.resume .balance reply).1).Quiet := quiet_resume (by simp)
    cases hb : r.readBalance reply with
    | error f => simp [resume, hb, told?_fail] at h
    | ok read =>
      simp only [resume, hb] at h
      cases h
      apply hquiet.tells
      · cases read.1 <;> rfl
      · rfl
  | reply index =>
    have hquiet : (Change.mk r (r.resume (.reply index) reply).1).Quiet := quiet_resume (by simp)
    cases hi : HttpReply.interpret decodeReply reply with
    | error f => simp [resume, hi, told?_fail] at h
    | ok a =>
      simp only [resume, hi] at h
      cases h
      exact hquiet.tells (rows_recordReply index a) rfl

/-- A step that fails has changed nothing, unless it finds access denied behind the page of a tick. -/
theorem quiet_resume_of_failed {f : Failure} (h : (r.resume w reply).2 = .finished (.error f)) :
    (Change.mk r (r.resume w reply).1).Quiet ∨
      ∃ view q effects page, w = .page view q effects true ∧
        HttpReply.interpret decodePage reply = .ok page ∧ r.session.authorized = false ∧ f = .unauthorized := by
  cases w with
  | page view q effects thenBalance =>
    cases hi : HttpReply.interpret decodePage reply with
    | error f => exact .inl (quiet_resume_of_error hi)
    | ok page =>
      right
      cases thenBalance with
      | false => simp [resume, hi] at h
      | true =>
        have hkept : (r.apply view q page).2.session.authorized = r.session.authorized := by
          rw [session_apply]
          split <;> rfl
        simp only [resume, hi, Bool.not_true, Bool.false_eq_true, if_false] at h
        split at h
        · next hdenied =>
          cases h
          exact ⟨view, q, effects, page, rfl, rfl, by simpa [hkept] using hdenied, rfl⟩
        · unfold askBalance at h
          split at h <;> cases h
  | _ => exact .inl (quiet_resume (by simp))

theorem quiet_start_of_failed {f : Failure} (h : (r.start c).2 = .finished (.error f)) :
    (Change.mk r (r.start c).1).Quiet := by
  cases c with
  | push view events =>
    cases ha : r.session.authorized with
    | false =>
      rw [start_of_denied ha]
      exact Change.quiet_of_frame (fun _ hi => hi) rfl
    | true => simp [start_of_authorized ha] at h
  | _ => exact quiet_start (by simp)

/-- Only a tick over stored events asks for the balance behind a page. -/
theorem start_waits_balance {request : HttpRequest}
    (h : (r.start c).2 = .waiting request (.page view q effects true)) :
    c = .tick ∧ r.session.store.isEmpty = false := by
  have hpending : (r.start c).2.pending? = some ⟨request, .page view q effects true⟩ := by rw [h]; rfl
  cases ha : r.session.authorized with
  | false => simp [start_of_denied ha] at hpending
  | true =>
    rw [start_of_authorized ha] at hpending
    cases c with
    | poll m => cases m <;> cases (pending?_send hpending).2
    | tick =>
      refine ⟨rfl, Bool.eq_false_iff.mpr fun he => ?_⟩
      rw [if_pos he] at hpending
      cases (pending?_send hpending).2
    | push view events => cases hpending
    | refreshBalance => cases pending?_askBalance hpending
    | reply request => cases (pending?_send hpending).2
    | switchView view => cases (pending?_send hpending).2

end Reconciler

theorem HttpReply.status_of_unauthorized {α : Type} {decode : String → Option α} {reply : HttpReply}
    (h : interpret decode (some reply) = .error .unauthorized) : reply.status = forbidden := by
  simp only [interpret] at h
  split at h
  · split at h <;> cases h
  · split at h
    · assumption
    · cases h

/-- Behind the first answer, a page, access is denied: another call has found that out, or the second answer tells. -/
inductive DeniedBehindPage : List (Reconciler × Option HttpReply) → Prop
  | found {r reply page later} : HttpReply.interpret decodePage reply = .ok page → r.session.authorized = false →
      DeniedBehindPage ((r, reply) :: later)
  | told {r reply page r' reply' later} : HttpReply.interpret decodePage reply = .ok page →
      HttpReply.interpret decodeValue reply' = .error .unauthorized →
      DeniedBehindPage ((r, reply) :: (r', reply') :: later)

namespace Course

variable {w : Waiting} {later : List (Reconciler × Option HttpReply)}

theorem tells_goOn {a : Answer} (h : (goOn w later).result = some (.ok a)) :
    Tells w.told (goOn w later).changes a.told := by
  induction later generalizing w with
  | nil => cases h
  | cons answer later ih =>
    obtain ⟨r, reply⟩ := answer
    cases hp : (r.resume w reply).2 with
    | finished result =>
      simp only [goOn, hp, opened, Option.some.injEq] at h ⊢
      subst h
      exact Reconciler.tells_resume (by rw [hp]; rfl)
    | waiting request w' =>
      simp only [goOn, hp, opened] at h ⊢
      have hstep : Tells w.told [⟨r, (r.resume w reply).1⟩] w'.told := Reconciler.tells_resume (by rw [hp]; rfl)
      exact hstep.cons (ih h)

theorem tells_course {r : Reconciler} {c : Call} {a : Answer} (h : (r.course c later).result = some (.ok a)) :
    Tells {} (r.course c later).changes a.told := by
  unfold Reconciler.course at h ⊢
  cases hp : (r.start c).2 with
  | finished result =>
    simp only [hp, opened, Option.some.injEq] at h ⊢
    subst h
    exact Reconciler.tells_start (by rw [hp]; rfl)
  | waiting request w =>
    simp only [hp, opened] at h ⊢
    have hstep : Tells {} [⟨r, (r.start c).1⟩] w.told := Reconciler.tells_start (by rw [hp]; rfl)
    exact hstep.cons (tells_goOn h)

theorem quiet_goOn_of_failed {f : Failure} (hw : ∀ view q effects, w ≠ .page view q effects true)
    (h : (goOn w later).result = some (.error f)) : ∀ ch ∈ (goOn w later).changes, ch.Quiet := by
  induction later generalizing w with
  | nil => cases h
  | cons answer later ih =>
    obtain ⟨r, reply⟩ := answer
    cases hp : (r.resume w reply).2 with
    | finished result =>
      simp only [goOn, hp, opened, Option.some.injEq] at h ⊢
      subst h
      rcases Reconciler.quiet_resume_of_failed hp with hquiet | ⟨view, q, effects, page, hpage, -⟩
      · simpa using hquiet
      · exact absurd hpage (hw view q effects)
    | waiting request w' =>
      simp only [goOn, hp, opened] at h ⊢
      rcases Reconciler.resume_waits hp with ⟨rfl, view, q, effects, rfl⟩ | ⟨view, q, effects, page, o, hpage, -⟩
      · have hquiet : (Change.mk r (r.resume .index reply).1).Quiet := Reconciler.quiet_resume (by simp)
        exact List.forall_mem_cons.mpr ⟨hquiet, ih (by simp) h⟩
      · exact absurd hpage (hw view q effects)

/-- A tick that fails behind its page has been denied access. -/
theorem quiet_goOn_of_not_denied {f : Failure} {view : View} {q : PageRequest} {effects : List ViewEffect}
    (h : (goOn (.page view q effects true) later).result = some (.error f)) (hlate : ¬DeniedBehindPage later) :
    ∀ ch ∈ (goOn (.page view q effects true) later).changes, ch.Quiet := by
  cases later with
  | nil => cases h
  | cons answer later =>
    obtain ⟨r, reply⟩ := answer
    cases hp : (r.resume (.page view q effects true) reply).2 with
    | finished result =>
      simp only [goOn, hp, opened, Option.some.injEq] at h ⊢
      subst h
      rcases Reconciler.quiet_resume_of_failed hp with hquiet | ⟨_, _, _, page, -, hi, hdenied, -⟩
      · simpa using hquiet
      · exact absurd (.found hi hdenied) hlate
    | waiting request w =>
      rcases Reconciler.resume_waits hp with ⟨hw, -⟩ | ⟨_, _, _, page, o, -, hi, rfl⟩
      · cases hw
      · simp only [goOn, hp, opened] at h
        cases later with
        | nil => cases h
        | cons answer later =>
          obtain ⟨r', reply'⟩ := answer
          cases hb : r'.readBalance reply' with
          | ok read => simp [goOn, Reconciler.resume, hb, opened] at h
          | error f' =>
            have htold : HttpReply.interpret decodeValue reply' = .error .unauthorized := by
              unfold Reconciler.readBalance at hb
              split at hb <;> first | assumption | cases hb
            exact absurd (.told hi htold) hlate

theorem quiet_course_of_failed {r : Reconciler} {c : Call} {f : Failure}
    (h : (r.course c later).result = some (.error f))
    (hlate : ¬(c = .tick ∧ r.session.store.isEmpty = false ∧ DeniedBehindPage later)) :
    ∀ ch ∈ (r.course c later).changes, ch.Quiet := by
  unfold Reconciler.course at h ⊢
  cases hp : (r.start c).2 with
  | finished result =>
    simp only [hp, opened, Option.some.injEq] at h ⊢
    subst h
    simpa using Reconciler.quiet_start_of_failed hp
  | waiting request w =>
    simp only [hp, opened] at h ⊢
    refine List.forall_mem_cons.mpr ⟨Reconciler.quiet_start_of_waiting hp, ?_⟩
    by_cases hw : ∃ view q effects, w = .page view q effects true
    · obtain ⟨view, q, effects, rfl⟩ := hw
      obtain ⟨htick, hstore⟩ := Reconciler.start_waits_balance hp
      exact quiet_goOn_of_not_denied h fun hdenied => hlate ⟨htick, hstore, hdenied⟩
    · exact quiet_goOn_of_failed (fun view q effects hpage => hw ⟨view, q, effects, hpage⟩) h

end Course

namespace Reconciler

/-- Whatever others do to the reconciler meanwhile, a call ends with its second answer at the latest. What it answers
then tells each event that it has added in one row and counts the triggers that it has submitted; and if it fails, it
has done neither. Only a tick that is denied access behind its page is set aside. -/
theorem call_tells_all (r : Reconciler) (c : Call) (later : List (Reconciler × Option HttpReply))
    (hlate : ¬(c = .tick ∧ r.session.store.isEmpty = false ∧ DeniedBehindPage later)) :
    let k := r.course c later
    (2 ≤ later.length → ∃ result, k.result = some result) ∧
    (k.added.map Event.index).Nodup ∧
    ∀ result, k.result = some result →
      match result with
      | .ok a => a.told.rows = k.rows ∧ a.told.triggersSubmitted = k.submitted.length
      | .error _ => k.added = [] ∧ k.submitted = [] := by
  intro k
  refine ⟨Course.course_finishes r c, ?_, fun result hresult => ?_⟩
  · have hincreasing : k.added.Pairwise (fun a b => a.index < b.index) := Course.added_course_increasing r c later
    exact List.pairwise_map.mpr (hincreasing.imp UInt64.ne_of_lt)
  · cases result with
    | ok a =>
      obtain ⟨hrows, htriggers⟩ := Course.tells_course hresult
      exact ⟨hrows, htriggers.trans (Nat.zero_add _)⟩
    | error f =>
      have hquiet := Course.quiet_course_of_failed hresult hlate
      constructor
      · exact List.flatMap_eq_nil_iff.mpr fun ch hch => (hquiet ch hch).added
      · exact List.flatMap_eq_nil_iff.mpr fun ch hch => (hquiet ch hch).submitted

/-- A reconciler of boosts that has been pushed one. -/
def pushedOne : Reconciler :=
  ((Traffic.ofLocal .boosts).step (.call (.push .boosts [{ index := 10, action := .boost }]))).reconciler

/-- A page of one more boost. -/
def pageOfNext : HttpReply := { status := 200, body := "[\x7b\"index\":11,\"action\":2\x7d]" }

/-- What a reconciler is left as by the page of a tick. -/
def behindNext : Reconciler :=
  (pushedOne.resume (.page .boosts pushedOne.session.planForward [] true) (some pageOfNext)).1

/-- A tick that gets its balance tells of the boost that it has added. -/
theorem tick_tells_next :
    let later := [(pushedOne, some pageOfNext), (behindNext, some { status := 200, body := "50" })]
    let k := pushedOne.course .tick later
    ¬(Call.tick = .tick ∧ pushedOne.session.store.isEmpty = false ∧ DeniedBehindPage later) ∧
    k.added.map Event.index = [11] ∧
    ∃ a, k.result = some (.ok a) ∧ a.told.rows = k.rows ∧ a.told.triggersSubmitted = k.submitted.length := by
  intro later k
  have hlate : ¬(Call.tick = .tick ∧ pushedOne.session.store.isEmpty = false ∧ DeniedBehindPage later) := by
    rintro ⟨-, -, hdenied⟩
    simp only [later] at hdenied
    cases hdenied with
    | found _ ha => exact absurd ha (by decide +kernel)
    | told _ hf => exact absurd (HttpReply.status_of_unauthorized hf) (by decide)
  obtain ⟨hfinishes, -, htells⟩ := call_tells_all pushedOne .tick later hlate
  have hadded : k.added.map Event.index = [11] := by decide +kernel
  obtain ⟨result, hresult⟩ := hfinishes (Nat.le_refl 2)
  have htell := htells result hresult
  cases result with
  | ok a => exact ⟨hlate, hadded, a, hresult, htell⟩
  | error f =>
    have hnone : k.added = [] := htell.1
    rw [hnone] at hadded
    cases hadded

/-- A tick whose balance is denied fails, though it has added a boost and submitted its trigger. -/
theorem denied_tick_tells_nothing :
    ¬ ∀ (r : Reconciler) (c : Call) (later : List (Reconciler × Option HttpReply)),
      (c = .tick ∨ c = .loadMore ∨ (∃ view events, c = .push view events) ∨ ∃ view, c = .switchView view) →
      let k := r.course c later
      ∀ result, k.result = some result →
        match result with
        | .ok a => a.told.rows = k.rows ∧ a.told.triggersSubmitted = k.submitted.length
        | .error _ => k.added = [] ∧ k.submitted = [] := by
  intro hclaim
  let later := [(pushedOne, some pageOfNext), (behindNext, some { status := 403, body := "" })]
  have hadded : (pushedOne.course .tick later).added.map Event.index = [11] := by decide +kernel
  have hfailed : ((pushedOne.course .tick later).result.bind fun result =>
      match result with
      | .ok _ => none
      | .error f => some f) = some Failure.unauthorized := by decide +kernel
  obtain ⟨result, hresult, hf⟩ := Option.bind_eq_some_iff.mp hfailed
  cases result with
  | ok a => cases hf
  | error f =>
    have hnone := (hclaim pushedOne .tick later (.inl rfl) _ hresult).1
    rw [hnone] at hadded
    cases hadded

end Reconciler

end BoostFeed
