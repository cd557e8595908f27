import BoostFeed.Proofs.Service.Calls
import BoostFeed.Watch.Desk

/-! How often a reply is sent. A request that fails is repeated until its attempts are used up, and a reply is a
request like any other, although it moves money. -/

namespace BoostFeed.Watch

/-- What befalls a call under way, with the desk as others have left it. -/
inductive Occasion where
  | clock (d : Desk)
  | answer (d : Desk) (reply : Option HttpReply)

/-- What can be seen of a call from outside: letters, and attempts that end in a failure worth another one. -/
inductive Mark where
  | sent (l : Letter)
  | failed

def Mark.letter? : Mark → Option Letter
  | .sent l => some l
  | .failed => none

/-- The letters that a step has added to the outbox. -/
def posted (before after : Desk) : List Mark := (after.outbox.drop before.outbox.length).map .sent

/-- An attempt ends in a failure: by its answer, or because none has come in time. -/
def Errand.fails (e : Errand) : Occasion → Bool
  | .clock d => !e.flight.resting && e.flight.due ≤ d.now
  | .answer _ reply => !e.flight.resting && HttpReply.worthRetrying reply

namespace Occasion

def desk : Occasion → Desk
  | .clock d | .answer d _ => d

def meet (a : Activity) (e : Errand) : Occasion → Desk × Option Errand
  | .clock d => d.wake a e
  | .answer d reply => d.answer a e reply

def marks (a : Activity) (e : Errand) (o : Occasion) : List Mark :=
  (if e.fails o then [.failed] else []) ++ posted o.desk (o.meet a e).1

end Occasion

def marksFrom (a : Activity) (e : Errand) : List Occasion → List Mark
  | [] => []
  | o :: os =>
    o.marks a e ++ match (o.meet a e).2 with
      | none => []
      | some e => marksFrom a e os

/-- What is seen of a call that starts at a desk. -/
def Desk.marks (d : Desk) (a : Activity) (c : Call) (later : List Occasion) : List Mark :=
  posted d (d.start a c).1 ++ match (d.start a c).2 with
    | none => []
    | some e => marksFrom a e later

/-- A letter that is sent so often and fails each time. -/
def attempts (l : Letter) (n : Nat) : List Mark := (List.replicate n [.sent l, .failed]).flatten

theorem attempts_succ (l : Letter) (n : Nat) : attempts l (n + 1) = .sent l :: .failed :: attempts l n := rfl

theorem attempts_prefix_succ (l : Letter) (n : Nat) : attempts l n <+: attempts l (n + 1) := by
  simp [attempts, List.replicate_succ']

theorem letters_attempts (l : Letter) (n : Nat) :
    (attempts l n).filterMap Mark.letter? = List.replicate n l := by
  induction n with
  | zero => rfl
  | succ n ih =>
    simp only [attempts_succ, List.filterMap_cons, Mark.letter?, ih, List.replicate_succ]

variable {d : Desk} {a : Activity} {e : Errand} {i : UInt64}

@[simp]
theorem posted_self : posted d d = [] := by simp [posted]

@[simp]
theorem posted_post {request : HttpRequest} : posted d (d.post a request) = [.sent ⟨a, request⟩] := by
  simp [posted, Desk.post]

theorem posted_of_outbox_eq {d' : Desk} (h : d'.outbox = d.outbox) : posted d d' = [] := by
  simp [posted, h]

/-- What an occasion does to a call that awaits one answer, and what is seen of it. -/
inductive Errand.Met (a : Activity) (e : Errand) : List Mark → Option Errand → Prop
  | waits : Met a e [] (some e)
  | rests (f : Flight) : f.request = e.flight.request → f.retries + 1 = e.flight.retries →
      f.resting = true → Met a e (if e.flight.resting then [] else [.failed]) (some { e with flight := f })
  | leaves (f : Flight) : f.request = e.flight.request → f.retries = e.flight.retries →
      e.flight.resting = true → f.resting = false →
      Met a e [.sent ⟨a, e.flight.request⟩] (some { e with flight := f })
  | ends (failed : Bool) : (failed = true → e.flight.resting = false) →
      Met a e (if failed then [.failed] else []) none

/-- The answer to a reply ends the call. -/
theorem proceed_resume_reply (reply : Option HttpReply) :
    posted d (d.proceed a (d.reconciler.resume (.reply i) reply)).1 = [] ∧
      (d.proceed a (d.reconciler.resume (.reply i) reply)).2 = none := by
  obtain ⟨result, hresult⟩ := Reconciler.resume_reply_finished (r := d.reconciler) i reply
  simp only [Desk.proceed, hresult]
  exact ⟨posted_of_outbox_eq rfl, trivial⟩

theorem met_answer (hw : e.waiting = .reply i) (reply : Option HttpReply) :
    e.Met a ((if !e.flight.resting && HttpReply.worthRetrying reply then [.failed] else []) ++
      posted d (d.answer a e reply).1) (d.answer a e reply).2 := by
  by_cases hagain : 0 < e.flight.retries ∧ e.flight.request.canLeave ∧ HttpReply.worthRetrying reply
  · have hrests := Errand.Met.rests (a := a) (e := e)
      { e.flight with
        retries := e.flight.retries - 1
        resent := e.flight.resent + 1
        due := d.now + restAfter e.flight.resent
        resting := true } rfl (by simp only; omega) rfl
    cases hr : e.flight.resting <;>
      simpa [Desk.answer, Flight.answer, hagain, Desk.follow, hr] using hrests
  · have hends := Errand.Met.ends (a := a) (e := e) (!e.flight.resting && HttpReply.worthRetrying reply)
      (by simp +contextual)
    have hdone := proceed_resume_reply (d := d) (a := a) (i := i) reply
    simpa [Desk.answer, Flight.answer, hagain, Desk.follow, hw, hdone] using hends

theorem met (hw : e.waiting = .reply i) (o : Occasion) : e.Met a (o.marks a e) (o.meet a e).2 := by
  cases o with
  | answer d reply => exact met_answer hw reply
  | clock d =>
    simp only [Occasion.marks, Occasion.meet, Occasion.desk, Errand.fails, Desk.wake, Flight.wake]
    by_cases hearly : d.now < e.flight.due
    · have hlate : ¬ e.flight.due ≤ d.now := Nat.not_le.mpr hearly
      simpa [hearly, hlate, Desk.follow] using Errand.Met.waits
    · have hlate : e.flight.due ≤ d.now := Nat.not_lt.mp hearly
      by_cases hr : e.flight.resting = true
      · have hleaves := Errand.Met.leaves (a := a) (e := e)
          { e.flight with due := d.now + d.patience.timeout, resting := false } rfl rfl hr rfl
        simpa [hearly, hr, Desk.follow] using hleaves
      · -- no answer in time counts as a failed one
        have hanswer := met_answer (d := d) (a := a) hw none
        simpa [hearly, hlate, hr, HttpReply.worthRetrying, Desk.answer] using hanswer

/-- Of a reply that is out, its failure and further attempts can be seen; of one that rests, further attempts. -/
theorem marksFrom_prefix (hw : e.waiting = .reply i) (os : List Occasion) :
    marksFrom a e os <+: if e.flight.resting then attempts ⟨a, e.flight.request⟩ (e.flight.retries + 1)
      else .failed :: attempts ⟨a, e.flight.request⟩ e.flight.retries := by
  induction os generalizing e with
  | nil => exact List.nil_prefix
  | cons o os ih =>
    have hmet := met (a := a) hw o
    simp only [marksFrom]
    generalize o.marks a e = ms, (o.meet a e).2 = errand at hmet
    cases hmet with
    | waits => exact ih hw
    | rests f hrequest hretries hresting =>
      have hrest := ih (e := { e with flight := f }) hw
      simp only [hresting, if_true, hrequest, hretries] at hrest
      cases hr : e.flight.resting with
      | true => exact hrest.trans (attempts_prefix_succ _ _)
      | false => simpa using hrest
    | leaves f hrequest hretries hresting hout =>
      have hrest := ih (e := { e with flight := f }) hw
      simp only [hout, Bool.false_eq_true, if_false, hrequest, hretries] at hrest
      simpa [hresting, attempts_succ] using hrest
    | ends failed hfailed =>
      cases failed with
      | false => exact List.nil_prefix
      | true => simp [hfailed rfl]

/-- A reply sends its request at once, if there is one to send. -/
theorem start_reply (d : Desk) (a : Activity) (r : ReplyRequest) :
    ((d.start a (.reply r)).2 = none ∧ posted d (d.start a (.reply r)).1 = []) ∨
      ∃ request, d.reconciler.client.replyRequest r = .ok request ∧
        (d.start a (.reply r)).2 = some ⟨.reply r.index, .depart d.patience request d.now⟩ ∧
        posted d (d.start a (.reply r)).1 = [.sent ⟨a, request⟩] := by
  cases ha : d.reconciler.session.authorized with
  | false =>
    simp only [Desk.start, Reconciler.start_of_denied ha, Desk.proceed]
    exact .inl ⟨trivial, posted_of_outbox_eq rfl⟩
  | true =>
    cases hr : d.reconciler.client.replyRequest r with
    | ok request =>
      simp only [Desk.start, Reconciler.start_of_authorized ha, hr, Reconciler.send, Desk.proceed]
      exact .inr ⟨request, rfl, rfl, posted_post⟩
    | error f =>
      simp only [Desk.start, Reconciler.start_of_authorized ha, hr, Reconciler.send, Desk.proceed]
      exact .inl (by cases f <;> exact ⟨rfl, posted_of_outbox_eq rfl⟩)

/-- However many retries there are and whatever the server does, a reply sends one request only, at most once
more than there are retries, and each time but the first right after a failure. -/
theorem reply_attempts (d : Desk) (a : Activity) (r : ReplyRequest) (later : List Occasion) :
    ((d.marks a (.reply r) later).filterMap Mark.letter?).length ≤ d.patience.retries + 1 ∧
      (d.marks a (.reply r) later = [] ∨
        ∃ request, d.reconciler.client.replyRequest r = .ok request ∧
          d.marks a (.reply r) later <+: attempts ⟨a, request⟩ (d.patience.retries + 1)) := by
  have hshape : d.marks a (.reply r) later = [] ∨
      ∃ request, d.reconciler.client.replyRequest r = .ok request ∧
        d.marks a (.reply r) later <+: attempts ⟨a, request⟩ (d.patience.retries + 1) := by
    rcases start_reply d a r with ⟨hnone, hposted⟩ | ⟨request, hrequest, hsome, hposted⟩
    · exact .inl (by simp [Desk.marks, hnone, hposted])
    · refine .inr ⟨request, hrequest, ?_⟩
      have hrest := marksFrom_prefix (a := a) (e := ⟨.reply r.index, .depart d.patience request d.now⟩) rfl later
      simpa [Desk.marks, hsome, hposted, attempts_succ, Flight.depart] using hrest
  refine ⟨?_, hshape⟩
  rcases hshape with hnone | ⟨request, -, hsame⟩
  · simp [hnone]
  · have hletters := (hsame.filterMap Mark.letter?).length_le
    rwa [letters_attempts, List.length_replicate] at hletters

/-- The server fails once, and the reply is sent again a second later. -/
theorem reply_sent_twice :
    ¬ ∀ (d : Desk) (a : Activity) (r : ReplyRequest) (later : List Occasion),
      ((d.marks a (.reply r) later).filterMap Mark.letter?).length ≤ 1 := by
  intro hclaim
  let base : Address := { scheme := "http", host := some (.domain "localhost"), path := .segments [""] }
  let d : Desk := { patience := { timeout := 10000, retries := 3 }, reconciler := { client := { base } } }
  have honce := hclaim d .command { index := 5, sats := 100 }
    [.answer d (some { status := 500, body := "" }), .clock { d with now := 1000 }]
  exact absurd honce (by decide +kernel)

end BoostFeed.Watch
