import BoostFeed.Service.Client

/-! Requests under way. A request whose answer is worth another attempt rests and is sent again, until its
attempts are used up; the last answer counts. -/

namespace BoostFeed.Watch

/-- How long an answer is waited for, in milliseconds, and how often a request may be sent again. -/
structure Patience where
  timeout : Nat
  retries : Nat := 0
deriving DecidableEq

/-- The rest before another attempt, in milliseconds: a second after the first attempt, twice as long after
each further one, half an hour at most. -/
def restAfter (attempts : Nat) : Nat := min (1000 * Nat.pow 2 (min attempts 11)) 1800000

structure Flight where
  request : HttpRequest
  /-- How often it may be sent again. -/
  retries : Nat
  /-- How often it has been sent again. -/
  resent : Nat := 0
  /-- When the answer is given up, or the rest ends. -/
  due : Nat
  resting : Bool := false
deriving DecidableEq

/-- A flight after a step. -/
inductive Course where
  | waits (f : Flight)
  /-- The request leaves again. -/
  | leaves (f : Flight)
  | ends (reply : Option HttpReply)

namespace Flight

/-- A request that leaves for the first time. -/
def depart (p : Patience) (request : HttpRequest) (now : Nat) : Flight :=
  { request, retries := p.retries, due := now + p.timeout }

/-- An attempt has its answer. A request that cannot leave is not tried again. -/
def answer (f : Flight) (now : Nat) (reply : Option HttpReply) : Course :=
  if 0 < f.retries ∧ f.request.canLeave ∧ HttpReply.worthRetrying reply then
    .waits { f with
      retries := f.retries - 1, resent := f.resent + 1, due := now + restAfter f.resent, resting := true }
  else .ends reply

/-- The clock has moved on. -/
def wake (f : Flight) (p : Patience) (now : Nat) : Course :=
  if now < f.due then .waits f
  else if f.resting then .leaves { f with due := now + p.timeout, resting := false }
  else f.answer now none

end Flight

end BoostFeed.Watch
