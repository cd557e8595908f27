import BoostFeed.Service.Reconciler
import Mathlib.Data.List.Induction
import Mathlib.Data.List.Chain

/-! What the balance indicator tells, over any sequence of readings. A reading is a value, polled or pushed, or the
failure of a poll. The tracker holds two memories, the last amount and an error since then; together they are
what the indicator shows, and a reading is told exactly when it says something else. -/

namespace BoostFeed

open Json

/-- The integer part, toward zero. -/
def Json.Number.whole : Number → Int
  | .natural n => n.toNat
  | .negative n => n.toInt
  | .double x => x.truncate

/-- An integer cut off at the ends of the signed 64-bit range. -/
def clampInt64 (n : Int) : Int := max Int64.minValue.toInt (min n Int64.maxValue.toInt)

/-- What an indicator says, leaving out whether the amount rose. -/
def Balance.content : Balance → Except String Int
  | .sats amount _ => .ok amount.toInt
  | .error reason => .error reason

namespace BalanceTracker

/-- What a reading says: whole sats, or why there are none. Without the body of an answer it says nothing. -/
def contentOf? : Except Failure Value → Option (Except String Int)
  | .ok (.number n) => some (.ok (clampInt64 n.whole))
  | .ok raw => some (.error ("unexpected balance: " ++ raw.print))
  | .error (.decode reason) => some (.error reason)
  | .error _ => none

def amountOf? (reading : Except Failure Value) : Option Int :=
  (contentOf? reading).bind Except.toOption

def hear (t : BalanceTracker) : Except Failure Value → Option Balance × BalanceTracker
  | .ok raw => t.observe raw
  | .error (.decode reason) => t.observeError reason
  | .error _ => (none, t)

/-- What a new tracker has told after these readings, and what it remembers. -/
def hearAll (readings : List (Except Failure Value)) : List Balance × BalanceTracker :=
  readings.foldl (fun (told, t) reading =>
    let (b, t) := t.hear reading
    (told ++ b.toList, t)) ([], {})

/-- What the memories of a tracker amount to: the error if there is one, else the last amount. -/
def current (t : BalanceTracker) : Option (Except String Int) :=
  match t.error with
  | some reason => some (.error reason)
  | none => t.last.map fun amount => .ok amount.toInt

theorem hearAll_concat (readings : List (Except Failure Value)) (reading : Except Failure Value) :
    hearAll (readings ++ [reading]) =
      ((hearAll readings).1 ++ ((hearAll readings).2.hear reading).1.toList,
        ((hearAll readings).2.hear reading).2) := by
  simp only [hearAll, List.foldl_append, List.foldl_cons, List.foldl_nil]

theorem toInt_ofInt_clamp (n : Int) : (Int64.ofInt (clampInt64 n)).toInt = clampInt64 n := by
  have hmin := Int64.toInt_minValue
  have hmax := Int64.toInt_maxValue
  apply Int64.toInt_ofInt_of_le <;> unfold clampInt64 <;> omega

theorem sats?_number (n : Number) :
    (Value.number n).sats? = some (Int64.ofInt (clampInt64 n.whole)) := by
  cases n with
  | natural n =>
    have hmin := Int64.toInt_minValue
    have hmax := Int64.toInt_maxValue
    have hclamp : clampInt64 n.toNat = min (n.toNat : Int) Int64.maxValue.toInt := by unfold clampInt64; omega
    rw [Number.whole, hclamp, Value.sats?]
  | negative n =>
    have hlo := Int64.minValue_le_toInt n
    have hhi := Int64.toInt_le n
    have hclamp : clampInt64 n.toInt = n.toInt := by unfold clampInt64; omega
    rw [Number.whole, hclamp, Value.sats?, Int64.ofInt_toInt]
  | double x => rfl

theorem contentOf?_ok (raw : Value) :
    contentOf? (.ok raw) = some (match raw.sats? with
      | some amount => .ok amount.toInt
      | none => .error ("unexpected balance: " ++ raw.print)) := by
  cases raw with
  | number n => simp only [contentOf?, sats?_number, toInt_ofInt_clamp]
  | _ => rfl

variable (t : BalanceTracker)

theorem current_eq_error_iff (reason : String) :
    t.current = some (.error reason) ↔ t.error = some reason := by
  unfold current
  cases t.error <;> simp

theorem current_eq_ok_iff (amount : Int64) :
    t.current = some (.ok amount.toInt) ↔ t.last = some amount ∧ t.error = none := by
  unfold current
  cases t.error <;> simp [Int64.toInt_inj]

theorem observeError_eq (reason : String) :
    t.observeError reason =
      (if t.current = some (.error reason) then none else some (.error reason), { t with error := some reason }) := by
  simp only [observeError, current_eq_error_iff]
  split
  next h => rw [← h]
  next => rfl

theorem observeSats_eq (amount : Int64) :
    t.observeSats amount =
      (if t.current = some (.ok amount.toInt) then none else some (.sats amount (t.last.any (· < amount))),
        { last := some amount, error := none }) := by
  simp only [observeSats, current_eq_ok_iff]
  split <;> cases t.last <;> rfl

/-- What hearing this content does to a tracker: it tells of anything new and is up to date after. -/
structure Heard (content : Option (Except String Int)) (b : Option Balance) (next : BalanceTracker) : Prop where
  told : b.map Balance.content = content.filter fun c => t.current ≠ some c
  current : next.current = content.or t.current
  last : next.last.map Int64.toInt = (content.bind Except.toOption).or (t.last.map Int64.toInt)
  increased : ∀ amount increased, b = some (.sats amount increased) →
    (increased = true ↔ ∃ previous ∈ t.last.map Int64.toInt, previous < amount.toInt)

theorem heard_observeError (reason : String) :
    t.Heard (some (.error reason)) (t.observeError reason).1 (t.observeError reason).2 := by
  rw [observeError_eq]
  constructor
  · by_cases h : t.current = some (.error reason) <;> simp [h, Option.filter_some, Balance.content]
  · rfl
  · rfl
  · simp

theorem heard_observeSats (amount : Int64) :
    t.Heard (some (.ok amount.toInt)) (t.observeSats amount).1 (t.observeSats amount).2 := by
  rw [observeSats_eq]
  constructor
  · by_cases h : t.current = some (.ok amount.toInt) <;> simp [h, Option.filter_some, Balance.content]
  · rfl
  · rfl
  · intro told increased htold
    obtain ⟨-, rfl, rfl⟩ := by
      simpa only [Option.ite_none_left_eq_some, Option.some.injEq, Balance.sats.injEq] using htold
    cases t.last <;> simp [Int64.lt_iff_toInt_lt]

theorem heard_hear (reading : Except Failure Value) :
    t.Heard (contentOf? reading) (t.hear reading).1 (t.hear reading).2 := by
  match reading with
  | .ok raw =>
    rw [contentOf?_ok]
    simp only [hear, observe]
    cases raw.sats? with
    | some amount => exact t.heard_observeSats amount
    | none => exact t.heard_observeError _
  | .error (.decode reason) => exact t.heard_observeError reason
  | .error .unauthorized | .error (.http _ _) | .error .transport | .error (.invalidAddress _) =>
    constructor <;> simp [contentOf?, hear]

variable {t} {content : Option (Except String Int)} {next : BalanceTracker}

theorem Heard.current_of_none (h : t.Heard content none next) : next.current = t.current := by
  rw [h.current]
  have htold := h.told
  cases content with
  | none => rfl
  | some c =>
    have hknown : t.current = some c := by simpa [Option.filter_some] using htold
    rw [hknown, Option.some_or]

theorem Heard.current_of_some {b : Balance} (h : t.Heard content (some b) next) :
    next.current = some b.content ∧ t.current ≠ some b.content := by
  obtain ⟨hcontent, hnew⟩ := Option.filter_eq_some_iff.mp h.told.symm
  exact ⟨by rw [h.current, hcontent, Option.some_or], of_decide_eq_true hnew⟩

/-- A tracker that is up to date with the readings, and has told of every change. -/
structure Tracks (readings : List (Except Failure Value)) (told : List Balance) (t : BalanceTracker) : Prop where
  last : t.last.map Int64.toInt = (readings.filterMap amountOf?).getLast?
  current : t.current = (readings.filterMap contentOf?).getLast?
  shown : told.getLast?.map Balance.content = t.current
  changes : told.IsChain fun a b => a.content ≠ b.content

theorem Tracks.hear {readings : List (Except Failure Value)} {reading : Except Failure Value} {told : List Balance}
    {b : Option Balance} (h : Tracks readings told t) (hheard : t.Heard (contentOf? reading) b next) :
    Tracks (readings ++ [reading]) (told ++ b.toList) next := by
  have hlast : next.last.map Int64.toInt = ((readings ++ [reading]).filterMap amountOf?).getLast? := by
    rw [hheard.last, h.last, List.filterMap_append, List.getLast?_append, ← amountOf?]
    cases ha : amountOf? reading <;> simp [ha]
  have hcurrent : next.current = ((readings ++ [reading]).filterMap contentOf?).getLast? := by
    rw [hheard.current, h.current, List.filterMap_append, List.getLast?_append]
    cases hc : contentOf? reading <;> simp [hc]
  -- something is told exactly where `current` moves, so the last thing told stays what it says
  refine ⟨hlast, hcurrent, ?_, ?_⟩
  · cases b with
    | none => rw [hheard.current_of_none, Option.toList_none, List.append_nil, h.shown]
    | some b => rw [hheard.current_of_some.1, Option.toList_some, List.getLast?_concat, Option.map_some]
  · cases b with
    | none => simpa using h.changes
    | some b =>
      refine List.isChain_append.mpr ⟨h.changes, .singleton b, fun a ha b' hb heq => hheard.current_of_some.2 ?_⟩
      obtain rfl : b = b' := by simpa using hb
      rw [← h.shown, ha, Option.map_some, heq]

theorem tracks_hearAll (readings : List (Except Failure Value)) :
    Tracks readings (hearAll readings).1 (hearAll readings).2 := by
  induction readings using List.reverseRecOn with
  | nil => exact ⟨rfl, rfl, rfl, .nil⟩
  | append_singleton readings reading ih =>
    rw [hearAll_concat]
    exact ih.hear ((hearAll readings).2.heard_hear reading)

end BalanceTracker

namespace Reconciler

variable (r : Reconciler)

theorem observeBalance_eq_hear (raw : Value) :
    r.observeBalance raw = (r.balance.hear (.ok raw)).map id ({ r with balance := · }) := rfl

/-- The answer to a poll is a reading, except that a denied access fails the call and leaves the tracker alone. -/
theorem readBalance_eq_hear (reply : Option HttpReply) :
    r.readBalance reply = match HttpReply.interpret decodeValue reply with
      | .error .unauthorized => .error .unauthorized
      | reading => .ok ((r.balance.hear reading).map id ({ r with balance := · })) := by
  unfold readBalance
  match HttpReply.interpret decodeValue reply with
  | .ok raw => rfl
  | .error f => cases f <;> rfl

end Reconciler

/-- After any readings the indicator shows what the latest of them says, each thing told differs from the one told
before, and an amount is told as risen exactly when the last numeric reading before it was smaller. Pushes and
polls feed the one tracker in this way. -/
theorem BalanceTracker.indicator_shows_latest (readings : List (Except Failure Value)) :
    (hearAll readings).1.getLast?.map Balance.content = (readings.filterMap contentOf?).getLast? ∧
    (hearAll readings).1.IsChain (fun a b => a.content ≠ b.content) ∧
    (∀ reading amount increased, ((hearAll readings).2.hear reading).1 = some (.sats amount increased) →
      (increased = true ↔ ∃ previous ∈ (readings.filterMap amountOf?).getLast?, previous < amount.toInt)) ∧
    ∀ r : Reconciler,
      (∀ raw, r.observeBalance raw = (r.balance.hear (.ok raw)).map id ({ r with balance := · })) ∧
      ∀ reply, r.readBalance reply = match HttpReply.interpret decodeValue reply with
        | .error .unauthorized => .error .unauthorized
        | reading => .ok ((r.balance.hear reading).map id ({ r with balance := · })) := by
  have htracks := tracks_hearAll readings
  refine ⟨htracks.shown.trans htracks.current, htracks.changes, fun reading amount increased htold => ?_,
    fun r => ⟨r.observeBalance_eq_hear, r.readBalance_eq_hear⟩⟩
  rw [← htracks.last]
  exact ((hearAll readings).2.heard_hear reading).increased amount increased htold

/-- A rise across a failed answer, told once, and a poll without answer. -/
example :
    (BalanceTracker.hearAll [.ok (.number (.natural 5)), .error (.decode "offline"), .error .transport,
      .error (.decode "offline"), .ok (.number (.natural 7))]).1 =
      [.sats 5 false, .error "offline", .sats 7 true] := by decide

end BoostFeed
