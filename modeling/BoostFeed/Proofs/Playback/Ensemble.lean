import BoostFeed.Playback.Stage
import Mathlib.Data.List.Induction

/-! A queue and a player whose cues end one by one, in any order and in any way. A trigger ends with the last of its
cues, and what waits is played in turn. -/

namespace BoostFeed.Playback

/-- A queue at work with its player. -/
structure Ensemble where
  queue : Queue := {}
  /-- The cues that have been started and have not ended. -/
  sounding : List Cue := []
  /-- The triggers whose cues have been started, the first first. -/
  taken : List Trigger := []

namespace Ensemble

inductive Turn where
  | submit (t : Trigger)
  | tick
  /-- The player starts all cues of what the queue has started. -/
  | take
  | finish (cue : Cue) (ending : Ending)

namespace Turn

def submitted? : Turn → Option Trigger
  | .submit t => some t
  | .tick | .take | .finish _ _ => none

/-- The cue that ends. -/
def ended? : Turn → Option Cue
  | .finish cue _ => some cue
  | .submit _ | .tick | .take => none

end Turn

/-- The queue learns when no cue is left. -/
def join (e : Ensemble) : Ensemble := if e.sounding = [] then { e with queue := e.queue.finish } else e

def step (e : Ensemble) : Turn → Ensemble
  | .submit t => { e with queue := (e.queue.submit t).2 }
  | .tick => { e with queue := e.queue.tick.2 }
  | .take =>
    let (started, queue) := e.queue.take
    { queue, sounding := e.sounding ++ started.flatMap Trigger.cues, taken := e.taken ++ started : Ensemble }.join
  | .finish cue _ => if cue ∈ e.sounding then { e with sounding := e.sounding.erase cue }.join else e

def run (e : Ensemble) (turns : List Turn) : Ensemble := turns.foldl step e

theorem run_append (e : Ensemble) (turns later : List Turn) : e.run (turns ++ later) = (e.run turns).run later :=
  List.foldl_append

/-- Nothing plays, or a trigger has been started, or some of its cues have not ended. -/
inductive Phase : Ensemble → Prop
  | idle (backlog taken : List Trigger) : Phase ⟨⟨false, backlog, []⟩, [], taken⟩
  | started (t : Trigger) (backlog taken : List Trigger) : Phase ⟨⟨true, backlog, [t]⟩, [], taken⟩
  | sounding {t : Trigger} {ended left : List Cue} (h : t.cues.Perm (ended ++ left)) (hleft : left ≠ [])
    (backlog taken : List Trigger) : Phase ⟨⟨true, backlog, []⟩, left, taken ++ [t]⟩

variable {e : Ensemble} {t : Trigger} {backlog taken : List Trigger} {cues left : List Cue} {cue : Cue}
  {turns : List Turn}

theorem take_started (t : Trigger) (backlog taken : List Trigger) :
    step ⟨⟨true, backlog, [t]⟩, [], taken⟩ .take =
      if t.cues = [] then ⟨⟨false, backlog, []⟩, [], taken ++ [t]⟩
      else ⟨⟨true, backlog, []⟩, t.cues, taken ++ [t]⟩ := by
  by_cases ht : t.cues = [] <;> simp [step, Queue.take, Queue.finish, join, ht]

theorem take_sounding (hcues : cues ≠ []) :
    step ⟨⟨true, backlog, []⟩, cues, taken⟩ .take = ⟨⟨true, backlog, []⟩, cues, taken⟩ := by
  simp [step, Queue.take, join, hcues]

theorem finish_sounding (hcue : cue ∈ cues) (ending : Ending) :
    step ⟨⟨true, backlog, []⟩, cues, taken⟩ (.finish cue ending) =
      if cues.erase cue = [] then ⟨⟨false, backlog, []⟩, [], taken⟩
      else ⟨⟨true, backlog, []⟩, cues.erase cue, taken⟩ := by
  by_cases hlast : cues.erase cue = [] <;> simp [step, Queue.finish, join, hcue, hlast]

theorem Phase.step (h : Phase e) (turn : Turn) : Phase (e.step turn) := by
  cases h with
  | idle backlog taken =>
    cases turn with
    | submit t =>
      cases backlog with
      | nil => exact .started t [] taken
      | cons u us => exact .idle _ taken
    | tick =>
      cases backlog with
      | nil => exact .idle [] taken
      | cons t waiting => exact .started t waiting taken
    | take =>
      have hidle := Phase.idle backlog taken
      simpa [Ensemble.step, Queue.take, Queue.finish, join] using hidle
    | finish => exact .idle backlog taken
  | started t backlog taken =>
    cases turn with
    | submit u => exact .started t _ taken
    | tick => exact .started t backlog taken
    | take =>
      rw [take_started]
      split
      · exact .idle backlog _
      · next hcues => exact .sounding (List.Perm.refl ([] ++ t.cues)) hcues backlog taken
    | finish => exact .started t backlog taken
  | @sounding t ended left hperm hleft backlog taken =>
    cases turn with
    | submit u => exact .sounding hperm hleft _ taken
    | tick => exact .sounding hperm hleft backlog taken
    | take =>
      rw [take_sounding hleft]
      exact .sounding hperm hleft backlog taken
    | finish cue ending =>
      by_cases hcue : cue ∈ left
      · rw [finish_sounding hcue]
        split
        · exact .idle backlog _
        · next hmore =>
          have hrest : t.cues.Perm ((ended ++ [cue]) ++ left.erase cue) := by
            rw [List.append_assoc]
            exact hperm.trans ((List.perm_cons_erase hcue).append_left ended)
          exact .sounding hrest hmore backlog taken
      · rw [Ensemble.step, if_neg hcue]
        exact .sounding hperm hleft backlog taken

theorem Phase.run (h : Phase e) (turns : List Turn) : Phase (e.run turns) := by
  induction turns generalizing e with
  | nil => exact h
  | cons turn turns ih => exact ih (h.step turn)

theorem Phase.fresh : Phase {} := .idle [] []

/-- While a cue is left, whatever else happens, its trigger plays and what is submitted waits. -/
theorem run_sounding (backlog taken : List Trigger) (hleft : left ≠ [])
    (h : cues.Perm (turns.filterMap Turn.ended? ++ left)) :
    ∃ sounding, sounding.Perm left ∧ run ⟨⟨true, backlog, []⟩, cues, taken⟩ turns =
      ⟨⟨true, backlog ++ turns.filterMap Turn.submitted?, []⟩, sounding, taken⟩ := by
  induction turns generalizing cues backlog with
  | nil => exact ⟨cues, h, by simp [run]⟩
  | cons turn turns ih =>
    cases turn with
    | submit t =>
      obtain ⟨sounding, hsounding, hrun⟩ := ih (backlog ++ [t]) h
      refine ⟨sounding, hsounding, ?_⟩
      simpa [run, step, Queue.submit, Turn.submitted?] using hrun
    | tick => exact ih backlog h
    | take =>
      have hcues : cues ≠ [] := by
        rintro rfl
        have hnil := List.nil_perm.mp h
        exact hleft (List.append_eq_nil_iff.mp hnil).2
      have hrun := ih backlog h
      rw [run, List.foldl_cons, take_sounding hcues]
      exact hrun
    | finish cue ending =>
      have hcue : cue ∈ cues := h.mem_iff.mpr (by simp [Turn.ended?])
      have herase : (cues.erase cue).Perm (turns.filterMap Turn.ended? ++ left) := by
        have := h.erase cue
        simpa [Turn.ended?] using this
      have hmore : cues.erase cue ≠ [] := by
        intro hnil
        rw [hnil] at herase
        exact hleft (List.append_eq_nil_iff.mp (List.nil_perm.mp herase)).2
      have hrun := ih backlog herase
      rw [run, List.foldl_cons, finish_sounding hcue, if_neg hmore]
      exact hrun

theorem run_until_last (backlog taken : List Trigger) (h : cues.Perm (turns.filterMap Turn.ended? ++ [cue]))
    (ending : Ending) :
    run ⟨⟨true, backlog, []⟩, cues, taken⟩ (turns ++ [.finish cue ending]) =
      ⟨⟨false, backlog ++ turns.filterMap Turn.submitted?, []⟩, [], taken⟩ := by
  obtain ⟨sounding, hsounding, hrun⟩ := run_sounding backlog taken (by simp) h
  obtain rfl := List.perm_singleton.mp hsounding
  rw [run_append, hrun, run, List.foldl_cons, finish_sounding (by simp)]
  simp

/-- Cues end one after the other, each in its way. -/
def finishes (ends : List (Cue × Ending)) : List Turn := ends.map fun (cue, ending) => .finish cue ending

theorem ended_finishes (ends : List (Cue × Ending)) : (finishes ends).filterMap Turn.ended? = ends.map Prod.fst := by
  induction ends with
  | nil => rfl
  | cons end_ ends ih => simpa [finishes, Turn.ended?] using ih

theorem submitted_finishes (ends : List (Cue × Ending)) : (finishes ends).filterMap Turn.submitted? = [] := by
  refine List.filterMap_eq_nil_iff.mpr fun turn hturn => ?_
  obtain ⟨_, -, rfl⟩ := List.mem_map.mp hturn
  rfl

theorem run_finishes (backlog taken : List Trigger) {ends : List (Cue × Ending)} (hcues : cues ≠ [])
    (h : (ends.map Prod.fst).Perm cues) :
    run ⟨⟨true, backlog, []⟩, cues, taken⟩ (finishes ends) = ⟨⟨false, backlog, []⟩, [], taken⟩ := by
  rcases List.eq_nil_or_concat ends with rfl | ⟨before, ⟨cue, ending⟩, rfl⟩
  · exact absurd (List.nil_perm.mp h) hcues
  · have hlast : cues.Perm ((finishes before).filterMap Turn.ended? ++ [cue]) := by
      simpa [ended_finishes] using h.symm
    have hrun := run_until_last backlog taken hlast ending
    rw [submitted_finishes, List.append_nil] at hrun
    simpa [finishes] using hrun

/-- What sounds, and what will of a started trigger. -/
def pending (e : Ensemble) : List Cue := e.sounding ++ e.queue.outbox.flatMap Trigger.cues

/-- The player starts these cues, and all of them end, in some order and each in some way. -/
def Plays (cues : List Cue) (turns : List Turn) : Prop :=
  ∃ ends : List (Cue × Ending), (ends.map Prod.fst).Perm cues ∧ turns = .take :: finishes ends

theorem run_plays (h : Phase e) (hplays : Plays e.pending turns) :
    e.run turns = ⟨⟨false, e.queue.backlog, []⟩, [], e.taken ++ e.queue.outbox⟩ := by
  obtain ⟨ends, hends, rfl⟩ := hplays
  cases h with
  | idle backlog taken =>
    obtain rfl : ends = [] := by simpa [pending] using hends
    simp [run, finishes, step, Queue.take, Queue.finish, join]
  | started t backlog taken =>
    have hcues : (ends.map Prod.fst).Perm t.cues := by simpa [pending] using hends
    rw [run, List.foldl_cons, take_started]
    split
    · next hnone =>
      obtain rfl : ends = [] := by simpa [hnone] using hcues
      rfl
    · next hsome => exact run_finishes backlog _ hsome hcues
  | @sounding t ended left hperm hleft backlog taken =>
    have hcues : (ends.map Prod.fst).Perm left := by simpa [pending] using hends
    rw [run, List.foldl_cons, take_sounding hleft]
    simpa [run] using run_finishes backlog (taken ++ [t]) hleft hcues

/-- Ticks start what waits, and each trigger that they start is played. -/
theorem run_rounds {rounds : List (List Turn)} (h : List.Forall₂ (fun t turns => Plays t.cues turns) backlog rounds) :
    run ⟨⟨false, backlog, []⟩, [], taken⟩ (rounds.flatMap (.tick :: ·)) = ⟨{}, [], taken ++ backlog⟩ := by
  induction h generalizing taken with
  | nil => simp [run]
  | @cons t turns waiting rounds hplays _ ih =>
    have hround := run_plays (.started t waiting taken) (by simpa [pending] using hplays)
    rw [List.flatMap_cons, run_append]
    change run (run ⟨⟨true, waiting, [t]⟩, [], taken⟩ turns) _ = _
    rw [hround, ih, List.append_assoc]
    rfl

end Ensemble

namespace Stage

/-- What still plays. -/
def sounding (s : Stage) : List Performance := s.performances.filter (·.playsAt s.now)

inductive Act where
  | submit (t : Trigger)
  | tick
  | schedule (period : Nat)
  | stopSchedule
  | wait (ms : Nat)

def Act.submitted? : Act → Option Trigger
  | .submit t => some t
  | .tick | .schedule _ | .stopSchedule | .wait _ => none

def act (s : Stage) (player : Player) : Act → Stage
  | .submit t => (s.submit player t).2
  | .tick => (s.tick player).2
  | .schedule period => s.schedule player period
  | .stopSchedule => s.stopSchedule
  | .wait ms => s.wait player ms

/-- Acts one after the other, each with its player. -/
def perform (s : Stage) (acts : List (Player × Act)) : Stage := acts.foldl (fun s (player, a) => s.act player a) s

variable {s : Stage} {player : Player}

theorem any_playsAt_iff : s.performances.any (·.playsAt s.now) = true ↔ s.sounding ≠ [] := by
  simp [sounding, List.any_eq_true]

/-- The performances that begin at once with what the queue has started. -/
def begun (s : Stage) (player : Player) : List Performance :=
  (s.queue.outbox.flatMap Trigger.cues).map fun cue =>
    ⟨cue, s.now, (player.hold cue).map (s.now + ·), player.ending cue⟩

theorem cue_begun : (s.begun player).map Performance.cue = s.queue.outbox.flatMap Trigger.cues := by
  simp [begun, Function.comp_def]

theorem sounding_settle :
    (s.settle player).sounding = s.sounding ++ (s.begun player).filter (·.playsAt s.now) :=
  List.filter_append ..

theorem playsAt_of_le {p : Performance} {now later : Nat} (hle : now ≤ later) (h : p.playsAt later = true) :
    p.playsAt now = true := by
  unfold Performance.playsAt at h ⊢
  split at h
  · simp only [decide_eq_true_eq] at h ⊢
    omega
  · rfl

theorem sounding_later {later : Nat} (hle : s.now ≤ later) :
    sounding { s with now := later } = s.sounding.filter (·.playsAt later) := by
  rw [sounding, sounding, List.filter_filter]
  refine List.filter_congr fun p _ => ?_
  cases hp : p.playsAt later with
  | false => rfl
  | true => rw [playsAt_of_le hle hp]; rfl

/-- Nothing is left to take, and no tick is overdue. -/
structure Settled (s : Stage) : Prop where
  outbox : s.queue.outbox = []
  due : ∀ m, s.metronome = some m → s.now ≤ m.next

theorem exists_nextInstant_le {instant : Nat} (h : instant ∈
      s.performances.filterMap (fun p => p.stop.filter (s.now < ·)) ++ (s.metronome.map Metronome.next).toList) :
    ∃ next, s.nextInstant = some next ∧ next ≤ instant := by
  cases hnext : s.nextInstant with
  | none =>
    rw [nextInstant, List.min?_eq_none_iff] at hnext
    simp [hnext] at h
  | some next => exact ⟨next, rfl, (List.min?_eq_some_iff.mp hnext).2 instant h⟩

theorem nextInstant_le_stop {p : Performance} (hp : p ∈ s.sounding) {stop : Nat} (hstop : p.stop = some stop) :
    ∃ next, s.nextInstant = some next ∧ next ≤ stop := by
  obtain ⟨hmem, hplays⟩ := List.mem_filter.mp hp
  refine exists_nextInstant_le (List.mem_append_left _ (List.mem_filterMap.mpr ⟨p, hmem, ?_⟩))
  simp only [Performance.playsAt, hstop] at hplays
  simpa [hstop] using hplays

theorem nextInstant_le_tick {m : Metronome} (hm : s.metronome = some m) :
    ∃ next, s.nextInstant = some next ∧ next ≤ m.next :=
  exists_nextInstant_le (List.mem_append_right _ (by simp [hm]))

theorem Settled.now_le_nextInstant (h : s.Settled) {next : Nat} (hnext : s.nextInstant = some next) : s.now ≤ next := by
  have hmem := (List.min?_eq_some_iff.mp hnext).1
  simp only [List.mem_append, List.mem_filterMap, Option.mem_toList, Option.map_eq_some_iff] at hmem
  rcases hmem with ⟨p, -, hp⟩ | ⟨m, hm, rfl⟩
  · have hlater := (Option.filter_eq_some_iff.mp hp).2
    simp only [decide_eq_true_eq] at hlater
    omega
  · exact h.due m hm

/-- Before the next instant nothing changes. -/
theorem Settled.until_next (h : s.Settled) {target : Nat} (hle : s.now ≤ target)
    (hnext : ∀ next, s.nextInstant = some next → target < next) :
    sounding { s with now := target } = s.sounding ∧ Settled { s with now := target } := by
  refine ⟨?_, h.outbox, fun m hm => ?_⟩
  · rw [sounding_later hle, List.filter_eq_self]
    intro p hp
    cases hstop : p.stop with
    | none => simp [Performance.playsAt, hstop]
    | some stop =>
      obtain ⟨next, hsome, hlast⟩ := nextInstant_le_stop hp hstop
      have hlate := hnext next hsome
      simp only [Performance.playsAt, hstop, decide_eq_true_eq]
      omega
  · obtain ⟨next, hsome, hlast⟩ := nextInstant_le_tick (s := s) hm
    have hlate := hnext next hsome
    change target ≤ m.next
    omega

theorem queue_settle : (s.settle player).queue =
    if (s.settle player).sounding = [] then s.queue.take.2.finish else s.queue.take.2 := by
  have hany := any_playsAt_iff (s := s.settle player)
  change (if (s.settle player).performances.any (·.playsAt (s.settle player).now) then s.queue.take.2
    else s.queue.take.2.finish) = _
  by_cases hsounding : (s.settle player).sounding = []
  · rw [if_neg (hany.not.mpr (not_not.mpr hsounding)), if_pos hsounding]
  · rw [if_pos (hany.mpr hsounding), if_neg hsounding]

theorem outbox_settle : (s.settle player).queue.outbox = [] := by
  rw [queue_settle]
  split <;> rfl

theorem metronome_settle : (s.settle player).metronome = s.metronome := rfl

end Stage

namespace Ensemble

/-- An ensemble that is where a stage is: they have the same queue and the same cues sound. -/
structure Shows (e : Ensemble) (s : Stage) : Prop where
  queue : e.queue = s.queue
  sounding : e.sounding.Perm (s.sounding.map Performance.cue)

variable {e : Ensemble} {s : Stage} {player : Player} {backlog taken : List Trigger} {cues : List Cue}

def endOf (p : Performance) : Cue × Ending := (p.cue, p.ending)

theorem perm_of_filter (ps : List Performance) (plays : Performance → Bool) :
    (ps.map Performance.cue).Perm
      (((ps.filter fun p => !plays p).map endOf).map Prod.fst ++ (ps.filter plays).map Performance.cue) := by
  have hsplit := (List.filter_append_perm plays ps).symm.map Performance.cue
  rw [List.map_append] at hsplit
  refine hsplit.trans (List.perm_append_comm.trans ?_)
  simp [endOf, Function.comp_def]

/-- Cues end at an instant, and a stage that settles is where the ensemble then is. -/
theorem shows_finishes {ps : List Performance} {plays : Performance → Bool} (hcues : cues ≠ [])
    (h : cues.Perm (ps.map Performance.cue)) (hqueue : s.queue.take.2 = ⟨true, backlog, []⟩)
    (hsounding : (s.settle player).sounding = ps.filter plays) :
    (run ⟨⟨true, backlog, []⟩, cues, taken⟩ (finishes ((ps.filter fun p => !plays p).map endOf))).Shows
      (s.settle player) := by
  have hends := h.trans (perm_of_filter ps plays)
  by_cases hleft : ps.filter plays = []
  · rw [hleft, List.map_nil, List.append_nil] at hends
    rw [run_finishes backlog taken hcues hends.symm]
    constructor
    · rw [Stage.queue_settle, hsounding, if_pos hleft, hqueue]
      rfl
    · rw [hsounding, hleft]
      rfl
  · rw [← ended_finishes] at hends
    obtain ⟨sounding, hperm, hrun⟩ := run_sounding backlog taken (by simpa using hleft) hends
    rw [hrun]
    constructor
    · rw [Stage.queue_settle, hsounding, if_neg hleft, hqueue, submitted_finishes, List.append_nil]
    · rw [hsounding]
      exact hperm

/-- A run in which just these triggers are submitted leads an ensemble to where a stage is. -/
def Reaches (e : Ensemble) (submitted : List Trigger) (s : Stage) : Prop :=
  ∃ turns, turns.filterMap Turn.submitted? = submitted ∧ (e.run turns).Shows s

variable {submitted later : List Trigger} {s' : Stage}

theorem Reaches.trans (h : e.Reaches submitted s) (hphase : Phase e)
    (hnext : ∀ {e' : Ensemble}, Phase e' → e'.Shows s → e'.Reaches later s') : e.Reaches (submitted ++ later) s' := by
  obtain ⟨turns, hturns, hshows⟩ := h
  obtain ⟨turns', hturns', hshows'⟩ := hnext (hphase.run turns) hshows
  refine ⟨turns ++ turns', ?_, ?_⟩
  · rw [List.filterMap_append, hturns, hturns']
  · rw [run_append]
    exact hshows'

theorem Shows.settle (hphase : Phase e) (h : e.Shows s) (player : Player) : e.Reaches [] (s.settle player) := by
  obtain ⟨hqueue, hsounding⟩ := h
  cases hphase with
  | idle backlog taken =>
    have hnone : s.sounding = [] := by simpa using hsounding
    have hbegun : s.begun player = [] := by simp [Stage.begun, ← hqueue]
    have hsettled : (s.settle player).sounding = [] := by simp [Stage.sounding_settle, hnone, hbegun]
    refine ⟨[], rfl, ?_, ?_⟩
    · rw [Stage.queue_settle, if_pos hsettled, ← hqueue]
      rfl
    · rw [hsettled]
      rfl
  | started t backlog taken =>
    have hnone : s.sounding = [] := by simpa using hsounding
    have hcues : t.cues.Perm ((s.begun player).map Performance.cue) := by
      simp [Stage.cue_begun, ← hqueue]
    have hsettled : (s.settle player).sounding = (s.begun player).filter (·.playsAt s.now) := by
      rw [Stage.sounding_settle, hnone, List.nil_append]
    refine ⟨.take :: finishes (((s.begun player).filter fun p => !p.playsAt s.now).map endOf), ?_, ?_⟩
    · rw [List.filterMap_cons_none rfl, submitted_finishes]
    · rw [run, List.foldl_cons, take_started]
      split
      · next ht =>
        have hbegun : s.begun player = [] := by simpa [ht] using hcues
        constructor
        · simp [Stage.queue_settle, hsettled, hbegun, ← hqueue, finishes, Queue.take, Queue.finish]
        · simp [hsettled, hbegun, finishes]
      · next ht => exact shows_finishes ht hcues (by simp [← hqueue, Queue.take]) hsettled
  | @sounding t ended left hperm hleft backlog taken =>
    have hbegun : s.begun player = [] := by simp [Stage.begun, ← hqueue]
    have hsettled : (s.settle player).sounding = s.sounding := by simp [Stage.sounding_settle, hbegun]
    have hsome : s.sounding ≠ [] := by
      rintro hnone
      simp [hnone, hleft] at hsounding
    refine ⟨[], rfl, ?_, ?_⟩
    · rw [Stage.queue_settle, hsettled, if_neg hsome, ← hqueue]
      rfl
    · rw [hsettled]
      exact hsounding

theorem Shows.submit (hphase : Phase e) (h : e.Shows s) (player : Player) (t : Trigger) :
    e.Reaches [t] (s.submit player t).2 := by
  have hsubmit : e.Reaches [t] { s with queue := (s.queue.submit t).2 } :=
    ⟨[.submit t], rfl, congrArg (fun q => (q.submit t).2) h.queue, h.sounding⟩
  exact hsubmit.trans hphase fun hphase' h' => h'.settle hphase' player

theorem Shows.tick (hphase : Phase e) (h : e.Shows s) (player : Player) : e.Reaches [] (s.tick player).2 := by
  have htick : e.Reaches [] { s with queue := s.queue.tick.2 } :=
    ⟨[.tick], rfl, congrArg (fun q => q.tick.2) h.queue, h.sounding⟩
  exact htick.trans hphase fun hphase' h' => h'.settle hphase' player

theorem Shows.elapse (hphase : Phase e) (h : e.Shows s) (hsettled : s.Settled) (player : Player) {instant : Nat}
    (hle : s.now ≤ instant) : e.Reaches [] (({ s with now := instant } : Stage).settle player) := by
  have hlater := Stage.sounding_later hle
  cases hphase with
  | idle backlog taken =>
    have hnone : s.sounding = [] := by simpa using h.sounding
    have hshows : Shows ⟨⟨false, backlog, []⟩, [], taken⟩ { s with now := instant } :=
      ⟨h.queue, by rw [hlater, hnone]; rfl⟩
    exact hshows.settle (.idle backlog taken) player
  | started t backlog taken =>
    have houtbox := hsettled.outbox
    rw [← h.queue] at houtbox
    cases houtbox
  | @sounding t ended left hperm hleft backlog taken =>
    have hbegun : ({ s with now := instant } : Stage).begun player = [] := by simp [Stage.begun, hsettled.outbox]
    have hnow : (({ s with now := instant } : Stage).settle player).sounding =
        s.sounding.filter (·.playsAt instant) := by
      rw [Stage.sounding_settle, hbegun, hlater, List.filter_nil, List.append_nil]
    have hqueue : s.queue.take.2 = ⟨true, backlog, []⟩ := by simp [← h.queue, Queue.take]
    exact ⟨_, submitted_finishes _, shows_finishes hleft h.sounding hqueue hnow⟩

theorem Shows.reach (hphase : Phase e) (h : e.Shows s) (hsettled : s.Settled) (player : Player) {instant : Nat}
    (hnext : s.nextInstant = some instant) :
    e.Reaches [] (s.reach player instant) ∧ (s.reach player instant).Settled ∧
      (s.reach player instant).now = instant := by
  have helapse := h.elapse hphase hsettled player (hsettled.now_le_nextInstant hnext)
  have hdue : ∀ m, s.metronome = some m → instant ≤ m.next := by
    intro m hm
    obtain ⟨next, hsome, hlast⟩ := Stage.nextInstant_le_tick hm
    obtain rfl : instant = next := Option.some.inj (hnext.symm.trans hsome)
    exact hlast
  cases hm : s.metronome with
  | none =>
    have hreach : s.reach player instant = ({ s with now := instant } : Stage).settle player := by
      simp only [Stage.reach, Stage.metronome_settle, hm]
    rw [hreach]
    exact ⟨helapse, ⟨Stage.outbox_settle, fun m hm => hdue m hm⟩, rfl⟩
  | some m =>
    by_cases hmle : m.next ≤ instant
    · have hreach : s.reach player instant =
          { ((({ s with now := instant } : Stage).settle player).tick player).2 with
            metronome := some ⟨m.next + m.period, m.period⟩ } := by
        simp only [Stage.reach, Stage.metronome_settle, hm, if_pos hmle]
      rw [hreach]
      refine ⟨helapse.trans hphase fun hphase' h' => ?_, ⟨Stage.outbox_settle, ?_⟩, rfl⟩
      · obtain ⟨turns, hturns, hqueue, hsounding⟩ := h'.tick hphase' player
        exact ⟨turns, hturns, hqueue, hsounding⟩
      · rintro _ ⟨⟩
        have hnow := hdue m hm
        change instant ≤ m.next + m.period
        omega
    · have hreach : s.reach player instant = ({ s with now := instant } : Stage).settle player := by
        simp only [Stage.reach, Stage.metronome_settle, hm, if_neg hmle]
      rw [hreach]
      exact ⟨helapse, ⟨Stage.outbox_settle, fun m hm => hdue m hm⟩, rfl⟩

theorem Shows.waitUntil (hphase : Phase e) (h : e.Shows s) (hsettled : s.Settled) (player : Player) {target : Nat}
    (hle : s.now ≤ target) (fuel : Nat) :
    e.Reaches [] (s.waitUntil player target fuel) ∧ (s.waitUntil player target fuel).Settled := by
  induction fuel generalizing s e with
  | zero => exact ⟨⟨[], rfl, h⟩, hsettled⟩
  | succ fuel ih =>
    by_cases hdue : ∃ next, s.nextInstant = some next ∧ next ≤ target
    · obtain ⟨next, hnext, hdue⟩ := hdue
      simp only [Stage.waitUntil, hnext, if_pos hdue]
      obtain ⟨hreach, hsettled', hnow⟩ := h.reach hphase hsettled player hnext
      have hle' : (s.reach player next).now ≤ target := by omega
      refine ⟨hreach.trans hphase fun hphase' h' => (ih hphase' h' hsettled' hle').1, ?_⟩
      obtain ⟨turns, -, hshows⟩ := hreach
      exact (ih (hphase.run turns) hshows hsettled' hle').2
    · have hlate : ∀ next, s.nextInstant = some next → target < next := by
        intro next hnext
        by_contra hle'
        exact hdue ⟨next, hnext, Nat.not_lt.mp hle'⟩
      have hwait : s.waitUntil player target (fuel + 1) = { s with now := target } := by
        simp only [Stage.waitUntil]
        split
        · next next hnext => rw [if_neg (Nat.not_le.mpr (hlate next hnext))]
        · rfl
      obtain ⟨hsounding, hsettled'⟩ := hsettled.until_next hle hlate
      rw [hwait]
      exact ⟨⟨[], rfl, h.queue, hsounding ▸ h.sounding⟩, hsettled'⟩

theorem Shows.act (hphase : Phase e) (h : e.Shows s) (hsettled : s.Settled) (player : Player) (a : Stage.Act) :
    e.Reaches a.submitted?.toList (s.act player a) ∧ (s.act player a).Settled := by
  have hdue : ∀ {q : Queue}, (({ s with queue := q } : Stage).settle player).Settled :=
    ⟨Stage.outbox_settle, fun m hm => hsettled.due m hm⟩
  cases a with
  | submit t => exact ⟨h.submit hphase player t, hdue⟩
  | tick => exact ⟨h.tick hphase player, hdue⟩
  | schedule period =>
    obtain ⟨turns, hturns, hqueue, hsounding⟩ := h.tick hphase player
    refine ⟨⟨turns, hturns, hqueue, hsounding⟩, Stage.outbox_settle, ?_⟩
    rintro _ ⟨⟩
    exact Nat.le_add_right s.now period
  | stopSchedule => exact ⟨⟨[], rfl, h.queue, h.sounding⟩, hsettled.outbox, nofun⟩
  | wait ms => exact h.waitUntil hphase hsettled player (Nat.le_add_right s.now ms) (ms + 1)

/-- Whatever is done on a stage, an ensemble to which the same is submitted gets to the same queue and sounding cues. -/
theorem reaches_perform (acts : List (Player × Stage.Act)) :
    ({} : Ensemble).Reaches (acts.filterMap (·.2.submitted?)) (({} : Stage).perform acts) ∧
      (({} : Stage).perform acts).Settled := by
  induction acts using List.reverseRecOn with
  | nil => exact ⟨⟨[], rfl, rfl, .refl _⟩, rfl, nofun⟩
  | append_singleton acts last ih =>
    obtain ⟨hreaches, hsettled⟩ := ih
    have hperform : ({} : Stage).perform (acts ++ [last]) = (({} : Stage).perform acts).act last.1 last.2 := by
      rw [Stage.perform, List.foldl_append]
      rfl
    have hsubmitted : (acts ++ [last]).filterMap (·.2.submitted?) =
        acts.filterMap (·.2.submitted?) ++ last.2.submitted?.toList := by
      rw [List.filterMap_append, List.filterMap_cons, List.filterMap_nil]
      cases last.2.submitted? <;> rfl
    rw [hperform, hsubmitted]
    refine ⟨hreaches.trans Phase.fresh fun hphase h => (h.act hphase hsettled last.1 last.2).1, ?_⟩
    obtain ⟨turns, -, hshows⟩ := hreaches
    exact (hshows.act (Phase.fresh.run turns) hsettled last.1 last.2).2

theorem Phase.playing_iff (h : Phase e) : e.queue.playing = true ↔ e.queue.outbox ≠ [] ∨ e.sounding ≠ [] := by
  cases h with
  | idle => simp
  | started => simp
  | sounding _ hleft => simp [hleft]

/-- From here on a started trigger plays until the last of its cues has ended, and the queue is idle right then.
Meanwhile the backlog only gets what is submitted. -/
structure EndsWithCues (e : Ensemble) (t : Trigger) : Prop where
  silent : t.cues = [] → (e.step .take).queue = ⟨false, e.queue.backlog, []⟩
  playing : ∀ turns left, left ≠ [] → t.cues.Perm (turns.filterMap Turn.ended? ++ left) →
    (e.run (.take :: turns)).queue = ⟨true, e.queue.backlog ++ turns.filterMap Turn.submitted?, []⟩
  idle : ∀ turns cue ending, t.cues.Perm (turns.filterMap Turn.ended? ++ [cue]) →
    (e.run (.take :: turns ++ [.finish cue ending])).queue =
      ⟨false, e.queue.backlog ++ turns.filterMap Turn.submitted?, []⟩

theorem Phase.endsWithCues (h : Phase e) {t : Trigger} (ht : e.queue.outbox = [t]) : e.EndsWithCues t := by
  cases h with
  | idle => cases ht
  | sounding => cases ht
  | started u backlog taken =>
    obtain rfl : u = t := List.singleton_inj.mp ht
    refine ⟨fun hnone => ?_, fun turns left hleft hperm => ?_, fun turns cue ending hperm => ?_⟩
    · rw [take_started, if_pos hnone]
    · have hsome : u.cues ≠ [] := fun hnone => by simp [hnone, hleft] at hperm
      obtain ⟨sounding, -, hrun⟩ := run_sounding backlog (taken ++ [u]) hleft hperm
      rw [Ensemble.run, List.foldl_cons, take_started, if_neg hsome]
      exact congrArg queue hrun
    · have hsome : u.cues ≠ [] := fun hnone => by simp [hnone] at hperm
      have hrun := run_until_last backlog (taken ++ [u]) hperm ending
      rw [List.cons_append, Ensemble.run, List.foldl_cons, take_started, if_neg hsome]
      exact congrArg queue hrun

/-- From any state of a queue and its player on, a started trigger ends with its cues, in whatever order and way they
end and whatever is submitted or ticks meanwhile. If all that plays or waits is played, with a tick before each
waiting trigger, then all of it has been started in order, and nothing plays or waits. The stage goes through such
states only, so its queue plays just while a performance does. -/
theorem triggers_end_with_cues (past : List Turn) :
    let e := run {} past
    (e.queue.playing = true ↔ e.queue.outbox ≠ [] ∨ e.sounding ≠ []) ∧
      (∀ t, e.queue.outbox = [t] → e.EndsWithCues t) ∧
      (∀ first rounds, Plays e.pending first →
        List.Forall₂ (fun t turns => Plays t.cues turns) e.queue.backlog rounds →
          e.run (first ++ rounds.flatMap (.tick :: ·)) = ⟨{}, [], e.taken ++ e.queue.outbox ++ e.queue.backlog⟩) ∧
      ∀ acts, let s := ({} : Stage).perform acts
        ({} : Ensemble).Reaches (acts.filterMap (·.2.submitted?)) s ∧ (s.queue.playing = true ↔ s.sounding ≠ []) := by
  intro e
  have hphase : Phase e := Phase.fresh.run past
  refine ⟨hphase.playing_iff, fun t ht => hphase.endsWithCues ht, fun first rounds hfirst hrounds => ?_, fun acts => ?_⟩
  · rw [run_append, run_plays hphase hfirst, run_rounds hrounds]
  · obtain ⟨⟨turns, hturns, hshows⟩, hsettled⟩ := reaches_perform acts
    have hplaying := (Phase.fresh.run turns).playing_iff
    have hsounding : (run {} turns).sounding ≠ [] ↔ (({} : Stage).perform acts).sounding ≠ [] := by
      rw [ne_eq, ← List.length_eq_zero_iff, hshows.sounding.length_eq, List.length_map, List.length_eq_zero_iff]
    refine ⟨⟨turns, hturns, hshows⟩, ?_⟩
    rw [hshows.queue, hsettled.outbox, hsounding] at hplaying
    simpa using hplaying

/-- A trigger whose sound fails and whose note is cut off, with another one behind it. -/
theorem failing_cues_end_trigger :
    let sound : Cue := .sound (.ofFile "missing.mp3")
    let broken : Trigger := ⟨9, [sound, .note {}]⟩
    let behind : Trigger := ⟨10, []⟩
    let e := run {} [.submit broken, .submit behind]
    e.queue.outbox = [broken] ∧
      (e.run [.take, .finish (.note {}) .aborted]).queue = ⟨true, [behind], []⟩ ∧
      (e.run [.take, .finish (.note {}) .aborted, .finish sound .failed]).queue = ⟨false, [behind], []⟩ ∧
      e.run [.take, .finish (.note {}) .aborted, .finish sound .failed, .tick, .take] = ⟨{}, [], [broken, behind]⟩ := by
  intro sound broken behind e
  obtain ⟨-, hends, hrounds, -⟩ := triggers_end_with_cues [.submit broken, .submit behind]
  have houtbox : e.queue.outbox = [broken] := by decide
  have hleft := (hends broken houtbox).playing [.finish (.note {}) .aborted] [sound] (by decide) (by decide)
  have hlast := (hends broken houtbox).idle [.finish (.note {}) .aborted] sound .failed (by decide)
  have hfirst : Plays e.pending [.take, .finish (.note {}) .aborted, .finish sound .failed] :=
    ⟨[(.note {}, .aborted), (sound, .failed)], by decide, rfl⟩
  have hall := hrounds _ [[.take]] hfirst (.cons ⟨[], by decide, rfl⟩ .nil)
  exact ⟨houtbox, hleft, hlast, hall⟩

end Ensemble

end BoostFeed.Playback
