import Mathlib.Tactic.Tauto
import BoostFeed.Proofs.Session.Page

/-! Delivery at least once and in any order. What a fresh session stores after any pages depends only on
which events the pages brought: neither their grouping nor their order, repetition or direction counts. -/

namespace BoostFeed.Session

open Feed Numerology

def fresh (view : View) (settings : Settings) (rules : List Rule) (apps : AppCatalog) : Session :=
  { view, settings, rules, apps }

/-- Pages with the requests they answer, in the order of their application. -/
abbrev Delivery := List (PageRequest × List Event)

namespace Delivery

/-- All events that were brought, with repetitions. -/
def events (d : Delivery) : List Event := d.flatMap Prod.snd

/-- Copies of one index are one event. -/
def Coherent (d : Delivery) : Prop :=
  ∀ a ∈ d.events, ∀ b ∈ d.events, a.index = b.index → a = b

instance (d : Delivery) : Decidable d.Coherent :=
  inferInstanceAs (Decidable (∀ a ∈ d.events, ∀ b ∈ d.events, a.index = b.index → a = b))

end Delivery

def deliver (s : Session) (d : Delivery) : Session :=
  d.foldl (fun s p => (s.applyPage p.1 p.2).2) s

theorem mem_indices_deliver {s : Session} {d : Delivery} {i : UInt64} :
    i ∈ (s.deliver d).store.indices ↔
      i ∈ s.store.indices ∨ ∃ e ∈ d.events, s.admits e = true ∧ e.index = i := by
  induction d generalizing s with
  | nil => simp [deliver, Delivery.events]
  | cons p d ih =>
    have hd : s.deliver (p :: d) = (s.applyPage p.1 p.2).2.deliver d := rfl
    have he : Delivery.events (p :: d) = p.2 ++ Delivery.events d := rfl
    rw [hd, he, ih, mem_indices_applyPage, admits_applyPage, or_assoc]
    simp only [List.mem_append, or_and_right, exists_or]

theorem mem_or_mem_of_mem_deliver {s : Session} {d : Delivery} {e : Event}
    (h : e ∈ (s.deliver d).store.events) : e ∈ s.store.events ∨ e ∈ d.events ∧ s.admits e = true := by
  induction d generalizing s with
  | nil => exact .inl h
  | cons p d ih =>
    have he : Delivery.events (p :: d) = p.2 ++ Delivery.events d := rfl
    rw [he]
    rcases ih (s := (s.applyPage p.1 p.2).2) h with h | h
    · exact (mem_or_mem_of_mem_applyPage h).imp_right (And.imp_left (List.mem_append_left _))
    · exact .inr ⟨List.mem_append_right _ h.1, h.2⟩

theorem mem_deliver_fresh {view : View} {settings : Settings} {rules : List Rule} {apps : AppCatalog}
    {d : Delivery} (hd : d.Coherent) {e : Event} :
    e ∈ ((fresh view settings rules apps).deliver d).store.events ↔
      e ∈ d.events ∧ (fresh view settings rules apps).admits e = true := by
  constructor
  · intro h
    exact (mem_or_mem_of_mem_deliver h).resolve_left List.not_mem_nil
  · rintro ⟨h, ha⟩
    have hi : e.index ∈ ((fresh view settings rules apps).deliver d).store.indices :=
      mem_indices_deliver.mpr (.inr ⟨e, h, ha, rfl⟩)
    obtain ⟨x, hx, he⟩ := Store.mem_indices.mp hi
    have hm := (mem_or_mem_of_mem_deliver hx).resolve_left List.not_mem_nil
    rwa [← hd x hm.1 e h he]

/-- However events are delivered, the store lists in strictly increasing order the indices of those that
pass the filter; and where copies of an index agree, deliveries of the same events end in the same store. -/
theorem deliver_converges (view : View) (settings : Settings) (rules : List Rule) (apps : AppCatalog)
    (d : Delivery) :
    let s := fresh view settings rules apps
    (s.deliver d).store.indices.Pairwise (· < ·) ∧
    (∀ i, i ∈ (s.deliver d).store.indices ↔
      ∃ e ∈ d.events, (view.accepts e.action = true ∧ settings.minSats ≤ e.displaySats) ∧ e.index = i) ∧
    ∀ d' : Delivery, d.Coherent → (∀ e, e ∈ d.events ↔ e ∈ d'.events) →
      (s.deliver d).store = (s.deliver d').store := by
  intro s
  refine ⟨Store.indices_increasing _, fun i => ?_, fun d' hd he => ?_⟩
  · have hadmits (e : Event) : s.admits e = true ↔
        view.accepts e.action = true ∧ settings.minSats ≤ e.displaySats := by
      simp [s, admits, fresh]
    have hnone : i ∉ s.store.indices := List.not_mem_nil
    rw [mem_indices_deliver, or_iff_right hnone]
    simp only [hadmits]
  · have hd' : d'.Coherent := fun a ha b hb => hd a ((he a).mpr ha) b ((he b).mpr hb)
    apply Store.eq_of_mem_iff
    intro e
    rw [mem_deliver_fresh hd, mem_deliver_fresh hd', he]

/-- Two groupings of three boosts, one with a copy of an event in two pages, one with a copy in one page. -/
theorem deliver_three_boosts :
    let s := fresh .boosts {} [] {}
    let e (i : UInt64) : Event := { index := i, action := .boost }
    let d : Delivery := [(s.planForward, [e 3, e 1]), (s.planBackfill, [e 2, e 1])]
    let d' : Delivery := [(s.planBackfill, [e 1, e 2]), (s.planForward, [e 3, e 3])]
    d.Coherent ∧ (∀ x, x ∈ d.events ↔ x ∈ d'.events) ∧
      (s.deliver d).store = (s.deliver d').store := by
  intro s e d d'
  have hd : d.Coherent := by decide
  have he (x : Event) : x ∈ d.events ↔ x ∈ d'.events := by
    have hl : d.events = [e 3, e 1, e 2, e 1] := rfl
    have hr : d'.events = [e 1, e 2, e 3, e 3] := rfl
    rw [hl, hr]
    simp only [List.mem_cons, List.not_mem_nil, or_false]
    tauto
  exact ⟨hd, he, (deliver_converges .boosts {} [] {} d).2.2 d' hd he⟩

end BoostFeed.Session
