import Mathlib.Data.List.Induction
import BoostFeed.Proofs.Json.Records
import BoostFeed.Session.Apps

/-! Names of apps that fall together. The apps are entered in some order, and of those whose names differ only in case
and blanks the last one stays; so the order is seen just where they would show different badges. -/

namespace BoostFeed

open Json

/-- What a row shows for an app that the catalog knows. -/
def AppInfo.badge (info : AppInfo) : AppBadge := ⟨if info.icon = "" then genericIcon else info.icon, info.url⟩

namespace AppCatalog

variable {entries raw order order' : List (String × AppInfo)} {app : String}

theorem lookup_eq (c : AppCatalog) (app : String) :
    c.lookup app = ((c.apps.lookup (normalize app)).map AppInfo.badge).getD ⟨genericIcon, none⟩ := by
  unfold lookup
  cases c.apps.lookup (normalize app) <;> rfl

theorem lookup_apps_insert (c : AppCatalog) (name key : String) (info : AppInfo) :
    (c.insert name info).apps.lookup key = if key = name then some info else c.apps.lookup key := by
  rw [insert, lookup_cons_eq_ite]
  by_cases h : key = name
  · simp [h]
  · rw [if_neg h, if_neg h, lookup_filter c.apps (· ≠ name), if_pos h]

/-- The apps whose names fall together with this one. -/
def namesakes (entries : List (String × AppInfo)) (app : String) : List (String × AppInfo) :=
  entries.filter fun e => normalize e.1 = normalize app

theorem lookup_ofEntries (entries : List (String × AppInfo)) (app : String) :
    (ofEntries entries).lookup app =
      ((namesakes entries app).getLast?.map fun e => e.2.badge).getD ⟨genericIcon, none⟩ := by
  have hlast : (ofEntries entries).apps.lookup (normalize app) = (namesakes entries app).getLast?.map Prod.snd := by
    induction entries using List.reverseRecOn with
    | nil => rfl
    | append_singleton entries e ih =>
      rw [ofEntries, List.foldl_append, ← ofEntries, List.foldl_cons, List.foldl_nil, lookup_apps_insert, ih, namesakes,
        namesakes, List.filter_append, List.getLast?_append]
      by_cases h : normalize e.1 = normalize app
      · simp [h]
      · simp [h, Ne.symm h]
  rw [lookup_eq, hlast, Option.map_map]
  rfl

/-- The badges that an app of this name may show: those of its namesakes, or the generic one if there is none. -/
def candidates (raw : List (String × AppInfo)) (app : String) : List AppBadge :=
  if namesakes raw app = [] then [⟨genericIcon, none⟩] else (namesakes raw app).map fun e => e.2.badge

theorem namesakes_perm (hperm : order.Perm raw) (app : String) : (namesakes order app).Perm (namesakes raw app) :=
  hperm.filter _

theorem lookup_mem_candidates (hperm : order.Perm raw) (app : String) :
    (ofEntries order).lookup app ∈ candidates raw app := by
  have hnamesakes := namesakes_perm hperm app
  rw [lookup_ofEntries, candidates]
  by_cases hnone : namesakes raw app = []
  · have hnone' : namesakes order app = [] := List.perm_nil.mp (hnone ▸ hnamesakes)
    rw [if_pos hnone, hnone']
    exact List.mem_singleton_self _
  · have hsome : namesakes order app ≠ [] := fun h => hnone (List.nil_perm.mp (h ▸ hnamesakes))
    rw [if_neg hnone, List.getLast?_eq_some_getLast hsome]
    exact List.mem_map.mpr ⟨_, hnamesakes.mem_iff.mp (List.getLast_mem hsome), rfl⟩

theorem lookup_entered_last {e : String × AppInfo} (he : normalize e.1 = normalize app) :
    (ofEntries (entries ++ [e])).lookup app = e.2.badge := by
  have hnamesakes : namesakes (entries ++ [e]) app = namesakes entries app ++ [e] := by simp [namesakes, he]
  rw [lookup_ofEntries, hnamesakes, List.getLast?_concat]
  rfl

/-- The badges that some order makes the catalog show are the candidates, all of them. -/
theorem exists_order_iff {badge : AppBadge} :
    (∃ order, order.Perm raw ∧ (ofEntries order).lookup app = badge) ↔ badge ∈ candidates raw app := by
  constructor
  · rintro ⟨order, hperm, rfl⟩
    exact lookup_mem_candidates hperm app
  · intro h
    by_cases hnone : namesakes raw app = []
    · rw [candidates, if_pos hnone, List.mem_singleton] at h
      refine ⟨raw, .refl raw, ?_⟩
      rw [lookup_ofEntries, hnone, h]
      rfl
    · rw [candidates, if_neg hnone, List.mem_map] at h
      obtain ⟨e, he, rfl⟩ := h
      obtain ⟨hraw, hname⟩ := List.mem_filter.mp he
      obtain ⟨pre, post, rfl⟩ := List.append_of_mem hraw
      have hlast : (pre ++ post ++ [e]).Perm (pre ++ e :: post) :=
        (List.perm_append_singleton e (pre ++ post)).trans List.perm_middle.symm
      exact ⟨_, hlast, lookup_entered_last (of_decide_eq_true hname)⟩

/-- What is shown for a name is up to the order in which the apps are entered: each of its namesakes is shown in some
order. So every order shows the same exactly if no two namesakes differ in their badges. -/
theorem lookup_order_free_iff (raw : List (String × AppInfo)) (app : String) :
    (∀ badge, (∃ order, order.Perm raw ∧ (ofEntries order).lookup app = badge) ↔ badge ∈ candidates raw app) ∧
      ((∀ order order', order.Perm raw → order'.Perm raw →
          (ofEntries order).lookup app = (ofEntries order').lookup app) ↔
        ∀ e ∈ namesakes raw app, ∀ e' ∈ namesakes raw app, e.2.badge = e'.2.badge) := by
  refine ⟨fun badge => exists_order_iff, ?_, ?_⟩
  · intro hfree e he e' he'
    have hmem {e : String × AppInfo} (he : e ∈ namesakes raw app) : e.2.badge ∈ candidates raw app := by
      rw [candidates, if_neg (List.ne_nil_of_mem he)]
      exact List.mem_map_of_mem he
    obtain ⟨order, hperm, hbadge⟩ := exists_order_iff.mpr (hmem he)
    obtain ⟨order', hperm', hbadge'⟩ := exists_order_iff.mpr (hmem he')
    rw [← hbadge, ← hbadge', hfree order order' hperm hperm']
  · intro hsame order order' hperm hperm'
    have horder := lookup_mem_candidates hperm app
    have horder' := lookup_mem_candidates hperm' app
    by_cases hnone : namesakes raw app = []
    · rw [candidates, if_pos hnone, List.mem_singleton] at horder horder'
      rw [horder, horder']
    · rw [candidates, if_neg hnone, List.mem_map] at horder horder'
      obtain ⟨e, he, hbadge⟩ := horder
      obtain ⟨e', he', hbadge'⟩ := horder'
      rw [← hbadge, ← hbadge', hsame e he e' he']

/-- Two apps of one name in either order. -/
theorem order_decides_between_spellings :
    let raw : List (String × AppInfo) := [("Fountain", { icon := "fountain" }), ("FOUNTAIN ", { icon := "jet" })]
    (raw.map Prod.fst).Nodup ∧ raw.reverse.Perm raw ∧
      (ofEntries raw).lookup "fountain" = ⟨"jet", none⟩ ∧
      (ofEntries raw.reverse).lookup "fountain" = ⟨"fountain", none⟩ := by
  intro raw
  exact ⟨by decide, raw.reverse_perm, by decide +kernel, by decide +kernel⟩

end AppCatalog

end BoostFeed
