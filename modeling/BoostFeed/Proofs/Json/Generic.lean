import BoostFeed.Proofs.Json.Records
import BoostFeed.Proofs.Json.RoundTrip
import BoostFeed.Json.Value
import Mathlib.Data.String.Basic

/-! What is left of a written value in generic data, which sorts members, keeps the last of those with one key and
holds numbers in 64 bits. All that a record of texts and 64-bit integers says is kept. -/

namespace BoostFeed.Json

variable {α β : Type}

theorem lookup_insertMember (key j : String) (a : α) (ms : List (String × α)) :
    (insertMember key a ms).lookup j = if j = key then some a else ms.lookup j := by
  induction ms with
  | nil => simp [insertMember, lookup_cons_eq_ite]
  | cons m ms ih =>
    obtain ⟨k, b⟩ := m
    simp only [insertMember]
    split
    · simp only [lookup_cons_eq_ite]
    · split
      · next heq => by_cases h : j = key <;> simp [lookup_cons_eq_ite, h, ← heq]
      · next hne =>
        by_cases h : j = k
        · have hkey : j ≠ key := fun hkey => hne (hkey.symm.trans h)
          simp [h, h ▸ hkey]
        · simp [lookup_cons_eq_ite, h, ih]

theorem mem_keys_insertMember {key j : String} {a : α} {ms : List (String × α)} :
    j ∈ (insertMember key a ms).map Prod.fst ↔ j = key ∨ j ∈ ms.map Prod.fst := by
  induction ms with
  | nil => simp [insertMember]
  | cons m ms ih =>
    obtain ⟨k, b⟩ := m
    simp only [insertMember]
    split
    · simp
    · split
      · next heq => simp [heq]
      · simp only [List.map_cons, List.mem_cons, ih]
        exact or_left_comm

theorem increasing_insertMember {key : String} {a : α} {ms : List (String × α)}
    (h : (ms.map Prod.fst).Pairwise (· < ·)) : ((insertMember key a ms).map Prod.fst).Pairwise (· < ·) := by
  induction ms with
  | nil => simp [insertMember]
  | cons m ms ih =>
    obtain ⟨k, b⟩ := m
    obtain ⟨hk, hms⟩ := List.pairwise_cons.mp h
    simp only [insertMember]
    split
    · next hlt =>
      refine List.pairwise_cons.mpr ⟨fun j hj => ?_, h⟩
      rcases List.mem_cons.mp hj with rfl | hj
      · exact hlt
      · exact hlt.trans (hk j hj)
    · split
      · next heq => exact List.pairwise_cons.mpr ⟨heq ▸ hk, hms⟩
      · next hlt hne =>
        refine List.pairwise_cons.mpr ⟨fun j hj => ?_, ih hms⟩
        rcases mem_keys_insertMember.mp hj with rfl | hj
        · exact lt_of_le_of_ne (not_lt.mp hlt) (Ne.symm hne)
        · exact hk j hj

theorem lookup_sortMembers (ms : List (String × α)) (j : String) : (sortMembers ms).lookup j = ms.reverse.lookup j := by
  have hfold : ∀ sorted : List (String × α),
      (ms.foldl (fun sorted m => insertMember m.1 m.2 sorted) sorted).lookup j =
        (ms.reverse.lookup j).or (sorted.lookup j) := by
    induction ms with
    | nil => simp
    | cons m ms ih =>
      obtain ⟨k, a⟩ := m
      intro sorted
      rw [List.foldl_cons, ih, List.reverse_cons, List.lookup_append, lookup_insertMember, lookup_cons_eq_ite,
        Option.or_assoc]
      congr 1
      by_cases h : j = k <;> simp [h]
  have hsort := hfold []
  rw [List.lookup_nil, Option.or_none] at hsort
  exact hsort

theorem increasing_sortMembers (ms : List (String × α)) : ((sortMembers ms).map Prod.fst).Pairwise (· < ·) := by
  have hfold : ∀ sorted : List (String × α), (sorted.map Prod.fst).Pairwise (· < ·) →
      ((ms.foldl (fun sorted m => insertMember m.1 m.2 sorted) sorted).map Prod.fst).Pairwise (· < ·) := by
    induction ms with
    | nil => exact fun _ h => h
    | cons m ms ih => exact fun _ h => ih _ (increasing_insertMember h)
  exact hfold [] .nil

/-- Lists of members with the same keys and related values are looked up alike. -/
theorem rel_lookup {R : α → β → Prop} {ms : List (String × α)} {ns : List (String × β)}
    (h : List.Forall₂ (fun m n => m.1 = n.1 ∧ R m.2 n.2) ms ns) (j : String) :
    Option.Rel R (ms.lookup j) (ns.lookup j) := by
  induction h with
  | nil => exact .none
  | @cons m n ms ns hmn _ ih =>
    obtain ⟨k, a⟩ := m
    obtain ⟨k', b⟩ := n
    obtain ⟨rfl, hab⟩ : k = k' ∧ R a b := hmn
    rw [lookup_cons_eq_ite, lookup_cons_eq_ite]
    split
    · exact .some hab
    · exact ih

namespace Value

theorem itemTrees_eq_map (vs : List Value) : itemTrees vs = vs.map toTree := by
  induction vs with
  | nil => rfl
  | cons v vs ih => rw [itemTrees, ih, List.map_cons]

theorem memberTrees_eq_map (ms : List (String × Value)) :
    memberTrees ms = ms.map fun (k, v) => (some k, v.toTree) := by
  induction ms with
  | nil => rfl
  | cons m ms ih => rw [memberTrees, ih, List.map_cons]

end Value

namespace Tree

theorem itemData?_eq_some_iff {room : Nat} {ts : List Tree} {vs : List Value} :
    itemData? room ts = some vs ↔ List.Forall₂ (fun t v => t.data? room = some v) ts vs := by
  induction ts generalizing vs with
  | nil => cases vs <;> simp [itemData?]
  | cons t ts ih => cases vs <;> simp [itemData?, Option.bind_eq_some_iff, ih]

theorem memberData?_eq_some_iff {room : Nat} {ms : Record} {vs : List (String × Value)} :
    memberData? room (ms.map fun (k, t) => (some k, t)) = some vs ↔
      List.Forall₂ (fun m n => m.1 = n.1 ∧ m.2.data? room = some n.2) ms vs := by
  induction ms generalizing vs with
  | nil => cases vs <;> simp [memberData?]
  | cons m ms ih => cases vs <;> simp [memberData?, Option.bind_eq_some_iff, ih, Prod.ext_iff, and_assoc, and_left_comm]

/-- What generic data makes of a written value. -/
def Becomes (t u : Tree) : Prop := ∃ room v, t.data? room = some v ∧ u = v.toTree

variable {u : Tree}

theorem eq_of_becomes_null (h : Becomes .null u) : u = .null := by
  obtain ⟨room, v, hv, rfl⟩ := h
  cases hv
  rfl

theorem eq_of_becomes_bool {b : Bool} (h : Becomes (.bool b) u) : u = .bool b := by
  obtain ⟨room, v, hv, rfl⟩ := h
  cases hv
  rfl

theorem eq_of_becomes_text {s : String} (h : Becomes (.ofText s) u) : u = .ofText s := by
  obtain ⟨room, v, hv, rfl⟩ := h
  cases hv
  rfl

theorem number_ofInt {k : Int} (hlo : -2 ^ 63 ≤ k) (hhi : k < 2 ^ 64) :
    ∃ n, Number.ofNumeral? (.ofInt k) = some n ∧ n.toNumeral = .ofInt k := by
  have hk := Numeral.toInt?_eq_some_iff.mpr (rfl : Numeral.ofInt k = .ofInt k)
  have hsize : (UInt64.size : Int) = 2 ^ 64 := rfl
  have hmin := Int64.toInt_minValue
  by_cases h0 : 0 ≤ k
  · refine ⟨.natural (UInt64.ofNat k.toNat), ?_, ?_⟩
    · simp only [Number.ofNumeral?, hk]
      rw [if_pos (by omega)]
    · have hsmall : k.toNat < UInt64.size := by omega
      rw [Number.toNumeral, UInt64.toNat_ofNat_of_lt' hsmall, Int.toNat_of_nonneg h0]
  · refine ⟨.negative (Int64.ofInt k), ?_, ?_⟩
    · simp only [Number.ofNumeral?, hk]
      rw [if_neg (by omega), if_pos (by omega)]
    · rw [Number.toNumeral, Int64.toInt_ofInt_of_le (by omega) (by omega)]

theorem eq_of_becomes_ofInt {k : Int} (hlo : -2 ^ 63 ≤ k) (hhi : k < 2 ^ 64) (h : Becomes (.ofInt k) u) :
    u = .ofInt k := by
  obtain ⟨room, v, hv, rfl⟩ := h
  obtain ⟨n, hn, hprint⟩ := number_ofInt hlo hhi
  obtain ⟨m, hm, rfl⟩ := Option.map_eq_some_iff.mp hv
  obtain rfl : n = m := Option.some.inj (hn.symm.trans hm)
  rw [Value.toTree, hprint, ofInt]

theorem exists_of_becomes_array {ts : List Tree} (h : Becomes (.array ts) u) :
    ∃ us, u = .array us ∧ List.Forall₂ Becomes ts us := by
  obtain ⟨room, v, hv, rfl⟩ := h
  cases room with
  | zero => cases hv
  | succ room =>
    obtain ⟨vs, hvs, rfl⟩ := Option.map_eq_some_iff.mp hv
    refine ⟨vs.map Value.toTree, by rw [Value.toTree, Value.itemTrees_eq_map], List.forall₂_map_right_iff.mpr ?_⟩
    exact (itemData?_eq_some_iff.mp hvs).imp fun t v htv => ⟨room, v, htv, rfl⟩

theorem exists_of_becomes_ofFields {ms : Record} (h : Becomes (.ofFields ms) u) :
    ∃ ns : Record, u = .ofFields ns ∧ (ns.map Prod.fst).Nodup ∧
      ∀ name, Option.Rel Becomes (ms.reverse.lookup name) (ns.lookup name) := by
  obtain ⟨room, v, hv, rfl⟩ := h
  cases room with
  | zero => cases hv
  | succ room =>
    obtain ⟨vs, hvs, rfl⟩ := Option.map_eq_some_iff.mp hv
    have hdata : ∀ name,
        Option.Rel (fun t v => t.data? room = some v) (ms.reverse.lookup name) (vs.reverse.lookup name) :=
      rel_lookup (List.rel_reverse (memberData?_eq_some_iff.mp hvs))
    refine ⟨(sortMembers vs).map fun (k, v) => (k, v.toTree), ?_, ?_, fun name => ?_⟩
    · rw [Value.toTree, Value.memberTrees_eq_map, ofFields, List.map_map]
      rfl
    · have hkeys : ((sortMembers vs).map fun (k, v) => (k, v.toTree)).map Prod.fst = (sortMembers vs).map Prod.fst := by
        rw [List.map_map]
        rfl
      rw [hkeys]
      exact (increasing_sortMembers vs).imp fun hlt => hlt.ne
    · have hsame : List.Forall₂ (fun (m : String × Value) n => m.1 = n.1 ∧ n.2 = m.2.toTree) (sortMembers vs)
          ((sortMembers vs).map fun (k, v) => (k, v.toTree)) :=
        List.forall₂_map_right_iff.mpr (List.forall₂_same.mpr fun _ _ => ⟨rfl, rfl⟩)
      have hprint := rel_lookup (R := fun (v : Value) u => u = v.toTree) hsame name
      have hrel := hdata name
      rw [lookup_sortMembers] at hprint
      generalize vs.reverse.lookup name = v? at hrel hprint
      generalize ms.reverse.lookup name = t? at hrel ⊢
      generalize List.lookup name _ = u? at hprint ⊢
      cases hrel with
      | none =>
        cases hprint
        exact .none
      | some htv =>
        cases hprint with
        | some huv => exact .some ⟨room, _, htv, huv⟩

/-- A name that is there once is looked up from either end. -/
theorem lookup_reverse {ms : Record} {names : List String} (h : ((ms.map Prod.fst).filter (· ∈ names)).Nodup)
    {name : String} (hname : name ∈ names) : ms.reverse.lookup name = ms.lookup name := by
  induction ms with
  | nil => rfl
  | cons m ms ih =>
    obtain ⟨k, t⟩ := m
    have hrest : ((ms.map Prod.fst).filter (· ∈ names)).Nodup := h.sublist ((List.sublist_cons_self k _).filter _)
    rw [List.reverse_cons, List.lookup_append, ih hrest, lookup_cons_eq_ite, lookup_cons_eq_ite, List.lookup_nil]
    by_cases hk : name = k
    · subst hk
      have hnotMem : name ∉ ms.map Prod.fst := by
        rw [List.map_cons, List.filter_cons_of_pos (by simpa using hname)] at h
        exact fun hmem => (List.nodup_cons.mp h).1 (List.mem_filter.mpr ⟨hmem, by simpa using hname⟩)
      have hnone : ms.lookup name = none := by
        rw [List.lookup_eq_none_iff]
        exact fun p hp => bne_iff_ne.mpr fun heq => hnotMem (heq ▸ List.mem_map_of_mem hp)
      simp [hnone]
    · simp [hk]

theorem forall₂_zip {R : Tree → Tree → Prop} {ts us : List Tree} (h : List.Forall₂ R ts us) (names : List String) :
    List.Forall₂ (fun m n => m.1 = n.1 ∧ R m.2 n.2) (names.zip ts) (names.zip us) := by
  induction h generalizing names with
  | nil => simp
  | cons htu _ ih =>
    cases names with
    | nil => simp
    | cons name names => exact .cons ⟨rfl, htu⟩ (ih names)

theorem Sets.becomes {names : List String} {t : Tree} {r : Record} (h : Sets names t r) (hu : Becomes t u) :
    ∃ r', Sets names u r' ∧ ∀ name, Option.Rel Becomes (r.lookup name) (r'.lookup name) := by
  cases h with
  | object ms hnodup =>
    obtain ⟨ns, rfl, hkeys, hrel⟩ := exists_of_becomes_ofFields hu
    refine ⟨_, .object ns (hkeys.filter _), fun name => ?_⟩
    rw [lookup_filter, lookup_filter]
    split
    · next hname => exact lookup_reverse hnodup hname ▸ hrel name
    · exact .none
  | array ts hlength =>
    obtain ⟨us, rfl, hrel⟩ := exists_of_becomes_array hu
    exact ⟨_, .array us (hrel.length_eq ▸ hlength), rel_lookup (forall₂_zip hrel names)⟩

/-- What a value says is said by what generic data makes of it too. -/
def Kept (F : Form α) : Prop := ∀ t u a, Becomes t u → F t a → F u a

theorem kept_text : Kept IsText := by
  rintro t u s hu rfl
  exact eq_of_becomes_text hu

theorem kept_truth : Kept IsTruth := by
  rintro t u b hu rfl
  exact eq_of_becomes_bool hu

theorem kept_uint8 : Kept IsUInt8 := by
  rintro t u n hu rfl
  have hn := n.toNat_lt
  exact eq_of_becomes_ofInt (by omega) (by omega) hu

theorem kept_uint64 : Kept IsUInt64 := by
  rintro t u n hu rfl
  have hn := n.toNat_lt
  exact eq_of_becomes_ofInt (by omega) (by omega) hu

theorem kept_int64 : Kept IsInt64 := by
  rintro t u n hu rfl
  have hlo := n.le_toInt
  have hhi := n.toInt_lt
  exact eq_of_becomes_ofInt (by omega) (by omega) hu

theorem kept_nullable {F : Form α} (h : Kept F) : Kept (Nullable F) := by
  rintro t u o hu (⟨rfl, rfl⟩ | ⟨a, ha, rfl⟩)
  · exact .inl ⟨eq_of_becomes_null hu, rfl⟩
  · exact .inr ⟨a, h t u a hu ha, rfl⟩

theorem kept_items {F : Form α} (h : Kept F) : Kept (Items F) := by
  rintro t u as hu ⟨ts, rfl, has⟩
  obtain ⟨us, rfl, hus⟩ := exists_of_becomes_array hu
  refine ⟨us, rfl, ?_⟩
  clear hu
  induction hus generalizing as with
  | nil => exact (List.forall₂_nil_left_iff.mp has) ▸ .nil
  | cons htu _ ih =>
    cases has with
    | cons ha has => exact .cons (h _ _ _ htu ha) (ih _ has)

theorem kept_record {names : List String} {P : Record → α → Prop}
    (h : ∀ r r' a, (∀ name, Option.Rel Becomes (r.lookup name) (r'.lookup name)) → P r a → P r' a) :
    Kept (OfRecord names P) := by
  rintro t u a hu ⟨r, hsets, ha⟩
  obtain ⟨r', hsets', hlookup⟩ := hsets.becomes hu
  exact ⟨r', hsets', h r r' a hlookup ha⟩

/-- Generic data can hold a written value, with so many containers still allowed. -/
def Fits (room : Nat) (t : Tree) : Prop := ∃ v, t.data? room = some v

theorem fits_text (room : Nat) (s : String) : Fits room (.ofText s) := ⟨.string s, rfl⟩

theorem fits_bool (room : Nat) (b : Bool) : Fits room (.bool b) := ⟨.bool b, rfl⟩

theorem fits_ofInt (room : Nat) {k : Int} (hlo : -2 ^ 63 ≤ k) (hhi : k < 2 ^ 64) : Fits room (.ofInt k) := by
  obtain ⟨n, hn, -⟩ := number_ofInt hlo hhi
  exact ⟨.number n, Option.map_eq_some_iff.mpr ⟨n, hn, rfl⟩⟩

theorem fits_uint8 (room : Nat) (n : UInt8) : Fits room (.ofNat n.toNat) :=
  have hn := n.toNat_lt
  fits_ofInt room (by omega) (by omega)

theorem fits_uint64 (room : Nat) (n : UInt64) : Fits room (.ofNat n.toNat) :=
  have hn := n.toNat_lt
  fits_ofInt room (by omega) (by omega)

theorem fits_int64 (room : Nat) (n : Int64) : Fits room (.ofInt n.toInt) :=
  have hlo := n.le_toInt
  have hhi := n.toInt_lt
  fits_ofInt room (by omega) (by omega)

theorem fits_ofOption {room : Nat} {write : α → Tree} (h : ∀ a, Fits room (write a)) :
    ∀ o, Fits room (.ofOption write o)
  | none => ⟨.null, rfl⟩
  | some a => h a

theorem fits_ofList {room : Nat} {write : α → Tree} (h : ∀ a, Fits room (write a)) (as : List α) :
    Fits (room + 1) (.ofList write as) := by
  have hitems : ∃ vs, itemData? room (as.map write) = some vs := by
    induction as with
    | nil => exact ⟨[], rfl⟩
    | cons a as ih =>
      obtain ⟨v, hv⟩ := h a
      obtain ⟨vs, hvs⟩ := ih
      exact ⟨v :: vs, itemData?_eq_some_iff.mpr (.cons hv (itemData?_eq_some_iff.mp hvs))⟩
  obtain ⟨vs, hvs⟩ := hitems
  exact ⟨.array vs, Option.map_eq_some_iff.mpr ⟨vs, hvs, rfl⟩⟩

theorem fits_ofFields {room : Nat} {ms : Record} (h : ∀ t ∈ ms.map Prod.snd, Fits room t) :
    Fits (room + 1) (.ofFields ms) := by
  have hmembers : ∃ vs, memberData? room (ms.map fun (k, t) => (some k, t)) = some vs := by
    induction ms with
    | nil => exact ⟨[], rfl⟩
    | cons m ms ih =>
      obtain ⟨v, hv⟩ := h m.2 (by simp)
      obtain ⟨vs, hvs⟩ := ih fun t ht => h t (List.mem_cons_of_mem m.2 ht)
      exact ⟨(m.1, v) :: vs, memberData?_eq_some_iff.mpr (.cons ⟨rfl, hv⟩ (memberData?_eq_some_iff.mp hvs))⟩
  obtain ⟨vs, hvs⟩ := hmembers
  exact ⟨.object (sortMembers vs), Option.map_eq_some_iff.mpr ⟨vs, hvs, rfl⟩⟩

end Tree

theorem Record.Member.kept {F : Tree.Form α} {r r' : Record} {name : String} {default a : α}
    (ha : r.Member name default F a) (h : Tree.Kept F)
    (hr : ∀ name, Option.Rel Tree.Becomes (r.lookup name) (r'.lookup name)) : r'.Member name default F a := by
  have hname := hr name
  unfold Member at ha ⊢
  generalize r.lookup name = t? at ha hname
  generalize r'.lookup name = u? at hname ⊢
  cases hname with
  | none => exact ha
  | some htu => exact h _ _ _ htu ha

namespace Tree

variable {read : Tree → Option α} {write : α → Tree} {F : Form α}

theorem read_print (hreads : Reads read F) (hwrites : Writes write F) (a : α) :
    (Tree.read? (write a).print).bind read = some a := by
  rw [read?_print, Option.bind_some]
  exact (hreads _ a).mpr (hwrites a)

theorem read_becomes (hreads : Reads read F) (hwrites : Writes write F) (hkept : Kept F) {a : α} {u : Tree}
    (hu : Becomes (write a) u) : read u = some a :=
  (hreads u a).mpr (hkept _ u a hu (hwrites a))

end Tree

end BoostFeed.Json
