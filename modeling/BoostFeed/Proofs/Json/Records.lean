import BoostFeed.Json.Record
import Mathlib.Data.List.Forall2
import Mathlib.Data.List.Nodup

/-! What a written value says, as relations between values and data, and that the readers of typed data read just
these: a text, a truth or an integer has one written form, and a record is what its object or array sets. -/

namespace BoostFeed.Json

variable {α β : Type}

theorem mapM_eq_some_iff {f : α → Option β} {as : List α} {bs : List β} :
    as.mapM f = some bs ↔ List.Forall₂ (fun a b => f a = some b) as bs := by
  induction as generalizing bs with
  | nil => cases bs <;> simp
  | cons a as ih =>
    cases bs with
    | nil => simp [List.mapM_cons, Option.bind_eq_some_iff]
    | cons b bs => simp [List.mapM_cons, Option.bind_eq_some_iff, ih]

theorem forall₂_congr_of_mem {R S : α → β → Prop} {as : List α} {bs : List β} (h : ∀ a ∈ as, ∀ b, R a b ↔ S a b) :
    List.Forall₂ R as bs ↔ List.Forall₂ S as bs := by
  induction as generalizing bs with
  | nil => simp
  | cons a as ih =>
    cases bs with
    | nil => simp
    | cons b bs => simp [h a List.mem_cons_self b, ih fun a ha => h a (List.mem_cons_of_mem _ ha)]

theorem exists_forall₂_iff {R : α → β → Prop} {as : List α} : (∃ bs, List.Forall₂ R as bs) ↔ ∀ a ∈ as, ∃ b, R a b := by
  induction as with
  | nil => simp
  | cons a as ih =>
    rw [List.forall_mem_cons, ← ih]
    constructor
    · rintro ⟨_, _ | ⟨hab, hbs⟩⟩
      exact ⟨⟨_, hab⟩, _, hbs⟩
    · rintro ⟨⟨b, hab⟩, bs, hbs⟩
      exact ⟨b :: bs, .cons hab hbs⟩

theorem lookup_cons_eq_ite (j k : String) (a : α) (ms : List (String × α)) :
    ((k, a) :: ms).lookup j = if j = k then some a else ms.lookup j := by
  by_cases h : j = k
  · simp [h]
  · simp [List.lookup_cons, h, beq_false_of_ne h]

/-- What is kept is decided by its key, so that a key is found again exactly if it is kept. -/
theorem lookup_filter (ms : List (String × α)) (kept : String → Prop) [DecidablePred kept] (key : String) :
    (ms.filter fun m => kept m.1).lookup key = if kept key then ms.lookup key else none := by
  induction ms with
  | nil => simp
  | cons m ms ih =>
    obtain ⟨k, a⟩ := m
    rw [lookup_cons_eq_ite]
    by_cases h : key = k
    · subst h
      by_cases hkey : kept key
      · simp [hkey]
      · simp [hkey, ih]
    · by_cases hk : kept k
      · simp [hk, h, lookup_cons_eq_ite, ih]
      · simp [hk, h, ih]

namespace Numeral

/-- A numeral has an integer only if it is written as that integer is. -/
theorem toInt?_eq_some_iff {n : Numeral} {k : Int} : n.toInt? = some k ↔ n = .ofInt k := by
  obtain ⟨negative, whole, fraction, exponent⟩ := n
  simp only [toInt?, ofInt, mk.injEq]
  by_cases hf : fraction = [] <;> cases exponent <;> simp [hf]
  cases negative <;> by_cases hw : whole = 0 <;> simp [hw] <;> omega

end Numeral

namespace Tree

/-- Which data a value writes. -/
abbrev Form (α : Type) := Tree → α → Prop

def IsText : Form String := fun t s => t = .ofText s

def IsTruth : Form Bool := fun t b => t = .bool b

def IsUInt8 : Form UInt8 := fun t n => t = .ofNat n.toNat

def IsUInt64 : Form UInt64 := fun t n => t = .ofNat n.toNat

def IsInt64 : Form Int64 := fun t n => t = .ofInt n.toInt

/-- `null` writes nothing. -/
def Nullable (F : Form α) : Form (Option α) := fun t o => (t = .null ∧ o = none) ∨ ∃ a, F t a ∧ o = some a

def Items (F : Form α) : Form (List α) := fun t as => ∃ ts, t = .array ts ∧ List.Forall₂ F ts as

theorem items_array_iff {F : Form α} {ts : List Tree} {as : List α} :
    Items F (.array ts) as ↔ List.Forall₂ F ts as := by
  simp [Items]

theorem ofInt_injective : Function.Injective ofInt := by
  intro j k h
  have hj := Numeral.toInt?_eq_some_iff.mpr (rfl : Numeral.ofInt j = .ofInt j)
  have hk := Numeral.toInt?_eq_some_iff.mpr (Tree.number.inj h)
  exact Option.some.inj (hj.symm.trans hk)

/-- What a value sets of the names of a record: an object by its members, of which no named one is there twice, an
array by its items in the order of the names. -/
inductive Sets (names : List String) : Form Record
  | object (ms : Record) (h : ((ms.map Prod.fst).filter (· ∈ names)).Nodup) :
    Sets names (.ofFields ms) (ms.filter (·.1 ∈ names))
  | array (ts : List Tree) (h : ts.length ≤ names.length) : Sets names (.array ts) (names.zip ts)

/-- The reader accepts a value just where it writes data, and reads these. -/
def Reads (read : Tree → Option α) (F : Form α) : Prop := ∀ t a, read t = some a ↔ F t a

theorem reads_text : Reads text? IsText := by
  intro t s
  cases t <;> simp [text?, IsText, ofText]

theorem reads_bool : Reads bool? IsTruth := by
  intro t b
  cases t <;> simp [bool?, IsTruth]

theorem int?_eq_some_iff {t : Tree} {k : Int} : t.int? = some k ↔ t = .ofInt k := by
  cases t <;> simp [int?, ofInt, Numeral.toInt?_eq_some_iff]

theorem below?_eq_some_iff {t : Tree} {bound n : Nat} : t.below? bound = some n ↔ t = .ofNat n ∧ n < bound := by
  simp only [below?, Option.bind_eq_some_iff, int?_eq_some_iff]
  constructor
  · rintro ⟨k, rfl, hk⟩
    obtain ⟨⟨hk0, hkb⟩, rfl⟩ := by simpa using hk
    exact ⟨by simp [ofInt, ofNat, Int.toNat_of_nonneg hk0], by omega⟩
  · rintro ⟨rfl, hn⟩
    exact ⟨n, rfl, by simp [hn]⟩

theorem reads_uint8 : Reads uint8? IsUInt8 := by
  intro t n
  simp only [uint8?, Option.map_eq_some_iff, below?_eq_some_iff, IsUInt8]
  constructor
  · rintro ⟨m, ⟨rfl, hm⟩, rfl⟩
    rw [UInt8.toNat_ofNat_of_lt' hm]
  · rintro rfl
    exact ⟨n.toNat, ⟨rfl, n.toNat_lt⟩, UInt8.ofNat_toNat⟩

theorem reads_uint64 : Reads uint64? IsUInt64 := by
  intro t n
  simp only [uint64?, Option.map_eq_some_iff, below?_eq_some_iff, IsUInt64]
  constructor
  · rintro ⟨m, ⟨rfl, hm⟩, rfl⟩
    rw [UInt64.toNat_ofNat_of_lt' hm]
  · rintro rfl
    exact ⟨n.toNat, ⟨rfl, n.toNat_lt⟩, UInt64.ofNat_toNat⟩

theorem reads_int64 : Reads int64? IsInt64 := by
  intro t n
  simp only [int64?, Option.bind_eq_some_iff, int?_eq_some_iff, IsInt64]
  have hmin := Int64.toInt_minValue
  have hmax := Int64.toInt_maxValue
  constructor
  · rintro ⟨k, rfl, hk⟩
    obtain ⟨⟨hlo, hhi⟩, rfl⟩ := by simpa only [Option.ite_none_right_eq_some, Option.some.injEq] using hk
    rw [Int64.toInt_ofInt_of_le (by omega) (by omega)]
  · rintro rfl
    have hlo := Int64.le_toInt n
    have hhi := Int64.toInt_lt n
    refine ⟨n.toInt, rfl, ?_⟩
    rw [if_pos (by omega), Int64.ofInt_toInt]

theorem not_isText_null (s : String) : ¬ IsText .null s := nofun

theorem not_isUInt8_null (n : UInt8) : ¬ IsUInt8 .null n := nofun

theorem not_isUInt64_null (n : UInt64) : ¬ IsUInt64 .null n := nofun

theorem reads_nullable {read : Tree → Option α} {F : Form α} (h : Reads read F) (hnull : ∀ a, ¬ F .null a) :
    Reads (nullable? read) (Nullable F) := by
  intro t o
  cases t with
  | null => simp [nullable?, Nullable, hnull, eq_comm]
  | _ => simp [nullable?, Nullable, ← h _ _, Option.map_eq_some_iff, @eq_comm _ o]

theorem reads_list {read : Tree → Option α} {F : Form α} (h : Reads read F) : Reads (list? read) (Items F) := by
  intro t as
  cases t with
  | array ts =>
    have hF : (fun t a => read t = some a) = F := funext fun t => funext fun a => propext (h t a)
    simp [list?, Items, mapM_eq_some_iff, hF]
  | _ => simp [list?, Items]

theorem ofFields_injective : Function.Injective ofFields := by
  intro ms ns h
  refine List.map_injective_iff.mpr (fun m n hmn => ?_) (Tree.object.inj h)
  obtain ⟨hkey, ht⟩ := Prod.mk.inj hmn
  exact Prod.ext (Option.some.inj hkey) ht

theorem mapM_keys_eq_some_iff {members : List (Option String × Tree)} {ms : Record} :
    (members.mapM fun (key, t) => key.map (·, t)) = some ms ↔ Tree.object members = .ofFields ms := by
  rw [mapM_eq_some_iff, ofFields, Tree.object.injEq]
  induction members generalizing ms with
  | nil => cases ms <;> simp
  | cons m members ih =>
    obtain ⟨key, t⟩ := m
    cases ms with
    | nil => simp
    | cons n ms =>
      rw [List.forall₂_cons, ih]
      cases key <;> simp [Prod.ext_iff]

theorem find?_goesBy {declared : List Field} (hother : ∀ f ∈ declared, f.other = none) (key : String) :
    (declared.find? (·.goesBy key)).map Field.name = if key ∈ declared.map Field.name then some key else none := by
  induction declared with
  | nil => rfl
  | cons f declared ih =>
    have hgoes : f.goesBy key = (f.name == key) := by simp [Field.goesBy, hother f List.mem_cons_self]
    have hrest := ih fun g hg => hother g (List.mem_cons_of_mem f hg)
    by_cases hf : f.name = key
    · simp [hgoes, hf]
    · have hkey : key ≠ f.name := Ne.symm hf
      simpa [hgoes, hf, hkey] using hrest

/-- The declared fields that an object sets, by their own names; all else in it has no meaning. -/
def known (declared : List Field) (ms : Record) : Record :=
  ms.filterMap fun (key, t) => (declared.find? (·.goesBy key)).map (·.name, t)

theorem known_eq_filter {declared : List Field} (hother : ∀ f ∈ declared, f.other = none) (ms : Record) :
    known declared ms = ms.filter (·.1 ∈ declared.map Field.name) := by
  rw [known, ← List.filterMap_eq_filter]
  congr 1
  funext ⟨key, t⟩
  have hfind := congrArg (Option.map (·, t)) (find?_goesBy hother key)
  rw [Option.map_map] at hfind
  refine hfind.trans ?_
  by_cases hkey : key ∈ declared.map Field.name <;> simp only [Option.guard, hkey, decide_true, decide_false, if_true,
    if_false, Bool.false_eq_true, Option.map_some, Option.map_none]

/-- An object is a record unless it sets a field twice, under whichever of its names. -/
theorem record?_ofFields (declared : List Field) (ms : Record) : (ofFields ms).record? declared =
    if ((known declared ms).map Prod.fst).Nodup then some (known declared ms) else none := by
  have hkeys := mapM_keys_eq_some_iff.mpr (rfl : ofFields ms = ofFields ms)
  simp only [ofFields] at hkeys ⊢
  simp only [record?, hkeys, Option.bind_eq_bind, Option.bind_some]
  rfl

/-- A record none of whose fields has a second name. -/
theorem record?_eq_some_iff {declared : List Field} (hother : ∀ f ∈ declared, f.other = none) {t : Tree} {r : Record} :
    t.record? declared = some r ↔ Sets (declared.map Field.name) t r := by
  have hfst : ∀ ms : Record, ((ms.filter (·.1 ∈ declared.map Field.name)).map Prod.fst) =
      (ms.map Prod.fst).filter (· ∈ declared.map Field.name) := fun ms => by rw [List.filter_map]; rfl
  constructor
  · intro h
    cases t with
    | object members =>
      obtain ⟨ms, hms, -⟩ := Option.bind_eq_some_iff.mp h
      rw [mapM_keys_eq_some_iff.mp hms] at h ⊢
      rw [record?_ofFields, known_eq_filter hother, hfst, Option.ite_none_right_eq_some] at h
      obtain ⟨hnodup, ⟨⟩⟩ := h
      exact .object ms hnodup
    | array ts =>
      obtain ⟨hlength, rfl⟩ := by simpa only [record?, Option.ite_none_right_eq_some, Option.some.injEq] using h
      exact .array ts (by simpa using hlength)
    | _ => cases h
  · rintro (⟨ms, hnodup⟩ | ⟨ts, hlength⟩)
    · rw [record?_ofFields, known_eq_filter hother, hfst, if_pos hnodup]
    · rw [List.length_map] at hlength
      simp only [record?, hlength, if_true]

/-- The data of a record, by what is said of the names that a value sets. -/
def OfRecord (names : List String) (P : Record → α → Prop) : Form α := fun t a => ∃ r, Sets names t r ∧ P r a

theorem reads_record {declared : List Field} (hother : ∀ f ∈ declared, f.other = none) {read : Record → Option α}
    {P : Record → α → Prop} (h : ∀ r a, read r = some a ↔ P r a) :
    Reads (fun t => (t.record? declared).bind read) (OfRecord (declared.map Field.name) P) := by
  intro t a
  simp only [Option.bind_eq_some_iff, record?_eq_some_iff hother, h, OfRecord]

theorem not_ofRecord_null {names : List String} {P : Record → α → Prop} (a : α) : ¬ OfRecord names P .null a := by
  rintro ⟨_, hsets, -⟩
  cases hsets

/-- The writer writes data in the given form. -/
def Writes (write : α → Tree) (F : Form α) : Prop := ∀ a, F (write a) a

theorem writes_text : Writes ofText IsText := fun _ => rfl

theorem writes_bool : Writes bool IsTruth := fun _ => rfl

theorem writes_uint8 : Writes (fun n => ofNat n.toNat) IsUInt8 := fun _ => rfl

theorem writes_uint64 : Writes (fun n => ofNat n.toNat) IsUInt64 := fun _ => rfl

theorem writes_int64 : Writes (fun n => ofInt n.toInt) IsInt64 := fun _ => rfl

theorem writes_nullable {write : α → Tree} {F : Form α} (h : Writes write F) : Writes (ofOption write) (Nullable F)
  | none => .inl ⟨rfl, rfl⟩
  | some a => .inr ⟨a, h a, rfl⟩

theorem writes_items {write : α → Tree} {F : Form α} (h : Writes write F) : Writes (ofList write) (Items F) :=
  fun as => ⟨as.map write, rfl, List.forall₂_map_left_iff.mpr (List.forall₂_same.mpr fun a _ => h a)⟩

/-- All names of a record, each once, written in an object. -/
theorem sets_ofFields {names : List String} (hnodup : names.Nodup) {ms : Record} (hnames : ms.map Prod.fst = names) :
    Sets names (.ofFields ms) ms := by
  subst hnames
  have hall : ms.filter (·.1 ∈ ms.map Prod.fst) = ms :=
    List.filter_eq_self.mpr fun m hm => by simpa using ⟨m.2, hm⟩
  have hsets := Sets.object ms (hnodup.filter (· ∈ ms.map Prod.fst))
  rwa [hall] at hsets

/-- Of an object without repeated keys everything that only looks the names up is said by its members as they are. -/
theorem ofRecord_ofFields_iff {names : List String} {P : Record → α → Prop}
    (hP : ∀ r r' a, (∀ name ∈ names, r'.lookup name = r.lookup name) → P r a → P r' a) {ms : Record}
    (hkeys : (ms.map Prod.fst).Nodup) {a : α} : OfRecord names P (.ofFields ms) a ↔ P ms a := by
  have hlookup : ∀ name ∈ names, (ms.filter (·.1 ∈ names)).lookup name = ms.lookup name :=
    fun name hname => by rw [lookup_filter, if_pos hname]
  constructor
  · rintro ⟨r, hsets, hr⟩
    generalize ht : ofFields ms = t at hsets
    cases hsets with
    | object ns =>
      obtain rfl : ms = ns := ofFields_injective ht
      exact hP _ ms a (fun name hname => (hlookup name hname).symm) hr
    | array => cases ht
  · intro ha
    exact ⟨_, .object ms (hkeys.filter _), hP ms _ a hlookup ha⟩

end Tree

namespace Record

/-- A field that a record does not set has its default. -/
def Member (r : Record) (name : String) (default : α) (F : Tree.Form α) (a : α) : Prop :=
  match r.lookup name with
  | none => a = default
  | some t => F t a

/-- A field has the given form, or is not there. -/
def Holds (r : Record) (name : String) (F : Tree.Form α) : Prop := ∀ t, r.lookup name = some t → ∃ a, F t a

variable {r : Record} {name : String} {read : Tree → Option α} {F : Tree.Form α}

theorem exists_member_iff {default : α} : (∃ a, r.Member name default F a) ↔ r.Holds name F := by
  unfold Member Holds
  cases r.lookup name <;> simp

theorem Member.congr {r' : Record} {default a : α} (ha : r.Member name default F a)
    (h : r'.lookup name = r.lookup name) : r'.Member name default F a := by
  simpa only [Member, h] using ha

theorem field_eq_some_iff (h : Tree.Reads read F) {default a : α} :
    r.field name default read = some a ↔ r.Member name default F a := by
  unfold field Member
  cases r.lookup name with
  | none => exact Option.some_inj.trans eq_comm
  | some t => exact h t a

theorem Member.of_lookup {t : Tree} (hlookup : r.lookup name = some t) {default a : α} (h : F t a) :
    r.Member name default F a := by
  simpa only [Member, hlookup] using h

theorem optional_eq_some_iff (h : Tree.Reads read F) (hnull : ∀ a, ¬ F .null a) {o : Option α} :
    r.optional name read = some o ↔ r.Member name none (Tree.Nullable F) o :=
  field_eq_some_iff (Tree.reads_nullable h hnull)

end Record

end BoostFeed.Json
