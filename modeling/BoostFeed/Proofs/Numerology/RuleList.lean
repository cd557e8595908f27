import BoostFeed.Proofs.Json.RoundTrip
import BoostFeed.Proofs.Json.Records
import BoostFeed.Numerology.Rule

/-! Written lists of rules. Which objects are entries, which entries make a rule, and that a list of entries is read as
the rules that its entries make one by one. -/

namespace BoostFeed.Numerology

open Json Tree

/-- An amount is written as a number of 64 bits or as a text. -/
def AmountEntry.Written : Form AmountEntry
  | t, .number n => IsUInt64 t n
  | t, .text s => IsText t s

theorem AmountEntry.not_written_null (a : AmountEntry) : ¬ AmountEntry.Written .null a := by
  cases a <;> nofun

theorem AmountEntry.reads : Reads Entry.amount? AmountEntry.Written := by
  intro t a
  have hnumber : ∀ n, t.uint64? = some n → t.text? = none := by
    intro n hn
    rw [(reads_uint64 t n).mp hn]
    rfl
  simp only [Entry.amount?]
  cases hn : t.uint64? with
  | some n =>
    cases a with
    | number m => simp [Written, ← reads_uint64 t m, hn]
    | text s => simp [Written, ← reads_text t s, hnumber n hn]
  | none =>
    cases a with
    | number m => simp [Written, ← reads_uint64 t m, hn]
    | text s => simp [Written, ← reads_text t s]

namespace Entry

/-- What a record says of an entry. -/
structure Members (r : Record) (e : Entry) : Prop where
  name : r.Member "name" "" IsText e.name
  emoji : r.Member "emoji" "" IsText e.emoji
  equality : r.Member "equality" none (Nullable IsText) e.equality
  amount : r.Member "amount" none (Nullable AmountEntry.Written) e.amount
  regex : r.Member "regex" none (Nullable IsText) e.regex
  soundFile : r.Member "sound_file" none (Nullable IsText) e.soundFile

/-- No field is set twice, and every field that is there has its type. -/
structure WellTyped (r : Record) : Prop where
  once : (r.map Prod.fst).Nodup
  name : r.Holds "name" IsText
  emoji : r.Holds "emoji" IsText
  equality : r.Holds "equality" (Nullable IsText)
  amount : r.Holds "amount" (Nullable AmountEntry.Written)
  regex : r.Holds "regex" (Nullable IsText)
  soundFile : r.Holds "sound_file" (Nullable IsText)

variable {ms : Record} {e : Entry}

theorem ofTree?_eq_some_iff : ofTree? (ofFields ms) = some e ↔
    ((known fields ms).map Prod.fst).Nodup ∧ Members (known fields ms) e := by
  rw [ofTree?, record?_ofFields]
  by_cases hnodup : ((known fields ms).map Prod.fst).Nodup
  · simp only [hnodup, if_true, true_and, Option.bind_eq_bind, Option.bind_some, Option.bind_eq_some_iff,
      Option.pure_def, Record.field_eq_some_iff reads_text, Record.optional_eq_some_iff reads_text not_isText_null,
      Record.optional_eq_some_iff AmountEntry.reads AmountEntry.not_written_null]
    constructor
    · rintro ⟨_, hname, _, hemoji, _, hequality, _, hamount, _, hregex, _, hsound, ⟨⟩⟩
      exact ⟨hname, hemoji, hequality, hamount, hregex, hsound⟩
    · rintro ⟨hname, hemoji, hequality, hamount, hregex, hsound⟩
      exact ⟨_, hname, _, hemoji, _, hequality, _, hamount, _, hregex, _, hsound, rfl⟩
  · simp [hnodup]

theorem isSome_ofTree?_iff : (ofTree? (ofFields ms)).isSome = true ↔ WellTyped (known fields ms) := by
  simp only [Option.isSome_iff_exists, ofTree?_eq_some_iff]
  constructor
  · rintro ⟨e, hnodup, he⟩
    exact ⟨hnodup, Record.exists_member_iff.mp ⟨_, he.name⟩, Record.exists_member_iff.mp ⟨_, he.emoji⟩,
      Record.exists_member_iff.mp ⟨_, he.equality⟩, Record.exists_member_iff.mp ⟨_, he.amount⟩,
      Record.exists_member_iff.mp ⟨_, he.regex⟩, Record.exists_member_iff.mp ⟨_, he.soundFile⟩⟩
  · intro h
    obtain ⟨_, hname⟩ := Record.exists_member_iff.mpr h.name
    obtain ⟨_, hemoji⟩ := Record.exists_member_iff.mpr h.emoji
    obtain ⟨_, hequality⟩ := Record.exists_member_iff.mpr h.equality
    obtain ⟨_, hamount⟩ := Record.exists_member_iff.mpr h.amount
    obtain ⟨_, hregex⟩ := Record.exists_member_iff.mpr h.regex
    obtain ⟨_, hsound⟩ := Record.exists_member_iff.mpr h.soundFile
    exact ⟨⟨_, _, _, _, _, _⟩, h.once, hname, hemoji, hequality, hamount, hregex, hsound⟩

/-- What an entry needs to make a rule: a pattern that can be read or, without a pattern, digits and a sign for them.
Digits to compare with must be a number of 64 bits. -/
def Builds (e : Entry) : Prop :=
  match e.regex.filter (· ≠ "") with
  | some text => (Pattern.read? text).isSome = true
  | none => ∃ sign cs, e.equality = some sign ∧ e.amount.bind AmountEntry.digits? = some cs ∧
    (Text.trim sign = "=~" ∨ (Comparison.parse? sign).isSome = true ∧ (Text.uint64? cs).isSome = true)

end Entry

theorem AmountEntry.isDigit_of_digits? {a : AmountEntry} {cs : List Char} (h : a.digits? = some cs) :
    ∀ c ∈ cs, c.isDigit = true := by
  cases a with
  | number n =>
    rw [← Option.some.inj h]
    exact fun c hc => Nat.isDigit_of_mem_toDigits (by decide) (by decide) hc
  | text s =>
    simp only [digits?, Option.ite_none_right_eq_some, Bool.and_eq_true, Option.some.injEq] at h
    obtain ⟨⟨-, hall⟩, rfl⟩ := h
    exact List.all_eq_true.mp hall

theorem exists_digitsOfText? {cs : List Char} (h : ∀ c ∈ cs, c.isDigit = true) :
    ∃ ds, Number.digitsOfText? cs = some ds := by
  simp only [Number.digitsOfText?, mapM_eq_some_iff, exists_forall₂_iff]
  intro c hc
  simp [h c hc]

namespace Rule

variable {e : Entry}

theorem exists_predicateOf_iff {name sign : String} {cs : List Char} (hcs : ∀ c ∈ cs, c.isDigit = true) :
    (∃ p, predicateOf name sign cs = .ok p) ↔
      Text.trim sign = "=~" ∨ (Comparison.parse? sign).isSome = true ∧ (Text.uint64? cs).isSome = true := by
  obtain ⟨ds, hds⟩ := exists_digitsOfText? hcs
  have hlooks : Text.trim sign = "=~" → Comparison.parse? sign = none := by
    intro h
    rw [Comparison.parse?, h]
    rfl
  unfold predicateOf
  by_cases hsign : Text.trim sign = "=~"
  · simp [hsign, hds]
  · cases hparse : Comparison.parse? sign with
    | none => simp [hsign]
    | some c => cases hbound : Text.uint64? cs <;> simp [hsign]

theorem exists_predicate?_iff : (∃ p, predicate? e = .ok p) ↔ e.Builds := by
  unfold predicate? Entry.Builds
  cases e.regex.filter (· ≠ "") with
  | some text => cases hread : Pattern.read? text <;> simp [hread]
  | none =>
    cases hsign : e.equality with
    | none => simp
    | some sign =>
      cases hcs : e.amount.bind AmountEntry.digits? with
      | none => simp
      | some cs =>
        obtain ⟨a, -, ha⟩ := Option.bind_eq_some_iff.mp hcs
        simpa using exists_predicateOf_iff (AmountEntry.isDigit_of_digits? ha)

theorem isSome_ofEntry_iff : (ofEntry e).toOption.isSome = true ↔ e.Builds := by
  rw [← exists_predicate?_iff, ofEntry]
  cases predicate? e with
  | error err => simp [Except.toOption, bind, Except.bind]
  | ok p => simp [Except.toOption, bind, Except.bind, pure, Except.pure]

/-- The rule that a value writes if it is an entry and makes one. -/
def ofTree? (t : Tree) : Option Rule := (Entry.ofTree? t).bind fun e => (ofEntry e).toOption

theorem ofTree?_eq_none_iff {t : Tree} : ofTree? t = none ↔ ∀ e, Entry.ofTree? t = some e → ¬ e.Builds := by
  simp only [ofTree?, Option.bind_eq_none_iff, ← isSome_ofEntry_iff, Option.not_isSome_iff_eq_none]

variable {ts : List Tree}

theorem isSome_listOfTree?_iff :
    (listOfTree? (.array ts)).isSome = true ↔ ∀ t ∈ ts, (Entry.ofTree? t).isSome = true := by
  simp only [listOfTree?, Tree.list?, Option.isSome_map, Option.isSome_iff_exists, mapM_eq_some_iff,
    exists_forall₂_iff]

/-- Where every item is an entry, the rules are those of the items one by one. -/
theorem listOfTree?_eq (h : ∀ t ∈ ts, (Entry.ofTree? t).isSome = true) :
    listOfTree? (.array ts) = some (ts.filterMap ofTree?) := by
  obtain ⟨es, hes⟩ : ∃ es, List.Forall₂ (fun t e => Entry.ofTree? t = some e) ts es :=
    exists_forall₂_iff.mpr fun t ht => Option.isSome_iff_exists.mp (h t ht)
  have hrules : ofEntries es = ts.filterMap ofTree? := by
    clear h
    induction hes with
    | nil => rfl
    | @cons t e ts es he hes ih =>
      have hrule : ofTree? t = (ofEntry e).toOption := by rw [ofTree?, he, Option.bind_some]
      rw [List.filterMap_cons, hrule, ← ih, ofEntries, ofEntries, List.filterMap_cons]
  rw [listOfTree?, Tree.list?, mapM_eq_some_iff.mpr hes, Option.map_some, hrules]

end Rule

/-- A list of objects is read exactly if each of them is an entry, whether it makes a rule or not. Then its rules are
those that the objects make one by one, in order, so that an entry which makes none might as well not be listed. -/
theorem entries_make_rules_alone {objects : List Record} {s : String}
    (hs : Tree.read? s = some (.array (objects.map ofFields))) :
    ((Rule.readList? s).isSome = true ↔ ∀ ms ∈ objects, Entry.WellTyped (known Entry.fields ms)) ∧
      ((∀ ms ∈ objects, Entry.WellTyped (known Entry.fields ms)) →
        Rule.readList? s = some (objects.filterMap fun ms => Rule.ofTree? (ofFields ms)) ∧
          ∀ pre bad post, objects = pre ++ bad :: post →
            (∀ e, Entry.ofTree? (ofFields bad) = some e → ¬ e.Builds) →
            ∀ s', Tree.read? s' = some (.array ((pre ++ post).map ofFields)) →
              Rule.readList? s' = Rule.readList? s) := by
  have hread {objects : List Record} {s : String} (hs : Tree.read? s = some (.array (objects.map ofFields))) :
      Rule.readList? s = Rule.listOfTree? (.array (objects.map ofFields)) := by
    rw [Rule.readList?, hs, Option.bind_some]
  have hrules {objects : List Record} {s : String} (hs : Tree.read? s = some (.array (objects.map ofFields)))
      (h : ∀ ms ∈ objects, Entry.WellTyped (known Entry.fields ms)) :
      Rule.readList? s = some (objects.filterMap fun ms => Rule.ofTree? (ofFields ms)) := by
    have hentries : ∀ t ∈ objects.map ofFields, (Entry.ofTree? t).isSome = true :=
      List.forall_mem_map.mpr fun ms hms => Entry.isSome_ofTree?_iff.mpr (h ms hms)
    rw [hread hs, Rule.listOfTree?_eq hentries, List.filterMap_map]
    rfl
  constructor
  · rw [hread hs, Rule.isSome_listOfTree?_iff, List.forall_mem_map]
    exact forall₂_congr fun ms _ => Entry.isSome_ofTree?_iff
  · intro h
    refine ⟨hrules hs h, ?_⟩
    rintro pre bad post rfl hbad s' hs'
    have hrest : ∀ ms ∈ pre ++ post, Entry.WellTyped (known Entry.fields ms) := by
      intro ms hms
      rw [List.mem_append] at hms
      exact h ms (List.mem_append.mpr (hms.imp_right (List.mem_cons_of_mem bad)))
    have hnone : Rule.ofTree? (ofFields bad) = none := Rule.ofTree?_eq_none_iff.mpr hbad
    rw [hrules hs' hrest, hrules hs h]
    simp [hnone]

/-- Two rules stand between entries without predicate, with an unknown sign, with words for digits and with a pattern
that cannot be read. -/
theorem rules_between_bad_entries :
    let noPredicate := [("name", ofText "?"), ("color", .null)]
    let dice := [("regex", ofText "11|66"), ("description", ofText "Dice")]
    let badSign := [("name", ofText "?"), ("equality", ofText "!~"), ("amount", ofNat 1)]
    let badAmount := [("name", ofText "?"), ("equality", ofText "="), ("amount", ofText "ten")]
    let lit := [("name", ofText "Lit"), ("equality", ofText " >= "), ("amount", ofText "10000"), ("regex", ofText "")]
    let badPattern := [("name", ofText "?"), ("regex", ofText "([")]
    let objects : List Record := [noPredicate, dice, badSign, badAmount, lit, badPattern]
    let s := (Tree.array (objects.map ofFields)).print
    let s' := (Tree.array ([dice, badSign, badAmount, lit, badPattern].map ofFields)).print
    Tree.read? s = some (.array (objects.map ofFields)) ∧
      (∀ ms ∈ objects, Entry.WellTyped (known Entry.fields ms)) ∧
      Rule.readList? s = some (objects.filterMap fun ms => Rule.ofTree? (ofFields ms)) ∧
      Rule.readList? s' = Rule.readList? s ∧ (Rule.readList? s).map (·.map Rule.name) = some ["Dice", "Lit"] := by
  intro noPredicate dice badSign badAmount lit badPattern objects s s'
  have hs : Tree.read? s = some (.array (objects.map ofFields)) := read?_print _
  have htyped : ∀ ms ∈ objects, Entry.WellTyped (known Entry.fields ms) := by
    have hentries : ∀ ms ∈ objects, (Entry.ofTree? (ofFields ms)).isSome = true := by decide +kernel
    exact fun ms hms => Entry.isSome_ofTree?_iff.mp (hentries ms hms)
  have hbad : ∀ e, Entry.ofTree? (ofFields noPredicate) = some e → ¬ e.Builds :=
    Rule.ofTree?_eq_none_iff.mp (Option.isNone_iff_eq_none.mp (by decide +kernel))
  obtain ⟨hrules, hskips⟩ := (entries_make_rules_alone hs).2 htyped
  have hskip : Rule.readList? s' = Rule.readList? s := hskips [] noPredicate _ rfl hbad s' (read?_print _)
  refine ⟨hs, htyped, hrules, hskip, ?_⟩
  rw [hrules]
  decide +kernel

/-- An amount below zero makes its object no entry, and the rule beside it is lost with the list. -/
theorem negative_amount_costs_list :
    let refund := [("name", ofText "Refund"), ("equality", ofText "="), ("amount", ofInt (-5))]
    let poo := [("name", ofText "Poo donation"), ("equality", ofText "<"), ("amount", ofNat 9)]
    let s := (Tree.array ([refund, poo].map ofFields)).print
    Tree.read? s = some (.array ([refund, poo].map ofFields)) ∧ (Rule.ofTree? (ofFields poo)).isSome = true ∧
      Rule.readList? s = none := by
  intro refund poo s
  exact ⟨read?_print _, by decide +kernel, Option.isNone_iff_eq_none.mp (by decide +kernel)⟩

end BoostFeed.Numerology
