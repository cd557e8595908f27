import BoostFeed.Proofs.Feed.WireForm
import BoostFeed.Service.Client
import BoostFeed.Service.PushFrame

/-! Pages and push frames. Every event comes back from its text, whichever way the text is decoded, and a page is
decoded if each of its records is well typed. -/

namespace BoostFeed

open Json Tree Feed

namespace Feed.Event

/-- The event of a text that is read as generic data first. -/
def readData? (s : String) : Option Event := (Value.read? s).bind fun v => ofTree? v.toTree

theorem read?_print (e : Event) : read? e.print = some e := Tree.read_print reads writes e

/-- Generic data loses nothing that an event is made of. -/
theorem readData?_eq_of_read? {s : String} {e : Event} (h : read? s = some e) {v : Value}
    (hv : Value.read? s = some v) : readData? s = some e := by
  obtain ⟨t, ht, he⟩ := Option.bind_eq_some_iff.mp h
  have hdata : t.data? maxNesting = some v := by
    rw [Value.read?, ht, Option.bind_some] at hv
    exact hv
  rw [readData?, hv, Option.bind_some]
  exact (reads _ e).mpr (kept t _ e ⟨maxNesting, v, hdata, rfl⟩ ((reads t e).mp he))

theorem readData?_print (e : Event) : readData? e.print = some e := by
  obtain ⟨v, hv⟩ := fits 123 e
  have hdata : Value.read? e.print = some v := by
    rw [Value.read?, print, Tree.read?_print, Option.bind_some]
    exact hv
  exact readData?_eq_of_read? e.read?_print hdata

end Feed.Event

/-- The text of a page. -/
def pageText (es : List Event) : String := (ofList Event.toTree es).print

theorem decodePage_pageText (es : List Event) : decodePage (pageText es) = some es :=
  Tree.read_print (reads_list Event.reads) (writes_items Event.writes) es

namespace PushFrame

def nameOf : View → String
  | .boosts => "boost"
  | .streams => "stream"
  | .sent => "payment"

theorem view?_nameOf (view : View) : view? (nameOf view) = some view := by cases view <;> rfl

/-- The text of a frame that pushes an event. -/
def paymentText (view : View) (e : Event) : String := (Tree.array [.ofText (nameOf view), e.toTree]).print

theorem parse_paymentText (view : View) (e : Event) : parse (paymentText view e) = some (.payment view e) := by
  obtain ⟨v, hv⟩ := Event.fits 122 e
  have hitems : itemData? 126 [.ofText (nameOf view), e.toTree] = some [.string (nameOf view), v] :=
    itemData?_eq_some_iff.mpr (.cons rfl (.cons hv .nil))
  have hframe : Value.read? (paymentText view e) = some (.array [.string (nameOf view), v]) := by
    have hroom : maxNesting = 126 + 1 := rfl
    rw [Value.read?, paymentText, read?_print, Option.bind_some, hroom, data?, hitems, Option.map_some]
  have he : Event.ofTree? v.toTree = some e := read_becomes Event.reads Event.writes Event.kept ⟨126, v, hv, rfl⟩
  simp only [parse, hframe, view?_nameOf, he, Option.map_some]

end PushFrame

/-- Every event comes back from its text, read as it is or as generic data first, in a page or in a push frame; so
decoding what was decoded and written again changes nothing. -/
theorem events_round_trip :
    (∀ e : Event, Event.read? e.print = some e ∧ Event.readData? e.print = some e) ∧
      (∀ s, (Event.read? s).bind (fun e => Event.read? e.print) = Event.read? s ∧
        (Event.read? s).bind (fun e => Event.readData? e.print) = Event.read? s ∧
        (Event.readData? s).bind (fun e => Event.read? e.print) = Event.readData? s ∧
        (Event.readData? s).bind (fun e => Event.readData? e.print) = Event.readData? s) ∧
      (∀ es, decodePage (pageText es) = some es) ∧
      ∀ view e, PushFrame.parse (PushFrame.paymentText view e) = some (.payment view e) := by
  refine ⟨fun e => ⟨e.read?_print, e.readData?_print⟩, fun s => ?_, decodePage_pageText, PushFrame.parse_paymentText⟩
  simp only [Event.read?_print, Event.readData?_print, Option.bind_fun_some, and_self]

/-- One record decides over a page: it is decoded if all its objects are well typed, whatever else they hold, and then
into what their fields say. A code of an action has to be a byte, and an event without an index has index 0. -/
theorem pages_decode_if_well_typed {objects : List Record} (hkeys : ∀ ms ∈ objects, (ms.map Prod.fst).Nodup)
    {s : String} (hs : Tree.read? s = some (.array (objects.map ofFields))) :
    (∀ es, decodePage s = some es ↔ List.Forall₂ Event.Members objects es) ∧
      ((∃ es, decodePage s = some es) ↔ ∀ ms ∈ objects, Event.WellTyped ms) ∧
      ∀ ms ∈ objects, ∀ k : Int, ms.lookup "action" = some (.ofInt k) → ¬ (0 ≤ k ∧ k < 256) → decodePage s = none := by
  have hdecode : ∀ es, decodePage s = some es ↔ List.Forall₂ Event.Members objects es := by
    intro es
    have hread : decodePage s = Event.pageOfTree? (.array (objects.map ofFields)) := by
      rw [decodePage, hs, Option.bind_some]
    rw [hread, Event.pageOfTree?, reads_list Event.reads, items_array_iff, List.forall₂_map_left_iff]
    exact forall₂_congr_of_mem fun ms hms e => Event.written_ofFields_iff (hkeys ms hms)
  have haccepts : (∃ es, decodePage s = some es) ↔ ∀ ms ∈ objects, Event.WellTyped ms := by
    simp only [hdecode, exists_forall₂_iff, Event.exists_members_iff]
  refine ⟨hdecode, haccepts, fun ms hms k hk hbyte => ?_⟩
  by_contra hsome
  obtain ⟨c, hc⟩ := (haccepts.mp (Option.ne_none_iff_exists'.mp hsome) ms hms).action _ hk
  have hlt := c.toNat_lt
  obtain rfl : k = c.toNat := ofInt_injective hc
  omega

/-- A page of an event with a member of no meaning and a code of no action, and of one without any field. -/
theorem page_of_sparse_events :
    let objects : List Record := [[("index", .ofNat 3), ("color", .array []), ("action", .ofNat 42)], []]
    let s := (Tree.array (objects.map ofFields)).print
    (∀ ms ∈ objects, (ms.map Prod.fst).Nodup) ∧ Tree.read? s = some (.array (objects.map ofFields)) ∧
      List.Forall₂ Event.Members objects [{ index := 3 }, {}] := by
  intro objects s
  have hkeys : ∀ ms ∈ objects, (ms.map Prod.fst).Nodup := by decide
  have hs : Tree.read? s = some (.array (objects.map ofFields)) := read?_print _
  have hpage : decodePage s = some [{ index := 3 }, {}] := by decide +kernel
  exact ⟨hkeys, hs, ((pages_decode_if_well_typed hkeys hs).1 _).mp hpage⟩

/-- A page with a code of an action above a byte, and a page with an event without index. -/
theorem wide_action_fails_page :
    decodePage "[\x7b\"index\":1,\"action\":256\x7d]" = none ∧ decodePage "[\x7b\x7d]" = some [{}] := by
  decide +kernel

end BoostFeed
