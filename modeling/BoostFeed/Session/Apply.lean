import BoostFeed.Session.Plan
import BoostFeed.Playback.Queue

/-! What a page of events does to a session: filtering, merging, and the effects and triggers that follow
from the insertions. -/

namespace BoostFeed

open Feed Playback

/-- The result of one page. -/
structure Applied where
  effects : List ViewEffect := []
  /-- Ascending by event index. -/
  triggers : List Trigger := []
  inserted : Nat := 0
  /-- Events that the filter removed. -/
  dropped : Nat := 0
deriving DecidableEq

/-- The cues of a playback request: its note, then its sound if it names a file. -/
def Feed.Effect.cues (e : Effect) : List Cue :=
  let note := e.note.map fun n => Cue.note (.withDefaults n.note n.velocity n.channel n.duration)
  let sound := (e.sound.filter (·.file ≠ "")).map fun s =>
    Cue.sound (if s.name = "" then .ofFile s.file else ⟨s.file, s.name⟩)
  note.toList ++ sound.toList

namespace Session

/-- The sound files for an amount: those of the rules that match it, else the default sound. -/
def soundFiles (s : Session) (amount : UInt64) : List String :=
  match (Numerology.annotate s.rules amount).soundFiles with
  | [] => s.settings.defaultSound.toList
  | files => files

/-- What plays for a new event: a trigger for each playback request of the server, else one trigger with
the sounds for its amount. Nothing plays with playback off or in a view without effects. -/
def triggersFor (s : Session) (e : Event) : List Trigger :=
  if !s.settings.playback || !s.view.hasEffects then []
  else
    match (e.effects.map Effect.cues).filter (!·.isEmpty) with
    | [] =>
      match s.soundFiles e.amount with
      | [] => []
      | files => [⟨e.index, files.map fun f => .sound (.ofFile f)⟩]
    | cues => cues.map (⟨e.index, ·⟩)

/-- The row of an insertion and its place. -/
def insertedEffect (s : Session) (i : Insertion) : ViewEffect :=
  .inserted (Row.ofEvent i.event s.view s.rules s.apps s.settings.showReceivedSats) i.anchor i.placement
    i.position

/-- The effects of new events in turn. A forward page scrolls once, at its first event above all others,
if the renderer is at the newest end; an event that fills a gap is celebrated. -/
def insertionEffects (s : Session) (direction : Direction) (mayScroll : Bool) :
    List Insertion → List ViewEffect
  | [] => []
  | i :: is =>
    s.insertedEffect i ::
      match direction, i.placement.isNewest with
      | .backfill, _ => s.insertionEffects direction mayScroll is
      | .forward, true =>
        (if mayScroll then [.scrollToNewest] else []) ++ s.insertionEffects direction false is
      | .forward, false =>
        (if s.view.hasEffects then [.celebrate i.event.index] else []) ++
          s.insertionEffects direction mayScroll is

/-- What the request itself plays: the new events above all others, if it goes forward and may play. -/
def requestedTriggers (s : Session) (r : PageRequest) (is : List Insertion) : List Trigger :=
  if r.direction = .forward ∧ r.play then
    (is.filter (·.placement.isNewest)).flatMap fun i => s.triggersFor i.event
  else []

/-- What plays. The first events after an empty state always do: the newest of them, where the request
plays nothing. Insertions come in ascending order. -/
def insertionTriggers (s : Session) (r : PageRequest) (is : List Insertion) : List Trigger :=
  match s.requestedTriggers r is with
  | [] =>
    if s.showingEmpty || s.awaitingFirst then
      (is.getLast?.map fun i => s.triggersFor i.event).getD []
    else []
  | triggers => triggers

/-- How the empty indicator changes. -/
def emptyEffects (s : Session) (r : PageRequest) (store : Store) : List ViewEffect :=
  match store.isEmpty, s.showingEmpty with
  | true, false => [.showEmpty r.query.index]
  | false, true => [.hideEmpty]
  | _, _ => []

/-- Where the load-more control stands after a page. History has ended when a page of it came empty or
was asked for from the first index on. -/
def nextLoadMore (s : Session) (r : PageRequest) (page : List Event) (store : Store) : Option UInt64 :=
  match r.direction with
  | .backfill =>
    if !page.isEmpty && (1 < r.query.index || !r.cursorKnown) then store.lowest else none
  | .forward =>
    match s.loadMoreCursor with
    | some _ => store.lowest
    | none => store.lowest.filter (1 < ·)

def loadMoreEffects (s : Session) (next : Option UInt64) : List ViewEffect :=
  if next = s.loadMoreCursor then []
  else match next with
    | some cursor => [.showLoadMore cursor]
    | none => [.hideLoadMore]

/-- The events of a page that the session admits, ascending; of equal indices the first stays first. -/
def accepted (s : Session) (page : List Event) : List Event :=
  (page.filter s.admits).mergeSort fun a b => a.index ≤ b.index

/-- Filters and merges a page and derives what follows from its new events. -/
def applyPage (s : Session) (r : PageRequest) (page : List Event) : Applied × Session :=
  let accepted := s.accepted page
  let (is, store) := s.store.merge accepted
  let loadMore := s.nextLoadMore r page store
  ({ effects := s.insertionEffects r.direction s.atNewest is ++ s.emptyEffects r store ++
       s.loadMoreEffects loadMore
     triggers := s.insertionTriggers r is
     inserted := is.length
     dropped := page.length - accepted.length },
   { s with
     store
     showingEmpty := store.isEmpty
     awaitingFirst := s.awaitingFirst && is.isEmpty
     loadMoreCursor := loadMore })

end Session

end BoostFeed
