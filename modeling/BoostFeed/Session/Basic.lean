import BoostFeed.Session.Row
import BoostFeed.Session.Balance
import BoostFeed.Feed.Store

/-! What one timeline session knows: its view and settings, the stored events, the rules and apps in use,
and the cursors and indicators. -/

namespace BoostFeed

open Feed Numerology

/-- The user's choices. -/
structure Settings where
  /-- Events below this many sats are dropped. -/
  minSats : Int64 := 0
  playback : Bool := true
  showReceivedSats : Bool := false
  /-- Played for events that bring no sound of their own. -/
  defaultSound : Option String := some "/pew.mp3"
deriving DecidableEq

/-- Which way a page goes from its cursor. -/
inductive Direction where
  | forward
  | backfill
deriving DecidableEq

/-- The page asked of the server: at most `count` events at or above `index`, or with `old` at or below
it. -/
structure PageQuery where
  index : UInt64
  count : Nat
  old : Bool
deriving DecidableEq

/-- A planned page. -/
structure PageRequest where
  direction : Direction
  query : PageQuery
  /-- Insertions at the newest end may play. -/
  play : Bool
  /-- The cursor came from real data and not from a default. -/
  cursorKnown : Bool
deriving DecidableEq

/-- Events asked for going forward. -/
def forwardPageSize : Nat := 20

/-- Events asked for going back. -/
def backfillPageSize : Nat := 100

structure Session where
  view : View := .boosts
  settings : Settings := {}
  store : Store := ∅
  rules : List Rule := []
  apps : AppCatalog := {}
  /-- The index that the server reported last. -/
  currentIndex : Option UInt64 := none
  /-- The empty indicator shows. -/
  showingEmpty : Bool := false
  /-- The server had nothing yet, and the first arrivals must play. -/
  awaitingFirst : Bool := false
  /-- The renderer is at the newest end. -/
  atNewest : Bool := true
  /-- The cursor of the load-more control where it shows. -/
  loadMoreCursor : Option UInt64 := none
  /-- The server has not denied access. -/
  authorized : Bool := true

instance : Inhabited Session := ⟨{}⟩

namespace Session

/-- Turns to another view and forgets all that belongs to the old one; settings, rules and apps stay,
and so does a denied access. -/
def reset (s : Session) (view : View) : Session :=
  { s with
    view
    store := ∅
    currentIndex := none
    showingEmpty := false
    awaitingFirst := false
    atNewest := true
    loadMoreCursor := none }

def markReplied (s : Session) (index : UInt64) : Bool × Session :=
  (s.store.contains index, { s with store := s.store.markReplied index })

/-- Whether an event belongs to the view and reaches the least amount. -/
def admits (s : Session) (e : Event) : Bool :=
  s.view.accepts e.action && s.settings.minSats ≤ e.displaySats

end Session

/-- One observable change for the renderer. -/
inductive ViewEffect where
  | inserted (row : Row) (anchor : Anchor) (placement : Placement) (position : Nat)
  | scrollToNewest
  /-- A row filled a gap. -/
  | celebrate (index : UInt64)
  | showEmpty (lookingFor : UInt64)
  | hideEmpty
  | showLoadMore (cursor : UInt64)
  | hideLoadMore
  | indexUnavailable (raw : String)
  | balance (b : Balance)
  | replyMarked (index : UInt64)
  | replyFailed (message : String)
  | redirectToLogin
deriving DecidableEq

end BoostFeed
