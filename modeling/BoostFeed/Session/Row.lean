import BoostFeed.Session.View
import BoostFeed.Session.Apps
import BoostFeed.Feed.Details
import BoostFeed.Numerology.Annotation

/-! The row of a timeline: what a renderer shows for one event in one view. -/

namespace BoostFeed

open Feed Numerology

/-- Where a reply to an event goes. -/
structure ReplyTarget where
  address : String
  sender : String
  customKey : Option String
  customValue : Option String
deriving DecidableEq

/-- What the listener was playing when the payment went to another show. -/
structure RemoteItem where
  podcast : Option String
  episode : Option String
  link : Option String
deriving DecidableEq

/-- The presentation of one event. -/
structure Row where
  index : UInt64
  timestamp : Int64
  action : Action
  /-- The amount shown. -/
  sats : Int64
  receivedSats : Int64
  /-- The received amount is known and not the total. -/
  amountDiffers : Bool
  person : String
  app : String
  appIcon : String
  appUrl : Option String
  podcast : String
  episode : String
  remote : Option RemoteItem
  message : String
  numerology : Annotation
  replyTo : Option ReplyTarget
  replySent : Bool
deriving DecidableEq

/-- The pages of remote feeds lie below this address. -/
def podcastIndexUrl : String := "https://podcastindex.org/podcast/"

namespace Row

/-- Who paid, or in the view of sent payments who was paid. -/
def personOf (view : View) (recipient : Option String) (sender : String) : String :=
  match view, recipient with
  | .sent, some name => "sent to " ++ name
  | _, _ => if sender = "" then "" else "from " ++ sender

def remoteOf (e : Event) (d : Details) : Option RemoteItem :=
  if e.remotePodcast.isSome || e.remoteEpisode.isSome then
    some ⟨e.remotePodcast, e.remoteEpisode, d.remoteFeedGuid.map (podcastIndexUrl ++ ·)⟩
  else none

def replyOf (e : Event) (d : Details) : Option ReplyTarget :=
  d.replyAddress.map fun address => ⟨address, e.sender, d.replyCustomKey, d.replyCustomValue⟩

/-- The row of an event. The annotation follows the total, whichever amount is shown. -/
def ofEvent (e : Event) (view : View) (rules : List Rule) (apps : AppCatalog) (showReceived : Bool) :
    Row :=
  let d := e.details
  let received := e.receivedSats
  let total := e.displaySats
  let badge := apps.lookup e.app
  { index := e.index
    timestamp := e.timestamp
    action := e.action
    sats := if showReceived ∧ 0 < received then received else total
    receivedSats := received
    amountDiffers := 0 < received ∧ 0 < total ∧ received ≠ total
    person := personOf view d.name e.sender
    app := e.app
    appIcon := badge.icon
    appUrl := badge.url
    podcast := e.podcast
    episode := e.episode
    remote := remoteOf e d
    message := e.message
    numerology := annotate rules e.amount
    replyTo := replyOf e d
    replySent := e.replySent }

end Row

/-- The least and the greatest second of the calendar. -/
def calendarSeconds : Int × Int := (-8334601228800, 8210266876799)

/-- A count with its unit, as the age of something. -/
def ageText (count : Int) (unit : String) : String :=
  toString count ++ " " ++ unit ++ (if count = 1 then "" else "s") ++ " ago"

/-- How long ago a time was; no text for a time outside the calendar. -/
def ageLabel (timestamp now : Int) : String :=
  if timestamp < calendarSeconds.1 ∨ calendarSeconds.2 < timestamp then ""
  else
    let secs := now - timestamp
    if secs < 60 then "just now"
    else if secs < 3600 then ageText (secs / 60) "minute"
    else if secs < 86400 then ageText (secs / 3600) "hour"
    else ageText (secs / 86400) "day"

def Row.age (r : Row) (now : Int) : String := ageLabel r.timestamp.toInt now

end BoostFeed
