import BoostFeed.Session.Basic
import BoostFeed.Numerology.Form

/-! The JSON form of what a renderer receives, for one in another process. -/

namespace BoostFeed

open Json

namespace Feed

def Details.toTree (d : Details) : Tree := .ofFields [
  ("name", .ofOption .ofText d.name),
  ("reply_address", .ofOption .ofText d.replyAddress),
  ("reply_custom_key", .ofOption .ofText d.replyCustomKey),
  ("reply_custom_value", .ofOption .ofText d.replyCustomValue),
  ("remote_feed_guid", .ofOption .ofText d.remoteFeedGuid),
  ("remote_item_guid", .ofOption .ofText d.remoteItemGuid)]

def Anchor.toTree : Anchor → Tree
  | .sole => .ofText "sole"
  | .after i => .ofFields [("after", .ofNat i.toNat)]
  | .before i => .ofFields [("before", .ofNat i.toNat)]

def Placement.name : Placement → String
  | .only => "only"
  | .newest => "newest"
  | .oldest => "oldest"
  | .between => "between"

/-- Where something new stands. -/
def placeFields (a : Anchor) (p : Placement) (position : Nat) : List (String × Tree) :=
  [("anchor", a.toTree), ("placement", .ofText p.name), ("position", .ofNat position)]

def Insertion.toTree (i : Insertion) : Tree :=
  .ofFields (("index", .ofNat i.event.index.toNat) :: placeFields i.anchor i.placement i.position)

end Feed

def RemoteItem.toTree (m : RemoteItem) : Tree := .ofFields [
  ("podcast", .ofOption .ofText m.podcast), ("episode", .ofOption .ofText m.episode),
  ("link", .ofOption .ofText m.link)]

def ReplyTarget.toTree (t : ReplyTarget) : Tree := .ofFields [
  ("address", .ofText t.address), ("sender", .ofText t.sender),
  ("custom_key", .ofOption .ofText t.customKey), ("custom_value", .ofOption .ofText t.customValue)]

def Row.toTree (r : Row) : Tree := .ofFields [
  ("index", .ofNat r.index.toNat),
  ("timestamp", .ofInt r.timestamp.toInt),
  ("action", .ofNat r.action.code.toNat),
  ("sats", .ofInt r.sats.toInt),
  ("received_sats", .ofInt r.receivedSats.toInt),
  ("amount_differs", .bool r.amountDiffers),
  ("person", .ofText r.person),
  ("app", .ofText r.app),
  ("app_icon", .ofText r.appIcon),
  ("app_url", .ofOption .ofText r.appUrl),
  ("podcast", .ofText r.podcast),
  ("episode", .ofText r.episode),
  ("remote", .ofOption RemoteItem.toTree r.remote),
  ("message", .ofText r.message),
  ("numerology", r.numerology.toTree),
  ("reply_to", .ofOption ReplyTarget.toTree r.replyTo),
  ("reply_sent", .bool r.replySent)]

def Direction.name : Direction → String
  | .forward => "forward"
  | .backfill => "backfill"

def PageRequest.toTree (r : PageRequest) : Tree := .ofFields [
  ("direction", .ofText r.direction.name), ("index", .ofNat r.query.index.toNat),
  ("count", .ofNat r.query.count), ("old", .bool r.query.old), ("play", .bool r.play),
  ("cursor_known", .bool r.cursorKnown)]

namespace ViewEffect

def name : ViewEffect → String
  | .inserted .. => "inserted"
  | .scrollToNewest => "scroll_to_newest"
  | .celebrate _ => "celebrate"
  | .showEmpty _ => "show_empty"
  | .hideEmpty => "hide_empty"
  | .showLoadMore _ => "show_load_more"
  | .hideLoadMore => "hide_load_more"
  | .indexUnavailable _ => "index_unavailable"
  | .balance (.sats ..) => "balance"
  | .balance (.error _) => "balance_error"
  | .replyMarked _ => "reply_marked"
  | .replyFailed _ => "reply_failed"
  | .redirectToLogin => "redirect_to_login"

/-- What the effect carries. -/
def fields : ViewEffect → List (String × Tree)
  | .inserted row anchor placement position =>
    ("row", row.toTree) :: Feed.placeFields anchor placement position
  | .celebrate i | .replyMarked i => [("index", .ofNat i.toNat)]
  | .showEmpty i => [("looking_for", .ofNat i.toNat)]
  | .showLoadMore i => [("cursor", .ofNat i.toNat)]
  | .indexUnavailable raw => [("raw", .ofText raw)]
  | .balance (.sats amount increased) =>
    [("amount", .ofInt amount.toInt), ("increased", .bool increased)]
  | .balance (.error reason) => [("reason", .ofText reason)]
  | .replyFailed message => [("message", .ofText message)]
  | .scrollToNewest | .hideEmpty | .hideLoadMore | .redirectToLogin => []

def toTree (e : ViewEffect) : Tree := .ofFields (("effect", .ofText e.name) :: e.fields)

end ViewEffect

end BoostFeed
