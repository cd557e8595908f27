import BoostFeed.Feed.Event
import BoostFeed.Json.Value

/-! The details a payment carries as a JSON text. Text that is no JSON object has none. -/

namespace BoostFeed.Feed

open Json

/-- The details in use. -/
structure Details where
  /-- The recipient. -/
  name : Option String := none
  replyAddress : Option String := none
  replyCustomKey : Option String := none
  replyCustomValue : Option String := none
  remoteFeedGuid : Option String := none
  remoteItemGuid : Option String := none
deriving DecidableEq

namespace Details

/-- A non-empty text, or a number as it is written. -/
def entry (v : Value) (key : String) : Option String :=
  match v.get? key with
  | some (.string s) => if s = "" then none else some s
  | some (.number n) => some (String.ofList n.toNumeral.print)
  | _ => none

def ofValue (v : Value) : Details where
  name := entry v "name"
  replyAddress := entry v "reply_address"
  replyCustomKey := entry v "reply_custom_key"
  replyCustomValue := entry v "reply_custom_value"
  remoteFeedGuid := entry v "remote_feed_guid"
  remoteItemGuid := entry v "remote_item_guid"

def parse (raw : String) : Details := ((Value.read? raw).map ofValue).getD {}

end Details

def Event.details (e : Event) : Details := Details.parse e.tlv

end BoostFeed.Feed
