import BoostFeed.Feed.Wire
import BoostFeed.Json.Value
import BoostFeed.Session.View

/-! Frames of the push channel: arrays of a name and its arguments. A payment names the feed it belongs
to. -/

namespace BoostFeed

open Json Feed

inductive PushFrame where
  | payment (view : View) (event : Event)
  | balance (raw : Value)

namespace PushFrame

/-- The feed that a frame of this name belongs to. -/
def view? : String → Option View
  | "boost" => some .boosts
  | "stream" => some .streams
  | "payment" => some .sent
  | _ => none

/-- The frame that a text writes; texts of another shape and unknown names are none. -/
def parse (text : String) : Option PushFrame :=
  match Value.read? text with
  | some (.array (.string name :: raw :: _)) =>
    match view? name with
    | some view => (Event.ofTree? raw.toTree).map (.payment view)
    | none => if name = "balance" then some (.balance raw) else none
  | _ => none

end PushFrame

end BoostFeed
