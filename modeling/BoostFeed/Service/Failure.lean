import BoostFeed.Address.Reader

/-! How a request to the server can fail. -/

namespace BoostFeed

open Address

inductive Failure where
  /-- Status 403: the session has ended. -/
  | unauthorized
  /-- Any other status outside 200 to 299. -/
  | http (status : Nat) (body : String)
  /-- No answer came: connection or time failed. -/
  | transport
  /-- The answer has another shape. -/
  | decode (reason : String)
  /-- No address could be built. -/
  | invalidAddress (e : AddressError)
deriving DecidableEq

namespace Failure

/-- Whether the next tick may try again. -/
def isTransient : Failure → Bool
  | .unauthorized | .invalidAddress _ => false
  | .http _ _ | .transport | .decode _ => true

def message : Failure → String
  | .unauthorized => "authorization denied"
  | .http status body => "HTTP " ++ status.repr ++ ": " ++ body
  | .transport => "transport failure"
  | .decode reason => "unexpected payload: " ++ reason
  | .invalidAddress e => "invalid url: " ++ e.message

end Failure

end BoostFeed
