import BoostFeed.Session.Basic
import BoostFeed.Json.Value
import BoostFeed.Terminal.Style

/-! The timeline on a terminal. New rows are printed as they come; rows that belong further up are marked,
for a terminal cannot insert above what it has printed. -/

namespace BoostFeed.Terminal

open Feed

/-- The text of a row. -/
def rowText (r : Row) (now : Int) : String :=
  "#" ++ r.index.toNat.repr ++ " " ++ toString r.sats.toInt ++ " sats" ++
    (if r.amountDiffers then " (" ++ toString r.receivedSats.toInt ++ " received)" else "") ++
    (if r.numerology.isEmpty then "" else " " ++ r.numerology.glyphs) ++
    (if r.person = "" then "" else "  " ++ r.person) ++
    (if r.app = "" then "" else " via " ++ r.app ++ " [" ++ r.appIcon ++ "]") ++
    (if r.podcast = "" then ""
      else "  " ++ r.podcast ++ (if r.episode = "" then "" else " / " ++ r.episode)) ++
    (match r.remote with
      | some item => "  (listening to " ++ ((item.episode <|> item.podcast).getD "") ++ ")"
      | none => "") ++
    "  " ++ r.age now ++
    (if r.replySent then "  [replied]" else "") ++
    (if r.message = "" then "" else "\n    " ++ r.message)

/-- The rows printed so far, ascending by index. -/
structure Console where
  colors : Bool := false
  rows : List (UInt64 × Row) := []

namespace Console

/-- Puts a row at its place; one of the same index goes. -/
def insertRow (row : Row) : List (UInt64 × Row) → List (UInt64 × Row)
  | [] => [(row.index, row)]
  | (i, r) :: rows =>
    if row.index < i then (row.index, row) :: (i, r) :: rows
    else if row.index = i then (row.index, row) :: rows
    else (i, r) :: insertRow row rows

/-- Remembers what an effect does to the rows. -/
def remember (c : Console) : ViewEffect → Console
  | .inserted row _ _ _ => { c with rows := insertRow row c.rows }
  | .replyMarked index =>
    { c with rows := c.rows.map fun (i, r) => (i, if i = index then { r with replySent := true } else r) }
  | _ => c

/-- What an effect prints, if anything. -/
def text (c : Console) (now : Int) : ViewEffect → Option String
  | .inserted row _ placement _ =>
    let text := rowText row now
    some <| match placement with
      | .only | .newest => styled c.colors .bold text
      | .oldest => styled c.colors .dimmed "(older)" ++ " " ++ text
      | .between => styled c.colors .yellow "(late)" ++ " " ++ text
  | .scrollToNewest => none
  | .celebrate index => some (styled c.colors .magenta ("🎉 #" ++ index.toNat.repr ++ " filled a gap"))
  | .showEmpty lookingFor => some (styled c.colors .dimmed
      ("Nothing here yet, waiting for events from #" ++ lookingFor.toNat.repr ++ "..."))
  | .hideEmpty => none
  | .showLoadMore cursor => some (styled c.colors .dimmed
      ("Older events below #" ++ cursor.toNat.repr ++ ": type 'more' to load them."))
  | .hideLoadMore => some (styled c.colors .dimmed "No older events.")
  | .indexUnavailable raw => some (styled c.colors .red ("Current index unavailable: " ++ raw))
  | .balance (.sats amount increased) =>
    let text := "Balance: " ++ toString amount.toInt ++ " sats"
    some (if increased then styled c.colors .boldGreen (text ++ " ⬆") else styled c.colors .cyan text)
  | .balance (.error reason) => some (styled c.colors .red ("Balance error: " ++ reason))
  | .replyMarked index => some (styled c.colors .green ("Reply sent for #" ++ index.toNat.repr))
  | .replyFailed message => some (styled c.colors .red ("Reply failed: " ++ message))
  | .redirectToLogin => some (styled c.colors .boldRed
      "Authorization denied. Log in to the server and restart.")

/-- Applies an effect: the lines it prints, and the rows after it. -/
def apply (c : Console) (now : Int) (e : ViewEffect) : List String × Console :=
  let c := c.remember e
  ((c.text now e).toList, c)

/-- Prints the age of the newest row. -/
def refreshAges (c : Console) (now : Int) : List String :=
  match c.rows.getLast? with
  | some (_, row) =>
    [styled c.colors .dimmed ("Latest: #" ++ row.index.toNat.repr ++ " " ++ row.age now)]
  | none => []

end Console

end BoostFeed.Terminal
