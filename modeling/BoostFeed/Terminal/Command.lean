import BoostFeed.Session.View
import BoostFeed.Text.Digits

/-! The line commands of the terminal. -/

namespace BoostFeed.Terminal

inductive Command where
  /-- Load older events. -/
  | more
  | reply (index sats : UInt64) (message : Option String)
  | view (v : View)
  | help
  | quit
deriving DecidableEq

inductive CommandError where
  | empty
  | unknown (name : String)
  | viewUsage
  | unknownView (text : String)
  | replyUsage
deriving DecidableEq

/-- The list of commands. -/
def helpText : String :=
  "commands: more | reply <index> <sats> [message] | view <boosts|streams|sent> | quit"

def CommandError.message : CommandError → String
  | .empty => "empty command"
  | .unknown name => "unknown command '" ++ name ++ "'. " ++ helpText
  | .viewUsage => "usage: view <boosts|streams|sent>"
  | .unknownView text => View.unknownMessage text
  | .replyUsage => "usage: reply <index> <sats> [message]"

namespace Command

/-- The words behind `reply`: an index, an amount above zero, and the words of a message. -/
def parseReply : List (List Char) → Except CommandError Command
  | index :: sats :: message =>
    match Text.uint64? index, Text.uint64? sats with
    | some index, some sats =>
      if sats = 0 then .error .replyUsage
      else .ok (.reply index sats
        (if message = [] then none else some (String.ofList ([' '].intercalate message))))
    | _, _ => .error .replyUsage
  | _ => .error .replyUsage

/-- The word behind `view`; what follows it does not matter. -/
def parseView : List (List Char) → Except CommandError Command
  | [] => .error .viewUsage
  | text :: _ =>
    match View.parse (String.ofList text) with
    | .ok v => .ok (.view v)
    | .error other => .error (.unknownView other)

/-- The command of a line. Its name counts in any case of ASCII letters. -/
def parse (line : String) : Except CommandError Command :=
  match Text.words line.toList with
  | [] => .error .empty
  | name :: words =>
    match String.ofList (Text.asciiLower name) with
    | "more" | "m" => .ok .more
    | "help" | "?" => .ok .help
    | "quit" | "exit" | "q" => .ok .quit
    | "view" => parseView words
    | "reply" => parseReply words
    | other => .error (.unknown other)

end Command

end BoostFeed.Terminal
