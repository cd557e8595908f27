import BoostFeed.Service.Client
import BoostFeed.Numerology.BuiltIn

/-! Loading what a session needs besides its feed: the rules first, then the apps. Where they cannot be
had, the built-in rules and an empty catalog take their place; only a denied access is a failure. -/

namespace BoostFeed

open Numerology

structure Collaborators where
  rules : List Rule
  apps : AppCatalog

/-- What the loading waits for. -/
inductive Loading where
  | rules
  | apps (rules : List Rule)

/-- The loading after a step. -/
inductive LoadStep where
  | finished (result : Except Failure Collaborators)
  | waiting (request : HttpRequest) (l : Loading)

namespace Collaborators

/-- Asks for the apps. -/
def askApps (c : Client) (rules : List Rule) : LoadStep :=
  match c.appsRequest with
  | .ok request => .waiting request (.apps rules)
  | .error _ => .finished (.ok ⟨rules, {}⟩)

/-- Asks for the rules. -/
def start (c : Client) : LoadStep :=
  match c.rulesRequest with
  | .ok request => .waiting request .rules
  | .error _ => askApps c BuiltIn.rules

/-- Goes on with the answer to a request. -/
def resume (c : Client) (l : Loading) (reply : Option HttpReply) : LoadStep :=
  match l with
  | .rules =>
    match HttpReply.interpret decodeRules reply with
    | .ok rules => askApps c rules
    | .error .unauthorized => .finished (.error .unauthorized)
    | .error _ => askApps c BuiltIn.rules
  | .apps rules =>
    match HttpReply.interpret decodeApps reply with
    | .ok apps => .finished (.ok ⟨rules, .ofEntries apps⟩)
    | .error .unauthorized => .finished (.error .unauthorized)
    | .error _ => .finished (.ok ⟨rules, {}⟩)

end Collaborators

end BoostFeed
