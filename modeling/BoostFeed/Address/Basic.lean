import BoostFeed.Address.Host

/-! Addresses on the web: scheme, host, port, path, query and fragment, and how they are written. -/

namespace BoostFeed

open Address

/-- A path of segments behind a host, or an opaque one that nothing can be joined to. -/
inductive AddressPath where
  | segments (parts : List String)
  | opaquePath (text : String)
deriving DecidableEq

/-- An address. The port of a known scheme is missing where it is the usual one. -/
structure Address where
  scheme : String
  username : String := ""
  password : String := ""
  host : Option Host := none
  port : Option Nat := none
  path : AddressPath
  query : Option String := none
  fragment : Option String := none
deriving DecidableEq

/-- The families of schemes: files, those with a usual port, and all others. -/
inductive SchemeKind where
  | file
  | special
  | other
deriving DecidableEq

namespace Address

def usualPort (scheme : String) : Option Nat :=
  match scheme with
  | "http" | "ws" => some 80
  | "https" | "wss" => some 443
  | "ftp" => some 21
  | _ => none

def kindOf (scheme : String) : SchemeKind :=
  if scheme = "file" then .file else if (usualPort scheme).isSome then .special else .other

def pathText (a : Address) : String :=
  match a.path with
  | .opaquePath text => text
  | .segments parts => String.join (parts.map ("/" ++ ·))

/-- The part before the host. -/
def userText (a : Address) : String :=
  if a.username = "" ∧ a.password = "" then ""
  else a.username ++ (if a.password = "" then "" else ":" ++ a.password) ++ "@"

def hostText (a : Address) : String :=
  match a.host with
  | some h => "//" ++ a.userText ++ h.print ++ ((a.port.map fun p => ":" ++ p.repr).getD "")
  | none =>
    match a.path with
    | .segments ("" :: _ :: _) => "/."
    | _ => ""

def queryText (a : Address) : String := (a.query.map ("?" ++ ·)).getD ""

def print (a : Address) : String :=
  a.scheme ++ ":" ++ a.hostText ++ a.pathText ++ a.queryText ++ (a.fragment.map ("#" ++ ·)).getD ""

/-- What a request names of an address: its path and query. -/
def target (a : Address) : String := a.pathText ++ a.queryText

/-- Whether two addresses lead to the same server. -/
def sameServer (a b : Address) : Bool := a.scheme == b.scheme && a.host == b.host && a.port == b.port

/-- Whether the path ends in a slash. -/
def endsInSlash (a : Address) : Bool := a.pathText.toList.getLast? == some '/'

/-- The address with a slash at the end of its path, so that joining keeps all of it. -/
def withSlash (a : Address) : Address :=
  if a.endsInSlash then a
  else match a.path with
    | .segments parts => { a with path := .segments (parts ++ [""]) }
    | .opaquePath text =>
      match text.toList with
      | '/' :: rest => { a with path := .opaquePath ("%2F" ++ String.ofList rest ++ "/") }
      | _ => { a with path := .opaquePath (text ++ "/") }

/-- The address with pairs added to its query. A query that stays empty goes. -/
def withQuery (a : Address) (pairs : List (String × String)) : Address :=
  let before := a.query.getD ""
  let text := before ++ (if before = "" ∨ pairs = [] then "" else "&") ++ formText pairs
  { a with query := if text = "" then none else some text }

/-- The address in another scheme; its usual port is not named. -/
def withScheme (a : Address) (scheme : String) : Address :=
  { a with scheme, port := a.port.filter fun p => usualPort scheme ≠ some p }

end Address

end BoostFeed
