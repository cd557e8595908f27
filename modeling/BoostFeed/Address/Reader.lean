import BoostFeed.Address.Basic

/-! Reading addresses, by themselves or against a base. -/

namespace BoostFeed.Address

/-- Whether a character separates path segments in addresses of this kind. -/
def isSeparator (k : SchemeKind) (c : Char) : Bool := c = '/' || (c = '\\' && k ≠ .other)

/-- A text without control characters and blanks at its ends, and without tabs and line ends. -/
def cleaned (s : String) : List Char :=
  let outer := fun (c : Char) => c.toNat ≤ 0x20
  let cs := ((s.toList.dropWhile outer).reverse.dropWhile outer).reverse
  cs.filter fun c => c ≠ '\t' && c ≠ '\n' && c ≠ '\r'

/-- The scheme before the first colon, in small letters, and what follows it. -/
def scheme? (cs : List Char) : Option (String × List Char) :=
  let inScheme := fun (c : Char) => c.isAlphanum || c = '+' || c = '-' || c = '.'
  match cs.takeWhile inScheme, cs.dropWhile inScheme with
  | first :: name, ':' :: rest =>
    if first.isAlpha then some (String.ofList ((first :: name).map Char.toLower), rest) else none
  | _, _ => none

/-- Segments that mean the directory above. -/
def isDoubleDot (segment : List Char) : Bool :=
  [".." , ".%2e", "%2e.", "%2e%2e"].contains (String.ofList (segment.map Char.toLower))

/-- Segments that mean the directory itself. -/
def isSingleDot (segment : List Char) : Bool :=
  [".", "%2e"].contains (String.ofList (segment.map Char.toLower))

/-- A letter and a colon or bar, the name of a drive. -/
def isDrive : List Char → Bool
  | [a, b] => a.isAlpha && (b = ':' || b = '|')
  | _ => false

/-- Removes the last segment; the drive of a file stays. -/
def shorten (k : SchemeKind) (parts : List String) : List String :=
  match k, parts with
  | .file, [drive] => if isDrive drive.toList then [drive] else []
  | _, parts => parts.dropLast

/-- The raw segments of a text, up to its end. -/
def rawSegments (k : SchemeKind) (cs : List Char) : List (List Char) :=
  cs.foldr (fun c parts => if isSeparator k c then [] :: parts else parts.modifyHead (c :: ·)) [[]]

/-- Adds raw segments to a path. The last one leaves an empty segment where it names a directory. -/
def addSegments (k : SchemeKind) (parts : List String) : List (List Char) → List String
  | [] => parts
  | segment :: rest =>
    let last := rest.isEmpty
    if isDoubleDot segment then
      let parts := shorten k parts
      addSegments k (if last then parts ++ [""] else parts) rest
    else if isSingleDot segment then addSegments k (if last then parts ++ [""] else parts) rest
    else
      let text :=
        if k = .file ∧ parts = [] ∧ isDrive segment then String.ofList [segment.headD 'a', ':']
        else String.ofList (encode .path segment)
      addSegments k (parts ++ [text]) rest

/-- The path that a text adds to the segments before it. -/
def pathFrom (k : SchemeKind) (parts : List String) (cs : List Char) : List String :=
  addSegments k parts (rawSegments k cs)

/-- The path behind a host, with or without a leading slash. -/
def absolutePath (k : SchemeKind) (cs : List Char) : List String :=
  match cs with
  | [] => if k = .other then [] else [""]
  | c :: rest => if isSeparator k c then pathFrom k [] rest else pathFrom k [] cs

/-- Cuts off query and fragment. -/
def cutTail (cs : List Char) : List Char × Option (List Char) × Option (List Char) :=
  let body := cs.takeWhile (· ≠ '#')
  let fragment := match cs.dropWhile (· ≠ '#') with
    | _ :: f => some f
    | [] => none
  let query := match body.dropWhile (· ≠ '?') with
    | _ :: q => some q
    | [] => none
  (body.takeWhile (· ≠ '?'), query, fragment)

def queryOf (k : SchemeKind) (q : Option (List Char)) : Option String :=
  q.map fun q => String.ofList (encode (if k = .other then .query else .specialQuery) q)

def fragmentOf (f : Option (List Char)) : Option String := f.map fun f => String.ofList (encode .fragment f)

/-- The part of a text after its last at-sign, and the part before it. -/
def cutUser (cs : List Char) : Option (List Char) × List Char :=
  let after := (cs.reverse.takeWhile (· ≠ '@')).reverse
  if after.length = cs.length then (none, cs) else (some (cs.take (cs.length - after.length - 1)), after)

/-- The host in front, up to a colon that stands outside brackets. -/
def cutHost (inBrackets : Bool) : List Char → List Char × List Char
  | [] => ([], [])
  | c :: cs =>
    if c = ':' ∧ !inBrackets then ([], c :: cs)
    else
      let (host, rest) := cutHost (if c = '[' then true else if c = ']' then false else inBrackets) cs
      (c :: host, rest)

/-- The port behind a colon; none where it is empty or the usual one. -/
def portOf (scheme : String) (cs : List Char) : Except AddressError (Option Nat) :=
  match cs with
  | [] => .ok none
  | cs =>
    match Text.digits? cs with
    | some n =>
      if n < UInt16.size then .ok (if usualPort scheme = some n then none else some n) else .error .invalidPort
    | none => .error .invalidPort

/-- The part behind two slashes: user, host and port, then path, query and fragment. -/
def authority (scheme : String) (cs : List Char) : Except AddressError Address := do
  let k := kindOf scheme
  let (body, query, fragment) := cutTail cs
  let front := body.takeWhile fun c => !isSeparator k c
  let (user, front) := cutUser front
  let (hostText, rest) := cutHost false front
  let userText := user.getD []
  let name := userText.takeWhile (· ≠ ':')
  let password := (userText.dropWhile (· ≠ ':')).drop 1
  if hostText.isEmpty ∧ (k = .special ∨ user.isSome ∨ !rest.isEmpty) then .error .emptyHost
  else do
    let host ← if k = .special then Host.read hostText else Host.readOpaque hostText
    let port ← portOf scheme (rest.drop 1)
    return {
      scheme
      username := String.ofList (encode .userinfo name)
      password := String.ofList (encode .userinfo password)
      host := some host
      port
      path := .segments (absolutePath k (body.dropWhile fun c => !isSeparator k c))
      query := queryOf k query
      fragment := fragmentOf fragment }

/-- The host of a file: none for this machine, and none before a drive. -/
def fileHost (cs : List Char) : Except AddressError (Option Host) :=
  match cs with
  | [] => .ok none
  | cs => do
    match ← Host.read cs with
    | .domain "localhost" => return none
    | h => return some h

/-- The part of a file's address behind its scheme. -/
def file (base : Option Address) (cs : List Char) : Except AddressError Address := do
  let (body, query, fragment) := cutTail cs
  let make := fun (host : Option Host) (parts : List String) (query : Option String) =>
    ({ scheme := "file", host := some (host.getD (.domain "")), path := .segments parts, query,
       fragment := fragmentOf fragment } : Address)
  let baseHost := base.bind (·.host)
  match body with
  | a :: b :: rest =>
    if isSeparator .file a && isSeparator .file b then
      let front := rest.takeWhile fun c => !isSeparator .file c
      if isDrive front then return make none (pathFrom .file [] rest) (queryOf .file query)
      else
        return make (← fileHost front) (absolutePath .file (rest.drop front.length)) (queryOf .file query)
    else if isSeparator .file a then
      return make baseHost (pathFrom .file [] (b :: rest)) (queryOf .file query)
    else relative a (b :: rest) make baseHost query
  | [a] =>
    if isSeparator .file a then return make baseHost [""] (queryOf .file query)
    else relative a [] make baseHost query
  | [] =>
    match base with
    | some b =>
      let parts := match b.path with
        | .segments parts => parts
        | .opaquePath _ => []
      return make baseHost parts (if query.isNone then b.query else queryOf .file query)
    | none => return make none [""] (queryOf .file query)
where
  relative (c : Char) (cs : List Char) (make : Option Host → List String → Option String → Address)
      (baseHost : Option Host) (query : Option (List Char)) : Except AddressError Address :=
    let before := match base.map Address.path with
      | some (.segments parts) => shorten .file parts
      | _ => []
    let before := if isDrive ((c :: cs).takeWhile fun c => !isSeparator .file c) then [] else before
    .ok (make baseHost (pathFrom .file before (c :: cs)) (queryOf .file query))

/-- The slashes in front, and what follows them. -/
def slashes (cs : List Char) : Nat × List Char :=
  let isSlash := fun (c : Char) => c = '/' || c = '\\'
  ((cs.takeWhile isSlash).length, cs.dropWhile isSlash)

/-- A text without scheme against a base with a path of segments. -/
def relativeTo (base : Address) (parts : List String) (cs : List Char) : Except AddressError Address :=
  let k := kindOf base.scheme
  let (body, query, fragment) := cutTail cs
  let fragment := fragmentOf fragment
  match body with
  | [] =>
    .ok { base with query := if query.isNone then base.query else queryOf k query, fragment }
  | c :: rest =>
    if isSeparator k c then
      let (count, behind) := slashes cs
      if 2 ≤ count then
        authority base.scheme (match cs with
          | '/' :: '/' :: behind => behind
          | _ => behind)
      else .ok { base with path := .segments (pathFrom k [] rest), query := queryOf k query, fragment }
    else
      .ok { base with path := .segments (pathFrom k (shorten k parts) body), query := queryOf k query, fragment }

/-- The rest of an address whose scheme is read. -/
def afterScheme (base : Option Address) (scheme : String) (cs : List Char) : Except AddressError Address :=
  match kindOf scheme with
  | .file => file (base.filter (·.scheme = "file")) cs
  | .special =>
    let (count, behind) := slashes cs
    match base.filter fun b => b.scheme = scheme ∧ count < 2 with
    | some b =>
      match b.path with
      | .segments parts => relativeTo b parts cs
      | .opaquePath _ => authority scheme behind
    | none => authority scheme behind
  | .other =>
    match cs with
    | '/' :: '/' :: cs => authority scheme cs
    | cs =>
      let (body, query, fragment) := cutTail cs
      let path := match body with
        | '/' :: rest => AddressPath.segments (pathFrom .other [] rest)
        | body => .opaquePath (String.ofList (encode .control body))
      .ok { scheme, path, query := queryOf .other query, fragment := fragmentOf fragment }

/-- The address that a text writes, against a base if there is one. -/
def readAgainst (base : Option Address) (text : String) : Except AddressError Address :=
  let cs := cleaned text
  match scheme? cs with
  | some (scheme, rest) => afterScheme base scheme rest
  | none =>
    match base with
    | none => .error .withoutBase
    | some b =>
      match cs, b.path with
      | '#' :: f, _ => .ok { b with fragment := fragmentOf (some f) }
      | _, .opaquePath _ => .error .opaqueBase
      | cs, .segments parts => if b.scheme = "file" then file (some b) cs else relativeTo b parts cs

/-- The address that a text writes by itself. -/
def read (text : String) : Except AddressError Address := readAgainst none text

/-- The address that a text means on a page with this address. -/
def join (base : Address) (text : String) : Except AddressError Address := readAgainst (some base) text

/-- The push endpoint of a server: its scheme becomes the one of the push protocol. -/
def pushAddress (base : Address) : Except AddressError Address := do
  let a ← base.join "api/v1/ws"
  match a.scheme with
  | "https" | "wss" => return a.withScheme "wss"
  | "http" | "ws" => return a.withScheme "ws"
  | _ => .error .opaqueBase

end BoostFeed.Address
