import BoostFeed.Address.Percent
import BoostFeed.Text.Digits
import BoostFeed.Text.LowerCase

/-! Hosts of addresses: registered names, the numbers of the two internet protocols, and opaque names in
schemes that define their own. -/

namespace BoostFeed.Address

/-- Why a text is no address. -/
inductive AddressError where
  | withoutBase
  | opaqueBase
  | emptyHost
  | invalidPort
  | invalidIpv4
  | invalidIpv6
  | invalidDomain
  | invalidOpaque
deriving DecidableEq

def AddressError.message : AddressError → String
  | .withoutBase => "relative URL without a base"
  | .opaqueBase => "relative URL with a cannot-be-a-base base"
  | .emptyHost => "empty host"
  | .invalidPort => "invalid port number"
  | .invalidIpv4 => "invalid IPv4 address"
  | .invalidIpv6 => "invalid IPv6 address"
  | .invalidDomain => "invalid international domain name"
  | .invalidOpaque => "invalid domain character"

inductive Host where
  | domain (name : String)
  | ipv4 (number : Nat)
  /-- Eight groups of sixteen bits. -/
  | ipv6 (groups : List Nat)
deriving DecidableEq

namespace Host

/-- The text cut at every separator. -/
def splitAt (sep : Char) (cs : List Char) : List (List Char) :=
  cs.foldr (fun c parts => if c = sep then [] :: parts else parts.modifyHead (c :: ·)) [[]]

def inBase? (base : Nat) (cs : List Char) : Option Nat :=
  cs.foldlM (fun n c => (hexValue? c).bind fun d => if d < base then some (base * n + d) else none) 0

/-- A number of a numeric host: decimal, octal behind `0`, hexadecimal behind `0x`. -/
def number? : List Char → Option Nat
  | [] => none
  | ['0', 'x'] | ['0', 'X'] => some 0
  | '0' :: 'x' :: cs | '0' :: 'X' :: cs => inBase? 16 cs
  | ['0'] => some 0
  | '0' :: cs => inBase? 8 cs
  | cs => inBase? 10 cs

/-- Whether the last label of a name, a final dot aside, is a number. -/
def endsInNumber (cs : List Char) : Bool :=
  let parts := (splitAt '.' cs).reverse
  let last := match parts with
    | [] :: last :: _ => last
    | [[]] => []
    | last :: _ => last
    | [] => []
  !last.isEmpty && (last.all Char.isDigit || (number? last).isSome)

/-- A numeric host of one to four numbers; the last fills the bytes that are left. -/
def ipv4? (cs : List Char) : Option Nat := do
  let parts := splitAt '.' cs
  let parts := if parts.getLast? = some [] then parts.dropLast else parts
  let numbers ← parts.mapM number?
  let last ← numbers.getLast?
  let leading := numbers.dropLast
  if 4 < numbers.length ∨ leading.any (255 < ·) ∨ Nat.pow 256 (4 - leading.length) ≤ last then none
  else some (leading.foldl (fun n d => 256 * n + d) 0 * Nat.pow 256 (4 - leading.length) + last)

/-- A group of up to four hexadecimal digits. -/
def group? (cs : List Char) : Option Nat :=
  if cs.isEmpty || 4 < cs.length then none else inBase? 16 cs

/-- The bytes of a dotted quadruple, without leading zeros. -/
def quadruple? (cs : List Char) : Option (List Nat) := do
  let bytes ← (splitAt '.' cs).mapM fun part =>
    if part.isEmpty || (1 < part.length && part.head? == some '0') then none
    else (inBase? 10 part).filter (· < 256)
  match bytes with
  | [a, b, c, d] => some [256 * a + b, 256 * c + d]
  | _ => none

/-- Groups between colons, of which the last may be a dotted quadruple. -/
def groups? (last : Bool) (cs : List Char) : Option (List Nat) :=
  if cs.isEmpty then some []
  else
    let parts := splitAt ':' cs
    let rec read : List (List Char) → Option (List Nat)
      | [] => some []
      | [part] => if last && part.contains '.' then quadruple? part else (group? part).map ([·])
      | part :: parts => do return (← group? part) :: (← read parts)
    read parts

/-- Cuts at the first pair of colons. -/
def cutAtPair : List Char → Option (List Char × List Char)
  | [] => none
  | ':' :: ':' :: cs => some ([], cs)
  | c :: cs => (cutAtPair cs).map fun (a, b) => (c :: a, b)

/-- Eight groups; a pair of colons stands for one or more groups of zeros. -/
def ipv6? (cs : List Char) : Option (List Nat) :=
  match cutAtPair cs with
  | none => (groups? true cs).filter (·.length = 8)
  | some (left, right) => do
    let a ← groups? false left
    let b ← groups? true right
    if a.length + b.length < 8 then some (a ++ List.replicate (8 - a.length - b.length) 0 ++ b) else none

/-- Characters that no registered name holds. -/
def isForbidden (c : Char) : Bool :=
  c.toNat ≤ 0x20 || c.toNat == 0x7f || "\"#%/:<>?@[\\]^\x60\x7b|\x7d".toList.contains c

/-- Adapts the step width of the encoding of names beyond ASCII. -/
def adapt (delta points : Nat) (first : Bool) : Nat :=
  let d := if first then delta / 700 else delta / 2
  let d := d + d / points
  let rec shrink (d k : Nat) : Nat → Nat
    | 0 => k + 36 * d / (d + 38)
    | fuel + 1 => if 455 < d then shrink (d / 35) (k + 36) fuel else k + 36 * d / (d + 38)
  shrink d 0 64

def baseDigit (d : Nat) : Char := if d < 26 then Char.ofNat (97 + d) else Char.ofNat (22 + d)

/-- A step width in digits of base 36. -/
def variableLength (bias q k : Nat) : Nat → List Char
  | 0 => []
  | fuel + 1 =>
    let t := if k ≤ bias then 1 else if bias + 26 ≤ k then 26 else k - bias
    if q < t then [baseDigit q]
    else baseDigit (t + (q - t) % (36 - t)) :: variableLength bias ((q - t) / (36 - t)) (k + 36) fuel

/-- The state of the encoding: least point not yet written, step width, bias, points written. -/
structure Encoding where
  next : Nat
  delta : Nat
  bias : Nat
  done : Nat
  out : List Char

/-- Writes the positions of one point. -/
def Encoding.point (basic n : Nat) (e : Encoding) (c : Nat) : Encoding :=
  if c < n then { e with delta := e.delta + 1 }
  else if c = n then
    { e with
      out := e.out ++ variableLength e.bias e.delta 36 64
      bias := adapt e.delta (e.done + 1) (e.done == basic)
      delta := 0
      done := e.done + 1 }
  else e

/-- A label with points beyond ASCII in ASCII letters. -/
def asciiLabel (label : List Char) : List Char :=
  if label.all (·.toNat < 0x80) then label
  else
    let points := label.map Char.toNat
    let basic := label.filter (·.toNat < 0x80)
    let start : Encoding :=
      ⟨128, 0, 72, basic.length, basic ++ if basic.isEmpty then [] else ['-']⟩
    let rec go (e : Encoding) : Nat → Encoding
      | 0 => e
      | fuel + 1 =>
        match (points.filter (e.next ≤ ·)).min? with
        | none => e
        | some n =>
          let e := { e with delta := e.delta + (n - e.next) * (e.done + 1) }
          let e := points.foldl (Encoding.point basic.length n) e
          go { e with next := n + 1, delta := e.delta + 1 } fuel
    "xn--".toList ++ (go start points.length).out

/-- A registered name in small ASCII letters. -/
def asciiName (name : List Char) : List Char :=
  let folded := Text.lowerAfter [] (name.filter fun c => c.toNat ≠ 0xAD)
  let dotted := folded.map fun c => if c.toNat = 0x3002 || c.toNat = 0xFF0E || c.toNat = 0xFF61 then '.' else c
  ['.'].intercalate ((splitAt '.' dotted).map asciiLabel)

/-- The host of an address in one of the known schemes. -/
def read (cs : List Char) : Except AddressError Host :=
  match cs with
  | '[' :: inner =>
    if inner.getLast? = some ']' then
      match ipv6? inner.dropLast with
      | some groups => .ok (.ipv6 groups)
      | none => .error .invalidIpv6
    else .error .invalidIpv6
  | cs =>
    match decode? cs with
    | none => .error .invalidDomain
    | some name =>
      let name := asciiName name
      if name.any isForbidden then .error .invalidDomain
      else if name.isEmpty then .error .emptyHost
      else if endsInNumber name then
        match ipv4? name with
        | some n => .ok (.ipv4 n)
        | none => .error .invalidIpv4
      else .ok (.domain (String.ofList name))

/-- The host of an address in any other scheme. -/
def readOpaque (cs : List Char) : Except AddressError Host :=
  match cs with
  | '[' :: _ => read cs
  | cs =>
    if cs.any fun c => "\x00\t\n\r #/:<>?@[\\]^|".toList.contains c then .error .invalidOpaque
    else .ok (.domain (String.ofList (encode .control cs)))

/-- The longest run of zeros among the groups, two at least: where it starts and its length. -/
def longestZeros (groups : List Nat) : Option (Nat × Nat) :=
  let runAt := fun (i : Nat) => (i, ((groups.drop i).takeWhile (· = 0)).length)
  ((List.range 8).map runAt).foldl
    (fun best run => match best with
      | some b => if b.2 < run.2 then some run else best
      | none => if 2 ≤ run.2 then some run else none) none

def hexText (n : Nat) : String := String.ofList (Nat.toDigits 16 n)

def groupsText (groups : List Nat) : String := ":".intercalate (groups.map hexText)

def print : Host → String
  | .domain name => name
  | .ipv4 n => ".".intercalate ([n / 256 / 256 / 256, n / 256 / 256 % 256, n / 256 % 256, n % 256].map Nat.repr)
  | .ipv6 groups =>
    match longestZeros groups with
    | some (start, length) =>
      "[" ++ groupsText (groups.take start) ++ "::" ++ groupsText (groups.drop (start + length)) ++ "]"
    | none => "[" ++ groupsText groups ++ "]"

end Host

end BoostFeed.Address
