import InferenceFleet.DomainName.Ascii
import InferenceFleet.Peer.Address

/-!
# Hosts of URLs

Whether the URL of an address can be requested at all. What stands between `http://` and the
path is an optional user and an `@`, a host, and an optional port. A host in brackets is an IPv6
address. Any other host is a domain name, once its percent-encoded bytes are decoded; if the last
label of its ASCII form is a number it is an IPv4 address, of up to four parts in decimal, octal or
hexadecimal.
-/

namespace InferenceFleet

namespace UrlHost

open Text (hexDigit? ofDigits pieces)

/-- The value of a part of an IPv4 address; an empty numeral after a base mark is zero. -/
def ipv4Part? (label : List Char) : Option Nat :=
  let (base, digits) := match label with
    | '0' :: 'x' :: rest | '0' :: 'X' :: rest => (16, rest)
    | '0' :: d :: rest => (8, d :: rest)
    | label => (10, label)
  if label.isEmpty then none
  else do
    let values ← digits.mapM hexDigit?
    if values.all (· < base) then some (ofDigits base 0 values) else none

/-- The labels that count: a single empty label at the end does not. -/
def countedLabels (host : List Char) : List (List Char) :=
  let all := pieces (· == '.') host
  match all.reverse with
  | [] :: rest => if rest.isEmpty then all else rest.reverse
  | _ => all

/-- Whether a host is to be read as an IPv4 address. -/
def endsInNumber (host : List Char) : Bool :=
  match (countedLabels host).getLast? with
  | some last => (!last.isEmpty && last.all Char.isDigit) || (ipv4Part? last).isSome
  | none => false

/-- Whether a host is an IPv4 address: the last part fills the bytes that the others leave. -/
def isIpv4 (host : List Char) : Bool :=
  let all := countedLabels host
  match all.mapM ipv4Part? with
  | none => false
  | some parts =>
      match parts.reverse with
      | [] => false
      | last :: front =>
          decide (parts.length ≤ 4) && front.all (· ≤ 255)
            && decide (last < Nat.pow 256 (5 - parts.length))

/-- Four decimal bytes without leading zeros, which stand for two pieces of an IPv6 address. -/
def isEmbeddedIpv4 (cs : List Char) : Bool :=
  let all := pieces (· == '.') cs
  all.length == 4 && all.all fun label =>
    !label.isEmpty && label.all Char.isDigit && (label.length == 1 || label.head? != some '0')
      && decide (label.length ≤ 3)
      && decide (ofDigits 10 0 (label.map fun c => c.toNat - '0'.toNat) ≤ 255)

/-- Whether the pieces that follow make an IPv6 address, with `pieces` read so far and
`compressed` telling whether a run of zeros was left out. -/
def ipv6Rest : Nat → Nat → Bool → List Char → Bool
  | 0, _, _, _ => false
  | fuel + 1, pieces, compressed, cs =>
      let digits := cs.takeWhile fun c => (hexDigit? c).isSome
      let rest := cs.dropWhile fun c => (hexDigit? c).isSome
      let finished (n : Nat) : Bool := compressed || n == 8
      match cs with
      | [] => finished pieces
      | ':' :: more => !compressed && decide (pieces < 8) && ipv6Rest fuel (pieces + 1) true more
      | _ =>
          if pieces ≥ 8 ∨ digits.isEmpty then false
          else
            match rest with
            | '.' :: _ => decide (pieces ≤ 6) && isEmbeddedIpv4 cs && finished (pieces + 2)
            | [] => decide (digits.length ≤ 4) && finished (pieces + 1)
            | ':' :: more =>
                decide (digits.length ≤ 4) && !more.isEmpty
                  && ipv6Rest fuel (pieces + 1) compressed more
            | _ => false

/-- Whether a list of characters is an IPv6 address. -/
def isIpv6 (cs : List Char) : Bool :=
  match cs with
  | ':' :: ':' :: rest => ipv6Rest (cs.length + 1) 1 true rest
  | ':' :: _ => false
  | cs => ipv6Rest (cs.length + 1) 0 false cs

/-- The list with its percent-encoded bytes decoded. -/
def decodeBytes : List UInt8 → List UInt8
  | 0x25 :: a :: b :: rest =>
      match hexDigit? (Char.ofNat a.toNat), hexDigit? (Char.ofNat b.toNat) with
      | some x, some y => UInt8.ofNat (x * 16 + y) :: decodeBytes rest
      | _, _ => 0x25 :: decodeBytes (a :: b :: rest)
  | byte :: rest => byte :: decodeBytes rest
  | [] => []

/-- The text with its percent-encoded bytes decoded, unless that is no text. -/
def decodePercent? (cs : List Char) : Option (List Char) :=
  if cs.contains '%' then
    (String.fromUTF8? (decodeBytes (String.ofList cs).toUTF8.toList).toByteArray).map String.toList
  else some cs

/-- Whether a list of characters is a host. -/
def isHost (cs : List Char) : Bool :=
  match cs with
  | '[' :: rest =>
      match rest.reverse with
      | ']' :: inner => isIpv6 inner.reverse
      | _ => false
  | cs =>
      match (decodePercent? cs).bind DomainName.ascii? with
      | none => false
      | some name => !name.isEmpty && (!endsInNumber name || isIpv4 name)

/-- Splits a host from what follows its first colon outside brackets. -/
def splitPort (inBrackets : Bool) : List Char → List Char × Option (List Char)
  | [] => ([], none)
  | c :: rest =>
      if c = ':' ∧ !inBrackets then ([], some rest)
      else
        let (host, port) := splitPort (if c = '[' then true else if c = ']' then false
          else inBrackets) rest
        (c :: host, port)

/-- Whether a list of characters is a port, possibly left out. -/
def isPort (cs : List Char) : Bool :=
  cs.all Char.isDigit
    && decide (ofDigits 10 0 (cs.map fun c => c.toNat - '0'.toNat) ≤ Text.maxWord16)

/-- What follows the last `@`, or everything. -/
def afterUser (cs : List Char) : List Char :=
  (cs.reverse.takeWhile (· ≠ '@')).reverse

/-- Whether a list of characters can stand between the scheme and the path of a URL. Line breaks and
tabulators are left out, and there may be more slashes before it. -/
def isAuthority (cs : List Char) : Bool :=
  let kept := cs.filter fun c => c != '\t' && c != '\n' && c != '\r'
  let rest := kept.dropWhile ['/', '\\'].contains
  let authority := rest.takeWhile fun c => !(['/', '\\', '?', '#'].contains c)
  let (host, port) := splitPort false (afterUser authority)
  isHost host && (match port with | some p => isPort p | none => true)

end UrlHost

namespace Address

/-- Whether the URL of an address can be requested. -/
def isRequestable (a : Address) : Bool :=
  UrlHost.isAuthority
    (authorityHost a.host ++ ":" ++ Text.numeral a.port.toNat).toList

end Address

end InferenceFleet
