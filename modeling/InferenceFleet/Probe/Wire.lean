import InferenceFleet.Probe.Exchange
import InferenceFleet.Text.Lines
import InferenceFleet.Text.LowerCase

/-!
# Messages on a connection

The bytes of a request, and the reply in the bytes that come back until the connection is closed.
A reply has a line with the status, lines with headers, an empty line, and a body: in chunks, or of
the length that is announced, or up to the end. A body that ends too early is one that was cut
short; without a whole head there is no reply.
-/

namespace InferenceFleet.Wire

/-- The bytes of a request for a path, after which the connection is closed. -/
def request (a : Address) (path : String) : ByteArray :=
  ("GET " ++ path ++ " HTTP/1.1\r\nhost: " ++ Address.authorityHost a.host ++ ":"
    ++ Text.numeral a.port.toNat ++ "\r\naccept: */*\r\nconnection: close\r\n\r\n").toUTF8

/-- The bytes before the first line end, and those after it. -/
def splitLine? : List UInt8 → Option (List UInt8 × List UInt8)
  | [] => none
  | 13 :: 10 :: rest => some ([], rest)
  | b :: rest => (splitLine? rest).map fun (line, rest) => (b :: line, rest)

/-- Bytes as characters. -/
def charsOf (bytes : List UInt8) : List Char := bytes.map fun b => Char.ofNat b.toNat

/-- The lines before the first empty one, at most `fuel` of them, and the bytes after it. -/
def splitHead? : Nat → List UInt8 → Option (List (List Char) × List UInt8)
  | 0, _ => none
  | fuel + 1, bytes =>
      match splitLine? bytes with
      | none => none
      | some ([], rest) => some ([], rest)
      | some (line, rest) =>
          (splitHead? fuel rest).map fun (lines, rest) => (charsOf line :: lines, rest)

/-- The status in the first line of a head. -/
def status? (line : List Char) : Option Status :=
  let code := ((line.dropWhile (· ≠ ' ')).drop 1).takeWhile (· ≠ ' ')
  if "HTTP/".toList.isPrefixOf line then (Text.readUnsigned? 999 code).map Status.mk else none

/-- The value of a header. -/
def header? (name : String) (lines : List (List Char)) : Option String :=
  lines.findSome? fun line =>
    let key := String.ofList (line.takeWhile (· ≠ ':'))
    if Text.sameUpToAsciiCase key name then
      some (Text.trim (String.ofList ((line.dropWhile (· ≠ ':')).drop 1)))
    else none

/-- The number in the first line of a chunk. -/
def chunkSize? (line : List UInt8) : Option Nat :=
  match (charsOf line).takeWhile fun c => (Text.hexDigit? c).isSome with
  | [] => none
  | digits => (digits.mapM Text.hexDigit?).map (Text.ofDigits 16 0)

/-- The body in chunks, at most `fuel` of them. -/
def chunks? : Nat → List UInt8 → Option (List UInt8)
  | 0, _ => none
  | fuel + 1, bytes =>
      match splitLine? bytes with
      | none => none
      | some (line, rest) =>
          match chunkSize? line with
          | none => none
          | some 0 => some []
          | some size =>
              if rest.length < size + 2 then none
              else (chunks? fuel (rest.drop (size + 2))).map (rest.take size ++ ·)

/-- The body after a head. -/
def body? (head : List (List Char)) (bytes : List UInt8) : Option (List UInt8) :=
  if (header? "transfer-encoding" head).any (Text.sameUpToAsciiCase "chunked") then
    chunks? (bytes.length + 1) bytes
  else
    match (header? "content-length" head).bind (Text.readNat? Text.maxWord64) with
    | none => some bytes
    | some size => if bytes.length < size then none else some (bytes.take size)

/-- The reply in the bytes that came back. -/
def reply (received : ByteArray) : HttpReply :=
  let bytes := received.toList
  match splitHead? (bytes.length + 1) bytes with
  | some (first :: head, rest) =>
      match status? first with
      | none => .failed (.disconnected "invalid HTTP version parsed")
      | some status =>
          .answered status
            (match body? head rest with
            | some body => .ok ⟨body.toArray⟩
            | none => .error "error decoding response body")
  | _ => .failed (.disconnected "connection closed before message completed")

end InferenceFleet.Wire
