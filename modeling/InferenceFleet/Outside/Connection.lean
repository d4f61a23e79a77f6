import InferenceFleet.Probe.Wire
import Std.Async.DNS
import Std.Async.TCP
import Std.Async.Timer

/-!
# Connections

Requests over the network. What comes back is put into the form that probes work with; how long it
took is forgotten, except that what took longer than a probe may take has no reply.
-/

namespace InferenceFleet.Outside

open Std.Async

/-- Receives until the connection is closed. -/
partial def receive (client : TCP.Socket.Client) (received : ByteArray) : Async ByteArray := do
  match ← client.recv? 65536 with
  | some bytes => receive client (received ++ bytes)
  | none => return received

/-- The address of a socket. -/
def socketAddress (ip : Std.Net.IPAddr) (port : UInt16) : Std.Net.SocketAddress :=
  match ip with
  | .v4 ip => .v4 ⟨ip, port⟩
  | .v6 ip => .v6 ⟨ip, port⟩

/-- The host of an address without the brackets that it may have. -/
def bareHost (host : String) : String :=
  String.ofList (host.toList.filter fun c => c ≠ '[' && c ≠ ']')

/-- The reply to a request for a path. -/
def fetch (a : Address) (path : String) : Async HttpReply := do
  try
    match (← DNS.getAddrInfo (bareHost a.host) "").toList with
    | [] => return .failed (.disconnected "no address for the host")
    | ip :: _ =>
        let client ← TCP.Socket.Client.mk
        client.connect (socketAddress ip a.port)
        client.send (Wire.request a path)
        return Wire.reply (← receive client .empty)
  catch e => return .failed (.disconnected e.toString)

/-- The reply to a request for a path, if it comes in time. -/
def fetchWithin (deadline : Duration) (a : Address) (path : String) : Async TimedReply := do
  let late : Async TimedReply := do
    sleep (.ofNat (deadline / Duration.ofMillis 1))
    return none
  Async.race (do return some (0, ← fetch a path)) late

/-- What an address answers, by URL. -/
def answersOf (deadline : Duration) (a : Address) : Async (List (String × TimedReply)) := do
  let capabilities ← fetchWithin deadline a "/api/capabilities"
  let models ← fetchWithin deadline a "/api/tags"
  return [(a.capabilitiesUrl, capabilities), (a.tagsUrl, models)]

/-- The transport that answers as some addresses did just now, each by a deadline. -/
def observeNetwork (addresses : List (Address × Duration)) : Async Transport := do
  let usable := addresses.filter fun (a, _) => a.isRequestable
  let answers ← Async.concurrentlyAll
    (usable.map fun (a, deadline) => answersOf deadline a).toArray
  let table : TextMap TimedReply := .ofList answers.toList.flatten
  return fun url => (table.get? url).getD none

end InferenceFleet.Outside
