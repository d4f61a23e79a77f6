import InferenceFleet.CommandLine.Said
import InferenceFleet.Routing.Request

/-!
# Commands

What the program can be asked to do. An invocation is a command together with the options that
every command takes.
-/

namespace InferenceFleet.CommandLine

/-- What is said about a task to be routed. -/
structure RouteOptions where
  prompt : String
  role : Option String
  category : Option String
  /-- Peers that are left out. -/
  excluded : List String
  /-- Models to use instead of the preferences of the category, if there are any. -/
  preferred : List String

namespace RouteOptions

/-- The request for a task. A role takes the place of the prompt. -/
def request (o : RouteOptions) : Request :=
  let base := match o.role with
    | some role => Request.ofRole role
    | none => Request.ofPrompt o.prompt
  { base.excluding o.excluded with
    category := o.category
    preferred := if o.preferred.isEmpty then none else some o.preferred }

end RouteOptions

/-- What the program is asked to do. -/
inductive Command
  /-- Watches over the fleet until the program is told to stop. -/
  | run (intervalSecs : Option Nat) (seeds : List Address)
  /-- Probes every peer once and shows the status of the fleet. -/
  | status
  /-- Shows the registered peers. -/
  | peers
  /-- Probes and registers a peer. -/
  | addPeer (address : Address) (name : Option String)
  /-- Removes a peer. -/
  | removePeer (id : String)
  /-- Shows where a task would run. -/
  | route (options : RouteOptions)
  /-- Probes an address and registers nothing. -/
  | probe (address : Address) (timeoutSecs : Option Nat)

/-- A command, with the options that every command takes. -/
structure Invocation where
  /-- The configuration file. -/
  config : Option String
  /-- The peer file, in place of the configured one. -/
  peersFile : Option String
  /-- Whether errors of selection are shown in place of the fallback. -/
  strict : Bool
  /-- Whether this node is left alone. -/
  noLocal : Bool
  /-- How much is logged. -/
  logLevel : String
  command : Command

end InferenceFleet.CommandLine
