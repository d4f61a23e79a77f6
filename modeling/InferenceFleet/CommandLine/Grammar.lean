import InferenceFleet.CommandLine.Command

/-!
# The grammar of the command line

Which options there are, which commands, and what each command takes. The shared options may stand
before a command and after it.
-/

namespace InferenceFleet.CommandLine

/-- What an option is for. -/
inductive OptionEffect
  /-- Says something by being there. -/
  | flag (field : Field)
  /-- Says what its value says. -/
  | value (field : Field) (placeholder : String)
  | help
  | version

/-- An option, which goes by a word and possibly by a letter. -/
structure OptionRule where
  long : String
  short : Option Char
  effect : OptionEffect
  about : String
  /-- The variable that is looked at if the option is not given. -/
  envName : Option String
  /-- What holds if nothing else is said. -/
  fallbackValue : Option String

/-- A parameter, which is known by its place. -/
structure ParameterRule where
  field : Field
  placeholder : String
  isRequired : Bool
  about : String
  /-- What holds if nothing is said. -/
  fallbackValue : Option String

/-- A command: what it takes besides the shared options, and what it is once that was said. -/
structure CommandRule where
  name : String
  about : String
  options : List OptionRule
  parameters : List ParameterRule
  command? : Said → Option Command

namespace OptionRule

/-- An option with a value. -/
def ofValue (long : String) (short : Option Char) (field : Field) (placeholder about : String) :
    OptionRule :=
  ⟨long, short, .value field placeholder, about, none, none⟩

/-- An option without a value. -/
def ofFlag (long : String) (field : Field) (about : String) : OptionRule :=
  ⟨long, none, .flag field, about, none, none⟩

/-- The field of an option with a value. -/
def valueField? (o : OptionRule) : Option Field :=
  match o.effect with
  | .value field _ => some field
  | _ => none

end OptionRule

/-- The variable that gives the configuration file. -/
def configVariable : String := "FLEET_CONFIG"

/-- The variable that gives the log level. -/
def logLevelVariable : String := "FLEET_LOG_LEVEL"

/-- The log level unless one is given. -/
def defaultLogLevel : String := "info"

/-- The options that every command takes. -/
def sharedOptions : List OptionRule :=
  [{ OptionRule.ofValue "config" 'c' .config "FILE" "Configuration file path" with
      envName := configVariable },
    .ofValue "peers-file" 'p' .peersFile "FILE" "Peer file path (overrides the config file)",
    .ofFlag "strict" .strict
      "Surface selection errors instead of falling back to the local endpoint",
    .ofFlag "no-local" .noLocal "Do not probe or select the local node",
    { OptionRule.ofValue "log-level" 'l' .logLevel "LOG_LEVEL"
        "Log level (trace, debug, info, warn, error)" with
      envName := logLevelVariable
      fallbackValue := defaultLogLevel }]

/-- The option that asks for help. -/
def helpOption : OptionRule := ⟨"help", 'h', .help, "Print help", none, none⟩

/-- The option that asks for the version. -/
def versionOption : OptionRule := ⟨"version", 'V', .version, "Print version", none, none⟩

/-- The options before a command. -/
def rootOptions : List OptionRule := sharedOptions ++ [helpOption, versionOption]

/-- The options after a command. -/
def CommandRule.allOptions (c : CommandRule) : List OptionRule :=
  c.options ++ sharedOptions ++ [helpOption]

/-- Watches over the fleet. -/
def runRule : CommandRule :=
  { name := "run"
    about := "Run the health monitor until interrupted"
    options :=
      [.ofValue "interval" 'i' .interval "SECS" "Seconds between health cycles",
        .ofValue "seed" 's' .seed "ADDR"
          "Candidate peer address (\x60host\x60 or \x60host:port\x60), repeatable"]
    parameters := []
    command? := fun s => some (.run ((s.text? .interval).bind seconds?)
      ((s.texts .seed).filterMap address?)) }

/-- Shows the status of the fleet. -/
def statusRule : CommandRule :=
  { name := "status"
    about := "Probe every peer once and print the fleet status as JSON"
    options := []
    parameters := []
    command? := fun _ => some .status }

/-- Shows the registered peers. -/
def peersRule : CommandRule :=
  { name := "peers"
    about := "List registered peers as JSON"
    options := []
    parameters := []
    command? := fun _ => some .peers }

/-- Registers a peer. -/
def addPeerRule : CommandRule :=
  { name := "add-peer"
    about := "Probe and register a peer"
    options :=
      [{ OptionRule.ofValue "port" none .port "PORT" "Model-serving port" with
          fallbackValue := Text.numeral defaultPort.toNat },
        .ofValue "name" 'n' .name "NAME" "Peer name (defaults to the IP)"]
    parameters := [⟨.host, "IP", true, "IP address or hostname", none⟩]
    command? := fun s => (s.text? .host).map fun host =>
      .addPeer ⟨host, ((s.text? .port).bind port?).getD defaultPort⟩ (s.text? .name) }

/-- Removes a peer. -/
def removePeerRule : CommandRule :=
  { name := "remove-peer"
    about := "Remove a peer by id"
    options := []
    parameters := [⟨.id, "ID", true, "Peer id", none⟩]
    command? := fun s => (s.text? .id).map .removePeer }

/-- Shows where a task would run. -/
def routeRule : CommandRule :=
  { name := "route"
    about := "Print the endpoint a task would be routed to"
    options :=
      [.ofValue "role" none .role "ROLE" "Route for an agent role instead of the prompt",
        .ofValue "category" none .category "CATEGORY" "Force a task category",
        .ofValue "exclude" 'x' .exclude "PEER" "Peer id to skip, repeatable",
        .ofValue "prefer" none .prefer "MODEL"
          "Preferred model replacing the category list, repeatable"]
    parameters := [⟨.prompt, "PROMPT", false, "Task prompt used for keyword classification", ""⟩]
    command? := fun s => some (.route
      { prompt := (s.text? .prompt).getD ""
        role := s.text? .role
        category := s.text? .category
        excluded := s.texts .exclude
        preferred := s.texts .prefer }) }

/-- Probes an address. -/
def probeRule : CommandRule :=
  { name := "probe"
    about := "Probe a single address without registering it"
    options := [.ofValue "timeout" none .timeout "SECS" "Probe deadline in seconds"]
    parameters := [⟨.address, "ADDR", true, "Address (\x60host\x60 or \x60host:port\x60)", none⟩]
    command? := fun s => ((s.text? .address).bind address?).map fun address =>
      .probe address ((s.text? .timeout).bind seconds?) }

/-- The commands. -/
def commands : List CommandRule :=
  [runRule, statusRule, peersRule, addPeerRule, removePeerRule, routeRule, probeRule]

/-- The command of a name. -/
def commandRule? (name : String) : Option CommandRule := commands.find? fun c => c.name = name

/-- The word that asks for help in place of a command. -/
def helpCommand : String := "help"

end InferenceFleet.CommandLine
