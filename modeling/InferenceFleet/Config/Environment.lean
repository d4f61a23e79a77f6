import InferenceFleet.Files.Path
import InferenceFleet.Text.Map

/-!
# Environments

The variables that a program finds, and the directory for configuration files that follows from
them: the one that `XDG_CONFIG_HOME` names if it is an absolute path, and else `.config` in the
home directory. The home directory is what `HOME` says unless that is empty, and else the one that
the host knows for the account.
-/

namespace InferenceFleet

/-- What a program finds around itself. -/
structure Environment where
  values : TextMap String
  /-- The home directory that the host knows for the account, if it knows one. -/
  accountHome : Option String

namespace Environment

/-- The value of a variable. -/
def get? (e : Environment) (name : String) : Option String := e.values.get? name

/-- The home directory. -/
def home? (e : Environment) : Option String :=
  match e.get? "HOME" with
  | some home => if home = "" then e.accountHome else some home
  | none => e.accountHome

/-- The directory for configuration files. -/
def configDirectory? (e : Environment) : Option String :=
  match (e.get? "XDG_CONFIG_HOME").filter fun path => (Path.ofText path).absolute with
  | some path => some path
  | none => e.home?.map fun home => ((Path.ofText home).extend ".config").text

/-- The path of a file of this program in the directory for configuration files. -/
def configPath? (e : Environment) (name : String) : Option String :=
  e.configDirectory?.map fun directory =>
    (((Path.ofText directory).extend "fleet-router").extend name).text

/-- The path of the configuration file unless another one is given. -/
def defaultConfigPath? (e : Environment) : Option String := e.configPath? "fleet.toml"

/-- The path of the peer file unless another one is given. -/
def defaultPeersPath? (e : Environment) : Option String := e.configPath? "peers.json"

end Environment

end InferenceFleet
