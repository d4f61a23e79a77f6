import InferenceFleet.CommandLine.Command
import InferenceFleet.Config.Loading
import InferenceFleet.Config.Overrides
import InferenceFleet.Config.Validation
import InferenceFleet.Program.Error

/-!
# The configuration of an invocation

The configuration file that the invocation names, or else the one at the usual place; then the
environment; then what the invocation says itself. Only a configuration that is valid as a whole
is used.
-/

namespace InferenceFleet.CommandLine.Invocation

/-- What an invocation says about the settings. -/
def overrides (i : Invocation) : ConfigOverrides :=
  let base : ConfigOverrides :=
    { ConfigOverrides.none with
      peersFile := i.peersFile
      mode := if i.strict then some .strict else none
      localEnabled := if i.noLocal then some false else none }
  match i.command with
  | .run intervalSecs seeds => { base with intervalSecs := intervalSecs, seeds := seeds }
  | _ => base

/-- The configuration file to look for. -/
def configPath? (i : Invocation) (e : Environment) : Option String :=
  i.config.or e.defaultConfigPath?

/-- The configuration of an invocation. -/
def settings (i : Invocation) (fs : FileSystem) (e : Environment) :
    Except Program.CommandError FleetConfig := do
  let loaded ← (FleetConfig.load fs e (i.configPath? e)).mapError .unloadable
  let config := i.overrides.applyTo loaded
  config.check.mapError .invalid
  return config

end InferenceFleet.CommandLine.Invocation
