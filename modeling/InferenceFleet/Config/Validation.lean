import InferenceFleet.Config.Error
import InferenceFleet.Config.Settings

/-!
# Validation of configurations

A configuration is usable if its times and bounds are not zero, its fallback can be asked, and
every list of preferred models has a member. The first rule that is broken is reported, of several
empty lists the one of the least category.
-/

namespace InferenceFleet.FleetConfig

/-- Whether a text starts like a URL that can be asked. -/
def isHttpUrl (url : String) : Bool :=
  "http://".toList.isPrefixOf url.toList || "https://".toList.isPrefixOf url.toList

/-- The first rule that the configuration breaks, in words. -/
def complaint? (c : FleetConfig) : Option String :=
  if c.monitor.interval = 0 then some "monitor.interval_secs must be greater than 0"
  else if c.monitor.probeTimeout = 0 then some "monitor.probe_timeout_secs must be greater than 0"
  else if c.monitor.maxConcurrent = 0 then
    some "monitor.max_concurrent_probes must be greater than 0"
  else if c.endpoint.port = 0 then some "local.port must be non-zero"
  else if !isHttpUrl c.fallback.url then
    some ("fallback.url must be an http(s) URL, got '" ++ c.fallback.url ++ "'")
  else if Text.isBlankText c.fallback.model then some "fallback.model must not be empty"
  else
    (c.policy.preferences.entries.find? fun b => b.2.isEmpty).map fun b =>
      "policy.preferences." ++ b.1 ++ " must list at least one model"

/-- Whether the configuration is usable. -/
def IsValid (c : FleetConfig) : Prop := c.complaint? = none

instance (c : FleetConfig) : Decidable c.IsValid :=
  inferInstanceAs (Decidable (c.complaint? = none))

/-- Checks that the configuration is usable. -/
def check (c : FleetConfig) : Except ConfigError Unit :=
  match c.complaint? with
  | some reason => .error (.invalid reason)
  | none => .ok ()

/-- A configuration that passes the check breaks no rule. -/
theorem complaint?_of_check {c : FleetConfig} (hvalid : c.check = .ok ()) :
    c.complaint? = none := by
  unfold check at hvalid
  cases hcomplaint : c.complaint? with
  | none => rfl
  | some reason =>
      rw [hcomplaint] at hvalid
      cases hvalid

end InferenceFleet.FleetConfig
