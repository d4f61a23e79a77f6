import InferenceFleet.CommandLine.Reading
import InferenceFleet.Program.Settings
import InferenceFleet.Proofs.Config.Priority

/-!
# Addresses that a configuration hands to the monitor

Seeds come from the file and from the command line, and both read them as addresses, so every seed
is sound. The address of this node is put together from a host and a port that are set apart. The
check of a configuration looks at the port; nothing looks at the host, which may be any text of the
file or of a variable. So the monitor has sound addresses only exactly if this node is left alone or
the host of its endpoint is one that can stand in a URL.
-/

namespace InferenceFleet

/-- A text that can be the host of a sound address. -/
def Address.IsHost (host : String) : Prop :=
  host ≠ "" ∧ ∀ c ∈ host.toList, isForbidden c = false

/-- The addresses that a monitor probes beyond the registered peers. -/
def MonitorConfig.addresses (c : MonitorConfig) : List Address := c.localAddress.toList ++ c.seeds

namespace CommandLine

theorem isSound_of_address? {text : String} {a : Address} (h : address? text = some a) :
    a.IsSound := by
  unfold address? at h
  cases hparse : Address.parse text with
  | error fault =>
      rw [hparse] at h
      cases h
  | ok found =>
      rw [hparse] at h
      obtain rfl := Option.some.inj h
      exact Address.isSound_of_parse hparse

/-- A command line that can be read ends in one of the commands. -/
theorem mem_commands_of_readRoot {args : List String} {l : Level} {outer inner : Said}
    {c : CommandRule} (h : readRoot args l = .ok (outer, c, inner)) : c ∈ commands := by
  induction args generalizing l with
  | nil => cases h
  | cons s rest ih =>
      rw [readRoot] at h
      split at h
      · cases hread : l.readArgument .help rootOptions s with
        | error interruption =>
            rw [hread] at h
            cases h
        | ok l' =>
            rw [hread] at h
            exact ih h
      · split at h
        · next c' hrule =>
            cases hcommand : Level.readCommand c' rest with
            | error interruption =>
                rw [hcommand] at h
                cases h
            | ok level =>
                cases hsettle : l.settle with
                | error interruption =>
                    rw [hcommand, hsettle] at h
                    cases h
                | ok l' =>
                    rw [hcommand, hsettle] at h
                    cases h
                    exact List.mem_of_find?_eq_some hrule
        · split at h
          · cases h
          · cases hread : l.readArgument .help rootOptions s with
            | error interruption =>
                rw [hread] at h
                cases h
            | ok l' =>
                rw [hread] at h
                exact ih h

/-- The one command that gives seeds reads them as addresses. -/
theorem isSound_of_command? {c : CommandRule} {said : Said} {intervalSecs : Option Nat}
    {seeds : List Address} (hmem : c ∈ commands)
    (hcommand : c.command? said = some (.run intervalSecs seeds)) :
    ∀ seed ∈ seeds, seed.IsSound := by
  have hrun : runRule.command? said = some (.run intervalSecs seeds) := by
    simp only [commands, List.mem_cons, List.not_mem_nil, or_false] at hmem
    rcases hmem with rfl | rfl | rfl | rfl | rfl | rfl | rfl
    · exact hcommand
    all_goals
      simp [statusRule, peersRule, addPeerRule, removePeerRule, routeRule, probeRule,
        Option.bind_eq_some_iff] at hcommand
  cases hrun
  intro seed hseed
  obtain ⟨text, -, haddress⟩ := List.mem_filterMap.1 hseed
  exact isSound_of_address? haddress

theorem isSound_of_read {e : Environment} {args : List String} {i : Invocation}
    (h : read e args = .ok i) : ∀ seed ∈ i.overrides.seeds, seed.IsSound := by
  unfold read at h
  cases hroot : readRoot args (.new []) with
  | error interruption =>
      rw [hroot] at h
      cases h
  | ok found =>
      obtain ⟨outer, c, inner⟩ := found
      rw [hroot] at h
      simp only [bind, Except.bind] at h
      split at h
      · cases hcommand : c.command? (outer ++ inner) with
        | none =>
            rw [hcommand] at h
            cases h
        | some command =>
            rw [hcommand] at h
            cases h
            cases command with
            | run intervalSecs seeds =>
                exact isSound_of_command? (mem_commands_of_readRoot hroot) hcommand
            | _ => exact fun seed hseed => absurd hseed List.not_mem_nil
      · cases h

/-- What an invocation runs with is what was loaded, with its overrides, and passed the check. -/
theorem Invocation.settings_eq_ok_iff {i : Invocation} {fs : FileSystem} {e : Environment}
    {c : FleetConfig} :
    i.settings fs e = .ok c ↔
      ∃ loaded, FleetConfig.load fs e (i.configPath? e) = .ok loaded ∧
        c = i.overrides.applyTo loaded ∧ c.check = .ok () := by
  unfold Invocation.settings
  cases FleetConfig.load fs e (i.configPath? e) with
  | error fault => simp [Except.mapError, bind, Except.bind]
  | ok loaded =>
      cases hcheck : (i.overrides.applyTo loaded).check with
      | error fault =>
          simp only [Except.mapError, bind, Except.bind, hcheck]
          constructor
          · intro hfalse
            cases hfalse
          · rintro ⟨loaded', heq, rfl, hvalid⟩
            cases heq
            rw [hcheck] at hvalid
            cases hvalid
      | ok done =>
          simp only [Except.mapError, bind, Except.bind, hcheck]
          constructor
          · intro heq
            cases heq
            exact ⟨loaded, rfl, rfl, hcheck⟩
          · rintro ⟨loaded', heq, rfl, -⟩
            cases heq
            rfl

end CommandLine

namespace FleetConfig

variable {e : Environment} {path : Option String} {document : Option ConfigDocument}
  {listed : List Address} {o : ConfigOverrides} {c : FleetConfig}

theorem isSound_of_lists (hlists : Lists document listed) : ∀ seed ∈ listed, seed.IsSound := by
  intro seed hseed
  obtain ⟨place, hplace, rfl⟩ := List.mem_iff_getElem.1 hseed
  have hlength := hlists.length_eq
  exact Address.isSound_of_parse (hlists.get (hlength ▸ hplace) hplace)

/-- Seeds of both layers are sound. -/
theorem Resolves.isSound_seeds (h : Resolves e path document listed o c)
    (hlists : Lists document listed) (hgiven : ∀ seed ∈ o.seeds, seed.IsSound) :
    ∀ seed ∈ c.seeds, seed.IsSound := by
  intro seed hseed
  rw [h.seeds, List.mem_append, List.mem_eraseDups, List.mem_filter] at hseed
  rcases hseed with hlisted | ⟨hnew, -⟩
  · exact isSound_of_lists hlists seed hlisted
  · exact hgiven seed hnew

/-- The check refuses a port of zero, wherever it comes from. -/
theorem port_ne_zero_of_check (hvalid : c.check = .ok ()) : c.endpoint.port ≠ 0 := by
  intro hzero
  have hcomplaint := complaint?_of_check hvalid
  unfold complaint? at hcomplaint
  iterate 3
    split at hcomplaint
    · cases hcomplaint
  cases hcomplaint

theorem localAddress_monitorConfig {a : Address} (h : c.monitorConfig.localAddress = some a) :
    a = c.endpoint.address := by
  unfold monitorConfig at h
  cases henabled : c.localEnabled with
  | true =>
      rw [henabled] at h
      exact (Option.some.inj h).symm
  | false =>
      rw [henabled] at h
      cases h

theorem mem_addresses_monitorConfig {a : Address} :
    a ∈ c.monitorConfig.addresses ↔
      (c.localEnabled = true ∧ a = c.endpoint.address) ∨ a ∈ c.seeds := by
  unfold MonitorConfig.addresses monitorConfig
  cases c.localEnabled <;> simp

/-- With sound seeds and a port that is not zero, it is the host of this node that decides. -/
theorem forall_isSound_addresses_iff (hvalid : c.check = .ok ())
    (hseeds : ∀ seed ∈ c.seeds, seed.IsSound) :
    (∀ a ∈ c.monitorConfig.addresses, a.IsSound) ↔
      c.localEnabled = false ∨ Address.IsHost c.endpoint.host := by
  have hport : c.endpoint.address.port ≠ 0 := port_ne_zero_of_check hvalid
  have hlocal : c.endpoint.address.IsSound ↔ Address.IsHost c.endpoint.host := by
    rw [Address.isSound_iff]
    constructor
    · rintro ⟨hhost, hfree, -⟩
      exact ⟨hhost, hfree⟩
    · rintro ⟨hhost, hfree⟩
      exact ⟨hhost, hfree, hport⟩
  simp only [mem_addresses_monitorConfig]
  cases henabled : c.localEnabled with
  | false =>
      constructor
      · intro _
        exact .inl rfl
      · rintro - a (⟨hfalse, -⟩ | hmem)
        · cases hfalse
        · exact hseeds a hmem
  | true =>
      constructor
      · intro hall
        exact .inr (hlocal.1 (hall _ (.inl ⟨rfl, rfl⟩)))
      · rintro (hfalse | hhost) a (⟨-, rfl⟩ | hmem)
        · cases hfalse
        · cases hfalse
        · exact hlocal.2 hhost
        · exact hseeds a hmem

/-- The configuration that a command line is carried out with, whatever the files, the environment
and the arguments are: all its seeds are sound, and so is the port of this node's endpoint. The
monitor is given sound addresses only exactly if this node is not probed or the host of its endpoint
is not empty and holds no blank and no slash, where that host is what the variable says, or else the
file, or else the loopback address. -/
theorem monitored_addresses_sound_iff {fs : FileSystem} {e : Environment} {args : List String}
    {i : CommandLine.Invocation} {c : FleetConfig} (hread : CommandLine.read e args = .ok i)
    (hsettings : i.settings fs e = .ok c) :
    (∀ seed ∈ c.monitorConfig.seeds, seed.IsSound) ∧
    (∀ a, c.monitorConfig.localAddress = some a → a.port ≠ 0) ∧
    ∃ document, Reads fs (i.configPath? e) document ∧
      ((∀ a ∈ c.monitorConfig.addresses, a.IsSound) ↔
        c.localEnabled = false ∨
          Address.IsHost (highest "127.0.0.1"
            [e.get? "OLLAMA_HOST", document.bind fun d => d.thisNode.host])) := by
  obtain ⟨loaded, hloaded, rfl, hvalid⟩ := CommandLine.Invocation.settings_eq_ok_iff.1 hsettings
  obtain ⟨document, listed, hreads, hlists, rfl⟩ := load_eq_ok_iff.1 hloaded
  have hresolves : Resolves e (i.configPath? e) document listed i.overrides
      (layered e (i.configPath? e) document listed i.overrides) := resolves_layered hlists
  have hseeds := hresolves.isSound_seeds hlists (CommandLine.isSound_of_read hread)
  refine ⟨hseeds, ?_, document, hreads, ?_⟩
  · intro a ha
    obtain rfl := localAddress_monitorConfig ha
    exact port_ne_zero_of_check hvalid
  · rw [← hresolves.localHost]
    exact forall_isSound_addresses_iff hvalid hseeds

/-- A setting of the configuration that a command line comes to, if it comes to one. -/
theorem exists_of_settings (fs : FileSystem) (e : Environment) (args : List String) {α : Type}
    (setting : FleetConfig → α) {x : α}
    (h : ((CommandLine.read e args).toOption.bind fun i =>
      (i.settings fs e).toOption.map setting) = some x) :
    ∃ i c, CommandLine.read e args = .ok i ∧ i.settings fs e = .ok c ∧ setting c = x := by
  cases hread : CommandLine.read e args with
  | error interruption =>
      rw [hread] at h
      cases h
  | ok i =>
      rw [hread] at h
      cases hsettings : i.settings fs e with
      | error fault =>
          simp only [Except.toOption, Option.bind_some, hsettings] at h
          cases h
      | ok c =>
          simp only [Except.toOption, Option.bind_some, hsettings] at h
          exact ⟨i, c, rfl, hsettings, Option.some.inj h⟩

/-- The variable has the last word on the host, which the file puts a blank into, and the seeds are
those of the file and of the command line. -/
theorem monitored_addresses_sound_iff_overridden :
    let fs : FileSystem :=
      ⟨.ofList [("/f.toml", .file ("[local]\nhost = \"gpu box\"\n[discovery]\n" ++
        "seeds = [\"[fd00::7]:80\"]\n").toUTF8)], []⟩
    let e : Environment := ⟨.ofList [("OLLAMA_HOST", "gpu-box")], none⟩
    ∃ i c, CommandLine.read e ["--config", "/f.toml", "run", "--seed", "10.0.0.13"] = .ok i ∧
      i.settings fs e = .ok c ∧
      c.monitorConfig.addresses =
        [⟨"gpu-box", 11434⟩, ⟨"fd00::7", 80⟩, ⟨"10.0.0.13", 11434⟩] ∧
      ∀ a ∈ c.monitorConfig.addresses, a.IsSound := by
  intro fs e
  obtain ⟨i, c, hread, hsettings, haddresses⟩ := exists_of_settings fs e
    ["--config", "/f.toml", "run", "--seed", "10.0.0.13"] (fun c => c.monitorConfig.addresses)
    (show _ = some [⟨"gpu-box", 11434⟩, ⟨"fd00::7", 80⟩, ⟨"10.0.0.13", 11434⟩] by decide +kernel)
  obtain ⟨-, -, document, -, hiff⟩ := monitored_addresses_sound_iff hread hsettings
  have hsound : (⟨"gpu-box", 11434⟩ : Address).IsSound := by decide
  obtain ⟨hempty, hclean, -⟩ := Address.isSound_iff.1 hsound
  refine ⟨i, c, hread, hsettings, haddresses, hiff.2 (.inr ?_)⟩
  rw [highest_cons, show e.get? "OLLAMA_HOST" = some "gpu-box" from by decide, Option.getD_some]
  exact ⟨hempty, hclean⟩

/-- A host with a blank passes the check and is handed to the monitor. -/
theorem unsound_address_is_monitored :
    let e : Environment := ⟨.ofList [("OLLAMA_HOST", "gpu box")], none⟩
    ∃ i c, CommandLine.read e ["status"] = .ok i ∧ i.settings ⟨.empty, []⟩ e = .ok c ∧
      c.check = .ok () ∧ c.monitorConfig.localAddress = some ⟨"gpu box", 11434⟩ ∧
      ¬ ∀ a ∈ c.monitorConfig.addresses, a.IsSound := by
  intro e
  obtain ⟨i, c, hread, hsettings, hlocal⟩ := exists_of_settings ⟨.empty, []⟩ e
    ["status"] (fun c => c.monitorConfig.localAddress)
    (show _ = some (some ⟨"gpu box", 11434⟩) by decide +kernel)
  obtain ⟨-, -, -, hvalid⟩ := CommandLine.Invocation.settings_eq_ok_iff.1 hsettings
  refine ⟨i, c, hread, hsettings, hvalid, hlocal, fun hall => ?_⟩
  have hmem : (⟨"gpu box", 11434⟩ : Address) ∈ c.monitorConfig.addresses := by
    unfold MonitorConfig.addresses
    rw [hlocal]
    exact List.mem_cons_self
  exact absurd (hall _ hmem) (by decide)

end FleetConfig

end InferenceFleet
