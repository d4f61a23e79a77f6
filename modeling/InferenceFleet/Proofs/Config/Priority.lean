import InferenceFleet.Config.Loading
import InferenceFleet.Config.Overrides
import Mathlib.Data.List.Forall2

/-!
# Which layer a setting comes from

A setting can be given by the command line, by a variable, by the configuration file, or by none of
them, and not every layer can give every setting. What is resolved has, setting by setting, the
value of the highest layer that gives one (`Resolves`). Main statement: loading a configuration and
laying overrides over it comes to a configuration exactly if the file is not there, or can be read
and lists seeds that are addresses, and the configuration is what these layers resolve to.

Seeds are not replaced but added to, and the policy is the file's alone. Overrides that are laid
over a second time change nothing.
-/

namespace InferenceFleet

/-- The first of some layers that says something, the highest being first; else the default. -/
def highest {α : Type} (default : α) (layers : List (Option α)) : α :=
  (layers.findSome? id).getD default

@[simp]
theorem highest_nil {α : Type} (default : α) : highest default [] = default := rfl

@[simp]
theorem highest_cons {α : Type} (default : α) (layer : Option α) (layers : List (Option α)) :
    highest default (layer :: layers) = layer.getD (highest default layers) := by
  cases layer <;> rfl

namespace ConfigOverrides

/-- Seeds are added at the end, each new one once and in the order given. -/
theorem foldl_addSeed (listed added : List Address) :
    added.foldl addSeed listed = listed ++ (added.filter (· ∉ listed)).eraseDups := by
  induction added generalizing listed with
  | nil => simp
  | cons seed rest ih =>
      rw [List.foldl_cons, ih, addSeed]
      by_cases hlisted : seed ∈ listed
      · rw [if_pos (List.contains_iff_mem.2 hlisted),
          List.filter_cons_of_neg (by simpa using hlisted)]
      · have hrest : rest.filter (· ∉ listed ++ [seed]) =
            (rest.filter (· ∉ listed)).filter (fun other => !other == seed) := by
          rw [List.filter_filter]
          refine List.filter_congr fun other _ => ?_
          rw [Bool.eq_iff_iff]
          simp [not_or, and_comm]
        rw [if_neg (by simpa using hlisted), List.filter_cons_of_pos (by simpa using hlisted),
          List.eraseDups_cons, hrest, List.append_assoc, List.singleton_append]

theorem mem_foldl_addSeed {seeds added : List Address} {seed : Address} (hseed : seed ∈ added) :
    seed ∈ added.foldl addSeed seeds := by
  rw [foldl_addSeed, List.mem_append, List.mem_eraseDups, List.mem_filter]
  by_cases hthere : seed ∈ seeds
  · exact .inl hthere
  · exact .inr ⟨hseed, by simpa using hthere⟩

/-- Seeds that are there already are not added again. -/
theorem foldl_addSeed_of_subset {seeds added : List Address} (h : ∀ seed ∈ added, seed ∈ seeds) :
    added.foldl addSeed seeds = seeds := by
  have hnew : added.filter (· ∉ seeds) = [] :=
    List.filter_eq_nil_iff.2 fun seed hseed => by simpa using h seed hseed
  rw [foldl_addSeed, hnew, List.eraseDups_nil, List.append_nil]

/-- Whether a command line says anything about the settings or gives a seed. -/
def saysAnything (o : ConfigOverrides) : Bool :=
  o.peersFile.isSome || o.intervalSecs.isSome || o.probeTimeoutSecs.isSome || o.mode.isSome ||
    o.localEnabled.isSome || !o.seeds.isEmpty

theorem isEmpty_eq (o : ConfigOverrides) : o.isEmpty = !o.saysAnything := by
  obtain ⟨peersFile, intervalSecs, probeTimeoutSecs, mode, localEnabled, seeds⟩ := o
  simp only [isEmpty, layer, ConfigLayer.isEmpty, ConfigLayer.empty, saysAnything]
  rw [Bool.eq_iff_iff]
  cases peersFile <;> cases intervalSecs <;> cases probeTimeoutSecs <;> cases mode <;>
    cases localEnabled <;> cases seeds <;> simp

end ConfigOverrides

namespace Environment

/-- Whether one of the variables that configure a fleet is there and can be read. -/
def saysAnything (e : Environment) : Bool :=
  (e.seconds? "FLEET_MONITOR_INTERVAL").isSome || (e.seconds? "FLEET_PROBE_TIMEOUT").isSome ||
    (e.seconds? "FLEET_STARTUP_WAIT").isSome || (e.flag? "FLEET_LOCAL_PROBE").isSome ||
    (e.get? "OLLAMA_HOST").isSome || (e.port? "OLLAMA_PORT").isSome ||
    (e.get? "FLEET_FALLBACK_URL").isSome || (e.get? "FLEET_FALLBACK_MODEL").isSome ||
    (e.get? "FLEET_PEERS_FILE").isSome || (e.mode? "FLEET_ROUTER_MODE").isSome

theorem isEmpty_layer (e : Environment) : e.layer.isEmpty = !e.saysAnything := by
  unfold layer ConfigLayer.isEmpty ConfigLayer.empty saysAnything
  rw [Bool.eq_iff_iff]
  simp [and_assoc]

end Environment

namespace ConfigLayer

/-- A layer that is laid over a configuration changes what it says something about, and the source
if it says anything. -/
theorem applyFrom_eq (source : ConfigSource) (l : ConfigLayer) (c : FleetConfig) :
    l.applyFrom source c =
      { l.applyTo c with source := if l.isEmpty then c.source else source } := by
  unfold applyFrom
  split <;> rfl

theorem getD_map_some {α : Type} (layer rest : Option α) :
    (layer.map some).getD rest = layer.or rest := by
  cases layer <;> rfl

/-- A layer that is laid over a configuration twice is there once. -/
theorem applyTo_applyTo (l : ConfigLayer) (c : FleetConfig) :
    l.applyTo (l.applyTo c) = l.applyTo c := by
  have hagain : ∀ {α : Type} (layer : Option α) (default : α),
      layer.getD (layer.getD default) = layer.getD default := by
    intro α layer default
    cases layer <;> rfl
  simp only [applyTo, hagain]
  cases l.peersFile <;> rfl

end ConfigLayer

namespace ConfigOverrides

/-- Overrides that are laid over a configuration twice are there once. -/
theorem applyTo_applyTo (o : ConfigOverrides) (c : FleetConfig) :
    o.applyTo (o.applyTo c) = o.applyTo c := by
  have hsource : ∀ source : ConfigSource,
      (if o.isEmpty then (if o.isEmpty then source else .commandLine) else .commandLine) =
        if o.isEmpty then source else .commandLine := by
    intro source
    cases o.isEmpty <;> rfl
  calc o.applyTo (o.applyTo c)
      = { o.layer.applyTo (o.layer.applyTo c) with
          seeds :=
            o.seeds.foldl addSeed (o.seeds.foldl addSeed c.seeds)
          source :=
            if o.isEmpty then (if o.isEmpty then c.source else .commandLine)
            else .commandLine } := rfl
    _ = o.applyTo c := by
        rw [ConfigLayer.applyTo_applyTo, foldl_addSeed_of_subset fun _ => mem_foldl_addSeed,
          hsource]
        rfl

end ConfigOverrides

namespace FileSystem

theorem holds_of_readText {fs : FileSystem} {p : Path} {text : String}
    (htext : fs.readText p = .ok text) : fs.holds p = true := by
  unfold readText read at htext
  unfold holds
  cases hfind : fs.find p with
  | error fault =>
      rw [hfind] at htext
      cases htext
  | ok entry => rfl

end FileSystem

namespace FleetConfig

/-- What is read at a path: nothing if no path is given or nothing is there, and else what the text
that is there stands for. -/
inductive Reads (fs : FileSystem) : Option String → Option ConfigDocument → Prop
  | unnamed : Reads fs none none
  | missing {path : String} (hmissing : fs.holds (.ofText path) = false) : Reads fs (some path) none
  | document {path text : String} {d : ConfigDocument}
      (htext : fs.readText (.ofText path) = .ok text) (hread : ConfigDocument.read? text = some d) :
      Reads fs (some path) (some d)

/-- The seeds that a file lists, as addresses. -/
def Lists (document : Option ConfigDocument) (seeds : List Address) : Prop :=
  List.Forall₂ (fun text seed => Address.parse text = .ok seed)
    ((document.bind fun d => d.discovery.seeds).getD []) seeds

/-- A configuration has, setting by setting, the value of the highest layer that gives one, where
each setting names the layers that can give it. A variable that cannot be read gives none. -/
structure Resolves (e : Environment) (path : Option String) (document : Option ConfigDocument)
    (listed : List Address) (o : ConfigOverrides) (c : FleetConfig) : Prop where
  interval : c.monitor.interval = highest (.ofSeconds 30)
    [o.intervalSecs.map .ofSeconds, e.seconds? "FLEET_MONITOR_INTERVAL",
      document.bind fun d => d.monitor.intervalSecs.map .ofSeconds]
  probeTimeout : c.monitor.probeTimeout = highest (.ofSeconds 5)
    [o.probeTimeoutSecs.map .ofSeconds, e.seconds? "FLEET_PROBE_TIMEOUT",
      document.bind fun d => d.monitor.probeTimeoutSecs.map .ofSeconds]
  startupWait : c.monitor.startupWait = highest (.ofSeconds 5)
    [e.seconds? "FLEET_STARTUP_WAIT",
      document.bind fun d => d.monitor.startupWaitSecs.map .ofSeconds]
  errorSpan : c.monitor.errorSpan = highest (.ofSeconds 300)
    [document.bind fun d => d.monitor.errorWindowSecs.map .ofSeconds]
  maxConcurrent : c.monitor.maxConcurrent = highest 16
    [document.bind fun d => d.monitor.maxConcurrentProbes]
  localEnabled : c.localEnabled = highest true
    [o.localEnabled, e.flag? "FLEET_LOCAL_PROBE", document.bind fun d => d.thisNode.enabled]
  localHost : c.endpoint.host = highest "127.0.0.1"
    [e.get? "OLLAMA_HOST", document.bind fun d => d.thisNode.host]
  localPort : c.endpoint.port = highest 11434
    [e.port? "OLLAMA_PORT", document.bind fun d => d.thisNode.port]
  localTimeout : c.endpoint.timeout = .ofSeconds 5
  fallbackUrl : c.fallback.url = highest "http://127.0.0.1:11434"
    [e.get? "FLEET_FALLBACK_URL", document.bind fun d => d.fallback.url]
  fallbackModel : c.fallback.model = highest "llama3.1:8b"
    [e.get? "FLEET_FALLBACK_MODEL", document.bind fun d => d.fallback.model]
  peersFile : c.peersFile = highest e.defaultPeersPath?
    [o.peersFile.map some, (e.get? "FLEET_PEERS_FILE").map some,
      document.bind fun d => d.discovery.peersFile.map some]
  mode : c.mode = highest .resilient
    [o.mode, e.mode? "FLEET_ROUTER_MODE", document.bind fun d => d.router.mode]
  policy : c.policy = highest .none [document.map fun d => d.policy]
  seeds : c.seeds = listed ++ (o.seeds.filter (· ∉ listed)).eraseDups
  source : c.source =
    if o.saysAnything then .commandLine
    else if e.saysAnything then .environment
    else if document.isSome then .file
    else .builtin
  configFile : c.configFile = document.bind fun _ => path
  /-- What the monitor is given beyond its times and bounds is derived later. -/
  derived : c.monitor.localAddress = none ∧ c.monitor.seeds = [] ∧ c.monitor.peersFile = none

/-- The built-in configuration with what was read of a file over it. -/
def filed (e : Environment) (path : Option String) (document : Option ConfigDocument)
    (listed : List Address) : FleetConfig :=
  match document with
  | none => builtin e
  | some d =>
      { d.layer.applyTo (builtin e) with
        seeds := listed, policy := d.policy, configFile := path, source := .file }

/-- All layers together. -/
def layered (e : Environment) (path : Option String) (document : Option ConfigDocument)
    (listed : List Address) (o : ConfigOverrides) : FleetConfig :=
  o.applyTo (e.layer.applyFrom .environment (filed e path document listed))

variable {e : Environment} {path : Option String} {document : Option ConfigDocument}
  {listed : List Address} {o : ConfigOverrides} {c : FleetConfig}

/-- The overrides and the environment over what was read of a file. -/
theorem layered_eq (e : Environment) (path : Option String) (document : Option ConfigDocument)
    (listed : List Address) (o : ConfigOverrides) :
    layered e path document listed o =
      { o.layer.applyTo (e.layer.applyTo (filed e path document listed)) with
        seeds := o.seeds.foldl ConfigOverrides.addSeed (filed e path document listed).seeds
        source :=
          if o.saysAnything then .commandLine
          else if e.saysAnything then .environment
          else (filed e path document listed).source } := by
  rw [layered, ConfigOverrides.applyTo, ConfigLayer.applyFrom_eq, o.isEmpty_eq, e.isEmpty_layer]
  cases o.saysAnything <;> cases e.saysAnything <;> rfl

theorem resolves_layered (hlisted : Lists document listed) :
    Resolves e path document listed o (layered e path document listed o) := by
  rw [layered_eq]
  constructor
  case seeds =>
    rw [ConfigOverrides.foldl_addSeed]
    cases document with
    | none =>
      cases hlisted
      rfl
    | some d => rfl
  case policy => cases document <;> rfl
  case derived => cases document <;> exact ⟨rfl, rfl, rfl⟩
  case configFile => cases document <;> rfl
  case localTimeout => cases document <;> rfl
  case source => cases document <;> rfl
  case peersFile =>
    simp only [highest_cons, highest_nil, ConfigLayer.getD_map_some, ConfigLayer.applyTo]
    cases document with
    | none => rfl
    | some d => exact congrArg _ (congrArg _ (ConfigLayer.getD_map_some _ _).symm)
  all_goals
    simp only [highest_cons, highest_nil, ConfigLayer.applyTo, ConfigOverrides.layer,
      Environment.layer, ConfigLayer.empty, Option.getD_none]
    cases document with
    | none => rfl
    | some d => rfl

attribute [local ext] FleetConfig MonitorConfig LocalEndpoint Fallback

/-- There is one configuration that some layers resolve to. -/
theorem Resolves.unique {c' : FleetConfig} (h : Resolves e path document listed o c)
    (h' : Resolves e path document listed o c') : c = c' := by
  apply FleetConfig.ext
  case monitor =>
    apply MonitorConfig.ext
    case interval => exact h.interval.trans h'.interval.symm
    case probeTimeout => exact h.probeTimeout.trans h'.probeTimeout.symm
    case startupWait => exact h.startupWait.trans h'.startupWait.symm
    case errorSpan => exact h.errorSpan.trans h'.errorSpan.symm
    case maxConcurrent => exact h.maxConcurrent.trans h'.maxConcurrent.symm
    case localAddress => exact h.derived.1.trans h'.derived.1.symm
    case seeds => exact h.derived.2.1.trans h'.derived.2.1.symm
    case peersFile => exact h.derived.2.2.trans h'.derived.2.2.symm
  case localEnabled => exact h.localEnabled.trans h'.localEnabled.symm
  case endpoint =>
    apply LocalEndpoint.ext
    case host => exact h.localHost.trans h'.localHost.symm
    case port => exact h.localPort.trans h'.localPort.symm
    case timeout => exact h.localTimeout.trans h'.localTimeout.symm
  case fallback =>
    apply Fallback.ext
    case url => exact h.fallbackUrl.trans h'.fallbackUrl.symm
    case model => exact h.fallbackModel.trans h'.fallbackModel.symm
  case mode => exact h.mode.trans h'.mode.symm
  case peersFile => exact h.peersFile.trans h'.peersFile.symm
  case seeds => exact h.seeds.trans h'.seeds.symm
  case policy => exact h.policy.trans h'.policy.symm
  case configFile => exact h.configFile.trans h'.configFile.symm
  case source => exact h.source.trans h'.source.symm

/-! ## What loads -/

/-- Reading every one of some texts succeeds if each of them can be read. -/
theorem mapM_seed_eq_ok_iff {texts : List String} {seeds : List Address} :
    texts.mapM ConfigDocument.seed = .ok seeds ↔
      List.Forall₂ (fun text seed => Address.parse text = .ok seed) texts seeds := by
  induction texts generalizing seeds with
  | nil => cases seeds <;> simp [pure, Except.pure]
  | cons text rest ih =>
      rw [List.mapM_cons]
      cases hparse : Address.parse text with
      | error fault =>
          cases seeds <;> simp [ConfigDocument.seed, hparse, bind, Except.bind, Except.mapError]
      | ok seed =>
          cases hrest : rest.mapM ConfigDocument.seed with
          | error fault =>
              cases seeds <;>
                simp [ConfigDocument.seed, hparse, hrest, bind, Except.bind, Except.mapError, ← ih]
          | ok found =>
              cases seeds <;>
                simp [ConfigDocument.seed, hparse, hrest, bind, Except.bind, Except.mapError, pure,
                  Except.pure, ← ih]

theorem seeds_eq_ok_iff {d : ConfigDocument} {seeds : List Address} :
    (∃ found, d.seeds = .ok found ∧ found.getD [] = seeds) ↔ Lists (some d) seeds := by
  unfold ConfigDocument.seeds Lists
  rw [Option.bind_some]
  cases d.discovery.seeds with
  | none => simp [eq_comm]
  | some texts =>
      rw [Option.getD_some, ← mapM_seed_eq_ok_iff]
      dsimp only
      cases texts.mapM ConfigDocument.seed with
      | error fault => simp [Except.map]
      | ok found => simp [Except.map]

theorem applyTo_builtin_eq_ok_iff {d : ConfigDocument} {path : String} {c : FleetConfig} :
    d.applyTo path (builtin e) = .ok c ↔
      ∃ seeds, Lists (some d) seeds ∧ c = filed e (some path) (some d) seeds := by
  simp only [← seeds_eq_ok_iff]
  unfold ConfigDocument.applyTo
  cases d.seeds with
  | error fault => simp
  | ok found =>
      have hnone : (builtin e).seeds = [] := rfl
      simp [filed, hnone, eq_comm]

/-- The file at a path is laid over the built-in configuration exactly if it is not there, or can be
read with all its seeds. -/
theorem withFile_eq_ok_iff {fs : FileSystem} {path : String} :
    (builtin e).withFile fs path = .ok c ↔
      ∃ document listed, Reads fs (some path) document ∧ Lists document listed ∧
        c = filed e (some path) document listed := by
  unfold withFile
  cases hholds : fs.holds (.ofText path) with
  | false =>
      constructor
      · intro hloaded
        cases hloaded
        exact ⟨none, [], .missing hholds, .nil, rfl⟩
      · rintro ⟨document, listed, hreads, -, rfl⟩
        cases hreads with
        | missing => rfl
        | document htext _ =>
            rw [FileSystem.holds_of_readText htext] at hholds
            cases hholds
  | true =>
      constructor
      · intro hloaded
        cases htext : fs.readText (.ofText path) with
        | error fault =>
            rw [htext] at hloaded
            cases hloaded
        | ok text =>
            cases hread : ConfigDocument.read? text with
            | none =>
                rw [htext] at hloaded
                simp only [hread] at hloaded
                cases hloaded
            | some d =>
                rw [htext] at hloaded
                simp only [hread] at hloaded
                obtain ⟨listed, hlists, rfl⟩ := applyTo_builtin_eq_ok_iff.1 hloaded
                exact ⟨some d, listed, .document htext hread, hlists, rfl⟩
      · rintro ⟨document, listed, hreads, hlists, rfl⟩
        cases hreads with
        | missing hmissing =>
            rw [hmissing] at hholds
            cases hholds
        | document htext hread =>
            rw [htext]
            simp only [hread]
            exact applyTo_builtin_eq_ok_iff.2 ⟨listed, hlists, rfl⟩

/-- What is loaded is the environment over what was read at the path. -/
theorem load_eq_ok_iff {fs : FileSystem} :
    load fs e path = .ok c ↔
      ∃ document listed, Reads fs path document ∧ Lists document listed ∧
        c = e.layer.applyFrom .environment (filed e path document listed) := by
  cases path with
  | none =>
      constructor
      · intro hloaded
        cases hloaded
        exact ⟨none, [], .unnamed, .nil, rfl⟩
      · rintro ⟨document, listed, hreads, -, rfl⟩
        cases hreads
        rfl
  | some path =>
      have hmap : load fs e (some path) = .ok c ↔
          ∃ c', (builtin e).withFile fs path = .ok c' ∧ c = e.layer.applyFrom .environment c' := by
        simp only [load]
        cases (builtin e).withFile fs path with
        | error fault => simp [Except.map]
        | ok c' => simp [Except.map, eq_comm]
      rw [hmap]
      simp only [withFile_eq_ok_iff]
      constructor
      · rintro ⟨c', ⟨document, listed, hreads, hlists, rfl⟩, rfl⟩
        exact ⟨document, listed, hreads, hlists, rfl⟩
      · rintro ⟨document, listed, hreads, hlists, rfl⟩
        exact ⟨_, ⟨document, listed, hreads, hlists, rfl⟩, rfl⟩

/-- Loading a configuration and laying overrides over it comes to a configuration exactly if nothing
stands at the path, or what stands there can be read and lists seeds that are addresses, and the
configuration has the value of the highest layer for every setting. Laying the overrides over it
once more changes nothing. -/
theorem settings_resolve_by_priority (fs : FileSystem) (e : Environment) (path : Option String)
    (o : ConfigOverrides) :
    (∀ c, (load fs e path).map o.applyTo = .ok c ↔
      ∃ document listed, Reads fs path document ∧ Lists document listed ∧
        Resolves e path document listed o c) ∧
    ∀ c, o.applyTo (o.applyTo c) = o.applyTo c := by
  refine ⟨fun c => ?_, o.applyTo_applyTo⟩
  have hmap : (load fs e path).map o.applyTo = .ok c ↔
      ∃ c', load fs e path = .ok c' ∧ c = o.applyTo c' := by
    cases load fs e path with
    | error fault => simp [Except.map]
    | ok c' => simp [Except.map, eq_comm]
  rw [hmap]
  simp only [load_eq_ok_iff]
  constructor
  · rintro ⟨c', ⟨document, listed, hreads, hlists, rfl⟩, rfl⟩
    exact ⟨document, listed, hreads, hlists, resolves_layered hlists⟩
  · rintro ⟨document, listed, hreads, hlists, hresolves⟩
    exact ⟨_, ⟨document, listed, hreads, hlists, rfl⟩,
      hresolves.unique (resolves_layered hlists)⟩

/-- One setting for each layer: the interval is said by all, the deadline by the file and by a
variable that cannot be read, the bound by the file alone. One of the seeds is there already, and
another one is given twice. -/
example :
    let fs : FileSystem :=
      ⟨.ofList [("/f.toml", .file ("[monitor]\ninterval_secs = 7\nprobe_timeout_secs = 8\n" ++
        "max_concurrent_probes = 3\n[discovery]\nseeds = [\"a:1\", \"b\"]\n").toUTF8)], []⟩
    let e : Environment :=
      ⟨.ofList [("FLEET_MONITOR_INTERVAL", "9"), ("FLEET_PROBE_TIMEOUT", "soon")], none⟩
    let o : ConfigOverrides :=
      { ConfigOverrides.none with
        intervalSecs := some 10, seeds := [⟨"b", 11434⟩, ⟨"c", 1⟩, ⟨"c", 1⟩] }
    (((load fs e (some "/f.toml")).map o.applyTo).toOption.map fun c =>
        (c.monitor.interval, c.monitor.probeTimeout, c.monitor.maxConcurrent, c.seeds)) =
      some (.ofSeconds 10, .ofSeconds 8, 3, [⟨"a", 1⟩, ⟨"b", 11434⟩, ⟨"c", 1⟩]) := by
  decide +kernel

end FleetConfig

end InferenceFleet
