import InferenceFleet.Proofs.Interleaving.Landing

/-!
# What cycles leave alone

Whatever is under way beside it, a cycle makes few accesses (`CycleAccess`): it enters this node at
the configured address, notes the outcomes of probes, and enrolls configured seeds that answered. So
none of its moves takes an entry away or makes a remote peer another one, and what it puts in place
is this node or such a seed. A peer that was removed can come back late in a cycle that is under way,
but only as one of these.

What a cycle has in hand was computed from an older registry, so the moves are traced back: the
addresses that a cycle holds stem from its settings, and the answers from a batch that the run
brought (`stemsFrom_run`).
-/

namespace InferenceFleet

namespace CyclePhase

/-- What a cycle holds stems from its settings: the address of this node, the seeds that it looks
up, finds and probes. Of the seeds that it has yet to take in, those that answered did so. -/
def StemsFrom (c : MonitorConfig) (answered : Address → Capability → Prop) : CyclePhase → Prop
  | .thisNode address => c.localAddress = some address
  | .seeking _ seeds found =>
      (∀ seed ∈ seeds, seed ∈ c.seeds) ∧ ∀ target ∈ found, target.address ∈ c.seeds
  | .probingSeeds _ targets => ∀ target ∈ targets, target.address ∈ c.seeds
  | .admitting _ results =>
      ∀ result ∈ results, result.1.address ∈ c.seeds ∧
        ∀ answer, result.2 = .ok answer → answered result.1.address answer
  | _ => True

variable {c : MonitorConfig} {answered answered' : Address → Capability → Prop}
  {phase : CyclePhase}

theorem stemsFrom_first (c : MonitorConfig) (answered : Address → Capability → Prop) :
    (first c).StemsFrom c answered := by
  unfold first
  cases haddress : c.localAddress with
  | none => trivial
  | some address => exact haddress

theorem StemsFrom.mono (h : phase.StemsFrom c answered)
    (hanswered : ∀ address answer, answered address answer → answered' address answer) :
    phase.StemsFrom c answered' := by
  cases phase with
  | admitting report results =>
      exact fun result hresult =>
        ⟨(h result hresult).1, fun answer hok => hanswered _ _ ((h result hresult).2 answer hok)⟩
  | thisNode address => exact h
  | seeking report seeds found => exact h
  | probingSeeds report targets => exact h
  | reading report => trivial
  | probing report targets => trivial
  | applying report results => trivial
  | finished report => trivial

/-- The next step of a cycle, if what a batch of seeds brings counts as answered. -/
theorem StemsFrom.advance (h : phase.StemsFrom c answered) (f : Fleet) {arrival : Arrival}
    (hbrought : ∀ report targets results, phase = .probingSeeds report targets →
      arrival = .outcomes results → matchesTargets targets results = true →
      ∀ target answer, (target, .ok answer) ∈ results → answered target.address answer) :
    (phase.advance c f arrival).2.StemsFrom c answered := by
  cases phase with
  | thisNode address =>
      cases arrival with
      | thisNode answer => trivial
      | nothing => exact h
      | outcome o => exact h
      | outcomes results => exact h
  | reading report => trivial
  | probing report targets =>
      cases arrival with
      | outcomes results =>
          simp only [CyclePhase.advance]
          split <;> trivial
      | nothing => trivial
      | thisNode answer => trivial
      | outcome o => trivial
  | applying report results =>
      cases results with
      | nil => exact ⟨fun seed hseed => hseed, fun target hnone => absurd hnone List.not_mem_nil⟩
      | cons result rest => trivial
  | seeking report seeds found =>
      cases seeds with
      | nil => exact h.2
      | cons seed rest =>
          refine ⟨fun seed' hrest => h.1 seed' (List.mem_cons_of_mem _ hrest), ?_⟩
          intro target htarget
          rcases List.mem_append.1 htarget with hfound | hnew
          · exact h.2 target hfound
          · obtain ⟨address, haddress, rfl⟩ := List.mem_map.1 hnew
            rw [List.mem_singleton.1 (List.mem_filter.1 haddress).1]
            exact h.1 seed List.mem_cons_self
  | probingSeeds report targets =>
      cases arrival with
      | outcomes results =>
          simp only [CyclePhase.advance]
          split
          · next hmatches =>
              -- The batch has an outcome for each seed that was probed and for no other.
              rintro ⟨target, outcome⟩ hresult
              have hperm : (results.map Prod.fst).Perm targets := List.isPerm_iff.1 hmatches
              refine ⟨h target (hperm.mem_iff.1 (List.mem_map_of_mem hresult)), ?_⟩
              rintro answer rfl
              exact hbrought report targets results rfl rfl hmatches target answer hresult
          · exact h
      | nothing => exact h
      | thisNode answer => exact h
      | outcome o => exact h
  | admitting report results =>
      cases results with
      | nil => trivial
      | cons result rest => exact fun other hrest => h other (List.mem_cons_of_mem _ hrest)
  | finished report => trivial

end CyclePhase

/-- The accesses that a cycle may make, given which addresses answered it. -/
inductive CycleAccess (c : MonitorConfig) (answered : Address → Capability → Prop) : Access → Prop
  | registerLocal {address : Address} (hlocal : c.localAddress = some address)
      (answer : Capability) : CycleAccess c answered (.registerLocal address answer)
  | update (id : String) (answer : Capability) (now : Timestamp) :
      CycleAccess c answered (.update id answer now)
  | markUnavailable (id : String) : CycleAccess c answered (.markUnavailable id)
  | enroll {seed : Address} {answer : Capability} (hseed : seed ∈ c.seeds)
      (hanswered : answered seed answer) :
      CycleAccess c answered (.enroll (Peer.named seed none answer))

/-- The entries that a cycle may put in place: that of this node at the configured address, and a
configured seed that answered, under its host. -/
inductive CycleEntry (c : MonitorConfig) (answered : Address → Capability → Prop) : Peer → Prop
  | thisNode {address : Address} (hlocal : c.localAddress = some address) (answer : Capability) :
      CycleEntry c answered ⟨localId, address, answer⟩
  | seed {seed : Address} {answer : Capability} (hseed : seed ∈ c.seeds)
      (hanswered : answered seed answer) : CycleEntry c answered ⟨seed.host, seed, answer⟩

theorem CyclePhase.StemsFrom.cycleAccess {c : MonitorConfig}
    {answered : Address → Capability → Prop} {phase : CyclePhase} (h : phase.StemsFrom c answered)
    {f : Fleet} {arrival : Arrival} {a : Access} (haccess : phase.access? f arrival = some a) :
    CycleAccess c answered a := by
  cases phase with
  | thisNode address =>
      cases arrival with
      | thisNode answer =>
          cases haccess
          exact .registerLocal h answer
      | nothing => cases haccess
      | outcome o => cases haccess
      | outcomes results => cases haccess
  | applying report results =>
      match results, haccess with
      | (target, .ok answer) :: _, rfl => exact .update _ _ _
      | (target, .error e) :: _, rfl => exact .markUnavailable _
  | admitting report results =>
      match results, h, haccess with
      | (target, .ok answer) :: _, h, rfl =>
          have hfirst := h (target, .ok answer) List.mem_cons_self
          exact .enroll hfirst.1 (hfirst.2 answer rfl)
  | reading report => cases haccess
  | probing report targets => cases haccess
  | seeking report seeds found => cases haccess
  | probingSeeds report targets => cases haccess
  | finished report => cases haccess

namespace CycleAccess

variable {c : MonitorConfig} {answered : Address → Capability → Prop} {a : Access}

/-- An entry is there after an access of a cycle if it was there before. If it is a remote one, it
has the identifier and the address it had. -/
theorem keeps (h : CycleAccess c answered a) {r : Registry} {id : String} {p : Peer}
    (hget : r.get? id = some p) :
    ∃ q, (r.perform a).get? id = some q ∧ (id ≠ localId → q.id = p.id ∧ q.address = p.address) := by
  have hremove : a ≠ .remove id := by
    rintro rfl
    cases h
  obtain ⟨q, hq, hid, haddress⟩ := Registry.kept_of_ne_remove hget hremove
  exact ⟨q, hq, fun hremote => ⟨hid, haddress fun hlocal => absurd hlocal hremote⟩⟩

/-- Where nothing was, an access of a cycle puts this node or a seed that answered. -/
theorem cycleEntry (h : CycleAccess c answered a) {r : Registry} {id : String} {q : Peer}
    (habsent : r.get? id = none) (hget : (r.perform a).get? id = some q) :
    q.id = id ∧ CycleEntry c answered q := by
  rw [Registry.get?_perform] at hget
  by_cases hid : a.id = id
  · rw [if_pos hid] at hget
    subst hid
    cases h with
    | registerLocal hlocal answer =>
        have hnone : r.get? localId = none := habsent
        rw [Access.entry, hnone] at hget
        cases hget
        exact ⟨rfl, .thisNode hlocal answer⟩
    | update key answer now =>
        obtain ⟨p, hp, -⟩ := Option.map_eq_some_iff.1 hget
        cases habsent.symm.trans hp
    | markUnavailable key =>
        obtain ⟨p, hp, -⟩ := Option.map_eq_some_iff.1 hget
        cases habsent.symm.trans hp
    | enroll hseed hanswered =>
        simp only [Access.entry] at hget
        split at hget
        · cases hget
          exact ⟨rfl, .seed hseed hanswered⟩
        · cases habsent.symm.trans hget
  · rw [if_neg hid, habsent] at hget
    cases hget

end CycleAccess

namespace Traffic

/-! ## What a cycle holds -/

/-- In the course of a run, the cycle at a place probed seeds, and the batch brought an answer from
an address. -/
def SeedAnswered (t : Traffic) (moves : List Move) (place : Nat) (c : MonitorConfig)
    (address : Address) (answer : Capability) : Prop :=
  ∃ before results after report targets target,
    moves = before ++ .proceed place (.outcomes results) :: after ∧
    (t.run before).calls[place]? = some (.cycling c (.probingSeeds report targets)) ∧
    CyclePhase.matchesTargets targets results = true ∧
    (target, .ok answer) ∈ results ∧ target.address = address

theorem SeedAnswered.concat {t : Traffic} {moves : List Move} {place : Nat} {c : MonitorConfig}
    {address : Address} {answer : Capability} (h : t.SeedAnswered moves place c address answer)
    (m : Move) : t.SeedAnswered (moves ++ [m]) place c address answer := by
  obtain ⟨before, results, after, report, targets, target, rfl, hanswered⟩ := h
  exact ⟨before, results, after ++ [m], report, targets, target, by simp, hanswered⟩

theorem add_ne_cycling (f : Fleet) (address : Address) (name : Option String) (c : MonitorConfig)
    (phase : CyclePhase) : Call.add f address name ≠ .cycling c phase := by
  unfold Call.add
  split <;> nofun

theorem load_ne_cycling (f : Fleet) (path : String) (c : MonitorConfig) (phase : CyclePhase) :
    Call.load f path ≠ .cycling c phase := by
  unfold Call.load
  split
  · nofun
  · nofun
  · split <;> nofun

/-- A call that begins and is a cycle is in its first phase. -/
theorem eq_first_of_begun {t : Traffic} {m : Move} {c : MonitorConfig} {phase : CyclePhase}
    (hbegun : t.begun? m = some (.cycling c phase)) : phase = .first c := by
  cases m with
  | add address name => exact absurd (Option.some.inj hbegun) (add_ne_cycling _ _ _ _ _)
  | load path => exact absurd (Option.some.inj hbegun) (load_ne_cycling _ _ _ _)
  | cycle c' =>
      cases hbegun
      rfl
  | access a => cases hbegun
  | proceed place arrival => cases hbegun
  | drop place => cases hbegun
  | beside f => cases hbegun

/-- A call that is a cycle after a step was the same cycle before. -/
theorem eq_cycling_of_advance {f : Fleet} {call : Call} {arrival : Arrival} {c : MonitorConfig}
    {phase : CyclePhase} (hnext : Call.cycling c phase = (call.advance f arrival).2) :
    ∃ old, call = .cycling c old ∧ phase = (old.advance c f arrival).2 := by
  cases call with
  | cycling c' old =>
      obtain ⟨rfl, rfl⟩ := Call.cycling.inj hnext
      exact ⟨old, rfl, rfl⟩
  | adding candidate =>
      cases arrival with
      | outcome o =>
          simp only [Call.advance] at hnext
          split at hnext <;> cases hnext
      | nothing => cases hnext
      | thisNode answer => cases hnext
      | outcomes results => cases hnext
  | loading report index entries =>
      cases entries with
      | nil => cases hnext
      | cons entry rest =>
          simp only [Call.advance] at hnext
          split at hnext <;> cases hnext
  | added result => cases hnext
  | loaded result => cases hnext
  | dropped => cases hnext

/-- After every run, what the cycle at a place holds stems from its settings and from the answers
that the run brought it. -/
theorem stemsFrom_run {f : Fleet} {moves : List Move} {place : Nat} {c : MonitorConfig}
    {phase : CyclePhase}
    (hcall : ((start f).run moves).calls[place]? = some (.cycling c phase)) :
    phase.StemsFrom c ((start f).SeedAnswered moves place c) := by
  induction moves using List.reverseRecOn generalizing phase with
  | nil => cases hcall
  | append_singleton moves m ih =>
      rw [run_concat] at hcall
      rcases call_step hcall with hold | ⟨arrival, call, rfl, hold, hnext⟩ | ⟨-, hbegun⟩ | hdropped
      · exact (ih hold).mono fun address answer h => h.concat m
      · obtain ⟨old, rfl, rfl⟩ := eq_cycling_of_advance hnext
        refine ((ih hold).mono fun address answer h => h.concat _).advance _ ?_
        rintro report targets results rfl rfl hmatches target answer hresult
        exact ⟨moves, results, [], report, targets, target, rfl, hold, hmatches, hresult, rfl⟩
      · rw [eq_first_of_begun hbegun]
        exact CyclePhase.stemsFrom_first c _
      · cases hdropped

/-- A move begins the cycle at a place, takes it a step further, or gives it up. -/
inductive IsCycleMove (t : Traffic) (c : MonitorConfig) (place : Nat) : Move → Prop
  | begins (hplace : place = t.calls.length) : t.IsCycleMove c place (.cycle c)
  | proceeds {phase : CyclePhase} (hcall : t.calls[place]? = some (.cycling c phase))
      (arrival : Arrival) : t.IsCycleMove c place (.proceed place arrival)
  | givesUp {phase : CyclePhase} (hcall : t.calls[place]? = some (.cycling c phase)) :
      t.IsCycleMove c place (.drop place)

/-- Every entry is there after a move as well, and a remote one has the identifier and the address
it had. -/
def KeepsPeers (t : Traffic) (m : Move) : Prop :=
  ∀ id p, t.registry.get? id = some p →
    ∃ q, (t.step m).registry.get? id = some q ∧
      (id ≠ localId → q.id = p.id ∧ q.address = p.address)

/-- A move of a cycle changes nothing, or makes an access of a cycle. -/
theorem step_of_isCycleMove {f : Fleet} {moves : List Move} {c : MonitorConfig} {place : Nat}
    {m : Move} (hmove : ((start f).run moves).IsCycleMove c place m) :
    (((start f).run moves).step m).registry = ((start f).run moves).registry ∨
      ∃ a, CycleAccess c ((start f).SeedAnswered moves place c) a ∧
        (((start f).run moves).step m).registry = ((start f).run moves).registry.perform a := by
  cases hmove with
  | begins hplace => exact .inl rfl
  | givesUp hcall => exact .inl rfl
  | @proceeds phase hcall arrival =>
      have haccess : ((start f).run moves).access? (.proceed place arrival) =
          phase.access? ((start f).run moves).fleet arrival := access?_proceed hcall arrival
      rw [step_registry, haccess]
      cases hphase : phase.access? ((start f).run moves).fleet arrival with
      | none => exact .inl rfl
      | some a => exact .inr ⟨a, (stemsFrom_run hcall).cycleAccess hphase, rfl⟩

/-- No move of a cycle takes a peer away or makes it another one. -/
theorem keepsPeers_of_isCycleMove {f : Fleet} {moves : List Move} {c : MonitorConfig} {place : Nat}
    {m : Move} (hmove : ((start f).run moves).IsCycleMove c place m) :
    ((start f).run moves).KeepsPeers m := by
  intro id p hget
  rcases step_of_isCycleMove hmove with hsame | ⟨a, haccess, hperform⟩
  · rw [hsame]
    exact ⟨p, hget, fun _ => ⟨rfl, rfl⟩⟩
  · rw [hperform]
    exact haccess.keeps hget

/-- What a move of a cycle puts where nothing was is this node or a seed that answered. -/
theorem cycleEntry_of_inserts {f : Fleet} {moves : List Move} {c : MonitorConfig} {place : Nat}
    {m : Move} {id : String} {q : Peer} (hmove : ((start f).run moves).IsCycleMove c place m)
    (hinserts : ((start f).run moves).Inserts m id q) :
    q.id = id ∧ CycleEntry c ((start f).SeedAnswered moves place c) q := by
  obtain ⟨habsent, hget⟩ := hinserts
  rcases step_of_isCycleMove hmove with hsame | ⟨a, haccess, hperform⟩
  · rw [hsame, habsent] at hget
    cases hget
  · rw [hperform] at hget
    exact haccess.cycleEntry habsent hget

/-- A peer is gone once it is removed. -/
theorem get?_run_remove (t : Traffic) (moves : List Move) (id : String) :
    (t.run (moves ++ [.access (.remove id)])).registry.get? id = none := by
  rw [run_concat, step_registry]
  exact (Registry.get?_perform _ (.remove id) id).trans (if_pos rfl)

/-- An identifier that cycles may put an entry under: that of this node, if it is probed, or the
host of a configured seed that answered. -/
def MayComeBack (t : Traffic) (moves : List Move) (place : Nat) (c : MonitorConfig) (id : String) :
    Prop :=
  (id = localId ∧ c.localAddress.isSome) ∨
    ∃ seed ∈ c.seeds, seed.host = id ∧ ∃ answer, t.SeedAnswered moves place c seed answer

theorem mayComeBack_of_cycleEntry {t : Traffic} {moves : List Move} {place : Nat}
    {c : MonitorConfig} {q : Peer} (h : CycleEntry c (t.SeedAnswered moves place c) q) :
    t.MayComeBack moves place c q.id := by
  cases h with
  | thisNode hlocal answer => exact .inl ⟨rfl, by rw [hlocal]; rfl⟩
  | @seed seed answer hseed hanswered => exact .inr ⟨seed, hseed, rfl, answer, hanswered⟩

/-- No move of a cycle takes a peer away or makes it another one, and what it puts where nothing was
is this node, at the configured address, or a configured seed that answered, under its host. So what
is under the identifier of a peer that was removed was put there since; if by a cycle, then the
identifier is that of this node, which the cycle asks, or the host of a seed that answered it. -/
theorem cycles_leave_peers (f : Fleet) (moves : List Move) :
    let t := (start f).run moves
    (∀ c place m, t.IsCycleMove c place m →
      t.KeepsPeers m ∧
        ∀ id q, t.Inserts m id q →
          q.id = id ∧ CycleEntry c ((start f).SeedAnswered moves place c) q) ∧
    ∀ before id after p, moves = before ++ .access (.remove id) :: after →
      t.registry.get? id = some p →
      ∃ since m rest q, moves = since ++ m :: rest ∧ before ++ [.access (.remove id)] <+: since ∧
        ((start f).run since).Inserts m id q ∧
        (∀ later, later <+: rest →
          (((start f).run (since ++ m :: later)).registry.get? id).isSome) ∧
        ∀ c place, ((start f).run since).IsCycleMove c place m →
          (start f).MayComeBack since place c id := by
  intro t
  constructor
  · intro c place m hmove
    exact ⟨keepsPeers_of_isCycleMove hmove, fun id q hinserts =>
      cycleEntry_of_inserts hmove hinserts⟩
  · rintro before id after p rfl hget
    have hsplit : ∀ later : List Move, before ++ .access (.remove id) :: later =
        (before ++ [.access (.remove id)]) ++ later := by simp
    have hfrom : (((start f).run (before ++ [.access (.remove id)])).run after).registry.get? id =
        some p := by
      rw [← run_append, ← hsplit]
      exact hget
    obtain ⟨later, m, rest, q, rfl, hinserts, hsince⟩ :=
      exists_inserts (get?_run_remove (start f) before id) hfrom
    rw [← run_append] at hinserts
    refine ⟨(before ++ [.access (.remove id)]) ++ later, m, rest, q, by simp,
      List.prefix_append _ _, hinserts, fun more hmore => ?_, fun c place hmove => ?_⟩
    · rw [List.append_assoc, run_append]
      exact hsince more hmore
    · obtain ⟨rfl, hentry⟩ := cycleEntry_of_inserts hmove hinserts
      exact mayComeBack_of_cycleEntry hentry

/-- An address to look up. -/
def seedAddress : Address := ⟨"10.0.0.1", defaultPort⟩

/-- While the answer of a seed is awaited, a peer is enrolled at its host and removed. Then the
answer comes, and the seed is taken in. -/
def lateSeed : List Move :=
  [.cycle { MonitorConfig.builtin with seeds := [seedAddress] }, .proceed 0 .nothing,
    .proceed 0 (.outcomes []), .proceed 0 .nothing, .proceed 0 .nothing, .proceed 0 .nothing,
    .access (.enroll (Peer.named seedAddress none .unseen)), .access (.remove "10.0.0.1"),
    .proceed 0 (.outcomes [(⟨seedAddress.text, seedAddress⟩, .ok .unseen)]),
    .proceed 0 .nothing]

theorem cycles_leave_peers_lateSeed :
    ((start quiet).run lateSeed).registry.get? "10.0.0.1" =
      some (Peer.named seedAddress none .unseen) ∧
    ∃ since m rest q, lateSeed = since ++ m :: rest ∧
      lateSeed.take 8 <+: since ∧ ((start quiet).run since).Inserts m "10.0.0.1" q ∧
      (∀ later, later <+: rest →
        (((start quiet).run (since ++ m :: later)).registry.get? "10.0.0.1").isSome) ∧
      ∀ c place, ((start quiet).run since).IsCycleMove c place m →
        (start quiet).MayComeBack since place c "10.0.0.1" := by
  have hget : ((start quiet).run lateSeed).registry.get? "10.0.0.1" =
      some (Peer.named seedAddress none .unseen) := by decide +kernel
  exact ⟨hget, (cycles_leave_peers quiet lateSeed).2 (lateSeed.take 7) "10.0.0.1"
    (lateSeed.drop 8) _ rfl hget⟩

/-- While the answer of this node is awaited, its entry is removed. Then the answer comes. -/
def lateRefresh : List Move :=
  [.access (.registerLocal ⟨"127.0.0.1", defaultPort⟩ .unseen),
    .cycle { MonitorConfig.builtin with localAddress := some ⟨"127.0.0.1", defaultPort⟩ },
    .access (.remove localId), .proceed 0 (.thisNode .unseen)]

/-- A peer that was removed can come back though nothing but cycles went on since and no seed is
configured: the entry of this node does. -/
theorem this_node_comes_back :
    ¬ ∀ (f : Fleet) (before : List Move) (id : String) (after : List Move),
      (∀ since m rest, after = since ++ m :: rest →
        ∃ c place,
          ((start f).run (before ++ .access (.remove id) :: since)).IsCycleMove c place m ∧
          ∀ seed ∈ c.seeds, seed.host ≠ id) →
      ((start f).run (before ++ .access (.remove id) :: after)).registry.get? id = none := by
  intro hall
  have habsent : ((start quiet).run lateRefresh).registry.get? localId = none := by
    refine hall quiet (lateRefresh.take 2) localId (lateRefresh.drop 3) ?_
    intro since m rest heq
    rcases List.singleton_eq_append_iff.1 heq with ⟨rfl, hmove⟩ | ⟨-, hnone⟩
    · obtain ⟨rfl, -⟩ := List.cons.inj hmove
      exact ⟨_, 0, .proceeds rfl _, nofun⟩
    · cases hnone
  exact absurd habsent (by decide)

end Traffic

end InferenceFleet
