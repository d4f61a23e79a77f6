import InferenceFleet.Proofs.Interleaving.CycleLog
import InferenceFleet.Proofs.Interleaving.Settling
import InferenceFleet.Proofs.Interleaving.Undisturbed

/-!
# What comes of the seeds

A cycle whose seeds are left alone with the registry probes those at hosts where no peer is, and
takes in some of those that answered. Which ones depends on the order of the answers, because each
that is taken in may stand in the way of a later one; `Registry.TakesIn` says what holds in every
order. It is kept by the step that applies one more outcome (`Registry.TakesIn.apply`), and so by
the phases of the cycle one after the other (`Traffic.Discovering.advance`).
-/

namespace InferenceFleet

namespace Cycle

/-- The peer that a seed is once it answered. -/
def answering? : Target × Outcome → Option Peer
  | (target, .ok answer) => some ⟨target.address.host, target.address, answer⟩
  | (_, .error _) => none

theorem id_of_answering? {result : Target × Outcome} {p : Peer}
    (hanswering : answering? result = some p) : p.id = p.address.host := by
  obtain ⟨target, outcome⟩ := result
  cases outcome with
  | ok answer =>
      obtain rfl := Option.some.inj hanswering
      rfl
  | error e => cases hanswering

theorem enrolled?_eq (r : Registry) (result : Target × Outcome) :
    enrolled? r result = (answering? result).filter fun p => r.refusal? p = none := by
  obtain ⟨target, outcome⟩ := result
  cases outcome with
  | error e => rfl
  | ok answer =>
      show (if r.refusal? (Peer.named target.address none answer) = none then _ else _) = _
      rw [answering?, Option.filter_some]
      simp only [decide_eq_true_eq]
      rfl

theorem applySeed_registry_eq (f : Fleet) (discovered : Nat) (result : Target × Outcome) :
    (applySeed (f, discovered) result).1.registry =
      ((enrolled? f.registry result).map f.registry.store).getD f.registry := by
  rw [applySeed_eq]
  cases enrolled? f.registry result with
  | some p => rfl
  | none => cases failureOf? result <;> rfl

theorem applySeed_discovered (f : Fleet) (discovered : Nat) (result : Target × Outcome) :
    (applySeed (f, discovered) result).2 =
      discovered + (enrolled? f.registry result).toList.length := by
  rw [applySeed_eq]
  cases enrolled? f.registry result with
  | some p => rfl
  | none => cases failureOf? result <;> rfl

theorem mem_candidates_iff {f : Fleet} {seeds : List Address} {target : Target} :
    target ∈ candidates f seeds ↔
      target.address ∈ seeds ∧ f.registry.containsHost target.address.host = false ∧
        target.id = target.address.text := by
  unfold candidates
  constructor
  · intro hmem
    obtain ⟨seed, hseed, rfl⟩ := List.mem_map.1 hmem
    obtain ⟨hmem, hfree⟩ := List.mem_filter.1 hseed
    exact ⟨hmem, by simpa using hfree, rfl⟩
  · rintro ⟨hmem, hfree, hid⟩
    refine List.mem_map.2 ⟨target.address, List.mem_filter.2 ⟨hmem, by simp [hfree]⟩, ?_⟩
    rw [← hid]

theorem candidates_congr {f f' : Fleet} (h : f'.registry = f.registry) (seeds : List Address) :
    candidates f' seeds = candidates f seeds := by
  rw [candidates, candidates, h]

end Cycle

namespace Registry

variable {r r' : Registry} {host : String} {applied : List (Target × Outcome)}
  {inserted : List Peer} {p : Peer}

theorem containsHost_iff :
    r.containsHost host = true ↔
      ∃ id q, r.get? id = some q ∧ Text.sameUpToAsciiCase q.address.host host = true := by
  rw [containsHost, List.any_eq_true]
  constructor
  · rintro ⟨q, hmem, hsame⟩
    obtain ⟨id, hget⟩ := mem_snapshot_iff.1 hmem
    exact ⟨id, q, hget, hsame⟩
  · rintro ⟨id, q, hget, hsame⟩
    exact ⟨q, mem_snapshot_iff.2 ⟨id, hget⟩, hsame⟩

theorem containsHost_of_get? {id : String} (hget : r.get? id = some p) :
    r.containsHost p.address.host = true :=
  containsHost_iff.2 ⟨id, p, hget, Text.sameUpToAsciiCase_refl _⟩

/-- What outcomes of seeds, applied in the order they came, make of a registry: some of the seeds
that answered come in, and nothing else changes. -/
structure TakesIn (r r' : Registry) (applied : List (Target × Outcome)) (inserted : List Peer) :
    Prop where
  /-- An outcome brings in one peer at most, and only an answer does. -/
  sublist : inserted.Sublist (applied.filterMap Cycle.answering?)
  fresh : ∀ p ∈ inserted, r.get? p.id = none
  nodup : (inserted.map Peer.id).Nodup
  get?_eq_some_iff : ∀ id p, r'.get? id = some p ↔ r.get? id = some p ∨ p ∈ inserted ∧ p.id = id
  size : r'.size = r.size + inserted.length
  /-- A seed that answered has its host registered, if it could be entered under it. -/
  registered : ∀ p ∈ applied.filterMap Cycle.answering?, p.id ≠ localId → r.get? p.id = none →
    r'.containsHost p.address.host = true

theorem takesIn_nil (r : Registry) : r.TakesIn r [] [] where
  sublist := .slnil
  fresh := nofun
  nodup := .nil
  get?_eq_some_iff id p := by simp
  size := rfl
  registered := nofun

theorem TakesIn.id_eq (h : r.TakesIn r' applied inserted) (hp : p ∈ inserted) :
    p.id = p.address.host := by
  obtain ⟨result, -, hanswering⟩ := List.mem_filterMap.1 (h.sublist.subset hp)
  exact Cycle.id_of_answering? hanswering

theorem TakesIn.containsHost (h : r.TakesIn r' applied inserted)
    (hthere : r.containsHost host = true) : r'.containsHost host = true := by
  obtain ⟨id, q, hget, hsame⟩ := containsHost_iff.1 hthere
  exact containsHost_iff.2 ⟨id, q, (h.get?_eq_some_iff id q).2 (.inl hget), hsame⟩

/-- A seed that answered and is refused has its host registered, or cannot be entered under it. -/
theorem TakesIn.containsHost_of_refused (h : r.TakesIn r' applied inserted)
    (hid : p.id = p.address.host) (hlocal : p.id ≠ localId) (hfree : r.get? p.id = none)
    (hrefused : r'.refusal? p ≠ none) : r'.containsHost p.address.host = true := by
  by_contra hnone
  have hhosts : ∀ id q, r'.get? id = some q →
      Text.sameUpToAsciiCase q.address.host p.address.host = false := by
    intro id q hget
    refine Bool.eq_false_iff.2 fun hsame => hnone ?_
    exact containsHost_iff.2 ⟨id, q, hget, hsame⟩
  refine hrefused (refusal?_eq_none_iff.2 ⟨hlocal, hhosts, ?_⟩)
  -- A peer under the identifier would have come in with the seeds, and be at the host.
  cases hget : r'.get? p.id with
  | none => rfl
  | some q =>
      rcases (h.get?_eq_some_iff p.id q).1 hget with hold | ⟨hmem, hsame⟩
      · cases hfree.symm.trans hold
      · have hhost : q.address.host = p.address.host := by rw [← h.id_eq hmem, hsame, hid]
        have hthere := containsHost_of_get? hget
        rw [hhost] at hthere
        exact absurd hthere hnone

/-- A seed that answered comes in, if there is no reason against it. -/
theorem TakesIn.store (h : r.TakesIn r' applied inserted) {result : Target × Outcome}
    (hanswering : Cycle.answering? result = some p) (hadmitted : r'.refusal? p = none) :
    r.TakesIn (r'.store p) (applied ++ [result]) (inserted ++ [p]) := by
  obtain ⟨-, -, hfree'⟩ := refusal?_eq_none_iff.1 hadmitted
  have hfree : r.get? p.id = none := by
    cases hget : r.get? p.id with
    | none => rfl
    | some q => cases hfree'.symm.trans ((h.get?_eq_some_iff p.id q).2 (.inl hget))
  have hanswers : (applied ++ [result]).filterMap Cycle.answering? =
      applied.filterMap Cycle.answering? ++ [p] := by
    rw [List.filterMap_append]
    simp [hanswering]
  constructor
  case sublist =>
    rw [hanswers]
    exact h.sublist.append_right [p]
  case fresh =>
    intro q hq
    rcases List.mem_append.1 hq with hearlier | hnew
    · exact h.fresh q hearlier
    · rwa [List.mem_singleton.1 hnew]
  case nodup =>
    rw [List.map_append, List.nodup_append]
    refine ⟨h.nodup, List.nodup_singleton _, fun id hid id' hid' heq => ?_⟩
    obtain ⟨q, hq, rfl⟩ := List.mem_map.1 hid
    rw [List.mem_singleton.1 hid'] at heq
    have hget := (h.get?_eq_some_iff q.id q).2 (.inr ⟨hq, rfl⟩)
    rw [heq] at hget
    cases hfree'.symm.trans hget
  case get?_eq_some_iff =>
    intro id q
    rw [get?_store_eq_some_iff hfree', h.get?_eq_some_iff, or_assoc, ← or_and_right,
      List.mem_append, List.mem_singleton]
  case size =>
    rw [size_store hfree', h.size, List.length_append]
    rfl
  case registered =>
    intro q hq hlocal hfresh
    rw [hanswers] at hq
    rcases List.mem_append.1 hq with hearlier | hnew
    · obtain ⟨id, q', hget, hsame⟩ := containsHost_iff.1 (h.registered q hearlier hlocal hfresh)
      have hkept := (get?_store_eq_some_iff hfree').2 (.inl hget)
      exact containsHost_iff.2 ⟨id, q', hkept, hsame⟩
    · rw [List.mem_singleton.1 hnew]
      exact containsHost_of_get? ((get?_store r' p p.id).trans (if_pos rfl))

/-- An outcome brings nobody in where the seed did not answer, or is refused. -/
theorem TakesIn.skip (h : r.TakesIn r' applied inserted) {result : Target × Outcome}
    (hrefused : ∀ p, Cycle.answering? result = some p → r'.refusal? p ≠ none) :
    r.TakesIn r' (applied ++ [result]) inserted where
  sublist := by
    rw [List.filterMap_append]
    exact h.sublist.trans (List.sublist_append_left _ _)
  fresh := h.fresh
  nodup := h.nodup
  get?_eq_some_iff := h.get?_eq_some_iff
  size := h.size
  registered p hp hlocal hfree := by
    rw [List.filterMap_append] at hp
    rcases List.mem_append.1 hp with hearlier | hnow
    · exact h.registered p hearlier hlocal hfree
    · obtain ⟨result', hresult, hanswering⟩ := List.mem_filterMap.1 hnow
      rw [List.mem_singleton.1 hresult] at hanswering
      exact h.containsHost_of_refused (Cycle.id_of_answering? hanswering) hlocal hfree
        (hrefused p hanswering)

/-- One more outcome is applied. -/
theorem TakesIn.apply (h : r.TakesIn r' applied inserted) (result : Target × Outcome) :
    r.TakesIn (((Cycle.enrolled? r' result).map r'.store).getD r') (applied ++ [result])
      (inserted ++ (Cycle.enrolled? r' result).toList) := by
  rw [Cycle.enrolled?_eq]
  cases hanswering : Cycle.answering? result with
  | none =>
      rw [Option.filter_none, Option.toList_none, List.append_nil]
      exact h.skip fun p hp => by cases hanswering.symm.trans hp
  | some p =>
      by_cases hadmitted : r'.refusal? p = none
      · rw [Option.filter_some_pos (by simpa using hadmitted)]
        exact h.store hanswering hadmitted
      · rw [Option.filter_some_neg (by simpa using hadmitted), Option.toList_none,
          List.append_nil]
        refine h.skip fun q hq => ?_
        rwa [← Option.some.inj (hanswering.symm.trans hq)]

end Registry

/-! ## The phases of a cycle -/

namespace CyclePhase

/-- Before the outcomes of the seeds are there, no seed is counted. -/
def CountsNoSeed : CyclePhase → Prop
  | .thisNode _ => True
  | .reading report => report.discovered = 0
  | .probing report _ => report.discovered = 0
  | .applying report _ => report.discovered = 0
  | .seeking report _ _ => report.discovered = 0
  | .probingSeeds report _ => report.discovered = 0
  | .admitting _ _ => True
  | .finished _ => True

theorem countsNoSeed_first (c : MonitorConfig) : (first c).CountsNoSeed := by
  unfold first
  cases c.localAddress with
  | none => exact rfl
  | some address => trivial

theorem CountsNoSeed.advance {phase : CyclePhase} (h : phase.CountsNoSeed) (c : MonitorConfig)
    (f : Fleet) (arrival : Arrival) : (phase.advance c f arrival).2.CountsNoSeed := by
  cases phase with
  | thisNode address => cases arrival <;> trivial
  | reading report => exact h
  | probing report targets =>
      cases arrival with
      | outcomes results =>
          simp only [CyclePhase.advance]
          split <;> exact h
      | nothing => exact h
      | thisNode answer => exact h
      | outcome o => exact h
  | applying report results =>
      cases results with
      | nil => exact h
      | cons result rest => exact (Cycle.applyOutcome_discovered f report result).trans h
  | seeking report seeds found => cases seeds <;> exact h
  | probingSeeds report targets =>
      cases arrival with
      | outcomes results =>
          simp only [CyclePhase.advance]
          split
          · trivial
          · exact h
      | nothing => exact h
      | thisNode answer => exact h
      | outcome o => exact h
  | admitting report results => cases results <;> trivial
  | finished report => trivial

end CyclePhase

namespace Traffic

variable {t : Traffic} {place : Nat} {moves : List Move} {m : Move} {c : MonitorConfig}

/-- A run brought the call at a place one outcome for each seed that was found, and those that are
no longer outstanding are applied. -/
def TakesSeedsIn (t : Traffic) (place : Nat) (moves : List Move) (seeds : List Address)
    (outstanding : List (Target × Outcome)) (discovered : Nat) : Prop :=
  ∃ applied inserted, .proceed place (.outcomes (applied ++ outstanding)) ∈ moves ∧
    ((applied ++ outstanding).map Prod.fst).Perm (Cycle.candidates t.fleet seeds) ∧
    t.registry.TakesIn (t.run moves).registry applied inserted ∧ discovered = inserted.length

/-- How far a cycle that was about to look its seeds up has brought the fleet when it has come to a
phase. -/
def Discovering (t : Traffic) (place : Nat) (moves : List Move) (seeds : List Address) :
    CyclePhase → Prop
  | .seeking report rest found =>
      (t.run moves).registry = t.registry ∧ report.discovered = 0 ∧
        found ++ Cycle.candidates t.fleet rest = Cycle.candidates t.fleet seeds
  | .probingSeeds report targets =>
      (t.run moves).registry = t.registry ∧ report.discovered = 0 ∧
        targets = Cycle.candidates t.fleet seeds
  | .admitting report outstanding => t.TakesSeedsIn place moves seeds outstanding report.discovered
  | .finished report => t.TakesSeedsIn place moves seeds [] report.discovered
  | _ => False

variable {seeds : List Address}

theorem TakesSeedsIn.concat {outstanding : List (Target × Outcome)} {discovered : Nat}
    (h : t.TakesSeedsIn place moves seeds outstanding discovered)
    (hregistry : (t.run (moves ++ [m])).registry = (t.run moves).registry) :
    t.TakesSeedsIn place (moves ++ [m]) seeds outstanding discovered := by
  obtain ⟨applied, inserted, hbrought, hperm, htakes, hcount⟩ := h
  refine ⟨applied, inserted, List.mem_append_left _ hbrought, hperm, ?_, hcount⟩
  rwa [hregistry]

/-- A move without access leaves a cycle where it is. -/
theorem Discovering.concat {phase : CyclePhase} (h : t.Discovering place moves seeds phase)
    (haccess : (t.run moves).access? m = none) :
    t.Discovering place (moves ++ [m]) seeds phase := by
  have hregistry : (t.run (moves ++ [m])).registry = (t.run moves).registry := by
    rw [run_concat, step_registry, haccess]
    rfl
  cases phase with
  | seeking report rest found => exact ⟨hregistry.trans h.1, h.2⟩
  | probingSeeds report targets => exact ⟨hregistry.trans h.1, h.2⟩
  | admitting report outstanding => exact TakesSeedsIn.concat h hregistry
  | finished report => exact TakesSeedsIn.concat h hregistry
  | thisNode address => exact h
  | reading report => exact h
  | probing report targets => exact h
  | applying report results => exact h

/-- A step of the cycle brings it to its next phase, with all that belongs to it. -/
theorem Discovering.advance {phase : CyclePhase} (arrival : Arrival)
    (h : t.Discovering place moves seeds phase)
    (hcall : (t.run moves).calls[place]? = some (.cycling c phase)) :
    t.Discovering place (moves ++ [.proceed place arrival]) seeds
      (phase.advance c (t.run moves).fleet arrival).2 := by
  have haccess : (t.run moves).access? (.proceed place arrival) =
      phase.access? (t.run moves).fleet arrival := access?_proceed hcall arrival
  have hidle : phase.access? (t.run moves).fleet arrival = none →
      t.Discovering place (moves ++ [.proceed place arrival]) seeds phase :=
    fun hnone => h.concat (haccess.trans hnone)
  cases phase with
  | seeking report rest found =>
      obtain ⟨hregistry, hzero, hfound⟩ := hidle rfl
      cases rest with
      | nil => exact ⟨hregistry, hzero, (List.append_nil found).symm.trans hfound⟩
      | cons seed rest =>
          refine ⟨hregistry, hzero, ?_⟩
          rw [Cycle.candidates_congr h.1, List.append_assoc, ← Cycle.candidates_cons]
          exact hfound
  | probingSeeds report targets =>
      cases arrival with
      | outcomes results =>
          have hwaiting := hidle rfl
          simp only [CyclePhase.advance]
          split
          · next hmatches =>
              obtain ⟨hregistry, hzero, rfl⟩ := hwaiting
              refine ⟨[], [], List.mem_append_right _ List.mem_cons_self,
                List.isPerm_iff.1 hmatches, ?_, hzero⟩
              rw [hregistry]
              exact Registry.takesIn_nil _
          · exact hwaiting
      | nothing => exact hidle rfl
      | thisNode answer => exact hidle rfl
      | outcome o => exact hidle rfl
  | admitting report outstanding =>
      cases outstanding with
      | nil => exact hidle rfl
      | cons result rest =>
          obtain ⟨applied, inserted, hbrought, hperm, htakes, hcount⟩ := h
          have hregistry : (t.run (moves ++ [.proceed place arrival])).registry =
              (Cycle.applySeed ((t.run moves).fleet, report.discovered) result).1.registry := by
            rw [run_concat, step_proceed hcall]
            rfl
          refine ⟨applied ++ [result],
            inserted ++ (Cycle.enrolled? (t.run moves).registry result).toList, ?_, ?_, ?_, ?_⟩
          · rw [List.append_assoc]
            exact List.mem_append_left _ hbrought
          · rw [List.append_assoc]
            exact hperm
          · rw [hregistry, Cycle.applySeed_registry_eq]
            exact htakes.apply result
          · show (Cycle.applySeed ((t.run moves).fleet, report.discovered) result).2 = _
            rw [Cycle.applySeed_discovered, hcount, List.length_append]
            rfl
  | finished report => exact hidle rfl
  | thisNode address => cases h
  | reading report => cases h
  | probing report targets => cases h
  | applying report results => cases h

/-- Whatever else goes on, a cycle counts no seed before their outcomes are there. -/
theorem countsNoSeed_run (hfirst : t.calls[place]? = some (.cycling c (.first c))) :
    (t.run moves).calls[place]? = some .dropped ∨
      ∃ phase, (t.run moves).calls[place]? = some (.cycling c phase) ∧ phase.CountsNoSeed :=
  cycling_run (fun _ phase => phase.CountsNoSeed) hfirst (CyclePhase.countsNoSeed_first c)
    (fun _ _ _ _ _ hcounts => hcounts)
    fun before arrival _ _ hcounts => hcounts.advance c (t.run before).fleet arrival

/-- A run that leaves a cycle alone with the registry brings it from where it looks its seeds up to
some phase with all that belongs to it, unless the cycle is dropped. -/
theorem discovering_run {report : CycleReport} (hzero : report.discovered = 0)
    (hseeking : t.calls[place]? = some (.cycling c (.seeking report seeds [])))
    (halone : t.Undisturbed place moves) :
    (t.run moves).calls[place]? = some .dropped ∨
      ∃ phase, (t.run moves).calls[place]? = some (.cycling c phase) ∧
        t.Discovering place moves seeds phase := by
  have hbegin : t.Discovering place [] seeds (.seeking report seeds []) := ⟨rfl, hzero, rfl⟩
  refine cycling_run (fun moves phase => t.Discovering place moves seeds phase) hseeking hbegin
    (fun before m phase hbegins hother hdiscovering => ?_)
    fun before arrival phase hcall hdiscovering => hdiscovering.advance arrival hcall
  exact hdiscovering.concat (halone.access?_eq_none hbegins hother)

/-- A cycle that is left alone with the registry from where it looks its seeds up has, when it is
finished, one outcome for each seed at whose host no peer was then, and for no other, in whatever
order they came. Some of the seeds that answered have come in, each under its host, at its address
and with its answer; nothing else has come in, and no entry has changed. A seed that answered has
its host registered, unless the host is the reserved identifier or was the identifier of a peer. The
report counts the peers that came in. -/
theorem cycle_takes_in_answering_seeds {early late : List Move} {report report' : CycleReport}
    (hfirst : t.calls[place]? = some (.cycling c (.first c)))
    (hseeking : (t.run early).calls[place]? = some (.cycling c (.seeking report c.seeds [])))
    (halone : (t.run early).Undisturbed place late)
    (hfinished : ((t.run early).run late).calls[place]? = some (.cycling c (.finished report'))) :
    ∃ (results : List (Target × Outcome)) (inserted : List Peer),
      .proceed place (.outcomes results) ∈ late ∧
      (results.map Prod.fst).Perm (Cycle.candidates (t.run early).fleet c.seeds) ∧
      (∀ result ∈ results, result.1.address ∈ c.seeds ∧
        (t.run early).registry.containsHost result.1.address.host = false) ∧
      inserted.Sublist (results.filterMap Cycle.answering?) ∧
      (∀ p ∈ inserted, ∃ target answer, (target, .ok answer) ∈ results ∧
        p = ⟨target.address.host, target.address, answer⟩ ∧
        (t.run early).registry.get? p.id = none) ∧
      (∀ id p, ((t.run early).run late).registry.get? id = some p ↔
        (t.run early).registry.get? id = some p ∨ p ∈ inserted ∧ p.id = id) ∧
      (∀ target answer, (target, .ok answer) ∈ results →
        target.address.host ≠ localId →
        (t.run early).registry.get? target.address.host = none →
        ((t.run early).run late).registry.containsHost target.address.host = true) ∧
      (inserted.map Peer.id).Nodup ∧ report'.discovered = inserted.length ∧
      ((t.run early).run late).registry.size =
        (t.run early).registry.size + report'.discovered := by
  have hzero : report.discovered = 0 := by
    rcases countsNoSeed_run hfirst with hdropped | ⟨phase, hphase, hcounts⟩
    · cases hseeking.symm.trans hdropped
    · cases hseeking.symm.trans hphase
      exact hcounts
  obtain ⟨results, inserted, hbrought, hperm, htakes, hcount⟩ :
      (t.run early).TakesSeedsIn place late c.seeds [] report'.discovered := by
    rcases discovering_run hzero hseeking halone with hdropped | ⟨phase, hphase, hdiscovering⟩
    · cases hfinished.symm.trans hdropped
    · cases hfinished.symm.trans hphase
      exact hdiscovering
  rw [List.append_nil] at hbrought hperm
  refine ⟨results, inserted, hbrought, hperm, fun result hresult => ?_, htakes.sublist,
    fun p hp => ?_, htakes.get?_eq_some_iff, fun target answer hmem hlocal hfree => ?_,
    htakes.nodup, hcount, ?_⟩
  · have hcandidate := hperm.mem_iff.1 (List.mem_map.2 ⟨result, hresult, rfl⟩)
    obtain ⟨hseed, hhost, -⟩ := Cycle.mem_candidates_iff.1 hcandidate
    exact ⟨hseed, hhost⟩
  · obtain ⟨⟨target, outcome⟩, hmem, hanswering⟩ :=
      List.mem_filterMap.1 (htakes.sublist.subset hp)
    cases outcome with
    | ok answer =>
        exact ⟨target, answer, hmem, (Option.some.inj hanswering).symm, htakes.fresh p hp⟩
    | error e => cases hanswering
  · have hanswers : (⟨target.address.host, target.address, answer⟩ : Peer) ∈
        results.filterMap Cycle.answering? := List.mem_filterMap.2 ⟨_, hmem, rfl⟩
    have hregistered := htakes.registered _ hanswers
    exact hregistered hlocal hfree
  · rw [hcount]
    exact htakes.size

/-- Seeds at the host of a peer, under the identifier of a peer, under the reserved one, at one host
in different letter case, and at a host that does not answer. -/
def seeded : MonitorConfig :=
  { MonitorConfig.builtin with
    seeds := [⟨"10.0.0.1", 80⟩, ⟨"10.0.0.9", defaultPort⟩, ⟨"local", defaultPort⟩,
      ⟨"NODE", defaultPort⟩, ⟨"node", 80⟩, ⟨"10.0.0.7", defaultPort⟩] }

/-- A cycle begins where two peers are registered. -/
def planted : Traffic :=
  (start quiet).run
    [.access (.enroll ⟨"a", ⟨"10.0.0.1", defaultPort⟩, .unseen⟩),
      .access (.enroll ⟨"10.0.0.9", ⟨"10.0.0.2", defaultPort⟩, .unseen⟩), .cycle seeded]

/-- Until the seeds are looked up, the peers fail, and one is removed and enrolled again. -/
def untilSeeds : List Move :=
  [.proceed 0 .nothing,
    .proceed 0 (.outcomes
      [(⟨"10.0.0.9", ⟨"10.0.0.2", defaultPort⟩⟩, .error ⟨"10.0.0.2:11434", .network "refused"⟩),
        (⟨"a", ⟨"10.0.0.1", defaultPort⟩⟩, .error ⟨"10.0.0.1:11434", .network "refused"⟩)]),
    .access (.remove "a"), .proceed 0 .nothing, .proceed 0 .nothing,
    .access (.enroll ⟨"a", ⟨"10.0.0.1", defaultPort⟩, .unseen⟩), .proceed 0 .nothing]

/-- What the probes of the seeds bring, in the order they are done. -/
def seedOutcomes : List (Target × Outcome) :=
  [(⟨"10.0.0.7:11434", ⟨"10.0.0.7", defaultPort⟩⟩,
      .error ⟨"10.0.0.7:11434", .network "refused"⟩),
    (⟨"node:80", ⟨"node", 80⟩⟩, .ok .unseen),
    (⟨"local:11434", ⟨"local", defaultPort⟩⟩, .ok .unseen),
    (⟨"NODE:11434", ⟨"NODE", defaultPort⟩⟩, .ok .unseen),
    (⟨"10.0.0.9:11434", ⟨"10.0.0.9", defaultPort⟩⟩, .ok .unseen)]

def untilFinished : List Move :=
  List.replicate 7 (.proceed 0 .nothing) ++ .proceed 0 (.outcomes seedOutcomes) ::
    List.replicate 6 (.proceed 0 .nothing)

theorem undisturbed_untilFinished (t : Traffic) : t.Undisturbed 0 untilFinished := by
  have hall : ∀ m ∈ untilFinished, ∃ arrival, m = .proceed 0 arrival := by
    simp [untilFinished]
  intro before m hbegin
  exact .inl (hall m (hbegin.subset (List.mem_append_right _ List.mem_cons_self)))

theorem cycle_takes_in_answering_seeds_planted :
    planted.calls[0]? = some (.cycling seeded (.first seeded)) ∧
    (planted.run untilSeeds).calls[0]? =
      some (.cycling seeded (.seeking ⟨0, 2, 0, 2, 0, false⟩ seeded.seeds [])) ∧
    (planted.run untilSeeds).Undisturbed 0 untilFinished ∧
    ((planted.run untilSeeds).run untilFinished).calls[0]? =
      some (.cycling seeded (.finished ⟨1, 2, 0, 2, 1, false⟩)) ∧
    ∃ (results : List (Target × Outcome)) (inserted : List Peer),
      .proceed 0 (.outcomes results) ∈ untilFinished ∧
      inserted.Sublist (results.filterMap Cycle.answering?) ∧
      (∀ id p, ((planted.run untilSeeds).run untilFinished).registry.get? id = some p ↔
        (planted.run untilSeeds).registry.get? id = some p ∨ p ∈ inserted ∧ p.id = id) ∧
      1 = inserted.length := by
  have hfirst : planted.calls[0]? = some (.cycling seeded (.first seeded)) := rfl
  have hseeking : (planted.run untilSeeds).calls[0]? =
      some (.cycling seeded (.seeking ⟨0, 2, 0, 2, 0, false⟩ seeded.seeds [])) := rfl
  have halone := undisturbed_untilFinished (planted.run untilSeeds)
  have hfinished : ((planted.run untilSeeds).run untilFinished).calls[0]? =
      some (.cycling seeded (.finished ⟨1, 2, 0, 2, 1, false⟩)) := rfl
  obtain ⟨results, inserted, hbrought, -, -, hsublist, -, hget, -, -, hcount, -⟩ :=
    cycle_takes_in_answering_seeds hfirst hseeking halone hfinished
  exact ⟨hfirst, hseeking, halone, hfinished, results, inserted, hbrought, hsublist, hget, hcount⟩

end Traffic

end InferenceFleet
