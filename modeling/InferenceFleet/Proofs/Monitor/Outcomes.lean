import InferenceFleet.Proofs.Interleaving.Traffic
import Mathlib.Data.List.Forall2

/-!
# What outcomes leave behind

Applying the outcomes of a batch changes capabilities, and leaves something behind elsewhere: an
event for each outcome that was applied, and an entry in the error window for each failure, both in
the order in which the outcomes came. Nobody is added or removed, nothing is written to files, and
no cycle is counted. `leaves_applyOutcome` says so of one outcome, `leaves_applyOutcomes` of a batch.
What becomes of a single peer depends on its own outcome alone (`get?_applyOutcomes_of_mem`).
-/

namespace InferenceFleet

namespace Cycle

/-- The event of an outcome. The answer of a peer that was removed is told to nobody. -/
def eventOf? (r : Registry) : Target × Outcome → Option ProbeEvent
  | (target, .ok c) =>
      if (r.get? target.id).isSome then some (.succeeded target.id c.models.size c.load) else none
  | (target, .error e) => some (.failed target.id e.failureClass)

/-- The failure that an outcome is. -/
def failureOf? : Target × Outcome → Option (String × ProbeError)
  | (_, .ok _) => none
  | (target, .error e) => some (target.id, e)

/-- What an error window keeps of a failure that is recorded at some reading of a clock. -/
def EntryOf (clock : Clock) (entry : Duration × ProbeFailure) (failure : String × ProbeError) :
    Prop :=
  ∃ n, entry = ((clock.reading n).elapsed,
    ProbeFailure.of failure.1 failure.2 (clock.reading n).wall)

/-- All that outcomes leave behind besides the capabilities of peers. -/
structure Leaves (results : List (Target × Outcome)) (f f' : Fleet) : Prop where
  ids : ∀ id, (f'.registry.get? id).isSome = (f.registry.get? id).isSome
  files : f'.files = f.files
  completed : f'.completed = f.completed
  reading : f'.clock.reading = f.clock.reading
  events : f'.events = f.events.map (· ++ results.filterMap (eventOf? f.registry))
  errors : ∃ entries, List.Forall₂ (EntryOf f.clock) entries (results.filterMap failureOf?) ∧
    f'.errors = entries.foldl (fun window entry => window.push entry.1 entry.2) f.errors

theorem Leaves.nil (f : Fleet) : Leaves [] f f where
  ids _ := rfl
  files := rfl
  completed := rfl
  reading := rfl
  events := by simp
  errors := ⟨[], .nil, rfl⟩

theorem eventOf?_congr {r r' : Registry}
    (hids : ∀ id, (r'.get? id).isSome = (r.get? id).isSome) : eventOf? r' = eventOf? r := by
  funext result
  obtain ⟨target, outcome⟩ := result
  cases outcome with
  | ok c => simp only [eventOf?, hids]
  | error e => rfl

theorem Leaves.append {results results' : List (Target × Outcome)} {f f₁ f' : Fleet}
    (h : Leaves results f f₁) (h' : Leaves results' f₁ f') : Leaves (results ++ results') f f' where
  ids id := (h'.ids id).trans (h.ids id)
  files := h'.files.trans h.files
  completed := h'.completed.trans h.completed
  reading := h'.reading.trans h.reading
  events := by
    rw [h'.events, h.events, eventOf?_congr h.ids, List.filterMap_append, Option.map_map]
    simp only [Function.comp_def, List.append_assoc]
  errors := by
    obtain ⟨entries, hentries, heq⟩ := h.errors
    obtain ⟨entries', hentries', heq'⟩ := h'.errors
    have hclock : EntryOf f₁.clock = EntryOf f.clock := by
      unfold EntryOf
      rw [h.reading]
    rw [hclock] at hentries'
    refine ⟨entries ++ entries', ?_, ?_⟩
    · rw [List.filterMap_append]
      exact List.rel_append hentries hentries'
    · rw [List.foldl_append, ← heq]
      exact heq'

/-- What one outcome does to the fleet does not depend on the report. -/
theorem applyOutcome_fst (f : Fleet) (report report' : CycleReport) (result : Target × Outcome) :
    (applyOutcome (f, report) result).1 = (applyOutcome (f, report') result).1 := by
  obtain ⟨target, outcome⟩ := result
  cases outcome with
  | ok c =>
      simp only [applyOutcome]
      cases f.update target.id c <;> rfl
  | error e => rfl

theorem applyOutcomes_fst (f : Fleet) (report report' : CycleReport)
    (results : List (Target × Outcome)) :
    (applyOutcomes f report results).1 = (applyOutcomes f report' results).1 := by
  induction results generalizing f report report' with
  | nil => rfl
  | cons result rest ih =>
      have hhead := applyOutcome_fst f report report' result
      calc (applyOutcomes f report (result :: rest)).1
          = (applyOutcomes (applyOutcome (f, report) result).1
              (applyOutcome (f, report) result).2 rest).1 := rfl
        _ = (applyOutcomes (applyOutcome (f, report') result).1
              (applyOutcome (f, report') result).2 rest).1 := by rw [hhead]; exact ih _ _ _

/-- A probe of a peer says nothing of who is there. -/
theorem ids_applyOutcome (f : Fleet) (report : CycleReport) (result : Target × Outcome)
    (id : String) :
    ((applyOutcome (f, report) result).1.registry.get? id).isSome =
      (f.registry.get? id).isSome := by
  obtain ⟨target, outcome⟩ := result
  rw [applyOutcome_registry]
  cases outcome with
  | ok c =>
      rw [Registry.get?_perform]
      by_cases hid : target.id = id
      · simp [Access.id, Access.entry, hid]
      · exact congrArg Option.isSome (if_neg hid)
  | error e =>
      rw [Registry.get?_perform]
      by_cases hid : target.id = id
      · simp [Access.id, Access.entry, hid]
      · exact congrArg Option.isSome (if_neg hid)

/-- Marking a peer as unavailable is a matter of the registry alone. -/
theorem exists_markUnavailable_eq (f : Fleet) (id : String) :
    ∃ registry, f.markUnavailable id = { f with registry := registry } := by
  unfold Fleet.markUnavailable
  cases f.registry.markUnavailable id with
  | error e => exact ⟨f.registry, rfl⟩
  | ok registry => exact ⟨registry, rfl⟩

theorem leaves_applyOutcome (f : Fleet) (report : CycleReport) (result : Target × Outcome) :
    Leaves [result] f (applyOutcome (f, report) result).1 := by
  have hids := ids_applyOutcome f report result
  obtain ⟨target, outcome⟩ := result
  cases outcome with
  | ok c =>
      cases hget : f.registry.get? target.id with
      | none =>
          have hsame : (applyOutcome (f, report) (target, .ok c)).1 = f := by
            simp only [applyOutcome, Fleet.update, Registry.update, hget]
          refine ⟨hids, ?_, ?_, ?_, ?_, [], .nil, ?_⟩ <;> rw [hsame]
          · simp [eventOf?, hget]
          · rfl
      | some p =>
          obtain ⟨registry, hupdate⟩ : ∃ registry,
              f.registry.update target.id c f.clock.now.wall = .ok registry := by
            simp only [Registry.update, hget]
            exact ⟨_, rfl⟩
          have hafter : (applyOutcome (f, report) (target, .ok c)).1 =
              ({ f with registry := registry, clock := f.clock.tick } : Fleet).emit
                (.succeeded target.id c.models.size c.load) := by
            simp only [applyOutcome, Fleet.update, hupdate]
          refine ⟨hids, ?_, ?_, ?_, ?_, [], .nil, ?_⟩ <;> rw [hafter]
          · rfl
          · rfl
          · rfl
          · simp [eventOf?, hget, Fleet.emit]
          · rfl
  | error e =>
      obtain ⟨registry, hmarked⟩ := exists_markUnavailable_eq f target.id
      have hafter : (applyOutcome (f, report) (target, .error e)).1 =
          (({ f with registry := registry } : Fleet).recordFailure target.id e).emit
            (.failed target.id e.failureClass) := by
        rw [← hmarked]
        rfl
      refine ⟨hids, ?_, ?_, ?_, ?_,
        [(f.clock.now.elapsed, .of target.id e f.clock.now.wall)],
        .cons ⟨f.clock.taken, rfl⟩ .nil, ?_⟩ <;> rw [hafter]
      · rfl
      · rfl
      · rfl
      · rfl
      · rfl

/-- A batch leaves behind what its outcomes leave behind one after the other. -/
theorem leaves_applyOutcomes (f : Fleet) (report : CycleReport)
    (results : List (Target × Outcome)) : Leaves results f (applyOutcomes f report results).1 := by
  induction results generalizing f report with
  | nil => exact .nil f
  | cons result rest ih => exact (leaves_applyOutcome f report result).append (ih _ _)

/-- A peer after an outcome that was applied at some time. -/
def settled (p : Peer) (now : Timestamp) : Outcome → Peer
  | .ok answer => { p with capability := Registry.refreshed p.capability answer now }
  | .error _ => { p with capability := { p.capability with available := false } }

theorem get?_applyOutcome (f : Fleet) (report : CycleReport) (result : Target × Outcome)
    (id : String) :
    (applyOutcome (f, report) result).1.registry.get? id =
      if result.1.id = id then
        (f.registry.get? id).map fun p => settled p f.clock.now.wall result.2
      else f.registry.get? id := by
  obtain ⟨target, outcome⟩ := result
  rw [applyOutcome_registry, Registry.get?_perform]
  cases outcome with
  | ok answer =>
      by_cases hid : target.id = id
      · simp only [Access.id, Access.entry, hid]
        rfl
      · exact (if_neg hid).trans (if_neg hid).symm
  | error e =>
      by_cases hid : target.id = id
      · simp only [Access.id, Access.entry, hid]
        rfl
      · exact (if_neg hid).trans (if_neg hid).symm

theorem get?_applyOutcomes_of_forall_ne {results : List (Target × Outcome)} {id : String}
    (hothers : ∀ result ∈ results, result.1.id ≠ id) (f : Fleet) (report : CycleReport) :
    (applyOutcomes f report results).1.registry.get? id = f.registry.get? id := by
  induction results generalizing f report with
  | nil => rfl
  | cons result rest ih =>
      obtain ⟨hhead, hrest⟩ := List.forall_mem_cons.1 hothers
      have hstep := get?_applyOutcome f report result id
      rw [if_neg hhead] at hstep
      exact (ih hrest (applyOutcome (f, report) result).1 _).trans hstep

/-- A peer that is named in a batch once is settled by its own outcome, wherever that stands. -/
theorem get?_applyOutcomes_of_mem {results : List (Target × Outcome)} {target : Target}
    {outcome : Outcome} (hnodup : (results.map fun result => result.1.id).Nodup)
    (hmem : (target, outcome) ∈ results) {f : Fleet} {p : Peer}
    (hget : f.registry.get? target.id = some p) (report : CycleReport) :
    ∃ now, (applyOutcomes f report results).1.registry.get? target.id =
      some (settled p now outcome) := by
  induction results generalizing f report with
  | nil => cases hmem
  | cons result rest ih =>
      obtain ⟨hfresh, hrest⟩ := List.nodup_cons.1 hnodup
      have hstep := get?_applyOutcome f report result target.id
      rcases List.mem_cons.1 hmem with rfl | hlater
      · have hothers : ∀ other ∈ rest, other.1.id ≠ target.id := by
          intro other hother heq
          exact hfresh (List.mem_map.2 ⟨other, hother, heq⟩)
        rw [if_pos rfl, hget] at hstep
        exact ⟨f.clock.now.wall, (get?_applyOutcomes_of_forall_ne hothers
          (applyOutcome (f, report) (target, outcome)).1 _).trans hstep⟩
      · have hother : result.1.id ≠ target.id := by
          intro heq
          exact hfresh (List.mem_map.2 ⟨_, hlater, heq.symm⟩)
        rw [if_neg hother, hget] at hstep
        exact ih hrest hlater hstep _

end Cycle

end InferenceFleet
