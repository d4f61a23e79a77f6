import InferenceFleet.Monitor.Batch

/-!
# What becomes of the targets of a batch

A target waits, is in flight, or is answered, and polling only moves targets from one of these to
the next. So a finished batch has one outcome for each target it was made of, whatever the delays
and however many probes there is room for, and the outcome is the one that its probe was launched
with.
-/

namespace InferenceFleet

namespace Batch

/-- The targets of a batch, wherever they are. -/
def targets (b : Batch) : List Target :=
  b.answered.map Prod.fst ++ b.inFlight.map Flight.target ++ b.waiting

@[simp]
theorem targets_new (ts : List Target) : (new ts).targets = ts := rfl

theorem targets_refill {launch : Target → Flight} (hlaunch : ∀ t, (launch t).target = t)
    (width : Nat) (b : Batch) : (b.refill launch width).targets = b.targets := by
  have hsame : ∀ ts : List Target, (ts.map launch).map Flight.target = ts := by
    intro ts
    rw [List.map_map]
    exact List.map_id'' hlaunch ts
  simp [targets, refill, hsame, List.append_assoc]

/-- The probe that ends is due, and the others stay in their order. -/
theorem eq_append_of_firstDue? {now : Duration} {flights others : List Flight} {flight : Flight}
    (hdue : firstDue? now flights = some (flight, others)) :
    ∃ before after, flights = before ++ flight :: after ∧ others = before ++ after ∧
      flight.due ≤ now := by
  induction flights generalizing others with
  | nil => cases hdue
  | cons head rest ih =>
      simp only [firstDue?] at hdue
      split at hdue
      · next hpast =>
          cases hdue
          exact ⟨[], rest, rfl, rfl, hpast⟩
      · obtain ⟨⟨found, left⟩, hfound, heq⟩ := Option.map_eq_some_iff.1 hdue
        cases heq
        obtain ⟨before, after, rfl, rfl, hpast⟩ := ih hfound
        exact ⟨head :: before, after, rfl, rfl, hpast⟩

theorem perm_of_firstDue? {now : Duration} {flights others : List Flight} {flight : Flight}
    (hdue : firstDue? now flights = some (flight, others)) : flights.Perm (flight :: others) := by
  obtain ⟨before, after, rfl, rfl, -⟩ := eq_append_of_firstDue? hdue
  exact List.perm_middle

theorem targets_pollFrom {launch : Target → Flight} (hlaunch : ∀ t, (launch t).target = t)
    (width : Nat) (now : Duration) (fuel : Nat) (b : Batch) :
    (b.pollFrom launch width now fuel).targets.Perm b.targets := by
  induction fuel generalizing b with
  | zero => exact List.Perm.refl _
  | succ fuel ih =>
      have hrefill := targets_refill hlaunch width b
      simp only [pollFrom]
      cases hdue : firstDue? now (b.refill launch width).inFlight with
      | none => rw [hrefill]
      | some found =>
          obtain ⟨flight, others⟩ := found
          refine (ih _).trans ?_
          rw [← hrefill]
          have hperm := (perm_of_firstDue? hdue).map Flight.target
          simp only [targets, List.map_append, List.map_cons, List.map_nil, List.append_assoc]
          refine List.Perm.append_left _ ?_
          exact (hperm.symm.append_right _)

/-- Polling loses no target and doubles none. -/
theorem targets_poll {launch : Target → Flight} (hlaunch : ∀ t, (launch t).target = t)
    (width : Nat) (now : Duration) (b : Batch) :
    (b.poll launch width now).targets.Perm b.targets :=
  targets_pollFrom hlaunch width now (b.remaining + 1) b

/-- A finished batch has answered all its targets. -/
theorem targets_of_isFinished {b : Batch} (hfinished : b.isFinished = true) :
    b.targets = b.answered.map Prod.fst := by
  obtain ⟨hwaiting, hflight⟩ := Bool.and_eq_true_iff.1 hfinished
  rw [targets, List.isEmpty_iff.1 hwaiting, List.isEmpty_iff.1 hflight]
  simp

/-- What the probes of a batch bring, those in flight included. -/
def outcomes (b : Batch) : List (Target × Outcome) :=
  b.answered ++ b.inFlight.map fun flight => (flight.target, flight.outcome)

@[simp]
theorem outcomes_new (ts : List Target) : (new ts).outcomes = [] := rfl

theorem mem_outcomes_refill {launch : Target → Flight} {width : Nat} {b : Batch}
    {result : Target × Outcome} (hmem : result ∈ (b.refill launch width).outcomes) :
    result ∈ b.outcomes ∨ ∃ t, result = ((launch t).target, (launch t).outcome) := by
  simp only [outcomes, refill, List.map_append, List.map_map, ← List.append_assoc] at hmem
  rcases List.mem_append.1 hmem with hold | hnew
  · exact .inl hold
  · obtain ⟨t, -, rfl⟩ := List.mem_map.1 hnew
    exact .inr ⟨t, rfl⟩

theorem mem_outcomes_pollFrom {launch : Target → Flight} {width : Nat} {now : Duration}
    {fuel : Nat} {b : Batch} {result : Target × Outcome}
    (hmem : result ∈ (b.pollFrom launch width now fuel).outcomes) :
    result ∈ b.outcomes ∨ ∃ t, result = ((launch t).target, (launch t).outcome) := by
  induction fuel generalizing b with
  | zero => exact .inl hmem
  | succ fuel ih =>
      simp only [pollFrom] at hmem
      cases hdue : firstDue? now (b.refill launch width).inFlight with
      | none =>
          rw [hdue] at hmem
          exact mem_outcomes_refill hmem
      | some found =>
          obtain ⟨flight, others⟩ := found
          rw [hdue] at hmem
          rcases ih hmem with hleft | hlaunched
          · -- The probe that ended was in flight before.
            have hperm := (perm_of_firstDue? hdue).map fun flight => (flight.target, flight.outcome)
            have hbefore : result ∈ (b.refill launch width).outcomes := by
              simp only [outcomes, List.append_assoc, List.mem_append] at hleft ⊢
              exact hleft.imp_right fun hright => hperm.mem_iff.2 (by simpa using hright)
            exact mem_outcomes_refill hbefore
          · exact .inr hlaunched

/-- An outcome of a batch is one that it had or one that a probe was launched with. -/
theorem mem_outcomes_poll {launch : Target → Flight} {width : Nat} {now : Duration} {b : Batch}
    {result : Target × Outcome} (hmem : result ∈ (b.poll launch width now).outcomes) :
    result ∈ b.outcomes ∨ ∃ t, result = ((launch t).target, (launch t).outcome) :=
  mem_outcomes_pollFrom hmem

theorem mem_outcomes_of_mem_answered {b : Batch} {result : Target × Outcome}
    (hmem : result ∈ b.answered) : result ∈ b.outcomes := List.mem_append_left _ hmem

theorem refill_of_waiting_eq_nil {launch : Target → Flight} {width : Nat} {b : Batch}
    (hwaiting : b.waiting = []) : b.refill launch width = b := by
  obtain ⟨waiting, inFlight, answered⟩ := b
  obtain rfl : waiting = [] := hwaiting
  simp [refill]

theorem filter_of_firstDue?_eq_none {now : Duration} {flights : List Flight}
    (hdue : firstDue? now flights = none) :
    flights.filter (fun flight => now < flight.due) = flights := by
  induction flights with
  | nil => rfl
  | cons head rest ih =>
      simp only [firstDue?] at hdue
      split at hdue
      · cases hdue
      · next hlate =>
          rw [List.filter_cons_of_pos (by simpa using hlate), ih (Option.map_eq_none_iff.1 hdue)]

theorem filter_of_firstDue?_eq_some {now : Duration} {flights others : List Flight}
    {flight : Flight} (hdue : firstDue? now flights = some (flight, others)) :
    flights.filter (fun flight => now < flight.due) =
      others.filter fun flight => now < flight.due := by
  induction flights generalizing others with
  | nil => cases hdue
  | cons head rest ih =>
      simp only [firstDue?] at hdue
      split at hdue
      · next hpast =>
          cases hdue
          rw [List.filter_cons_of_neg (by simpa using hpast)]
      · next hlate =>
          obtain ⟨⟨found, left⟩, hfound, heq⟩ := Option.map_eq_some_iff.1 hdue
          cases heq
          rw [List.filter_cons_of_pos (by simpa using hlate),
            List.filter_cons_of_pos (by simpa using hlate), ih hfound]

theorem inFlight_pollFrom {launch : Target → Flight} {width : Nat} {now : Duration} {fuel : Nat}
    {b : Batch} (hwaiting : b.waiting = []) (hfuel : b.inFlight.length < fuel) :
    (b.pollFrom launch width now fuel).waiting = [] ∧
      (b.pollFrom launch width now fuel).inFlight =
        b.inFlight.filter fun flight => now < flight.due := by
  induction fuel generalizing b with
  | zero => cases hfuel
  | succ fuel ih =>
      simp only [pollFrom]
      rw [refill_of_waiting_eq_nil hwaiting]
      cases hdue : firstDue? now b.inFlight with
      | none => exact ⟨hwaiting, (filter_of_firstDue?_eq_none hdue).symm⟩
      | some found =>
          obtain ⟨flight, others⟩ := found
          rw [filter_of_firstDue?_eq_some hdue]
          have hlength := (perm_of_firstDue? hdue).length_eq
          rw [List.length_cons] at hlength
          exact ih hwaiting (show others.length < fuel by omega)

theorem poll_new_nil (launch : Target → Flight) (width : Nat) (now : Duration) :
    (new []).poll launch width now = new [] := by
  simp only [poll, pollFrom, refill_of_waiting_eq_nil (show (new []).waiting = [] from rfl)]
  rfl

/-- Where there is room for all that wait, a poll starts all their probes, and of the probes on
their way just those that are not due stay so. -/
theorem inFlight_poll {launch : Target → Flight} {width : Nat} (now : Duration) {b : Batch}
    (hroom : b.inFlight.length + b.waiting.length ≤ width) :
    (b.poll launch width now).waiting = [] ∧
      (b.poll launch width now).inFlight =
        (b.inFlight ++ b.waiting.map launch).filter fun flight => now < flight.due := by
  have hwaiting : (b.refill launch width).waiting = [] :=
    List.drop_eq_nil_of_le (by omega)
  have hflight : (b.refill launch width).inFlight = b.inFlight ++ b.waiting.map launch := by
    simp only [refill]
    rw [List.take_of_length_le (by omega)]
  have hrefilled : b.poll launch width now =
      (b.refill launch width).pollFrom launch width now (b.remaining + 1) := by
    simp only [poll, pollFrom]
    rw [refill_of_waiting_eq_nil hwaiting]
  rw [hrefilled, ← hflight]
  refine inFlight_pollFrom hwaiting ?_
  rw [hflight, List.length_append, List.length_map, remaining]
  omega

end Batch

end InferenceFleet
