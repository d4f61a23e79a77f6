import InferenceFleet.Probe.Exchange
import InferenceFleet.Proofs.Peer.Record

/-!
# What a probe brings is sound

Whatever a node answers, a probe over HTTP brings a capability that is sound or none at all
(`isSound_of_probe`): both documents that count as an answer are checked before they are taken for a
capability, and what a list of models leaves open is that of an unseen node.
-/

namespace InferenceFleet

theorem CapabilityDocument.isSound_of_toCapability {d : CapabilityDocument} {now : Timestamp}
    {c : Capability} (h : d.toCapability now = .ok c) : c.IsSound := by
  unfold toCapability at h
  dsimp only at h
  split at h
  · cases h
  · next hcheck =>
      obtain rfl := Except.ok.inj h
      exact Capability.check_eq_ok_iff.1 hcheck

theorem ModelList.isSound_of_toCapability {l : ModelList} {now : Timestamp} {c : Capability}
    (h : l.toCapability now = .ok c) : c.IsSound := by
  unfold toCapability at h
  split at h
  · cases h
  · next hnames =>
      obtain rfl := Except.ok.inj h
      have hall : ∀ name ∈ l.names, Text.isBlankText name = false := by simpa using hnames
      have hzero : Capability.isLoad .zero = true ∧ Capability.isAmount .zero = true := by decide
      refine Capability.isSound_iff.2 ⟨hzero.1, hzero.2, hzero.2, fun name hname => ?_⟩
      exact hall name (TextSet.mem_toList_ofList.1 hname)

namespace Exchange

section

variable {ε ε' α β : Type}

/-- Two steps succeed if the first one does, and the second one with what that brings. -/
theorem bind_eq_ok_iff {first : Except ε α} {second : α → Except ε β} {b : β} :
    first >>= second = .ok b ↔ ∃ a, first = .ok a ∧ second a = .ok b := by
  cases first <;> simp [bind, Except.bind]

/-- To put an error in other words changes no success. -/
theorem mapError_eq_ok_iff {result : Except ε α} {reword : ε → ε'} {a : α} :
    result.mapError reword = .ok a ↔ result = .ok a := by
  cases result <;> simp [Except.mapError]

end

variable {transport : Transport} {deadline : Duration} {a : Address} {now : Timestamp}
  {c : Capability}

theorem isSound_of_ofModelList {status : Status} {body : Except String ByteArray}
    (h : ofModelList now status body = .ok c) : c.IsSound := by
  obtain ⟨l, -, hl⟩ := bind_eq_ok_iff.1 h
  exact ModelList.isSound_of_toCapability (mapError_eq_ok_iff.1 hl)

theorem isSound_of_ofCapabilityDocument {status : Status} {body : Except String ByteArray}
    (h : ofCapabilityDocument now status body = .ok c) : c.IsSound := by
  obtain ⟨d, -, hd⟩ := bind_eq_ok_iff.1 h
  exact CapabilityDocument.isSound_of_toCapability (mapError_eq_ok_iff.1 hd)

theorem isSound_of_tags {time : Duration} (h : tags transport a now = some (time, .ok c)) :
    c.IsSound := by
  unfold tags at h
  split at h
  · cases h
  · cases h
  · obtain ⟨-, hlist⟩ := Prod.mk.inj (Option.some.inj h)
    exact isSound_of_ofModelList hlist

theorem isSound_of_whole {time : Duration} (h : whole transport a now = some (time, .ok c)) :
    c.IsSound := by
  unfold whole at h
  split at h
  · cases h
  · cases h
  · split at h
    · obtain ⟨⟨more, result⟩, htags, heq⟩ := Option.map_eq_some_iff.1 h
      obtain ⟨-, rfl⟩ := Prod.mk.inj heq
      exact isSound_of_tags htags
    · obtain ⟨-, hdocument⟩ := Prod.mk.inj (Option.some.inj h)
      exact isSound_of_ofCapabilityDocument hdocument

/-- What was brought before the deadline is what the exchange brought. -/
theorem eq_of_within {exchange : Option (Duration × Except ProbeFault Capability)}
    {time : Duration} (h : within deadline exchange = (time, .ok c)) :
    exchange = some (time, .ok c) := by
  unfold within at h
  split at h
  · split at h
    · rw [h]
    · cases h
  · cases h

/-- A probe that is answered brings a sound capability, whatever the answer. -/
theorem isSound_of_probe (h : (probe transport deadline a now).2 = .ok c) : c.IsSound := by
  rw [probe] at h
  rcases hwithin : within deadline (whole transport a now) with ⟨time, result⟩
  rw [hwithin] at h
  obtain rfl : result = .ok c := mapError_eq_ok_iff.1 h
  exact isSound_of_whole (eq_of_within hwithin)

end Exchange

end InferenceFleet
