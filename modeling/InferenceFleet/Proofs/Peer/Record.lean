import InferenceFleet.Peer.Record
import InferenceFleet.Proofs.Json.RoundTrip
import InferenceFleet.Proofs.Text.Trimmed

/-!
# Peer records are read back

What is kept of the record of a peer stands for that peer again, exactly if the peer has an address
and a capability that are sound (`toPeer_ofPeer_eq_ok_iff`). Its identifier need not be in the
record: it is derived from the name and the address once more, and comes out the same because a name
without outer blanks loses nothing when blanks are cut off again (`named_ofPeer`).
-/

namespace InferenceFleet

instance (c : Capability) : Decidable c.IsSound := inferInstanceAs (Decidable (_ = _))

theorem Address.check_eq_ok_iff {a : Address} : a.check = .ok () ↔ a.IsSound := by
  unfold check IsSound
  cases a.fault? <;> simp

theorem Capability.check_eq_ok_iff {c : Capability} : c.check = .ok () ↔ c.IsSound := by
  unfold check IsSound
  cases c.fault? <;> simp

namespace Peer

/-- A peer whose identifier is the name it was given or, without one, its host. -/
def IsNamed (p : Peer) : Prop := ∃ name, p.id = idOf p.address name

theorem isNamed_named (address : Address) (name : Option String) (c : Capability) :
    (named address name c).IsNamed := ⟨name, rfl⟩

/-- A named peer is named by what its record says. -/
theorem IsNamed.named_ofPeer {p : Peer} (h : p.IsNamed) :
    named p.address (PeerRecord.ofPeer p).name p.capability = p := by
  obtain ⟨id, address, capability⟩ := p
  obtain ⟨name, hid⟩ := h
  simp only [PeerRecord.ofPeer, named, mk.injEq, and_true]
  by_cases hhost : id = address.host
  · rw [if_pos hhost, hhost]
    rfl
  · rw [if_neg hhost]
    cases name with
    | none => exact absurd hid hhost
    | some name =>
        simp only [idOf, Option.map_some] at hid ⊢
        by_cases hempty : Text.trim name = ""
        · rw [if_pos hempty] at hid
          exact absurd hid hhost
        · rw [if_neg hempty] at hid
          rw [hid, Text.trim_trim, if_neg hempty]

/-- A peer that a file may bring. -/
def IsSound (p : Peer) : Prop := p.address.IsSound ∧ p.capability.IsSound

instance (p : Peer) : Decidable p.IsSound := inferInstanceAs (Decidable (_ ∧ _))

end Peer

namespace TextSet

theorem ext_contains {s s' : TextSet} (h : ∀ item, s.contains item = s'.contains item) :
    s = s' := by
  obtain ⟨m⟩ := s
  obtain ⟨m'⟩ := s'
  refine congrArg mk (TextMap.ext_get? fun key => ?_)
  have hkey : (m.get? key).isSome = (m'.get? key).isSome := h key
  cases hget : m.get? key <;> cases hget' : m'.get? key <;> simp_all

theorem mem_toList_iff {s : TextSet} {item : String} :
    item ∈ s.toList ↔ s.contains item = true := by
  simp only [toList, TextMap.keys, List.mem_map, contains, TextMap.contains,
    Option.isSome_iff_exists]
  constructor
  · rintro ⟨⟨key, value⟩, hmem, rfl⟩
    exact ⟨value, TextMap.mem_entries_iff.1 hmem⟩
  · rintro ⟨value, hget⟩
    exact ⟨(item, value), TextMap.mem_entries_iff.2 hget, rfl⟩

/-- A set is the set of its members. -/
theorem ofList_toList (s : TextSet) : ofList s.toList = s := by
  refine ext_contains fun item => ?_
  cases hitem : s.contains item with
  | true => simp [ofList, mem_toList_iff.2 hitem]
  | false =>
      have hnot : item ∉ s.toList := fun hmem => by simp [mem_toList_iff.1 hmem] at hitem
      simp [ofList, hnot]

theorem mem_toList_ofList {items : List String} {item : String} :
    item ∈ (ofList items).toList ↔ item ∈ items := by
  simp [mem_toList_iff, ofList]

end TextSet

namespace Tree

/-- Where each part is read as what it is the image of, so is the whole. -/
theorem mapM_map_eq_some {α β : Type} {image : α → β} {read? : β → Option α} {items : List α}
    (h : ∀ item ∈ items, read? (image item) = some item) :
    (items.map image).mapM read? = some items := by
  induction items with
  | nil => rfl
  | cons item rest ih =>
      rw [List.forall_mem_cons] at h
      rw [List.map_cons, List.mapM_cons, h.1, ih h.2]
      rfl

theorem texts?_kept_ofTexts (items : List String) :
    texts? (Json.kept (ofTexts items)) = some items := by
  rw [ofTexts, Json.kept, texts?, list?, Json.keptItems_eq, List.map_map]
  exact mapM_map_eq_some fun _ _ => rfl

theorem word16?_integer (n : UInt16) : word16? (.integer n.toNat) = some n := by
  have hn : n.toNat ≤ Text.maxWord16 := Nat.le_of_lt_succ n.toNat_lt
  simp [word16?, word?, hn]

theorem word32?_integer (n : UInt32) : word32? (.integer n.toNat) = some n := by
  have hn : n.toNat ≤ Text.maxWord32 := Nat.le_of_lt_succ n.toNat_lt
  simp [word32?, word?, hn]

/-- A number that is read back is there, and any other number is not. -/
theorem number?_kept (x : Binary64) :
    number? (Json.kept (.number x)) = if x.isFinite then some x else none := by
  cases hfinite : x.isFinite <;> simp [Json.kept, hfinite, number?]

end Tree

namespace Capability

open InferenceFleet.Tree

/-- All amounts and the load are finite. -/
def IsFinite (c : Capability) : Prop :=
  c.memoryGb.isFinite = true ∧ c.gpuMemoryGb.isFinite = true ∧ c.load.isFinite = true

instance (c : Capability) : Decidable c.IsFinite := inferInstanceAs (Decidable (_ ∧ _))

/-- The numbers of a capability that are finite and the time it is of are read back as they were. -/
structure IsReadBack (c : Capability) : Prop where
  memoryGb : c.memoryGb.isFinite = true → Json.ReadsBack c.memoryGb
  gpuMemoryGb : c.gpuMemoryGb.isFinite = true → Json.ReadsBack c.gpuMemoryGb
  load : c.load.isFinite = true → Json.ReadsBack c.load
  lastSeen : Timestamp.read? c.lastSeen.text = some c.lastSeen

theorem IsSound.isFinite {c : Capability} (h : c.IsSound) : c.IsFinite := by
  obtain ⟨hload, hmemory, hgpu, -⟩ := isSound_iff.1 h
  simp only [isLoad, isAmount, Bool.and_eq_true] at hload hmemory hgpu
  exact ⟨hmemory.1, hgpu.1, hload.1.1⟩

/-- What is kept of a capability stands for it, if all its numbers are finite, and for none else. -/
theorem ofTree?_kept {c : Capability} (h : c.IsReadBack) :
    ofTree? (Json.kept c.toTree) = if c.IsFinite then some c else none := by
  have hmembers : (Json.kept c.toTree).members? .json members =
      some [("cpu_cores", .integer c.cpuCores.toNat), ("memory_gb", Json.kept (.number c.memoryGb)),
        ("gpu_memory_gb", Json.kept (.number c.gpuMemoryGb)),
        ("models", Json.kept (ofTexts c.models.toList)), ("load_avg", Json.kept (.number c.load)),
        ("available", .bool c.available), ("last_seen", .text c.lastSeen.text)] := rfl
  have hmodels := texts?_kept_ofTexts c.models.toList
  simp only [ofTree?, hmembers, Option.bind_eq_bind, Option.bind_some, defaulting?,
    List.lookup_cons, beq_self_eq_true, String.reduceBEq, word32?_integer, number?_kept, hmodels,
    bool?, text?, h.lastSeen, TextSet.ofList_toList]
  by_cases hmemory : c.memoryGb.isFinite = true <;>
    by_cases hgpu : c.gpuMemoryGb.isFinite = true <;>
    by_cases hload : c.load.isFinite = true <;>
    simp [IsFinite, hmemory, hgpu, hload]

end Capability

namespace PeerRecord

open InferenceFleet.Tree

/-- The fields that are kept of a record, by the names of its members. -/
theorem members?_kept (r : PeerRecord) :
    (Json.kept r.toTree).members? .json members =
      some (r.name.toList.map (fun name => ("name", Tree.text name)) ++
        [("ip", .text r.host), ("port", .integer r.port.toNat),
          ("capabilities", (r.capability.map fun c => Json.kept c.toTree).getD .null)]) := by
  obtain ⟨name, host, port, capability⟩ := r
  cases name <;> cases capability <;> rfl

theorem option?_text (s : String) : option? text? (.text s) = some (some s) := rfl

theorem option?_capability (c : Capability) :
    option? Capability.ofTree? (Json.kept c.toTree) =
      (Capability.ofTree? (Json.kept c.toTree)).map some := rfl

/-- What is kept of a record stands for it, if the numbers in it are finite, and for none else. -/
theorem ofTree?_kept {r : PeerRecord} (h : ∀ c ∈ r.capability, c.IsReadBack) :
    ofTree? (Json.kept r.toTree) = if ∀ c ∈ r.capability, c.IsFinite then some r else none := by
  obtain ⟨name, host, port, capability⟩ := r
  have hcapability : option? Capability.ofTree?
      ((capability.map fun c => Json.kept c.toTree).getD .null) =
        if ∀ c ∈ capability, c.IsFinite then some capability else none := by
    cases capability with
    | none => simp [option?]
    | some c =>
        by_cases hfinite : c.IsFinite <;>
          simp [option?_capability, Capability.ofTree?_kept (h c rfl), hfinite]
  rw [ofTree?, members?_kept]
  by_cases hfinite : ∀ c ∈ capability, c.IsFinite
  · rw [if_pos hfinite] at hcapability ⊢
    cases name <;>
      simp [optional?, required?, defaulting?, List.lookup_cons, option?_text, hcapability, text?,
        word16?_integer]
  · rw [if_neg hfinite] at hcapability ⊢
    cases name <;>
      simp [optional?, required?, defaulting?, List.lookup_cons, option?_text, hcapability]

theorem ofTree?_kept_ofPeer {p : Peer} (h : p.capability.IsReadBack) :
    ofTree? (Json.kept (ofPeer p).toTree) =
      if p.capability.IsFinite then some (ofPeer p) else none := by
  have hkept := ofTree?_kept (r := ofPeer p) (by simpa [ofPeer] using h)
  simpa [ofPeer] using hkept

/-- The peer of a record is named by it, and is there exactly if it is sound. -/
theorem toPeer_eq_ok_iff {r : PeerRecord} {p : Peer} :
    r.toPeer = .ok p ↔
      p.IsSound ∧ p = Peer.named ⟨r.host, r.port⟩ r.name (r.capability.getD .unseen) := by
  unfold toPeer
  constructor
  · intro h
    dsimp only at h
    split at h
    · cases h
    · next haddress =>
        split at h
        · cases h
        · next hcapability =>
            obtain rfl := Except.ok.inj h
            have hsound := Capability.check_eq_ok_iff.1 hcapability
            exact ⟨⟨Address.check_eq_ok_iff.1 haddress, hsound⟩, rfl⟩
  · rintro ⟨⟨haddress, hcapability⟩, rfl⟩
    have haddress' := Address.check_eq_ok_iff.2 haddress
    have hcapability' := Capability.check_eq_ok_iff.2 hcapability
    simp only [Peer.named] at haddress' hcapability'
    simp only [haddress', hcapability']

/-- The peer of the record of a peer is that peer. -/
theorem toPeer_ofPeer_eq_ok_iff {p q : Peer} (h : p.IsNamed) :
    (ofPeer p).toPeer = .ok q ↔ q.IsSound ∧ q = p := by
  have hsame : Peer.named ⟨(ofPeer p).host, (ofPeer p).port⟩ (ofPeer p).name
      ((ofPeer p).capability.getD .unseen) = p := h.named_ofPeer
  rw [toPeer_eq_ok_iff, hsame]

end PeerRecord

end InferenceFleet
