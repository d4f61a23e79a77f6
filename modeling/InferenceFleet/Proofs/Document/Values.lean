import InferenceFleet.Proofs.Peer.Record
import InferenceFleet.Proofs.Text.Bindings
import InferenceFleet.Routing.Document

/-!
# Values that are read back

Whatever the program writes as JSON it can read: the texts of a value, compact or indented, are
read as that value again (`Json.Encodes.readsAs`). Each type has its tree, which can be written and
stands for the value once it has been read; lists and maps of such trees are of this kind again.
Texts may hold any characters. Numbers that are not finite are not written, and that the other ones
are read back, as the times are, is asked of a capability (`Capability.IsReadBack`).
-/

namespace InferenceFleet

open InferenceFleet.Tree

namespace Json

/-- The tree is one of the value: it can be written, and what is kept of it stands for the value. -/
structure Encodes {α : Type} (ofTree? : Tree → Option α) (depth : Nat) (t : Tree) (value : α) :
    Prop where
  writable : Writable depth t
  decodes : ofTree? (kept t) = some value

/-- The texts of the tree are read as the value, be it at once or as a value of their own first. -/
def ReadsAs {α : Type} (ofTree? : Tree → Option α) (t : Tree) (value : α) : Prop :=
  ∀ text ∈ [compact t, indented t],
    (read? text).bind ofTree? = some value ∧ (readGeneric? text).bind ofTree? = some value

theorem Encodes.readsAs {α : Type} {ofTree? : Tree → Option α} {t : Tree} {value : α}
    (h : Encodes ofTree? maxDepth t value) : ReadsAs ofTree? t value := by
  have hlayout : ∀ l : Layout, (read? (l.text t)).bind ofTree? = some value ∧
      (readGeneric? (l.text t)).bind ofTree? = some value := by
    intro l
    rw [read?_text l h.writable, readGeneric?_text l h.writable, Option.bind_some, h.decodes]
    exact ⟨rfl, rfl⟩
  intro text htext
  simp only [List.mem_cons, List.not_mem_nil, or_false] at htext
  rcases htext with rfl | rfl
  · rw [← Layout.text_compact]
    exact hlayout .compact
  · rw [← Layout.text_indented]
    exact hlayout .indented

section

variable {α : Type} {value? : Tree → Option α} {toTree : α → Tree} {depth : Nat}

theorem encodes_text (depth : Nat) (s : String) : Encodes text? depth (.text s) s :=
  ⟨.text s, rfl⟩

theorem encodes_list (items : List α)
    (h : ∀ item ∈ items, Encodes value? depth (toTree item) item) :
    Encodes (list? value?) (depth + 1) (.list (items.map toTree)) items where
  writable := by
    refine .list fun t ht => ?_
    obtain ⟨item, hitem, rfl⟩ := List.mem_map.1 ht
    exact (h item hitem).writable
  decodes := by
    rw [kept, list?, keptItems_eq, List.map_map]
    exact mapM_map_eq_some fun item hitem => (h item hitem).decodes

theorem encodes_ofTexts (depth : Nat) (items : List String) :
    Encodes texts? (depth + 1) (ofTexts items) items :=
  encodes_list items fun item _ => encodes_text depth item

/-- A map is written with its keys in order, so none is there twice. -/
theorem encodes_map (m : TextMap α) (h : ∀ value, Encodes value? depth (toTree value) value) :
    Encodes (PolicySettings.map? value?) (depth + 1)
      (.record (m.entries.map fun b => (b.1, toTree b.2))) m where
  writable := by
    refine .record ?_ fun field hfield => ?_
    · rw [List.map_map]
      exact m.keys_ascending.imp String.ne_of_lt
    · obtain ⟨b, -, rfl⟩ := List.mem_map.1 hfield
      exact (h b.2).writable
  decodes := by
    have hbindings : bindings? value? (kept (.record (m.entries.map fun b => (b.1, toTree b.2)))) =
        some m.entries := by
      rw [kept, bindings?, keptFields_eq, List.map_map]
      exact mapM_map_eq_some fun b _ => by simp [(h b.2).decodes]
    rw [PolicySettings.map?, hbindings, Option.map_some, TextMap.ofList_entries]

end

theorem writable_word {depth bound n : Nat} (hn : n < bound) (hbound : bound ≤ Text.maxWord64) :
    Writable depth (.integer n) := by
  refine .integer ?_ ?_ <;> omega

theorem writable_capability {depth : Nat} {c : Capability} (h : c.IsReadBack) :
    Writable (depth + 2) c.toTree := by
  refine .record (by simp) fun field hfield => ?_
  simp only [List.mem_cons, List.not_mem_nil, or_false] at hfield
  rcases hfield with rfl | rfl | rfl | rfl | rfl | rfl | rfl
  · exact writable_word c.cpuCores.toNat_lt (by decide)
  · exact .number h.memoryGb
  · exact .number h.gpuMemoryGb
  · exact (encodes_ofTexts depth _).writable
  · exact .number h.load
  · exact .bool _
  · exact .text _

end Json

open Json

theorem Address.encodes (depth : Nat) (a : Address) :
    Encodes ofTree? (depth + 1) a.toTree a where
  writable := by
    refine .record (by simp) fun field hfield => ?_
    simp only [List.mem_cons, List.not_mem_nil, or_false] at hfield
    rcases hfield with rfl | rfl
    · exact .text _
    · exact writable_word a.port.toNat_lt (by decide)
  decodes := by
    have hmembers : (kept a.toTree).members? .json members =
        some [("ip", .text a.host), ("port", .integer a.port.toNat)] := rfl
    simp [ofTree?, hmembers, required?, List.lookup_cons, text?, word16?_integer]

theorem Capability.encodes (depth : Nat) {c : Capability} (hfinite : c.IsFinite)
    (hback : c.IsReadBack) : Encodes ofTree? (depth + 2) c.toTree c where
  writable := writable_capability hback
  decodes := by rw [ofTree?_kept hback, if_pos hfinite]

theorem Peer.encodes (depth : Nat) {p : Peer} (hfinite : p.capability.IsFinite)
    (hback : p.capability.IsReadBack) : Encodes ofTree? (depth + 3) p.toTree p where
  writable := by
    refine .record (by simp) fun field hfield => ?_
    simp only [List.mem_cons, List.not_mem_nil, or_false] at hfield
    rcases hfield with rfl | rfl | rfl
    · exact .text _
    · exact (Address.encodes (depth + 1) p.address).writable
    · exact (Capability.encodes depth hfinite hback).writable
  decodes := by
    have hmembers : (kept p.toTree).members? .json members =
        some [("id", .text p.id), ("addr", kept p.address.toTree),
          ("capability", kept p.capability.toTree)] := rfl
    simp [ofTree?, hmembers, required?, List.lookup_cons, text?,
      (Address.encodes 0 p.address).decodes, (Capability.encodes 0 hfinite hback).decodes]

namespace PeerRecord

theorem writable (depth : Nat) {r : PeerRecord} (h : ∀ c ∈ r.capability, c.IsReadBack) :
    Writable (depth + 3) r.toTree := by
  obtain ⟨name, host, port, capability⟩ := r
  refine .record (by cases name <;> simp) fun field hfield => ?_
  simp only [List.mem_append, List.mem_cons, List.not_mem_nil, or_false] at hfield
  rcases hfield with hname | rfl | rfl | rfl
  · cases name with
    | none => cases hname
    | some name =>
        obtain rfl := List.mem_singleton.1 hname
        exact .text _
  · exact .text _
  · exact writable_word port.toNat_lt (by decide)
  · cases capability with
    | none => exact .null
    | some c => exact writable_capability (h c rfl)

theorem writable_ofPeer (depth : Nat) {p : Peer} (h : p.capability.IsReadBack) :
    Writable (depth + 3) (ofPeer p).toTree :=
  writable depth (by simpa [ofPeer] using h)

theorem encodes (depth : Nat) {r : PeerRecord}
    (h : ∀ c ∈ r.capability, c.IsFinite ∧ c.IsReadBack) :
    Encodes ofTree? (depth + 3) r.toTree r where
  writable := writable depth fun c hc => (h c hc).2
  decodes := by
    rw [ofTree?_kept fun c hc => (h c hc).2]
    exact if_pos fun c hc => (h c hc).1

end PeerRecord

theorem Route.encodes (depth : Nat) (r : Route) : Encodes ofTree? (depth + 1) r.toTree r where
  writable := by
    refine .record (by simp) fun field hfield => ?_
    simp only [List.mem_cons, List.not_mem_nil, or_false] at hfield
    rcases hfield with rfl | rfl | rfl | rfl
    · exact .text _
    · exact .text _
    · exact .text _
    · exact .bool _
  decodes := by
    have hmembers : (kept r.toTree).members? .json members =
        some [("endpoint_url", .text r.endpointUrl), ("peer_id", .text r.peerId),
          ("model_id", .text r.modelId), ("is_fallback", .bool r.isFallback)] := rfl
    simp [ofTree?, hmembers, required?, defaulting?, List.lookup_cons, text?, bool?]

theorem Fallback.encodes (depth : Nat) (f : Fallback) :
    Encodes ofTree? (depth + 1) f.toTree f where
  writable := by
    refine .record (by simp) fun field hfield => ?_
    simp only [List.mem_cons, List.not_mem_nil, or_false] at hfield
    rcases hfield with rfl | rfl <;> exact .text _
  decodes := by
    have hmembers : (kept f.toTree).members? .json members =
        some [("url", .text f.url), ("model", .text f.model)] := rfl
    simp [ofTree?, hmembers, required?, List.lookup_cons, text?]

theorem KeywordRule.encodes (depth : Nat) (r : KeywordRule) :
    Encodes (ofTree? .json) (depth + 1) r.toTree r where
  writable := by
    refine .record (by simp) fun field hfield => ?_
    simp only [List.mem_cons, List.not_mem_nil, or_false] at hfield
    rcases hfield with rfl | rfl <;> exact .text _
  decodes := by
    have hmembers : (kept r.toTree).members? .json members =
        some [("keyword", .text r.keyword), ("category", .text r.category)] := rfl
    simp [ofTree?, hmembers, required?, List.lookup_cons, text?]

theorem PolicySettings.encodes (depth : Nat) (s : PolicySettings) :
    Encodes (ofTree? .json) (depth + 3) s.toTree s := by
  have hcategory : Writable (depth + 2) (optionalText s.defaultCategory) ∧
      option? text? (kept (optionalText s.defaultCategory)) = some s.defaultCategory := by
    cases s.defaultCategory with
    | none => exact ⟨.null, rfl⟩
    | some category => exact ⟨.text category, rfl⟩
  have hpreferences := encodes_map s.preferences (encodes_ofTexts depth)
  have hkeywords := encodes_list s.keywords fun rule _ => KeywordRule.encodes depth rule
  have hroles := encodes_map s.roles (encodes_text (depth + 1))
  constructor
  · refine .record (by simp) fun field hfield => ?_
    simp only [List.mem_cons, List.not_mem_nil, or_false] at hfield
    rcases hfield with rfl | rfl | rfl | rfl
    · exact hcategory.1
    · exact hpreferences.writable
    · exact hkeywords.writable
    · exact hroles.writable
  · have hmembers : (kept s.toTree).members? .json members =
        some [("default_category", kept (optionalText s.defaultCategory)),
          ("preferences", kept (.record (s.preferences.entries.map fun b => (b.1, ofTexts b.2)))),
          ("keywords", kept (.list (s.keywords.map KeywordRule.toTree))),
          ("roles", kept (.record (s.roles.entries.map fun b => (b.1, .text b.2))))] := rfl
    simp [ofTree?, hmembers, optional?, defaulting?, List.lookup_cons, hcategory.2,
      hpreferences.decodes, hkeywords.decodes, hroles.decodes]

/-- Every value of the types that are stored and exchanged is read back from its texts, if the
numbers of the capability in it, where there is one, are finite and these and its time are read
back. -/
theorem Json.values_are_read_back :
    (∀ r : PeerRecord, (∀ c ∈ r.capability, c.IsFinite ∧ c.IsReadBack) →
      ReadsAs PeerRecord.ofTree? r.toTree r) ∧
    (∀ p : Peer, p.capability.IsFinite → p.capability.IsReadBack →
      ReadsAs Peer.ofTree? p.toTree p) ∧
    (∀ a : Address, ReadsAs Address.ofTree? a.toTree a) ∧
    (∀ c : Capability, c.IsFinite → c.IsReadBack → ReadsAs Capability.ofTree? c.toTree c) ∧
    (∀ r : Route, ReadsAs Route.ofTree? r.toTree r) ∧
    (∀ r : KeywordRule, ReadsAs (KeywordRule.ofTree? .json) r.toTree r) ∧
    (∀ s : PolicySettings, ReadsAs (PolicySettings.ofTree? .json) s.toTree s) ∧
    ∀ f : Fallback, ReadsAs Fallback.ofTree? f.toTree f :=
  ⟨fun _ h => (PeerRecord.encodes 124 h).readsAs,
    fun _ hfinite hback => (Peer.encodes 124 hfinite hback).readsAs,
    fun a => (a.encodes 126).readsAs,
    fun _ hfinite hback => (Capability.encodes 125 hfinite hback).readsAs,
    fun r => (r.encodes 126).readsAs,
    fun r => (r.encodes 126).readsAs,
    fun s => (s.encodes 124).readsAs,
    fun f => (f.encodes 126).readsAs⟩

/-- A capability with a fraction, the greatest number of cores and models of unusual names. -/
def oddCapability : Capability :=
  { cpuCores := 4294967295, memoryGb := ⟨0x3FE0000000000000⟩, gpuMemoryGb := .zero,
    models := .ofList ["\"\\\u0001\n", "😀\u2028"], load := ⟨0x4042C00000000000⟩,
    available := true, lastSeen := .epoch }

/-- A peer whose identifier and host are made of a control character, a quote and a backslash. -/
def oddPeer : Peer :=
  ⟨"\t\"", ⟨"\\😀", 0⟩, oddCapability⟩

/-- Quotes, backslashes, control characters and characters beyond the first plane are read back. -/
theorem Json.values_are_read_back_odd :
    oddCapability.IsFinite ∧ oddCapability.IsReadBack ∧
    ReadsAs Capability.ofTree? oddCapability.toTree oddCapability ∧
    ReadsAs Peer.ofTree? oddPeer.toTree oddPeer ∧
    ReadsAs PeerRecord.ofTree? (PeerRecord.ofPeer oddPeer).toTree (PeerRecord.ofPeer oddPeer) := by
  have hfinite : oddCapability.IsFinite := by decide
  have hback : oddCapability.IsReadBack := {
    memoryGb := fun _ => readsBack_of_number? (by decide +kernel)
    gpuMemoryGb := fun _ => readsBack_of_number? (by decide +kernel)
    load := fun _ => readsBack_of_number? (by decide +kernel)
    lastSeen := by decide +kernel }
  refine ⟨hfinite, hback, values_are_read_back.2.2.2.1 _ hfinite hback,
    values_are_read_back.2.1 _ hfinite hback, values_are_read_back.1 _ ?_⟩
  rintro c ⟨⟩
  exact ⟨hfinite, hback⟩

end InferenceFleet
