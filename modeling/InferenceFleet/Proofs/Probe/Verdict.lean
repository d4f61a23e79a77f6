import InferenceFleet.Program.Host
import InferenceFleet.Proofs.Probe.Soundness

/-!
# What a probe makes of the replies

A probe is decided by one reply: the one to its first request, or the one to its second request if
the first reply says that there is no capability document. What the probe brings follows from that
reply alone, if it has come by the deadline (`probe_of_decides`), and without such a reply the probe
has timed out (`probe_of_late`). Both documents are judged alike, since a list of models is refused
exactly if the capability document that says nothing else is (`ModelList.toCapability_eq_ok_iff`).

The pure exchange does not show its requests. With requests as effects of a monad it does, and the
exchange that records them is the same one (`fst_run_wholeWith`). How long an exchange takes does
not depend on the time that its answer is stamped with, so the stamp can be the time at which it has
ended (`Program.probe_eq_remote_httpNetwork`).
-/

namespace InferenceFleet

namespace CapabilityDocument

variable {d : CapabilityDocument} {now : Timestamp} {c : Capability}

/-- The capability that a document tells of, acceptable or not. -/
def told (d : CapabilityDocument) (now : Timestamp) : Capability :=
  { cpuCores := d.cpuCores, memoryGb := d.memoryGb, gpuMemoryGb := d.gpuMemoryGb,
    models := .ofList d.models, load := d.load, available := true, lastSeen := now }

theorem toCapability_eq_ok_iff :
    d.toCapability now = .ok c ↔ (d.told now).IsSound ∧ c = d.told now := by
  have hcheck : d.toCapability now =
      ((d.told now).check.map fun _ => d.told now).mapError CapabilityFault.message := by
    unfold toCapability
    dsimp only
    rw [← told]
    cases (d.told now).check <;> rfl
  rw [hcheck, ← Capability.check_eq_ok_iff]
  cases (d.told now).check with
  | error fault => simp [Except.map, Except.mapError]
  | ok => simp [Except.map, Except.mapError, eq_comm]

theorem contains_models_told (m : String) :
    (d.told now).models.contains m = true ↔ m ∈ d.models := by
  simp [told, TextSet.ofList]

end CapabilityDocument

namespace ModelList

variable {l : ModelList} {now : Timestamp} {c : Capability}

/-- The list as a capability document that says nothing else. -/
def asDocument (l : ModelList) : CapabilityDocument :=
  { cpuCores := 0, memoryGb := .zero, gpuMemoryGb := .zero, models := l.names, load := .zero }

theorem isSound_told_asDocument :
    (l.asDocument.told now).IsSound ↔ l.names.any Text.isBlankText = false := by
  have hzero : Capability.isLoad .zero = true ∧ Capability.isAmount .zero = true := by decide
  rw [Capability.isSound_iff, List.any_eq_false]
  constructor
  · rintro ⟨-, -, -, hmodels⟩ name hname
    rw [hmodels name (TextSet.mem_toList_ofList.2 hname)]
    exact Bool.false_ne_true
  · intro hnames
    refine ⟨hzero.1, hzero.2, hzero.2, fun name hname => ?_⟩
    exact Bool.eq_false_iff.2 (hnames name (TextSet.mem_toList_ofList.1 hname))

theorem toCapability_eq_ok_iff :
    l.toCapability now = .ok c ↔
      (l.asDocument.told now).IsSound ∧ c = l.asDocument.told now := by
  rw [isSound_told_asDocument, toCapability]
  cases l.names.any Text.isBlankText with
  | true => simp
  | false => simp [eq_comm, CapabilityDocument.told, asDocument, Capability.unseen]

end ModelList

namespace Exchange

variable {transport transport' : Transport} {deadline time : Duration} {a : Address}
  {now : Timestamp} {c : Capability}

/-- What a node is asked for. -/
inductive Endpoint
  | capabilities
  | models

/-- The reply that decides a probe, and when it has come. -/
inductive Decides (transport : Transport) (a : Address) : Endpoint → Duration → HttpReply → Prop
  /-- The first reply, unless it says that there is no such document. -/
  | capabilities {time : Duration} {reply : HttpReply}
      (hreply : ask transport a a.capabilitiesUrl = some (time, reply))
      (hfound : ∀ body, reply ≠ .answered .notFound body) :
      Decides transport a .capabilities time reply
  /-- Otherwise the reply to the second request. -/
  | models {time more : Duration} {body : Except String ByteArray} {reply : HttpReply}
      (hmissing : ask transport a a.capabilitiesUrl = some (time, .answered .notFound body))
      (hreply : ask transport a a.tagsUrl = some (more, reply)) :
      Decides transport a .models (time + more) reply

/-- What a body holds, unless it was cut short or is something else. -/
def read? {α : Type} (ofTree? : Tree → Option α) : Except String ByteArray → Option α
  | .error _ => none
  | .ok bytes => (Json.readBytes? bytes).bind ofTree?

/-- What a body says, if it is the document asked for. -/
def decoded? (endpoint : Endpoint) (body : Except String ByteArray) : Option CapabilityDocument :=
  match endpoint with
  | .capabilities => read? CapabilityDocument.ofTree? body
  | .models => (read? ModelList.ofTree? body).map ModelList.asDocument

/-- What is made of a reply. -/
def resultOf (endpoint : Endpoint) (now : Timestamp) : HttpReply → Except ProbeFault Capability
  | .failed fault => .error (faultOf fault)
  | .answered status body =>
      match endpoint with
      | .capabilities => ofCapabilityDocument now status body
      | .models => ofModelList now status body

section

variable {α : Type} {endpoint : Endpoint} {status : Status} {body : Except String ByteArray}

theorem resultOf_of_refused (h : status.isSuccess = false) :
    resultOf endpoint now (.answered status body) = .error (.network ("HTTP " ++ status.text)) := by
  cases endpoint with
  | capabilities => simp [resultOf, ofCapabilityDocument, document, h, bind, Except.bind]
  | models => simp [resultOf, ofModelList, document, h, bind, Except.bind]

theorem document_of_success (ofTree? : Tree → Option α) (body : Except String ByteArray)
    (h : status.isSuccess = true) :
    (∃ value, read? ofTree? body = some value ∧ document ofTree? status body = .ok value) ∨
    (read? ofTree? body = none ∧
      ∃ message, document ofTree? status body = .error (.validation message)) := by
  cases body with
  | error message => exact .inr ⟨rfl, message, by simp [document, h]⟩
  | ok bytes =>
      have hread : read? ofTree? (.ok bytes) = (Json.readBytes? bytes).bind ofTree? := rfl
      simp only [document, h, ← hread, Bool.not_true, Bool.false_eq_true, if_false]
      cases read? ofTree? (.ok bytes) with
      | some value => exact .inl ⟨value, rfl, rfl⟩
      | none => exact .inr ⟨rfl, malformedBody, rfl⟩

/-- A document is taken for what it says, or it is not acceptable; `asDocument` is what it says and
`toCapability` accepts what is sound. -/
theorem judged_of_success (ofTree? : Tree → Option α) (asDocument : α → CapabilityDocument)
    (toCapability : α → Except String Capability) (body : Except String ByteArray)
    (h : status.isSuccess = true)
    (haccepts : ∀ x c, toCapability x = .ok c ↔
      ((asDocument x).told now).IsSound ∧ c = (asDocument x).told now) :
    (∃ d, (read? ofTree? body).map asDocument = some d ∧ (d.told now).IsSound ∧
      (document ofTree? status body >>= fun x => (toCapability x).mapError .validation) =
        .ok (d.told now)) ∨
    ((∀ d, (read? ofTree? body).map asDocument = some d → ¬ (d.told now).IsSound) ∧
      ∃ message, (document ofTree? status body >>= fun x =>
        (toCapability x).mapError .validation) = .error (.validation message)) := by
  rcases document_of_success ofTree? body h with
    ⟨x, hread, hdocument⟩ | ⟨hread, message, hdocument⟩
  · rw [hread, hdocument, Option.map_some]
    by_cases hsound : ((asDocument x).told now).IsSound
    · have hok : toCapability x = .ok ((asDocument x).told now) := (haccepts x _).2 ⟨hsound, rfl⟩
      exact .inl ⟨_, rfl, hsound, by simp [hok, bind, Except.bind, Except.mapError]⟩
    · refine .inr ⟨fun d hd => Option.some.inj hd ▸ hsound, ?_⟩
      cases hattempt : toCapability x with
      | ok c => exact absurd ((haccepts x c).1 hattempt).1 hsound
      | error message =>
          exact ⟨message, by simp [hattempt, bind, Except.bind, Except.mapError]⟩
  · rw [hread, hdocument]
    exact .inr ⟨fun _ hd => absurd hd (by simp), message, rfl⟩

/-- A reply that counts is taken for what it says, or is not acceptable. -/
theorem resultOf_of_success (h : status.isSuccess = true) :
    (∃ d, decoded? endpoint body = some d ∧ (d.told now).IsSound ∧
      resultOf endpoint now (.answered status body) = .ok (d.told now)) ∨
    ((∀ d, decoded? endpoint body = some d → ¬ (d.told now).IsSound) ∧
      ∃ message, resultOf endpoint now (.answered status body) = .error (.validation message)) := by
  cases endpoint with
  | capabilities =>
      have hjudged := judged_of_success CapabilityDocument.ofTree? id (·.toCapability now) body h
        fun _ _ => CapabilityDocument.toCapability_eq_ok_iff
      rwa [Option.map_id, id] at hjudged
  | models =>
      exact judged_of_success ModelList.ofTree? ModelList.asDocument (·.toCapability now) body h
        fun _ _ => ModelList.toCapability_eq_ok_iff

end

theorem Decides.whole_eq {endpoint : Endpoint} {reply : HttpReply}
    (h : Decides transport a endpoint time reply) :
    whole transport a now = some (time, resultOf endpoint now reply) := by
  cases h with
  | capabilities hreply hfound =>
      cases reply with
      | failed fault => rw [whole, hreply]; rfl
      | answered status body =>
          have hstatus : status ≠ .notFound := fun h => hfound body (by rw [h])
          simp only [whole, hreply, if_neg hstatus, resultOf]
  | models hmissing hreply =>
      cases reply with
      | failed fault => simp [whole, hmissing, tags, hreply, resultOf]
      | answered status body => simp [whole, hmissing, tags, hreply, resultOf]

theorem exists_decides_or_whole_eq_none (transport : Transport) (a : Address) (now : Timestamp) :
    (∃ endpoint time reply, Decides transport a endpoint time reply) ∨
      whole transport a now = none := by
  cases hfirst : ask transport a a.capabilitiesUrl with
  | none => exact .inr (by rw [whole, hfirst])
  | some first =>
      obtain ⟨time, reply⟩ := first
      by_cases hfound : ∀ body, reply ≠ .answered .notFound body
      · exact .inl ⟨_, _, _, .capabilities hfirst hfound⟩
      · push Not at hfound
        obtain ⟨body, rfl⟩ := hfound
        cases hsecond : ask transport a a.tagsUrl with
        | none => exact .inr (by simp [whole, hfirst, tags, hsecond])
        | some second => exact .inl ⟨_, _, _, .models hfirst hsecond⟩

/-- A reply that decides in time makes the outcome. -/
theorem probe_of_decides {endpoint : Endpoint} {reply : HttpReply}
    (h : Decides transport a endpoint time reply) (htime : time ≤ deadline) :
    (probe transport deadline a now).2 = (resultOf endpoint now reply).mapError (⟨a.text, ·⟩) := by
  rw [probe, h.whole_eq, within, if_pos htime]

/-- Without a reply that decides in time the probe has timed out. -/
theorem probe_of_late
    (h : ∀ endpoint time reply, Decides transport a endpoint time reply → deadline < time) :
    (probe transport deadline a now).2 = .error ⟨a.text, .timeout deadline⟩ := by
  rcases exists_decides_or_whole_eq_none transport a now with
    ⟨endpoint, time, reply, hdecides⟩ | hnone
  · rw [probe, hdecides.whole_eq, within, if_neg (Nat.not_le.2 (h _ _ _ hdecides))]
    rfl
  · rw [probe, hnone]
    rfl

/-! ## Requests -/

theorem time_tags (transport : Transport) (a : Address) (now now' : Timestamp) :
    (tags transport a now).map Prod.fst = (tags transport a now').map Prod.fst := by
  rcases hreply : ask transport a a.tagsUrl with _ | ⟨time, fault | ⟨status, body⟩⟩ <;>
    simp [tags, hreply]

theorem time_whole (transport : Transport) (a : Address) (now now' : Timestamp) :
    (whole transport a now).map Prod.fst = (whole transport a now').map Prod.fst := by
  rcases hreply : ask transport a a.capabilitiesUrl with _ | ⟨time, fault | ⟨status, body⟩⟩
  · simp [whole, hreply]
  · simp [whole, hreply]
  · by_cases hmissing : status = .notFound
    · have hsecond := congrArg (Option.map (time + ·)) (time_tags transport a now now')
      simpa [whole, hreply, hmissing, Function.comp_def] using hsecond
    · simp [whole, hreply, hmissing]

theorem time_within {exchange exchange' : Option (Duration × Except ProbeFault Capability)}
    (h : exchange.map Prod.fst = exchange'.map Prod.fst) :
    (within deadline exchange).1 = (within deadline exchange').1 := by
  rcases exchange with _ | ⟨time, result⟩ <;> rcases exchange' with _ | ⟨time', result'⟩ <;>
    simp at h
  · rfl
  · subst h
    simp only [within]
    split <;> rfl

/-- How long a probe takes does not depend on what it would stamp its answer with. -/
theorem time_probe (transport : Transport) (deadline : Duration) (a : Address)
    (now now' : Timestamp) :
    (probe transport deadline a now).1 = (probe transport deadline a now').1 := by
  simp only [probe]
  exact time_within (time_whole transport a now now')

theorem time_probeLocal (transport : Transport) (hardware : Hardware) (deadline : Duration)
    (a : Address) (now now' : Timestamp) :
    (probeLocal transport hardware deadline a now).1 =
      (probeLocal transport hardware deadline a now').1 := by
  simp only [probeLocal]
  exact time_within (time_tags transport a now now')

section

variable {m : Type → Type} [Monad m]

/-- Asking for the list of models, with the request as an effect of a monad. A request is told the
moment it is made and the URL. -/
def tagsWith (request : Duration → String → m TimedReply) (start : Duration) (a : Address)
    (now : Timestamp) : m (Option (Duration × Except ProbeFault Capability)) := do
  match ← request start a.tagsUrl with
  | none => return none
  | some (time, .failed fault) => return some (start + time, .error (faultOf fault))
  | some (time, .answered status body) => return some (start + time, ofModelList now status body)

/-- The whole exchange, with its requests as effects of a monad. -/
def wholeWith (request : Duration → String → m TimedReply) (a : Address) (now : Timestamp) :
    m (Option (Duration × Except ProbeFault Capability)) := do
  match ← request 0 a.capabilitiesUrl with
  | none => return none
  | some (time, .failed fault) => return some (time, .error (faultOf fault))
  | some (time, .answered status body) =>
      if status = .notFound then tagsWith request time a now
      else return some (time, ofCapabilityDocument now status body)

end

/-- The record of a request; none is made if there is no such URL. -/
def entry (a : Address) (moment : Duration) (url : String) : List (Duration × String) :=
  if a.isRequestable then [(moment, url)] else []

/-- Requests over a transport, written down with the moments they are made. -/
def recorded (transport : Transport) (a : Address) (moment : Duration) (url : String) :
    StateM (List (Duration × String)) TimedReply := do
  modify (· ++ entry a moment url)
  return ask transport a url

/-- The requests of the whole exchange. -/
def requests (transport : Transport) (a : Address) (now : Timestamp) : List (Duration × String) :=
  ((wholeWith (recorded transport a) a now).run []).2

theorem run_recorded_bind {α : Type} (transport : Transport) (a : Address) (moment : Duration)
    (url : String) (next : TimedReply → StateM (List (Duration × String)) α)
    (log : List (Duration × String)) :
    (recorded transport a moment url >>= next).run log =
      (next (ask transport a url)).run (log ++ entry a moment url) :=
  rfl

theorem run_tagsWith (transport : Transport) (start : Duration) (a : Address) (now : Timestamp)
    (log : List (Duration × String)) :
    (tagsWith (recorded transport a) start a now).run log =
      ((tags transport a now).map fun (more, result) => (start + more, result),
        log ++ entry a start a.tagsUrl) := by
  rw [tagsWith, run_recorded_bind, tags]
  rcases ask transport a a.tagsUrl with _ | ⟨time, fault | ⟨status, body⟩⟩ <;> rfl

theorem run_wholeWith (transport : Transport) (a : Address) (now : Timestamp) :
    (wholeWith (recorded transport a) a now).run [] =
      (whole transport a now, entry a 0 a.capabilitiesUrl ++
        match ask transport a a.capabilitiesUrl with
        | some (time, .answered status _) =>
            if status = .notFound then entry a time a.tagsUrl else []
        | _ => []) := by
  rw [wholeWith, run_recorded_bind, whole, List.nil_append]
  rcases ask transport a a.capabilitiesUrl with _ | ⟨time, fault | ⟨status, body⟩⟩
  · rw [List.append_nil]
    rfl
  · rw [List.append_nil]
    rfl
  · by_cases hstatus : status = .notFound
    · simp only [if_pos hstatus, run_tagsWith]
    · simp only [if_neg hstatus, List.append_nil]
      rfl

/-- Writing the requests down changes nothing. -/
theorem fst_run_wholeWith (transport : Transport) (a : Address) (now : Timestamp) :
    ((wholeWith (recorded transport a) a now).run []).1 = whole transport a now := by
  rw [run_wholeWith]

theorem mem_entry_iff {moment moment' : Duration} {url url' : String} :
    (moment, url) ∈ entry a moment' url' ↔
      a.isRequestable = true ∧ moment = moment' ∧ url = url' := by
  unfold entry
  split
  · next h => simp [h]
  · next h => simp [h]

theorem mem_requests_iff {moment : Duration} {url : String} :
    (moment, url) ∈ requests transport a now ↔ a.isRequestable = true ∧
      (moment = 0 ∧ url = a.capabilitiesUrl ∨
        url = a.tagsUrl ∧
          ∃ body, ask transport a a.capabilitiesUrl = some (moment, .answered .notFound body)) := by
  rw [requests, run_wholeWith, List.mem_append, mem_entry_iff]
  rcases ask transport a a.capabilitiesUrl with _ | ⟨time, fault | ⟨status, body⟩⟩
  · simp
  · simp
  · by_cases hstatus : status = .notFound
    · simp only [hstatus, if_true, mem_entry_iff, Option.some.injEq, Prod.mk.injEq,
        HttpReply.answered.injEq, true_and, exists_and_left, exists_eq', and_true]
      rw [and_or_left, and_comm (a := moment = time), eq_comm (a := moment) (b := time)]
    · simp [hstatus]

/-- A probe requests the URL before its deadline has passed. -/
def Requests (transport : Transport) (deadline : Duration) (a : Address) (now : Timestamp)
    (url : String) : Prop :=
  ∃ moment ≤ deadline, (moment, url) ∈ requests transport a now

theorem tagsUrl_ne_capabilitiesUrl (a : Address) : a.tagsUrl ≠ a.capabilitiesUrl := by
  intro h
  simp [Address.tagsUrl, Address.capabilitiesUrl] at h

theorem isRequestable_of_answered {url : String} {status : Status}
    {body : Except String ByteArray}
    (h : ask transport a url = some (time, .answered status body)) : a.isRequestable = true := by
  cases hrequestable : a.isRequestable with
  | true => rfl
  | false => simp [ask, hrequestable] at h

/-- The list of models is requested exactly if the first reply came in time and says that there is
no capability document. -/
theorem requests_tagsUrl_iff :
    Requests transport deadline a now a.tagsUrl ↔
      ∃ time ≤ deadline, ∃ body,
        ask transport a a.capabilitiesUrl = some (time, .answered .notFound body) := by
  simp only [Requests, mem_requests_iff, tagsUrl_ne_capabilitiesUrl, and_false, false_or, true_and]
  constructor
  · rintro ⟨moment, htime, -, hmissing⟩
    exact ⟨moment, htime, hmissing⟩
  · rintro ⟨moment, htime, body, hmissing⟩
    exact ⟨moment, htime, isRequestable_of_answered hmissing, body, hmissing⟩

/-- A second request that is made too late does not matter. -/
theorem within_whole_of_late {body : Except String ByteArray}
    (hmissing : ask transport a a.capabilitiesUrl = some (time, .answered .notFound body))
    (hlate : deadline < time) :
    within deadline (whole transport a now) = (deadline, .error (.timeout deadline)) := by
  simp only [whole, hmissing, if_true]
  cases tags transport a now with
  | none => rfl
  | some second =>
      have hmore : ¬ time + second.1 ≤ deadline :=
        Nat.not_le.2 (Nat.lt_of_lt_of_le hlate (Nat.le_add_right time second.1))
      simp [within, hmore]

/-- Only the replies to its requests matter to a probe. -/
theorem probe_eq_of_requests
    (h : ∀ url, Requests transport deadline a now url → transport' url = transport url) :
    probe transport' deadline a now = probe transport deadline a now := by
  have hask : ∀ url, Requests transport deadline a now url →
      ask transport' a url = ask transport a url := fun url hurl => by
    rw [ask, ask, h url hurl]
  have hfirst : ask transport' a a.capabilitiesUrl = ask transport a a.capabilitiesUrl := by
    cases hrequestable : a.isRequestable with
    | true =>
        exact hask _ ⟨0, Nat.zero_le deadline,
          mem_requests_iff.2 ⟨hrequestable, .inl ⟨rfl, rfl⟩⟩⟩
    | false => simp [ask, hrequestable]
  have hwithin : within deadline (whole transport' a now) =
      within deadline (whole transport a now) := by
    rcases hreply : ask transport a a.capabilitiesUrl with _ | ⟨time, fault | ⟨status, body⟩⟩
    · simp [whole, hfirst, hreply]
    · simp [whole, hfirst, hreply]
    · by_cases hmissing : status = .notFound
      · subst hmissing
        by_cases htime : time ≤ deadline
        · have hsecond := hask _ (requests_tagsUrl_iff.2 ⟨time, htime, body, hreply⟩)
          simp [whole, hfirst, hreply, tags, hsecond]
        · rw [within_whole_of_late (hfirst.trans hreply) (Nat.not_le.1 htime),
            within_whole_of_late hreply (Nat.not_le.1 htime)]
      · simp [whole, hfirst, hreply, hmissing]
  rw [probe, probe, hwithin]

/-- The outcome of a probe is the right one for the replies. -/
structure Settles (transport : Transport) (deadline : Duration) (a : Address) (now : Timestamp)
    (outcome : Except ProbeError Capability) : Prop where
  /-- Without a reply that decides by the deadline, the probe has timed out. -/
  late : (∀ endpoint time reply, Decides transport a endpoint time reply → deadline < time) →
    outcome = .error ⟨a.text, .timeout deadline⟩
  unreached : ∀ endpoint time fault, Decides transport a endpoint time (.failed fault) →
    time ≤ deadline → outcome = .error ⟨a.text, faultOf fault⟩
  refused : ∀ endpoint time status body,
    Decides transport a endpoint time (.answered status body) → time ≤ deadline →
    status.isSuccess = false → outcome = .error ⟨a.text, .network ("HTTP " ++ status.text)⟩
  /-- A body that is not the document, or tells of a capability that is not sound. -/
  unacceptable : ∀ endpoint time status body,
    Decides transport a endpoint time (.answered status body) → time ≤ deadline →
    status.isSuccess = true → (∀ d, decoded? endpoint body = some d → ¬ (d.told now).IsSound) →
    ∃ message, outcome = .error ⟨a.text, .validation message⟩
  accepted : ∀ endpoint time status body d,
    Decides transport a endpoint time (.answered status body) → time ≤ deadline →
    status.isSuccess = true → decoded? endpoint body = some d → (d.told now).IsSound →
    outcome = .ok (d.told now)

/-- The capability that a probe brings was told by a reply that counts, in time. -/
structure Earned (transport : Transport) (deadline : Duration) (a : Address) (c : Capability)
    (endpoint : Endpoint) (d : CapabilityDocument) : Prop where
  decides : ∃ time status body, Decides transport a endpoint time (.answered status body) ∧
    time ≤ deadline ∧ status.isSuccess = true ∧ decoded? endpoint body = some d
  available : c.available = true
  sound : c.IsSound
  models : ∀ m, c.models.contains m = true ↔ m ∈ d.models
  /-- A list of models says nothing of the resources. -/
  resources : endpoint = .models →
    c.cpuCores = 0 ∧ c.memoryGb = .zero ∧ c.gpuMemoryGb = .zero ∧ c.load = .zero

theorem probe_settles (transport : Transport) (deadline : Duration) (a : Address)
    (now : Timestamp) :
    Settles transport deadline a now (probe transport deadline a now).2 where
  late := probe_of_late
  unreached endpoint time fault hdecides htime := probe_of_decides hdecides htime
  refused endpoint time status body hdecides htime hrefused := by
    rw [probe_of_decides hdecides htime, resultOf_of_refused hrefused]
    rfl
  unacceptable endpoint time status body hdecides htime hsuccess hunsound := by
    rw [probe_of_decides hdecides htime]
    rcases resultOf_of_success hsuccess with ⟨d, hd, hsound, -⟩ | ⟨-, message, hmessage⟩
    · exact absurd hsound (hunsound d hd)
    · exact ⟨message, by rw [hmessage]; rfl⟩
  accepted endpoint time status body d hdecides htime hsuccess hdecoded hsound := by
    rw [probe_of_decides hdecides htime]
    rcases resultOf_of_success hsuccess with ⟨d', hd', -, hok⟩ | ⟨hunsound, -⟩
    · obtain rfl := Option.some.inj (hd'.symm.trans hdecoded)
      rw [hok]
      rfl
    · exact absurd hsound (hunsound d hdecoded)

/-- A probe that is settled brings what a reply told, or an error that names the address. -/
theorem Settles.cases {outcome : Except ProbeError Capability}
    (h : Settles transport deadline a now outcome) :
    (∃ endpoint time status body d, Decides transport a endpoint time (.answered status body) ∧
      time ≤ deadline ∧ status.isSuccess = true ∧ decoded? endpoint body = some d ∧
      (d.told now).IsSound ∧ outcome = .ok (d.told now)) ∨
    ∃ fault, outcome = .error ⟨a.text, fault⟩ := by
  by_cases hin : ∃ endpoint time reply, Decides transport a endpoint time reply ∧ time ≤ deadline
  · obtain ⟨endpoint, time, reply, hdecides, htime⟩ := hin
    cases reply with
    | failed fault => exact .inr ⟨_, h.unreached _ _ _ hdecides htime⟩
    | answered status body =>
        cases hstatus : status.isSuccess with
        | false => exact .inr ⟨_, h.refused _ _ _ _ hdecides htime hstatus⟩
        | true =>
            by_cases hsound : ∃ d, decoded? endpoint body = some d ∧ (d.told now).IsSound
            · obtain ⟨d, hdecoded, hsound⟩ := hsound
              exact .inl ⟨endpoint, time, status, body, d, hdecides, htime, hstatus, hdecoded,
                hsound, h.accepted _ _ _ _ d hdecides htime hstatus hdecoded hsound⟩
            · push Not at hsound
              obtain ⟨message, hmessage⟩ := h.unacceptable _ _ _ _ hdecides htime hstatus hsound
              exact .inr ⟨_, hmessage⟩
  · push Not at hin
    exact .inr ⟨_, h.late fun endpoint time reply hdecides => hin endpoint time reply hdecides⟩

/-- A probe asks for the list of models exactly if it is told in time that there is no capability
document, and nothing but the replies to its requests matters to it. What it brings is settled by
the reply that decides: a capability was told by a reply that counts, and every error names the
address. -/
theorem probe_settled_by_replies (transport : Transport) (deadline : Duration) (a : Address)
    (now : Timestamp) :
    (Requests transport deadline a now a.tagsUrl ↔
      ∃ time ≤ deadline, ∃ body,
        ask transport a a.capabilitiesUrl = some (time, .answered .notFound body)) ∧
    (∀ transport' : Transport,
      (∀ url, Requests transport deadline a now url → transport' url = transport url) →
      probe transport' deadline a now = probe transport deadline a now) ∧
    Settles transport deadline a now (probe transport deadline a now).2 ∧
    (∀ c, (probe transport deadline a now).2 = .ok c →
      ∃ endpoint d, Earned transport deadline a c endpoint d) ∧
    ∀ e, (probe transport deadline a now).2 = .error e → e.address = a.text := by
  have hsettles := probe_settles transport deadline a now
  refine ⟨requests_tagsUrl_iff, fun _ => probe_eq_of_requests, hsettles, fun c hc => ?_,
    fun e he => ?_⟩
  · rcases hsettles.cases with
      ⟨endpoint, time, status, body, d, hdecides, htime, hsuccess, hdecoded, hsound, hok⟩ |
        ⟨fault, herror⟩
    · obtain rfl := Except.ok.inj (hok.symm.trans hc)
      refine ⟨endpoint, d, ⟨time, status, body, hdecides, htime, hsuccess, hdecoded⟩, rfl, hsound,
        d.contains_models_told, ?_⟩
      rintro rfl
      obtain ⟨l, -, rfl⟩ := Option.map_eq_some_iff.1 hdecoded
      exact ⟨rfl, rfl, rfl, rfl⟩
    · cases herror.symm.trans hc
  · rcases hsettles.cases with ⟨_, _, _, _, _, _, _, _, _, _, hok⟩ | ⟨fault, herror⟩
    · cases hok.symm.trans he
    · obtain rfl := Except.error.inj (herror.symm.trans he)
      rfl

/-- The address of a node that only lists its models. -/
def listingAddress : Address :=
  ⟨"10.0.0.1", 11434⟩

/-- A list of one model. -/
def oneModel : Except String ByteArray :=
  .ok "\x7b\"models\":[\x7b\"name\":\"mistral:7b\"\x7d]\x7d".toUTF8

/-- A node that only lists its models, and takes two moments for every reply. -/
def listingNode : Transport := fun url =>
  if url = listingAddress.tagsUrl then some (2, .answered ⟨200⟩ oneModel)
  else some (2, .answered .notFound (.ok .empty))

/-- In time the list is taken for what it says; one moment less, and the probe has timed out. -/
theorem probe_settled_by_replies_listing :
    Decides listingNode listingAddress .models (2 + 2) (.answered ⟨200⟩ oneModel) ∧
    (probe listingNode 4 listingAddress .epoch).2 =
      .ok { Capability.unseen with models := .ofList ["mistral:7b"], available := true } ∧
    (probe listingNode 3 listingAddress .epoch).2 = .error ⟨listingAddress.text, .timeout 3⟩ := by
  have hrequestable : listingAddress.isRequestable = true := by decide +kernel
  have hmissing : ask listingNode listingAddress listingAddress.capabilitiesUrl =
      some (2, .answered .notFound (.ok .empty)) :=
    (if_pos hrequestable).trans (if_neg (tagsUrl_ne_capabilitiesUrl _).symm)
  have hlist : ask listingNode listingAddress listingAddress.tagsUrl =
      some (2, .answered ⟨200⟩ oneModel) :=
    (if_pos hrequestable).trans (if_pos rfl)
  have hdecides : Decides listingNode listingAddress .models (2 + 2) (.answered ⟨200⟩ oneModel) :=
    .models hmissing hlist
  have hdecoded : decoded? .models oneModel = some (ModelList.asDocument ⟨["mistral:7b"]⟩) := by
    have hnames : (read? ModelList.ofTree? oneModel).map (·.names) = some ["mistral:7b"] := by
      decide +kernel
    obtain ⟨l, hl, hl'⟩ := Option.map_eq_some_iff.1 hnames
    rw [decoded?, hl, ← hl', Option.map_some]
  refine ⟨hdecides, ?_, ?_⟩
  · exact (probe_settled_by_replies listingNode 4 listingAddress .epoch).2.2.1.accepted
      .models (2 + 2) ⟨200⟩ oneModel _ hdecides (by decide) (by decide) hdecoded (by decide)
  · refine (probe_settled_by_replies listingNode 3 listingAddress .epoch).2.2.1.late ?_
    intro endpoint time reply hreply
    cases hreply with
    | capabilities hfirst hfound =>
        obtain ⟨-, rfl⟩ := Prod.mk.inj (Option.some.inj (hmissing.symm.trans hfirst))
        exact absurd rfl (hfound _)
    | models hfirst hsecond =>
        obtain ⟨rfl, -⟩ := Prod.mk.inj (Option.some.inj (hmissing.symm.trans hfirst))
        obtain ⟨rfl, -⟩ := Prod.mk.inj (Option.some.inj (hlist.symm.trans hsecond))
        decide

end Exchange

namespace Program

variable (transport : Transport) (hardware : Exchange.Hardware) (e : LocalEndpoint)
  (address : Address) (deadline : Duration) (start : Timestamp)

/-- An answer over HTTP is that of a probe stamped with the time at which it has ended. -/
theorem probe_eq_remote_httpNetwork :
    let plan := (httpNetwork transport hardware e).remote address deadline start
    Exchange.probe transport deadline address (start.addNanos plan.delay) =
      (plan.delay, plan.result) := by
  simp only [httpNetwork]
  generalize start.addNanos (Exchange.probe transport deadline address start).1 = stamp
  rw [Exchange.time_probe transport deadline address start stamp]

theorem probeLocal_eq_thisNode_httpNetwork :
    let plan := (httpNetwork transport hardware e).thisNode start
    Exchange.probeLocal transport hardware e.timeout e.address (start.addNanos plan.delay) =
      (plan.delay, plan.result) := by
  simp only [httpNetwork]
  generalize start.addNanos
    (Exchange.probeLocal transport hardware e.timeout e.address start).1 = stamp
  rw [Exchange.time_probeLocal transport hardware e.timeout e.address start stamp]

end Program

end InferenceFleet
