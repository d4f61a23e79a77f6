import InferenceFleet.Text.Blank
import InferenceFleet.Text.Digits

/-!
# Addresses

A node is reached at a host and a port. An address is *sound* if it can stand in a URL: the host
is not empty, holds no blank and no slash, and the port is not zero. Three notations are read:
`host`, `host:port` and `[literal]:port`, where a host with several colons is a literal without
port. The text of an address is `host:port`; its URL puts brackets around a host with a colon.
-/

namespace InferenceFleet

/-- Where a node is reached. -/
structure Address where
  host : String
  port : UInt16
  deriving DecidableEq, Inhabited

/-- The port of a node that names none. -/
def defaultPort : UInt16 := 11434

/-- Why a text or an address is refused. -/
inductive AddressFault
  | emptyHost
  | forbiddenCharacter
  | zeroPort
  | unterminatedLiteral
  | trailingText
  | portNotANumber
  deriving DecidableEq

/-- A fault in words. -/
def AddressFault.reason : AddressFault → String
  | .emptyHost => "host is empty"
  | .forbiddenCharacter => "host contains whitespace or '/'"
  | .zeroPort => "port must be non-zero"
  | .unterminatedLiteral => "unterminated IPv6 literal"
  | .trailingText => "unexpected characters after IPv6 literal"
  | .portNotANumber => "port is not a number"

/-- A refused address, as far as it was understood, and its fault. -/
structure AddressError where
  host : String
  port : UInt16
  fault : AddressFault
  deriving DecidableEq

namespace Address

/-- A character that no host holds. -/
def isForbidden (c : Char) : Bool :=
  Text.isBlank c || c == '/'

/-- The first fault of an address. -/
def fault? (a : Address) : Option AddressFault :=
  if a.host.toList.isEmpty then some .emptyHost
  else if a.host.toList.any isForbidden then some .forbiddenCharacter
  else if a.port = 0 then some .zeroPort
  else none

/-- An address that can stand in a URL. -/
def IsSound (a : Address) : Prop := a.fault? = none

instance (a : Address) : Decidable a.IsSound := inferInstanceAs (Decidable (_ = _))

/-- Accepts sound addresses only. -/
def check (a : Address) : Except AddressError Unit :=
  match a.fault? with
  | some fault => .error ⟨a.host, a.port, fault⟩
  | none => .ok ()

theorem isSound_iff {a : Address} :
    a.IsSound ↔ a.host ≠ "" ∧ (∀ c ∈ a.host.toList, isForbidden c = false) ∧ a.port ≠ 0 := by
  unfold IsSound fault?
  by_cases hhost : a.host = ""
  · simp [hhost]
  · have hlist : a.host.toList ≠ [] := fun h => hhost (String.toList_eq_nil_iff.1 h)
    by_cases hany : a.host.toList.any isForbidden = true
    · simp only [List.isEmpty_iff, hlist, if_false, hany, if_true]
      constructor
      · intro h; cases h
      · rintro ⟨-, hall, -⟩
        obtain ⟨c, hc, hbad⟩ := List.any_eq_true.1 hany
        simp [hall c hc] at hbad
    · simp only [List.isEmpty_iff, hlist, if_false, hany]
      have hall : ∀ c ∈ a.host.toList, isForbidden c = false := by
        simpa [List.any_eq_false] using hany
      by_cases hport : a.port = 0
      · simp [hport]
      · simpa [hport, hhost] using hall

/-- The text `host:port`. -/
def text (a : Address) : String :=
  a.host ++ ":" ++ Text.numeral a.port.toNat

/-- A host as it stands in a URL. -/
def authorityHost (host : String) : String :=
  if host.toList.contains ':' && !(['['].isPrefixOf host.toList) then "[" ++ host ++ "]" else host

/-- The URL of the model server at an address. -/
def baseUrl (a : Address) : String :=
  "http://" ++ authorityHost a.host ++ ":" ++ Text.numeral a.port.toNat

/-- The URL of the capability document. -/
def capabilitiesUrl (a : Address) : String :=
  a.baseUrl ++ "/api/capabilities"

/-- The URL of the model list. -/
def tagsUrl (a : Address) : String :=
  a.baseUrl ++ "/api/tags"

/-- The list before the first occurrence of a character, and the list after it. -/
def splitAt? (mark : Char) : List Char → Option (List Char × List Char)
  | [] => none
  | c :: cs =>
      if c = mark then some ([], cs)
      else (splitAt? mark cs).map fun (before, after) => (c :: before, after)

/-- Host and port of one of the three notations, before they are looked at. -/
def split (cs : List Char) : Except AddressFault (List Char × Option (List Char)) :=
  match cs with
  | '[' :: rest =>
      match splitAt? ']' rest with
      | none => .error .unterminatedLiteral
      | some (host, []) => .ok (host, none)
      | some (host, ':' :: port) => .ok (host, some port)
      | some _ => .error .trailingText
  | cs =>
      if cs.count ':' = 1 then
        match splitAt? ':' cs with
        | some (host, port) => .ok (host, some port)
        | none => .ok (cs, none)
      else .ok (cs, none)

/-- The port that a numeral names; none names the default. -/
def port? : Option (List Char) → Option UInt16
  | none => some defaultPort
  | some numeral => (Text.readNumeral? Text.maxWord16 numeral).map UInt16.ofNat

/-- The address that a list of characters stands for, once blanks are cut off. -/
def parseChars (cs : List Char) : Except AddressError Address := do
  let refuse (fault : AddressFault) : AddressError := ⟨String.ofList cs, 0, fault⟩
  let (host, port) ← (split cs).mapError refuse
  match port? port with
  | none => .error (refuse .portNotANumber)
  | some port => do
      let address : Address := ⟨String.ofList host, port⟩
      address.check
      .ok address

/-- The address that a text stands for. -/
def parse (s : String) : Except AddressError Address :=
  parseChars (Text.trimChars s.toList)

/-- What is parsed is sound. -/
theorem isSound_of_parse {s : String} {a : Address} (h : parse s = .ok a) : a.IsSound := by
  unfold parse parseChars at h
  simp only [bind, Except.bind] at h
  split at h
  · cases h
  · split at h
    · cases h
    · split at h
      · cases h
      · next hcheck =>
          injection h with ha
          subst ha
          unfold check at hcheck
          split at hcheck
          · cases hcheck
          · assumption

end Address

end InferenceFleet
