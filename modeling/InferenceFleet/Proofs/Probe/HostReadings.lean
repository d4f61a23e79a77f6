import InferenceFleet.Probe.HostReadings
import InferenceFleet.Proofs.Binary64.Division
import InferenceFleet.Proofs.Binary64.Sign
import InferenceFleet.Proofs.Probe.Soundness

/-!
# Readings of this host as figures of a capability

What a host tells of itself is not checked as the answer of a node is, so the readers alone decide
whether it makes a sound capability. The load always does (`isLoad_load`). Memory sizes are taken as
they are read, and a text may spell a number that is not finite, or one below zero:
`hardware_is_sound_iff` says exactly which readings are amounts then.
-/

namespace InferenceFleet

namespace HostReadings

open Binary64 (ofFloat NotBelowZero HasNoMinus)
open Capability (isLoad isAmount maxLoad)

/-- The total in KiB that a table of memory sizes names. -/
def totalKib? (table : String) : Option Float :=
  ((Text.lines table).findSome? afterTotal?).bind firstNumber?

/-- The amounts in MiB that the lines about graphics devices name. -/
def deviceMib (devices : String) : List Float :=
  (Text.lines devices).filterMap fun line => Decimal.readFloat? (Text.trimChars line)

/-- The sum of these, in the order of the lines. -/
def deviceSum (devices : String) : Float := (deviceMib devices).foldl (· + ·) (-0.0)

theorem memory?_eq (table : String) :
    memory? table = (totalKib? table).map fun kib => ofFloat (kib / kibPerGib) := by
  unfold memory? totalKib?
  cases (Text.lines table).findSome? afterTotal? with
  | none => rfl
  | some rest => cases hnumber : firstNumber? rest <;> simp [hnumber]

theorem gpuMemory_eq (devices : String) :
    gpuMemory devices = ofFloat (deviceSum devices / mibPerGib) := rfl

theorem isAmount_iff {x : Binary64} :
    isAmount x = true ↔ x.isFinite = true ∧ 0 ≤ x.valueKey := by
  simp [isAmount]

theorem isLoad_zero : isLoad .zero = true := by decide

theorem isAmount_zero : isAmount .zero = true := by decide

/-- A float that is neither below zero nor a NaN, as comparisons tell it. -/
theorem notBelowZero_of_not_lt {x : Float} (hfinite : (ofFloat x).isFinite = true)
    (hx : ¬ x < 0.0) : NotBelowZero (ofFloat x).unpacked := by
  have hnumber := Binary64.isNumber_of_isFinite hfinite
  have hzero : (ofFloat 0.0).isNumber = true ∧ (ofFloat 0.0).valueKey = 0 := by decide +kernel
  rw [Binary64.ofFloat_lt_iff, hzero.2] at hx
  refine (Binary64.notBelowZero_unpacked_iff hnumber).2 (Int.not_lt.1 fun hbelow => ?_)
  exact hx ⟨hnumber, hzero.1, hbelow⟩

/-- What is cut off at 100 is on the scale if it was not below zero. -/
theorem isLoad_cutOff {percent : Float} (hpercent : NotBelowZero (ofFloat percent).unpacked) :
    isLoad (ofFloat (if percent < 100.0 then percent else 100.0)) = true := by
  have htop : ofFloat 100.0 = maxLoad := by decide +kernel
  split
  · next hless =>
      rw [Binary64.ofFloat_lt_iff, htop] at hless
      obtain ⟨hnumber, -, hkey⟩ := hless
      have hnonneg := (Binary64.notBelowZero_unpacked_iff hnumber).1 hpercent
      have hmax : maxLoad.valueKey < Binary64.infinityPattern := by decide
      have hfinite := Binary64.isFinite_of_valueKey hnonneg (Int.lt_trans hkey hmax)
      simp [isLoad, hfinite, hnonneg, Int.le_of_lt hkey]
  · rw [htop]
    decide

/-- Every reading of the load is on the scale, and so is zero in place of none. -/
theorem isLoad_load (averages : String) (cores : Nat) :
    isLoad ((load? averages cores).getD .zero) = true := by
  unfold load?
  cases firstNumber? averages.toList with
  | none => exact isLoad_zero
  | some average =>
      simp only [Option.bind_eq_bind, Option.bind_some]
      split
      · exact isLoad_zero
      · next hcheck =>
          simp only [Bool.or_eq_true, Bool.not_eq_eq_eq_not, decide_eq_true_eq, not_or] at hcheck
          obtain ⟨hfinite, hbelow⟩ := hcheck
          have haverage := notBelowZero_of_not_lt (by simpa using hfinite) hbelow
          have hcores := Binary64.hasNoMinus_nearest (max cores 1) 0
          have hhundred : HasNoMinus (ofFloat 100.0).unpacked :=
            Binary64.hasNoMinus_constant (by decide +kernel)
          have hshare : NotBelowZero
              (ofFloat (average / Decimal.nearest (max cores 1) 0)).unpacked := by
            rw [Binary64.ofFloat_div]
            exact Binary64.notBelowZero_packed (Binary64.notBelowZero_div haverage hcores)
          refine isLoad_cutOff ?_
          rw [Binary64.ofFloat_mul]
          exact Binary64.notBelowZero_packed (Binary64.notBelowZero_mul hshare hhundred)

/-- A float that is an amount once it is divided by `2 ^ k`: a finite one that is not below zero, or
by no more than half of `2 ^ k` units of the last place. -/
def IsAmountOver (k : Nat) (x : Float) : Prop :=
  (ofFloat x).isFinite = true ∧ -(2 ^ (k - 1) : Nat) ≤ (ofFloat x).valueKey

theorem isAmountOver_of_isAmount {x : Float} (k : Nat) (hx : isAmount (ofFloat x) = true) :
    IsAmountOver k x := by
  obtain ⟨hfinite, hnonneg⟩ := isAmount_iff.1 hx
  exact ⟨hfinite, Int.le_trans (Int.neg_nonpos_of_nonneg (Int.natCast_nonneg _)) hnonneg⟩

/-- A division by a float that stands for `2 ^ k`. -/
theorem isAmount_div_iff {x unit : Float} {k : Nat} (hk : 1 ≤ k) (hk' : k ≤ 52)
    (hunit : (ofFloat unit).unpacked = Binary64.powerOfTwo k) :
    isAmount (ofFloat (x / unit)) = true ↔ IsAmountOver k x := by
  have hquotient : ofFloat (x / unit) = (ofFloat x).scaledDown k := by
    rw [Binary64.scaledDown, ← hunit, Binary64.ofFloat_div]
  rw [isAmount_iff, hquotient, Binary64.scaledDown_notBelowZero_iff hk hk']
  exact Iff.rfl

theorem unpacked_kibPerGib : (ofFloat kibPerGib).unpacked = Binary64.powerOfTwo 20 :=
  Binary64.unpacked_eq_powerOfTwo (by decide) (by decide +kernel)

theorem unpacked_mibPerGib : (ofFloat mibPerGib).unpacked = Binary64.powerOfTwo 10 :=
  Binary64.unpacked_eq_powerOfTwo (by decide) (by decide +kernel)

theorem isAmount_memory_iff (table : String) :
    isAmount ((memory? table).getD .zero) = true ↔
      ∀ kib ∈ totalKib? table, IsAmountOver 20 kib := by
  rw [memory?_eq]
  cases totalKib? table with
  | none => simp [isAmount_zero]
  | some kib => simpa using isAmount_div_iff (by decide) (by decide) unpacked_kibPerGib

/-- The little that is below zero here is lost; what remains is minus zero. -/
example : memory? "MemTotal: -1e-320 kB\n" = some ⟨0x8000000000000000⟩ := by decide +kernel

theorem isAmount_gpuMemory_iff (devices : String) :
    isAmount (gpuMemory devices) = true ↔ IsAmountOver 10 (deviceSum devices) := by
  rw [gpuMemory_eq]
  exact isAmount_div_iff (by decide) (by decide) unpacked_mibPerGib

/-- One device whose number is not finite spoils the sum. -/
theorem isFinite_of_isAmount_gpuMemory {devices : String}
    (hamount : isAmount (gpuMemory devices) = true) :
    ∀ mib ∈ deviceMib devices, (ofFloat mib).isFinite = true :=
  (Binary64.isFinite_of_foldl_add ((isAmount_gpuMemory_iff devices).1 hamount).1).2

/-- If every device has an amount, only the size of the sum counts. -/
theorem isAmount_gpuMemory_of_amounts {devices : String}
    (hamounts : ∀ mib ∈ deviceMib devices, isAmount (ofFloat mib) = true) :
    isAmount (gpuMemory devices) = true ↔ (ofFloat (deviceSum devices)).isFinite = true := by
  have hstart : NotBelowZero (ofFloat (-0.0)).unpacked :=
    .inr ⟨_, Binary64.unpacked_of_zero (by decide +kernel)⟩
  have hsum : NotBelowZero (ofFloat (deviceSum devices)).unpacked :=
    Binary64.notBelowZero_foldl_add hstart fun mib hmib => by
      obtain ⟨hfinite, hnonneg⟩ := isAmount_iff.1 (hamounts mib hmib)
      exact (Binary64.notBelowZero_unpacked_iff (Binary64.isNumber_of_isFinite hfinite)).2 hnonneg
  rw [isAmount_gpuMemory_iff]
  refine ⟨And.left, fun hfinite => isAmountOver_of_isAmount 10 (isAmount_iff.2 ⟨hfinite, ?_⟩)⟩
  exact (Binary64.notBelowZero_unpacked_iff (Binary64.isNumber_of_isFinite hfinite)).1 hsum

variable {transport : Transport} {deadline : Duration} {a : Address} {now : Timestamp}

/-- A probe of this host brings models that pass every check, so its hardware alone decides. -/
theorem isSound_probeLocal_iff {hardware : Exchange.Hardware} :
    (Exchange.probeLocal transport hardware deadline a now).2.IsSound ↔
      isLoad hardware.load = true ∧ isAmount hardware.memoryGb = true ∧
        isAmount hardware.gpuMemoryGb = true := by
  rcases hwithin : Exchange.within deadline (Exchange.tags transport a now) with ⟨time, result⟩
  rw [Exchange.probeLocal, hwithin, Capability.isSound_iff]
  cases result with
  | error fault =>
      have hnone : ∀ m ∈ (∅ : TextSet).toList, Text.isBlankText m = false :=
        fun m hm => absurd hm List.not_mem_nil
      simpa using fun _ _ _ => hnone
  | ok c =>
      have hsound : c.IsSound := Exchange.isSound_of_tags (Exchange.eq_of_within hwithin)
      simpa using fun _ _ _ => (Capability.isSound_iff.1 hsound).2.2.2

/-- Whatever the texts that could be had of a host, the load is on the scale. The memory is an
amount exactly if the table names no total, or one that is an amount over `2 ^ 20`, and so is the
memory of the graphics devices if the sum is one over `2 ^ 10`; for that every number in the lines
has to be finite, and if each is an amount only the sum has to be finite. Nothing else decides
whether the node of this host is sound. -/
theorem hardware_is_sound_iff (cores : UInt32) (table? averages? devices? : Option String) :
    let h := hardware cores table? averages? devices?
    isLoad h.load = true ∧
    (isAmount h.memoryGb = true ↔
      ∀ table ∈ table?, ∀ kib ∈ totalKib? table, IsAmountOver 20 kib) ∧
    (isAmount h.gpuMemoryGb = true ↔
      ∀ devices ∈ devices?, IsAmountOver 10 (deviceSum devices)) ∧
    (∀ devices ∈ devices?, isAmount h.gpuMemoryGb = true →
      ∀ mib ∈ deviceMib devices, (ofFloat mib).isFinite = true) ∧
    (∀ devices ∈ devices?, (∀ mib ∈ deviceMib devices, isAmount (ofFloat mib) = true) →
      (isAmount h.gpuMemoryGb = true ↔ (ofFloat (deviceSum devices)).isFinite = true)) ∧
    ∀ transport deadline a now, (Exchange.probeLocal transport h deadline a now).2.IsSound ↔
      isAmount h.memoryGb = true ∧ isAmount h.gpuMemoryGb = true := by
  intro h
  have hload : isLoad h.load = true := by
    show isLoad ((averages?.bind fun averages => load? averages cores.toNat).getD .zero) = true
    cases averages? with
    | none => exact isLoad_zero
    | some averages => exact isLoad_load averages cores.toNat
  have hmemory : isAmount h.memoryGb = true ↔
      ∀ table ∈ table?, ∀ kib ∈ totalKib? table, IsAmountOver 20 kib := by
    show isAmount ((table?.bind memory?).getD .zero) = true ↔ _
    cases table? with
    | none => simp [isAmount_zero]
    | some table => simpa using isAmount_memory_iff table
  have hgpu : isAmount h.gpuMemoryGb = true ↔
      ∀ devices ∈ devices?, IsAmountOver 10 (deviceSum devices) := by
    show isAmount ((devices?.map gpuMemory).getD .zero) = true ↔ _
    cases devices? with
    | none => simp [isAmount_zero]
    | some devices => simpa using isAmount_gpuMemory_iff devices
  have hdevices {devices : String} (hread : devices ∈ devices?) :
      h.gpuMemoryGb = gpuMemory devices := by
    show (devices?.map gpuMemory).getD .zero = _
    rw [Option.mem_def.1 hread]
    rfl
  refine ⟨hload, hmemory, hgpu, fun devices hread hamount => ?_, fun devices hread hamounts => ?_,
    fun transport deadline a now => ?_⟩
  · exact isFinite_of_isAmount_gpuMemory (hdevices hread ▸ hamount)
  · rw [hdevices hread]
    exact isAmount_gpuMemory_of_amounts hamounts
  · rw [isSound_probeLocal_iff, and_iff_right hload]

/-- The texts of a host with eight cores, 31.25 GiB and two devices of 24 GiB, a quarter of which
is in use; the device that has no number counts for nothing. -/
def workstation : Exchange.Hardware :=
  hardware 8 (some "MemTotal:       32768000 kB\nMemFree:         1024000 kB\n")
    (some "2.00 1.50 1.00 3/512 12345\n") (some "24576\n[N/A]\n24576\n")

theorem hardware_is_sound_iff_workstation :
    workstation.memoryGb = ofFloat 31.25 ∧ workstation.gpuMemoryGb = ofFloat 48.0 ∧
      workstation.load = ofFloat 25.0 ∧
      (Exchange.probeLocal .closed workstation 0 ⟨"127.0.0.1", defaultPort⟩
        .epoch).2.IsSound := by
  have hmemory : workstation.memoryGb = ofFloat 31.25 := by decide +kernel
  have hgpu : workstation.gpuMemoryGb = ofFloat 48.0 := by decide +kernel
  have hload : workstation.load = ofFloat 25.0 := by decide +kernel
  refine ⟨hmemory, hgpu, hload, ((hardware_is_sound_iff _ _ _ _).2.2.2.2.2 _ _ _ _).2 ⟨?_, ?_⟩⟩
  · exact (congrArg isAmount hmemory).trans (by decide +kernel)
  · exact (congrArg isAmount hgpu).trans (by decide +kernel)

/-- Not every reading is an amount: a table may spell a total that is not a number. -/
theorem reading_is_no_amount :
    ¬ ∀ (cores : UInt32) (table? averages? devices? : Option String),
      let h := hardware cores table? averages? devices?
      isLoad h.load = true ∧ isAmount h.memoryGb = true ∧ isAmount h.gpuMemoryGb = true := by
  intro hall
  obtain ⟨-, hmemory, -⟩ := hall 1 (some "MemTotal: NaN kB\n") none none
  exact absurd hmemory (by decide +kernel)

end HostReadings

end InferenceFleet
