import GridGooseSV.Sv.Handover

/-!
# What a listener sees

A listener sees the fields of an ASDU through the getters, which find the octets at the
positions that the parser noted. The getters of the fields of fixed width do not ask how
long the element is.
-/

namespace GridGooseSV

open BerDecoder

/-! ## Strings -/

/-- A string with its terminator stands at an address. -/
def Memory.IsString (memory : Memory) (address : Nat) (string : List UInt8) : Prop :=
  memory.Holds address (string ++ [0]) ∧ 0 ∉ string

namespace Memory

variable {memory other : Memory} {address place bound : Nat} {string : List UInt8}

/-- A string depends on the octets up to a terminator only. -/
theorem IsString.transfer (held : memory.IsString address string)
    (agree : ∀ index < bound, memory (address + index) = other (place + index))
    {length : Nat} (inside : length < bound) (ends : memory (address + length) = 0) :
    other.IsString place string := by
  obtain ⟨octets, absent⟩ := held
  have short : string.length ≤ length := by
    by_contra long
    have inString := octets.get length (by rw [List.length_append]; omega)
    rw [ends, List.getElem_append_left (by omega)] at inString
    exact absent (inString ▸ List.getElem_mem _)
  refine ⟨?_, absent⟩
  rw [Holds, ← octets.octets, length_octets]
  apply List.ext_getElem (by simp)
  intro index bounded _
  rw [length_octets, List.length_append, List.length_singleton] at bounded
  rw [getElem_octets, getElem_octets, agree index (by omega)]

theorem isString_congr (agree : ∀ index < bound, memory (address + index) = other (place + index))
    {length : Nat} (inside : length < bound) (ends : memory (address + length) = 0) :
    memory.IsString address string ↔ other.IsString place string := by
  constructor
  · intro held
    exact held.transfer agree inside ends
  · intro held
    refine held.transfer (fun index below => (agree index below).symm) inside ?_
    rw [← agree length inside, ends]

end Memory

/-! ## Fields of fixed width -/

/-- The fields of an ASDU whose getters read a fixed number of octets. -/
inductive SVField
  | smpCnt
  | confRev
  | refrTm
  | smpSynch
  | smpRate
  | smpMod
  deriving DecidableEq, Repr

namespace SVField

/-- The tag of a field. -/
def tag : SVField → UInt8
  | smpCnt => 0x82
  | confRev => 0x83
  | refrTm => 0x84
  | smpSynch => 0x85
  | smpRate => 0x86
  | smpMod => 0x88

/-- How many octets the getter of a field reads. -/
def width : SVField → Nat
  | smpCnt => 2
  | confRev => 4
  | refrTm => 7
  | smpSynch => 1
  | smpRate => 2
  | smpMod => 1

/-- Where the parser notes the position of a field. -/
def pointer (asdu : SVSubscriber.ASDU) : SVField → Option Nat
  | smpCnt => asdu.smpCnt
  | confRev => asdu.confRev
  | refrTm => asdu.refrTm
  | smpSynch => asdu.smpSynch
  | smpRate => asdu.smpRate
  | smpMod => asdu.smpMod

theorem pointer_ofElements (elements : List Element) (field : SVField) :
    field.pointer (ParsedASDU.ofElements elements).asdu =
      (lastOf field.tag elements).map Element.address := by
  cases field <;> rfl

theorem width_pos (field : SVField) : 0 < field.width := by
  cases field <;> decide

end SVField

namespace SVCall

variable (call : SVCall)

/-- The octets that the getter of a field reads. -/
def octetsOf (field : SVField) : Option (List UInt8) :=
  (field.pointer call.asdu).map fun address => call.memory.octets address field.width

/-- The string that `SVSubscriber_ASDU_getSvId` gives. -/
def SvIdIs (string : List UInt8) : Prop :=
  ∃ address, call.asdu.getSvId = some address ∧ call.memory.IsString address string

/-- The string that `SVSubscriber_ASDU_getDatSet` gives. -/
def DatSetIs (string : List UInt8) : Prop :=
  ∃ address, call.asdu.getDatSet = some address ∧ call.memory.IsString address string

/-- What `SVSubscriber_ASDU_getSmpCnt` gives. -/
def smpCnt : Option UInt16 := (call.asdu.getSmpCnt call.memory).map Traced.value

/-- What `SVSubscriber_ASDU_getConfRev` gives. -/
def confRev : Option UInt32 := (call.asdu.getConfRev call.memory).map Traced.value

/-- What `SVSubscriber_ASDU_getRefrTmAsNs` gives. -/
def refrTmAsNs : UInt64 := (call.asdu.getRefrTmAsNs call.memory).value

/-- What `SVSubscriber_ASDU_getRefrTmAsMs` gives. -/
def refrTmAsMs : UInt64 := (call.asdu.getRefrTmAsMs call.memory).value

/-- What `SVSubscriber_ASDU_getSmpSynch` gives. -/
def smpSynch : Option UInt8 := (call.asdu.getSmpSynch call.memory).map Traced.value

/-- What `SVSubscriber_ASDU_getSmpRate` gives. -/
def smpRate : Option UInt16 := (call.asdu.getSmpRate call.memory).map Traced.value

/-- What `SVSubscriber_ASDU_getSmpMod` gives. -/
def smpMod : Option UInt8 := (call.asdu.getSmpMod call.memory).map Traced.value

/-- The octets of the data block. -/
def data : Option (List UInt8) :=
  call.asdu.dataBuffer.map fun address => call.memory.octets address call.asdu.getDataSize

/-! ## Getters -/

theorem smpCnt_eq : call.smpCnt =
    (call.octetsOf .smpCnt).map fun octets => UInt16.ofNat (bigEndian octets) := by
  unfold smpCnt octetsOf SVSubscriber.ASDU.getSmpCnt
  rw [Option.map_map, Option.map_map]
  congr 1
  funext address
  exact uint16Of_eq _ _

theorem confRev_eq : call.confRev =
    (call.octetsOf .confRev).map fun octets => UInt32.ofNat (bigEndian octets) := by
  unfold confRev octetsOf SVSubscriber.ASDU.getConfRev
  rw [Option.map_map, Option.map_map]
  rfl

theorem smpSynch_eq : call.smpSynch =
    (call.octetsOf .smpSynch).map fun octets => UInt8.ofNat (bigEndian octets) := by
  unfold smpSynch octetsOf SVSubscriber.ASDU.getSmpSynch
  rw [Option.map_map, Option.map_map]
  congr 1
  funext address
  simp [SVField.width, Memory.octets_succ, bigEndian]

theorem smpRate_eq : call.smpRate =
    (call.octetsOf .smpRate).map fun octets => UInt16.ofNat (bigEndian octets) := by
  unfold smpRate octetsOf SVSubscriber.ASDU.getSmpRate
  rw [Option.map_map, Option.map_map]
  congr 1
  funext address
  exact uint16Of_eq _ _

theorem smpMod_eq : call.smpMod =
    (call.octetsOf .smpMod).map fun octets => UInt8.ofNat (bigEndian octets) := by
  unfold smpMod octetsOf SVSubscriber.ASDU.getSmpMod
  rw [Option.map_map, Option.map_map]
  congr 1
  funext address
  simp [SVField.width, Memory.octets_succ, bigEndian]

theorem refrTmAsNs_eq : call.refrTmAsNs = ((call.octetsOf .refrTm).map nsOfUtcTime).getD 0 := by
  unfold refrTmAsNs octetsOf SVSubscriber.ASDU.getRefrTmAsNs SVField.pointer
  cases call.asdu.refrTm with
  | none => rfl
  | some address => rfl

theorem refrTmAsMs_eq : call.refrTmAsMs = call.refrTmAsNs / 1000000 := rfl

end SVCall

/-- Two listeners see the same, whichever getter they use. -/
structure SVCall.SeenAlike (first second : SVCall) : Prop where
  svId : ∀ string, first.SvIdIs string ↔ second.SvIdIs string
  hasSvId : first.asdu.getSvId.isSome = second.asdu.getSvId.isSome
  datSet : ∀ string, first.DatSetIs string ↔ second.DatSetIs string
  hasDatSet : first.asdu.hasDatSet = second.asdu.hasDatSet
  smpCnt : first.smpCnt = second.smpCnt
  confRev : first.confRev = second.confRev
  hasRefrTm : first.asdu.hasRefrTm = second.asdu.hasRefrTm
  refrTmAsNs : first.refrTmAsNs = second.refrTmAsNs
  refrTmAsMs : first.refrTmAsMs = second.refrTmAsMs
  smpSynch : first.smpSynch = second.smpSynch
  hasSmpRate : first.asdu.hasSmpRate = second.asdu.hasSmpRate
  smpRate : first.smpRate = second.smpRate
  hasSmpMod : first.asdu.hasSmpMod = second.asdu.hasSmpMod
  smpMod : first.smpMod = second.smpMod
  dataSize : first.asdu.getDataSize = second.asdu.getDataSize
  data : first.data = second.data

namespace SVCall

variable {first second : SVCall}

/-- A getter that tells octets apart sees the same only in the same octets. -/
theorem octetsOf_eq_of_map {α : Type} {field : SVField} {decode : List UInt8 → α}
    (tells : ∀ octets others : List UInt8, octets.length = field.width →
      others.length = field.width → decode octets = decode others → octets = others)
    (same : (first.octetsOf field).map decode = (second.octetsOf field).map decode) :
    first.octetsOf field = second.octetsOf field := by
  unfold octetsOf at same ⊢
  cases one : field.pointer first.asdu with
  | none =>
      cases other : field.pointer second.asdu with
      | none => rfl
      | some _ => simp [one, other] at same
  | some address =>
      cases other : field.pointer second.asdu with
      | none => simp [one, other] at same
      | some place =>
          simp only [one, other, Option.map_some, Option.some.injEq] at same ⊢
          exact tells _ _ (Memory.length_octets ..) (Memory.length_octets ..) same

/-- A number that keeps all octets. -/
theorem eq_of_bigEndian_mod {octets others : List UInt8} {width : Nat}
    (length : octets.length = width) (lengthOther : others.length = width)
    (same : bigEndian octets % 256 ^ width = bigEndian others % 256 ^ width) :
    octets = others := by
  subst length
  rw [Nat.mod_eq_of_lt (bigEndian_lt octets),
    Nat.mod_eq_of_lt (lengthOther ▸ bigEndian_lt others)] at same
  exact bigEndian_inj lengthOther.symm same

/-- Listeners who see the same find the same octets in every field. -/
theorem SeenAlike.octetsOf (alike : first.SeenAlike second) (field : SVField) :
    first.octetsOf field = second.octetsOf field := by
  cases field with
  | smpCnt =>
      refine octetsOf_eq_of_map (fun octets others length lengthOther same => ?_)
        (first.smpCnt_eq.symm.trans (alike.smpCnt.trans second.smpCnt_eq))
      apply eq_of_bigEndian_mod length lengthOther
      simpa [SVField.width] using congrArg UInt16.toNat same
  | confRev =>
      refine octetsOf_eq_of_map (fun octets others length lengthOther same => ?_)
        (first.confRev_eq.symm.trans (alike.confRev.trans second.confRev_eq))
      apply eq_of_bigEndian_mod length lengthOther
      simpa [SVField.width] using congrArg UInt32.toNat same
  | refrTm =>
      have has : first.asdu.refrTm.isSome = second.asdu.refrTm.isSome := alike.hasRefrTm
      have time := first.refrTmAsNs_eq.symm.trans (alike.refrTmAsNs.trans second.refrTmAsNs_eq)
      refine octetsOf_eq_of_map (fun octets others => eq_of_nsOfUtcTime) ?_
      unfold SVCall.octetsOf SVField.pointer at time ⊢
      cases one : first.asdu.refrTm with
      | none =>
          cases other : second.asdu.refrTm with
          | none => rfl
          | some _ => simp [one, other] at has
      | some address =>
          cases other : second.asdu.refrTm with
          | none => simp [one, other] at has
          | some place =>
              simp only [one, other] at time
              exact congrArg some time
  | smpSynch =>
      refine octetsOf_eq_of_map (fun octets others length lengthOther same => ?_)
        (first.smpSynch_eq.symm.trans (alike.smpSynch.trans second.smpSynch_eq))
      apply eq_of_bigEndian_mod length lengthOther
      simpa [SVField.width] using congrArg UInt8.toNat same
  | smpRate =>
      refine octetsOf_eq_of_map (fun octets others length lengthOther same => ?_)
        (first.smpRate_eq.symm.trans (alike.smpRate.trans second.smpRate_eq))
      apply eq_of_bigEndian_mod length lengthOther
      simpa [SVField.width] using congrArg UInt16.toNat same
  | smpMod =>
      refine octetsOf_eq_of_map (fun octets others length lengthOther same => ?_)
        (first.smpMod_eq.symm.trans (alike.smpMod.trans second.smpMod_eq))
      apply eq_of_bigEndian_mod length lengthOther
      simpa [SVField.width] using congrArg UInt8.toNat same

/-- Listeners who find the same octets see the same. -/
theorem seenAlike_of_octets (fields : ∀ field, first.octetsOf field = second.octetsOf field)
    (svId : ∀ string, first.SvIdIs string ↔ second.SvIdIs string)
    (hasSvId : first.asdu.getSvId.isSome = second.asdu.getSvId.isSome)
    (datSet : ∀ string, first.DatSetIs string ↔ second.DatSetIs string)
    (hasDatSet : first.asdu.hasDatSet = second.asdu.hasDatSet)
    (dataSize : first.asdu.getDataSize = second.asdu.getDataSize)
    (data : first.data = second.data) : first.SeenAlike second := by
  have has : ∀ field : SVField,
      (field.pointer first.asdu).isSome = (field.pointer second.asdu).isSome := by
    intro field
    simpa [SVCall.octetsOf] using congrArg Option.isSome (fields field)
  have time : first.refrTmAsNs = second.refrTmAsNs := by
    rw [refrTmAsNs_eq, refrTmAsNs_eq, fields]
  exact {
    svId := svId
    hasSvId := hasSvId
    datSet := datSet
    hasDatSet := hasDatSet
    smpCnt := by rw [smpCnt_eq, smpCnt_eq, fields]
    confRev := by rw [confRev_eq, confRev_eq, fields]
    hasRefrTm := has .refrTm
    refrTmAsNs := time
    refrTmAsMs := by rw [refrTmAsMs_eq, refrTmAsMs_eq, time]
    smpSynch := by rw [smpSynch_eq, smpSynch_eq, fields]
    hasSmpRate := has .smpRate
    smpRate := by rw [smpRate_eq, smpRate_eq, fields]
    hasSmpMod := has .smpMod
    smpMod := by rw [smpMod_eq, smpMod_eq, fields]
    dataSize := dataSize
    data := data }

end SVCall

end GridGooseSV
