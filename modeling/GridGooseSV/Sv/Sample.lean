import GridGooseSV.Ber.Length
import GridGooseSV.Sv.Publisher

/-!
# What a frame says of an ASDU

The setters of a publisher patch the encoded frame. What the frame says is stated here as
a list of samples; the frame is their encoding, and every recorded position is where the
encoding has the field.
-/

namespace GridGooseSV.SVPublisher

open BerEncoder BerDecoder

/-- What a frame says of an ASDU, and the wrap limit of its counter, which is not sent. -/
structure Sample where
  svID : CString
  datset : Option CString
  smpCnt : UInt16
  smpCntLimit : UInt16
  confRev : UInt32
  refrTm : Option Timestamp
  smpSynch : UInt8
  smpRate : Option UInt16
  data : List UInt8
  smpMod : Option UInt8
  deriving DecidableEq

/-- What is encoded of an ASDU, over the octets that are passed over. -/
def ASDU.sample (self : ASDU) (refrTm : Timestamp) (data : List UInt8) : Sample where
  svID := self.svID
  datset := self.datset
  smpCnt := self.smpCnt
  smpCntLimit := self.smpCntLimit
  confRev := self.confRev
  refrTm := if self.hasRefrTm then some refrTm else none
  smpSynch := self.smpSynch
  smpRate := if self.hasSmpRate then some self.smpRate else none
  data := data
  smpMod := if self.hasSmpMod then some self.smpMod else none

namespace Sample

variable (self : Sample)

/-- The elements of an ASDU. -/
def items : List (UInt8 × List UInt8) :=
  (0x80, self.svID.val) :: (self.datset.toList.map fun datset => (0x81, datset.val)) ++
  (0x82, encodeUInt16FixedSize self.smpCnt) :: (0x83, encodeUInt32FixedSize self.confRev) ::
  (self.refrTm.toList.map fun refrTm => (0x84, refrTm.val)) ++
  (0x85, [self.smpSynch]) ::
  (self.smpRate.toList.map fun smpRate => (0x86, encodeUInt16FixedSize smpRate)) ++
  (0x87, self.data) ::
  (self.smpMod.toList.map fun smpMod => (0x88, encodeUInt16FixedSize smpMod.toUInt16))

/-- The size of the elements as the source counts it. -/
def size : Nat :=
  (1 + determineLengthSize self.svID.val.length + self.svID.val.length) +
  (match self.datset with
    | some datset => 1 + determineLengthSize datset.val.length + datset.val.length
    | none => 0) +
  4 + 6 +
  (if self.refrTm.isSome then 10 else 0) +
  3 +
  (if self.smpRate.isSome then 4 else 0) +
  (1 + determineLengthSize self.data.length) + self.data.length +
  (if self.smpMod.isSome then 4 else 0)

/-! ## The parts of the encoding -/

/-- Everything before the counter. -/
def front : List UInt8 :=
  encodeTL 0x30 self.size ++ encodeStringWithTag 0x80 (some self.svID.val) ++
    (match self.datset with
      | some datset => encodeStringWithTag 0x81 (some datset.val)
      | none => []) ++
    encodeTL 0x82 2

/-- What stands between the counter and the time. -/
def number : List UInt8 :=
  encodeTL 0x83 4 ++ encodeUInt32FixedSize self.confRev ++
    (if self.refrTm.isSome then encodeTL 0x84 8 else [])

/-- The octets of the time. -/
def time : List UInt8 :=
  match self.refrTm with
  | some refrTm => refrTm.val
  | none => []

/-- What stands between the synchronisation and the data. -/
def block : List UInt8 :=
  (match self.smpRate with
    | some smpRate => encodeTL 0x86 2 ++ encodeUInt16FixedSize smpRate
    | none => []) ++
  encodeTL 0x87 self.data.length

/-- What stands behind the data. -/
def last : List UInt8 :=
  match self.smpMod with
  | some smpMod => encodeTL 0x88 2 ++ encodeUInt16FixedSize smpMod.toUInt16
  | none => []

/-- The encoding of an ASDU. -/
def octets : List UInt8 :=
  self.front ++ (encodeUInt16FixedSize self.smpCnt ++ (self.number ++ (self.time ++
    (encodeTL 0x85 1 ++ ([self.smpSynch] ++ (self.block ++ (self.data ++ self.last)))))))

/-- Where the counter stands. -/
def smpCntAt : Nat := self.front.length

/-- Where the time stands. -/
def refrTmAt : Nat := self.smpCntAt + 2 + self.number.length

/-- Where the synchronisation stands. -/
def smpSynchAt : Nat := self.refrTmAt + self.time.length + 2

/-- Where the data stand. -/
def dataAt : Nat := self.smpSynchAt + 1 + self.block.length

end Sample

@[simp] theorem length_encodeUInt16FixedSize (value : UInt16) :
    (encodeUInt16FixedSize value).length = 2 := by
  simp [encodeUInt16FixedSize, revertByteOrder]

@[simp] theorem length_encodeUInt32FixedSize (value : UInt32) :
    (encodeUInt32FixedSize value).length = 4 := by
  simp [encodeUInt32FixedSize, revertByteOrder]

namespace Sample

variable {self : Sample}

/-- The encoding is made of the elements, behind the size that was counted. -/
theorem octets_split :
    self.octets = encodeTL 0x30 self.size ++ tlvs encodeLength self.items := by
  have datset : (match self.datset with
      | some datset => encodeStringWithTag 0x81 (some datset.val)
      | none => []) = self.datset.elim [] fun datset => tlv encodeLength 0x81 datset.val := by
    cases self.datset <;> rfl
  have refrTm : (if self.refrTm.isSome then encodeTL 0x84 8 else []) ++ self.time =
      self.refrTm.elim [] fun refrTm => tlv encodeLength 0x84 refrTm.val := by
    unfold Sample.time
    cases self.refrTm with
    | none => rfl
    | some refrTm =>
        rw [Option.elim_some, tlv, refrTm.property]
        rfl
  have smpRate : (match self.smpRate with
      | some smpRate => encodeTL 0x86 2 ++ encodeUInt16FixedSize smpRate
      | none => []) = self.smpRate.elim [] fun smpRate =>
        tlv encodeLength 0x86 (encodeUInt16FixedSize smpRate) := by
    cases self.smpRate <;> rfl
  have smpMod : self.last = self.smpMod.elim [] fun smpMod =>
      tlv encodeLength 0x88 (encodeUInt16FixedSize smpMod.toUInt16) := by
    unfold Sample.last
    cases self.smpMod <;> rfl
  simp only [octets, front, number, block, items, datset, smpRate, smpMod, tlvs, tlvs_append,
    tlvs_optional, ← refrTm]
  simp [tlv, encodeTL, encodeStringWithTag]

/-- The elements are counted right. -/
theorem length_items (small : (tlvs encodeLength self.items).length < 65535) :
    self.size = (tlvs encodeLength self.items).length := by
  have two : (encodeLength 2).length = 1 := rfl
  have four : (encodeLength 4).length = 1 := rfl
  have eight : (encodeLength 8).length = 1 := rfl
  have one : (encodeLength 1).length = 1 := rfl
  have length : (tlvs encodeLength self.items).length =
      (1 + (encodeLength self.svID.val.length).length + self.svID.val.length) +
      (match self.datset with
        | some datset => 1 + (encodeLength datset.val.length).length + datset.val.length
        | none => 0) +
      4 + 6 +
      (if self.refrTm.isSome then 10 else 0) +
      3 +
      (if self.smpRate.isSome then 4 else 0) +
      (1 + (encodeLength self.data.length).length) + self.data.length +
      (if self.smpMod.isSome then 4 else 0) := by
    have optional : ∀ {α : Type} (tag : UInt8) (content : α → List UInt8) (option : Option α)
        (size : Nat), (∀ value, (content value).length = size) →
        (option.elim [] fun value => tlv encodeLength tag (content value)).length =
          if option.isSome then 1 + (encodeLength size).length + size else 0 := by
      intro α tag content option size fixed
      cases option with
      | none => rfl
      | some value =>
          rw [Option.elim_some, length_tlv, fixed]
          rfl
    have datset : (self.datset.elim [] fun datset => tlv encodeLength 0x81 datset.val).length =
        match self.datset with
        | some datset => 1 + (encodeLength datset.val.length).length + datset.val.length
        | none => 0 := by
      cases self.datset with
      | none => rfl
      | some datset => exact length_tlv ..
    simp only [items, tlvs, tlvs_append, tlvs_optional, List.length_append, length_tlv, datset,
      optional 0x84 _ self.refrTm 8 fun refrTm => refrTm.property,
      optional 0x86 _ self.smpRate 2 length_encodeUInt16FixedSize,
      optional 0x88 _ self.smpMod 2 fun _ => length_encodeUInt16FixedSize _,
      length_encodeUInt16FixedSize, length_encodeUInt32FixedSize, List.length_singleton, one, two,
      four, eight, Nat.reduceAdd]
    omega
  rw [length] at small ⊢
  unfold size
  rw [determineLengthSize_eq (by omega), determineLengthSize_eq (by omega)]
  cases datset : self.datset with
  | none => rfl
  | some datset =>
      simp only [datset] at small ⊢
      rw [determineLengthSize_eq (by omega)]

theorem octets_eq (small : self.octets.length < 65535) :
    self.octets = tlv encodeLength 0x30 (tlvs encodeLength self.items) := by
  have size := @length_items self (by
    rw [octets_split, List.length_append] at small
    omega)
  rw [octets_split, size]
  rfl

end Sample

/-! ## Encoding -/

/-- The recorded positions of an ASDU that is encoded at a position. -/
structure ASDU.Placed (asdu : ASDU) (position : Nat) (sample : Sample) : Prop where
  smpCnt : asdu.smpCnt = sample.smpCnt
  smpCntLimit : asdu.smpCntLimit = sample.smpCntLimit
  smpCntBuf : asdu.smpCntBuf = some (position + sample.smpCntAt)
  refrTm : asdu.refrTm = sample.refrTm.map fun _ => position + sample.refrTmAt
  smpSynchBuf : asdu.smpSynchBuf = some (position + sample.smpSynchAt)
  dataBuffer : asdu.dataBuffer = some (position + sample.dataAt)

/-- A sample says what an ASDU says, over the octets that are passed over. -/
def ASDU.EncodedAs (asdu : ASDU) (sample : Sample) : Prop :=
  ∃ refrTm data, data.length = asdu.dataSize ∧ sample = asdu.sample refrTm data

/-- An ASDU that was encoded. -/
structure ASDU.Encoded (asdu after : ASDU) (memory written : Memory) (bufPos stop : Nat)
    (sample : Sample) : Prop where
  encodedAs : asdu.EncodedAs sample
  stillAs : after.EncodedAs sample
  held : written.Holds bufPos sample.octets
  stop : stop = bufPos + sample.octets.length
  placed : after.Placed bufPos sample
  before : ∀ position < bufPos, written position = memory position

/-- What is written in two runs, with octets passed over in the first and between the runs. -/
theorem holds_parts (memory : Memory) (address : Nat)
    (front numbers time synch middle last : List UInt8) (skip size : Nat) :
    let afterTime := ((memory.put address front).put (address + front.length) numbers).put
      (address + front.length + numbers.length) time
    let behindTime := address + front.length + numbers.length + time.length
    let found := afterTime.octets behindTime skip
    let start := behindTime + skip
    let afterMiddle := (afterTime.put start synch).put (start + synch.length) middle
    let behindMiddle := start + synch.length + middle.length
    let data := afterMiddle.octets behindMiddle size
    let written := afterMiddle.put (behindMiddle + size) last
    written.Holds address (front ++ numbers ++ time ++ found ++ synch ++ middle ++ data ++ last) ∧
      ∀ position < address, written position = memory position := by
  intro afterTime behindTime found start afterMiddle behindMiddle data written
  have place : ∀ {position : Nat} {given : List UInt8}, address + given.length = position →
      ∀ {memory : Memory}, memory.Holds address given → ∀ octets,
        (memory.put position octets).Holds address (given ++ octets) := by
    rintro _ given rfl memory held octets
    exact held.append_put octets
  have pass : ∀ {position : Nat} {given : List UInt8}, address + given.length = position →
      ∀ {memory : Memory}, memory.Holds address given → ∀ count,
        memory.Holds address (given ++ memory.octets position count) := by
    rintro _ given rfl memory held count
    exact held.append_octets count
  refine ⟨?_, fun position before => ?_⟩
  · refine place ?_ (pass ?_ (place ?_ (place ?_ (pass ?_ (place ?_ (place ?_
      (Memory.holds_put _ _ _) _) _) _) _) _) _) _
    all_goals
      simp only [List.length_append, Memory.length_octets, behindTime, start, behindMiddle,
        Nat.add_assoc]
  · simp only [written, afterMiddle, afterTime, behindMiddle, start, behindTime]
    rw [Memory.put_outside, Memory.put_outside, Memory.put_outside, Memory.put_outside,
      Memory.put_outside, Memory.put_outside]
    all_goals
      left
      omega

theorem ASDU.size_sample {asdu : ASDU} {refrTm : Timestamp} {data : List UInt8}
    (length : data.length = asdu.dataSize) :
    (asdu.sample refrTm data).size = asdu.getEncodedSize := by
  unfold Sample.size getEncodedSize sample
  simp only [length]
  cases asdu.hasRefrTm <;> cases asdu.hasSmpRate <;> cases asdu.hasSmpMod <;> rfl

namespace ASDU

variable (self : ASDU)

/-- The octets that are written up to the counter. -/
def frontOctets : List UInt8 :=
  encodeTL 0x30 self.getEncodedSize ++ encodeStringWithTag 0x80 (some self.svID.val) ++
    (match self.datset with
      | some datset => encodeStringWithTag 0x81 (some datset.val)
      | none => []) ++
    encodeTL 0x82 2

/-- The octets of the counter and of the configuration revision. -/
def numberOctets : List UInt8 :=
  encodeUInt16FixedSize self.smpCnt ++ (encodeTL 0x83 4 ++ encodeUInt32FixedSize self.confRev)

/-- The octets from the synchronisation up to the data. -/
def middleOctets : List UInt8 :=
  self.smpSynch ::
    ((if self.hasSmpRate then encodeTL 0x86 2 ++ encodeUInt16FixedSize self.smpRate else []) ++
      encodeTL 0x87 self.dataSize)

/-- The octets behind the data. -/
def lastOctets : List UInt8 :=
  if self.hasSmpMod then encodeTL 0x88 2 ++ encodeUInt16FixedSize self.smpMod.toUInt16 else []

/-- The tag and the length of the time. -/
def timeOctets : List UInt8 := if self.hasRefrTm then encodeTL 0x84 8 else []

/-- The octets that are passed over for the time. -/
def timeSize : Nat := if self.hasRefrTm then 8 else 0

theorem value_encodeToBuffer (memory : Memory) (bufPos : Nat) :
    (self.encodeToBuffer memory bufPos).value =
      let behindTime := bufPos + self.frontOctets.length + self.numberOctets.length +
        self.timeOctets.length
      let start := behindTime + self.timeSize
      let behindMiddle := start + 2 + self.middleOctets.length
      ({ self with
        smpCntBuf := some (bufPos + self.frontOctets.length)
        refrTm := if self.hasRefrTm then some behindTime else self.refrTm
        smpSynchBuf := some (start + 2)
        dataBuffer := some behindMiddle },
      ((((((memory.put bufPos self.frontOctets).put (bufPos + self.frontOctets.length)
        self.numberOctets).put (bufPos + self.frontOctets.length + self.numberOctets.length)
        self.timeOctets).put start (encodeTL 0x85 1)).put (start + 2) self.middleOctets).put
        (behindMiddle + self.dataSize) self.lastOctets),
      behindMiddle + self.dataSize + self.lastOctets.length) := by
  unfold encodeToBuffer timeOctets timeSize
  cases has : self.hasRefrTm with
  | true =>
      simp only [↓reduceIte, Traced.value_bind, Memory.value_store, Traced.value_pure]
      rfl
  | false =>
      simp only [Bool.false_eq_true, ↓reduceIte, Memory.put_nil, Traced.value_bind,
        Memory.value_store, Traced.value_pure]
      rfl

section Sampled

variable {self} {refrTm : Timestamp} {data : List UInt8}

theorem front_sample (length : data.length = self.dataSize) :
    (self.sample refrTm data).front = self.frontOctets := by
  rw [Sample.front, size_sample length]
  rfl

/-- What is written is the encoding of the sample. -/
theorem octets_sample (length : data.length = self.dataSize) :
    (self.sample refrTm data).octets =
      self.frontOctets ++ self.numberOctets ++ self.timeOctets ++
        (if self.hasRefrTm then refrTm.val else []) ++ encodeTL 0x85 1 ++ self.middleOctets ++
        data ++ self.lastOctets := by
  rw [Sample.octets, front_sample length]
  unfold Sample.number Sample.time Sample.block Sample.last sample numberOctets timeOctets
    middleOctets lastOctets
  cases self.hasRefrTm <;> cases self.hasSmpRate <;> cases self.hasSmpMod <;> simp [length]

/-- The positions that are recorded are those of the sample. -/
theorem offsets_sample (length : data.length = self.dataSize) :
    let sample := self.sample refrTm data
    sample.smpCntAt = self.frontOctets.length ∧
      sample.refrTmAt =
        self.frontOctets.length + self.numberOctets.length + self.timeOctets.length ∧
      sample.smpSynchAt = sample.refrTmAt + self.timeSize + 2 ∧
      sample.dataAt = sample.smpSynchAt + self.middleOctets.length := by
  have time := refrTm.property
  unfold Sample.dataAt Sample.smpSynchAt Sample.refrTmAt Sample.smpCntAt
  simp only [front_sample length]
  unfold Sample.number Sample.time Sample.block sample numberOctets timeOctets timeSize
    middleOctets
  cases self.hasRefrTm <;> cases self.hasSmpRate <;> simp [length, time] <;> omega

end Sampled

/-- An ASDU is encoded at a position, over what is found there. -/
theorem encodeToBuffer_spec {asdu : ASDU} {memory : Memory} {bufPos : Nat}
    (unplaced : asdu.hasRefrTm = false → asdu.refrTm = none) :
    let result := (asdu.encodeToBuffer memory bufPos).value
    ∃ sample, asdu.Encoded result.1 memory result.2.1 bufPos result.2.2 sample := by
  have parts := holds_parts memory bufPos asdu.frontOctets asdu.numberOctets asdu.timeOctets
    (encodeTL 0x85 1) asdu.middleOctets asdu.lastOctets asdu.timeSize asdu.dataSize
  have synch : (encodeTL 0x85 1).length = 2 := rfl
  rw [value_encodeToBuffer]
  simp only [synch] at parts ⊢
  generalize foundEq : Memory.octets _ _ asdu.timeSize = found at parts
  generalize dataEq : Memory.octets _ _ asdu.dataSize = data at parts
  have foundSize : found.length = asdu.timeSize := by rw [← foundEq, Memory.length_octets]
  have dataSize : data.length = asdu.dataSize := by rw [← dataEq, Memory.length_octets]
  obtain ⟨refrTm, rfl⟩ : ∃ refrTm : Timestamp, found =
      if asdu.hasRefrTm then refrTm.val else [] := by
    unfold timeSize at foundSize
    cases has : asdu.hasRefrTm with
    | true =>
        rw [has, if_pos rfl] at foundSize
        exact ⟨⟨found, foundSize⟩, rfl⟩
    | false =>
        rw [has] at foundSize
        exact ⟨Octets.zero, List.length_eq_zero_iff.mp foundSize⟩
  rw [← octets_sample dataSize] at parts
  obtain ⟨held, before⟩ := parts
  obtain ⟨smpCntAt, refrTmAt, smpSynchAt, dataAt⟩ := @offsets_sample asdu refrTm data dataSize
  refine ⟨asdu.sample refrTm data, ⟨refrTm, data, dataSize, rfl⟩, ⟨refrTm, data, dataSize, rfl⟩,
    held, ?_, ?_, before⟩
  · rw [octets_sample dataSize]
    simp only [List.length_append, synch, dataSize, foundSize]
    omega
  · exact {
      smpCnt := rfl
      smpCntLimit := rfl
      smpCntBuf := by rw [smpCntAt]
      refrTm := by
        rw [refrTmAt, sample]
        cases has : asdu.hasRefrTm with
        | true =>
            simp only [↓reduceIte, Option.map_some, Option.some.injEq]
            omega
        | false => simpa [has] using unplaced
      smpSynchBuf := by
        rw [smpSynchAt, refrTmAt, Option.some.injEq]
        omega
      dataBuffer := by
        rw [dataAt, smpSynchAt, refrTmAt, Option.some.injEq]
        omega }

end ASDU

/-! ## Lists of ASDUs -/

/-- The encodings of samples, one after another. -/
def sampleOctets (samples : List Sample) : List UInt8 := samples.flatMap Sample.octets

/-- The recorded positions of ASDUs that are encoded from a position on. -/
inductive PlacedAll : Nat → List ASDU → List Sample → Prop
  | nil {position : Nat} : PlacedAll position [] []
  | cons {position : Nat} {asdu : ASDU} {sample : Sample} {asdus : List ASDU}
      {samples : List Sample} :
      asdu.Placed position sample →
      PlacedAll (position + sample.octets.length) asdus samples →
      PlacedAll position (asdu :: asdus) (sample :: samples)

theorem PlacedAll.length_eq {position : Nat} {asdus : List ASDU} {samples : List Sample}
    (placed : PlacedAll position asdus samples) : asdus.length = samples.length := by
  induction placed with
  | nil => rfl
  | cons _ _ ih => exact congrArg (· + 1) ih

/-- ASDUs that were encoded. -/
structure EncodedAll (asdus after : List ASDU) (memory written : Memory) (bufPos stop : Nat)
    (samples : List Sample) : Prop where
  encodedAs : List.Forall₂ ASDU.EncodedAs asdus samples
  stillAs : List.Forall₂ ASDU.EncodedAs after samples
  held : written.Holds bufPos (sampleOctets samples)
  stop : stop = bufPos + (sampleOctets samples).length
  placed : PlacedAll bufPos after samples
  before : ∀ position < bufPos, written position = memory position

theorem encodeAllToBuffer_spec {asdus : List ASDU} {memory : Memory} {bufPos : Nat}
    (unplaced : ∀ asdu ∈ asdus, asdu.hasRefrTm = false → asdu.refrTm = none) :
    let result := (ASDU.encodeAllToBuffer memory bufPos asdus).value
    ∃ samples, EncodedAll asdus result.1 memory result.2.1 bufPos result.2.2 samples := by
  induction asdus generalizing memory bufPos with
  | nil => exact ⟨[], .nil, .nil, rfl, rfl, .nil, fun _ _ => rfl⟩
  | cons asdu rest ih =>
      obtain ⟨sample, first⟩ := @ASDU.encodeToBuffer_spec asdu memory bufPos
        (unplaced asdu List.mem_cons_self)
      obtain ⟨samples, others⟩ := @ih (asdu.encodeToBuffer memory bufPos).value.2.1
        (asdu.encodeToBuffer memory bufPos).value.2.2
        fun other member => unplaced other (List.mem_cons_of_mem _ member)
      simp only [ASDU.encodeAllToBuffer, Traced.value_bind, Traced.value_pure]
      have behind := first.stop
      refine ⟨sample :: samples, .cons first.encodedAs others.encodedAs,
        .cons first.stillAs others.stillAs, ?_, ?_,
        .cons first.placed (behind ▸ others.placed), fun position before => ?_⟩
      · rw [sampleOctets, List.flatMap_cons]
        refine Memory.holds_append.mpr ⟨?_, behind ▸ others.held⟩
        rw [Memory.Holds, ← first.held.octets, Memory.length_octets]
        apply Memory.octets_congr
        intro position _ below
        exact others.before position (by omega)
      · refine others.stop.trans ?_
        rw [behind, sampleOctets, sampleOctets, List.flatMap_cons, List.length_append,
          Nat.add_assoc]
      · exact (others.before position (by omega)).trans (first.before position before)

end GridGooseSV.SVPublisher
