import GridGooseSV.Foundation.Ranges
import GridGooseSV.Sv.Limits
import GridGooseSV.Sv.Publishing
import Mathlib.Data.List.Induction

/-!
# Data blocks

An ASDU has room for its data one behind the other. A call that reserves room returns an offset,
at which the setter of the same type writes and the getter of the same type reads.
-/

namespace GridGooseSV.SVPublisher

open BerEncoder BerDecoder

/-! ## Fields -/

/-- The types of data that have a call that reserves room, a setter and a getter. -/
inductive DataKind
  | int8
  | int32
  | int64
  | float
  | float64
  | timestamp
  | quality
  deriving DecidableEq, Repr

namespace DataKind

/-- The call that reserves room. -/
def operation : DataKind → ASDU.Operation
  | int8 => .addINT8
  | int32 => .addINT32
  | int64 => .addINT64
  | float => .addFLOAT
  | float64 => .addFLOAT64
  | timestamp => .addTimestamp
  | quality => .addQuality

/-- What it returns, and the ASDU after it. -/
def add (asdu : ASDU) : DataKind → Nat × ASDU
  | int8 => asdu.addINT8
  | int32 => asdu.addINT32
  | int64 => asdu.addINT64
  | float => asdu.addFLOAT
  | float64 => asdu.addFLOAT64
  | timestamp => asdu.addTimestamp
  | quality => asdu.addQuality

theorem perform_operation (kind : DataKind) (asdu : ASDU) (memory : Memory) :
    asdu.perform memory kind.operation = some ((kind.add asdu).2, memory) := by
  cases kind <;> rfl

end DataKind

/-- Room that was reserved, from the offset that was returned on. -/
structure DataField where
  kind : DataKind
  range : Range
  deriving DecidableEq, Repr

/-- The room by which the data of an ASDU grow. -/
def DataKind.field (kind : DataKind) (asdu : ASDU) : DataField where
  kind := kind
  range := ⟨(kind.add asdu).1, (kind.add asdu).2.dataSize - asdu.dataSize⟩

/-- The type of a value. -/
def ASDU.DataValue.kind : ASDU.DataValue → DataKind
  | .int8 _ => .int8
  | .int32 _ => .int32
  | .int64 _ => .int64
  | .float _ => .float
  | .float64 _ => .float64
  | .timestamp _ => .timestamp
  | .quality _ => .quality

/-- A publisher that was created and configured, and the fields of each of its ASDUs. -/
inductive Laid : SVPublisher → List (List DataField) → Prop
  | createEx (parameters : CommParameters) (srcAddr : Octets 6) (useVlanTag : Bool)
      (found : Memory) : Laid (createEx parameters srcAddr useVlanTag found) []
  | addASDU {self : SVPublisher} {layouts : List (List DataField)} (laid : Laid self layouts)
      (svID : CString) (datset : Option CString) (confRev : UInt32) :
      Laid (self.addASDU svID datset confRev) (layouts ++ [[]])
  | resetBuffer {self after : SVPublisher} {layouts : List (List DataField)}
      (laid : Laid self layouts) {index : Nat}
      (performed : self.perform (.onASDU index .resetBuffer) = some after) :
      Laid after (layouts.set index [])
  | add {self after : SVPublisher} {layouts : List (List DataField)} (laid : Laid self layouts)
      {index : Nat} {asdu : ASDU} {fields : List DataField} {kind : DataKind}
      (found : self.asduList[index]? = some asdu) (present : layouts[index]? = some fields)
      (performed : self.perform (.onASDU index kind.operation) = some after) :
      Laid after (layouts.set index (fields ++ [kind.field asdu]))
  | configure {self after : SVPublisher} {layouts : List (List DataField)}
      (laid : Laid self layouts) {index : Nat} {operation : ASDU.Operation}
      (other : operation ≠ .resetBuffer ∧ ∀ kind : DataKind, operation ≠ kind.operation)
      (performed : self.perform (.onASDU index operation) = some after) : Laid after layouts

/-- A call on an ASDU of a frame that is prepared: data are set at the offset that was returned for
their type. -/
inductive Later (layouts : List (List DataField)) : Operation → Prop
  | setData {index : Nat} {fields : List DataField} {field : DataField} {value : ASDU.DataValue}
      (present : layouts[index]? = some fields) (reserved : field ∈ fields)
      (same : value.kind = field.kind) :
      Later layouts (.onASDU index (.setData field.range.start value))
  | other {index : Nat} {operation : ASDU.Operation}
      (other : ∀ offset value, operation ≠ .setData offset value) :
      Later layouts (.onASDU index operation)

/-- What a call sets at an offset of an ASDU. -/
def Operation.sets (index offset : Nat) : Operation → Option ASDU.DataValue
  | .onASDU place (.setData start value) =>
    if place = index ∧ start = offset then some value else none
  | _ => none

/-- What was last set at an offset of an ASDU. -/
def lastSet (index offset : Nat) (calls : List Operation) : Option ASDU.DataValue :=
  calls.reverse.findSome? (Operation.sets index offset)

/-- Octets are written at a position and nowhere else. -/
structure WritesOnly (before after : Memory) (position : Nat) (octets : List UInt8) : Prop where
  there : after.Holds position octets
  elsewhere : ∀ other, other < position ∨ position + octets.length ≤ other →
    after other = before other

/-- The getter for the type of a value gives the value. -/
def ASDU.DataValue.GivenBy (call : SVCall) (index : Nat) : ASDU.DataValue → Prop
  | .int8 value => (call.asdu.getINT8 call.memory index).map Traced.value = some value
  | .int32 value => (call.asdu.getINT32 call.memory index).map Traced.value = some value
  | .int64 value => (call.asdu.getINT64 call.memory index).map Traced.value = some value
  | .float value => (call.asdu.getFLOAT32 call.memory index).map Traced.value = some value.val
  | .float64 value => (call.asdu.getFLOAT64 call.memory index).map Traced.value = some value.val
  | .timestamp value =>
    (call.asdu.getTimestamp call.memory index).map Traced.value = some value.val
  | .quality value => (call.asdu.getQuality call.memory index).map Traced.value = some value

/-- Where the data of an ASDU stand in the frame. -/
def dataStart (self : SVPublisher) (index : Nat) : Option Nat :=
  (self.asduList[index]?).bind ASDU.dataBuffer

/-- What a listener is handed from the payload of the frame, which stands at an address. -/
def handed (self : SVPublisher) (subscriber : Nat) (memory : Memory) (address : Nat) :
    List SVCall :=
  (parseSVPayload subscriber true memory address self.payloadLength).value.2

/-- What is claimed of data blocks. -/
structure LaysOut (publisher : SVPublisher) (layouts : List (List DataField)) : Prop where
  /-- the frame is prepared in the buffer -/
  inside : publisher.StaysInside
  tiles : List.Forall₂ (fun asdu fields => Tiles (fields.map DataField.range) asdu.dataSize)
    publisher.asduList layouts
  /-- a setter writes the whole range that was reserved, which is part of the frame in the buffer,
  and nothing else -/
  sets : ∀ calls middle, (∀ call ∈ calls, Later layouts call) →
    publisher.setupComplete.value.performAll calls = some middle →
    ∀ index fields field value, layouts[index]? = some fields → field ∈ fields →
      value.kind = field.kind → ∃ start after, middle.dataStart index = some start ∧
        middle.perform (.onASDU index (.setData field.range.start value)) = some after ∧
        value.octets.length = field.range.size ∧
        start + field.range.start + field.range.size ≤
          middle.payloadStart + middle.payloadLength ∧ middle.Fits ∧
        WritesOnly middle.buffer after.buffer (start + field.range.start) value.octets
  /-- a listener that is given the payload gets what was set last, with the getter of its type -/
  gets : ∀ calls after, (∀ call ∈ calls, Later layouts call) →
    publisher.setupComplete.value.performAll calls = some after →
    ∀ subscriber memory address,
      memory.Holds address (after.buffer.octets after.payloadStart after.payloadLength) →
      (after.handed subscriber memory address).length = layouts.length ∧
        ∀ index fields field value, layouts[index]? = some fields → field ∈ fields →
          lastSet index field.range.start calls = some value → value.kind = field.kind ∧
            ∃ call, (after.handed subscriber memory address)[index]? = some call ∧
              value.GivenBy call field.range.start

/-! ## Room -/

/-- The octets of a value. -/
def DataKind.width : DataKind → Nat
  | int8 => 1
  | int32 => 4
  | int64 => 8
  | float => 4
  | float64 => 8
  | timestamp => 8
  | quality => 4

theorem DataKind.width_pos (kind : DataKind) : 0 < kind.width := by
  cases kind <;> decide

/-- A setter writes as many octets as there is room for. -/
theorem ASDU.DataValue.length_octets (value : ASDU.DataValue) :
    value.octets.length = value.kind.width := by
  cases value with
  | int8 | quality => rfl
  | int32 | int64 =>
      simp [octets, encodeInt32FixedSize, encodeInt64FixedSize, revertByteOrder, kind,
        DataKind.width]
  | float value | float64 value =>
      rw [octets, revertByteOrder, List.length_reverse]
      exact value.property
  | timestamp value => exact value.property

theorem DataKind.field_eq (kind : DataKind) (asdu : ASDU) :
    kind.field asdu = ⟨kind, asdu.dataSize, kind.width⟩ := by
  cases kind <;>
    simp [DataKind.field, DataKind.add, DataKind.width, ASDU.addINT8, ASDU.addINT32, ASDU.addINT64,
      ASDU.addFLOAT, ASDU.addFLOAT64, ASDU.addTimestamp, ASDU.addQuality, ASDU.reserve]

theorem DataKind.dataSize_add (kind : DataKind) (asdu : ASDU) :
    (kind.add asdu).2.dataSize = asdu.dataSize + kind.width := by
  cases kind <;> rfl

/-- The data of an ASDU are tiled by its fields, which have room for their values. -/
structure ASDU.Room (asdu : ASDU) (fields : List DataField) : Prop where
  tiles : Tiles (fields.map DataField.range) asdu.dataSize
  widths : ∀ field ∈ fields, field.range.size = field.kind.width

theorem ASDU.room_nil {asdu : ASDU} (empty : asdu.dataSize = 0) : asdu.Room [] := by
  refine ⟨?_, nofun⟩
  rw [empty]
  exact .nil

theorem ASDU.Room.add {asdu : ASDU} {fields : List DataField} (room : asdu.Room fields)
    (kind : DataKind) : (kind.add asdu).2.Room (fields ++ [kind.field asdu]) := by
  rw [kind.field_eq]
  refine ⟨?_, fun field member => ?_⟩
  · rw [List.map_append, kind.dataSize_add]
    exact room.tiles.concat kind.width
  · rcases List.mem_append.mp member with earlier | new
    · exact room.widths field earlier
    · obtain rfl := List.mem_singleton.mp new
      rfl

/-- Other calls reserve no room. -/
theorem dataSize_perform {asdu : ASDU} {memory : Memory} {operation : ASDU.Operation}
    {result : ASDU × Memory}
    (other : operation ≠ .resetBuffer ∧ ∀ kind : DataKind, operation ≠ kind.operation)
    (performed : asdu.perform memory operation = some result) :
    result.1.dataSize = asdu.dataSize := by
  cases operation with
  | resetBuffer => exact absurd rfl other.1
  | addINT8 => exact absurd rfl (other.2 .int8)
  | addINT32 => exact absurd rfl (other.2 .int32)
  | addINT64 => exact absurd rfl (other.2 .int64)
  | addFLOAT => exact absurd rfl (other.2 .float)
  | addFLOAT64 => exact absurd rfl (other.2 .float64)
  | addTimestamp => exact absurd rfl (other.2 .timestamp)
  | addQuality => exact absurd rfl (other.2 .quality)
  | setData index value =>
      obtain ⟨_, _, rfl⟩ := Option.map_eq_some_iff.mp performed
      rfl
  | setSmpSynch smpSynch =>
      obtain ⟨_, _, rfl⟩ := Option.map_eq_some_iff.mp performed
      rfl
  | increaseSmpCnt =>
      rw [ASDU.perform, ASDU.increaseSmpCnt, Option.ite_none_left_eq_some] at performed
      rw [← Option.some.inj performed.2]
      rfl
  | _ =>
      rw [← Option.some.inj performed]
      rfl

section Laid

variable {self : SVPublisher} {layouts : List (List DataField)}

theorem Laid.room (laid : Laid self layouts) :
    List.Forall₂ ASDU.Room self.asduList layouts := by
  induction laid with
  | createEx => exact .nil
  | addASDU laid svID datset confRev ih =>
      exact List.rel_append ih (.cons (ASDU.room_nil rfl) .nil)
  | resetBuffer laid performed ih =>
      obtain ⟨asdu, result, found, changed, rfl⟩ := of_perform_onASDU performed
      obtain rfl := Option.some.inj changed
      exact forall₂_set ih (ASDU.room_nil rfl) _
  | @add self after layouts laid index asdu fields kind found present performed ih =>
      obtain ⟨same, result, there, changed, rfl⟩ := of_perform_onASDU performed
      obtain rfl := Option.some.inj (found.symm.trans there)
      rw [kind.perform_operation, Option.some.injEq] at changed
      subst changed
      obtain ⟨others, given, room⟩ := forall₂_get ih found
      obtain rfl := Option.some.inj (present.symm.trans given)
      exact forall₂_set ih (room.add kind) index
  | configure laid other performed ih =>
      obtain ⟨asdu, result, found, changed, rfl⟩ := of_perform_onASDU performed
      have same := dataSize_perform other changed
      refine (forall₂_set_right ih.flip found fun fields room => ?_).flip
      exact ⟨same ▸ room.tiles, room.widths⟩

theorem Laid.configured (laid : Laid self layouts) :
    self.Framed ∧ ∃ header, self.Configured header := by
  induction laid with
  | createEx parameters srcAddr useVlanTag found =>
      exact ⟨framed_createEx .., _, configured_createEx ..⟩
  | @addASDU self layouts laid svID datset confRev ih =>
      obtain ⟨framed, header, configured⟩ := ih
      exact ⟨@Framed.perform self _ framed (.addASDU svID datset confRev) rfl, header,
        @Configured.perform self _ header configured (.addASDU svID datset confRev) nofun rfl⟩
  | resetBuffer laid performed ih | add laid found present performed ih
  | configure laid other performed ih =>
      obtain ⟨framed, header, configured⟩ := ih
      exact ⟨framed.perform performed, header,
        @Configured.perform _ _ header configured (.onASDU _ _) nofun performed⟩

theorem Laid.perform {after : SVPublisher} (laid : Laid self layouts) {operation : Operation}
    (other : operation ≠ .setupComplete) (performed : self.perform operation = some after) :
    ∃ changed, Laid after changed := by
  cases operation with
  | setupComplete => contradiction
  | addASDU svID datset confRev =>
      obtain rfl := Option.some.inj performed
      exact ⟨_, laid.addASDU svID datset confRev⟩
  | onASDU index own =>
      by_cases reset : own = .resetBuffer
      · subst reset
        exact ⟨_, laid.resetBuffer performed⟩
      · by_cases adds : ∃ kind : DataKind, own = kind.operation
        · obtain ⟨kind, rfl⟩ := adds
          obtain ⟨asdu, _, found, _⟩ := of_perform_onASDU performed
          obtain ⟨fields, present, _⟩ := forall₂_get laid.room found
          exact ⟨_, laid.add found present performed⟩
        · exact ⟨_, laid.configure ⟨reset, fun kind same => adds ⟨kind, same⟩⟩ performed⟩

/-- However a publisher was configured, its ASDUs have fields. -/
theorem Laid.performAll {after : SVPublisher} (laid : Laid self layouts)
    {operations : List Operation} (others : .setupComplete ∉ operations)
    (performed : self.performAll operations = some after) : ∃ changed, Laid after changed := by
  induction operations generalizing self layouts with
  | nil =>
      obtain rfl := Option.some.inj performed
      exact ⟨layouts, laid⟩
  | cons operation rest ih =>
      obtain ⟨next, first, later⟩ := Option.bind_eq_some_iff.mp performed
      obtain ⟨other, others⟩ := not_or.mp (mt List.mem_cons.mpr others)
      obtain ⟨between, laidNext⟩ := laid.perform (Ne.symm other) first
      exact ih laidNext others later

end Laid

/-! ## What stands in a sample -/

theorem lastSet_concat (index offset : Nat) (calls : List Operation) (call : Operation) :
    lastSet index offset (calls ++ [call]) =
      (call.sets index offset).or (lastSet index offset calls) := by
  rw [lastSet, List.reverse_append, List.reverse_singleton, List.singleton_append,
    List.findSome?_cons, lastSet]
  cases call.sets index offset <;> rfl

/-- The data of a sample are tiled by fields, in which stands what was last set there. -/
structure Sample.Keeps (sample : Sample) (fields : List DataField)
    (last : Nat → Option ASDU.DataValue) : Prop where
  tiles : Tiles (fields.map DataField.range) sample.data.length
  widths : ∀ field ∈ fields, field.range.size = field.kind.width
  shown : ∀ field ∈ fields, ∀ value, last field.range.start = some value →
    value.kind = field.kind ∧ sliceOf sample.data field.range = value.octets

section Keeps

variable {sample : Sample} {fields : List DataField} {last : Nat → Option ASDU.DataValue}
variable {field : DataField} {value : ASDU.DataValue}

theorem Sample.Keeps.length_octets (keeps : sample.Keeps fields last) (reserved : field ∈ fields)
    (same : value.kind = field.kind) : value.octets.length = field.range.size := by
  rw [value.length_octets, same, keeps.widths field reserved]

theorem Sample.Keeps.fits (keeps : sample.Keeps fields last) (reserved : field ∈ fields) :
    field.range.start + field.range.size ≤ sample.data.length :=
  keeps.tiles.within field.range (List.mem_map_of_mem reserved)

/-- Setting a field changes what stands in this field only. -/
theorem Sample.Keeps.setData (keeps : sample.Keeps fields last) (reserved : field ∈ fields)
    (same : value.kind = field.kind) :
    { sample with data := replaceAt sample.data field.range.start value.octets }.Keeps fields
      fun offset => if field.range.start = offset then some value else last offset := by
  have size := keeps.length_octets reserved same
  have inside : field.range.start + value.octets.length ≤ sample.data.length :=
    size ▸ keeps.fits reserved
  refine ⟨?_, keeps.widths, fun other member found shown => ?_⟩
  · rw [length_replaceAt inside]
    exact keeps.tiles
  · have wide := field.kind.width_pos
    rw [← keeps.widths field reserved] at wide
    rcases keeps.tiles.eq_or_apart reserved member with rfl | apart
    · rw [if_pos rfl, Option.some.injEq] at shown
      obtain rfl := shown
      have range : field.range = ⟨field.range.start, value.octets.length⟩ := by rw [size]
      refine ⟨same, ?_⟩
      rw [range]
      exact sliceOf_replaced inside
    · have different : field.range.start ≠ other.range.start := by
        have room := other.kind.width_pos
        rw [← keeps.widths other member] at room
        rcases apart with before | behind
        · omega
        · omega
      rw [if_neg different] at shown
      obtain ⟨kind, stood⟩ := keeps.shown other member found shown
      refine ⟨kind, (sliceOf_apart inside ?_).trans stood⟩
      rw [size]
      exact apart.symm

/-- A call that sets no data keeps them. -/
theorem data_perform {changed : Sample} {operation : ASDU.Operation}
    (other : ∀ offset value, operation ≠ .setData offset value)
    (meant : sample.perform operation = some changed) : changed.data = sample.data := by
  cases operation with
  | setData offset value => exact absurd rfl (other offset value)
  | increaseSmpCnt =>
      obtain ⟨_, rfl⟩ := Sample.perform_increaseSmpCnt meant
      rfl
  | _ =>
      rw [← Option.some.inj meant]

end Keeps

/-- What was set last in the fields of all ASDUs stands in their samples. -/
structure KeepAll (layouts : List (List DataField)) (calls : List Operation)
    (samples : List Sample) : Prop where
  length : layouts.length = samples.length
  keeps : ∀ index fields (sample : Sample), layouts[index]? = some fields →
    samples[index]? = some sample → sample.Keeps fields fun offset => lastSet index offset calls

section KeepAll

variable {layouts : List (List DataField)} {calls : List Operation} {samples changed : List Sample}

theorem KeepAll.patch (keepAll : KeepAll layouts calls samples) {call : Operation}
    (later : Later layouts call) (meant : patch samples call = some changed) :
    KeepAll layouts (calls ++ [call]) changed := by
  obtain ⟨place, own, before, next, rfl, present, spoken, rfl⟩ := patch_eq_some meant
  refine ⟨keepAll.length.trans List.length_set.symm, fun index fields sample given there => ?_⟩
  simp only [lastSet_concat]
  by_cases same : place = index
  · subst same
    rw [List.getElem?_set_self (List.getElem?_eq_some_iff.mp present).1] at there
    obtain rfl := Option.some.inj there
    have keeps := keepAll.keeps place fields before given present
    cases later with
    | @setData _ others field value known reserved kind =>
        obtain rfl := Option.some.inj (given.symm.trans known)
        obtain ⟨_, rfl⟩ := Sample.perform_setData spoken
        have last : (fun offset =>
            ((Operation.onASDU place (.setData field.range.start value)).sets place offset).or
              (lastSet place offset calls)) = fun offset =>
            if field.range.start = offset then some value else lastSet place offset calls := by
          funext offset
          by_cases here : field.range.start = offset <;> simp [Operation.sets, here]
        rw [last]
        exact keeps.setData reserved kind
    | other other =>
        have data := data_perform other spoken
        have silent : ∀ offset, (Operation.onASDU place own).sets place offset = none := by
          intro offset
          cases own with
          | setData start value => exact absurd rfl (other start value)
          | _ => rfl
        simp only [silent, Option.none_or]
        exact ⟨data ▸ keeps.tiles, keeps.widths, fun field member value shown =>
          data ▸ keeps.shown field member value shown⟩
  · rw [List.getElem?_set_ne same] at there
    have silent : ∀ offset, (Operation.onASDU place own).sets index offset = none := by
      intro offset
      cases own with
      | setData start value => exact if_neg fun both => same both.1
      | _ => rfl
    simp only [silent, Option.none_or]
    exact keepAll.keeps index fields sample given there

end KeepAll

/-! ## Runs -/

section Runs

variable {self after : SVPublisher} {layouts : List (List DataField)} {calls : List Operation}
variable {header : List UInt8} {number : UInt32} {samples : List Sample}

/-- A call on an ASDU of a frame is about the sample that the frame has of it. -/
theorem Ready.found (ready : self.Ready header number samples) {index : Nat} {asdu : ASDU}
    (found : self.asduList[index]? = some asdu) :
    ∃ sample place, samples[index]? = some sample ∧ asdu.Placed place sample ∧
      place + sample.octets.length ≤ self.payloadStart + self.payloadLength := by
  have bound : index < samples.length := by
    rw [← ready.placed.length_eq]
    exact (List.getElem?_eq_some_iff.mp found).1
  have present := List.getElem?_eq_getElem bound
  obtain ⟨same, place, there, placed, below⟩ := ready.placed.get present
  obtain rfl := Option.some.inj (found.symm.trans there)
  exact ⟨_, place, present, placed, ready.ends ▸ below⟩

/-- A call changes what the frame says as it is meant. -/
theorem Ready.later (ready : self.Ready header number samples)
    (keepAll : KeepAll layouts calls samples) {call : Operation} (later : Later layouts call)
    (performed : self.perform call = some after) :
    ∃ changed, after.Ready header number changed ∧ KeepAll layouts (calls ++ [call]) changed ∧
      after.payloadStart = self.payloadStart ∧ after.payloadLength = self.payloadLength := by
  obtain ⟨index, own, rfl⟩ : ∃ index own, call = .onASDU index own := by
    cases later with
    | setData | other => exact ⟨_, _, rfl⟩
  obtain ⟨asdu, result, found, changed, frame⟩ := of_perform_onASDU performed
  obtain ⟨sample, place, present, placed, _⟩ := ready.found found
  have fits : ∀ offset value, own = .setData offset value →
      offset + value.octets.length ≤ sample.data.length := by
    rintro offset value rfl
    cases later with
    | @setData _ fields field _ given reserved same =>
        have keeps := keepAll.keeps index fields sample given present
        rw [keeps.length_octets reserved same]
        exact keeps.fits reserved
    | other other => exact absurd rfl (other offset value)
  obtain ⟨next, spoken⟩ := placed.meant fits changed
  have meant : patch samples (.onASDU index own) = some (samples.set index next) := by
    simp only [patch, present, spoken, Option.bind_eq_bind, Option.bind_some, Option.pure_def]
  obtain ⟨same, again, still⟩ := ready.perform meant
  obtain rfl := Option.some.inj (performed.symm.trans again)
  refine ⟨_, still, keepAll.patch later meant, ?_⟩
  rw [frame]
  exact ⟨rfl, rfl⟩

theorem Ready.laterAll (ready : self.Ready header number samples)
    (keepAll : KeepAll layouts [] samples) (later : ∀ call ∈ calls, Later layouts call)
    (performed : self.performAll calls = some after) :
    ∃ changed, after.Ready header number changed ∧ KeepAll layouts calls changed ∧
      after.payloadStart = self.payloadStart ∧ after.payloadLength = self.payloadLength := by
  induction calls using List.reverseRecOn generalizing after with
  | nil =>
      obtain rfl := Option.some.inj performed
      exact ⟨samples, ready, keepAll, rfl, rfl⟩
  | append_singleton before call ih =>
      rw [performAll_append] at performed
      obtain ⟨middle, earlier, last⟩ := Option.bind_eq_some_iff.mp performed
      obtain ⟨between, readyBetween, kept, start, length⟩ :=
        ih (fun other member => later other (List.mem_append_left _ member)) earlier
      have single : middle.perform call = some after := by
        rw [SVPublisher.performAll, Option.bind_eq_bind] at last
        exact (Option.bind_fun_some _).symm.trans last
      obtain ⟨changed, still, keeps, sameStart, sameLength⟩ :=
        readyBetween.later kept (later call (by simp)) single
      exact ⟨changed, still, keeps, sameStart.trans start, sameLength.trans length⟩

/-- A publisher that is set up says data with the fields that were reserved. -/
theorem Laid.ready (laid : Laid self layouts) (fits : self.setupComplete.value.Fits) :
    ∃ header number samples, self.setupComplete.value.Ready header number samples ∧
      KeepAll layouts [] samples ∧ self.payloadStart = header.length + 6 := by
  obtain ⟨_, header, configured⟩ := laid.configured
  obtain ⟨encodedAs, ready⟩ := configured.setupComplete fits
  have room := laid.room
  refine ⟨header, _, _, ready, ?_, configured.payloadStart⟩
  refine ⟨room.length_eq.symm.trans encodedAs.length_eq, fun index fields sample given there => ?_⟩
  obtain ⟨asdu, found, tiles, widths⟩ := forall₂_get room.flip given
  obtain ⟨same, present, refrTm, data, size, rfl⟩ := forall₂_get encodedAs found
  obtain rfl := Option.some.inj (there.symm.trans present)
  refine ⟨?_, widths, nofun⟩
  rw [show (asdu.sample refrTm data).data = data from rfl, size]
  exact tiles

/-- A setter writes the range of its field. -/
theorem Ready.sets (ready : self.Ready header number samples) (fits : self.Fits)
    (keepAll : KeepAll layouts calls samples) {index : Nat} {fields : List DataField}
    {field : DataField} {value : ASDU.DataValue} (given : layouts[index]? = some fields)
    (reserved : field ∈ fields) (same : value.kind = field.kind) :
    ∃ start after, self.dataStart index = some start ∧
      self.perform (.onASDU index (.setData field.range.start value)) = some after ∧
      value.octets.length = field.range.size ∧
      start + field.range.start + field.range.size ≤ self.payloadStart + self.payloadLength ∧
      self.Fits ∧ WritesOnly self.buffer after.buffer (start + field.range.start) value.octets := by
  have bound : index < samples.length := by
    rw [← keepAll.length]
    exact (List.getElem?_eq_some_iff.mp given).1
  have present := List.getElem?_eq_getElem bound
  obtain ⟨asdu, place, found, placed, below⟩ := ready.placed.get present
  generalize samples[index] = sample at present placed below
  have keeps := keepAll.keeps index fields sample given present
  have data := placed.dataBuffer
  refine ⟨_, _, by rw [dataStart, found, Option.bind_some, data],
    by rw [perform_onASDU found, ASDU.perform, ASDU.setData, data]; rfl,
    keeps.length_octets reserved same, ?_, fits, Memory.holds_put _ _ _, fun other outside => ?_⟩
  · have inside := keeps.fits reserved
    have split := congrArg List.length sample.octets_data
    rw [List.length_append, List.length_append, sample.length_beforeData] at split
    rw [ready.ends]
    omega
  · exact Memory.put_outside _ _ _ _ outside

end Runs

/-! ## Getting data -/

theorem sliceOf_octets (memory : Memory) (address : Nat) {offset size count : Nat}
    (inside : offset + size ≤ count) :
    sliceOf (memory.octets address count) ⟨offset, size⟩ =
      memory.octets (address + offset) size := by
  obtain ⟨rest, rfl⟩ := Nat.exists_eq_add_of_le inside
  rw [sliceOf, Nat.add_assoc, Memory.octets_add, List.drop_left' (Memory.length_octets _ _ _),
    Memory.octets_add, List.take_left' (Memory.length_octets _ _ _)]

theorem bigEndian_encodeInt32FixedSize (value : Int32) :
    (UInt32.ofNat (bigEndian (encodeInt32FixedSize value))).toInt32 = value := by
  rw [encodeInt32FixedSize, revertByteOrder, bigEndian_reverse, littleEndian_littleEndianOctets,
    Nat.mod_eq_of_lt (by exact value.toUInt32.toNat_lt), UInt32.ofNat_toNat]
  rfl

theorem bigEndian_encodeInt64FixedSize (value : Int64) :
    (UInt64.ofNat (bigEndian (encodeInt64FixedSize value))).toInt64 = value := by
  rw [encodeInt64FixedSize, revertByteOrder, bigEndian_reverse, littleEndian_littleEndianOctets,
    Nat.mod_eq_of_lt (by exact value.toUInt64.toNat_lt), UInt64.ofNat_toNat]
  rfl

/-- A value whose octets stand in the data that a listener finds is given by its getter. -/
theorem ASDU.DataValue.givenBy {value : ASDU.DataValue} {call : SVCall} {data : List UInt8}
    (carried : call.data = some data) {offset : Nat}
    (inside : offset + value.octets.length ≤ data.length)
    (stands : sliceOf data ⟨offset, value.octets.length⟩ = value.octets) :
    value.GivenBy call offset := by
  obtain ⟨address, pointer, rfl⟩ := Option.map_eq_some_iff.mp carried
  rw [Memory.length_octets] at inside
  rw [sliceOf_octets _ _ inside] at stands
  have octets : ∀ size, value.octets.length = size →
      call.memory.octets (address + offset) size = value.octets := by
    rintro size rfl
    exact stands
  cases value with
  | int8 value =>
      have octet : call.memory (address + offset) = value.toUInt8 := (Memory.holds_cons.mp stands).1
      rw [GivenBy, SVSubscriber.ASDU.getINT8, pointer]
      simp [octet]
  | int32 value =>
      rw [GivenBy, SVSubscriber.ASDU.getINT32, pointer, Option.map_some, Option.map_some,
        Traced.value_bind, Memory.value_readOctets, octets 4 (DataValue.length_octets _)]
      exact congrArg some (bigEndian_encodeInt32FixedSize value)
  | int64 value =>
      rw [GivenBy, SVSubscriber.ASDU.getINT64, pointer, Option.map_some, Option.map_some,
        Traced.value_bind, Memory.value_readOctets, octets 8 (DataValue.length_octets _)]
      exact congrArg some (bigEndian_encodeInt64FixedSize value)
  | float value =>
      rw [GivenBy, SVSubscriber.ASDU.getFLOAT32, pointer]
      simp [octets 4 (DataValue.length_octets _), DataValue.octets, revertByteOrder]
  | float64 value =>
      rw [GivenBy, SVSubscriber.ASDU.getFLOAT64, pointer]
      simp [octets 8 (DataValue.length_octets _), DataValue.octets, revertByteOrder]
  | timestamp value =>
      rw [GivenBy, SVSubscriber.ASDU.getTimestamp, pointer]
      simp [octets 8 (DataValue.length_octets _), DataValue.octets]
  | quality value =>
      have held : call.memory.Holds (address + offset) [0, 0, highOctet value, lowOctet value] :=
        stands
      simp only [Memory.holds_cons] at held
      obtain ⟨_, _, high, low, _⟩ := held
      have number : (lowOctet value).toUInt16 + (highOctet value).toUInt16 * 0x100 = value := by
        rw [UInt16.add_comm]
        exact uint16Of_octets value
      rw [GivenBy, SVSubscriber.ASDU.getQuality, pointer]
      simp only [Option.map_some, Traced.value_bind, Memory.value_read, Traced.value_pure]
      rw [high, low, number]

/-- A listener that is given the payload is handed the data that the frame says. -/
theorem Ready.handed {self : SVPublisher} {header : List UInt8} {number : UInt32}
    {samples : List Sample} (ready : self.Ready header number samples) (fits : self.Fits)
    (start : self.payloadStart = header.length + 6) {memory : Memory} {address : Nat}
    (held : memory.Holds address (self.buffer.octets self.payloadStart self.payloadLength))
    (subscriber : Nat) :
    List.Forall₂ (fun sample call => call.data = some sample.data) samples
      (self.handed subscriber memory address) := by
  obtain ⟨frame, ends⟩ := ready.frame fits
  have length : self.payloadLength = (framePdu number samples).length := by omega
  have payload : self.buffer.octets self.payloadStart self.payloadLength =
      framePdu number samples := by
    simp only [← List.append_assoc] at frame
    have behind := (Memory.holds_append.mp frame).2.octets
    simp only [List.length_append, List.length_cons, List.length_nil, Nat.zero_add] at behind
    rw [start, length]
    exact behind
  rw [payload] at held
  rw [Fits, ends, svMaxMessageSize] at fits
  have reports := @parseSVPayload_spec subscriber true memory address self.payloadLength
  rw [if_pos rfl] at reports
  have carried := carries_of_framePdu held (by omega) (by rw [length]) reports
  exact carried.imp fun sample call both => both.2.data

/-- A publisher lays out the data of its ASDUs if and only if its frame has room. -/
theorem laysOut_iff {self : SVPublisher} {layouts : List (List DataField)}
    (laid : Laid self layouts) :
    LaysOut self layouts ↔ self.payloadStart + self.messageLength ≤ svMaxMessageSize := by
  have framed := laid.configured.1
  rw [← framed.staysInside_iff_message]
  refine ⟨LaysOut.inside, fun inside => ?_⟩
  obtain ⟨header, number, samples, ready, keepAll, start⟩ := laid.ready inside.payload
  have fits : ∀ after : SVPublisher, after.payloadStart = self.setupComplete.value.payloadStart →
      after.payloadLength = self.setupComplete.value.payloadLength → after.Fits := by
    intro after sameStart sameLength
    rw [Fits, sameStart, sameLength]
    exact inside.payload
  refine ⟨inside, laid.room.imp fun asdu fields room => room.tiles, ?_, ?_⟩
  · intro calls middle later performed index fields field value given reserved same
    obtain ⟨changed, still, keeps, sameStart, sameLength⟩ :=
      ready.laterAll keepAll later performed
    exact still.sets (fits middle sameStart sameLength) keeps given reserved same
  · intro calls after later performed subscriber memory address held
    obtain ⟨changed, still, keeps, sameStart, sameLength⟩ :=
      ready.laterAll keepAll later performed
    have carried :=
      still.handed (fits after sameStart sameLength) (sameStart.trans start) held subscriber
    refine ⟨carried.length_eq.symm.trans keeps.length.symm, ?_⟩
    intro index fields field value given reserved set
    have bound : index < changed.length := by
      rw [← keeps.length]
      exact (List.getElem?_eq_some_iff.mp given).1
    have present := List.getElem?_eq_getElem bound
    have kept := keeps.keeps index fields _ given present
    obtain ⟨same, stands⟩ := kept.shown field reserved value set
    obtain ⟨call, there, data⟩ := forall₂_get carried present
    have size := kept.length_octets reserved same
    refine ⟨same, call, there, ASDU.DataValue.givenBy data ?_ ?_⟩
    · rw [size]
      exact kept.fits reserved
    · rw [size]
      exact stands

/-- Two fields of an ASDU. -/
theorem laysOut_mixed :
    ∃ self, (createEx .svDefault Octets.zero true fun _ => 0).performAll
        [.addASDU ⟨[0x41], zero_notMem_a⟩ none 1, .onASDU 0 .addINT32, .onASDU 0 .addQuality] =
          some self ∧
      LaysOut self [[⟨.int32, ⟨0, 4⟩⟩, ⟨.quality, ⟨4, 4⟩⟩]] := by
  have empty := Laid.addASDU (.createEx .svDefault Octets.zero true fun _ => 0)
    ⟨[0x41], zero_notMem_a⟩ none 1
  have one := @Laid.add _ _ _ empty 0 _ _ .int32 rfl rfl rfl
  have two := @Laid.add _ _ _ one 0 _ _ .quality rfl rfl rfl
  exact ⟨_, rfl, (laysOut_iff two).mpr (by decide +kernel)⟩

/-- Data of 190 numbers of 8 octets are longer than the buffer. -/
theorem numbers_not_laidOut :
    ∃ self layouts, (createEx .svDefault Octets.zero true fun _ => 0).performAll (numbers 190) =
        some self ∧ Laid self layouts ∧ ¬ LaysOut self layouts := by
  have long : ((createEx .svDefault Octets.zero true fun _ => 0).performAll (numbers 190)).map
      (fun self => decide (self.payloadStart + self.messageLength ≤ svMaxMessageSize)) =
        some false := by
    decide +kernel
  obtain ⟨self, run, exceeds⟩ := Option.map_eq_some_iff.mp long
  obtain ⟨layouts, laid⟩ := (Laid.createEx ..).performAll (by decide) run
  refine ⟨self, layouts, run, laid, fun laysOut => of_decide_eq_false exceeds ?_⟩
  exact laid.configured.1.staysInside_iff_message.mp laysOut.inside

end GridGooseSV.SVPublisher
