import GridGooseSV.Sv.Handover

/-!
# The SV subscriber application

After `sv-subscriber-app.cc`. The application reads a timestamp, the sample counter and
three currents of every ASDU that it is handed, wherever the getters find them.
-/

namespace GridGooseSV.Ns3

open BerDecoder

/-- `ns3::SVSubscriber::_SVSample`; a `double` is its bits. -/
structure SVSample where
  sampleTimestamp : UInt64 := 0
  receivedTimestamp : UInt64 := 0
  smpCnt : UInt16 := 0
  ia : Nat := 0
  ib : Nat := 0
  ic : Nat := 0
  deriving DecidableEq, Repr

/-- The `double` that a `float` is converted to. -/
def doubleOf (value : List UInt8) : Nat := Ieee754.widen (littleEndian value)

/-- `ns3::SVSubscriber`, without what belongs to its receiver. -/
structure SVSubscriber where
  received : UInt64
  lastSample : SVSample
  deriving DecidableEq, Repr

/-- `ns3::SVSubscriber::Receive` of an ASDU in a buffer, at a time; `none` for a NULL
pointer that is dereferenced. -/
def SVSubscriber.receive (self : SVSubscriber) (now : UInt64) (memory : Memory)
    (asdu : GridGooseSV.SVSubscriber.ASDU) : Option (Traced Access SVSubscriber) := do
  let getTimestamp ← asdu.getTimestamp memory 32
  let getSmpCnt ← asdu.getSmpCnt memory
  let getIa ← asdu.getFLOAT32 memory 0
  let getIb ← asdu.getFLOAT32 memory 4
  let getIc ← asdu.getFLOAT32 memory 8
  some (do
    let ts ← getTimestamp
    let smpCnt ← getSmpCnt
    let ia ← getIa
    let ib ← getIb
    let ic ← getIc
    pure {
      received := self.received + 1
      lastSample := {
        sampleTimestamp := nsOfUtcTime ts
        receivedTimestamp := now
        smpCnt := smpCnt
        ia := doubleOf ia
        ib := doubleOf ib
        ic := doubleOf ic } })

/-! ## Safe calls -/

/-- Every address the event reads lies in the content of an element. -/
def ReadsIn (element : Element) : Access → Prop
  | .read address => element.address ≤ address ∧ address < element.address + element.length
  | _ => True

/-- A getter finds its field and reads within the element that the field was parsed from. -/
def GetsWithin {α : Type} (call : SVCall) (tag : UInt8) (getter : Option (Traced Access α)) :
    Prop :=
  ∃ element reading, lastOf tag call.elements = some element ∧ getter = some reading ∧
    reading.Always (ReadsIn element)

/-- The getters that the application applies to an ASDU read present fields only, and each
within its element. -/
structure ReceivedSafely (call : SVCall) : Prop where
  timestamp : GetsWithin call 0x87 (call.asdu.getTimestamp call.memory 32)
  smpCnt : GetsWithin call 0x82 (call.asdu.getSmpCnt call.memory)
  ia : GetsWithin call 0x87 (call.asdu.getFLOAT32 call.memory 0)
  ib : GetsWithin call 0x87 (call.asdu.getFLOAT32 call.memory 4)
  ic : GetsWithin call 0x87 (call.asdu.getFLOAT32 call.memory 8)

/-- The application takes a sample from an ASDU that it can read safely. -/
theorem ReceivedSafely.receives {call : SVCall} (safe : ReceivedSafely call)
    (self : SVSubscriber) (now : UInt64) :
    ∃ received, self.receive now call.memory call.asdu = some received ∧
      received.value.received = self.received + 1 := by
  obtain ⟨_, timestamp, _, hasTimestamp, _⟩ := safe.timestamp
  obtain ⟨_, smpCnt, _, hasSmpCnt, _⟩ := safe.smpCnt
  obtain ⟨_, ia, _, hasIa, _⟩ := safe.ia
  obtain ⟨_, ib, _, hasIb, _⟩ := safe.ib
  obtain ⟨_, ic, _, hasIc, _⟩ := safe.ic
  unfold SVSubscriber.receive
  rw [hasTimestamp, hasSmpCnt, hasIa, hasIb, hasIc]
  exact ⟨_, rfl, rfl⟩

/-- An ASDU has the octets that the application reads: a counter of two octets and a data
block of forty. -/
structure Sufficient (memory : Memory) (asdu : Element) : Prop where
  smpCnt : ∃ counter, lastOf 0x82 (asduParts memory asdu) = some counter ∧ 2 ≤ counter.length
  data : ∃ block, lastOf 0x87 (asduParts memory asdu) = some block ∧ 40 ≤ block.length

section Call

variable {memory : Memory} {asdu : Element} {call : SVCall} {index : Nat}

theorem readsIn_readOctets {element : Element} {memory : Memory} {address count : Nat}
    (positive : 0 < count) :
    (memory.readOctets address count).Always (ReadsIn element) ↔
      element.address ≤ address ∧ address + count ≤ element.address + element.length := by
  rw [Memory.always_readOctets]
  constructor
  · intro reads
    have first := reads address (Nat.le_refl _) (by omega)
    have last := reads (address + (count - 1)) (by omega) (by omega)
    rw [ReadsIn] at first last
    omega
  · intro inside position above below
    rw [ReadsIn]
    omega

/-- A getter that reads octets at a distance from the position of its field reads within the
element if the element has them. -/
theorem getsWithin_iff {α : Type} {tag : UInt8} {pointer : Option Nat}
    (points : pointer = (lastOf tag call.elements).map Element.address) {distance count : Nat}
    (positive : 0 < count) {reading : Nat → Traced Access α}
    (reads : ∀ address element, (reading address).Always (ReadsIn element) ↔
      (call.memory.readOctets (address + distance) count).Always (ReadsIn element)) :
    GetsWithin call tag (pointer.map reading) ↔
      ∃ element, lastOf tag call.elements = some element ∧ distance + count ≤ element.length := by
  unfold GetsWithin
  rw [points]
  constructor
  · rintro ⟨element, _, last, found, within⟩
    rw [last, Option.map_some, Option.map_some, Option.some.injEq] at found
    rw [← found, reads, readsIn_readOctets positive] at within
    exact ⟨element, last, by omega⟩
  · rintro ⟨element, last, enough⟩
    refine ⟨element, reading element.address, last, by rw [last]; rfl, ?_⟩
    rw [reads, readsIn_readOctets positive]
    omega

theorem always_bind_pure {ε α β : Type} {predicate : ε → Prop} {first : Traced ε α}
    {change : α → β} :
    (do let value ← first; pure (change value)).Always predicate ↔ first.Always predicate := by
  rw [Traced.always_bind]
  exact and_iff_left (Traced.always_pure _)

/-- What the application needs of an ASDU that it is handed. -/
theorem receivedSafely_iff (reports : call.Reports memory index asdu) :
    ReceivedSafely call ↔ Sufficient memory asdu := by
  have data : call.asdu.dataBuffer = (lastOf 0x87 call.elements).map Element.address := by
    rw [reports.asdu, reports.elements]
    rfl
  have counter : call.asdu.smpCnt = (lastOf 0x82 call.elements).map Element.address := by
    rw [reports.asdu, reports.elements]
    rfl
  have timestamp := @getsWithin_iff call _ 0x87 _ data 32 8 (by decide)
    (fun address => call.memory.readOctets (address + 32) 8) fun _ _ => Iff.rfl
  have float := fun distance => @getsWithin_iff call _ 0x87 _ data distance 4 (by decide)
    (fun address => do
      let octets ← call.memory.readOctets (address + distance) 4
      pure octets.reverse) fun _ _ => always_bind_pure
  have smpCnt := @getsWithin_iff call _ 0x82 _ counter 0 2 (by decide)
    (fun address => do
      let low ← call.memory.read (address + 1)
      let high ← call.memory.read address
      pure (uint16Of high low)) fun address element => by
        rw [readsIn_readOctets (by decide)]
        simp only [Traced.always_bind, Memory.always_read, Traced.always_pure, ReadsIn, and_true]
        omega
  rw [reports.elements] at timestamp float smpCnt
  constructor
  · intro safe
    exact ⟨by simpa using smpCnt.mp safe.smpCnt, timestamp.mp safe.timestamp⟩
  · intro sufficient
    obtain ⟨block, last, enough⟩ := sufficient.data
    exact {
      timestamp := timestamp.mpr ⟨block, last, enough⟩
      smpCnt := smpCnt.mpr (by simpa using sufficient.smpCnt)
      ia := (float 0).mpr ⟨block, last, by omega⟩
      ib := (float 4).mpr ⟨block, last, by omega⟩
      ic := (float 8).mpr ⟨block, last, by omega⟩ }

end Call

/-- The ASDUs of a message that a listener is handed. -/
def handedOver (receiver : SVReceiver) (buffer : Memory) (numbytes : Nat) : List Element :=
  match receiver.selected buffer numbytes with
  | some (_, subscriber) =>
    if subscriber.listener then svASDUs buffer 12 (apduLengthOf buffer) else []
  | none => []

/-- The application reads nothing but present fields, and no further than they reach, exactly
if every ASDU that is handed over has a counter of two octets and a data block of forty. -/
theorem received_safely_iff (receiver : SVReceiver) (buffer : Memory) (numbytes : Nat) :
    (∀ call ∈ (parseSVMessage receiver buffer numbytes).value.2, ReceivedSafely call) ↔
      ∀ asdu ∈ handedOver receiver buffer numbytes, Sufficient buffer asdu := by
  unfold handedOver
  cases selected : receiver.selected buffer numbytes with
  | none =>
      rw [value_parseSVMessage, selected]
      simp
  | some found =>
      obtain ⟨index, subscriber⟩ := found
      have handed := parseSVMessage_spec selected
      simp only
      generalize (if subscriber.listener then svASDUs buffer 12 (apduLengthOf buffer) else []) =
        asdus at handed
      generalize (parseSVMessage receiver buffer numbytes).value.2 = calls at handed
      induction handed with
      | nil => simp
      | cons reports _ ih =>
          rw [List.forall_mem_cons, List.forall_mem_cons]
          exact and_congr (receivedSafely_iff reports) ih

/-- The subscriber that the application adds to its receiver. -/
def applicationReceiver : SVReceiver :=
  SVReceiver.create.addSubscriber (SVSubscriber.create none 0x4000).setListener

/-- A message with one ASDU that has a data block of two octets and nothing else. -/
def shortMessage : Memory :=
  Memory.ofOctets [0, 0, 0x88, 0xba, 0x40, 0, 0, 18, 0, 0, 0, 0,
    0x60, 8, 0xa2, 6, 0x30, 4, 0x87, 2, 0, 0] fun _ => 0

/-- The application reads past a short message that says its own length. -/
theorem short_message_read_unsafely : apduLengthOf shortMessage = 22 - 12 ∧
    ¬ ∀ call ∈ (parseSVMessage applicationReceiver shortMessage 22).value.2,
      ReceivedSafely call := by
  refine ⟨by decide +kernel, fun safe => ?_⟩
  have missing : ((parseSVMessage applicationReceiver shortMessage 22).value.2.any fun call =>
      decide (lastOf 0x82 call.elements = none)) = true := by decide +kernel
  obtain ⟨call, member, absent⟩ := List.any_eq_true.mp missing
  obtain ⟨_, _, last, _⟩ := (safe call member).smpCnt
  rw [of_decide_eq_true absent] at last
  contradiction

end GridGooseSV.Ns3
