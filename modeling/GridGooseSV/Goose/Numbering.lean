import GridGooseSV.Foundation.Runs
import GridGooseSV.Goose.Sequence

/-!
# Numbers of sent frames

The publisher starts counting again when it is reset and when the state changes. A frame that is not
sent is not counted: the number is consumed after the message was encoded. What is stated of the
numbers of a frame is read off its octets.
-/

namespace GridGooseSV

open BerDecoder BerEncoder

/-- The PDU of a packet whose payload starts at an octet. -/
def packetPdu (start : Nat) (packet : List UInt8) : GoosePdu :=
  let memory := Memory.ofOctets packet fun _ => 0
  GoosePdu.ofElements memory (pduElements memory start (packet.length - start)).elements

/-- What a call means for the numbering. -/
inductive NumberingEvent
  /-- the publisher was reset or the state number increased -/
  | restarted
  | sent (packet : List UInt8)
  | failed
  | other
  deriving DecidableEq, Repr

/-- The last frame sent since the numbering was restarted, after an event. -/
def NumberingEvent.latest (before : Option (List UInt8)) : NumberingEvent → Option (List UInt8)
  | .restarted => none
  | .sent packet => some packet
  | .failed => before
  | .other => before

/-- The last frame sent since the numbering was restarted. -/
def latestFrame (events : List NumberingEvent) : Option (List UInt8) :=
  events.foldl NumberingEvent.latest none

/-- The numbers of a packet that is sent after some events, its payload starting at an octet. -/
structure Numbered (start : Nat) (before : List NumberingEvent) (packet : List UInt8) : Prop where
  stNum : (packetPdu start packet).stNum ≠ 0
  first : (packetPdu start packet).sqNum = 0 ↔ latestFrame before = none
  next : ∀ previous, latestFrame before = some previous →
    (packetPdu start packet).stNum = (packetPdu start previous).stNum ∧
      (packetPdu start packet).sqNum =
        if (packetPdu start previous).sqNum = 0xffffffff then 1
        else (packetPdu start previous).sqNum + 1

namespace GoosePublisher

/-- A call that leaves counting to the publisher. -/
def Operation.LeavesCounting : Operation → Prop
  | .setStNum _ | .setSqNum _ => False
  | _ => True

/-- The event of a call. -/
def event (self : GoosePublisher) : Operation → NumberingEvent
  | .reset => .restarted
  | .increaseStNum _ => .restarted
  | .publish dataSet =>
    match (self.publish dataSet).bind Publication.sent with
    | none => .failed
    | some packet => .sent packet
  | _ => .other

/-- A call, and its event. -/
def count (self : GoosePublisher)
    (operation : {operation : Operation // operation.LeavesCounting}) :
    Option (GoosePublisher × NumberingEvent) := do
  let after ← self.perform operation.val
  pure (after, self.event operation.val)

/-! ## Packets -/

/-- The payload of a publisher's packets starts at an octet, after the length field. -/
structure StartsPayload (publisher : GoosePublisher) (start : Nat) : Prop where
  lengthField : publisher.lengthField + 6 = publisher.payloadStart
  payloadStart : publisher.payloadStart = 14 + start
  small : start ≤ 12

section Packets

variable {self after : GoosePublisher} {start : Nat}

theorem StartsPayload.perform (starts : self.StartsPayload start) {operation : Operation}
    (performed : self.perform operation = some after) : after.StartsPayload start := by
  obtain ⟨lengthField, payloadStart⟩ := layout_perform performed
  exact ⟨by rw [lengthField, payloadStart, starts.lengthField],
    by rw [payloadStart, starts.payloadStart], starts.small⟩

theorem startsPayload_createEx (parameters : CommParameters) (srcAddr : Octets 6)
    (useVlanTag : Bool) (now : UInt64) (found : Memory) :
    (createEx parameters srcAddr useVlanTag now found).StartsPayload
      (if useVlanTag then 12 else 8) := by
  have length : (frameHeader [0x88, 0xb8] parameters srcAddr useVlanTag).length =
      if useVlanTag then 20 else 16 := by
    cases useVlanTag <;>
      simp [frameHeader, vlanTag, parameters.dstAddress.property, srcAddr.property]
  refine ⟨rfl, ?_, ?_⟩
  · refine (congrArg (· + 6) length).trans ?_
    cases useVlanTag <;> rfl
  · cases useVlanTag <;> decide

/-- The PDU of a packet is the one that was encoded, whatever stands around it. -/
theorem carries_packetPdu {dataSet : Components} {content front rest packet : List UInt8}
    (split : packet = front ++
      (tlv encodeLength 0x61 (tlvs encodeLength (self.items dataSet content)) ++ rest))
    (short : packet.length < 2 ^ 16) :
    self.Carries content (Memory.ofOctets packet fun _ => 0) (packetPdu front.length packet) := by
  have held := Memory.holds_ofOctets packet fun _ => 0
  have size := congrArg List.length split
  unfold packetPdu
  simp only
  generalize Memory.ofOctets packet (fun _ => 0) = memory at held ⊢
  rw [split] at held
  have pdu := (Memory.holds_append.mp (Memory.holds_append.mp held).2).1
  rw [Nat.zero_add] at pdu
  rw [List.length_append, List.length_append] at size
  rw [@pduElements_of_encoded encodeLength readsBack_encodeLength _ _ _ _ pdu (by omega)
    (by omega), ← Nat.add_assoc]
  exact carries_items (content_writtenElements (holds_tlv.mp pdu).2.2)

/-- A packet has the numbers that the publisher had. -/
theorem packetPdu_of_published (starts : self.StartsPayload start) {dataSet : Components}
    {publication : Publication} (published : self.publish dataSet = some publication)
    {packet : List UInt8} (sent : publication.sent = some packet) :
    (packetPdu start packet).stNum = self.stNum ∧ (packetPdu start packet).sqNum = self.sqNum := by
  obtain ⟨lengthField, payloadStart, small⟩ := starts
  rcases publish_cases published with rfl | ⟨payload, created, fits, rfl⟩
  · contradiction
  · obtain rfl := Option.some.inj sent
    simp only [gooseMaxMessageSize] at fits
    obtain ⟨size, entries, _, _, _, _, encoded⟩ := createGoosePayload_eq created (by omega)
    have room : self.payloadStart + payload.length - 14 = start + payload.length := by omega
    generalize buffered : (self.buffer.put self.payloadStart payload).put self.lengthField
      [UInt8.ofNat ((payload.length + 8) / 256), UInt8.ofNat ((payload.length + 8) % 256)] = buffer
    have body : buffer.Holds (14 + start) payload := by
      rw [← buffered, ← payloadStart]
      refine (Memory.holds_put _ _ _).put (.inr ?_)
      simp only [List.length_cons, List.length_nil]
      omega
    have split : ethernetSendPacket buffer (self.payloadStart + payload.length) =
        buffer.octets 14 start ++ payload := by
      rw [ethernetSendPacket, room, Memory.octets_add, body.octets]
    have length : (buffer.octets 14 start).length = start := Memory.length_octets ..
    have carries := carries_packetPdu (split.trans (congrArg _ encoded))
      (by rw [split, List.length_append, length]; omega)
    rw [length] at carries
    exact ⟨carries.stNum, carries.sqNum⟩

end Packets

/-! ## Counting -/

/-- The numbers that a publisher has after the last frame sent since the numbering was restarted. -/
structure Counting (start : Nat) (latest : Option (List UInt8)) (publisher : GoosePublisher) :
    Prop where
  stNum : publisher.stNum ≠ 0
  first : latest = none → publisher.sqNum = 0
  next : ∀ packet, latest = some packet → publisher.stNum = (packetPdu start packet).stNum ∧
    publisher.sqNum = nextNumber (packetPdu start packet).sqNum

section Counting

variable {self after : GoosePublisher} {start : Nat}

theorem nextNumber_ne_zero (number : UInt32) : nextNumber number ≠ 0 := by
  unfold nextNumber
  split
  · decide
  · assumption

theorem nextNumber_eq (number : UInt32) :
    nextNumber number = if number = 0xffffffff then 1 else number + 1 := by
  have top : number + 1 = 0 ↔ number = 0xffffffff := by
    rw [← UInt32.toNat_inj, ← UInt32.toNat_inj, UInt32.toNat_add]
    have small := number.toNat_lt
    change (number.toNat + 1) % 2 ^ 32 = 0 ↔ number.toNat = 4294967295
    omega
  simp only [nextNumber, top]

theorem counting_createEx (parameters : CommParameters) (srcAddr : Octets 6) (useVlanTag : Bool)
    (now : UInt64) (found : Memory) :
    Counting start none (createEx parameters srcAddr useVlanTag now found) :=
  have one : (1 : UInt32) ≠ 0 := by decide
  ⟨one, fun _ => rfl, nofun⟩

/-- Numbering starts again. -/
theorem counting_restart (stNum : self.stNum ≠ 0) (sqNum : self.sqNum = 0) :
    Counting start none self :=
  ⟨stNum, fun _ => sqNum, nofun⟩

/-- A frame has the number that is next. -/
theorem Counting.numbered {before : List NumberingEvent}
    (counting : Counting start (latestFrame before) self) (starts : self.StartsPayload start)
    {dataSet : Components} {publication : Publication}
    (published : self.publish dataSet = some publication) {packet : List UInt8}
    (sent : publication.sent = some packet) : Numbered start before packet := by
  obtain ⟨stNum, sqNum⟩ := packetPdu_of_published starts published sent
  refine ⟨by rw [stNum]; exact counting.stNum, ?_, fun previous latest => ?_⟩
  · rw [sqNum]
    cases latest : latestFrame before with
    | none => exact iff_of_true (counting.first latest) rfl
    | some previous =>
        refine iff_of_false ?_ (Option.some_ne_none _)
        rw [(counting.next previous latest).2]
        exact nextNumber_ne_zero _
  · obtain ⟨same, next⟩ := counting.next previous latest
    exact ⟨stNum.trans same, by rw [sqNum, next, nextNumber_eq]⟩

/-- A publication counts the frame that it sends. -/
theorem Counting.publish {latest : Option (List UInt8)} (counting : Counting start latest self)
    (starts : self.StartsPayload start) {dataSet : Components} {publication : Publication}
    (published : self.publish dataSet = some publication) :
    Counting start ((self.event (.publish dataSet)).latest latest) publication.publisher := by
  rcases publish_cases published with rfl | ⟨_, _, _, rfl⟩
  · simp only [event, published, Option.bind_some, NumberingEvent.latest]
    exact ⟨counting.stNum, counting.first, counting.next⟩
  · obtain ⟨stNum, sqNum⟩ := packetPdu_of_published starts published rfl
    simp only [event, published, Option.bind_some, NumberingEvent.latest]
    refine ⟨counting.stNum, nofun, fun packet same => ?_⟩
    obtain rfl := Option.some.inj same
    exact ⟨stNum.symm, congrArg nextNumber sqNum.symm⟩

/-- Every call goes on counting. -/
theorem Counting.perform {latest : Option (List UInt8)} (counting : Counting start latest self)
    (starts : self.StartsPayload start) {operation : Operation}
    (leaves : operation.LeavesCounting) (performed : self.perform operation = some after) :
    Counting start ((self.event operation).latest latest) after := by
  cases operation with
  | publish dataSet =>
      obtain ⟨publication, published, rfl⟩ := Option.map_eq_some_iff.mp performed
      exact counting.publish starts published
  | increaseStNum currentTime =>
      obtain rfl := Option.some.inj performed
      exact counting_restart (nextNumber_ne_zero self.stNum) rfl
  | reset =>
      obtain rfl := Option.some.inj performed
      have one : (1 : UInt32) ≠ 0 := by decide
      exact counting_restart one rfl
  | setStNum => exact leaves.elim
  | setSqNum => exact leaves.elim
  | _ =>
      obtain rfl := Option.some.inj performed
      exact ⟨counting.stNum, counting.first, counting.next⟩

/-- What holds after some events: the publisher counts, and what it sent was numbered. -/
structure Counted (start : Nat) (publisher : GoosePublisher) (events : List NumberingEvent) :
    Prop where
  starts : publisher.StartsPayload start
  counting : Counting start (latestFrame events) publisher
  numbered : EachAfter (fun before event => ∀ packet, event = .sent packet →
    Numbered start before packet) events

theorem Counted.count {events : List NumberingEvent} (counted : Counted start self events)
    {operation : {operation : Operation // operation.LeavesCounting}} {event : NumberingEvent}
    (stepped : self.count operation = some (after, event)) :
    Counted start after (events ++ [event]) := by
  obtain ⟨starts, counting, numbered⟩ := counted
  simp only [GoosePublisher.count, Option.bind_eq_bind, Option.pure_def, Option.bind_eq_some_iff,
    Option.some.injEq, Prod.mk.injEq] at stepped
  obtain ⟨_, performed, rfl, rfl⟩ := stepped
  refine ⟨starts.perform performed, ?_, numbered.concat fun packet isSent => ?_⟩
  · rw [latestFrame, List.foldl_append]
    exact counting.perform starts operation.property performed
  · obtain ⟨operation, _⟩ := operation
    cases operation with
    | publish dataSet =>
        obtain ⟨publication, published, _⟩ := Option.map_eq_some_iff.mp performed
        simp only [GoosePublisher.event, published, Option.bind_some] at isSent
        cases sent : publication.sent with
        | none => simp [sent] at isSent
        | some octets =>
            obtain rfl : octets = packet := by simpa [sent] using isSent
            exact counting.numbered starts published sent
    | _ => contradiction

end Counting

/-- Whatever calls are made after a publisher was created, as long as they do not set the numbers:
the state number is not 0; the frames that are sent are numbered one after another, from 0 after
each restart; and what is not sent takes no number. -/
theorem numbered_of_count {parameters : CommParameters} {srcAddr : Octets 6} {useVlanTag : Bool}
    {now : UInt64} {found : Memory}
    {operations : List {operation : Operation // operation.LeavesCounting}} {self : GoosePublisher}
    {events : List NumberingEvent}
    (run : runAll count (createEx parameters srcAddr useVlanTag now found) operations =
      some (self, events)) :
    self.stNum ≠ 0 ∧
      (EachAfter (fun before event => ∀ packet, event = .sent packet →
        Numbered (if useVlanTag then 12 else 8) before packet) events) ∧
      ∀ dataSet publication, self.publish dataSet = some publication →
        publication.returned = -1 → publication.sent = none ∧
          publication.publisher.stNum = self.stNum ∧ publication.publisher.sqNum = self.sqNum := by
  have start : Counted (if useVlanTag then 12 else 8)
      (createEx parameters srcAddr useVlanTag now found) [] :=
    ⟨startsPayload_createEx .., counting_createEx .., eachAfter_nil⟩
  have final := runAll_history (fun _ _ _ _ _ counted => counted.count) start run
  rw [List.nil_append] at final
  refine ⟨final.counting.stNum, final.numbered, fun dataSet publication published failed => ?_⟩
  rcases publish_cases published with rfl | ⟨_, _, _, rfl⟩
  · exact ⟨rfl, rfl, rfl⟩
  · contradiction

/-- Two frames with a failed publication between them, and a frame of the next state. -/
def countedCalls : List {operation : Operation // operation.LeavesCounting} :=
  [⟨.publish [], trivial⟩,
    ⟨.publish [some (.octetString (MmsValue.newOctetString 2000 2000 (Nat.le_refl _)))], trivial⟩,
    ⟨.publish [], trivial⟩, ⟨.increaseStNum 0, trivial⟩, ⟨.publish [], trivial⟩]

theorem numbered_of_countedCalls :
    ∃ self events, runAll count (createEx .default Octets.zero false 0 fun _ => 0) countedCalls =
        some (self, events) ∧ self.stNum ≠ 0 ∧
      (EachAfter (fun before event => ∀ packet, event = .sent packet → Numbered 8 before packet)
        events) ∧
      ∀ dataSet publication, self.publish dataSet = some publication →
        publication.returned = -1 → publication.sent = none ∧
          publication.publisher.stNum = self.stNum ∧ publication.publisher.sqNum = self.sqNum := by
  have defined : (runAll count (createEx .default Octets.zero false 0 fun _ => 0)
      countedCalls).isSome := by
    decide +kernel
  obtain ⟨⟨self, events⟩, run⟩ := Option.isSome_iff_exists.mp defined
  exact ⟨self, events, run, numbered_of_count run⟩

/-- The second publication of them fails. -/
example : (runAll count (createEx .default Octets.zero false 0 fun _ => 0) countedCalls).map
    (fun result => result.2.map fun event => decide (event = .failed)) =
      some [false, true, false, false, false] := by
  decide +kernel

end GoosePublisher

end GridGooseSV
