import GridGooseSV.Sv.Limits

/-!
# Setters before and after setting up

The counter of an ASDU is kept in the ASDU and in the frame, so that it may be set before the
frame is encoded. The time is kept in the frame alone: what is set before there is a frame is
lost, and the frame has the octets that `malloc` left. The synchronisation is written to the frame
without looking whether there is one.
-/

namespace GridGooseSV.SVPublisher

open BerEncoder BerDecoder

/-- The attribute setters that may be called before or after the frame is encoded. -/
def IsSetter : ASDU.Operation → Prop
  | .setSmpCnt _ => True
  | .setSmpSynch _ => True
  | .setRefrTm _ => True
  | .setRefrTmNs _ => True
  | .setRefrTmByTimestamp _ => True
  | _ => False

/-- Calling a setter of an ASDU before setting up is defined, and gives the same frame as calling
it after. -/
def Commutes (self : SVPublisher) (index : Nat) (setter : ASDU.Operation) : Prop :=
  ∃ before after, self.perform (.onASDU index setter) = some before ∧
    self.setupComplete.value.perform (.onASDU index setter) = some after ∧
    before.setupComplete.value.publish = after.publish

/-- Where the counter of an ASDU is going to stand in the buffer. -/
def smpCntAt (self : SVPublisher) (index : Nat) (asdu : ASDU) : Nat :=
  self.payloadStart +
    (pduFront (UInt32.ofNat self.asduList.length) self.totalASDULength).length +
    ((self.asduList.take index).map ASDU.writtenLength).sum + asdu.frontOctets.length

/-- Where the time of an ASDU is going to stand in the buffer. -/
def refrTmAt (self : SVPublisher) (index : Nat) (asdu : ASDU) : Nat :=
  self.smpCntAt index asdu + asdu.numberOctets.length + 2

/-- The setter is the one of the counter, or the octets at the place of the time happen to be
those that the setter leaves there. -/
def CommutesWhen (self : SVPublisher) (index : Nat) (asdu : ASDU) : ASDU.Operation → Prop
  | .setSmpCnt _ => True
  | .setRefrTmNs refrTmNs =>
    let found := ASDU.timestampAt self.buffer (self.refrTmAt index asdu)
    (found.setTimeInNanoseconds refrTmNs).setSubsecondPrecision 20 = found
  | .setRefrTm refrTm =>
    let found := ASDU.timestampAt self.buffer (self.refrTmAt index asdu)
    (found.setTimeInMilliseconds refrTm).setSubsecondPrecision 10 = found
  | .setRefrTmByTimestamp refrTm =>
    refrTm = ASDU.timestampAt self.buffer (self.refrTmAt index asdu)
  | _ => False

/-! ## The counter -/

/-- Octets in front of an ASDU are left alone. -/
theorem ASDU.encodeToBuffer_put (self : ASDU) (memory : Memory) {place bufPos : Nat}
    {given : List UInt8} (apart : place + given.length ≤ bufPos) :
    (self.encodeToBuffer (memory.put place given) bufPos).value =
      let encoded := (self.encodeToBuffer memory bufPos).value
      (encoded.1, encoded.2.1.put place given, encoded.2.2) := by
  have behind : ∀ (memory : Memory) (position : Nat) (other : List UInt8), bufPos ≤ position →
      (memory.put place given).put position other =
        (memory.put position other).put place given :=
    fun memory position other after => memory.put_comm (.inl (by omega))
  rw [value_encodeToBuffer, value_encodeToBuffer]
  dsimp only
  rw [behind, behind, behind, behind, behind, behind]
  all_goals omega

theorem encodeAllToBuffer_put {asdus : List ASDU} {memory : Memory} {place bufPos : Nat}
    {given : List UInt8} (apart : place + given.length ≤ bufPos) :
    (ASDU.encodeAllToBuffer (memory.put place given) bufPos asdus).value =
      let encoded := (ASDU.encodeAllToBuffer memory bufPos asdus).value
      (encoded.1, encoded.2.1.put place given, encoded.2.2) := by
  induction asdus generalizing memory bufPos with
  | nil => rfl
  | cons asdu rest ih =>
      have stop := asdu.stop_encodeToBuffer memory bufPos
      simp only [ASDU.encodeAllToBuffer, Traced.value_bind, Traced.value_pure,
        asdu.encodeToBuffer_put memory apart]
      rw [ih (by omega)]

/-- An ASDU with another counter is encoded with another counter. -/
theorem ASDU.encodeToBuffer_setSmpCnt (self : ASDU) (memory : Memory) (bufPos : Nat)
    (value : UInt16) :
    ({ self with smpCnt := value }.encodeToBuffer memory bufPos).value =
      let encoded := (self.encodeToBuffer memory bufPos).value
      ({ encoded.1 with smpCnt := value },
        encoded.2.1.put (bufPos + self.frontOctets.length) (encodeUInt16FixedSize value),
        encoded.2.2) := by
  have behind : ∀ (memory : Memory) (position : Nat) (other : List UInt8),
      bufPos + self.frontOctets.length + self.numberOctets.length ≤ position →
      (memory.put position other).put (bufPos + self.frontOctets.length)
          (encodeUInt16FixedSize value) =
        (memory.put (bufPos + self.frontOctets.length) (encodeUInt16FixedSize value)).put position
          other := by
    intro memory position other after
    have two : (encodeUInt16FixedSize value).length = 2 := rfl
    have numbers : 2 ≤ self.numberOctets.length := by
      simp [numberOctets]
    exact memory.put_comm (.inr (by omega))
  have replaced : ∀ memory : Memory,
      (memory.put (bufPos + self.frontOctets.length) self.numberOctets).put
          (bufPos + self.frontOctets.length) (encodeUInt16FixedSize value) =
        memory.put (bufPos + self.frontOctets.length)
          { self with smpCnt := value }.numberOctets :=
    fun memory => memory.put_front _ rfl
  rw [value_encodeToBuffer, value_encodeToBuffer]
  refine Prod.ext rfl (Prod.ext ?_ rfl)
  dsimp only
  rw [behind, behind, behind, behind, replaced]
  · rfl
  all_goals omega

theorem encodeAllToBuffer_append {first second : List ASDU} {memory : Memory} {bufPos : Nat} :
    (ASDU.encodeAllToBuffer memory bufPos (first ++ second)).value =
      let front := (ASDU.encodeAllToBuffer memory bufPos first).value
      let behind := (ASDU.encodeAllToBuffer front.2.1 front.2.2 second).value
      (front.1 ++ behind.1, behind.2.1, behind.2.2) := by
  induction first generalizing memory bufPos with
  | nil => rfl
  | cons asdu rest ih =>
      simp only [List.cons_append, ASDU.encodeAllToBuffer, Traced.value_bind, Traced.value_pure, ih]

theorem length_encodeAllToBuffer {asdus : List ASDU} {memory : Memory} {bufPos : Nat} :
    (ASDU.encodeAllToBuffer memory bufPos asdus).value.1.length = asdus.length := by
  induction asdus generalizing memory bufPos with
  | nil => rfl
  | cons asdu rest ih =>
      simp only [ASDU.encodeAllToBuffer, Traced.value_bind, Traced.value_pure, List.length_cons, ih]

/-- An ASDU in a list is encoded by itself. -/
theorem getElem?_encodeAllToBuffer {first rest : List ASDU} {asdu : ASDU} {memory : Memory}
    {bufPos : Nat} :
    (ASDU.encodeAllToBuffer memory bufPos (first ++ asdu :: rest)).value.1[first.length]? =
      let front := (ASDU.encodeAllToBuffer memory bufPos first).value
      some (asdu.encodeToBuffer front.2.1 front.2.2).value.1 := by
  rw [encodeAllToBuffer_append]
  simp only [ASDU.encodeAllToBuffer, Traced.value_bind, Traced.value_pure]
  rw [List.getElem?_append_right (Nat.le_of_eq length_encodeAllToBuffer),
    length_encodeAllToBuffer, Nat.sub_self]
  rfl

theorem encodeAllToBuffer_setSmpCnt {first rest : List ASDU} {asdu : ASDU} {memory : Memory}
    {bufPos : Nat} (value : UInt16) :
    (ASDU.encodeAllToBuffer memory bufPos
        (first ++ { asdu with smpCnt := value } :: rest)).value.2 =
      let encoded := (ASDU.encodeAllToBuffer memory bufPos (first ++ asdu :: rest)).value
      let place := bufPos + (first.map ASDU.writtenLength).sum + asdu.frontOctets.length
      (encoded.2.1.put place (encodeUInt16FixedSize value), encoded.2.2) := by
  have short : 2 ≤ asdu.numberOctets.length := by
    simp [ASDU.numberOctets]
  have two : (encodeUInt16FixedSize value).length = 2 := rfl
  rw [encodeAllToBuffer_append, encodeAllToBuffer_append]
  have stop := @stop_encodeAllToBuffer first memory bufPos
  generalize (ASDU.encodeAllToBuffer memory bufPos first).value = front at stop
  obtain ⟨front, before, position⟩ := front
  have behind := asdu.stop_encodeToBuffer before position
  simp only [ASDU.encodeAllToBuffer, Traced.value_bind, Traced.value_pure] at stop ⊢
  subst stop
  rw [asdu.encodeToBuffer_setSmpCnt, encodeAllToBuffer_put]
  dsimp only
  rw [behind, ASDU.writtenLength]
  omega

/-! ## The time -/

theorem ASDU.encodeToBuffer_outside (self : ASDU) (memory : Memory) {bufPos position : Nat}
    (outside : position < bufPos ∨ bufPos + self.writtenLength ≤ position) :
    (self.encodeToBuffer memory bufPos).value.2.1 position = memory position := by
  have synch : (encodeTL 0x85 1).length = 2 := rfl
  unfold writtenLength at outside
  rw [value_encodeToBuffer]
  dsimp only
  rw [Memory.put_outside, Memory.put_outside, Memory.put_outside, Memory.put_outside,
    Memory.put_outside, Memory.put_outside]
  all_goals omega

theorem encodeAllToBuffer_outside {asdus : List ASDU} {memory : Memory} {bufPos position : Nat}
    (outside : position < bufPos ∨ bufPos + (asdus.map ASDU.writtenLength).sum ≤ position) :
    (ASDU.encodeAllToBuffer memory bufPos asdus).value.2.1 position = memory position := by
  induction asdus generalizing memory bufPos with
  | nil => rfl
  | cons asdu rest ih =>
      rw [List.map_cons, List.sum_cons] at outside
      have stop := asdu.stop_encodeToBuffer memory bufPos
      simp only [ASDU.encodeAllToBuffer, Traced.value_bind, Traced.value_pure]
      rw [ih, asdu.encodeToBuffer_outside memory (by omega)]
      rw [stop]
      omega

theorem ASDU.length_time {self : ASDU} (timed : self.hasRefrTm = true) :
    self.timeOctets.length = 2 ∧ self.timeSize = 8 := by
  rw [timeOctets, timeSize, if_pos timed, if_pos timed]
  exact ⟨rfl, rfl⟩

theorem ASDU.time_within (self : ASDU) (timed : self.hasRefrTm = true) :
    self.frontOctets.length + self.numberOctets.length + 2 + 8 ≤ self.writtenLength := by
  obtain ⟨time, size⟩ := length_time timed
  unfold writtenLength
  omega

/-- The octets of the time are passed over. -/
theorem ASDU.encodeToBuffer_time (self : ASDU) (memory : Memory) {bufPos position : Nat}
    (timed : self.hasRefrTm = true)
    (above : bufPos + self.frontOctets.length + self.numberOctets.length + 2 ≤ position)
    (below : position < bufPos + self.frontOctets.length + self.numberOctets.length + 2 + 8) :
    (self.encodeToBuffer memory bufPos).value.2.1 position = memory position := by
  obtain ⟨time, size⟩ := length_time timed
  rw [value_encodeToBuffer]
  dsimp only
  rw [Memory.put_outside, Memory.put_outside, Memory.put_outside, Memory.put_outside,
    Memory.put_outside, Memory.put_outside]
  all_goals omega

/-- What `malloc` left at the place of a time is there when the ASDUs are encoded. -/
theorem encodeAllToBuffer_time {first rest : List ASDU} {asdu : ASDU} {memory : Memory}
    {bufPos position : Nat} (timed : asdu.hasRefrTm = true) :
    let place := bufPos + (first.map ASDU.writtenLength).sum + asdu.frontOctets.length +
      asdu.numberOctets.length + 2
    place ≤ position → position < place + 8 →
    (ASDU.encodeAllToBuffer memory bufPos (first ++ asdu :: rest)).value.2.1 position =
      memory position := by
  intro place above below
  rw [encodeAllToBuffer_append]
  have stop := @stop_encodeAllToBuffer first memory bufPos
  have before := @encodeAllToBuffer_outside first memory bufPos position (.inr (by omega))
  generalize (ASDU.encodeAllToBuffer memory bufPos first).value = front at stop before
  obtain ⟨front, written, start⟩ := front
  have behind := asdu.stop_encodeToBuffer written start
  have here := @ASDU.encodeToBuffer_time asdu written start position timed
  have within := asdu.time_within timed
  simp only [ASDU.encodeAllToBuffer, Traced.value_bind, Traced.value_pure] at stop before ⊢
  subst stop
  rw [encodeAllToBuffer_outside, here (by omega) (by omega), before]
  rw [behind]
  omega

/-! ## Setting up -/

section Setup

variable {self : SVPublisher} {index : Nat} {asdu : ASDU}

/-- An ASDU stands between others. -/
theorem listed_of_getElem? (found : self.asduList[index]? = some asdu) :
    (self.asduList.take index).length = index ∧
      self.asduList = self.asduList.take index ++ asdu :: self.asduList.drop (index + 1) := by
  obtain ⟨bound, rfl⟩ := List.getElem?_eq_some_iff.mp found
  refine ⟨List.length_take_of_le (by omega), ?_⟩
  rw [List.getElem_cons_drop, List.take_append_drop]

/-- Setting up records where the fields of an ASDU stand. -/
theorem placed_setupComplete (found : self.asduList[index]? = some asdu) :
    ∃ placed, self.setupComplete.value.asduList[index]? = some placed ∧
      placed.smpCntBuf = some (self.smpCntAt index asdu) ∧
      (asdu.hasRefrTm = true → placed.refrTm = some (self.refrTmAt index asdu)) ∧
      placed.smpSynchBuf.isSome = true := by
  obtain ⟨front, listed⟩ := listed_of_getElem? found
  have placed := fun memory bufPos => @getElem?_encodeAllToBuffer (self.asduList.take index)
    (self.asduList.drop (index + 1)) asdu memory bufPos
  rw [← listed, front] at placed
  rw [value_setupComplete]
  refine ⟨_, placed _ _, ?_⟩
  rw [ASDU.value_encodeToBuffer]
  dsimp only
  rw [stop_encodeAllToBuffer]
  refine ⟨rfl, fun timed => ?_, rfl⟩
  rw [if_pos timed, ASDU.timeOctets, if_pos timed]
  rfl

/-- Setting up leaves what `malloc` left at the place of a time. -/
theorem Framed.timestampAt_setupComplete (framed : self.Framed)
    (found : self.asduList[index]? = some asdu) (timed : asdu.hasRefrTm = true) :
    ASDU.timestampAt self.setupComplete.value.buffer (self.refrTmAt index asdu) =
      ASDU.timestampAt self.buffer (self.refrTmAt index asdu) := by
  obtain ⟨front, listed⟩ := listed_of_getElem? found
  obtain ⟨lengthField, _, _⟩ := framed
  apply Subtype.ext
  apply Memory.octets_congr
  intro position above below
  rw [value_setupComplete]
  dsimp only
  have left := fun memory bufPos => @encodeAllToBuffer_time (self.asduList.take index)
    (self.asduList.drop (index + 1)) asdu memory bufPos position timed
  rw [← listed] at left
  unfold refrTmAt smpCntAt at above below
  rw [Memory.put_outside, left _ _ above below, Memory.put_outside]
  · omega
  · simp only [List.length_cons, List.length_nil]
    omega

/-- With another counter, the frame is the same but for the counter. -/
theorem Framed.setupComplete_setSmpCnt (framed : self.Framed)
    (found : self.asduList[index]? = some asdu) (value : UInt16) :
    let before := { self with asduList := self.asduList.set index { asdu with smpCnt := value } }
    before.setupComplete.value.publish =
      ethernetSendPacket (self.setupComplete.value.buffer.put (self.smpCntAt index asdu)
        (encodeUInt16FixedSize value))
        (self.payloadStart + self.setupComplete.value.payloadLength) := by
  intro before
  obtain ⟨front, listed⟩ := listed_of_getElem? found
  obtain ⟨lengthField, _, _⟩ := framed
  have changed : before.asduList = self.asduList.take index ++ { asdu with smpCnt := value } ::
      self.asduList.drop (index + 1) :=
    List.set_eq_take_append_cons_drop.trans (if_pos (List.getElem?_eq_some_iff.mp found).1)
  have number : before.asduList.length = self.asduList.length := List.length_set
  have total : before.totalASDULength = self.totalASDULength := by
    conv_rhs => rw [totalASDULength, listed]
    rw [totalASDULength, changed, List.map_append, List.map_append, List.map_cons, List.map_cons]
    rfl
  have encoded := fun memory bufPos => @encodeAllToBuffer_setSmpCnt (self.asduList.take index)
    (self.asduList.drop (index + 1)) asdu memory bufPos value
  rw [← changed, ← listed] at encoded
  have apart : self.lengthField + 2 ≤ self.smpCntAt index asdu := by
    unfold smpCntAt
    omega
  rw [publish, value_setupComplete, value_setupComplete, number, total]
  dsimp only
  rw [encoded]
  dsimp only
  exact congrArg (ethernetSendPacket · _) (Memory.put_comm _ (.inr apart))

/-- The time stands in the frame. -/
theorem Framed.time_inside (framed : self.Framed) (found : self.asduList[index]? = some asdu)
    (timed : asdu.hasRefrTm = true) : 14 ≤ self.refrTmAt index asdu ∧
      self.refrTmAt index asdu + 8 ≤
        self.payloadStart + self.setupComplete.value.payloadLength := by
  obtain ⟨front, listed⟩ := listed_of_getElem? found
  have header := framed.header
  have within := asdu.time_within timed
  have total := congrArg (fun asdus => (asdus.map ASDU.writtenLength).sum) listed
  simp only [List.map_append, List.map_cons, List.sum_append, List.sum_cons] at total
  rw [payloadLength_setupComplete]
  unfold refrTmAt smpCntAt writtenLength
  omega

/-! ## Calling setters before and after -/

theorem Framed.commutes_setSmpCnt (framed : self.Framed) (unplaced : asdu.Unplaced)
    (found : self.asduList[index]? = some asdu) (value : UInt16) :
    self.Commutes index (.setSmpCnt value) := by
  obtain ⟨placed, there, counter, _⟩ := placed_setupComplete found
  refine ⟨_, _, perform_onASDU found, perform_onASDU there, ?_⟩
  have before : asdu.setSmpCnt self.buffer value =
      ({ asdu with smpCnt := value }, self.buffer) := by
    rw [ASDU.setSmpCnt, unplaced.smpCntBuf]
    rfl
  have after : (placed.setSmpCnt self.setupComplete.value.buffer value).2 =
      self.setupComplete.value.buffer.put (self.smpCntAt index asdu)
        (encodeUInt16FixedSize value) := by
    rw [ASDU.setSmpCnt, counter]
    rfl
  dsimp only
  rw [before, publish, after]
  exact framed.setupComplete_setSmpCnt found value

/-- A setter of the time commutes if and only if it leaves what `malloc` left. -/
theorem Framed.commutes_changeRefrTm_iff (framed : self.Framed) (unplaced : asdu.Unplaced)
    (found : self.asduList[index]? = some asdu) (timed : asdu.hasRefrTm = true)
    {setter : ASDU.Operation} {change : Timestamp → Timestamp}
    (performs : ∀ (asdu : ASDU) (memory : Memory),
      asdu.perform memory setter = some (asdu.changeRefrTm memory change)) :
    self.Commutes index setter ↔
      let found := ASDU.timestampAt self.buffer (self.refrTmAt index asdu)
      change found = found := by
  obtain ⟨placed, there, _, time, _⟩ := placed_setupComplete found
  have before : asdu.changeRefrTm self.buffer change = (asdu, self.buffer) := by
    rw [ASDU.changeRefrTm, unplaced.refrTm]
    exact congrArg (·, self.buffer) (by rw [← timed, ← unplaced.refrTm])
  have after : (placed.changeRefrTm self.setupComplete.value.buffer change).2 =
      self.setupComplete.value.buffer.put (self.refrTmAt index asdu)
        (change (ASDU.timestampAt self.buffer (self.refrTmAt index asdu))).val := by
    rw [ASDU.changeRefrTm, time timed, ← framed.timestampAt_setupComplete found timed]
  have same : self.asduList.set index asdu = self.asduList := by
    obtain ⟨bound, rfl⟩ := List.getElem?_eq_some_iff.mp found
    exact List.set_getElem_self bound
  unfold Commutes
  rw [perform_onASDU found, perform_onASDU there, performs, performs]
  simp only [Option.map_some, Option.some.injEq, before, after, same, exists_eq_left',
    exists_and_left]
  obtain ⟨above, below⟩ := framed.time_inside found timed
  have size := (change (ASDU.timestampAt self.buffer (self.refrTmAt index asdu))).property
  have inside : self.refrTmAt index asdu +
      (change (ASDU.timestampAt self.buffer (self.refrTmAt index asdu))).val.length ≤
        14 + (self.payloadStart + self.setupComplete.value.payloadLength - 14) := by
    omega
  refine (Memory.octets_put_iff above inside).trans ?_
  rw [Memory.Holds, size, ← framed.timestampAt_setupComplete found timed]
  exact ⟨fun held => Subtype.ext held.symm, fun same => (congrArg Subtype.val same).symm⟩

theorem not_commutes_setSmpSynch (unplaced : asdu.Unplaced)
    (found : self.asduList[index]? = some asdu) (smpSynch : UInt16) :
    ¬ self.Commutes index (.setSmpSynch smpSynch) := by
  rintro ⟨before, _, performed, _⟩
  rw [perform_onASDU found, ASDU.perform, ASDU.setSmpSynch, unplaced.smpSynchBuf] at performed
  contradiction

/-- Calling a setter before setting up is the same as calling it after, whatever calls led to the
ASDUs, if and only if it is the setter of the counter or the time is what `malloc` left. -/
theorem commutes_iff {parameters : CommParameters} {srcAddr : Octets 6} {useVlanTag : Bool}
    {found : Memory} {operations : List Operation}
    (run : (createEx parameters srcAddr useVlanTag found).performAll operations = some self)
    (configuring : .setupComplete ∉ operations) (present : self.asduList[index]? = some asdu)
    (timed : asdu.hasRefrTm = true) {setter : ASDU.Operation} (setting : IsSetter setter) :
    self.Commutes index setter ↔ self.CommutesWhen index asdu setter := by
  have framed := (framed_createEx parameters srcAddr useVlanTag found).performAll run
  have configured := (configured_createEx parameters srcAddr useVlanTag found).performAll
    configuring run
  have unplaced := configured.unplaced asdu (List.mem_of_getElem? present)
  cases setter with
  | setSmpCnt value =>
      exact iff_of_true (framed.commutes_setSmpCnt unplaced present value) trivial
  | setSmpSynch smpSynch =>
      exact iff_of_false (not_commutes_setSmpSynch unplaced present smpSynch) not_false
  | setRefrTm refrTm =>
      exact @Framed.commutes_changeRefrTm_iff self index asdu framed unplaced present timed
        (.setRefrTm refrTm) (fun timestamp =>
          (timestamp.setTimeInMilliseconds refrTm).setSubsecondPrecision 10) fun _ _ => rfl
  | setRefrTmNs refrTmNs =>
      exact @Framed.commutes_changeRefrTm_iff self index asdu framed unplaced present timed
        (.setRefrTmNs refrTmNs) (fun timestamp =>
          (timestamp.setTimeInNanoseconds refrTmNs).setSubsecondPrecision 20) fun _ _ => rfl
  | setRefrTmByTimestamp refrTm =>
      exact @Framed.commutes_changeRefrTm_iff self index asdu framed unplaced present timed
        (.setRefrTmByTimestamp refrTm) (fun _ => refrTm) fun _ _ => rfl
  | _ => contradiction

end Setup

/-- One ASDU with a time. -/
def timed : List Operation :=
  [.addASDU ⟨[0x41], zero_notMem_a⟩ none 1, .onASDU 0 .enableRefrTm, .onASDU 0 .addINT32]

theorem commutes_timed :
    ∃ self asdu, (createEx .svDefault Octets.zero true fun _ => 0).performAll timed = some self ∧
      self.asduList[0]? = some asdu ∧ self.Commutes 0 (.setSmpCnt 5) ∧
      (self.Commutes 0 (.setRefrTm 1000) ↔ self.CommutesWhen 0 asdu (.setRefrTm 1000)) := by
  obtain ⟨self, run⟩ : ∃ self,
      (createEx .svDefault Octets.zero true fun _ => 0).performAll timed = some self :=
    ⟨_, rfl⟩
  obtain rfl := Option.some.inj run
  exact ⟨_, _, rfl, rfl,
    (@commutes_iff _ 0 _ _ _ _ _ _ run (by decide) rfl rfl (.setSmpCnt 5) trivial).mpr trivial,
    commutes_iff run (by decide) rfl rfl trivial⟩

/-- The synchronisation is written through a position that is not there yet, and the time is
lost. -/
theorem setSmpSynch_undefined :
    ∃ self asdu, (createEx .svDefault Octets.zero true fun _ => 0).performAll timed = some self ∧
      self.asduList[0]? = some asdu ∧ asdu.hasRefrTm = true ∧
      self.perform (.onASDU 0 (.setSmpSynch 1)) = none ∧ ¬ self.Commutes 0 (.setSmpSynch 1) ∧
      ¬ self.Commutes 0 (.setRefrTm 1000) := by
  obtain ⟨self, run⟩ : ∃ self,
      (createEx .svDefault Octets.zero true fun _ => 0).performAll timed = some self :=
    ⟨_, rfl⟩
  have framed := (framed_createEx .svDefault Octets.zero true fun _ => 0).performAll run
  have configured := (configured_createEx .svDefault Octets.zero true fun _ => 0).performAll
    (by decide) run
  obtain rfl := Option.some.inj run
  have unplaced := configured.unplaced _ List.mem_cons_self
  refine ⟨_, _, rfl, rfl, rfl, rfl, not_commutes_setSmpSynch unplaced rfl 1, fun commutes => ?_⟩
  have kept := (@Framed.commutes_changeRefrTm_iff _ 0 _ framed unplaced rfl rfl (.setRefrTm 1000)
    (fun timestamp => (timestamp.setTimeInMilliseconds 1000).setSubsecondPrecision 10)
    fun _ _ => rfl).mp commutes
  revert kept
  decide +kernel

end GridGooseSV.SVPublisher
