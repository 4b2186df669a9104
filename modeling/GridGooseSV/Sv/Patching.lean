import GridGooseSV.Sv.Sample

/-!
# Setters patch the frame

A call on an ASDU changes what the frame meant of that ASDU, at the recorded positions, and
nothing else.
-/

namespace GridGooseSV.SVPublisher

open BerEncoder

/-- Octets in place of others, from an index on. -/
def replaceAt (octets : List UInt8) (index : Nat) (new : List UInt8) : List UInt8 :=
  octets.take index ++ (new ++ octets.drop (index + new.length))

theorem length_replaceAt {octets : List UInt8} {index : Nat} {new : List UInt8}
    (fits : index + new.length ≤ octets.length) :
    (replaceAt octets index new).length = octets.length := by
  simp only [replaceAt, List.length_append, List.length_take, List.length_drop]
  omega

/-- What a frame meant of an ASDU after a call; `none` for a division by zero and for octets
that do not fit in the data. Calls that configure an ASDU do not reach a frame that is
encoded already. -/
def Sample.perform (self : Sample) : ASDU.Operation → Option Sample
  | .setSmpCnt value => some { self with smpCnt := value }
  | .setSmpCntWrap value => some { self with smpCntLimit := value }
  | .increaseSmpCnt =>
    if self.smpCntLimit = 0 then none
    else some { self with
      smpCnt := UInt16.ofNat ((self.smpCnt.toNat + 1) % self.smpCntLimit.toNat) }
  | .setSmpSynch smpSynch => some { self with smpSynch := smpSynch.toUInt8 }
  | .setRefrTmNs refrTmNs => some { self with
      refrTm := self.refrTm.map fun refrTm =>
        (refrTm.setTimeInNanoseconds refrTmNs).setSubsecondPrecision 20 }
  | .setRefrTm refrTm => some { self with
      refrTm := self.refrTm.map fun timestamp =>
        (timestamp.setTimeInMilliseconds refrTm).setSubsecondPrecision 10 }
  | .setRefrTmByTimestamp refrTm => some { self with refrTm := self.refrTm.map fun _ => refrTm }
  | .setData index value =>
    if index + value.octets.length ≤ self.data.length then
      some { self with data := replaceAt self.data index value.octets }
    else none
  | _ => some self

/-- A counter is increased where it has a limit. -/
theorem Sample.perform_increaseSmpCnt {sample changed : Sample}
    (meant : sample.perform .increaseSmpCnt = some changed) :
    sample.smpCntLimit ≠ 0 ∧ changed = { sample with
      smpCnt := UInt16.ofNat ((sample.smpCnt.toNat + 1) % sample.smpCntLimit.toNat) } := by
  by_cases zero : sample.smpCntLimit = 0
  · have absent : none = some changed := (if_pos zero).symm.trans meant
    contradiction
  · have present : some _ = some changed := (if_neg zero).symm.trans meant
    exact ⟨zero, (Option.some.inj present).symm⟩

/-- Data are set within their block. -/
theorem Sample.perform_setData {sample changed : Sample} {index : Nat} {value : ASDU.DataValue}
    (meant : sample.perform (.setData index value) = some changed) :
    index + value.octets.length ≤ sample.data.length ∧
      changed = { sample with data := replaceAt sample.data index value.octets } := by
  by_cases fits : index + value.octets.length ≤ sample.data.length
  · have present : some _ = some changed := (if_pos fits).symm.trans meant
    exact ⟨fits, (Option.some.inj present).symm⟩
  · have absent : none = some changed := (if_neg fits).symm.trans meant
    contradiction

/-- A sample stands at a position of a buffer, between other octets, and an ASDU has its
positions recorded. -/
structure Stands (buffer : Memory) (before after : List UInt8) (asdu : ASDU)
    (sample : Sample) : Prop where
  held : buffer.Holds 0 (before ++ (sample.octets ++ after))
  placed : asdu.Placed before.length sample

section Patching

variable {buffer : Memory} {before after : List UInt8} {asdu : ASDU} {sample : Sample}

/-- A part of a sample stands where the parts before it end. -/
theorem Stands.part (stands : Stands buffer before after asdu sample)
    {front part rest : List UInt8} (split : sample.octets = front ++ (part ++ rest)) :
    buffer.Holds (before.length + front.length) part := by
  have held := stands.held
  rw [split, List.append_assoc] at held
  have behind := (Memory.holds_append.mp (Memory.holds_append.mp held).2).2
  rw [List.append_assoc] at behind
  have here := (Memory.holds_append.mp behind).1
  rwa [Nat.zero_add] at here

/-- Octets of a sample are replaced by as many. -/
theorem Stands.put (stands : Stands buffer before after asdu sample) {patched : Sample}
    {front old new rest : List UInt8} (split : sample.octets = front ++ (old ++ rest))
    (splitPatched : patched.octets = front ++ (new ++ rest)) (same : new.length = old.length)
    {position : Nat} (there : position = before.length + front.length) :
    (buffer.put position new).Holds 0 (before ++ (patched.octets ++ after)) := by
  have held := stands.held
  have parts : before ++ (sample.octets ++ after) =
      (before ++ front) ++ (old ++ (rest ++ after)) := by
    simp only [split, List.append_assoc]
  rw [parts] at held
  have replaced := held.replace same
  rw [List.length_append, Nat.zero_add, ← there] at replaced
  simpa only [splitPatched, List.append_assoc] using replaced

theorem Stands.setSmpCnt (stands : Stands buffer before after asdu sample) (value : UInt16) :
    let result := asdu.setSmpCnt buffer value
    Stands result.2 before after result.1 { sample with smpCnt := value } where
  held := by
    unfold ASDU.setSmpCnt ASDU.patch
    rw [stands.placed.smpCntBuf]
    exact @Stands.put _ _ _ _ _ stands { sample with smpCnt := value } sample.front
      (encodeUInt16FixedSize sample.smpCnt) (encodeUInt16FixedSize value) _ rfl rfl (by simp) _ rfl
  placed := { stands.placed with smpCnt := rfl }

theorem Stands.setSmpSynch (stands : Stands buffer before after asdu sample)
    {smpSynch : UInt16} {result : ASDU × Memory}
    (performed : asdu.setSmpSynch buffer smpSynch = some result) :
    Stands result.2 before after result.1 { sample with smpSynch := smpSynch.toUInt8 } := by
  have placed := stands.placed
  unfold ASDU.setSmpSynch at performed
  rw [placed.smpSynchBuf, Option.map_some, Option.some.injEq] at performed
  rw [← performed]
  refine ⟨?_, ⟨placed.smpCnt, placed.smpCntLimit, placed.smpCntBuf, placed.refrTm, rfl,
    placed.dataBuffer⟩⟩
  apply @Stands.put _ _ _ _ _ stands { sample with smpSynch := smpSynch.toUInt8 }
    (sample.front ++ (encodeUInt16FixedSize sample.smpCnt ++ (sample.number ++ (sample.time ++
      encodeTL 0x85 1)))) [sample.smpSynch] [smpSynch.toUInt8]
    (sample.block ++ (sample.data ++ sample.last))
  · simp only [Sample.octets, List.append_assoc]
  · simp only [Sample.octets, List.append_assoc]
    rfl
  · rfl
  · have synch : (encodeTL 0x85 1).length = 2 := rfl
    simp only [Sample.smpSynchAt, Sample.refrTmAt, Sample.smpCntAt, List.length_append,
      length_encodeUInt16FixedSize, synch]
    omega

/-- Where the parts take as much place, the fields have the same positions. -/
theorem ASDU.Placed.layout {position : Nat} {changed : Sample}
    (placed : asdu.Placed position sample) (smpCnt : changed.smpCnt = sample.smpCnt)
    (smpCntLimit : changed.smpCntLimit = sample.smpCntLimit)
    (refrTm : changed.refrTm.isSome = sample.refrTm.isSome)
    (front : changed.front.length = sample.front.length)
    (number : changed.number.length = sample.number.length)
    (time : changed.time.length = sample.time.length)
    (block : changed.block.length = sample.block.length) : asdu.Placed position changed := by
  have smpCntAt : changed.smpCntAt = sample.smpCntAt := front
  have refrTmAt : changed.refrTmAt = sample.refrTmAt := by
    rw [Sample.refrTmAt, Sample.refrTmAt, smpCntAt, number]
  have smpSynchAt : changed.smpSynchAt = sample.smpSynchAt := by
    rw [Sample.smpSynchAt, Sample.smpSynchAt, refrTmAt, time]
  have dataAt : changed.dataAt = sample.dataAt := by
    rw [Sample.dataAt, Sample.dataAt, smpSynchAt, block]
  refine ⟨smpCnt ▸ placed.smpCnt, smpCntLimit ▸ placed.smpCntLimit, smpCntAt ▸ placed.smpCntBuf,
    ?_, smpSynchAt ▸ placed.smpSynchBuf, dataAt ▸ placed.dataBuffer⟩
  rw [placed.refrTm, refrTmAt]
  cases present : sample.refrTm <;> cases still : changed.refrTm <;>
    simp [present, still] at refrTm ⊢

/-- What stands before the time. -/
def Sample.beforeTime (self : Sample) : List UInt8 :=
  self.front ++ (encodeUInt16FixedSize self.smpCnt ++ self.number)

theorem Sample.length_beforeTime (self : Sample) :
    self.beforeTime.length = self.refrTmAt := by
  rw [beforeTime, refrTmAt, smpCntAt, List.length_append, List.length_append,
    length_encodeUInt16FixedSize, Nat.add_assoc]

/-- What stands behind the time. -/
def Sample.behindTime (self : Sample) : List UInt8 :=
  encodeTL 0x85 1 ++ ([self.smpSynch] ++ (self.block ++ (self.data ++ self.last)))

theorem Sample.octets_time (self : Sample) :
    self.octets = self.beforeTime ++ (self.time ++ self.behindTime) := by
  simp only [octets, beforeTime, behindTime, List.append_assoc]

/-- The timestamp that stands in the buffer. -/
theorem Stands.timestampAt (stands : Stands buffer before after asdu sample) {refrTm : Timestamp}
    (time : sample.refrTm = some refrTm) :
    ASDU.timestampAt buffer (before.length + sample.refrTmAt) = refrTm := by
  have here := stands.part sample.octets_time
  have octets : sample.time = refrTm.val := by rw [Sample.time, time]
  rw [sample.length_beforeTime, octets, Memory.Holds, refrTm.property] at here
  exact Subtype.ext here

/-- Another time takes as much place. -/
theorem Sample.layout_map (self : Sample) (change : Timestamp → Timestamp) :
    let changed := { self with refrTm := self.refrTm.map change }
    changed.front = self.front ∧ changed.number = self.number ∧
      changed.time.length = self.time.length := by
  obtain ⟨svID, datset, smpCnt, smpCntLimit, confRev, refrTm, smpSynch, smpRate, data, smpMod⟩ :=
    self
  cases refrTm with
  | none => exact ⟨rfl, rfl, rfl⟩
  | some refrTm => exact ⟨rfl, rfl, (change refrTm).property.trans refrTm.property.symm⟩

theorem Stands.changeRefrTm (stands : Stands buffer before after asdu sample)
    (change : Timestamp → Timestamp) :
    let result := asdu.changeRefrTm buffer change
    Stands result.2 before after result.1 { sample with refrTm := sample.refrTm.map change } := by
  intro result
  generalize changedEq : { sample with refrTm := sample.refrTm.map change } = changed
  have layout := sample.layout_map change
  simp only [changedEq] at layout
  obtain ⟨front, number, time⟩ := layout
  have placed := stands.placed
  have smpCnt : changed.smpCnt = sample.smpCnt := by rw [← changedEq]
  have block : changed.block = sample.block := by rw [← changedEq]; rfl
  refine ⟨?_, ?_⟩
  · have split := changed.octets_time
    have before : changed.beforeTime = sample.beforeTime := by
      rw [Sample.beforeTime, Sample.beforeTime, front, number, smpCnt]
    have behind : changed.behindTime = sample.behindTime := by rw [← changedEq]; rfl
    rw [before, behind] at split
    have position := placed.refrTm
    simp only [result, ASDU.changeRefrTm]
    cases has : sample.refrTm with
    | none =>
        rw [has] at position
        have same : changed.octets = sample.octets := by
          rw [← changedEq, has, Option.map_none, ← has]
        simp only [position, Option.map_none, same]
        exact stands.held
    | some refrTm =>
        rw [has] at position
        have new : changed.time = (change refrTm).val := by
          rw [← changedEq, has]
          rfl
        rw [new] at split time
        simp only [position, Option.map_some, stands.timestampAt has]
        exact stands.put sample.octets_time split time (by rw [sample.length_beforeTime])
  · have kept : asdu.Placed before.length changed := by
      subst changedEq
      exact placed.layout rfl rfl Option.isSome_map (by rw [front]) (by rw [number]) time
        (by rw [block])
    exact ⟨kept.smpCnt, kept.smpCntLimit, kept.smpCntBuf, kept.refrTm, kept.smpSynchBuf,
      kept.dataBuffer⟩

/-- What stands before the data. -/
def Sample.beforeData (self : Sample) : List UInt8 :=
  self.beforeTime ++ (self.time ++ (encodeTL 0x85 1 ++ ([self.smpSynch] ++ self.block)))

theorem Sample.length_beforeData (self : Sample) : self.beforeData.length = self.dataAt := by
  have synch : (encodeTL 0x85 1).length = 2 := rfl
  simp only [beforeData, dataAt, smpSynchAt, List.length_append, length_beforeTime, synch,
    List.length_singleton]
  omega

theorem Sample.octets_data (self : Sample) :
    self.octets = self.beforeData ++ (self.data ++ self.last) := by
  simp only [octets, beforeTime, beforeData, List.append_assoc]

/-- Other data take as much place. -/
theorem Sample.layout_data (self : Sample) {data : List UInt8}
    (same : data.length = self.data.length) :
    let changed := { self with data := data }
    changed.front = self.front ∧ changed.block = self.block ∧
      changed.beforeData = self.beforeData := by
  have front : { self with data := data }.front = self.front := by
    simp only [Sample.front, Sample.size, same]
  have block : { self with data := data }.block = self.block := by
    simp only [Sample.block, same]
  refine ⟨front, block, ?_⟩
  simp only [Sample.beforeData, Sample.beforeTime, front, block]
  rfl

theorem Stands.setData (stands : Stands buffer before after asdu sample) {index : Nat}
    {value : ASDU.DataValue} (fits : index + value.octets.length ≤ sample.data.length)
    {patched : Memory} (performed : asdu.setData buffer index value = some patched) :
    Stands patched before after asdu
      { sample with data := replaceAt sample.data index value.octets } := by
  have placed := stands.placed
  obtain ⟨front, block, beforeData⟩ := sample.layout_data (length_replaceAt fits)
  generalize changedEq :
    { sample with data := replaceAt sample.data index value.octets } = changed at *
  have data : changed.data = replaceAt sample.data index value.octets := by rw [← changedEq]
  unfold ASDU.setData at performed
  rw [placed.dataBuffer, Option.map_some, Option.some.injEq] at performed
  have old : sample.data = sample.data.take index ++
      ((sample.data.drop index).take value.octets.length ++
        sample.data.drop (index + value.octets.length)) := by
    rw [← List.drop_drop, List.take_append_drop, List.take_append_drop]
  refine ⟨?_, ?_⟩
  · have split : sample.octets = (sample.beforeData ++ sample.data.take index) ++
        ((sample.data.drop index).take value.octets.length ++
          (sample.data.drop (index + value.octets.length) ++ sample.last)) := by
      rw [sample.octets_data]
      conv_lhs => rw [old]
      simp only [List.append_assoc]
    have splitPatched : changed.octets = (sample.beforeData ++ sample.data.take index) ++
        (value.octets ++ (sample.data.drop (index + value.octets.length) ++ sample.last)) := by
      have last : changed.last = sample.last := by
        rw [← changedEq]
        rfl
      rw [changed.octets_data, beforeData, data, last, replaceAt]
      simp only [List.append_assoc]
    rw [← performed]
    apply stands.put split splitPatched
    · rw [List.length_take, List.length_drop]
      omega
    · rw [List.length_append, sample.length_beforeData, List.length_take]
      omega
  · subst changedEq
    exact placed.layout rfl rfl rfl (by rw [front]) rfl rfl (by rw [block])

theorem Sample.length_map (self : Sample) (change : Timestamp → Timestamp) :
    { self with refrTm := self.refrTm.map change }.octets.length = self.octets.length := by
  obtain ⟨front, number, time⟩ := self.layout_map change
  rw [Sample.octets_time, self.octets_time, List.length_append, List.length_append,
    List.length_append, List.length_append, time]
  simp only [Sample.beforeTime, front, number]
  rfl

/-- A sample keeps its size. -/
theorem Sample.length_perform {sample changed : Sample} {operation : ASDU.Operation}
    (meant : sample.perform operation = some changed) :
    changed.octets.length = sample.octets.length := by
  have counted : ∀ smpCnt,
      { sample with smpCnt := smpCnt }.octets.length = sample.octets.length := by
    intro smpCnt
    simp only [Sample.octets, List.length_append, length_encodeUInt16FixedSize]
    rfl
  cases operation with
  | increaseSmpCnt =>
      obtain ⟨_, rfl⟩ := Sample.perform_increaseSmpCnt meant
      exact counted _
  | setSmpSynch smpSynch =>
      rw [← Option.some.inj meant]
      simp only [Sample.octets, List.length_append]
      rfl
  | setData index value =>
      obtain ⟨fits, rfl⟩ := Sample.perform_setData meant
      have data := length_replaceAt fits
      obtain ⟨_, _, beforeData⟩ := sample.layout_data data
      rw [Sample.octets_data, sample.octets_data, beforeData, List.length_append,
        List.length_append, List.length_append, List.length_append, data]
      rfl
  | setSmpCnt value => exact Option.some.inj meant ▸ counted value
  | setRefrTmNs refrTmNs => exact Option.some.inj meant ▸ sample.length_map _
  | setRefrTm refrTm => exact Option.some.inj meant ▸ sample.length_map _
  | setRefrTmByTimestamp refrTm => exact Option.some.inj meant ▸ sample.length_map _
  | setSmpCntWrap value => exact Option.some.inj meant ▸ rfl
  | _ => rw [← Option.some.inj meant]

/-- A call that stays within the data patches the frame as it changes the sample. -/
theorem Stands.perform (stands : Stands buffer before after asdu sample)
    {operation : ASDU.Operation} {result : ASDU × Memory} {changed : Sample}
    (performed : asdu.perform buffer operation = some result)
    (meant : sample.perform operation = some changed) :
    Stands result.2 before after result.1 changed := by
  have placed := stands.placed
  cases operation with
  | setSmpCnt value =>
      rw [← Option.some.inj performed, ← Option.some.inj meant]
      exact stands.setSmpCnt value
  | setSmpCntWrap value =>
      rw [← Option.some.inj performed, ← Option.some.inj meant]
      exact ⟨stands.held, { placed with smpCntLimit := rfl }⟩
  | increaseSmpCnt =>
      obtain ⟨limited, rfl⟩ := Sample.perform_increaseSmpCnt meant
      rw [ASDU.perform, ASDU.increaseSmpCnt, placed.smpCntLimit, placed.smpCnt,
        if_neg limited] at performed
      rw [← Option.some.inj performed]
      exact stands.setSmpCnt _
  | setSmpSynch smpSynch =>
      rw [← Option.some.inj meant]
      exact stands.setSmpSynch performed
  | setRefrTmNs refrTmNs =>
      rw [← Option.some.inj performed, ← Option.some.inj meant]
      exact stands.changeRefrTm _
  | setRefrTm refrTm =>
      rw [← Option.some.inj performed, ← Option.some.inj meant]
      exact stands.changeRefrTm _
  | setRefrTmByTimestamp refrTm =>
      rw [← Option.some.inj performed, ← Option.some.inj meant]
      exact stands.changeRefrTm _
  | setData index value =>
      obtain ⟨fits, rfl⟩ := Sample.perform_setData meant
      obtain ⟨patched, set, rfl⟩ := Option.map_eq_some_iff.mp performed
      exact stands.setData fits set
  | _ =>
      rw [← Option.some.inj performed, ← Option.some.inj meant]
      exact ⟨stands.held, ⟨placed.smpCnt, placed.smpCntLimit, placed.smpCntBuf, placed.refrTm,
        placed.smpSynchBuf, placed.dataBuffer⟩⟩

end Patching

end GridGooseSV.SVPublisher
