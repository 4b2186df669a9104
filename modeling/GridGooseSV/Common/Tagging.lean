import GridGooseSV.Goose.Observer
import GridGooseSV.Sv.Addressing

/-!
# Frames with and without a VLAN tag

The same calls lead to a publisher that uses a VLAN tag or to one that does not. What the
second one sends is never recognised, so receivers notice the difference as soon as
the first one sends something that they take notice of.
-/

namespace GridGooseSV

open BerEncoder

/-! ## GOOSE -/

namespace GoosePublisher

/-- The size that `createGoosePayload` compares with the room in the buffer. -/
def payloadSize (self : GoosePublisher) (dataSetValues : Components) : Option Nat :=
  (componentsSize (presentEntries dataSetValues)).map fun elementsSize =>
    let dataSetSize := elementsSize % 2 ^ 32
    let allDataSize := dataSetSize + determineLengthSize dataSetSize + 1
    let goosePduLength := (self.headerSize dataSetValues + allDataSize) % 2 ^ 32
    (1 + determineLengthSize goosePduLength + goosePduLength) % 2 ^ 32

/-- What a receiver does with what is sent; nothing if nothing is. -/
def receive (subscribers : List GooseSubscriber) (stale : Memory) (now : UInt64) :
    Option (List UInt8) → Reception
  | some packet =>
    (parseGooseMessage subscribers (Memory.ofOctets packet stale) packet.length now).value
  | none => { subscriberList := subscribers }

/-- Receivers do the same with what two publishers send. -/
def ReceivedAlike (first second : Publication) : Prop :=
  ∀ (subscribers : List GooseSubscriber) (stale other : Memory) (now : UInt64),
    (receive subscribers stale now first.sent).calls =
        (receive subscribers other now second.sent).calls ∧
      (receive subscribers stale now first.sent).subscriberList =
        (receive subscribers other now second.sent).subscriberList

section Publication

variable {parameters : CommParameters} {srcAddr : Octets 6} {publisher : GoosePublisher}
variable {values : Components} {publication : Publication}

/-- Nothing is sent if the message is too long. -/
theorem sent_eq_none_iff (prepared : publisher.Prepared parameters srcAddr)
    (published : publisher.publish values = some publication) :
    publication.sent = none ↔ ∃ size, publisher.payloadSize values = some size ∧ 1492 < size := by
  have room : gooseMaxMessageSize - publisher.payloadStart = 1492 := by
    rw [prepared.payloadStart]
    rfl
  simp only [publish, createGoosePayload, payloadSize, Option.bind_eq_bind, Option.pure_def,
    room] at published ⊢
  cases counted : componentsSize (presentEntries values) with
  | none => simp [counted] at published
  | some elementsSize =>
      simp only [counted, Option.bind_some, Option.map_some, Option.some.injEq,
        exists_eq_left'] at published ⊢
      generalize (1 + determineLengthSize _ + _) % 2 ^ 32 = size at *
      by_cases long : size > 1492
      · rw [if_pos long, Option.bind_some, Option.some.injEq] at published
        simp [← published, long]
      · rw [if_neg long, Option.bind_eq_some_iff] at published
        obtain ⟨payload, created, published⟩ := published
        obtain ⟨entries, _, encoded⟩ := Option.bind_eq_some_iff.mp created
        obtain rfl := Option.some.inj encoded
        simp only at published
        split at published
        · contradiction
        · rw [← Option.some.inj published]
          simp [long]

/-- A frame with a VLAN tag is recognised. -/
theorem recognised_of_sent (prepared : publisher.Prepared parameters srcAddr)
    (published : publisher.publish values = some publication) {packet : List UInt8}
    (sent : publication.sent = some packet) {memory : Memory} (held : memory.Holds 0 packet) :
    IsGooseFrame memory packet.length := by
  have success : publication.returned = 0 := by
    rcases publish_cases published with rfl | ⟨_, _, _, rfl⟩
    · contradiction
    · rfl
  obtain ⟨payload, _, created, fits, frame, _, _⟩ := publish_eq prepared published success
  obtain ⟨_, _, _, _, _, _, encoded⟩ := createGoosePayload_eq created (by omega)
  obtain rfl := Option.some.inj (sent.symm.trans frame)
  exact isGooseFrame_of_encoded encoded held

/-- A fresh observer, which notices every frame that is recognised. -/
theorem noticed {memory : Memory} {numbytes : Nat} (goose : IsGooseFrame memory numbytes)
    (now : UInt64) :
    (parseGooseMessage [plainObserver] memory numbytes now).value.subscriberList ≠
      [plainObserver] := by
  intro same
  have state := (received_parseGooseMessage [plainObserver] memory numbytes now).state 0
  have here : interested memory [plainObserver] = some 0 := rfl
  rw [same] at state
  simp only [List.getElem?_cons_zero, Option.map_some, Option.some.injEq] at state
  have appId := congrArg GooseSubscriber.appId state
  have taken : (parsed memory numbytes [plainObserver] 0 plainObserver).appId =
      (frameAppId memory).toNat := by
    rw [parsed, if_pos goose, if_pos here]
    rfl
  have fresh : plainObserver.appId = -1 := rfl
  rw [apply_ite GooseSubscriber.appId, GooseSubscriber.value_deliver, taken, ite_self,
    fresh] at appId
  omega

/-- Receivers do the same with and without a VLAN tag if and only if the message is too long to
be sent with one. -/
theorem receivedAlike_iff {created : UInt64} {found other : Memory} {operations : List Operation}
    {tagged untagged : GoosePublisher}
    (run : (createEx parameters srcAddr true created found).performAll operations = some tagged)
    (runUntagged : (createEx parameters srcAddr false created other).performAll operations =
      some untagged)
    {first second : Publication} (published : tagged.publish values = some first)
    (publishedUntagged : untagged.publish values = some second) :
    ReceivedAlike first second ↔ ∃ size, tagged.payloadSize values = some size ∧ 1492 < size := by
  have prepared := (prepared_create parameters srcAddr created found).performAll run
  have plain := (untagged_createEx parameters srcAddr created other).performAll runUntagged
  have passed : ∀ subscribers stale now,
      receive subscribers stale now second.sent = { subscriberList := subscribers } := by
    intro subscribers stale now
    cases sent : second.sent with
    | none => rfl
    | some packet =>
        exact passed_of_untagged plain publishedUntagged sent (Memory.holds_ofOctets _ _) _ _ _
  rw [← sent_eq_none_iff prepared published]
  constructor
  · intro alike
    by_contra something
    obtain ⟨packet, sent⟩ := Option.ne_none_iff_exists'.mp something
    obtain ⟨_, list⟩ := alike [plainObserver] (fun _ => 0) (fun _ => 0) 0
    rw [passed, sent] at list
    exact noticed (recognised_of_sent prepared published sent (Memory.holds_ofOctets _ _)) 0 list
  · intro nothing subscribers stale other now
    rw [passed, nothing]
    exact ⟨rfl, rfl⟩

end Publication

end GoosePublisher

/-! ## Sampled values -/

namespace SVPublisher

/-- What a call makes of an ASDU does not depend on the buffer. -/
theorem ASDU.fst_perform (self : ASDU) (memory other : Memory) (operation : ASDU.Operation) :
    (self.perform memory operation).map Prod.fst = (self.perform other operation).map Prod.fst := by
  cases operation with
  | setData index value =>
      simp only [ASDU.perform, setData, Option.map_map]
      cases self.dataBuffer <;> rfl
  | setSmpSynch smpSynch =>
      simp only [ASDU.perform, setSmpSynch]
      cases self.smpSynchBuf <;> rfl
  | increaseSmpCnt =>
      simp only [ASDU.perform, increaseSmpCnt]
      split <;> rfl
  | _ => rfl

/-- Two publishers that have the same ASDUs have the same ASDUs after a call that does not encode
them. -/
theorem asduList_perform {first second next other : SVPublisher}
    (same : first.asduList = second.asduList) {operation : Operation}
    (different : operation ≠ .setupComplete) (performed : first.perform operation = some next)
    (performedOther : second.perform operation = some other) : next.asduList = other.asduList := by
  cases operation with
  | setupComplete => contradiction
  | addASDU svID datset confRev =>
      rw [← Option.some.inj performed, ← Option.some.inj performedOther]
      simp only [addASDU, same]
  | onASDU index operation =>
      simp only [SVPublisher.perform, Option.bind_eq_bind, Option.pure_def,
        Option.bind_eq_some_iff, Option.some.injEq] at performed performedOther
      obtain ⟨asdu, found, result, changed, rfl⟩ := performed
      obtain ⟨_, foundOther, resultOther, changedOther, rfl⟩ := performedOther
      rw [same] at found
      obtain rfl := Option.some.inj (found.symm.trans foundOther)
      have fst := asdu.fst_perform first.buffer second.buffer operation
      rw [changed, changedOther, Option.map_some, Option.map_some, Option.some.injEq] at fst
      simp only [same, fst]

theorem asduList_performAll {first second next other : SVPublisher}
    (same : first.asduList = second.asduList) {operations : List Operation}
    (different : .setupComplete ∉ operations) (performed : first.performAll operations = some next)
    (performedOther : second.performAll operations = some other) :
    next.asduList = other.asduList := by
  induction operations generalizing first second with
  | nil =>
      rw [← Option.some.inj performed, ← Option.some.inj performedOther, same]
  | cons operation rest ih =>
      obtain ⟨middle, step, later⟩ := Option.bind_eq_some_iff.mp performed
      obtain ⟨between, stepOther, laterOther⟩ := Option.bind_eq_some_iff.mp performedOther
      obtain ⟨unlike, different⟩ := not_or.mp (mt List.mem_cons.mpr different)
      exact ih (asduList_perform same (Ne.symm unlike) step stepOther) different later laterOther

/-- Samples that calls have the same effect on, as far as there is one. -/
structure Sample.Congruent (first second : Sample) : Prop where
  smpCntLimit : first.smpCntLimit = second.smpCntLimit
  dataSize : first.data.length = second.data.length

theorem ASDU.EncodedAs.congruent {asdu : ASDU} {first second : Sample}
    (encodedAs : asdu.EncodedAs first) (encodedAsOther : asdu.EncodedAs second) :
    first.Congruent second := by
  obtain ⟨_, _, size, rfl⟩ := encodedAs
  obtain ⟨_, _, sizeOther, rfl⟩ := encodedAsOther
  exact ⟨rfl, size.trans sizeOther.symm⟩

/-- A call that is about one of two congruent samples is about the other. -/
theorem Sample.Congruent.perform {first second next : Sample} (congruent : first.Congruent second)
    {operation : ASDU.Operation} (meant : first.perform operation = some next) :
    ∃ other, second.perform operation = some other ∧ next.Congruent other := by
  obtain ⟨smpCntLimit, dataSize⟩ := congruent
  cases operation with
  | increaseSmpCnt =>
      obtain ⟨limited, rfl⟩ := Sample.perform_increaseSmpCnt meant
      exact ⟨_, if_neg (smpCntLimit ▸ limited), smpCntLimit, dataSize⟩
  | setData index value =>
      obtain ⟨fits, rfl⟩ := Sample.perform_setData meant
      refine ⟨_, if_pos (dataSize ▸ fits), smpCntLimit, ?_⟩
      simp only [length_replaceAt fits, length_replaceAt (dataSize ▸ fits), dataSize]
  | setSmpCntWrap value =>
      rw [← Option.some.inj meant]
      exact ⟨_, rfl, rfl, dataSize⟩
  | _ =>
      rw [← Option.some.inj meant]
      exact ⟨_, rfl, smpCntLimit, dataSize⟩

theorem patchAll_congruent {first second next : List Sample}
    (congruent : List.Forall₂ Sample.Congruent first second) {operations : List Operation}
    (meant : patchAll first operations = some next) :
    ∃ other, patchAll second operations = some other := by
  induction operations generalizing first second with
  | nil => exact ⟨second, rfl⟩
  | cons operation rest ih =>
      obtain ⟨middle, spoken, later⟩ := Option.bind_eq_some_iff.mp meant
      obtain ⟨index, own, sample, changed, rfl, present, performed, rfl⟩ := patch_eq_some spoken
      obtain ⟨other, found, related⟩ := forall₂_get congruent present
      obtain ⟨after, performedOther, still⟩ := related.perform performed
      obtain ⟨final, ended⟩ := ih (forall₂_set congruent still index) later
      refine ⟨final, ?_⟩
      simp only [patchAll, patch, found, performedOther, Option.bind_eq_bind, Option.bind_some,
        Option.pure_def]
      exact ended

/-- Receivers hear of the same ASDUs and see the same in them. -/
def HeardAlike (first second : List UInt8) : Prop :=
  ∀ (receiver : SVReceiver) (stale other : Memory),
    List.Forall₂ (fun call same => call.subscriber = same.subscriber ∧ call.SeenAlike same)
      (parseSVMessage receiver (Memory.ofOctets first stale) first.length).value.2
      (parseSVMessage receiver (Memory.ofOctets second other) second.length).value.2

/-- A frame without ASDUs fits. -/
theorem Configured.fits_of_nil {publisher : SVPublisher} {header : List UInt8}
    (configured : publisher.Configured header) (short : header.length ≤ 20)
    (empty : publisher.asduList = []) : publisher.setupComplete.value.Fits := by
  have start := configured.payloadStart
  have total : publisher.totalASDULength = 0 := by
    rw [totalASDULength, empty]
    rfl
  have front : (pduFront (UInt32.ofNat 0) 0).length = 7 := by decide
  rw [Fits, value_setupComplete]
  simp only [empty, total, ASDU.encodeAllToBuffer, Traced.value_pure, List.length_nil, front,
    svMaxMessageSize]
  omega

/-- What is set without a VLAN tag can be set with one. -/
theorem SetUp.meant_untagged {parameters : CommParameters} {srcAddr : Octets 6}
    {tagged untagged : SVPublisher} (setUp : SetUp parameters srcAddr true tagged)
    (plain : SetUp parameters srcAddr false untagged)
    (same : tagged.asduList = untagged.asduList) {patches : List Operation} {ended : List Sample}
    (meant : patchAll tagged.setupComplete.value.samples patches = some ended) :
    ∃ other, patchAll untagged.setupComplete.value.samples patches = some other := by
  have encodedAs := setUp.encodedAs
  rw [same] at encodedAs
  refine patchAll_congruent ?_ meant
  apply @forall₂_comp _ _ _ (fun sample asdu => ASDU.EncodedAs asdu sample) ASDU.EncodedAs _ _ _ _ _
    encodedAs.flip plain.encodedAs
  exact fun _ _ _ first second => ASDU.EncodedAs.congruent first second

/-- A frame that says nothing is not heard. -/
theorem Ready.received_nil {parameters : CommParameters} {srcAddr : Octets 6} {number : UInt32}
    {publisher : SVPublisher}
    (ready : publisher.Ready (frameHeader [0x88, 0xba] parameters srcAddr true) number [])
    (fits : publisher.Fits) {memory : Memory} (held : memory.Holds 0 publisher.publish)
    (receiver : SVReceiver) :
    (parseSVMessage receiver memory publisher.publish.length).value.2 = [] := by
  have received := ready.received fits held receiver
  cases taken : receiver.heard (memory.octets 0 6) parameters.appId with
  | none =>
      rw [taken] at received
      exact received
  | some index =>
      rw [taken] at received
      exact List.forall₂_nil_left_iff.mp received

/-- A receiver that takes every frame with an identifier. -/
def listeningReceiver (appId : UInt16) : SVReceiver :=
  ⟨false, [(SVSubscriber.create none appId).setListener]⟩

/-- A frame that such a receiver does not hear says nothing. -/
theorem Ready.eq_nil_of_unheard {parameters : CommParameters} {srcAddr : Octets 6}
    {number : UInt32} {publisher : SVPublisher} {samples : List Sample}
    (ready : publisher.Ready (frameHeader [0x88, 0xba] parameters srcAddr true) number samples)
    (fits : publisher.Fits) {memory : Memory} (held : memory.Holds 0 publisher.publish)
    (unheard : (parseSVMessage (listeningReceiver parameters.appId) memory
      publisher.publish.length).value.2 = []) : samples = [] := by
  have received := ready.received fits held (listeningReceiver parameters.appId)
  have taken : ∀ destination,
      (listeningReceiver parameters.appId).heard destination parameters.appId = some 0 := by
    intro destination
    simp [SVReceiver.heard, SVReceiver.due, listeningReceiver, SVSubscriber.create,
      SVSubscriber.setListener, SVReceiver.listens]
  rw [taken, unheard] at received
  exact List.forall₂_nil_right_iff.mp received

/-- Receivers hear the same with and without a VLAN tag, from frames that fit, if and only if
there is no ASDU. -/
theorem heardAlike_iff {parameters : CommParameters} {srcAddr : Octets 6} {found other : Memory}
    {configuration : List Operation} (others : .setupComplete ∉ configuration)
    {tagged untagged : SVPublisher}
    (run : (createEx parameters srcAddr true found).performAll configuration = some tagged)
    (runUntagged : (createEx parameters srcAddr false other).performAll configuration =
      some untagged)
    {patches : List Operation} {ended : List Sample}
    (meant : patchAll tagged.setupComplete.value.samples patches = some ended) :
    (tagged.setupComplete.value.Fits ∧ untagged.setupComplete.value.Fits ∧
      ∀ after afterUntagged, tagged.setupComplete.value.performAll patches = some after →
        untagged.setupComplete.value.performAll patches = some afterUntagged →
          HeardAlike after.publish afterUntagged.publish) ↔ tagged.asduList = [] := by
  have same : tagged.asduList = untagged.asduList :=
    @asduList_performAll (createEx parameters srcAddr true found)
      (createEx parameters srcAddr false other) _ _ rfl _ others run runUntagged
  constructor
  · rintro ⟨fits, fitsUntagged, alike⟩
    have setUp : SetUp parameters srcAddr true tagged := ⟨⟨found, configuration, others, run⟩, fits⟩
    have plain : SetUp parameters srcAddr false untagged :=
      ⟨⟨other, configuration, others, runUntagged⟩, fitsUntagged⟩
    obtain ⟨endedUntagged, meantUntagged⟩ := setUp.meant_untagged plain same meant
    obtain ⟨after, performed, ready, fits⟩ := setUp.performAll meant
    obtain ⟨afterUntagged, performedUntagged, readyUntagged, fitsUntagged⟩ :=
      plain.performAll meantUntagged
    have heard := alike after afterUntagged performed performedUntagged
      (listeningReceiver parameters.appId) (fun _ => 0) (fun _ => 0)
    rw [readyUntagged.passed fitsUntagged (Memory.holds_ofOctets _ _),
      List.forall₂_nil_right_iff] at heard
    have nothing := ready.eq_nil_of_unheard fits (Memory.holds_ofOctets _ _) heard
    have count := setUp.length_eq meant
    rw [nothing] at count
    exact List.length_eq_zero_iff.mp count
  · intro empty
    have fits := ((configured_createEx parameters srcAddr true found).performAll others
      run).fits_of_nil (by simp [frameHeader, vlanTag, parameters.dstAddress.property,
        srcAddr.property]) empty
    have fitsUntagged := ((configured_createEx parameters srcAddr false other).performAll others
      runUntagged).fits_of_nil (by simp [frameHeader, parameters.dstAddress.property,
        srcAddr.property]) (same ▸ empty)
    have setUp : SetUp parameters srcAddr true tagged := ⟨⟨found, configuration, others, run⟩, fits⟩
    have plain : SetUp parameters srcAddr false untagged :=
      ⟨⟨other, configuration, others, runUntagged⟩, fitsUntagged⟩
    obtain ⟨endedUntagged, meantUntagged⟩ := setUp.meant_untagged plain same meant
    refine ⟨fits, fitsUntagged, ?_⟩
    intro after afterUntagged performed performedUntagged receiver stale staleUntagged
    obtain ⟨ready, fits⟩ := setUp.reached meant performed
    obtain ⟨readyUntagged, fitsUntagged⟩ := plain.reached meantUntagged performedUntagged
    have count := setUp.length_eq meant
    rw [empty, List.length_nil, eq_comm, List.length_eq_zero_iff] at count
    subst count
    have silent := ready.received_nil fits (Memory.holds_ofOctets _ stale) receiver
    rw [silent, readyUntagged.passed fitsUntagged (Memory.holds_ofOctets _ _)]
    exact .nil

end SVPublisher

/-- A VLAN tag makes no difference to receivers if and only if, with GOOSE, the message is too
long to be sent with a tag, and, with sampled values, there is no ASDU. -/
theorem tagging_transparent_iff {parameters : CommParameters} {srcAddr : Octets 6}
    {found other : Memory} :
    (∀ {created : UInt64} {operations : List GoosePublisher.Operation}
      {tagged untagged : GoosePublisher},
      (GoosePublisher.createEx parameters srcAddr true created found).performAll operations =
        some tagged →
      (GoosePublisher.createEx parameters srcAddr false created other).performAll operations =
        some untagged →
      ∀ {values : Components} {first second : Publication},
        tagged.publish values = some first → untagged.publish values = some second →
          (GoosePublisher.ReceivedAlike first second ↔
            ∃ size, tagged.payloadSize values = some size ∧ 1492 < size)) ∧
    (∀ {configuration : List SVPublisher.Operation} {tagged untagged : SVPublisher},
      .setupComplete ∉ configuration →
      (SVPublisher.createEx parameters srcAddr true found).performAll configuration =
        some tagged →
      (SVPublisher.createEx parameters srcAddr false other).performAll configuration =
        some untagged →
      ∀ {patches : List SVPublisher.Operation} {ended : List SVPublisher.Sample},
        SVPublisher.patchAll tagged.setupComplete.value.samples patches = some ended →
        ((tagged.setupComplete.value.Fits ∧ untagged.setupComplete.value.Fits ∧
          ∀ after afterUntagged, tagged.setupComplete.value.performAll patches = some after →
            untagged.setupComplete.value.performAll patches = some afterUntagged →
              SVPublisher.HeardAlike after.publish afterUntagged.publish) ↔
          tagged.asduList = [])) :=
  ⟨fun run runUntagged _ _ _ published publishedUntagged =>
      GoosePublisher.receivedAlike_iff run runUntagged published publishedUntagged,
    fun others run runUntagged _ _ meant =>
      SVPublisher.heardAlike_iff others run runUntagged meant⟩

/-- A publisher with one ASDU that uses no VLAN tag. -/
def plainUntagged : SVPublisher :=
  (SVPublisher.createEx .svDefault Octets.zero false fun _ => 0).addASDU ⟨[0x41], zero_notMem_a⟩
    none 1

theorem tagging_transparent_iff_plain :
    (∃ first second : Publication,
      referredPublisher.publish [] = some first ∧
      ({ GoosePublisher.createEx .default Octets.zero false 0 fun _ => 0 with
          goCBRef := some ⟨[0x41], by decide⟩
          dataSetRef := some ⟨[0x42], by decide⟩ } : GoosePublisher).publish [] = some second ∧
      (GoosePublisher.ReceivedAlike first second ↔
        ∃ size, referredPublisher.payloadSize [] = some size ∧ 1492 < size)) ∧
    ((SVPublisher.plainPublisher.setupComplete.value.Fits ∧ plainUntagged.setupComplete.value.Fits ∧
      ∀ after afterUntagged,
        SVPublisher.plainPublisher.setupComplete.value.performAll [] = some after →
          plainUntagged.setupComplete.value.performAll [] = some afterUntagged →
            SVPublisher.HeardAlike after.publish afterUntagged.publish) ↔
      SVPublisher.plainPublisher.asduList = []) := by
  have returned : (referredPublisher.publish []).isSome = true ∧
      (({ GoosePublisher.createEx .default Octets.zero false 0 fun _ => 0 with
          goCBRef := some ⟨[0x41], by decide⟩
          dataSetRef := some ⟨[0x42], by decide⟩ } : GoosePublisher).publish []).isSome = true := by
    decide +kernel
  obtain ⟨first, published⟩ := Option.isSome_iff_exists.mp returned.1
  obtain ⟨second, publishedUntagged⟩ := Option.isSome_iff_exists.mp returned.2
  refine ⟨⟨first, second, published, publishedUntagged, ?_⟩, ?_⟩
  · exact tagging_transparent_iff.1 run_referredPublisher
      (show (GoosePublisher.createEx .default Octets.zero false 0 fun _ => 0).performAll
        [.setGoCbRef ⟨[0x41], by decide⟩, .setDataSetRef ⟨[0x42], by decide⟩] = some _ from rfl)
      published publishedUntagged
  · exact (@tagging_transparent_iff .svDefault Octets.zero (fun _ => 0) fun _ => 0).2
      (show .setupComplete ∉ [SVPublisher.Operation.addASDU ⟨[0x41], by decide⟩ none 1] by decide)
      (show _ = some SVPublisher.plainPublisher from rfl) (show _ = some plainUntagged from rfl)
      (show SVPublisher.patchAll SVPublisher.plainPublisher.setupComplete.value.samples [] = some _
        from rfl)

/-- The ASDU of a frame without a VLAN tag is not heard of. -/
theorem untagged_unheard :
    let tagged := SVPublisher.plainPublisher.setupComplete.value.publish
    let untagged := plainUntagged.setupComplete.value.publish
    (parseSVMessage SVPublisher.plainReceiver (Memory.ofOctets tagged fun _ => 0)
        tagged.length).value.2.length = 1 ∧
      (parseSVMessage SVPublisher.plainReceiver (Memory.ofOctets untagged fun _ => 0)
        untagged.length).value.2.length = 0 := by
  decide +kernel

end GridGooseSV
