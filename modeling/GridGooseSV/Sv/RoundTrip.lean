import GridGooseSV.Sv.Publishing

/-!
# From the setters to the getters

The setters patch a frame and the getters read it. What was set comes back, but for the
values that the two sides do not represent alike.
-/

namespace GridGooseSV.SVPublisher

/-- What was set is what the listener sees: it is called once for every ASDU, in the order of the
ASDUs. -/
theorem received_as_set {parameters : CommParameters} {srcAddr : Octets 6}
    {publisher : SVPublisher} (setUp : SetUp parameters srcAddr true publisher)
    {patches : List Operation} {ended : List Sample}
    (meant : patchAll publisher.setupComplete.value.samples patches = some ended)
    {receiver : SVReceiver} (unchecked : receiver.checkDestAddr = false) {index : Nat}
    (subscribed : receiver.heard parameters.dstAddress.val parameters.appId = some index) :
    List.Forall₂ ASDU.EncodedAs publisher.asduList publisher.setupComplete.value.samples ∧
      ∃ after, publisher.setupComplete.value.performAll patches = some after ∧
        ∀ {memory : Memory}, memory.Holds 0 after.publish →
          List.Forall₂ (fun sample call => call.subscriber = index ∧ call.Shows sample) ended
            (parseSVMessage receiver memory after.publish.length).value.2 := by
  refine ⟨setUp.encodedAs, ?_⟩
  obtain ⟨after, performed, ready, fits⟩ := setUp.performAll meant
  refine ⟨after, performed, fun {memory} held => ?_⟩
  have received := ready.received fits held receiver
  rw [SVReceiver.heard_unchecked unchecked _ parameters.dstAddress.val, subscribed] at received
  refine received.imp fun sample call carried => ?_
  exact ⟨carried.1, carried.2.shows⟩

/-- A publisher with one ASDU that is configured with nothing but its name. -/
def plainPublisher : SVPublisher :=
  (create .svDefault Octets.zero fun _ => 0).addASDU ⟨[0x41], zero_notMem_a⟩ none 1

/-- A receiver with one subscriber, which listens. -/
def plainReceiver : SVReceiver :=
  SVReceiver.create.addSubscriber (SVSubscriber.create none 0x4000).setListener

theorem setUp_plainPublisher : SetUp .svDefault Octets.zero true plainPublisher where
  created := ⟨fun _ => 0, [.addASDU ⟨[0x41], by decide⟩ none 1], by decide, rfl⟩
  fits := by
    unfold Fits
    decide +kernel

/-- A counter that was set and increased comes back. -/
theorem received_as_set_plain :
    ∃ ended, patchAll plainPublisher.setupComplete.value.samples
        [.onASDU 0 (.setSmpCnt 7), .onASDU 0 .increaseSmpCnt] = some ended ∧
      ∃ after, plainPublisher.setupComplete.value.performAll
          [.onASDU 0 (.setSmpCnt 7), .onASDU 0 .increaseSmpCnt] = some after ∧
        List.Forall₂ (fun sample call => call.subscriber = 0 ∧ call.Shows sample) ended
          (parseSVMessage plainReceiver (Memory.ofOctets after.publish fun _ => 0)
            after.publish.length).value.2 := by
  have meant : patchAll plainPublisher.setupComplete.value.samples
      [.onASDU 0 (.setSmpCnt 7), .onASDU 0 .increaseSmpCnt] =
        some [⟨⟨[0x41], by decide⟩, none, 8, 65535, 1, none, 0, none, [], none⟩] := by
    decide +kernel
  refine ⟨_, meant, ?_⟩
  obtain ⟨_, after, performed, received⟩ := @received_as_set _ _ _ setUp_plainPublisher _ _ meant
    plainReceiver rfl 0 (by decide)
  exact ⟨after, performed, received (Memory.holds_ofOctets _ _)⟩

/-- Only the low octet of the synchronisation is sent. -/
theorem smpSynch_narrowed :
    (plainPublisher.setupComplete.value.perform (.onASDU 0 (.setSmpSynch 256))).map
        (fun after => (parseSVMessage plainReceiver (Memory.ofOctets after.publish fun _ => 0)
          after.publish.length).value.2.map SVCall.smpSynch) = some [some 0] ∧
      (256 : UInt16).toNat ≠ (0 : UInt8).toNat := by
  decide +kernel

/-! ## Sampling attributes -/

/-- What a call does not change of a sample. -/
theorem Sample.perform_fixed {sample changed : Sample} {operation : ASDU.Operation}
    (meant : sample.perform operation = some changed) :
    changed.smpRate = sample.smpRate ∧ changed.smpMod = sample.smpMod ∧
      changed.refrTm.isSome = sample.refrTm.isSome := by
  cases operation with
  | increaseSmpCnt =>
      obtain ⟨_, rfl⟩ := Sample.perform_increaseSmpCnt meant
      exact ⟨rfl, rfl, rfl⟩
  | setData index value =>
      obtain ⟨_, rfl⟩ := Sample.perform_setData meant
      exact ⟨rfl, rfl, rfl⟩
  | _ =>
      rw [← Option.some.inj meant]
      exact ⟨rfl, rfl, by simp⟩

/-- What calls on an ASDU keep of its sample is kept in a run. -/
theorem patchAll_forall₂ {α : Type} {relation : α → Sample → Prop}
    (kept : ∀ item sample changed operation, sample.perform operation = some changed →
      relation item sample → relation item changed)
    {items : List α} {samples changed : List Sample} (holds : List.Forall₂ relation items samples)
    {operations : List Operation} (meant : patchAll samples operations = some changed) :
    List.Forall₂ relation items changed := by
  induction operations generalizing samples with
  | nil => exact Option.some.inj meant ▸ holds
  | cons operation rest ih =>
      obtain ⟨next, spoken, others⟩ := Option.bind_eq_some_iff.mp meant
      refine ih ?_ others
      obtain ⟨index, own, sample, patched, rfl, present, performed, rfl⟩ := patch_eq_some spoken
      exact forall₂_set_right holds present fun item => kept item sample patched own performed

/-- A listener sees the sampling attributes of an ASDU. -/
structure ASDU.SampledAs (asdu : ASDU) (call : SVCall) : Prop where
  hasSmpRate : call.asdu.hasSmpRate = asdu.hasSmpRate
  hasSmpMod : call.asdu.hasSmpMod = asdu.hasSmpMod
  smpRate : asdu.hasSmpRate = true → call.smpRate = some asdu.smpRate
  smpMod : asdu.hasSmpMod = true → call.smpMod = some asdu.smpMod

/-- The attributes of a sample are those of its ASDU. -/
structure ASDU.Attributed (asdu : ASDU) (sample : Sample) : Prop where
  smpRate : sample.smpRate = if asdu.hasSmpRate then some asdu.smpRate else none
  smpMod : sample.smpMod = if asdu.hasSmpMod then some asdu.smpMod else none

theorem ASDU.EncodedAs.attributed {asdu : ASDU} {sample : Sample}
    (encodedAs : asdu.EncodedAs sample) : asdu.Attributed sample := by
  obtain ⟨refrTm, data, _, rfl⟩ := encodedAs
  exact ⟨rfl, rfl⟩

/-- A listener sees the attributes of an ASDU if its mode is not sent or zero. -/
theorem ASDU.Attributed.seen_iff {asdu : ASDU} {sample : Sample}
    (attributed : asdu.Attributed sample) {call : SVCall} (carries : call.Carries sample.items) :
    asdu.SampledAs call ↔ (asdu.hasSmpMod = true → asdu.smpMod = 0) := by
  have shows := carries.shows
  have mode := carries.smpMod
  obtain ⟨smpRate, smpMod⟩ := attributed
  constructor
  · intro sampled has
    have seen := sampled.smpMod has
    rw [mode, smpMod, if_pos has, Option.map_some, Option.some.injEq] at seen
    exact seen.symm
  · intro zero
    refine ⟨?_, ?_, fun has => ?_, fun has => ?_⟩
    · rw [shows.hasSmpRate, smpRate]
      cases asdu.hasSmpRate <;> rfl
    · rw [shows.hasSmpMod, smpMod]
      cases asdu.hasSmpMod <;> rfl
    · rw [shows.smpRate, smpRate, if_pos has]
    · rw [mode, smpMod, if_pos has, Option.map_some, zero has]

/-- The sampling attributes of all ASDUs are seen if and only if every mode that was set is
zero. -/
theorem sampledAs_iff {parameters : CommParameters} {srcAddr : Octets 6}
    {publisher : SVPublisher} (setUp : SetUp parameters srcAddr true publisher)
    {patches : List Operation} {ended : List Sample}
    (meant : patchAll publisher.setupComplete.value.samples patches = some ended) :
    ∃ after, publisher.setupComplete.value.performAll patches = some after ∧
      ∀ {memory : Memory}, memory.Holds 0 after.publish → ∀ {receiver : SVReceiver} {index : Nat},
        receiver.heard (memory.octets 0 6) parameters.appId = some index →
          (List.Forall₂ ASDU.SampledAs publisher.asduList
              (parseSVMessage receiver memory after.publish.length).value.2 ↔
            ∀ asdu ∈ publisher.asduList, asdu.hasSmpMod = true → asdu.smpMod = 0) := by
  obtain ⟨after, performed, ready, fits⟩ := setUp.performAll meant
  refine ⟨after, performed, fun {memory} held {receiver index} subscribed => ?_⟩
  have received := ready.received fits held receiver
  rw [subscribed] at received
  have attributed : List.Forall₂ ASDU.Attributed publisher.asduList ended := by
    apply patchAll_forall₂ _ (setUp.encodedAs.imp fun _ _ encodedAs => encodedAs.attributed) meant
    rintro asdu sample changed operation spoken ⟨smpRate, smpMod⟩
    obtain ⟨rate, mode, _⟩ := Sample.perform_fixed spoken
    exact ⟨rate.trans smpRate, mode.trans smpMod⟩
  apply forall₂_iff_forall_mem
  apply forall₂_comp _ attributed received
  rintro asdu sample call attributed ⟨_, carries⟩
  exact attributed.seen_iff carries

/-- A publisher whose ASDU has a rate and a mode. -/
def modePublisher : SVPublisher :=
  let asdu := ((ASDU.new ⟨[0x41], zero_notMem_a⟩ none 1).setSmpRate 4000).setSmpMod 1
  { create .svDefault Octets.zero fun _ => 0 with asduList := [asdu] }

theorem setUp_modePublisher : SetUp .svDefault Octets.zero true modePublisher where
  created := ⟨fun _ => 0, [.addASDU ⟨[0x41], by decide⟩ none 1, .onASDU 0 (.setSmpRate 4000),
    .onASDU 0 (.setSmpMod 1)], by decide, rfl⟩
  fits := by
    unfold Fits
    decide +kernel

theorem sampledAs_iff_mode :
    ∃ after, modePublisher.setupComplete.value.performAll [] = some after ∧
      (List.Forall₂ ASDU.SampledAs modePublisher.asduList
          (parseSVMessage plainReceiver (Memory.ofOctets after.publish fun _ => 0)
            after.publish.length).value.2 ↔
        ∀ asdu ∈ modePublisher.asduList, asdu.hasSmpMod = true → asdu.smpMod = 0) := by
  obtain ⟨after, performed, seen⟩ := sampledAs_iff setUp_modePublisher
    (show patchAll modePublisher.setupComplete.value.samples [] = some _ from rfl)
  exact ⟨after, performed, @seen _ (Memory.holds_ofOctets _ _) plainReceiver 0
    (SVReceiver.heard_unchecked rfl _ [] _)⟩

/-- The mode that was set to 1 is seen as 0. -/
theorem smpMod_unseen :
    modePublisher.asduList.map (fun asdu => (asdu.hasSmpMod, asdu.smpMod)) = [(true, 1)] ∧
      let packet := modePublisher.setupComplete.value.publish
      (parseSVMessage plainReceiver (Memory.ofOctets packet fun _ => 0)
        packet.length).value.2.map (fun call => (call.asdu.hasSmpMod, call.smpMod)) =
          [(true, some 0)] := by
  decide +kernel

/-! ## Milliseconds -/

/-- A call sets the time of an ASDU. -/
def ASDU.Operation.setsRefrTm : ASDU.Operation → Bool
  | .setRefrTmNs _ => true
  | .setRefrTm _ => true
  | .setRefrTmByTimestamp _ => true
  | _ => false

/-- A call sets the time of the ASDU with an index. -/
def Operation.setsRefrTm (index : Nat) : Operation → Bool
  | .onASDU place operation => decide (place = index) && operation.setsRefrTm
  | _ => false

/-- Other calls keep the time. -/
theorem Sample.perform_refrTm {sample changed : Sample} {operation : ASDU.Operation}
    (other : operation.setsRefrTm = false) (meant : sample.perform operation = some changed) :
    changed.refrTm = sample.refrTm := by
  cases operation with
  | increaseSmpCnt =>
      obtain ⟨_, rfl⟩ := Sample.perform_increaseSmpCnt meant
      rfl
  | setData index value =>
      obtain ⟨_, rfl⟩ := Sample.perform_setData meant
      rfl
  | setRefrTmNs refrTmNs => contradiction
  | setRefrTm refrTm => contradiction
  | setRefrTmByTimestamp refrTm => contradiction
  | _ => rw [← Option.some.inj meant]

theorem patch_refrTm {samples changed : List Sample} {operation : Operation} {index : Nat}
    (other : operation.setsRefrTm index = false) (meant : patch samples operation = some changed) :
    (changed[index]?).map Sample.refrTm = (samples[index]?).map Sample.refrTm := by
  obtain ⟨place, own, sample, patched, rfl, present, performed, rfl⟩ := patch_eq_some meant
  by_cases here : place = index
  · subst here
    simp only [Operation.setsRefrTm, decide_true, Bool.true_and] at other
    rw [List.getElem?_set_self', present]
    exact congrArg some (Sample.perform_refrTm other performed)
  · rw [List.getElem?_set_ne here]

theorem patchAll_refrTm {samples changed : List Sample} {operations : List Operation}
    {index : Nat} (others : ∀ operation ∈ operations, operation.setsRefrTm index = false)
    (meant : patchAll samples operations = some changed) :
    (changed[index]?).map Sample.refrTm = (samples[index]?).map Sample.refrTm := by
  induction operations generalizing samples with
  | nil => rw [← Option.some.inj meant]
  | cons operation rest ih =>
      obtain ⟨next, spoken, later⟩ := Option.bind_eq_some_iff.mp meant
      obtain ⟨other, others⟩ := List.forall_mem_cons.mp others
      exact (ih others later).trans (patch_refrTm other spoken)

theorem patchAll_append (samples : List Sample) (first second : List Operation) :
    patchAll samples (first ++ second) =
      (patchAll samples first).bind fun middle => patchAll middle second := by
  induction first generalizing samples with
  | nil => rfl
  | cons operation rest ih =>
      rw [List.cons_append, patchAll, patchAll]
      simp only [Option.bind_eq_bind, ih, Option.bind_assoc]

/-- A time that was set last is in the frame. -/
theorem refrTm_of_set {asdus : List ASDU} {samples ended : List Sample}
    (encodedAs : List.Forall₂ ASDU.EncodedAs asdus samples) {index : Nat} {asdu : ASDU}
    (there : asdus[index]? = some asdu) (enabled : asdu.hasRefrTm = true)
    {earlier later : List Operation} {refrTm : UInt64}
    (others : ∀ operation ∈ later, operation.setsRefrTm index = false)
    (meant : patchAll samples (earlier ++ .onASDU index (.setRefrTm refrTm) :: later) =
      some ended) :
    ∃ sample timestamp : _, ended[index]? = some sample ∧ sample.refrTm =
      some ((Timestamp.setTimeInMilliseconds timestamp refrTm).setSubsecondPrecision 10) := by
  rw [patchAll_append] at meant
  obtain ⟨middle, first, meant⟩ := Option.bind_eq_some_iff.mp meant
  obtain ⟨next, set, last⟩ := Option.bind_eq_some_iff.mp meant
  have timed : List.Forall₂ (fun asdu sample => asdu.hasRefrTm = sample.refrTm.isSome) asdus
      middle := by
    apply patchAll_forall₂ _ (encodedAs.imp _) first
    · intro asdu sample changed operation spoken has
      rw [has, (Sample.perform_fixed spoken).2.2]
    · rintro asdu _ ⟨refrTm, data, _, rfl⟩
      rw [ASDU.sample]
      cases asdu.hasRefrTm <;> rfl
  obtain ⟨before, present, has⟩ := forall₂_get timed there
  rw [enabled, eq_comm, Option.isSome_iff_exists] at has
  obtain ⟨timestamp, stood⟩ := has
  have kept := patchAll_refrTm others last
  obtain ⟨_, _, _, changed, same, found, spoken, rfl⟩ := patch_eq_some set
  obtain ⟨rfl, rfl⟩ := Operation.onASDU.inj same
  obtain rfl := Option.some.inj (found.symm.trans present)
  obtain rfl := Option.some.inj spoken
  obtain ⟨bound, _⟩ := List.getElem?_eq_some_iff.mp present
  rw [List.getElem?_set_self bound, Option.map_some, stood] at kept
  obtain ⟨sample, found, same⟩ := Option.map_eq_some_iff.mp kept
  exact ⟨sample, timestamp, found, same⟩

/-- A time in milliseconds that was set last comes back if and only if 125 divides it. -/
theorem refrTmAsMs_iff {parameters : CommParameters} {srcAddr : Octets 6}
    {publisher : SVPublisher} (setUp : SetUp parameters srcAddr true publisher) {index : Nat}
    {asdu : ASDU} (there : publisher.asduList[index]? = some asdu)
    (enabled : asdu.hasRefrTm = true) {refrTm : UInt64} (small : refrTm.toNat / 1000 < 2 ^ 32)
    {earlier later : List Operation}
    (others : ∀ operation ∈ later, operation.setsRefrTm index = false) {ended : List Sample}
    (meant : patchAll publisher.setupComplete.value.samples
      (earlier ++ .onASDU index (.setRefrTm refrTm) :: later) = some ended) :
    ∃ after, publisher.setupComplete.value.performAll
        (earlier ++ .onASDU index (.setRefrTm refrTm) :: later) = some after ∧
      ∀ {memory : Memory}, memory.Holds 0 after.publish →
        ∀ {receiver : SVReceiver} {subscriber : Nat},
          receiver.heard (memory.octets 0 6) parameters.appId = some subscriber →
            ∃ call,
              (parseSVMessage receiver memory after.publish.length).value.2[index]? = some call ∧
                (call.refrTmAsMs = refrTm ↔ 125 ∣ refrTm.toNat) := by
  obtain ⟨after, performed, ready, fits⟩ := setUp.performAll meant
  refine ⟨after, performed, fun {memory} held {receiver subscriber} subscribed => ?_⟩
  have received := ready.received fits held receiver
  rw [subscribed] at received
  obtain ⟨sample, timestamp, present, set⟩ :=
    refrTm_of_set setUp.encodedAs there enabled others meant
  obtain ⟨call, called, _, carries⟩ := forall₂_get received present
  refine ⟨call, called, ?_⟩
  rw [SVCall.refrTmAsMs_eq, carries.refrTmAsNs, set, Option.map_some, Option.getD_some,
    getTimeInNs_setSubsecondPrecision]
  exact setTimeInMilliseconds_iff timestamp small

/-- A publisher whose ASDU has a time. -/
def timedPublisher : SVPublisher :=
  let asdu := (ASDU.new ⟨[0x41], zero_notMem_a⟩ none 1).enableRefrTm
  { create .svDefault Octets.zero fun _ => 0 with asduList := [asdu] }

theorem setUp_timedPublisher : SetUp .svDefault Octets.zero true timedPublisher where
  created := ⟨fun _ => 0, [.addASDU ⟨[0x41], by decide⟩ none 1, .onASDU 0 .enableRefrTm],
    by decide, rfl⟩
  fits := by
    unfold Fits
    decide +kernel

theorem refrTmAsMs_iff_timed :
    ∃ after, timedPublisher.setupComplete.value.performAll [.onASDU 0 (.setRefrTm 1001)] =
        some after ∧
      ∃ call, (parseSVMessage plainReceiver (Memory.ofOctets after.publish fun _ => 0)
          after.publish.length).value.2[0]? = some call ∧
        (call.refrTmAsMs = 1001 ↔ 125 ∣ (1001 : UInt64).toNat) := by
  have meant : patchAll timedPublisher.setupComplete.value.samples
      ([] ++ .onASDU 0 (.setRefrTm 1001) :: []) = some _ := rfl
  obtain ⟨after, performed, seen⟩ := @refrTmAsMs_iff _ _ _ setUp_timedPublisher 0 _ rfl rfl 1001
    (by decide) [] [] (by simp) _ meant
  exact ⟨after, performed, @seen _ (Memory.holds_ofOctets _ _) plainReceiver 0
    (SVReceiver.heard_unchecked rfl _ [] _)⟩

/-- One second and one millisecond are seen as one second. -/
theorem refrTmAsMs_early :
    (timedPublisher.setupComplete.value.perform (.onASDU 0 (.setRefrTm 1001))).map (fun after =>
      (parseSVMessage plainReceiver (Memory.ofOctets after.publish fun _ => 0)
        after.publish.length).value.2.map SVCall.refrTmAsMs) = some [1000] := by
  decide +kernel

end GridGooseSV.SVPublisher
