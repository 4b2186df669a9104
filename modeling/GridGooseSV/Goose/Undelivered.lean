import GridGooseSV.Goose.Header

/-!
# Frames that are not delivered

The numbers and flags of a frame reach a subscriber on delivery. The strings are
written while the frame is parsed, and the addresses are written into an observer
before that.
-/

namespace GridGooseSV

/-- What a frame writes into a subscriber before it is delivered is what its getters
answered already. -/
structure GooseSubscriber.Knows (subscriber : GooseSubscriber) (memory : Memory)
    (subscribers : List GooseSubscriber) (index : Nat) : Prop where
  datSet : ∀ field ∈ handed memory subscribers .datSet index (frameElements memory).elements none,
    field.get = subscriber.getDataSet
  goId : ∀ field ∈ handed memory subscribers .goId index (frameElements memory).elements none,
    field.get = subscriber.getGoId
  gocbRef : subscriber.isObserver →
    ∀ field ∈ handed memory subscribers .gocbRef index (frameElements memory).elements none,
      field.get = subscriber.getGoCbRef
  addresses : subscriber.isObserver → interested memory subscribers = some index →
    subscriber.getAppId = (frameAppId memory).toNat ∧ subscriber.getSrcMac = frameSrcMac memory ∧
      subscriber.getDstMac = frameDstMac memory

/-- A string that is handed over, or else kept, is the one that was there. -/
theorem get_getD_eq_iff {given : Option StringField} {field : StringField} :
    (given.getD field).get = field.get ↔ ∀ other ∈ given, other.get = field.get := by
  cases given with
  | none => simp
  | some other => simp

section Undelivered

variable {memory : Memory} {numbytes : Nat} {subscribers : List GooseSubscriber} {index : Nat}

/-- What is seen of a frame that is only parsed. -/
theorem view_parsed (goose : IsGooseFrame memory numbytes) (self : GooseSubscriber) :
    let handed := fun tag =>
      handed memory subscribers tag index (frameElements memory).elements none
    let addressed := self.isObserver ∧ interested memory subscribers = some index
    (parsed memory numbytes subscribers index self).view = { self.view with
      header := { self.headerView with
        dataSet := ((handed .datSet).getD self.datSet).get
        goId := ((handed .goId).getD self.goId).get
        goCbRef := StringField.get
          (if self.isObserver then (handed .gocbRef).getD self.goCBRef else self.goCBRef) }
      appId := if addressed then (frameAppId memory).toNat else self.getAppId
      srcMac := if addressed then frameSrcMac memory else self.getSrcMac
      dstMac := if addressed then frameDstMac memory else self.getDstMac } := by
  rw [parsed, if_pos goose]
  unfold readBy GooseSubscriber.withAddresses
  by_cases here : interested memory subscribers = some index <;>
    by_cases observer : self.isObserver <;>
      simp only [here, observer, ↓reduceIte, Bool.false_eq_true, and_self, and_true, and_false,
        GooseSubscriber.withStrings] <;>
      rfl

/-- A frame that is only parsed is noticed exactly by what it writes on the way. -/
theorem view_parsed_iff (self : GooseSubscriber) :
    (parsed memory numbytes subscribers index self).view = self.view ↔
      (IsGooseFrame memory numbytes → self.Knows memory subscribers index) := by
  by_cases goose : IsGooseFrame memory numbytes
  · simp only [goose, true_imp_iff]
    rw [view_parsed goose]
    constructor
    · intro same
      have header := congrArg SubscriberView.header same
      refine ⟨get_getD_eq_iff.mp (congrArg HeaderView.dataSet header),
        get_getD_eq_iff.mp (congrArg HeaderView.goId header), fun observer => ?_,
        fun observer here => ⟨?_, ?_, ?_⟩⟩
      · have reference := congrArg HeaderView.goCbRef header
        simp only [observer, ↓reduceIte] at reference
        exact get_getD_eq_iff.mp reference
      · have appId := congrArg SubscriberView.appId same
        simp only [observer, here, and_self, ↓reduceIte] at appId
        exact appId.symm
      · have srcMac := congrArg SubscriberView.srcMac same
        simp only [observer, here, and_self, ↓reduceIte] at srcMac
        exact srcMac.symm
      · have dstMac := congrArg SubscriberView.dstMac same
        simp only [observer, here, and_self, ↓reduceIte] at dstMac
        exact dstMac.symm
    · intro known
      have reference : StringField.get (if self.isObserver then
          (handed memory subscribers .gocbRef index (frameElements memory).elements none).getD
            self.goCBRef else self.goCBRef) = self.getGoCbRef := by
        split
        · exact get_getD_eq_iff.mpr (known.gocbRef ‹_›)
        · rfl
      have addresses := fun addressed : self.isObserver ∧ interested memory subscribers =
        some index => known.addresses addressed.1 addressed.2
      simp only
      rw [get_getD_eq_iff.mpr known.datSet, get_getD_eq_iff.mpr known.goId, reference,
        ite_eq_right_iff.mpr fun addressed => (addresses addressed).1.symm,
        ite_eq_right_iff.mpr fun addressed => (addresses addressed).2.1.symm,
        ite_eq_right_iff.mpr fun addressed => (addresses addressed).2.2.symm]
      rfl
  · simp [parsed, goose]

/-- A frame that is not delivered to a subscriber leaves no trace there exactly if
the subscriber knows what is written on the way. -/
theorem view_undelivered_iff {self : GooseSubscriber} (found : subscribers[index]? = some self)
    {now : UInt64}
    (undelivered : (parseGooseMessage subscribers memory numbytes now).value.delivered ≠
      some index) :
    (afterFrame subscribers memory numbytes now index).map GooseSubscriber.view =
        some self.view ↔
      (IsGooseFrame memory numbytes → self.Knows memory subscribers index) := by
  obtain ⟨delivered, state, _⟩ := received_parseGooseMessage subscribers memory numbytes now
  rw [delivered] at undelivered
  rw [afterFrame, state, found, Option.map_some, if_neg undelivered, Option.map_some,
    Option.some.injEq, view_parsed_iff]

end Undelivered

/-- A frame with the reference `A`, the data set reference `D` and an element that is
longer than the frame. -/
def truncatedFrame : List UInt8 :=
  receivedFrame Octets.zero 0x1000 18 [0x61, 0x08, 0x80, 0x01, 0x41, 0x82, 0x01, 0x44, 0x85, 0x7f]

theorem view_undelivered_of_other :
    let self := GooseSubscriber.create ⟨[0x42], by decide⟩ none
    let memory := Memory.ofOctets truncatedFrame (fun _ => 0)
    (afterFrame [self] memory 22 0 0).map GooseSubscriber.view = some self.view ↔
      (IsGooseFrame memory 22 → self.Knows memory [self] 0) :=
  @view_undelivered_iff _ _ _ _ _ rfl 0 (by decide +kernel)

/-- The data set reference of a malformed frame is kept. -/
theorem view_undelivered_changed :
    ¬ ∀ (subscribers : List GooseSubscriber) (index : Nat) (self : GooseSubscriber)
      (memory : Memory) (numbytes : Nat) (now : UInt64), subscribers[index]? = some self →
      (parseGooseMessage subscribers memory numbytes now).value.delivered ≠ some index →
      (afterFrame subscribers memory numbytes now index).map GooseSubscriber.view =
        some self.view := by
  intro traceless
  let self := GooseSubscriber.create ⟨[0x41], by decide⟩ none
  let memory := Memory.ofOctets truncatedFrame (fun _ => 0)
  have same := traceless [self] 0 self memory 22 0 rfl (by decide +kernel)
  have dataSet := congrArg (Option.map (·.header.dataSet)) same
  rw [Option.map_map] at dataSet
  have different : (afterFrame [self] memory 22 0 0).map (fun subscriber =>
      subscriber.view.header.dataSet) ≠ some self.view.header.dataSet := by
    decide +kernel
  exact different dataSet

end GridGooseSV
