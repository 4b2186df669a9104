import GridGooseSV.Ber.Framing
import GridGooseSV.Sv.Frame

/-!
# What the SV receiver reads and writes

The receiver reads the tags and lengths of the elements that it goes over, and writes the
terminators of the strings of each ASDU. Where all of this lies is decided by the octets of the
message alone: neither the claimed length nor a length inside the APDU is compared with the number
of octets that were received.
-/

namespace GridGooseSV

open BerDecoder BerEncoder

section Places

variable (memory : Memory) (limit : Nat)

/-- The elements of an ASDU are delimited below the limit, and its strings are terminated
there. -/
structure ASDUBelow (asdu : Element) : Prop where
  framing : (Walk.delimiting fun _ => true).Below memory asdu.address asdu.length asdu.length limit
    () 0 (asduParts memory asdu)
  terminators : (contentScan memory asdu.address asdu.length).complete = true →
    ∀ position, ParsedASDU.IsTerminator (asduParts memory asdu) position → position < limit

/-- How a sequence is gone over: ASDUs are parsed unless their tags are overwritten. -/
def sequenceWalk : Walk Bool where
  asks overwritten element := overwritten = false ∧ element.tag = 0x30 →
    ASDUBelow memory limit element
  next overwritten element :=
    some (decide (overwritten = false ∧ IsASDU memory element ∧ Spills memory element))

/-- A sequence is parsed below the limit. -/
def SequenceBelow (sequence : Element) : Prop :=
  (sequenceWalk memory limit).Below memory sequence.address sequence.length sequence.length limit
    false 0 (contentScan memory sequence.address sequence.length).elements

/-- The last ASDU of a sequence ends with a string, where the sequence ends. -/
def SequenceSpills (sequence : Element) : Prop :=
  let scan := contentScan memory sequence.address sequence.length
  ((sequenceASDUs memory false scan.elements).2 && scan.complete) = true

instance (sequence : Element) : Decidable (SequenceSpills memory sequence) :=
  inferInstanceAs (Decidable (_ = true))

theorem decide_sequenceSpills (sequence : Element) :
    decide (SequenceSpills memory sequence) =
      let scan := contentScan memory sequence.address sequence.length
      ((sequenceASDUs memory false scan.elements).2 && scan.complete) :=
  Bool.decide_eq_true ..

/-- How the elements of a PDU are gone over: sequences are parsed unless their tags are
overwritten. -/
def payloadWalk : Walk Bool where
  asks overwritten element := overwritten = false ∧ element.tag = 0xa2 →
    SequenceBelow memory limit element
  next overwritten element :=
    some (decide (overwritten = false ∧ element.tag = 0xa2 ∧ SequenceSpills memory element))

/-- A PDU is parsed below the limit. -/
structure SVPayloadBelow (buffer : Nat) (apduLength : Int) : Prop where
  tag : buffer < limit
  framing : memory buffer = 0x60 → LengthBelow memory buffer apduLength limit 1
  elements : memory buffer = 0x60 → ∀ start size,
    (decodeLength memory buffer apduLength 1).value = some (start, size) →
      (payloadWalk memory limit).Below memory buffer (start + size : Nat) (start + size) limit false
        start (elements memory buffer (start + size : Nat) (start + size) start).elements

end Places

/-! ## What is parsed -/

section Parsing

variable {memory found : Memory} {limit subscriber : Nat} {listener : Bool}

theorem touchesBelow_int (value : Int) : (Access.int value).TouchesBelow limit := trivial

theorem touchesBelow_read_iff (address : Nat) :
    (Access.read address).TouchesBelow limit ↔ address < limit := Iff.rfl

/-- A tag and a length are where they were in the message as it came. -/
theorem headBelow_came {buffer position : Nat} {maxBufPos : Int} {overwritten : Bool}
    (came : CameBehind memory (buffer + position) overwritten found) :
    HeadBelow found buffer maxBufPos limit position ↔
      HeadBelow memory buffer maxBufPos limit position :=
  and_congr_right' (@lengthBelow_congr found buffer limit maxBufPos memory (position + 1)
    (fun _ above => came.behind _ (by omega)) _ (Nat.le_refl _))

/-- A tag is found exactly if it came and is not overwritten. -/
theorem CameBehind.eq_tag_iff {position : Nat} {overwritten : Bool} {tag : UInt8}
    (came : CameBehind memory position overwritten found) (nonzero : tag ≠ 0) :
    found position = tag ↔ overwritten = false ∧ memory position = tag := by
  rw [came.here]
  cases overwritten with
  | true => exact iff_of_false (fun zero => nonzero zero.symm) fun never => by simp at never
  | false => simp

/-- The loop over the elements of an ASDU. -/
theorem touchesBelow_asduLoop_iff {buffer length fuel position : Nat} {state : ParsedASDU}
    (came : ∀ position, buffer ≤ position → found position = memory position)
    (enough : length - position ≤ fuel) :
    (asduLoop found buffer length fuel position state).Always (Access.TouchesBelow limit) ↔
      (Walk.delimiting fun _ => true).Below memory buffer length length limit () position
        (elements memory buffer length length position).elements := by
  have behind : ∀ position, CameBehind memory (buffer + position) false found :=
    fun position => ⟨fun other after => came other (by omega), came _ (Nat.le_add_right _ _)⟩
  refine Walk.below_iff (fun fuel state position =>
    (asduLoop found buffer length fuel position state).Always (Access.TouchesBelow limit))
    (fun _ _ _ => True)
    (fun state _ element => state.element element.tag element.address element.length)
    ?_ ?_ (fun _ _ _ _ => trivial) enough trivial
  · intro fuel state position ended
    cases fuel with
    | zero => exact Traced.always_pure _
    | succ fuel =>
        rw [asduLoop, if_neg (by omega)]
        exact Traced.always_pure _
  · intro fuel state walked position _ inside
    rw [asduLoop, if_pos inside, always_head_iff touchesBelow_int touchesBelow_read_iff,
      headBelow_came (behind position), (behind position).decodeLength_eq,
      came _ (Nat.le_add_right _ _)]
    refine and_congr_right' ?_
    rcases (decodeLength memory buffer length (position + 1)).value with _ | ⟨start, size⟩
    · exact iff_of_true (Traced.always_pure _) (by simp)
    · simp [Traced.always_bind, Walk.delimiting]

/-- An ASDU is parsed below the limit exactly if what its octets tell lies below it. -/
theorem touchesBelow_parseASDU_iff {asdu : Element}
    (came : ∀ position, asdu.address ≤ position → found position = memory position) :
    (parseASDU subscriber listener found asdu.address asdu.length).Always
        (Access.TouchesBelow limit) ↔ ASDUBelow memory limit asdu := by
  have looped : (asduLoop found asdu.address asdu.length asdu.length 0 {}).value =
      let scan := contentScan memory asdu.address asdu.length
      if scan.complete then some (scan.elements, ({} : ParsedASDU).read scan.elements)
      else none := by
    rw [← contentScan_came came]
    exact value_asduLoop (Nat.le_refl _)
  unfold parseASDU
  rw [Traced.always_bind, touchesBelow_asduLoop_iff came (by omega), looped]
  refine Iff.trans (and_congr_right' ?_) ⟨fun below => ⟨below.1, below.2⟩, fun below =>
    ⟨below.framing, below.terminators⟩⟩
  unfold asduParts
  rcases contentScan memory asdu.address asdu.length with ⟨parts, complete⟩
  cases complete with
  | false => simp
  | true =>
      simp only [↓reduceIte, ParsedASDU.read_empty, Traced.always_bind, always_terminate,
        Traced.always_pure, and_true, forall_const, ParsedASDU.ofElements]
      constructor
      · rintro ⟨svId, datSet⟩ _ ⟨string, last, rfl⟩
        rcases last with last | last
        · exact svId string last
        · exact datSet string last
      · intro below
        exact ⟨fun string last => below _ ⟨string, .inl last, rfl⟩,
          fun string last => below _ ⟨string, .inr last, rfl⟩⟩

/-- A loop over elements some of which are parsed. -/
theorem touchesBelow_taggedLoop_iff {tag : UInt8}
    {parse : Memory → Nat → Nat → Traced Access (Memory × List SVCall)} {walk : Walk Bool}
    (asked : ∀ {found overwritten position start size},
      CameBehind memory position overwritten found → position < start →
      ((found position = tag → (parse found start size).Always (Access.TouchesBelow limit)) ↔
        walk.asks overwritten ⟨memory position, start, size⟩))
    (leaves : ∀ {found overwritten position start size after},
      CameBehind memory position overwritten found → position < start →
      walk.next overwritten ⟨memory position, start, size⟩ = some after →
      CameBehind memory (start + size) after
        (if found position = tag then (parse found start size).value else (found, [])).1)
    (goesOn : ∀ overwritten element, (walk.next overwritten element).isSome)
    {buffer stop fuel position : Nat} {overwritten : Bool}
    (came : CameBehind memory (buffer + position) overwritten found)
    (enough : stop - position ≤ fuel) :
    (taggedLoop tag parse buffer stop fuel position found).Always (Access.TouchesBelow limit) ↔
      walk.Below memory buffer stop stop limit overwritten position
        (elements memory buffer stop stop position).elements := by
  refine Walk.below_iff (fun fuel found position =>
    (taggedLoop tag parse buffer stop fuel position found).Always (Access.TouchesBelow limit))
    (fun found overwritten position => CameBehind memory (buffer + position) overwritten found)
    (fun found position element => (if found (buffer + position) = tag then
      (parse found element.address element.length).value else (found, [])).1)
    ?_ ?_ ?_ enough came
  · intro fuel found position ended
    cases fuel with
    | zero => exact Traced.always_pure _
    | succ fuel =>
        rw [taggedLoop, if_neg (by omega)]
        exact Traced.always_pure _
  · intro fuel found overwritten position came inside
    rw [taggedLoop, if_pos inside, always_head_iff touchesBelow_int touchesBelow_read_iff,
      headBelow_came came, came.decodeLength_eq]
    refine and_congr_right' ?_
    rcases decoded : (decodeLength memory buffer stop (position + 1)).value with _ | ⟨start, size⟩
    · exact iff_of_true (Traced.always_pure _) (by simp)
    · have later := decodeLength_advances decoded
      have own := @asked found overwritten (buffer + position) (buffer + start) size came (by omega)
      obtain ⟨after, goes⟩ := Option.isSome_iff_exists.mp
        (goesOn overwritten ⟨memory (buffer + position), buffer + start, size⟩)
      simp only [Option.some.injEq, Prod.mk.injEq, and_imp, forall_eq', forall_apply_eq_imp_iff,
        ← own, goes]
      by_cases tagged : found (buffer + position) = tag
      · simp [tagged, Traced.always_bind]
      · simp [tagged, Traced.always_bind]
  · intro found overwritten after position start size came inside decoded element goes
    have later := decodeLength_advances decoded
    have left := @leaves found overwritten (buffer + position) (buffer + start) size after came
      (by omega) goes
    rwa [Nat.add_assoc] at left

/-- A sequence of ASDUs. -/
theorem touchesBelow_parseSequenceOfASDU_iff {sequence : Element}
    (came : ∀ position, sequence.address ≤ position → found position = memory position) :
    (parseSequenceOfASDU subscriber listener found sequence.address sequence.length).Always
        (Access.TouchesBelow limit) ↔ SequenceBelow memory limit sequence := by
  unfold parseSequenceOfASDU
  rw [sequenceLoop_eq]
  refine touchesBelow_taggedLoop_iff ?_ ?_ (fun _ _ => rfl)
    ⟨fun other after => came other (by omega), came _ (by omega)⟩ (by omega)
  · intro found overwritten position start size came behind
    rw [came.eq_tag_iff (by decide)]
    refine forall_congr' fun _ => @touchesBelow_parseASDU_iff memory found limit subscriber listener
      ⟨memory position, start, size⟩ fun other above => came.behind other ?_
    exact Nat.lt_of_lt_of_le behind above
  · intro found overwritten position start size after came behind goes
    obtain rfl := Option.some.inj goes
    have step := @sequenceStep_spec memory found subscriber listener position start size overwritten
      came behind
    simp only at step
    by_cases handed : overwritten = false ∧ IsASDU memory ⟨memory position, start, size⟩
    · rw [if_pos handed] at step
      simpa only [handed, true_and] using step.1
    · rw [if_neg handed] at step
      rw [step, decide_eq_false (fun spills => handed ⟨spills.1, spills.2.1⟩)]
      exact came.later (by omega)

/-- The elements of a PDU. -/
theorem touchesBelow_payloadLoop_iff {buffer svEnd fuel position : Nat} {overwritten : Bool}
    (came : CameBehind memory (buffer + position) overwritten found)
    (enough : svEnd - position ≤ fuel) :
    (payloadLoop subscriber listener buffer svEnd fuel position found).Always
        (Access.TouchesBelow limit) ↔
      (payloadWalk memory limit).Below memory buffer svEnd svEnd limit overwritten position
        (elements memory buffer svEnd svEnd position).elements := by
  rw [payloadLoop_eq]
  refine touchesBelow_taggedLoop_iff ?_ ?_ (fun _ _ => rfl) came enough
  · intro found overwritten position start size came behind
    rw [came.eq_tag_iff (by decide)]
    refine forall_congr' fun _ => @touchesBelow_parseSequenceOfASDU_iff memory found limit
      subscriber listener ⟨memory position, start, size⟩ fun other above => came.behind other ?_
    exact Nat.lt_of_lt_of_le behind above
  · intro found overwritten position start size after came behind goes
    obtain rfl := Option.some.inj goes
    have step := @payloadStep_spec memory found subscriber listener position start size overwritten
      came behind
    simp only at step
    by_cases taken : overwritten = false ∧ memory position = 0xa2
    · rw [if_pos taken] at step
      simpa only [taken, true_and, decide_sequenceSpills] using step.1
    · rw [if_neg taken] at step
      rw [step, decide_eq_false (fun spills => taken ⟨spills.1, spills.2.1⟩)]
      exact came.later (by omega)

/-- The payload of a message. -/
theorem touchesBelow_parseSVPayload_iff {buffer : Nat} {apduLength : Int} :
    (parseSVPayload subscriber listener memory buffer apduLength).Always
        (Access.TouchesBelow limit) ↔ SVPayloadBelow memory limit buffer apduLength := by
  unfold parseSVPayload
  rw [Traced.always_bind, always_read_iff touchesBelow_read_iff, Traced.always_ite,
    and_iff_left fun _ => Traced.always_pure _, Memory.value_read, Traced.always_bind,
    always_decodeLength_iff touchesBelow_int touchesBelow_read_iff]
  rcases decoded : (decodeLength memory buffer apduLength 1).value with _ | ⟨start, size⟩
  · constructor
    · rintro ⟨tag, parsed⟩
      refine ⟨tag, fun given => (parsed given).1, fun _ start size found => ?_⟩
      rw [decoded] at found
      contradiction
    · exact fun below => ⟨below.tag, fun given => ⟨below.framing given, Traced.always_pure _⟩⟩
  · have looped := @touchesBelow_payloadLoop_iff memory memory limit subscriber listener buffer
      (start + size) size start false ⟨fun _ _ => rfl, rfl⟩ (by omega)
    constructor
    · rintro ⟨tag, parsed⟩
      refine ⟨tag, fun given => (parsed given).1, fun given first length found => ?_⟩
      obtain ⟨rfl, rfl⟩ := Prod.mk.inj (Option.some.inj (decoded.symm.trans found))
      exact looped.mp (parsed given).2
    · exact fun below => ⟨below.tag, fun given =>
        ⟨below.framing given, looped.mpr (below.elements given start size decoded)⟩⟩

end Parsing

/-! ## Messages that were received whole -/

section Whole

variable {memory : Memory} {limit : Nat}

theorem asduBelow_iff_of_whole {asdu : Element} (whole : asdu.address + asdu.length ≤ limit) :
    ASDUBelow memory limit asdu ↔ ((contentScan memory asdu.address asdu.length).complete = true →
      ∀ position, ParsedASDU.IsTerminator (asduParts memory asdu) position → position < limit) :=
  ⟨ASDUBelow.terminators, fun terminators => ⟨(Walk.below_iff_asked (by omega) (by omega)).mpr
    (Walk.asked_delimiting _ _), terminators⟩⟩

/-- Of a sequence that was received whole only the terminators of what is handed over count. -/
theorem asked_sequenceWalk_iff {overwritten : Bool} {parts : List Element}
    (whole : ∀ part ∈ parts, part.address + part.length ≤ limit) :
    (sequenceWalk memory limit).Asked overwritten parts ↔
      ∀ asdu ∈ (sequenceASDUs memory overwritten parts).1,
        ∀ position, ParsedASDU.IsTerminator (asduParts memory asdu) position →
          position < limit := by
  induction parts generalizing overwritten with
  | nil => exact iff_of_true trivial (by simp [sequenceASDUs])
  | cons element rest ih =>
      obtain ⟨first, others⟩ := List.forall_mem_cons.mp whole
      have next : (sequenceWalk memory limit).next overwritten element = some _ := rfl
      rw [Walk.asked_cons next, sequenceASDUs]
      by_cases handed : overwritten = false ∧ IsASDU memory element
      · have same : decide (overwritten = false ∧ IsASDU memory element ∧ Spills memory element) =
            decide (Spills memory element) := by simp [handed]
        rw [if_pos handed, same]
        simp only [List.forall_mem_cons]
        refine and_congr ?_ (ih others)
        refine (forall_prop_of_true (And.intro handed.1 handed.2.1)).trans ?_
        exact (asduBelow_iff_of_whole first).trans (forall_prop_of_true handed.2.2)
      · rw [if_neg handed, decide_eq_false (fun spills => handed ⟨spills.1, spills.2.1⟩)]
        refine (and_iff_right fun entered => ?_).trans (ih others)
        exact (asduBelow_iff_of_whole first).mpr
          fun complete => absurd ⟨entered.1, entered.2, complete⟩ handed

theorem asked_payloadWalk_iff {overwritten : Bool} {parts : List Element}
    (whole : ∀ part ∈ parts, part.address + part.length ≤ limit) :
    (payloadWalk memory limit).Asked overwritten parts ↔
      ∀ asdu ∈ payloadASDUs memory overwritten parts,
        ∀ position, ParsedASDU.IsTerminator (asduParts memory asdu) position →
          position < limit := by
  induction parts generalizing overwritten with
  | nil => exact iff_of_true trivial (by simp [payloadASDUs])
  | cons element rest ih =>
      obtain ⟨first, others⟩ := List.forall_mem_cons.mp whole
      have next : (payloadWalk memory limit).next overwritten element = some _ := rfl
      rw [Walk.asked_cons next, payloadASDUs]
      by_cases taken : overwritten = false ∧ element.tag = 0xa2
      · have inside : ∀ part ∈ (contentScan memory element.address element.length).elements,
            part.address + part.length ≤ limit := by
          intro part member
          have within := (elements_within part member).2
          omega
        have same : decide (overwritten = false ∧ element.tag = 0xa2 ∧
            SequenceSpills memory element) = decide (SequenceSpills memory element) := by
          simp [taken]
        rw [if_pos taken, same]
        simp only [List.forall_mem_append]
        refine and_congr ?_ ?_
        · exact (forall_prop_of_true taken).trans
            ((Walk.below_iff_asked (by omega) (by omega)).trans (asked_sequenceWalk_iff inside))
        · rw [ih others, decide_sequenceSpills]
      · rw [if_neg taken, decide_eq_false (fun spills => taken ⟨spills.1, spills.2.1⟩)]
        exact (and_iff_right fun entered => absurd entered taken).trans (ih others)

/-- A message that was received whole is parsed within it exactly if no string of an ASDU that is
handed over ends with it. -/
theorem svPayloadBelow_iff_of_whole {buffer : Nat} {apduLength : Int} (received : buffer < limit)
    (whole : (buffer : Int) + apduLength ≤ limit) :
    SVPayloadBelow memory limit buffer apduLength ↔
      ∀ asdu ∈ svASDUs memory buffer apduLength,
        ∀ position, ParsedASDU.IsTerminator (asduParts memory asdu) position →
          position < limit := by
  unfold svASDUs
  by_cases pdu : memory buffer = 0x60
  · rw [if_pos pdu]
    rcases decoded : (decodeLength memory buffer apduLength 1).value with _ | ⟨start, size⟩
    · refine iff_of_true ⟨received, fun _ => lengthBelow_of_within whole 1, fun _ => ?_⟩ (by simp)
      simp [decoded]
    · obtain ⟨_, ends⟩ := decodeLength_spec decoded
      have inside : ∀ part ∈ (elements memory buffer (start + size : Nat) (start + size)
          start).elements, part.address + part.length ≤ limit := by
        intro part member
        have within := (elements_within part member).2
        omega
      have below := @Walk.below_iff_asked memory buffer limit (start + size : Nat) Bool
        (payloadWalk memory limit) (start + size) (by omega) (by omega) false start
      dsimp only
      rw [← asked_payloadWalk_iff inside, ← below]
      constructor
      · exact fun whole => whole.elements pdu start size decoded
      · intro elements
        refine ⟨received, fun _ => lengthBelow_of_within whole 1, fun _ first length same => ?_⟩
        obtain ⟨rfl, rfl⟩ := Prod.mk.inj (Option.some.inj (decoded.symm.trans same))
        exact elements
  · rw [if_neg pdu]
    exact iff_of_true ⟨received, fun given => absurd given pdu, fun given => absurd given pdu⟩
      (by simp)

end Whole

/-! ## The message -/

/-- The search for a subscriber reads the first six octets at most. -/
theorem always_findSubscriber {predicate : Access → Prop} {memory : Memory} {appId : UInt16}
    {checkDestAddr : Bool} (reads : ∀ position < 6, predicate (.read position))
    (subscribers : List SVSubscriber) :
    (findSubscriber checkDestAddr memory appId subscribers).Always predicate := by
  induction subscribers with
  | nil => exact Traced.always_pure _
  | cons subscriber rest ih =>
      unfold findSubscriber
      refine .ite (fun _ => .ite (fun _ => ?_) fun _ => Traced.always_pure _)
        fun _ => ih.bind (Traced.always_pure _)
      refine .bind (Memory.always_readOctets.mpr fun position _ below => reads _ (by omega)) ?_
      exact .ite (fun _ => Traced.always_pure _) fun _ => ih.bind (Traced.always_pure _)

/-- Besides its header a message is read for the subscriber that is selected. -/
theorem touchesBelow_message_iff {self : SVReceiver} {memory : Memory} {numbytes : Nat} :
    (parseSVMessage self memory numbytes).Always (Access.TouchesBelow numbytes) ↔
      ∀ index subscriber, self.selected memory numbytes = some (index, subscriber) →
        (parseSVPayload index subscriber.listener memory 12 (apduLengthOf memory)).Always
          (Access.TouchesBelow numbytes) := by
  unfold parseSVMessage SVReceiver.selected
  by_cases short : numbytes < 22
  · rw [if_pos short, if_pos (.inl short)]
    exact iff_of_true (Traced.always_pure _) (by simp)
  · have octet : ∀ address < 22, (memory.read address).Always (Access.TouchesBelow numbytes) :=
      fun address below => Memory.always_read.mpr (show address < numbytes by omega)
    have header : (memory.readOctets 4 4).Always (Access.TouchesBelow numbytes) :=
      Memory.always_readOctets.mpr fun address _ below => show address < numbytes by omega
    have search : (findSubscriber self.checkDestAddr memory (uint16Of (memory 4) (memory 5))
        self.subscriberList).Always (Access.TouchesBelow numbytes) :=
      always_findSubscriber (fun position below => show position < numbytes by omega) _
    rw [if_neg short, Traced.always_bind, and_iff_right (octet 2 (by decide)), Traced.always_ite,
      and_iff_right fun _ => Traced.always_pure _, Traced.always_bind,
      and_iff_right (octet 3 (by decide)), Traced.always_ite,
      and_iff_right fun _ => Traced.always_pure _, Traced.always_bind, and_iff_right header,
      Traced.always_bind, and_iff_right search]
    simp only [Memory.value_read, not_not]
    by_cases sv : memory 2 = 0x88 ∧ memory 3 = 0xba
    · rw [if_neg (by simp [short, sv]), forall_prop_of_true sv.1, forall_prop_of_true sv.2]
      rcases (findSubscriber self.checkDestAddr memory (uint16Of (memory 4) (memory 5))
        self.subscriberList).value with _ | ⟨index, subscriber⟩
      · exact iff_of_true (Traced.always_pure _) (by simp)
      · simp only [Option.some.injEq, Prod.mk.injEq, and_imp, forall_eq', forall_apply_eq_imp_iff]
        rfl
    · rw [if_pos (.inr (not_and_or.mp sv))]
      exact iff_of_true (fun high low => absurd ⟨high, low⟩ sv) (by simp)

/-- The receiver touches only octets that it received exactly if nobody is selected for the message
or what its octets tell of the PDU lies below their number. -/
theorem touchesBelow_parseSVMessage_iff (self : SVReceiver) (memory : Memory) (numbytes : Nat) :
    (parseSVMessage self memory numbytes).Always (Access.TouchesBelow numbytes) ↔
      ((self.selected memory numbytes).isSome →
        SVPayloadBelow memory numbytes 12 (apduLengthOf memory)) := by
  simp only [touchesBelow_message_iff, touchesBelow_parseSVPayload_iff,
    Option.isSome_iff_exists, Prod.exists, forall_exists_index]

/-- A PDU with one ASDU that ends with its `svID`. -/
def endingWithString (encode : Nat → List UInt8) (svID : List UInt8) : List UInt8 :=
  svPayload encode [] [[(0x80, svID)]]

/-- A receiver with one subscriber, for the given identifier. -/
def receiverOf (appId : UInt16) : SVReceiver :=
  SVReceiver.create.addSubscriber (SVSubscriber.create none appId)

/-- A frame of 22 octets that ends with a string has its terminator written to octet 22. -/
theorem writes_past_frame :
    ¬ ∀ (memory : Memory) (receiver : SVReceiver) (numbytes : Nat),
      (parseSVMessage receiver memory numbytes).Always (Access.TouchesBelow numbytes) := by
  intro bounded
  let memory := Memory.ofOctets
    (svFrame Octets.zero 0x4000 18 (endingWithString encodeLength [0x41, 0x42])) fun _ => 0
  have written : Access.write 22 ∈ (parseSVMessage (receiverOf 0x4000) memory 22).trace := by
    decide +kernel
  have below : 22 < 22 := bounded memory (receiverOf 0x4000) 22 _ written
  exact absurd below (by decide)

end GridGooseSV
