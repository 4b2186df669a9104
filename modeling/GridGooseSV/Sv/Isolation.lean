import GridGooseSV.Sv.Fields

/-!
# ASDUs of one message

What a listener sees of an ASDU is determined by the octets of the ASDU if its strings end
before it does and its getters read within it.
-/

namespace GridGooseSV

open BerDecoder

/-! ## Elements at a distance -/

theorem lastOf_moved (tag : UInt8) (distance : Nat) (elements : List Element) :
    lastOf tag (elements.map (Element.moved distance)) =
      (lastOf tag elements).map (Element.moved distance) := by
  induction elements with
  | nil => rfl
  | cons element rest ih =>
      have tagged : (element.moved distance).tag = element.tag := rfl
      rw [List.map_cons, lastOf, lastOf, ih, tagged]
      cases lastOf tag rest with
      | some _ => rfl
      | none =>
          by_cases same : element.tag = tag
          · rw [if_pos same, if_pos same]
            rfl
          · rw [if_neg same, if_neg same]
            rfl

theorem isTerminator_moved {distance : Nat} {elements : List Element} {position : Nat} :
    ParsedASDU.IsTerminator (elements.map (Element.moved distance)) (distance + position) ↔
      ParsedASDU.IsTerminator elements position := by
  unfold ParsedASDU.IsTerminator
  simp only [lastOf_moved, Option.map_eq_some_iff]
  constructor
  · rintro ⟨_, last, ends⟩
    rcases last with ⟨element, last, rfl⟩ | ⟨element, last, rfl⟩
    · exact ⟨element, .inl last, by simp only [Element.moved] at ends; omega⟩
    · exact ⟨element, .inr last, by simp only [Element.moved] at ends; omega⟩
  · rintro ⟨element, last, rfl⟩
    refine ⟨element.moved distance, ?_, Nat.add_assoc ..⟩
    rcases last with last | last
    · exact .inl ⟨element, last, rfl⟩
    · exact .inr ⟨element, last, rfl⟩

theorem exists_of_isTerminator_moved {distance : Nat} {elements : List Element} {position : Nat}
    (ends : ParsedASDU.IsTerminator (elements.map (Element.moved distance)) position) :
    ∃ place, position = distance + place ∧ ParsedASDU.IsTerminator elements place := by
  have above : distance ≤ position := by
    obtain ⟨element, moved, rfl⟩ := ParsedASDU.mem_of_isTerminator ends
    obtain ⟨original, _, rfl⟩ := List.mem_map.mp moved
    simp only [Element.moved]
    omega
  refine ⟨position - distance, by omega, ?_⟩
  apply isTerminator_moved.mp
  rwa [Nat.add_sub_cancel' above]

/-- The elements of an ASDU, as they would be at the start of a memory. -/
def partsAtStart (memory : Memory) (asdu : Element) : List Element :=
  (contentScan (fun index => memory (asdu.address + index)) 0 asdu.length).elements

theorem contentScan_moved {memory other : Memory} {address length : Nat}
    (agree : ∀ index < length, memory (address + index) = other index) :
    contentScan memory address length = (contentScan other 0 length).moved address := by
  have moved := @elements_moved memory other 0 address 0 length
    (fun index _ below => by rw [Nat.add_zero, Nat.zero_add]; exact agree index below) 0
    (Nat.le_refl _)
  rwa [Nat.add_zero] at moved

theorem asduParts_eq (memory : Memory) (asdu : Element) :
    asduParts memory asdu = (partsAtStart memory asdu).map (Element.moved asdu.address) := by
  rw [asduParts, contentScan_moved fun _ _ => rfl]
  rfl

/-- ASDUs of the same octets have the same elements. -/
theorem partsAtStart_congr {memory other : Memory} {asdu copy : Element}
    (lengths : copy.length = asdu.length)
    (agree : ∀ index < asdu.length, memory (asdu.address + index) = other (copy.address + index)) :
    partsAtStart other copy = partsAtStart memory asdu := by
  have same : contentScan (fun index => other (copy.address + index)) 0 asdu.length =
      contentScan (fun index => memory (asdu.address + index)) 0 asdu.length := by
    apply @elements_congr _ _ _ 0 _ _ _ (Nat.le_refl _)
    intro index _ below
    rw [Nat.zero_add]
    exact (agree index below).symm
  rw [partsAtStart, partsAtStart, lengths, same]

/-! ## Contained ASDUs -/

/-- The strings of an ASDU end before it does, and its getters read within it. -/
structure Contained (memory : Memory) (asdu : Element) : Prop where
  svId : ∀ string, lastOf 0x80 (asduParts memory asdu) = some string →
    string.address + string.length < asdu.address + asdu.length
  datSet : ∀ string, lastOf 0x81 (asduParts memory asdu) = some string →
    string.address + string.length < asdu.address + asdu.length
  fields : ∀ (field : SVField) (part : Element),
    lastOf field.tag (asduParts memory asdu) = some part →
      part.address + field.width ≤ asdu.address + asdu.length

theorem Contained.isTerminator_lt {memory : Memory} {asdu : Element}
    (contained : Contained memory asdu) {place : Nat}
    (ends : ParsedASDU.IsTerminator (partsAtStart memory asdu) place) : place < asdu.length := by
  have moved := (@isTerminator_moved asdu.address _ _).mpr ends
  rw [← asduParts_eq] at moved
  obtain ⟨string, last, there⟩ := moved
  rcases last with last | last
  · have within := contained.svId string last
    omega
  · have within := contained.datSet string last
    omega

theorem not_spills_iff {memory : Memory} {asdu : Element} :
    ¬ Spills memory asdu ↔
      (∀ string, lastOf 0x80 (asduParts memory asdu) = some string →
        string.address + string.length < asdu.address + asdu.length) ∧
      (∀ string, lastOf 0x81 (asduParts memory asdu) = some string →
        string.address + string.length < asdu.address + asdu.length) := by
  constructor
  · intro stays
    refine ⟨fun string last => ?_, fun string last => ?_⟩
    · have within := asduParts_within string (mem_of_lastOf last).1
      have other : string.address + string.length ≠ asdu.address + asdu.length :=
        fun ends => stays ⟨string, .inl last, ends⟩
      omega
    · have within := asduParts_within string (mem_of_lastOf last).1
      have other : string.address + string.length ≠ asdu.address + asdu.length :=
        fun ends => stays ⟨string, .inr last, ends⟩
      omega
  · rintro ⟨svId, datSet⟩ ⟨string, last, ends⟩
    rcases last with last | last
    · have within := svId string last
      omega
    · have within := datSet string last
      omega

/-! ## What a call shows -/

section Reported

variable {memory other : Memory} {index place : Nat} {asdu copy : Element} {call alone : SVCall}

theorem addressOf_eq (tag : UInt8) : (lastOf tag (asduParts memory asdu)).map Element.address =
    (lastOf tag (partsAtStart memory asdu)).map fun part => asdu.address + part.address := by
  rw [asduParts_eq, lastOf_moved, Option.map_map]
  rfl

theorem lengthOf_eq (tag : UInt8) : (lastOf tag (asduParts memory asdu)).map Element.length =
    (lastOf tag (partsAtStart memory asdu)).map Element.length := by
  rw [asduParts_eq, lastOf_moved, Option.map_map]
  rfl

namespace SVCall.Reports

theorem pointer (reports : call.Reports memory index asdu) (field : SVField) :
    field.pointer call.asdu =
      (lastOf field.tag (partsAtStart memory asdu)).map
        fun part => asdu.address + part.address := by
  rw [reports.asdu, SVField.pointer_ofElements, addressOf_eq]

theorem svId (reports : call.Reports memory index asdu) : call.asdu.getSvId =
    (lastOf 0x80 (partsAtStart memory asdu)).map fun part => asdu.address + part.address := by
  rw [reports.asdu, ← addressOf_eq]
  rfl

theorem datSet (reports : call.Reports memory index asdu) : call.asdu.getDatSet =
    (lastOf 0x81 (partsAtStart memory asdu)).map fun part => asdu.address + part.address := by
  rw [reports.asdu, ← addressOf_eq]
  rfl

theorem dataBuffer (reports : call.Reports memory index asdu) : call.asdu.dataBuffer =
    (lastOf 0x87 (partsAtStart memory asdu)).map fun part => asdu.address + part.address := by
  rw [reports.asdu, ← addressOf_eq]
  rfl

theorem dataSize (reports : call.Reports memory index asdu) : call.asdu.getDataSize =
    ((lastOf 0x87 (partsAtStart memory asdu)).map Element.length).getD 0 := by
  rw [reports.asdu, ← lengthOf_eq]
  rfl

end SVCall.Reports

/-- Listeners find the same octets within ASDUs of the same octets. -/
theorem SVCall.Reports.same (reports : call.Reports memory index asdu)
    (reportsAlone : alone.Reports other place copy) (lengths : copy.length = asdu.length)
    (agree : ∀ index < asdu.length, memory (asdu.address + index) = other (copy.address + index)) :
    ∀ index < asdu.length, call.memory (asdu.address + index) =
      alone.memory (copy.address + index) := by
  intro position inside
  rw [reports.memory _ (Nat.le_add_right _ _), reportsAlone.memory _ (Nat.le_add_right _ _)]
  rw [asduParts_eq, asduParts_eq, partsAtStart_congr lengths agree]
  by_cases string : ParsedASDU.IsTerminator (partsAtStart memory asdu) position
  · rw [(ParsedASDU.terminated_apply _ _ _).1 (isTerminator_moved.mpr string),
      (ParsedASDU.terminated_apply _ _ _).1 (isTerminator_moved.mpr string)]
  · rw [(ParsedASDU.terminated_apply _ _ _).2 (mt isTerminator_moved.mp string),
      (ParsedASDU.terminated_apply _ _ _).2 (mt isTerminator_moved.mp string),
      agree position inside]

theorem part_within {part : Element} (member : part ∈ partsAtStart memory asdu) :
    part.address + part.length ≤ asdu.length := by
  have within := @elements_within _ 0 asdu.length asdu.length 0 part member
  omega

/-- Listeners find the same octets in fields within ASDUs of the same octets. -/
theorem SVCall.Reports.octetsOf (reports : call.Reports memory index asdu)
    (reportsAlone : alone.Reports other place copy) (lengths : copy.length = asdu.length)
    (agree : ∀ index < asdu.length, memory (asdu.address + index) = other (copy.address + index))
    {field : SVField} (inside : ∀ part, lastOf field.tag (asduParts memory asdu) = some part →
      part.address + field.width ≤ asdu.address + asdu.length) :
    call.octetsOf field = alone.octetsOf field := by
  unfold SVCall.octetsOf
  rw [reports.pointer, reportsAlone.pointer, partsAtStart_congr lengths agree]
  cases last : lastOf field.tag (partsAtStart memory asdu) with
  | none => rfl
  | some part =>
      have within := inside (part.moved asdu.address) (by
        rw [asduParts_eq, lastOf_moved, last, Option.map_some])
      simp only [Element.moved] at within
      simp only [Option.map_some, Option.some.injEq]
      apply Memory.octets_moved
      intro position below
      rw [Nat.add_assoc, Nat.add_assoc]
      exact reports.same reportsAlone lengths agree _ (by omega)

/-- A string that ends before its ASDU is the same in ASDUs of the same octets. -/
theorem isString_of_reports (reports : call.Reports memory index asdu)
    (reportsAlone : alone.Reports other place copy) (lengths : copy.length = asdu.length)
    (agree : ∀ index < asdu.length, memory (asdu.address + index) = other (copy.address + index))
    {part : Element} (last : lastOf 0x80 (partsAtStart memory asdu) = some part ∨
      lastOf 0x81 (partsAtStart memory asdu) = some part)
    (inside : part.address + part.length < asdu.length) (string : List UInt8) :
    call.memory.IsString (asdu.address + part.address) string ↔
      alone.memory.IsString (copy.address + part.address) string := by
  apply @Memory.isString_congr _ _ _ _ (asdu.length - part.address) _ _ part.length (by omega)
  · rw [Nat.add_assoc, reports.memory _ (Nat.le_add_right _ _), asduParts_eq]
    exact (ParsedASDU.terminated_apply _ _ _).1 (isTerminator_moved.mpr ⟨part, last, rfl⟩)
  · intro position below
    rw [Nat.add_assoc, Nat.add_assoc]
    exact reports.same reportsAlone lengths agree _ (by omega)

/-- The data of an ASDU lie within it. -/
theorem SVCall.Reports.data (reports : call.Reports memory index asdu)
    (reportsAlone : alone.Reports other place copy) (lengths : copy.length = asdu.length)
    (agree : ∀ index < asdu.length, memory (asdu.address + index) = other (copy.address + index)) :
    call.data = alone.data := by
  unfold SVCall.data
  rw [reports.dataBuffer, reportsAlone.dataBuffer, reports.dataSize, reportsAlone.dataSize,
    partsAtStart_congr lengths agree]
  cases last : lastOf 0x87 (partsAtStart memory asdu) with
  | none => rfl
  | some part =>
      have within := part_within (mem_of_lastOf last).1
      simp only [Option.map_some, Option.getD_some, Option.some.injEq]
      apply Memory.octets_moved
      intro position below
      rw [Nat.add_assoc, Nat.add_assoc]
      exact reports.same reportsAlone lengths agree _ (by omega)

/-- A pointer to a string that ends before its ASDU gives the same string in ASDUs of the
same octets. -/
theorem string_of_reports (reports : call.Reports memory index asdu)
    (reportsAlone : alone.Reports other place copy) (lengths : copy.length = asdu.length)
    (agree : ∀ index < asdu.length, memory (asdu.address + index) = other (copy.address + index))
    {tag : UInt8} (either : tag = 0x80 ∨ tag = 0x81) {pointer pointerAlone : Option Nat}
    (points : pointer =
      (lastOf tag (partsAtStart memory asdu)).map fun part => asdu.address + part.address)
    (pointsAlone : pointerAlone =
      (lastOf tag (partsAtStart other copy)).map fun part => copy.address + part.address)
    (inside : ∀ part, lastOf tag (asduParts memory asdu) = some part →
      part.address + part.length < asdu.address + asdu.length) (string : List UInt8) :
    (∃ address, pointer = some address ∧ call.memory.IsString address string) ↔
      ∃ address, pointerAlone = some address ∧ alone.memory.IsString address string := by
  rw [points, pointsAlone, partsAtStart_congr lengths agree]
  cases last : lastOf tag (partsAtStart memory asdu) with
  | none => simp
  | some part =>
      have within := inside (part.moved asdu.address) (by
        rw [asduParts_eq, lastOf_moved, last, Option.map_some])
      simp only [Element.moved] at within
      have lasts : lastOf 0x80 (partsAtStart memory asdu) = some part ∨
          lastOf 0x81 (partsAtStart memory asdu) = some part := by
        rcases either with rfl | rfl
        · exact .inl last
        · exact .inr last
      simp only [Option.map_some, Option.some.injEq, exists_eq_left']
      exact isString_of_reports reports reportsAlone lengths agree lasts (by omega) string

/-- What a listener sees of a contained ASDU is determined by its octets. -/
theorem SVCall.Reports.seenAlike (reports : call.Reports memory index asdu)
    (reportsAlone : alone.Reports other place copy) (lengths : copy.length = asdu.length)
    (agree : ∀ index < asdu.length, memory (asdu.address + index) = other (copy.address + index))
    (contained : Contained memory asdu) : call.SeenAlike alone := by
  have parts := partsAtStart_congr lengths agree
  apply SVCall.seenAlike_of_octets
  · intro field
    exact reports.octetsOf reportsAlone lengths agree (contained.fields field)
  · exact string_of_reports reports reportsAlone lengths agree (.inl rfl) reports.svId
      reportsAlone.svId contained.svId
  · rw [reports.svId, reportsAlone.svId, parts, Option.isSome_map, Option.isSome_map]
  · exact string_of_reports reports reportsAlone lengths agree (.inr rfl) reports.datSet
      reportsAlone.datSet contained.datSet
  · have there : call.asdu.getDatSet.isSome = alone.asdu.getDatSet.isSome := by
      rw [reports.datSet, reportsAlone.datSet, parts, Option.isSome_map, Option.isSome_map]
    exact there
  · rw [reports.dataSize, reportsAlone.dataSize, parts]
  · exact reports.data reportsAlone lengths agree

end Reported

/-! ## Isolation -/

/-- Parsing an ASDU alone, wherever it stands and whatever stands around it, gives a
listener what a call gave, and writes within the ASDU only. -/
def Isolated (memory : Memory) (asdu : Element) (call : SVCall) : Prop :=
  ∀ (other : Memory) (address : Nat), other.Holds address (asdu.content memory) →
    let parsed := parseASDU call.subscriber true other address asdu.length
    (∃ alone, parsed.value.2 = [alone] ∧ call.SeenAlike alone) ∧
      parsed.Always (Access.WritesWithin address (address + asdu.length))

section Alone

variable {memory other : Memory} {asdu copy : Element} {call alone : SVCall} {index : Nat}

/-- The call that parsing a well-formed ASDU alone makes. -/
theorem reports_of_parseASDU (formed : (contentScan memory asdu.address asdu.length).complete) :
    ∃ alone, (parseASDU index true memory asdu.address asdu.length).value.2 = [alone] ∧
      alone.Reports memory index asdu := by
  have parsed := @value_parseASDU_came memory memory index true asdu fun _ _ => rfl
  rw [if_pos formed] at parsed
  refine ⟨_, by rw [parsed]; rfl, rfl, rfl, rfl, fun _ _ => rfl⟩

theorem writesWithin_parseASDU {bottom top : Nat} :
    (parseASDU index true memory asdu.address asdu.length).Always
        (Access.WritesWithin bottom top) ↔
      ((contentScan memory asdu.address asdu.length).complete → ∀ position,
        ParsedASDU.IsTerminator (asduParts memory asdu) position →
          bottom ≤ position ∧ position < top) :=
  always_parseASDU (fun _ => trivial) fun _ _ => trivial

/-- A contained ASDU is isolated. -/
theorem Contained.isolated (contained : Contained memory asdu) (formed : IsASDU memory asdu)
    (reports : call.Reports memory index asdu) : Isolated memory asdu call := by
  intro other address held parsed
  have agree : ∀ position < asdu.length,
      memory (asdu.address + position) = other (address + position) := by
    intro position below
    have there := held.get position (by rwa [Element.content, Memory.length_octets])
    rw [there]
    exact (Memory.getElem_octets ..).symm
  have scans : contentScan other address asdu.length =
      (contentScan (fun position => memory (asdu.address + position)) 0 asdu.length).moved
        address :=
    contentScan_moved fun position below => (agree position below).symm
  have complete : (contentScan other address asdu.length).complete := by
    rw [scans]
    have own := formed.2
    rwa [contentScan_moved fun _ _ => rfl] at own
  obtain ⟨alone, found, reportsAlone⟩ := @reports_of_parseASDU other ⟨0x30, address, asdu.length⟩
    call.subscriber complete
  refine ⟨⟨alone, found, ?_⟩, ?_⟩
  · exact reports.seenAlike reportsAlone rfl agree contained
  · apply (@writesWithin_parseASDU other ⟨0x30, address, asdu.length⟩ _ _ _).mpr
    intro _ position terminator
    rw [asduParts_eq, @partsAtStart_congr memory other asdu ⟨0x30, address, asdu.length⟩ rfl
      agree] at terminator
    obtain ⟨place, rfl, ends⟩ := exists_of_isTerminator_moved terminator
    have inside := contained.isTerminator_lt ends
    simp only
    omega

/-- The octet that a getter reads last. -/
theorem last_octet {memory other : Memory} {address width : Nat} (positive : 0 < width)
    (same : memory.octets address width = other.octets address width) :
    memory (address + (width - 1)) = other (address + (width - 1)) := by
  have bound : width - 1 < (memory.octets address width).length := by
    rw [Memory.length_octets]
    omega
  have elements := List.getElem_of_eq same bound
  rwa [Memory.getElem_octets, Memory.getElem_octets] at elements

/-- What an isolated ASDU shows where its octets stand again. -/
theorem Isolated.shown (isolated : Isolated memory asdu call) (formed : IsASDU memory asdu)
    (agree : ∀ position < asdu.address + asdu.length, other position = memory position) :
    asduParts other asdu = asduParts memory asdu ∧
      ∃ alone, alone.Reports other call.subscriber asdu ∧ call.SeenAlike alone := by
  have held : other.Holds asdu.address (asdu.content memory) := by
    rw [Memory.Holds, Element.content, Memory.length_octets]
    exact Memory.octets_congr fun position _ below => agree position below
  have scans : contentScan other asdu.address asdu.length =
      contentScan memory asdu.address asdu.length := by
    apply @elements_congr _ _ _ 0 _ _ _ (Nat.le_refl _)
    intro index _ below
    exact agree _ (by omega)
  obtain ⟨alone, found, reports⟩ :=
    @reports_of_parseASDU other asdu call.subscriber (scans ▸ formed.2)
  obtain ⟨⟨same, sole, alike⟩, _⟩ := isolated other asdu.address held
  obtain rfl := List.singleton_inj.mp (sole.symm.trans found)
  exact ⟨congrArg Scan.elements scans, same, reports, alike⟩

/-- An isolated ASDU is contained. -/
theorem Isolated.contained (isolated : Isolated memory asdu call) (formed : IsASDU memory asdu) :
    Contained memory asdu := by
  have here := isolated memory asdu.address (asdu.holds_content memory)
  have terminators := writesWithin_parseASDU.mp here.2 formed.2
  refine ⟨fun string last => (terminators _ ⟨string, .inl last, rfl⟩).2,
    fun string last => (terminators _ ⟨string, .inr last, rfl⟩).2, fun field part last => ?_⟩
  by_contra outside
  -- The octet read last stands behind the ASDU: it may be another one.
  have positive := field.width_pos
  have within := asduParts_within part (mem_of_lastOf last).1
  let behind := part.address + (field.width - 1)
  have notTerminator : ¬ ParsedASDU.IsTerminator (asduParts memory asdu) behind := by
    intro terminator
    have below := (terminators _ terminator).2
    omega
  have reads : ∀ {found : Memory} {alone : SVCall}, asduParts found asdu = asduParts memory asdu →
      alone.Reports found call.subscriber asdu → call.SeenAlike alone →
      call.octetsOf field = some (alone.memory.octets part.address field.width) ∧
        alone.memory behind = found behind := by
    intro found alone parts reports alike
    refine ⟨?_, ?_⟩
    · rw [alike.octetsOf field, SVCall.octetsOf, reports.asdu, SVField.pointer_ofElements, parts,
        last]
      rfl
    · rw [reports.memory behind (by omega), parts]
      exact (ParsedASDU.terminated_apply found _ behind).2 notTerminator
  let other := memory.put behind [memory behind + 1]
  have unchanged : ∀ position < asdu.address + asdu.length, other position = memory position :=
    fun position before => Memory.put_outside memory behind _ position (.inl (by omega))
  have changed : other behind = memory behind + 1 :=
    Memory.put_inside memory behind [memory behind + 1] 0 Nat.one_pos
  obtain ⟨parts, alone, reports, alike⟩ := isolated.shown formed fun _ _ => rfl
  obtain ⟨partsOther, aloneOther, reportsOther, alikeOther⟩ := isolated.shown formed unchanged
  obtain ⟨shown, found⟩ := reads parts reports alike
  obtain ⟨shownOther, foundOther⟩ := reads partsOther reportsOther alikeOther
  have same := last_octet positive (Option.some.inj (shown.symm.trans shownOther))
  rw [found, foundOther, changed] at same
  exact absurd same.symm (by simp)

end Alone

/-! ## Sequences of ASDUs -/

/-- The well-formed ASDUs of a sequence. -/
def wellFormedASDUs (memory : Memory) (buffer length : Nat) : List Element :=
  (contentScan memory buffer length).elements.filter fun element => IsASDU memory element

/-- Contained ASDUs are all handed over. -/
theorem sequenceASDUs_contained {memory : Memory} {elements : List Element}
    (contained : ∀ asdu ∈ elements, IsASDU memory asdu → ¬ Spills memory asdu) :
    sequenceASDUs memory false elements =
      (elements.filter fun element => IsASDU memory element, false) := by
  induction elements with
  | nil => rfl
  | cons element rest ih =>
      have later := ih fun asdu member => contained asdu (List.mem_cons_of_mem _ member)
      rw [sequenceASDUs]
      by_cases formed : IsASDU memory element
      · have stays := contained element List.mem_cons_self formed
        rw [if_pos ⟨rfl, formed⟩, decide_eq_false stays, later,
          List.filter_cons, if_pos (decide_eq_true formed)]
      · rw [if_neg (fun both => formed both.2), later, List.filter_cons,
          if_neg (by simpa using formed)]

/-- The listener is called once for each well-formed ASDU of a sequence, and isolated from the
others, exactly if every well-formed ASDU is contained. -/
theorem asdus_isolated_iff (memory : Memory) (subscriber buffer length : Nat) :
    List.Forall₂ (Isolated memory) (wellFormedASDUs memory buffer length)
        (parseSequenceOfASDU subscriber true memory buffer length).value.2 ↔
      ∀ asdu ∈ wellFormedASDUs memory buffer length, Contained memory asdu := by
  have formed : ∀ asdu ∈ wellFormedASDUs memory buffer length, IsASDU memory asdu :=
    fun asdu member => by simpa using (List.mem_filter.mp member).2
  constructor
  · intro isolated asdu member
    obtain ⟨call, _, alone⟩ := forall₂_mem isolated member
    exact alone.contained (formed asdu member)
  · intro contained
    have handed := (@sequenceLoop_spec memory memory subscriber true buffer length length 0 false
      ⟨fun _ _ => rfl, rfl⟩ (Nat.zero_le _) (Nat.le_refl _)).2
    have all : sequenceASDUs memory false (contentScan memory buffer length).elements =
        (wellFormedASDUs memory buffer length, false) := by
      apply sequenceASDUs_contained
      intro asdu member isASDU
      have kept := contained asdu (List.mem_filter.mpr ⟨member, decide_eq_true isASDU⟩)
      exact not_spills_iff.mpr ⟨kept.svId, kept.datSet⟩
    simp only at handed
    rw [← contentScan, all] at handed
    exact forall₂_imp_of_mem handed fun asdu member call reports =>
      (contained asdu member).isolated (formed asdu member) reports

/-- Two ASDUs, each with an empty `svID` and nothing else. -/
def hidingSequence : Memory :=
  Memory.ofOctets [0x30, 2, 0x80, 0, 0x30, 2, 0x80, 0] fun _ => 0

/-- The terminator behind the first ASDU hides the second one. -/
theorem asdu_hidden : ¬ List.Forall₂ (Isolated hidingSequence)
    (wellFormedASDUs hidingSequence 0 8)
    (parseSequenceOfASDU 0 true hidingSequence 0 8).value.2 := by
  intro isolated
  have counts : (wellFormedASDUs hidingSequence 0 8).length ≠
      (parseSequenceOfASDU 0 true hidingSequence 0 8).value.2.length := by decide +kernel
  exact counts isolated.length_eq

end GridGooseSV
