import GridGooseSV.Sv.Fields
import GridGooseSV.Sv.Setup

/-!
# What a listener sees of what was set

The ASDUs of a frame that was published are all handed over, since none of them ends
with a string, and a listener finds in each what the frame says of it.
-/

namespace GridGooseSV

open BerDecoder BerEncoder

/-- The content of the last item with a tag. -/
def lastContent (tag : UInt8) : List (UInt8 × List UInt8) → Option (List UInt8)
  | [] => none
  | (other, content) :: rest => lastContent tag rest <|> if other = tag then some content else none

theorem lastContent_append (tag : UInt8) (first second : List (UInt8 × List UInt8)) :
    lastContent tag (first ++ second) = (lastContent tag second <|> lastContent tag first) := by
  induction first with
  | nil => simp [lastContent]
  | cons item rest ih =>
      rw [List.cons_append, lastContent, lastContent, ih]
      cases lastContent tag second <;> rfl

theorem lastContent_optional {α : Type} (tag other : UInt8) (content : α → List UInt8)
    (option : Option α) :
    lastContent tag (option.toList.map fun value => (other, content value)) =
      if other = tag then option.map content else none := by
  cases option <;> simp [lastContent]

theorem content_lastOf (tag : UInt8) (elements : List Element) (memory : Memory) :
    (lastOf tag elements).map (fun element => element.content memory) =
      lastContent tag (elements.map fun element => (element.tag, element.content memory)) := by
  induction elements with
  | nil => rfl
  | cons element rest ih =>
      rw [List.map_cons, lastOf, lastContent, ← ih]
      cases lastOf tag rest with
      | some later => rfl
      | none =>
          by_cases same : element.tag = tag
          · rw [if_pos same, if_pos same]
            rfl
          · rw [if_neg same, if_neg same]
            rfl

theorem Memory.take_octets (memory : Memory) (address : Nat) {width count : Nat}
    (narrow : width ≤ count) : (memory.octets address count).take width =
      memory.octets address width := by
  obtain ⟨rest, rfl⟩ := Nat.exists_eq_add_of_le narrow
  rw [memory.octets_add, List.take_left' (memory.length_octets ..)]

/-! ## Items -/

/-- A listener is given items: it finds their contents, and terminated strings. -/
structure SVCall.Carries (call : SVCall) (items : List (UInt8 × List UInt8)) : Prop where
  asdu : call.asdu = (ParsedASDU.ofElements call.elements).asdu
  items : call.elements.map (fun element => (element.tag, element.content call.memory)) = items
  terminated : ∀ position, ParsedASDU.IsTerminator call.elements position →
    call.memory position = 0

/-- A call about an ASDU that was encoded carries its items. -/
theorem SVCall.Reports.carries {came : Memory} {index address : Nat} {call : SVCall}
    {encode : Nat → List UInt8} (reads : ReadsBack encode) {items : List (UInt8 × List UInt8)}
    (held : came.Holds address (tlv encode 0x30 (tlvs encode items)))
    (small : (tlvs encode items).length < 2 ^ 16)
    (reports : call.Reports came index (writtenASDU encode address items)) :
    call.Carries items := by
  obtain ⟨_, elements, asdu, memory⟩ := reports
  obtain ⟨_, parts⟩ := scan_writtenASDU reads held small
  have within := @asduParts_within came (writtenASDU encode address items)
  have apart : (asduParts came (writtenASDU encode address items)).Pairwise fun first second =>
      first.address + first.length < second.address := elements_pairwise
  rw [← elements] at asdu memory within apart parts
  refine ⟨asdu, ?_, fun position string => ?_⟩
  · have written : call.elements.map (fun element => (element.tag, element.content came)) =
        items := by
      rw [parts]
      exact content_writtenElements (holds_tlv.mp held).2.2
    rw [← written]
    apply List.map_congr_left
    intro element member
    have above := (within element member).1
    rw [← ParsedASDU.content_terminated apart member came]
    congr 1
    apply Memory.octets_congr
    intro position start _
    exact memory position (by omega)
  · obtain ⟨element, last, ends⟩ := string
    have member : element ∈ call.elements := by
      rcases last with last | last
      · exact (mem_of_lastOf last).1
      · exact (mem_of_lastOf last).1
    have above := (within element member).1
    rw [memory position (by omega)]
    exact (ParsedASDU.terminated_apply came call.elements position).1 ⟨element, last, ends⟩

namespace SVCall

variable {call : SVCall} {items : List (UInt8 × List UInt8)}

/-- The contents that a listener finds. -/
theorem Carries.content (carries : call.Carries items) (tag : UInt8) :
    (lastOf tag call.elements).map (fun element => element.content call.memory) =
      lastContent tag items := by
  rw [content_lastOf, carries.items]

/-- The getter of a field finds the first octets of the content. -/
theorem Carries.octetsOf (carries : call.Carries items) (field : SVField)
    (wide : ∀ content, lastContent field.tag items = some content → field.width ≤ content.length) :
    call.octetsOf field =
      (lastContent field.tag items).map fun content => content.take field.width := by
  have content := carries.content field.tag
  rw [SVCall.octetsOf, carries.asdu, SVField.pointer_ofElements]
  cases last : lastOf field.tag call.elements with
  | none =>
      rw [last, Option.map_none] at content
      rw [← content]
      rfl
  | some element =>
      rw [last, Option.map_some] at content
      have enough := wide _ content.symm
      rw [Element.content, Memory.length_octets] at enough
      rw [← content, Option.map_some, Option.map_some, Option.map_some, Element.content,
        Memory.take_octets _ _ enough]

/-- A string that a listener finds is terminated. -/
theorem Carries.string (carries : call.Carries items) {tag : UInt8}
    (string : tag = 0x80 ∨ tag = 0x81) {content : List UInt8}
    (present : lastContent tag items = some content) (absent : 0 ∉ content) :
    ∃ element, lastOf tag call.elements = some element ∧
      call.memory.IsString element.address content := by
  rw [← carries.content tag] at present
  obtain ⟨element, last, rfl⟩ := Option.map_eq_some_iff.mp present
  refine ⟨element, last, Memory.holds_append.mpr ⟨element.holds_content _, ?_⟩, absent⟩
  have ends : ParsedASDU.IsTerminator call.elements (element.address + element.length) := by
    rcases string with rfl | rfl
    · exact ⟨element, .inl last, rfl⟩
    · exact ⟨element, .inr last, rfl⟩
  rw [Element.content, Memory.length_octets]
  exact Memory.holds_cons.mpr ⟨carries.terminated _ ends, Memory.holds_nil _ _⟩

end SVCall

/-! ## Samples -/

namespace SVPublisher

open SVCall

/-- The contents of the items of a sample. -/
theorem Sample.lastContent_items (self : Sample) :
    lastContent 0x80 self.items = some self.svID.val ∧
      lastContent 0x81 self.items = self.datset.map Subtype.val ∧
      lastContent 0x82 self.items = some (encodeUInt16FixedSize self.smpCnt) ∧
      lastContent 0x83 self.items = some (encodeUInt32FixedSize self.confRev) ∧
      lastContent 0x84 self.items = self.refrTm.map Subtype.val ∧
      lastContent 0x85 self.items = some [self.smpSynch] ∧
      lastContent 0x86 self.items = self.smpRate.map encodeUInt16FixedSize ∧
      lastContent 0x87 self.items = some self.data ∧
      lastContent 0x88 self.items =
        self.smpMod.map fun smpMod => encodeUInt16FixedSize smpMod.toUInt16 := by
  simp only [items, lastContent, lastContent_append, lastContent_optional]
  simp

theorem bigEndian_encodeUInt16FixedSize (value : UInt16) :
    UInt16.ofNat (bigEndian (encodeUInt16FixedSize value)) = value := by
  rw [encodeUInt16FixedSize, revertByteOrder, bigEndian_reverse, littleEndian_littleEndianOctets,
    Nat.mod_eq_of_lt (by exact value.toNat_lt), UInt16.ofNat_toNat]

theorem bigEndian_encodeUInt32FixedSize (value : UInt32) :
    UInt32.ofNat (bigEndian (encodeUInt32FixedSize value)) = value := by
  rw [encodeUInt32FixedSize, revertByteOrder, bigEndian_reverse, littleEndian_littleEndianOctets,
    Nat.mod_eq_of_lt (by exact value.toNat_lt), UInt32.ofNat_toNat]

end SVPublisher

namespace SVCall

/-- The octets at the position of `RefrTm`. -/
def refrTmOctets (call : SVCall) : Option (List UInt8) :=
  call.asdu.refrTm.map fun address => call.memory.octets address 8

/-- A listener sees what a sample says. -/
structure Shows (call : SVCall) (sample : SVPublisher.Sample) : Prop where
  svId : call.SvIdIs sample.svID.val
  hasDatSet : call.asdu.hasDatSet = sample.datset.isSome
  datSet : ∀ datset, sample.datset = some datset → call.DatSetIs datset.val
  smpCnt : call.smpCnt = some sample.smpCnt
  confRev : call.confRev = some sample.confRev
  hasRefrTm : call.asdu.hasRefrTm = sample.refrTm.isSome
  refrTm : call.refrTmOctets = sample.refrTm.map Subtype.val
  smpSynch : call.smpSynch = some sample.smpSynch
  hasSmpRate : call.asdu.hasSmpRate = sample.smpRate.isSome
  smpRate : call.smpRate = sample.smpRate
  hasSmpMod : call.asdu.hasSmpMod = sample.smpMod.isSome
  data : call.data = some sample.data

variable {call : SVCall} {sample : SVPublisher.Sample}

/-- A field is there if its item is. -/
theorem Carries.isSome {items : List (UInt8 × List UInt8)} (carries : call.Carries items)
    (tag : UInt8) : (lastOf tag call.elements).isSome = (lastContent tag items).isSome := by
  rw [← carries.content tag, Option.isSome_map]

/-- A field with an item of the width of its getter is found. -/
theorem Carries.found {items : List (UInt8 × List UInt8)} (carries : call.Carries items)
    (field : SVField) {content : List UInt8} (present : lastContent field.tag items = some content)
    (width : content.length = field.width) : call.octetsOf field = some content := by
  rw [carries.octetsOf field, present, Option.map_some, List.take_of_length_le (Nat.le_of_eq width)]
  intro other same
  rw [present, Option.some.injEq] at same
  rw [← same, width]

/-- A field without an item is not found. -/
theorem Carries.missing {items : List (UInt8 × List UInt8)} (carries : call.Carries items)
    (field : SVField) (absent : lastContent field.tag items = none) :
    call.octetsOf field = none := by
  rw [carries.octetsOf field, absent, Option.map_none]
  intro content present
  rw [absent] at present
  contradiction

/-- The octets that the getter of the rate finds. -/
theorem Carries.smpRate (carries : call.Carries sample.items) :
    call.octetsOf .smpRate = sample.smpRate.map encodeUInt16FixedSize := by
  obtain ⟨_, _, _, _, _, _, item, _, _⟩ := sample.lastContent_items
  cases has : sample.smpRate with
  | none => exact carries.missing .smpRate (item.trans (by rw [has]; rfl))
  | some smpRate =>
      apply carries.found .smpRate (item.trans (by rw [has]; rfl))
      exact SVPublisher.length_encodeUInt16FixedSize _

/-- The getter of the mode reads the first of the two octets that are sent, which is zero. -/
theorem Carries.smpMod (carries : call.Carries sample.items) :
    call.smpMod = sample.smpMod.map fun _ => 0 := by
  obtain ⟨_, _, _, _, _, _, _, _, item⟩ := sample.lastContent_items
  rw [smpMod_eq]
  cases has : sample.smpMod with
  | none =>
      rw [carries.missing .smpMod (item.trans (by rw [has]; rfl))]
      rfl
  | some smpMod =>
      have content : lastContent 0x88 sample.items =
          some (encodeUInt16FixedSize smpMod.toUInt16) := item.trans (by rw [has]; rfl)
      have octets := carries.octetsOf .smpMod (by
        intro other same
        rw [SVField.tag, content, Option.some.injEq] at same
        rw [← same, SVPublisher.length_encodeUInt16FixedSize]
        decide)
      have high : smpMod.toNat / 256 = 0 := Nat.div_eq_of_lt smpMod.toNat_lt
      rw [octets, SVField.tag, content]
      simp [encodeUInt16FixedSize, revertByteOrder, littleEndianOctets, high, SVField.width,
        bigEndian]

/-- The octets of the time that a listener finds. -/
theorem Carries.refrTm (carries : call.Carries sample.items) :
    call.refrTmOctets = sample.refrTm.map Subtype.val := by
  obtain ⟨_, _, _, _, item, _⟩ := sample.lastContent_items
  have pointer : call.asdu.refrTm = (lastOf 0x84 call.elements).map Element.address := by
    rw [carries.asdu]
    rfl
  rw [← item, ← carries.content, refrTmOctets, pointer, Option.map_map]
  cases last : lastOf 0x84 call.elements with
  | none => rfl
  | some element =>
      have content := carries.content 0x84
      rw [last, Option.map_some, item] at content
      obtain ⟨refrTm, _, same⟩ := Option.map_eq_some_iff.mp content.symm
      have length := congrArg List.length same
      rw [refrTm.property, Element.content, Memory.length_octets] at length
      rw [Option.map_some, Option.map_some, Element.content, ← length]
      rfl

/-- The time that a listener gets. -/
theorem Carries.refrTmAsNs (carries : call.Carries sample.items) :
    call.refrTmAsNs = (sample.refrTm.map Timestamp.getTimeInNs).getD 0 := by
  have octets := carries.refrTm
  rw [refrTmOctets] at octets
  rw [refrTmAsNs_eq, SVCall.octetsOf, SVField.pointer, Option.map_map]
  cases found : call.asdu.refrTm with
  | none =>
      rw [found] at octets
      rw [Option.map_eq_none_iff.mp octets.symm]
      rfl
  | some address =>
      rw [found, Option.map_some] at octets
      obtain ⟨refrTm, present, same⟩ := Option.map_eq_some_iff.mp octets.symm
      rw [present, Option.map_some, Option.map_some, Option.getD_some, Option.getD_some,
        Timestamp.getTimeInNs, same, ← nsOfUtcTime_take, Memory.take_octets _ _ (by decide)]
      rfl

/-- The data that a listener finds. -/
theorem Carries.data (carries : call.Carries sample.items) : call.data = some sample.data := by
  obtain ⟨_, _, _, _, _, _, _, item, _⟩ := sample.lastContent_items
  rw [← item, ← carries.content, SVCall.data, SVSubscriber.ASDU.getDataSize, carries.asdu,
    ParsedASDU.ofElements]
  simp only [Option.map_map]
  cases lastOf 0x87 call.elements with
  | none => rfl
  | some element => rfl

/-- A listener who is given the items of a sample sees what it says. -/
theorem Carries.shows (carries : call.Carries sample.items) : call.Shows sample := by
  have has := carries.isSome
  have asdu := carries.asdu
  have smpRate := carries.smpRate
  obtain ⟨svId, datset, smpCnt, confRev, refrTm, smpSynch, rate, _, smpMod⟩ :=
    sample.lastContent_items
  exact {
    svId := by
      obtain ⟨element, last, string⟩ := carries.string (.inl rfl) svId sample.svID.property
      refine ⟨element.address, ?_, string⟩
      rw [SVSubscriber.ASDU.getSvId, asdu, ParsedASDU.ofElements, last]
      rfl
    hasDatSet := by
      rw [SVSubscriber.ASDU.hasDatSet, asdu, ParsedASDU.ofElements, Option.isSome_map, has, datset,
        Option.isSome_map]
    datSet := by
      intro name present
      rw [present] at datset
      obtain ⟨element, last, string⟩ := carries.string (.inr rfl) datset name.property
      refine ⟨element.address, ?_, string⟩
      rw [SVSubscriber.ASDU.getDatSet, asdu, ParsedASDU.ofElements, last]
      rfl
    smpCnt := by
      have octets := carries.found .smpCnt smpCnt (by simp [SVField.width])
      rw [smpCnt_eq, octets, Option.map_some, SVPublisher.bigEndian_encodeUInt16FixedSize]
    confRev := by
      have octets := carries.found .confRev confRev (by simp [SVField.width])
      rw [confRev_eq, octets, Option.map_some, SVPublisher.bigEndian_encodeUInt32FixedSize]
    hasRefrTm := by
      rw [SVSubscriber.ASDU.hasRefrTm, asdu, ParsedASDU.ofElements, Option.isSome_map, has, refrTm,
        Option.isSome_map]
    refrTm := carries.refrTm
    smpSynch := by
      have octets := carries.found .smpSynch smpSynch rfl
      rw [smpSynch_eq, octets, Option.map_some]
      simp [bigEndian]
    hasSmpRate := by
      rw [SVSubscriber.ASDU.hasSmpRate, asdu, ParsedASDU.ofElements, Option.isSome_map, has, rate,
        Option.isSome_map]
    smpRate := by
      rw [smpRate_eq, smpRate, Option.map_map]
      cases sample.smpRate with
      | none => rfl
      | some value => exact congrArg some (SVPublisher.bigEndian_encodeUInt16FixedSize value)
    hasSmpMod := by
      rw [SVSubscriber.ASDU.hasSmpMod, asdu, ParsedASDU.ofElements, Option.isSome_map, has, smpMod,
        Option.isSome_map]
    data := carries.data }

end SVCall

end GridGooseSV
