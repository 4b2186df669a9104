import GridGooseSV.Goose.Acceptance
import GridGooseSV.Goose.Creation
import GridGooseSV.Goose.Header

/-!
# Validity

What `stateValid` and the parse error of a subscriber tell of the frame that was
delivered last. The two decoders report differently: building a data set reports no
error at all, and updating one reports none for elements that it passes over or reads
beyond.
-/

namespace GridGooseSV

open BerDecoder

/-! ## Elements that are built -/

/-- An element tells a value as a whole. -/
inductive Element.Tells (memory : Memory) : Element → Prop
  | complex {element : Element} {type : ComplexType} {parts : List Element}
      (kind : element.kind = some (.complex type))
      (scanned : elements memory element.address element.length element.length 0 = ⟨parts, true⟩)
      (all : ∀ part ∈ parts, part.Tells memory) : element.Tells memory
  | boolean {element : Element} (kind : element.kind = some .boolean)
      (length : element.length = 1) : element.Tells memory
  | bitString {element : Element} (kind : element.kind = some .bitString)
      (long : 1 < element.length) (padding : (memory element.address).toNat ≤ 7) :
      element.Tells memory
  | integer {element : Element} (kind : element.kind = some .integer)
      (nonempty : 1 ≤ element.length) (few : element.length ≤ 8) : element.Tells memory
  | unsigned {element : Element} (kind : element.kind = some .unsigned)
      (nonempty : 1 ≤ element.length) (few : element.length ≤ 8) : element.Tells memory
  | float {element : Element} (kind : element.kind = some .float)
      (length : element.length = 9 ∨ element.length = 5) : element.Tells memory
  | octetString {element : Element} (kind : element.kind = some .octetString) :
      element.Tells memory
  | visibleString {element : Element} (kind : element.kind = some .visibleString) :
      element.Tells memory
  | binaryTime {element : Element} (kind : element.kind = some .binaryTime)
      (length : element.length = 4 ∨ element.length = 6) : element.Tells memory
  | utcTime {element : Element} (kind : element.kind = some .utcTime)
      (length : element.length = 8) : element.Tells memory

/-- The octets of a range are elements that each tell a value. -/
def TellsAt (memory : Memory) (address length : Nat) : Prop :=
  ∃ parts, elements memory address length length 0 = ⟨parts, true⟩ ∧
    ∀ part ∈ parts, part.Tells memory

theorem exists_allCarried {memory : Memory} {parts : List Element}
    (each : ∀ part ∈ parts, ∃ data : Data, data.Carried memory part) :
    ∃ data, Data.AllCarried memory data parts := by
  induction parts with
  | nil => exact ⟨[], trivial⟩
  | cons element rest ih =>
      obtain ⟨data, first⟩ := each element List.mem_cons_self
      obtain ⟨others, all⟩ := ih fun part member => each part (List.mem_cons_of_mem _ member)
      exact ⟨data :: others, first, all⟩

/-- What an element tells is data that it carries. -/
theorem Element.Tells.carried {memory : Memory} {element : Element}
    (tells : element.Tells memory) : ∃ data : Data, data.Carried memory element := by
  induction tells with
  | complex kind scanned _ each =>
      obtain ⟨data, all⟩ := exists_allCarried each
      exact ⟨.complex _ data, kind, _, scanned, all⟩
  | boolean kind _ => exact ⟨.boolean _, kind, rfl⟩
  | bitString kind long padding => exact ⟨.bitString _, kind, long, padding, rfl⟩
  | integer kind _ few => exact ⟨.integer _, kind, few, rfl⟩
  | unsigned kind _ few => exact ⟨.unsigned _, kind, few, rfl⟩
  | float kind length =>
      rcases length with double | single
      · exact ⟨.float .double _, kind, double, rfl⟩
      · exact ⟨.float .single _, kind, single, rfl⟩
  | octetString kind => exact ⟨.octetString _, kind, rfl⟩
  | visibleString kind => exact ⟨.visibleString _, kind, rfl⟩
  | binaryTime kind length => exact ⟨.binaryTime _, kind, length, rfl⟩
  | utcTime kind length => exact ⟨.utcTime _, kind, length, rfl⟩

/-! ## Elements that are updated -/

mutual

/-- An element is decoded into a value as a whole. -/
def MmsValue.Decodes (memory : Memory) (element : Element) : MmsValue → Prop
  | .complex type components => element.kind = some (.complex type) ∧ ∃ parts,
      elements memory element.address element.length element.length 0 = ⟨parts, true⟩ ∧
        ComponentsDecode memory parts components
  | .boolean _ => element.kind = some .boolean ∧ element.length = 1
  | .bitString value => element.kind = some .bitString ∧ (memory element.address).toNat ≤ 7 ∧
      8 * ((element.length : Int) - 1) - (memory element.address).toNat = value.size
  | .integer value => element.kind = some .integer ∧ 1 ≤ element.length ∧
      element.length ≤ value.maxSize
  | .unsigned value => element.kind = some .unsigned ∧ 1 ≤ element.length ∧
      element.length ≤ value.maxSize
  | .float _ => element.kind = some .float ∧ (element.length = 9 ∨ element.length = 5)
  | .octetString _ => element.kind = some .octetString
  | .visibleString _ => element.kind = some .visibleString
  | .binaryTime value => element.kind = some .binaryTime ∧
      (element.length = 4 ∨ element.length = 6) ∧ element.length = value.size
  | .utcTime _ => element.kind = some .utcTime ∧ element.length = 8
  | .dataAccessError _ | .string _ | .unsupported _ => False

/-- Elements are decoded into components, one into each. -/
def ComponentsDecode (memory : Memory) (parts : List Element) : Components → Prop
  | [] => parts = []
  | component :: rest => ∃ element others, parts = element :: others ∧
      ComponentDecodes memory element component ∧ ComponentsDecode memory others rest

def ComponentDecodes (memory : Memory) (element : Element) : Option MmsValue → Prop
  | none => False
  | some value => value.Decodes memory element

end

mutual

/-- The elements of the type of a value that `parseAllData` accepts without decoding them as
a whole: those with too few or too many octets, or with a component like that. -/
def MmsValue.Overlooks (memory : Memory) (element : Element) : MmsValue → Prop
  | .complex _ components => ∃ parts,
      elements memory element.address element.length element.length 0 = ⟨parts, true⟩ ∧
        ComponentsOverlook memory parts components
  | .boolean _ => element.length ≠ 1
  | .bitString _ => 7 < (memory element.address).toNat
  | .integer _ | .unsigned _ => element.length = 0
  | .binaryTime value =>
    (element.length ≠ 4 ∧ element.length ≠ 6) ∨ element.length ≠ value.size
  | _ => False

/-- One of the elements has the tag that is reserved for access results or is overlooked. -/
def ComponentsOverlook (memory : Memory) (parts : List Element) : Components → Prop
  | [] => False
  | component :: rest => ∃ element others, parts = element :: others ∧
      (ComponentOverlooks memory element component ∨ ComponentsOverlook memory others rest)

def ComponentOverlooks (memory : Memory) (element : Element) : Option MmsValue → Prop
  | none => False
  | some value => element.kind = some .accessResult ∨ value.Overlooks memory element

end

theorem componentsDecode_cons {memory : Memory} {element : Element} {others : List Element}
    {component : Option MmsValue} {rest : Components} :
    ComponentsDecode memory (element :: others) (component :: rest) ↔
      ComponentDecodes memory element component ∧ ComponentsDecode memory others rest := by
  rw [ComponentsDecode]
  constructor
  · rintro ⟨_, _, ⟨⟩, first, following⟩
    exact ⟨first, following⟩
  · rintro ⟨first, following⟩
    exact ⟨element, others, rfl, first, following⟩

theorem componentsOverlook_cons {memory : Memory} {element : Element} {others : List Element}
    {component : Option MmsValue} {rest : Components} :
    ComponentsOverlook memory (element :: others) (component :: rest) ↔
      ComponentOverlooks memory element component ∨ ComponentsOverlook memory others rest := by
  rw [ComponentsOverlook]
  constructor
  · rintro ⟨_, _, ⟨⟩, either⟩
    exact either
  · exact fun either => ⟨element, others, rfl, either⟩

mutual

/-- An element of the type of a value is decoded exactly if it is accepted and not overlooked. -/
theorem MmsValue.decodes_iff {memory : Memory} {element : Element} : (value : MmsValue) →
    (value.Decodes memory element ↔
      ComponentPasses memory element (some value) ∧
        ¬ ComponentOverlooks memory element (some value))
  | .complex type components => by
      have nested := fun parts => @componentsDecode_iff memory components parts
      simp only [MmsValue.Decodes, ComponentPasses, MmsValue.Passes, ComponentOverlooks,
        MmsValue.Overlooks, nested]
      constructor
      · rintro ⟨kind, parts, scanned, passes, sound⟩
        refine ⟨⟨_, kind, .inr ⟨rfl, parts, scanned, passes⟩⟩, ?_⟩
        rintro (reserved | ⟨others, again, overlooked⟩)
        · exact absurd (kind.symm.trans reserved) (by simp)
        · rw [scanned] at again
          cases again
          exact sound overlooked
      · rintro ⟨⟨kind, known, reserved | ⟨rfl, parts, scanned, passes⟩⟩, sound⟩
        · exact absurd (.inl (reserved ▸ known)) sound
        · exact ⟨known, parts, scanned, passes, fun overlooked =>
            sound (.inr ⟨parts, scanned, overlooked⟩)⟩
  | .boolean _ | .bitString _ | .integer _ | .unsigned _ | .float _ | .octetString _
  | .visibleString _ | .binaryTime _ | .utcTime _ | .dataAccessError _ | .string _
  | .unsupported _ => by
      simp only [MmsValue.Decodes, ComponentPasses, MmsValue.Passes, ComponentOverlooks,
        MmsValue.Overlooks]
      cases element.kind with
      | none => simp
      | some kind =>
          cases kind <;> simp <;> omega

theorem componentsDecode_iff {memory : Memory} : (components : Components) →
    {parts : List Element} → (ComponentsDecode memory parts components ↔
      ComponentsPass memory parts components ∧ ¬ ComponentsOverlook memory parts components)
  | [], parts => by simp [ComponentsDecode, ComponentsPass, ComponentsOverlook]
  | component :: rest, [] => by simp [ComponentsDecode, ComponentsPass]
  | component :: rest, element :: others => by
      have first : ComponentDecodes memory element component ↔
          ComponentPasses memory element component ∧
            ¬ ComponentOverlooks memory element component := by
        cases component with
        | none => simp [ComponentDecodes, ComponentPasses]
        | some value => exact value.decodes_iff
      have following := @componentsDecode_iff memory rest others
      rw [componentsDecode_cons, componentsPass_cons, componentsOverlook_cons, first, following]
      tauto

end

/-- The elements of a range pass for components. -/
def PassAt (memory : Memory) (address length : Nat) (components : Components) : Prop :=
  ∃ parts, elements memory address length length 0 = ⟨parts, true⟩ ∧
    ComponentsPass memory parts components

/-- The elements of a range are decoded into components. -/
def DecodeAt (memory : Memory) (address length : Nat) (components : Components) : Prop :=
  ∃ parts, elements memory address length length 0 = ⟨parts, true⟩ ∧
    ComponentsDecode memory parts components

/-- An element of a range is overlooked. -/
def OverlookAt (memory : Memory) (address length : Nat) (components : Components) : Prop :=
  ∃ parts, elements memory address length length 0 = ⟨parts, true⟩ ∧
    ComponentsOverlook memory parts components

theorem decodeAt_iff {memory : Memory} {address length : Nat} {components : Components} :
    DecodeAt memory address length components ↔
      PassAt memory address length components ∧ ¬ OverlookAt memory address length components := by
  unfold DecodeAt PassAt OverlookAt
  rcases elements memory address length length 0 with ⟨parts, complete⟩
  cases complete <;> simp [componentsDecode_iff]

/-! ## Reports -/

namespace GooseSubscriber

/-- The frame carries a data set that is decoded as a whole: by itself where a data
set is built, into the components where one is updated. -/
def Decodable (subscriber : GooseSubscriber) (memory : Memory) (pdu : GoosePdu) : Prop :=
  ∃ address, pdu.dataSetBufferAddress = some address ∧
    match subscriber.keptDataSet pdu.confRev with
    | none => TellsAt memory address pdu.dataSetBufferLength
    | some components => DecodeAt memory address pdu.dataSetBufferLength components

/-- When the two decoders report what they do: where a data set is built, it is complete and
there was no error before, or it is not and a repetition follows an error. Where one is updated,
it is not empty if the frame has no data set, and no element of one that is accepted is
overlooked. -/
def ReportsTruly (subscriber : GooseSubscriber) (memory : Memory) (pdu : GoosePdu) : Prop :=
  match subscriber.keptDataSet pdu.confRev with
  | none =>
    (subscriber.Decodable memory pdu ∧ subscriber.parseError = .noError) ∨
      (¬ subscriber.Decodable memory pdu ∧ subscriber.parseError ≠ .noError ∧
        subscriber.Repeated pdu)
  | some components =>
    match pdu.dataSetBufferAddress with
    | none => components ≠ []
    | some address => PassAt memory address pdu.dataSetBufferLength components →
      ¬ OverlookAt memory address pdu.dataSetBufferLength components

/-- What validity and the parse error should tell after a delivery. -/
def TellsDecoding (after before : GooseSubscriber) (memory : Memory) (pdu : GoosePdu) : Prop :=
  (after.stateValid → before.Decodable memory pdu ∧ after.getDataSetValues.isSome) ∧
    (after.getParseError = .noError ↔ before.Decodable memory pdu)

end GooseSubscriber

section Reporting

variable (memory : Memory) {pdu : GoosePdu}

/-- A data set that can be decoded as a whole is built. -/
theorem isSome_of_decodable {subscriber : GooseSubscriber}
    (built : subscriber.keptDataSet pdu.confRev = none)
    (decodable : subscriber.Decodable memory pdu) (selfAllocated : Bool) :
    (parseAllDataUnknownValue memory (pdu.dataSetBufferAddress.getD 0) pdu.dataSetBufferLength
      selfAllocated).value.1.isSome := by
  obtain ⟨address, given, tells⟩ := decodable
  rw [built] at tells
  obtain ⟨parts, scanned, each⟩ := tells
  obtain ⟨data, all⟩ := exists_allCarried fun part member => (each part member).carried
  obtain ⟨components, value, _⟩ := parseAllDataUnknownValue_of_carried
    (show Data.CarriedAt _ _ _ data from ⟨parts, scanned, all⟩) selfAllocated
  rw [given, Option.getD_some, value]
  rfl

/-- Without octets only an empty data set is accepted. -/
theorem passAt_nothing_iff (address : Nat) (components : Components) :
    PassAt memory address 0 components ↔ components = [] := by
  unfold PassAt
  rw [elements_end (Nat.le_refl 0)]
  cases components <;> simp [ComponentsPass]

/-- An update is decoded if it is accepted exactly when nothing is overlooked. -/
theorem decodable_of_passAt_iff {subscriber : GooseSubscriber} {components : Components}
    (kept : subscriber.keptDataSet pdu.confRev = some components)
    (absent : pdu.dataSetBufferAddress = none → pdu.dataSetBufferLength = 0) :
    (PassAt memory (pdu.dataSetBufferAddress.getD 0) pdu.dataSetBufferLength components ↔
        subscriber.Decodable memory pdu) ↔ subscriber.ReportsTruly memory pdu := by
  unfold GooseSubscriber.Decodable GooseSubscriber.ReportsTruly
  simp only [kept]
  cases given : pdu.dataSetBufferAddress with
  | none => simp [absent given, passAt_nothing_iff]
  | some address =>
      simp only [Option.getD_some, Option.some.injEq, exists_eq_left', decodeAt_iff]
      tauto

/-- Delivery tells of the decoding exactly when the decoders report truly. -/
theorem tellsDecoding_deliver_iff (pdu : GoosePdu) (subscriber : GooseSubscriber) (now : UInt64)
    (absent : pdu.dataSetBufferAddress = none → pdu.dataSetBufferLength = 0) :
    (subscriber.deliver memory pdu now).value.TellsDecoding subscriber memory pdu ↔
      subscriber.ReportsTruly memory pdu := by
  unfold GooseSubscriber.TellsDecoding
  rw [GooseSubscriber.value_deliver]
  unfold GooseSubscriber.getDataSetValues GooseSubscriber.getParseError GooseSubscriber.decode
  simp only
  cases kept : subscriber.keptDataSet pdu.confRev with
  | none =>
      have present := fun decodable => isSome_of_decodable memory kept decodable
        subscriber.dataSetValuesSelfAllocated
      rw [GooseSubscriber.ReportsTruly, kept]
      by_cases decodable : subscriber.Decodable memory pdu <;>
        by_cases repeated : subscriber.Repeated pdu <;> simp [decodable, repeated, present]
  | some components =>
      have accepted : (parseAllData memory (pdu.dataSetBufferAddress.getD 0)
          pdu.dataSetBufferLength components).value.1 = .noError ↔
        PassAt memory (pdu.dataSetBufferAddress.getD 0) pdu.dataSetBufferLength components :=
          parseAllData_noError_iff
      rw [← decodable_of_passAt_iff memory kept absent]
      simp only [accepted]
      by_cases decodable : subscriber.Decodable memory pdu
      · simp [decodable]
      · by_cases pass : PassAt memory (pdu.dataSetBufferAddress.getD 0) pdu.dataSetBufferLength
          components <;> simp [decodable, pass, accepted]

end Reporting

/-- A frame without a data set has no octets of one. -/
theorem length_of_no_dataSet (memory : Memory)
    (absent : (framePdu memory).dataSetBufferAddress = none) :
    (framePdu memory).dataSetBufferLength = 0 := by
  rcases dataSetBuffer_eq memory (frameElements memory).elements with nothing | ⟨_, _, _, given, _⟩
  · exact nothing.2
  · exact absurd (given.symm.trans absent) (by simp)

/-- Strings and addresses that are written before delivery have no part in decoding. -/
theorem reportsTruly_parsed (memory : Memory) (numbytes : Nat)
    (subscribers : List GooseSubscriber) (index : Nat) (self : GooseSubscriber)
    (pdu : GoosePdu) :
    let before := parsed memory numbytes subscribers index self
    (before.ReportsTruly memory pdu ↔ self.ReportsTruly memory pdu) ∧
      (before.Decodable memory pdu ↔ self.Decodable memory pdu) := by
  rw [parsed_eq]
  exact ⟨Iff.rfl, Iff.rfl⟩

/-- The first frame for a subscriber. -/
def subscriberA : GooseSubscriber := GooseSubscriber.create ⟨[0x41], zero_notMem_a⟩ none

end GridGooseSV
