import GridGooseSV.Mms.Value

/-!
# The data in a value

What a value says, apart from the capacity of its storage, the padding of a bit
string and the octets after a terminator. Two values with the same data answer
every getter alike.
-/

namespace GridGooseSV

/-- What a value says. -/
inductive Data
  /-- a component that is not there -/
  | missing
  | complex (type : ComplexType) (components : List Data)
  | dataAccessError (code : UInt32)
  | boolean (value : Bool)
  | bitString (bits : List Bool)
  /-- the content octets, most significant first -/
  | integer (octets : List UInt8)
  | unsigned (octets : List UInt8)
  /-- the host representation -/
  | float (width : FloatWidth) (octets : List UInt8)
  | octetString (octets : List UInt8)
  | visibleString (string : Option (List UInt8))
  | string (string : Option (List UInt8))
  | binaryTime (octets : List UInt8)
  | utcTime (octets : List UInt8)
  | unsupported

/-- The bits in front of a string of octets. -/
def bitsOf (octets : List UInt8) (size : Nat) : List Bool :=
  (List.range size).map fun bitPos =>
    (octets.getD (bitPos / 8) 0).toNat.testBit (7 - bitPos % 8)

@[simp] theorem length_bitsOf (octets : List UInt8) (size : Nat) :
    (bitsOf octets size).length = size := by
  simp [bitsOf]

theorem bitsOf_congr {first second : List UInt8} {size : Nat}
    (agree : ∀ bitPos < size,
      (first.getD (bitPos / 8) 0).toNat.testBit (7 - bitPos % 8) =
        (second.getD (bitPos / 8) 0).toNat.testBit (7 - bitPos % 8)) :
    bitsOf first size = bitsOf second size :=
  List.map_congr_left fun bitPos member => agree bitPos (List.mem_range.mp member)

mutual

/-- The data in a value. -/
def MmsValue.data : MmsValue → Data
  | .complex type components => .complex type (componentsData components)
  | .dataAccessError code => .dataAccessError code
  | .boolean value => .boolean value
  | .bitString value => .bitString (bitsOf value.buf value.size)
  | .integer value => .integer value.content
  | .unsigned value => .unsigned value.content
  | .float value => .float value.width (value.buf.val.take (value.width.formatWidth / 8))
  | .octetString value => .octetString (value.buf.take value.size)
  | .visibleString value => .visibleString (value.buf.map cString)
  | .string value => .string (value.buf.map cString)
  | .binaryTime value => .binaryTime (value.buf.val.take value.size)
  | .utcTime value => .utcTime value.val
  | .unsupported _ => .unsupported

/-- The data in components. -/
def componentsData : Components → List Data
  | [] => []
  | component :: rest => componentData component :: componentsData rest

def componentData : Option MmsValue → Data
  | none => .missing
  | some value => value.data

end

/-- Octets copied over the front of a float are its data. -/
theorem MmsValue.data_float (width : FloatWidth) {given : List UInt8}
    (length : given.length = width.formatWidth / 8) (buf : Octets 8) :
    (MmsValue.float ⟨width, buf.overwrite given⟩).data = .float width given := by
  have fits : given.length ≤ 8 := by
    rw [length]
    cases width <;> decide
  rw [data, ← length, buf.take_overwrite _ fits]

namespace Data

mutual

/-- No component is missing at any level. -/
def Whole : Data → Prop
  | .missing => False
  | .complex _ components => AllWhole components
  | _ => True

def AllWhole : List Data → Prop
  | [] => True
  | data :: rest => data.Whole ∧ AllWhole rest

end

mutual

/-- The shape of data: the data with its contents erased. Types, nesting, counts,
the widths of floats and the lengths of bit strings and binary times are left. -/
def shape : Data → Data
  | .missing => .missing
  | .complex type components => .complex type (shapes components)
  | .dataAccessError _ => .dataAccessError 0
  | .boolean _ => .boolean false
  | .bitString bits => .bitString (List.replicate bits.length false)
  | .integer _ => .integer []
  | .unsigned _ => .unsigned []
  | .float width _ => .float width []
  | .octetString _ => .octetString []
  | .visibleString _ => .visibleString none
  | .string _ => .string none
  | .binaryTime octets => .binaryTime (List.replicate octets.length 0)
  | .utcTime _ => .utcTime []
  | .unsupported => .unsupported

def shapes : List Data → List Data
  | [] => []
  | data :: rest => data.shape :: shapes rest

end

/-- The octets of storage that an integer gets which is built from content octets. -/
def integerCapacity (size : Nat) : Nat := if size ≤ 4 then 5 else 9

mutual

/-- The integers of the second data fit in the storage that is built for the
integers of the first. -/
def IntegersFit : Data → Data → Prop
  | .integer first, .integer second => second.length ≤ integerCapacity first.length
  | .unsigned first, .unsigned second => second.length ≤ integerCapacity first.length
  | .complex _ firsts, .complex _ seconds => AllIntegersFit firsts seconds
  | _, _ => True

def AllIntegersFit : List Data → List Data → Prop
  | first :: firsts, second :: seconds => first.IntegersFit second ∧ AllIntegersFit firsts seconds
  | _, _ => True

end

end Data

mutual

/-- A value has the type and the storage for data. -/
def MmsValue.CanTake : MmsValue → Data → Prop
  | .complex type components, data =>
    ∃ parts, data = .complex type parts ∧ ComponentsCanTake components parts
  | .boolean _, data => ∃ value, data = .boolean value
  | .bitString value, data => ∃ bits, data = .bitString bits ∧ bits.length = value.size
  | .integer value, data => ∃ octets, data = .integer octets ∧ octets.length ≤ value.maxSize
  | .unsigned value, data => ∃ octets, data = .unsigned octets ∧ octets.length ≤ value.maxSize
  | .float value, data => ∃ octets, data = .float value.width octets
  | .octetString _, data => ∃ octets, data = .octetString octets
  | .visibleString _, data => ∃ text, data = .visibleString text
  | .binaryTime value, data => ∃ octets, data = .binaryTime octets ∧ octets.length = value.size
  | .utcTime _, data => ∃ octets, data = .utcTime octets
  | .dataAccessError _, _ => False
  | .string _, _ => False
  | .unsupported _, _ => False

def ComponentsCanTake : Components → List Data → Prop
  | [], data => data = []
  | component :: rest, data =>
    ∃ first others, data = first :: others ∧ ComponentCanTake component first ∧
      ComponentsCanTake rest others

def ComponentCanTake : Option MmsValue → Data → Prop
  | none, _ => False
  | some value, data => value.CanTake data

end

/-- The storage of a value is what is built for data: it takes other data of that
shape whose integers fit. -/
def MmsValue.BuiltFor (value : MmsValue) (data : Data) : Prop :=
  ∀ other, value.CanTake other ↔ other.shape = data.shape ∧ data.IntegersFit other

section Built

attribute [local simp] MmsValue.CanTake ComponentsCanTake ComponentCanTake Data.shape Data.shapes
  Data.IntegersFit Data.AllIntegersFit

namespace MmsValue

theorem builtFor_boolean (value other : Bool) :
    (MmsValue.boolean value).BuiltFor (.boolean other) := by
  intro data
  cases data <;> simp

theorem builtFor_bitString {value : BitString} {bits : List Bool}
    (size : bits.length = value.size) : (MmsValue.bitString value).BuiltFor (.bitString bits) := by
  intro data
  cases data <;> simp [size]

theorem builtFor_integer {value : Asn1PrimitiveValue} {octets : List UInt8}
    (capacity : value.maxSize = Data.integerCapacity octets.length) :
    (MmsValue.integer value).BuiltFor (.integer octets) := by
  intro data
  cases data <;> simp [capacity]

theorem builtFor_unsigned {value : Asn1PrimitiveValue} {octets : List UInt8}
    (capacity : value.maxSize = Data.integerCapacity octets.length) :
    (MmsValue.unsigned value).BuiltFor (.unsigned octets) := by
  intro data
  cases data <;> simp [capacity]

theorem builtFor_float (value : FloatingPoint) (octets : List UInt8) :
    (MmsValue.float value).BuiltFor (.float value.width octets) := by
  intro data
  cases data <;> simp [eq_comm]

theorem builtFor_octetString (value : OctetString) (octets : List UInt8) :
    (MmsValue.octetString value).BuiltFor (.octetString octets) := by
  intro data
  cases data <;> simp

theorem builtFor_visibleString (value : VisibleString) (text : Option (List UInt8)) :
    (MmsValue.visibleString value).BuiltFor (.visibleString text) := by
  intro data
  cases data <;> simp

theorem builtFor_binaryTime {value : BinaryTime} {octets : List UInt8}
    (size : octets.length = value.size) :
    (MmsValue.binaryTime value).BuiltFor (.binaryTime octets) := by
  intro data
  cases data <;> simp [size]

theorem builtFor_utcTime (value : Octets 8) (octets : List UInt8) :
    (MmsValue.utcTime value).BuiltFor (.utcTime octets) := by
  intro data
  cases data <;> simp

end MmsValue

/-- The storage of components is what is built for a list of data. -/
def ComponentsBuiltFor (components : Components) (data : List Data) : Prop :=
  ∀ other, ComponentsCanTake components other ↔
    Data.shapes other = Data.shapes data ∧ Data.AllIntegersFit data other

theorem MmsValue.builtFor_complex {type : ComplexType} {components : Components}
    {data : List Data} (built : ComponentsBuiltFor components data) :
    (MmsValue.complex type components).BuiltFor (.complex type data) := by
  intro other
  cases other <;> simp [built _]
  constructor
  · rintro ⟨rfl, shape, fit⟩
    exact ⟨⟨rfl, shape⟩, fit⟩
  · rintro ⟨⟨rfl, shape⟩, fit⟩
    exact ⟨rfl, shape, fit⟩

theorem componentsBuiltFor_nil : ComponentsBuiltFor [] [] := by
  intro other
  cases other <;> simp

theorem componentsBuiltFor_cons {value : MmsValue} {components : Components} {data : Data}
    {others : List Data} (first : value.BuiltFor data)
    (rest : ComponentsBuiltFor components others) :
    ComponentsBuiltFor (some value :: components) (data :: others) := by
  intro other
  cases other with
  | nil => simp
  | cons head tail =>
      simp [first head, rest tail]
      tauto

end Built

end GridGooseSV
