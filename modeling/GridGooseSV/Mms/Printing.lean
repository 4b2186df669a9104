import GridGooseSV.Mms.Printer

/-!
# What is printed of a value

A value is printed inside its buffer if and only if none of its components starts at the end of
the buffer and none of its bit strings is exactly as long as what is left for it. The string that
is then in the buffer is that of the value, cut to the buffer.
-/

namespace GridGooseSV.MmsValue

/-! ## What a value is printed as -/

mutual

/-- The string of a value in a buffer with room for `room` octets. A bit string that is too long
for the room is not printed at all. -/
def shown : MmsValue → (room : Nat) → List UInt8
  | .complex _ components, room =>
    (0x7b :: shownComponents components room 1 ++ [0x7d]).take (room - 1)
  | .bitString value, room => if value.size > room then [] else bitChars value
  | .octetString value, room => (hexChars (value.buf.take value.size)).take (room - 1)
  | .boolean value, room => (formatted (.boolean value)).val.take (room - 1)
  | .dataAccessError code, room => (formatted (.dataAccessError code)).val.take (room - 1)
  | .float value, room => (formatted (.float value)).val.take (room - 1)
  | .integer value, room => (formatted (.integer value)).val.take (room - 1)
  | .unsigned value, room => (formatted (.unsigned value)).val.take (room - 1)
  | .binaryTime value, room => (formatted (.binaryTime value)).val.take (room - 1)
  | .utcTime value, room => (formatted (.utcTime value)).val.take (room - 1)
  | .visibleString value, room => (formatted (.visibleString value)).val.take (room - 1)
  | .string value, room => (formatted (.string value)).val.take (room - 1)
  | .unsupported type, room => (formatted (.unsupported type)).val.take (room - 1)

/-- The strings of components from a position on, with commas between them. -/
def shownComponents : Components → (room bufPos : Nat) → List UInt8
  | [], _, _ => []
  | component :: rest, room, bufPos =>
    let currentStr := shownComponent component (room - bufPos)
    if rest.isEmpty then currentStr
    else currentStr ++ 0x2c :: shownComponents rest room (bufPos + currentStr.length + 1)

def shownComponent : Option MmsValue → (room : Nat) → List UInt8
  | none, room => (CString.ofString "(null)").val.take (room - 1)
  | some value, room => value.shown room

end

mutual

/-- Every component starts inside the buffer, no bit string is as long as its room, and no string
is NULL. -/
def Fits : MmsValue → (room : Nat) → Prop
  | .complex _ components, room => ComponentsFit components room 1
  | .bitString value, room => value.size ≠ room
  | .visibleString value, _ | .string value, _ => value.buf.isSome
  | _, _ => True

def ComponentsFit : Components → (room bufPos : Nat) → Prop
  | [], _, _ => True
  | component :: rest, room, bufPos =>
    bufPos < room ∧ ComponentFits component (room - bufPos) ∧
      ComponentsFit rest room (bufPos + (shownComponent component (room - bufPos)).length + 1)

def ComponentFits : Option MmsValue → (room : Nat) → Prop
  | none, _ => True
  | some value, room => value.Fits room

end

/-! ## Simple types -/

/-- Whether a string is printed in a buffer depends on a condition. -/
structure Prints (fits : Prop) (result : Option (List UInt8)) (size : Nat)
    (string : List UInt8) : Prop where
  inside : fits → ∃ after, result = some after ∧ Shows after size string
  outside : ¬ fits → result = none

section Simple

variable {buffer : List UInt8}

theorem prints_snprintf (nonempty : buffer ≠ []) (string : CString) :
    Prints True (some (snprintf buffer string)) buffer.length
      (string.val.take (buffer.length - 1)) where
  inside _ := ⟨_, rfl, shows_snprintf nonempty string⟩
  outside never := absurd trivial never

theorem prints_copyStringMax (nonempty : buffer ≠ []) (string : CString) :
    Prints True (StringUtils.copyStringMax buffer string) buffer.length
      (string.val.take (buffer.length - 1)) where
  inside _ := StringUtils.shows_copyStringMax nonempty string
  outside never := absurd trivial never

theorem prints_string (nonempty : buffer ≠ []) (value : VisibleString) (string : CString) :
    Prints (value.buf.isSome)
      (if value.buf.isSome then StringUtils.copyStringMax buffer string else none)
      buffer.length (string.val.take (buffer.length - 1)) := by
  by_cases there : value.buf.isSome
  · rw [if_pos there]
    exact ⟨fun _ => StringUtils.shows_copyStringMax nonempty string,
      fun never => absurd there never⟩
  · rw [if_neg there]
    exact ⟨fun isThere => absurd isThere there, fun _ => rfl⟩

theorem length_hexChars_one (octet : UInt8) :
    (CString.ofChars (Format.hexOctet octet)).val.length = 2 := by
  have two := length_hexOctet octet.toNat octet.toNat_lt
  rwa [UInt8.ofNat_toNat] at two

theorem hexChars_cons (octet : UInt8) (rest : List UInt8) :
    hexChars (octet :: rest) = (CString.ofChars (Format.hexOctet octet)).val ++ hexChars rest :=
  List.flatMap_cons

/-- The loop leaves the string that is terminated at its position, and what it adds. -/
theorem shows_printOctets (octets : List UInt8) {written rest : List UInt8}
    (absent : 0 ∉ written) :
    Shows (printOctets octets written.length (written ++ 0 :: rest))
      (written.length + (rest.length + 1))
      ((written ++ hexChars octets).take (written.length + rest.length)) := by
  induction octets generalizing written rest with
  | nil =>
      have all : (written ++ hexChars []).take (written.length + rest.length) = written := by
        rw [hexChars, List.flatMap_nil, List.append_nil, List.take_of_length_le (by omega)]
      rw [all]
      exact ⟨by simp [printOctets], absent, rest, rfl⟩
  | cons octet octets ih =>
      have two := length_hexChars_one octet
      rw [printOctets, hexChars_cons, List.take_left, List.drop_left]
      generalize CString.ofChars (Format.hexOctet octet) = digits at two ⊢
      have printed := shows_snprintf (List.cons_ne_nil 0 rest) digits
      generalize snprintf (0 :: rest) digits = after at printed ⊢
      rw [List.length_cons, Nat.add_sub_cancel] at printed
      have whole := (printed.prepend absent).length
      by_cases ended : written.length + 2 ≥ (written ++ after).length
      · rw [if_pos ended, List.take_length_add_append, List.take_append_of_le_length (by omega)]
        exact printed.prepend absent
      · rw [if_neg ended]
        rw [List.take_of_length_le (by omega)] at printed
        obtain ⟨others, rfl⟩ := printed.terminated
        have next := @ih (written ++ digits.val) others
          (CString.zero_notMem_append absent digits.property)
        have room := printed.length
        rw [List.length_append, List.length_cons, two] at room
        rw [List.length_append, two, List.append_assoc, List.append_assoc] at next
        have size : written.length + 2 + (others.length + 1) =
          written.length + (rest.length + 1) := by omega
        have cut : written.length + 2 + others.length = written.length + rest.length := by omega
        rwa [size, cut] at next

theorem zero_notMem_hexChars (octets : List UInt8) : 0 ∉ hexChars octets := by
  intro member
  obtain ⟨octet, _, inside⟩ := List.mem_flatMap.mp member
  exact (CString.ofChars (Format.hexOctet octet)).property inside

theorem zero_notMem_bitChars (value : BitString) : 0 ∉ bitChars value := by
  intro member
  obtain ⟨bitPos, _, zero⟩ := List.mem_map.mp member
  split at zero <;> contradiction

/-- A bit string and its terminator are written if it is shorter than the buffer, and not at all
if it is longer. -/
theorem prints_bitString (nonempty : buffer ≠ []) (value : BitString) :
    Prints (value.size ≠ buffer.length)
      (if value.size > buffer.length then some (List.replicate buffer.length 0)
        else (writeAll buffer 0 (bitChars value)).bind fun buffer => writeAt buffer value.size 0)
      buffer.length (if value.size > buffer.length then [] else bitChars value) := by
  have positive := List.length_pos_iff.mpr nonempty
  have chars : (bitChars value).length = value.size := by simp [bitChars]
  have absent := zero_notMem_bitChars value
  by_cases long : value.size > buffer.length
  · rw [if_pos long, if_pos long]
    refine ⟨fun _ => ⟨_, rfl, List.length_replicate, List.not_mem_nil,
      List.replicate (buffer.length - 1) 0, ?_⟩, fun exactly => absurd long (by omega)⟩
    rw [List.nil_append, ← List.replicate_succ, Nat.sub_add_cancel positive]
  · have written := @writeAll_append (bitChars value) [] buffer (by omega)
    rw [List.nil_append, List.length_nil, List.nil_append] at written
    rw [if_neg long, if_neg long, written, Option.bind_some]
    constructor
    · intro short
      have room : buffer.drop (bitChars value).length ≠ [] := by
        rw [Ne, List.drop_eq_nil_iff]
        omega
      have ended := writeAt_append (bitChars value) 0 room
      rw [chars] at ended room ⊢
      refine ⟨_, ended, ?_, absent, _, rfl⟩
      rw [List.length_append, List.length_cons, List.length_tail, List.length_drop, chars]
      omega
    · intro exactly
      rw [writeAt, if_neg]
      rw [List.length_append, List.length_drop]
      omega

end Simple

/-! ## Without room -/

theorem printToBuffer_nil (self : MmsValue) :
    self.printToBuffer [] = none ∨ self.printToBuffer [] = some [] := by
  cases self with
  | complex type components => exact .inr rfl
  | bitString value =>
      by_cases long : value.size > 0
      · exact .inr (if_pos long)
      · have empty : bitChars value = [] := by
          rw [bitChars, Nat.le_zero.mp (Nat.le_of_not_lt long), List.range_zero, List.map_nil]
        refine .inl ?_
        simp only [printToBuffer, List.set_nil, List.length_nil, if_neg long, empty]
        rfl
  | octetString value =>
      refine .inr ?_
      rw [printToBuffer, List.set_nil]
      cases value.buf.take value.size <;> rfl
  | visibleString value | string value =>
      rw [printToBuffer, List.set_nil, StringUtils.copyStringMax_nil, ite_self]
      exact .inl rfl
  | boolean value | unsupported type => exact .inl (StringUtils.copyStringMax_nil _)
  | binaryTime _ | dataAccessError _ | float _ | integer _ | unsigned _ | utcTime _ =>
      exact .inr rfl

/-- The string that was printed is sought behind the end. -/
theorem strlen_printComponent_nil (component : Option MmsValue) :
    (printComponent component []).bind strlen = none := by
  cases component with
  | none =>
      rw [printComponent, StringUtils.copyStringMax_nil]
      rfl
  | some value =>
      rw [printComponent]
      rcases printToBuffer_nil value with printed | printed
      · rw [printed]
        rfl
      · rw [printed]
        rfl

/-! ## Components -/

mutual

theorem zero_notMem_shown : (self : MmsValue) → (room : Nat) → 0 ∉ self.shown room
  | .complex _ components, room => by
      have others := zero_notMem_shownComponents components room 1
      rw [shown]
      intro member
      have inside := List.mem_of_mem_take member
      rw [List.mem_append, List.mem_cons, List.mem_singleton] at inside
      rcases inside with (first | inside) | last
      · contradiction
      · exact others inside
      · contradiction
  | .bitString value, room => by
      rw [shown]
      split
      · exact List.not_mem_nil
      · exact zero_notMem_bitChars value
  | .octetString value, room => fun member =>
      zero_notMem_hexChars _ (List.mem_of_mem_take member)
  | .boolean _, _ | .dataAccessError _, _ | .float _, _ | .integer _, _ | .unsigned _, _
  | .binaryTime _, _ | .utcTime _, _ | .visibleString _, _ | .string _, _
  | .unsupported _, _ => CString.zero_notMem_take _ _

theorem zero_notMem_shownComponents : (components : Components) → (room bufPos : Nat) →
    0 ∉ shownComponents components room bufPos
  | [], _, _ => List.not_mem_nil
  | component :: rest, room, bufPos => by
      have first := zero_notMem_shownComponent component (room - bufPos)
      rw [shownComponents]
      split
      · exact first
      · apply CString.zero_notMem_append first
        intro member
        rcases List.mem_cons.mp member with comma | member
        · contradiction
        · exact zero_notMem_shownComponents rest _ _ member

theorem zero_notMem_shownComponent : (component : Option MmsValue) → (room : Nat) →
    0 ∉ shownComponent component room
  | none, _ => CString.zero_notMem_take _ _
  | some value, room => zero_notMem_shown value room

end

/-- How the printing of components ends depends on a condition. -/
structure PrintsAll (fits : Prop) (result : Option (List UInt8 × Nat)) (size : Nat)
    (written : List UInt8) : Prop where
  inside : fits → ∃ rest, result = some (written ++ rest, written.length) ∧
    (written ++ rest).length = size
  outside : ¬ fits → result = none

/-- A component is printed, and then the others. -/
theorem printsAll_cons {component : Option MmsValue} {others : Components}
    {written rest : List UInt8}
    (first : ∀ {buffer : List UInt8}, buffer ≠ [] →
      Prints (ComponentFits component buffer.length) (printComponent component buffer)
        buffer.length (shownComponent component buffer.length))
    (following : ∀ {written rest : List UInt8},
      PrintsAll (ComponentsFit others (written.length + rest.length) written.length)
        (printComponents others (written ++ rest) written.length) (written.length + rest.length)
        (written ++ shownComponents others (written.length + rest.length) written.length)) :
    PrintsAll (ComponentsFit (component :: others) (written.length + rest.length) written.length)
      (printComponents (component :: others) (written ++ rest) written.length)
      (written.length + rest.length)
      (written ++
        shownComponents (component :: others) (written.length + rest.length) written.length) := by
  rw [printComponents, writeFrom, List.drop_left, List.take_left, shownComponents, ComponentsFit,
    Nat.add_sub_cancel_left]
  by_cases full : rest = []
  · subst full
    refine ⟨fun fits => absurd fits.1 (Nat.lt_irrefl _), fun _ => ?_⟩
    have sought := strlen_printComponent_nil component
    cases printed : printComponent component [] with
    | none => rfl
    | some after =>
        rw [printed, Option.bind_some] at sought
        simp only [Option.map_some, Option.bind_eq_bind, Option.bind_some, List.drop_left, sought,
          Option.bind_none]
  · have positive := List.length_pos_iff.mpr full
    by_cases fits : ComponentFits component rest.length
    · obtain ⟨after, printed, shows⟩ := (first full).inside fits
      have short := shows.length_lt
      have length := shows.length
      generalize shownComponent component rest.length = currentStr at shows short ⊢
      simp only [printed, Option.map_some, Option.bind_eq_bind, Option.bind_some, List.drop_left,
        shows.strlen_eq]
      rw [if_neg (by rw [List.length_append]; omega)]
      obtain ⟨behind, rfl⟩ := shows.terminated
      rw [List.length_append, List.length_cons] at length
      cases others with
      | nil =>
          refine ⟨fun _ => ⟨0 :: behind, ?_, ?_⟩, fun never => absurd ?_ never⟩
          · rw [List.isEmpty_nil, if_pos rfl, if_pos rfl, List.append_assoc, List.length_append]
          · rw [List.isEmpty_nil, if_pos rfl, List.length_append, List.length_append,
              List.length_cons]
            omega
          · exact ⟨by omega, fits, trivial⟩
      | cons next others =>
          have joined (tail : List UInt8) : written ++ currentStr ++ [0x2c] ++ tail =
              written ++ (currentStr ++ 0x2c :: tail) := by simp
          have position : (written ++ currentStr ++ [0x2c]).length =
              written.length + currentStr.length + 1 := by
            rw [List.length_append, List.length_append, List.length_singleton]
          have size : written.length + currentStr.length + 1 + behind.length =
              written.length + rest.length := by omega
          have comma := writeAt_append (written ++ currentStr) 0x2c (List.cons_ne_nil 0 behind)
          rw [List.append_assoc, List.append_assoc, List.length_append, List.tail_cons] at comma
          have continued := @following (written ++ currentStr ++ [0x2c]) behind
          rw [position, size, joined, joined] at continued
          rw [List.isEmpty_cons, if_neg Bool.false_ne_true, if_neg Bool.false_ne_true, comma,
            Option.bind_some]
          refine ⟨fun all => continued.inside all.2.2, fun never => continued.outside ?_⟩
          exact fun others => never ⟨by omega, fits, others⟩
    · have printed := (first full).outside fits
      refine ⟨fun all => absurd all.2.1 fits, fun _ => ?_⟩
      rw [printed]
      rfl

/-- A closing brace is written if there is room for it, and a terminator in any case. -/
theorem shows_closed {written rest : List UInt8} {size : Nat} (absent : 0 ∉ written)
    (whole : (written ++ rest).length = size) (positive : 0 < size) :
    ∃ after,
      (if written.length < size - 1 then
        (writeAt (written ++ rest) written.length 0x7d).bind
          fun buffer => writeAt buffer (written.length + 1) 0
      else writeAt (written ++ rest) (size - 1) 0) = some after ∧
      Shows after size ((written ++ [0x7d]).take (size - 1)) := by
  by_cases room : written.length < size - 1
  · rw [List.length_append] at whole
    obtain ⟨first, others, rfl⟩ := List.exists_cons_of_length_pos (by omega : 0 < rest.length)
    rw [List.length_cons] at whole
    have more := List.length_pos_iff.mp (by omega : 0 < others.length)
    have ended := writeAt_append (written ++ [0x7d]) 0 more
    rw [List.length_append, List.length_singleton, List.append_assoc,
      List.singleton_append] at ended
    rw [if_pos room, writeAt_append written 0x7d (List.cons_ne_nil _ _), Option.bind_some,
      List.tail_cons, List.take_of_length_le
        (by rw [List.length_append, List.length_singleton]; omega)]
    refine ⟨_, ended, ?_, ?_, _, rfl⟩
    · rw [List.length_append, List.length_append, List.length_singleton, List.length_cons,
        List.length_tail]
      omega
    · exact CString.zero_notMem_append absent (by simp)
  · have short : size - 1 ≤ written.length := Nat.le_of_not_lt room
    have front : (written ++ [0x7d]).take (size - 1) = (written ++ rest).take (size - 1) := by
      rw [List.take_append_of_le_length short, List.take_append_of_le_length short]
    have last : (written ++ rest).drop (size - 1) ≠ [] := by
      rw [Ne, List.drop_eq_nil_iff]
      omega
    have ended := writeAt_append ((written ++ rest).take (size - 1)) 0 last
    rw [List.take_append_drop, List.length_take, Nat.min_eq_left (by omega)] at ended
    rw [if_neg room, front]
    refine ⟨_, ended, ?_, ?_, _, rfl⟩
    · rw [List.length_append, List.length_cons, List.length_tail, List.length_take,
        List.length_drop]
      omega
    · rw [List.take_append_of_le_length short]
      exact fun member => absent (List.mem_of_mem_take member)

theorem printToBuffer_complex (type : ComplexType) (components : Components) (first : UInt8)
    (rest : List UInt8) :
    (complex type components).printToBuffer (first :: rest) =
      (printComponents components ([0x7b] ++ rest) 1).bind fun printed =>
        if printed.2 < printed.1.length - 1 then
          (writeAt printed.1 printed.2 0x7d).bind fun buffer => writeAt buffer (printed.2 + 1) 0
        else writeAt printed.1 (printed.1.length - 1) 0 := by
  rw [printToBuffer]
  rfl

mutual

/-- A value is printed inside its buffer exactly if it fits there. -/
theorem prints : (self : MmsValue) → {buffer : List UInt8} → buffer ≠ [] →
    Prints (self.Fits buffer.length) (self.printToBuffer buffer) buffer.length
      (self.shown buffer.length)
  | .complex type components, first :: rest, _ => by
      have all := @printsComponents components [0x7b] rest
      have absent := zero_notMem_shownComponents components (rest.length + 1) 1
      rw [List.length_singleton, Nat.add_comm] at all
      refine ⟨fun fits => ?_, fun never => ?_⟩
      · obtain ⟨behind, printed, whole⟩ := all.inside fits
        obtain ⟨after, closed, shows⟩ := shows_closed
          (CString.zero_notMem_append (by decide) absent) whole (Nat.succ_pos _)
        refine ⟨after, ?_, shows⟩
        rw [printToBuffer_complex, printed, Option.bind_some, whole]
        exact closed
      · rw [printToBuffer_complex, all.outside never, Option.bind_none]
  | .bitString value, first :: rest, _ => prints_bitString (List.cons_ne_nil 0 rest) value
  | .octetString value, first :: rest, _ => by
      have printed := @shows_printOctets (value.buf.take value.size) [] rest List.not_mem_nil
      rw [List.length_nil, Nat.zero_add, Nat.zero_add] at printed
      exact ⟨fun _ => ⟨_, rfl, printed⟩, fun never => absurd trivial never⟩
  | .boolean _, first :: rest, _ | .unsupported _, first :: rest, _ =>
      prints_copyStringMax (List.cons_ne_nil 0 rest) _
  | .visibleString value, first :: rest, _ =>
      prints_string (List.cons_ne_nil 0 rest) value (formatted (.visibleString value))
  | .string value, first :: rest, _ =>
      prints_string (List.cons_ne_nil 0 rest) value (formatted (.string value))
  | .binaryTime _, first :: rest, _ | .dataAccessError _, first :: rest, _
  | .float _, first :: rest, _ | .integer _, first :: rest, _ | .unsigned _, first :: rest, _
  | .utcTime _, first :: rest, _ => prints_snprintf (List.cons_ne_nil 0 rest) _

theorem printsComponents : (components : Components) → {written rest : List UInt8} →
    PrintsAll (ComponentsFit components (written.length + rest.length) written.length)
      (printComponents components (written ++ rest) written.length)
      (written.length + rest.length)
      (written ++ shownComponents components (written.length + rest.length) written.length)
  | [], written, rest => by
      refine ⟨fun _ => ⟨rest, ?_, ?_⟩, fun never => absurd trivial never⟩
      · rw [printComponents, shownComponents, List.append_nil]
      · rw [shownComponents, List.append_nil, List.length_append]
  | component :: others, written, rest =>
      printsAll_cons (printsComponent component) (printsComponents others)

theorem printsComponent : (component : Option MmsValue) → {buffer : List UInt8} → buffer ≠ [] →
    Prints (ComponentFits component buffer.length) (printComponent component buffer)
      buffer.length (shownComponent component buffer.length)
  | none, _, nonempty => prints_copyStringMax nonempty _
  | some value, _, nonempty => prints value nonempty

end

/-! ## Buffers -/

/-- `MmsValue_printToBuffer` stays inside the buffer and leaves a string there. -/
def PrintedInside (self : Option MmsValue) (buffer : List UInt8) : Prop :=
  ∃ after, printComponent self buffer = some after ∧ after.length = buffer.length ∧ 0 ∈ after

/-- Printing stays inside the buffer if and only if the value fits there. -/
theorem printedInside_iff (self : Option MmsValue) {buffer : List UInt8}
    (nonempty : 1 ≤ buffer.length) :
    PrintedInside self buffer ↔ ComponentFits self buffer.length := by
  have printed := printsComponent self (List.length_pos_iff.mp nonempty)
  constructor
  · intro inside
    by_contra never
    obtain ⟨after, same, _⟩ := inside
    rw [printed.outside never] at same
    contradiction
  · intro fits
    obtain ⟨after, same, shows⟩ := printed.inside fits
    exact ⟨after, same, shows.length, shows.zero_mem⟩

/-- A list of two values, the second of which is cut. -/
theorem printedInside_cut :
    PrintedInside (some (.complex .structure [some (.boolean true), none]))
      (List.replicate 8 0x78) := by
  apply (printedInside_iff _ (by decide)).mpr
  simp only [ComponentFits, Fits, ComponentsFit]
  decide +kernel

/-- The terminator of four bits is written behind a buffer of four octets. -/
theorem bits_printedOutside :
    ¬ PrintedInside (some (.bitString (newBitString 4))) (List.replicate 4 0x78) := by
  rintro ⟨after, printed, _⟩
  have outside : printComponent (some (.bitString (newBitString 4))) (List.replicate 4 0x78) =
      none := by
    decide +kernel
  rw [outside] at printed
  contradiction

/-- The first component of a structure is written behind a buffer of one octet. -/
example : printToBuffer (.complex .structure [some (.boolean true)]) [0x78] = none := by
  decide +kernel

end GridGooseSV.MmsValue
