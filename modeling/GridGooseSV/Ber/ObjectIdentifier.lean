import GridGooseSV.Foundation.Base128
import GridGooseSV.Foundation.Decimal
import GridGooseSV.Foundation.Memory
import GridGooseSV.Foundation.Numeral
import Mathlib.Data.List.GetD

/-!
# Object identifiers

After `ber_encoder.cc` and `ber_decode.cc`. The encoder takes a text of numbers with separators
between them, and the decoder gives at most ten numbers of 16 bits.
-/

namespace GridGooseSV

namespace BerEncoder

/-- The pointers behind each separator of a string, as `strchr` finds one after another. -/
def afterSeparators (sepChar : UInt8) : List UInt8 → List (List UInt8)
  | [] => []
  | character :: rest =>
    if character = sepChar then rest :: afterSeparators sepChar rest
    else afterSeparators sepChar rest

/-- The separator that a string is taken to have. -/
def sepCharOf (oidString : List UInt8) : UInt8 :=
  if 0x2e ∈ oidString then 0x2e else if 0x2c ∈ oidString then 0x2c else 0x20

/-- The loop that counts the octets of an arc. -/
def requiredBytes (val2 : Nat) : Nat :=
  if 0 < val2 then requiredBytes (val2 >>> 7) + 1 else 0
termination_by val2
decreasing_by
  rw [Nat.shiftRight_eq_div_pow]
  exact Nat.div_lt_self ‹_› (by decide)

/-- What was written from the start of the buffer, and what is returned. -/
structure EncodedOID where
  written : List UInt8
  returned : Nat
  deriving DecidableEq, Repr

/-- The loop that writes the octets of an arc: what is written then, and whether all of them
were. -/
def writeArc (maxBufLen : Int) (val : Nat) : Nat → List UInt8 → List UInt8 × Bool
  | 0, written => (written, true)
  | requiredBytes + 1, written =>
    let val2 := (val >>> (7 * requiredBytes)) &&& 0x7f
    let val2 := if 0 < requiredBytes then val2 + 128 else val2
    if (written.length : Int) = maxBufLen then (written, false)
    else writeArc maxBufLen val requiredBytes (written ++ [UInt8.ofNat val2])

/-- The loop of `BerEncoder_encodeOIDToBuffer` over the arcs behind the second one. -/
def encodeArcs (maxBufLen : Int) : List (List UInt8) → List UInt8 → Option EncodedOID
  | [], written => some ⟨written, written.length⟩
  | text :: rest, written => do
    let val ← atoi text
    if val = 0 then encodeArcs maxBufLen rest (written ++ [0])
    else
      match writeArc maxBufLen val.toNat (requiredBytes val.toNat) written with
      | (written, true) => encodeArcs maxBufLen rest written
      | (written, false) => some ⟨written, 0⟩

/-- `BerEncoder_encodeOIDToBuffer`; `none` for numbers that are no `int`. -/
def encodeOIDToBuffer (oidString : List UInt8) (maxBufLen : Int) : Option EncodedOID := do
  let x ← atoi oidString
  match afterSeparators (sepCharOf oidString) oidString with
  | [] => some ⟨[], 0⟩
  | second :: rest =>
    let y ← atoi second
    let val ← (checkedInt (x * 40)).bind fun product => checkedInt (product + y)
    if 0 < maxBufLen then encodeArcs maxBufLen rest [UInt8.ofNat (val % 256).toNat]
    else some ⟨[], 0⟩

end BerEncoder

/-- `ItuObjectIdentifier`. -/
structure ItuObjectIdentifier where
  arc : List UInt16
  arcCount : Nat
  ten : arc.length = 10
  deriving DecidableEq

namespace BerDecoder

/-- The loop of `BerDecoder_decodeOID` over the arcs behind the second one: the arcs and their
number. -/
def decodeArcs : (octets : List UInt8) → (currentArc : Nat) → List UInt16 → List UInt16 × Nat
  | [], currentArc, arcs => (arcs, currentArc)
  | octet :: rest, currentArc, arcs =>
    if currentArc < 10 then
      let shifted := arcs.getD currentArc 0 <<< 7
      if octet < 0x80 then
        decodeArcs rest (currentArc + 1) (arcs.set currentArc (shifted + octet.toUInt16))
      else decodeArcs rest currentArc (arcs.set currentArc (shifted + (octet &&& 0x7f).toUInt16))
    else (arcs, currentArc)

theorem length_decodeArcs (octets : List UInt8) (currentArc : Nat) (arcs : List UInt16) :
    (decodeArcs octets currentArc arcs).1.length = arcs.length := by
  induction octets generalizing currentArc arcs with
  | nil => rfl
  | cons octet rest ih =>
      rw [decodeArcs]
      split
      · split
        · rw [ih, List.length_set]
        · rw [ih, List.length_set]
      · rfl

/-- The arcs after the first octet, and where the next one goes. -/
def firstArcs : List UInt8 → List UInt16 × Nat
  | [] => (List.replicate 10 0, 0)
  | octet :: _ => ((octet / 40).toUInt16 :: (octet % 40).toUInt16 :: List.replicate 8 0, 2)

theorem length_firstArcs (octets : List UInt8) : (firstArcs octets).1.length = 10 := by
  cases octets <;> rfl

/-- `BerDecoder_decodeOID`. -/
def decodeOID (memory : Memory) (bufPos length : Nat) : ItuObjectIdentifier :=
  let octets := memory.octets bufPos length
  let arcs := firstArcs octets
  let decoded := decodeArcs octets.tail arcs.2 arcs.1
  ⟨decoded.1, decoded.2, by rw [length_decodeArcs, length_firstArcs]⟩

end BerDecoder

/-! ## Writing -/

namespace BerEncoder

theorem requiredBytes_eq (number : Nat) : requiredBytes number = septetCount number := by
  induction number using septetCount.induct with
  | case1 => rw [requiredBytes, septetCount, if_neg (Nat.lt_irrefl 0), if_pos rfl]
  | case2 number some ih =>
      have shifted : number >>> 7 = number / 128 := Nat.shiftRight_eq_div_pow number 7
      rw [requiredBytes, septetCount, if_pos (Nat.pos_of_ne_zero some), if_neg some, shifted, ih]

/-- The octet of a group, as the loop computes it. -/
theorem octet_eq (val place : Nat) :
    UInt8.ofNat (if 0 < place then ((val >>> (7 * place)) &&& 0x7f) + 128
      else (val >>> (7 * place)) &&& 0x7f) = septet val place := by
  have power : 2 ^ (7 * place) = 128 ^ place := by rw [Nat.pow_mul]
  have masked : (val >>> (7 * place)) &&& 0x7f = val / 128 ^ place % 128 := by
    rw [Nat.shiftRight_eq_div_pow, power]
    exact Nat.and_two_pow_sub_one_eq_mod _ 7
  rw [masked, septet]
  by_cases last : place = 0
  · rw [if_neg (by omega), if_pos last, Nat.add_zero]
  · rw [if_pos (Nat.pos_of_ne_zero last), if_neg last]

/-- An arc is written as far as there is room; past the end of the buffer there always is. -/
theorem writeArc_eq (maxBufLen : Nat) (val count : Nat) (written : List UInt8) :
    writeArc maxBufLen val count written =
      if maxBufLen < written.length ∨ written.length + count ≤ maxBufLen then
        (written ++ septets val count, true)
      else (written ++ (septets val count).take (maxBufLen - written.length), false) := by
  induction count generalizing written with
  | zero =>
      rw [if_pos (by omega), writeArc, septets, List.append_nil]
  | succ place ih =>
      rw [writeArc]
      simp only [octet_eq, ih, List.length_append, List.length_singleton, septets]
      by_cases full : written.length = maxBufLen
      · rw [if_pos (by exact_mod_cast full), if_neg (by omega), full, Nat.sub_self, List.take_zero,
          List.append_nil]
      · rw [if_neg (by exact_mod_cast full)]
        by_cases room : maxBufLen < written.length ∨ written.length + (place + 1) ≤ maxBufLen
        · rw [if_pos room, if_pos (by omega), List.append_assoc, List.singleton_append]
        · have left : maxBufLen - written.length = maxBufLen - (written.length + 1) + 1 := by omega
          rw [if_neg room, if_neg (by omega), left, List.take_succ_cons, List.append_assoc,
            List.singleton_append]

/-- How many octets an arc takes. -/
def arcSize (val : Int) : Nat := if val = 0 then 1 else requiredBytes val.toNat

/-- An arc with the value zero comes up when the arcs before it have filled the buffer. -/
def ZeroWhenFull (maxBufLen size : Nat) (texts : List (List UInt8)) : Prop :=
  ∃ before text rest values, texts = before ++ text :: rest ∧ before.mapM atoi = some values ∧
    size + (values.map arcSize).sum = maxBufLen ∧ atoi text = some 0

section Overrunning

variable {maxBufLen size : Nat} {text : List UInt8} {texts : List (List UInt8)} {val : Int}

theorem zeroWhenFull_cons (value : atoi text = some val) :
    ZeroWhenFull maxBufLen size (text :: texts) ↔
      size = maxBufLen ∧ val = 0 ∨ ZeroWhenFull maxBufLen (size + arcSize val) texts := by
  constructor
  · rintro ⟨before, zero, rest, values, split, read, full, none⟩
    cases before with
    | nil =>
        obtain ⟨rfl, rfl⟩ := List.cons.inj split
        obtain rfl := Option.some.inj read
        exact .inl ⟨full, Option.some.inj (value.symm.trans none)⟩
    | cons first others =>
        obtain ⟨rfl, rfl⟩ := List.cons.inj split
        simp only [List.mapM_cons, value, Option.bind_eq_bind, Option.bind_some,
          Option.pure_def, Option.bind_eq_some_iff, Option.some.injEq] at read
        obtain ⟨values, others, rfl⟩ := read
        rw [List.map_cons, List.sum_cons, ← Nat.add_assoc] at full
        exact .inr ⟨_, zero, rest, values, rfl, others, full, none⟩
  · rintro (⟨full, rfl⟩ | ⟨before, zero, rest, values, rfl, read, full, none⟩)
    · exact ⟨[], text, texts, [], rfl, rfl, full, value⟩
    · refine ⟨text :: before, zero, rest, val :: values, rfl, ?_, ?_, none⟩
      · rw [List.mapM_cons, value]
        exact congrArg (Option.bind · _) read
      · rw [List.map_cons, List.sum_cons, ← Nat.add_assoc]
        exact full

theorem not_zeroWhenFull_of_lt (more : maxBufLen < size) : ¬ ZeroWhenFull maxBufLen size texts := by
  rintro ⟨_, _, _, _, _, _, full, _⟩
  omega

theorem encodeArcs_zero (value : atoi text = some 0) (written : List UInt8) :
    encodeArcs maxBufLen (text :: texts) written =
      encodeArcs maxBufLen texts (written ++ [0]) := by
  rw [encodeArcs, value]
  simp only [Option.bind_eq_bind, Option.bind_some, if_true]

theorem encodeArcs_cons (value : atoi text = some val) (some : val ≠ 0) (written : List UInt8) :
    encodeArcs maxBufLen (text :: texts) written =
      if maxBufLen < written.length ∨ written.length + requiredBytes val.toNat ≤ maxBufLen then
        encodeArcs maxBufLen texts (written ++ septets val.toNat (requiredBytes val.toNat))
      else .some ⟨written ++
        (septets val.toNat (requiredBytes val.toNat)).take (maxBufLen - written.length), 0⟩ := by
  rw [encodeArcs, value]
  simp only [Option.bind_eq_bind, Option.bind_some, if_neg some, writeArc_eq]
  by_cases room : maxBufLen < written.length ∨
      written.length + requiredBytes val.toNat ≤ maxBufLen
  · simp only [if_pos room]
  · simp only [if_neg room]

/-- Nothing that was written is taken back. -/
theorem length_le_encodeArcs {written : List UInt8} {encoded : EncodedOID}
    (encodes : encodeArcs maxBufLen texts written = some encoded) :
    written.length ≤ encoded.written.length := by
  induction texts generalizing written with
  | nil =>
      obtain rfl := Option.some.inj encodes
      exact Nat.le_refl _
  | cons text rest ih =>
      obtain ⟨val, value, _⟩ := Option.bind_eq_some_iff.mp encodes
      by_cases zero : val = 0
      · rw [encodeArcs_zero (zero ▸ value)] at encodes
        have later := ih encodes
        rw [List.length_append] at later
        omega
      · rw [encodeArcs_cons value zero] at encodes
        split at encodes
        · have later := ih encodes
          rw [List.length_append] at later
          omega
        · obtain rfl := Option.some.inj encodes
          rw [List.length_append]
          omega

/-- The arcs stay in the buffer unless there is a zero that nothing checks. -/
theorem encodeArcs_inside_iff {written : List UInt8} {encoded : EncodedOID}
    (encodes : encodeArcs maxBufLen texts written = some encoded)
    (inside : written.length ≤ maxBufLen) :
    encoded.written.length ≤ maxBufLen ↔ ¬ ZeroWhenFull maxBufLen written.length texts := by
  induction texts generalizing written with
  | nil =>
      obtain rfl := Option.some.inj encodes
      refine iff_of_true inside ?_
      rintro ⟨_, _, _, _, split, _⟩
      simp at split
  | cons text rest ih =>
      obtain ⟨val, value, _⟩ := Option.bind_eq_some_iff.mp encodes
      rw [zeroWhenFull_cons value]
      by_cases zero : val = 0
      · have size : arcSize val = 1 := if_pos zero
        rw [encodeArcs_zero (zero ▸ value)] at encodes
        have later := length_le_encodeArcs encodes
        rw [List.length_append, List.length_singleton] at later
        rw [size]
        by_cases full : written.length = maxBufLen
        · exact iff_of_false (by omega) (fun none => none (.inl ⟨full, zero⟩))
        · have next := ih encodes (by rw [List.length_append, List.length_singleton]; omega)
          rw [List.length_append, List.length_singleton] at next
          rw [next]
          simp [full]
      · have size : arcSize val = requiredBytes val.toNat := if_neg zero
        rw [encodeArcs_cons value zero] at encodes
        rw [size]
        by_cases fits : maxBufLen < written.length ∨
            written.length + requiredBytes val.toNat ≤ maxBufLen
        · rw [if_pos fits] at encodes
          have next := ih encodes (by rw [List.length_append, length_septets]; omega)
          rw [List.length_append, length_septets] at next
          rw [next]
          simp [zero]
        · rw [if_neg fits] at encodes
          obtain rfl := Option.some.inj encodes
          have none := @not_zeroWhenFull_of_lt maxBufLen
            (written.length + requiredBytes val.toNat) rest (by omega)
          refine iff_of_true ?_ (by simp [zero, none])
          rw [List.length_append, List.length_take]
          omega

end Overrunning

/-- The encoder stays in a buffer unless an arc with the value zero comes up when the buffer is
full. -/
theorem encodeOID_inside_iff {oidString : List UInt8} {maxBufLen : Nat} {encoded : EncodedOID}
    (encodes : encodeOIDToBuffer oidString maxBufLen = some encoded) :
    encoded.written.length ≤ maxBufLen ↔
      ¬ ZeroWhenFull maxBufLen 1 (afterSeparators (sepCharOf oidString) oidString).tail := by
  obtain ⟨x, _, encodes⟩ := Option.bind_eq_some_iff.mp encodes
  split at encodes
  · rename_i none
    obtain rfl := Option.some.inj encodes
    rw [none]
    refine iff_of_true (Nat.zero_le _) ?_
    rintro ⟨_, _, _, _, split, _⟩
    simp at split
  · rename_i second rest found
    obtain ⟨y, _, encodes⟩ := Option.bind_eq_some_iff.mp encodes
    obtain ⟨val, _, encodes⟩ := Option.bind_eq_some_iff.mp encodes
    rw [found, List.tail_cons]
    by_cases room : (0 : Int) < maxBufLen
    · rw [if_pos room] at encodes
      exact encodeArcs_inside_iff encodes (by rw [List.length_singleton]; omega)
    · rw [if_neg room] at encodes
      obtain rfl := Option.some.inj encodes
      exact iff_of_true (Nat.zero_le _) (not_zeroWhenFull_of_lt (by omega))

/-- The zero of `1.2.0` is written behind a buffer of one octet. -/
theorem encodeOID_inside_iff_zero :
    let oidString : List UInt8 := [0x31, 0x2e, 0x32, 0x2e, 0x30]
    encodeOIDToBuffer oidString 1 = some ⟨[42, 0], 2⟩ ∧
      ([42, 0].length ≤ 1 ↔
        ¬ ZeroWhenFull 1 1 (afterSeparators (sepCharOf oidString) oidString).tail) := by
  have encodes : encodeOIDToBuffer [0x31, 0x2e, 0x32, 0x2e, 0x30] (1 : Nat) =
      some ⟨[42, 0], 2⟩ := by decide +kernel
  exact ⟨encodes, encodeOID_inside_iff encodes⟩

/-! ## Texts -/

/-- The numbers behind the first one, with a separator in front of each. -/
def oidTail (sepChar : UInt8) (arcs : List Nat) : List UInt8 :=
  arcs.flatMap fun arc => sepChar :: decimal arc

/-- A text of numbers. -/
def oidText (sepChar : UInt8) : List Nat → List UInt8
  | [] => []
  | first :: rest => decimal first ++ oidTail sepChar rest

/-- The characters that separate numbers. -/
def separators : List UInt8 := [0x2e, 0x2c, 0x20]

section Texts

variable {sepChar : UInt8} {arcs : List Nat}

theorem not_isDigit_of_separator (separator : sepChar ∈ separators) :
    isDigit sepChar = false := by
  simp only [separators, List.mem_cons, List.not_mem_nil, or_false] at separator
  rcases separator with rfl | rfl | rfl <;> decide

theorem notMem_decimal (separator : sepChar ∈ separators) (number : Nat) :
    sepChar ∉ decimal number := by
  intro member
  have digit := isDigit_of_mem_decimal member
  rw [not_isDigit_of_separator separator] at digit
  contradiction

theorem afterSeparators_append {front rest : List UInt8} (absent : sepChar ∉ front) :
    afterSeparators sepChar (front ++ rest) = afterSeparators sepChar rest := by
  induction front with
  | nil => rfl
  | cons character front ih =>
      rw [List.mem_cons, not_or] at absent
      rw [List.cons_append, afterSeparators, if_neg (Ne.symm absent.1), ih absent.2]

theorem afterSeparators_oidTail (separator : sepChar ∈ separators) (arc : Nat) :
    afterSeparators sepChar (oidTail sepChar (arc :: arcs)) =
      (decimal arc ++ oidTail sepChar arcs) :: afterSeparators sepChar (oidTail sepChar arcs) := by
  rw [oidTail, List.flatMap_cons, List.cons_append, afterSeparators, if_pos rfl]
  exact congrArg _ (afterSeparators_append (notMem_decimal separator arc))

/-- Reading stops in front of a separator. -/
theorem atoi_oidTail (separator : sepChar ∈ separators) {arc : Nat} (small : arc < 2 ^ 31) :
    atoi (decimal arc ++ oidTail sepChar arcs) = some (arc : Int) := by
  apply atoi_decimal small
  intro character first
  cases arcs with
  | nil => contradiction
  | cons next rest =>
      obtain rfl := Option.some.inj first
      exact not_isDigit_of_separator separator

/-- A text has the separator that it was made with. -/
theorem sepCharOf_oidText (separator : sepChar ∈ separators) (first second : Nat) :
    sepCharOf (oidText sepChar (first :: second :: arcs)) = sepChar := by
  have only : ∀ other ∈ separators, other ≠ sepChar → ∀ arcs, other ∉ oidText sepChar arcs := by
    intro other separates different arcs member
    cases arcs with
    | nil => contradiction
    | cons first rest =>
        rcases List.mem_append.mp member with digit | later
        · exact notMem_decimal separates first digit
        · obtain ⟨arc, _, inside⟩ := List.mem_flatMap.mp later
          rcases List.mem_cons.mp inside with same | digit
          · exact different same
          · exact notMem_decimal separates arc digit
  have present : sepChar ∈ oidText sepChar (first :: second :: arcs) :=
    List.mem_append_right _ (List.mem_append_left _ List.mem_cons_self)
  have dot := only 0x2e (by decide)
  have comma := only 0x2c (by decide)
  unfold sepCharOf
  simp only [separators, List.mem_cons, List.not_mem_nil, or_false] at separator
  rcases separator with rfl | rfl | rfl
  · rw [if_pos present]
  · rw [if_neg (dot (by decide) _), if_pos present]
  · rw [if_neg (dot (by decide) _), if_neg (comma (by decide) _)]

/-- The octets of an arc. -/
def arcOctets (arc : Nat) : List UInt8 := if arc = 0 then [0] else septets arc (septetCount arc)

theorem length_arcOctets (arc : Nat) : (arcOctets arc).length = arcSize arc := by
  rw [arcOctets, arcSize, Int.toNat_natCast, requiredBytes_eq]
  by_cases zero : arc = 0
  · rw [if_pos zero, if_pos (by exact_mod_cast zero)]
    rfl
  · rw [if_neg zero, if_neg (by exact_mod_cast zero), length_septets]

/-- Where there is room for them, all arcs are written. -/
theorem encodeArcs_oidTail (separator : sepChar ∈ separators) (small : ∀ arc ∈ arcs, arc < 2 ^ 31)
    {maxBufLen : Nat} {written : List UInt8}
    (fits : (written ++ arcs.flatMap arcOctets).length ≤ maxBufLen) :
    encodeArcs maxBufLen (afterSeparators sepChar (oidTail sepChar arcs)) written =
      some ⟨written ++ arcs.flatMap arcOctets, (written ++ arcs.flatMap arcOctets).length⟩ := by
  induction arcs generalizing written with
  | nil =>
      rw [List.flatMap_nil, List.append_nil]
      rfl
  | cons arc rest ih =>
      obtain ⟨first, others⟩ := List.forall_mem_cons.mp small
      have value := @atoi_oidTail sepChar rest separator arc first
      rw [List.flatMap_cons, ← List.append_assoc] at fits ⊢
      rw [afterSeparators_oidTail separator]
      have next := ih others fits
      rw [← next]
      by_cases zero : arc = 0
      · rw [encodeArcs_zero (by rw [value, zero]; rfl), arcOctets, if_pos zero]
      · rw [List.length_append, List.length_append, length_arcOctets, arcSize,
          if_neg (by exact_mod_cast zero)] at fits
        rw [encodeArcs_cons value (by exact_mod_cast zero), if_pos (by omega), arcOctets,
          if_neg zero, Int.toNat_natCast, requiredBytes_eq]

end Texts

end BerEncoder

/-! ## Reading back -/

namespace BerDecoder

open BerEncoder

/-- A group is added to an arc. -/
theorem shifted_eq (start : Nat) (octet : UInt8) :
    UInt16.ofNat start <<< 7 + (octet &&& 0x7f).toUInt16 =
      UInt16.ofNat (start * 128 + octet.toNat % 128) := by
  apply UInt16.toNat_inj.mp
  rw [UInt16.toNat_add, UInt16.toNat_shiftLeft, UInt8.toNat_toUInt16, toNat_lowBits,
    UInt16.toNat_ofNat', UInt16.toNat_ofNat']
  simp only [UInt16.reduceToNat, Nat.shiftLeft_eq, Nat.reduceMod, Nat.reducePow]
  omega

theorem toUInt16_of_lt {octet : UInt8} (last : octet.toNat < 128) :
    octet.toUInt16 = (octet &&& 0x7f).toUInt16 := by
  apply UInt16.toNat_inj.mp
  rw [UInt8.toNat_toUInt16, UInt8.toNat_toUInt16, toNat_lowBits, Nat.mod_eq_of_lt last]

/-- Groups are read into the arc that is due, to its 16 bits. -/
theorem decodeArcs_of_readSeptets {octets rest : List UInt8} {currentArc start number : Nat}
    {arcs : List UInt16} (few : currentArc < 10) (inside : currentArc < arcs.length)
    (before : arcs[currentArc] = UInt16.ofNat start)
    (read : readSeptets start octets = some (number, rest)) :
    decodeArcs octets currentArc arcs =
      decodeArcs rest (currentArc + 1) (arcs.set currentArc (UInt16.ofNat number)) := by
  induction octets generalizing start arcs with
  | nil => contradiction
  | cons octet tail ih =>
      have value : arcs.getD currentArc 0 = UInt16.ofNat start := by
        rw [List.getD_eq_getElem _ _ inside, before]
      rw [readSeptets] at read
      rw [decodeArcs, if_pos few, value]
      by_cases last : octet.toNat < 128
      · rw [if_pos last, Option.some.injEq, Prod.mk.injEq] at read
        obtain ⟨rfl, rfl⟩ := read
        rw [if_pos (UInt8.lt_iff_toNat_lt.mpr last), toUInt16_of_lt last, shifted_eq]
      · rw [if_neg last] at read
        rw [if_neg (fun less => last (UInt8.lt_iff_toNat_lt.mp less)), shifted_eq]
        rw [ih (by rw [List.length_set]; exact inside) (List.getElem_set_self _) read,
          List.set_set]

/-- An arc is read where nothing was read yet. -/
theorem decodeArcs_arcOctets (arc : Nat) {rest : List UInt8} {front back : List UInt16}
    (few : front.length < 10) :
    decodeArcs (arcOctets arc ++ rest) front.length (front ++ 0 :: back) =
      decodeArcs rest (front.length + 1) (front ++ UInt16.ofNat arc :: back) := by
  have read : readSeptets 0 (arcOctets arc ++ rest) = some (arc, rest) := by
    rw [arcOctets]
    by_cases zero : arc = 0
    · rw [if_pos zero, zero]
      rfl
    · rw [if_neg zero, readSeptets_septets _ _ (septetCount_pos zero), Nat.zero_mul, Nat.zero_add,
        Nat.mod_eq_of_lt (lt_pow_septetCount arc)]
  rw [decodeArcs_of_readSeptets few (by simp) (by simp) read]
  simp

/-- The decoder takes as many arcs as it has room for. -/
theorem decodeArcs_eq (arcs : List Nat) {front : List UInt16} {room : Nat}
    (ten : front.length + room = 10) :
    decodeArcs (arcs.flatMap arcOctets) front.length (front ++ List.replicate room 0) =
      (front ++ (arcs.take room).map UInt16.ofNat ++ List.replicate (room - arcs.length) 0,
        front.length + min arcs.length room) := by
  induction arcs generalizing front room with
  | nil => simp [decodeArcs]
  | cons arc rest ih =>
      cases room with
      | zero =>
          have stops : ∀ octets, decodeArcs octets front.length (front ++ List.replicate 0 0) =
              (front ++ List.replicate 0 0, front.length) := by
            intro octets
            cases octets with
            | nil => rfl
            | cons _ _ => rw [decodeArcs, if_neg (by omega)]
          rw [stops]
          simp
      | succ room =>
          have next := @ih (front ++ [UInt16.ofNat arc]) room
            (by rw [List.length_append, List.length_singleton]; omega)
          rw [List.length_append, List.length_singleton, List.append_assoc,
            List.singleton_append] at next
          rw [List.flatMap_cons, List.replicate_succ, decodeArcs_arcOctets arc (by omega), next]
          simp [Nat.add_assoc, Nat.add_comm 1]

end BerDecoder

/-- The numbers of an object identifier. -/
def ItuObjectIdentifier.numbers (self : ItuObjectIdentifier) : List Nat :=
  (self.arc.take self.arcCount).map UInt16.toNat

section RoundTrip

open BerEncoder BerDecoder

variable {sepChar : UInt8} {x y : Nat} {arcs : List Nat}

/-- Two numbers share the first octet, which has room for some only. -/
theorem firstTwo_iff (x y : Nat) :
    (x * 40 + y) % 256 / 40 = x ∧ (x * 40 + y) % 256 % 40 = y ↔ y < 40 ∧ x * 40 + y < 256 := by
  constructor
  · rintro ⟨first, second⟩
    have whole := Nat.div_add_mod' ((x * 40 + y) % 256) 40
    rw [first, second] at whole
    have bound := Nat.mod_lt (x * 40 + y) (show 256 > 0 by decide)
    have rest := Nat.mod_lt ((x * 40 + y) % 256) (show 40 > 0 by decide)
    omega
  · rintro ⟨less, fits⟩
    rw [Nat.mod_eq_of_lt fits]
    omega

/-- The octets of an object identifier. -/
def oidOctets (x y : Nat) (arcs : List Nat) : List UInt8 :=
  UInt8.ofNat (x * 40 + y) :: arcs.flatMap arcOctets

theorem length_oidOctets (x y : Nat) (arcs : List Nat) :
    (oidOctets x y arcs).length = 1 + (arcs.map fun arc : Nat => arcSize arc).sum := by
  rw [oidOctets, List.length_cons, List.length_flatMap, Nat.add_comm]
  exact congrArg (1 + List.sum ·) (List.map_congr_left fun arc _ => length_arcOctets arc)

/-- What a text of numbers is encoded to. -/
theorem encodeOID_oidText (separator : sepChar ∈ separators)
    (small : ∀ arc ∈ x :: y :: arcs, arc < 2 ^ 31) (product : x * 40 + y < 2 ^ 31)
    {maxBufLen : Nat} (fits : (oidOctets x y arcs).length ≤ maxBufLen) :
    encodeOIDToBuffer (oidText sepChar (x :: y :: arcs)) maxBufLen =
      some ⟨oidOctets x y arcs, (oidOctets x y arcs).length⟩ := by
  obtain ⟨smallX, smallY, others⟩ : x < 2 ^ 31 ∧ y < 2 ^ 31 ∧ ∀ arc ∈ arcs, arc < 2 ^ 31 := by
    simpa using small
  have value : atoi (oidText sepChar (x :: y :: arcs)) = some (x : Int) :=
    atoi_oidTail separator smallX
  have pointers : afterSeparators sepChar (oidText sepChar (x :: y :: arcs)) =
      (decimal y ++ oidTail sepChar arcs) :: afterSeparators sepChar (oidTail sepChar arcs) := by
    rw [oidText, afterSeparators_append (notMem_decimal separator x),
      afterSeparators_oidTail separator]
  have room : (0 : Int) < maxBufLen := by
    rw [length_oidOctets] at fits
    omega
  have first : UInt8.ofNat (((x : Int) * 40 + y) % 256).toNat = UInt8.ofNat (x * 40 + y) := by
    have whole : ((x : Int) * 40 + y) % 256 = ((x * 40 + y) % 256 : Nat) := by omega
    rw [whole, Int.toNat_natCast]
    apply UInt8.toNat_inj.mp
    rw [UInt8.toNat_ofNat', UInt8.toNat_ofNat', Nat.mod_mod]
  rw [encodeOIDToBuffer, value, sepCharOf_oidText separator]
  simp only [Option.bind_eq_bind, Option.bind_some, pointers]
  have checked : checkedInt ((x : Int) * 40) = some ((x : Int) * 40) := by
    have natural := @checkedInt_natCast (x * 40) (by omega)
    rwa [Int.natCast_mul] at natural
  have checkedSum : checkedInt ((x : Int) * 40 + y) = some ((x : Int) * 40 + y) := by
    have natural := checkedInt_natCast product
    rwa [Int.natCast_add, Int.natCast_mul] at natural
  rw [atoi_oidTail separator smallY, Option.bind_some, checked, Option.bind_some, checkedSum,
    Option.bind_some, if_pos room, first]
  exact encodeArcs_oidTail separator others fits

/-- What the octets of an object identifier are decoded to. -/
theorem numbers_decodeOID {memory : Memory} {bufPos : Nat}
    (held : memory.Holds bufPos (oidOctets x y arcs)) :
    (decodeOID memory bufPos (oidOctets x y arcs).length).numbers =
      (x * 40 + y) % 256 / 40 :: (x * 40 + y) % 256 % 40 ::
        (arcs.take 8).map fun arc => arc % 2 ^ 16 := by
  have octets := held.octets
  have decoded := @decodeArcs_eq arcs [((UInt8.ofNat (x * 40 + y)) / 40).toUInt16,
    ((UInt8.ofNat (x * 40 + y)) % 40).toUInt16] 8 rfl
  have found : (decodeOID memory bufPos (oidOctets x y arcs).length).numbers =
      ((decodeArcs (arcs.flatMap arcOctets) 2 (firstArcs (oidOctets x y arcs)).1).1.take
        (decodeArcs (arcs.flatMap arcOctets) 2 (firstArcs (oidOctets x y arcs)).1).2).map
          UInt16.toNat := by
    simp only [decodeOID, ItuObjectIdentifier.numbers, octets]
    rfl
  have numbers : (2 : Nat) + min arcs.length 8 =
      ([((UInt8.ofNat (x * 40 + y)) / 40).toUInt16, ((UInt8.ofNat (x * 40 + y)) % 40).toUInt16] ++
        (arcs.take 8).map UInt16.ofNat).length := by
    simp only [List.length_append, List.length_map, List.length_take, List.length_cons,
      List.length_nil]
    omega
  rw [found]
  refine (congrArg (fun decoded => (decoded.1.take decoded.2).map UInt16.toNat) decoded).trans ?_
  dsimp only
  rw [List.length_cons, List.length_singleton, numbers, List.take_left, List.map_append,
    List.map_map]
  simp [Function.comp_def]

/-- A text of numbers is encoded and decoded to the same numbers exactly if they fit: the first
two into an octet, together at most ten, and the others into 16 bits. -/
theorem oid_roundTrip_iff (separator : sepChar ∈ separators)
    (small : ∀ arc ∈ x :: y :: arcs, arc < 2 ^ 31) (product : x * 40 + y < 2 ^ 31)
    {maxBufLen : Nat} (fits : (oidOctets x y arcs).length ≤ maxBufLen) :
    ∃ encoded, encodeOIDToBuffer (oidText sepChar (x :: y :: arcs)) maxBufLen = some encoded ∧
      encoded.returned = encoded.written.length ∧
      ∀ (memory : Memory) (bufPos : Nat), memory.Holds bufPos encoded.written →
        ((decodeOID memory bufPos encoded.returned).numbers = x :: y :: arcs ↔
          y < 40 ∧ x * 40 + y < 256 ∧ arcs.length ≤ 8 ∧ ∀ arc ∈ arcs, arc < 2 ^ 16) := by
  refine ⟨_, encodeOID_oidText separator small product fits, rfl, fun memory bufPos held => ?_⟩
  rw [numbers_decodeOID held, List.cons.injEq, List.cons.injEq, ← and_assoc, firstTwo_iff,
    and_assoc]
  refine and_congr_right fun _ => and_congr_right fun _ => ?_
  constructor
  · intro same
    have length := congrArg List.length same
    rw [List.length_map, List.length_take] at length
    refine ⟨by omega, fun arc member => ?_⟩
    rw [← same] at member
    obtain ⟨other, _, rfl⟩ := List.mem_map.mp member
    exact Nat.mod_lt _ (by decide)
  · rintro ⟨few, narrow⟩
    rw [List.take_of_length_le few]
    exact (List.map_congr_left fun arc member => Nat.mod_eq_of_lt (narrow arc member)).trans
      (List.map_id' _)

end RoundTrip

open BerEncoder BerDecoder in
/-- `1.0.9506.2.3`, in a buffer that is just large enough. -/
theorem oid_roundTrip_iff_five :
    ∃ encoded, encodeOIDToBuffer (oidText 0x2e [1, 0, 9506, 2, 3]) (5 : Nat) = some encoded ∧
      encoded.returned = encoded.written.length ∧
      ∀ (memory : Memory) (bufPos : Nat), memory.Holds bufPos encoded.written →
        ((decodeOID memory bufPos encoded.returned).numbers = [1, 0, 9506, 2, 3] ↔
          0 < 40 ∧ 1 * 40 + 0 < 256 ∧ [9506, 2, 3].length ≤ 8 ∧
            ∀ arc ∈ [9506, 2, 3], arc < 2 ^ 16) :=
  oid_roundTrip_iff (by decide) (by decide) (by decide) (by decide +kernel)

end GridGooseSV
