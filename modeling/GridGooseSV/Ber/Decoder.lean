import GridGooseSV.Foundation.Memory
import GridGooseSV.Foundation.Numeral

/-!
# BER decoder

After `ber_decode.cc`. A pointer is an address, `buffer[bufPos]` is the octet at
`buffer + bufPos`, and a result of `-1` is `none`. Every octet that is read and
every value that a signed integer takes in the length decoder is in the trace.

Loops recurse on a bound of the octets left to read, which a caller takes from
the range it parses; a loop that is not over reads at least one octet per turn.
-/

namespace GridGooseSV.BerDecoder

/-- A signed integer takes a value. -/
def int (value : Nat) : Traced Access Nat := ⟨value, [.int value]⟩

@[simp] theorem value_int (value : Nat) : (int value).value = value := rfl

@[simp 1100] theorem value_bind_int {β : Type} (value : Nat) (next : Nat → Traced Access β) :
    (int value >>= next).value = (next value).value := rfl

theorem always_int {value : Nat} {predicate : Access → Prop} :
    (int value).Always predicate ↔ predicate (.int value) := by
  simp [Traced.Always, int]

section Length

variable (memory : Memory) (buffer : Nat) (maxBufPos : Int)

/-- The loop over the length octets of the long form: the position after them
and the length. -/
def longLength : (lenLength bufPos length : Nat) → Traced Access (Option (Nat × Nat))
  | 0, bufPos, length => pure (some (bufPos, length))
  | lenLength + 1, bufPos, length =>
    if (bufPos : Int) ≥ maxBufPos then pure none
    else do
      let reached ← int (bufPos + length)
      if (reached : Int) > maxBufPos then pure none
      else do
        let shifted ← int (length * 256)
        let octet ← memory.read (buffer + bufPos)
        let length ← int (shifted + octet.toNat)
        let bufPos ← int (bufPos + 1)
        longLength lenLength bufPos length

/-- The length octets: the position after them and the length. How an indefinite
length is found is the argument `indefinite`. -/
def lengthOctets (indefinite : Nat → Traced Access (Option Nat)) (bufPos : Nat) :
    Traced Access (Option (Nat × Nat)) := do
  let len1 ← memory.read (buffer + bufPos)
  let bufPos ← int (bufPos + 1)
  if len1 &&& 0x80 ≠ 0 then
    let lenLength := (len1 &&& 0x7f).toNat
    if lenLength = 0 then do
      -- A length of -1 fails the check for negative lengths.
      let length ← indefinite bufPos
      pure (length.map fun length => (bufPos, length))
    else longLength memory buffer maxBufPos lenLength bufPos 0
  else pure (some (bufPos, len1.toNat))

/-- `BerDecoder_decodeLengthRecursive`: the position after the length octets and
the length, which must end within the limit. -/
def decodeLengthRecursive (indefinite : Nat → Traced Access (Option Nat)) (bufPos : Nat) :
    Traced Access (Option (Nat × Nat)) :=
  if (bufPos : Int) ≥ maxBufPos then pure none
  else do
    let decoded ← lengthOctets memory buffer maxBufPos indefinite bufPos
    match decoded with
    | none => pure none
    | some (bufPos, length) =>
      if (length : Int) > maxBufPos then pure none
      else do
        let last ← int (bufPos + length)
        if (last : Int) > maxBufPos then pure none else pure (some (bufPos, length))

/-- Whether the end-of-contents octets stand at a position. -/
def endOfContents (bufPos : Nat) : Traced Access Bool := do
  let octet ← memory.read (buffer + bufPos)
  if octet = 0 then do
    let next ← int (bufPos + 1)
    if (next : Int) < maxBufPos then do
      let second ← memory.read (buffer + next)
      pure (decide (second = 0))
    else pure false
  else pure false

/-- The loop of `getIndefiniteLength`, at a depth within the limit. -/
def indefiniteLoop (maxDepth : Nat) : (fuel bufPos length depth : Nat) → Traced Access (Option Nat)
  | 0, _, _, _ => pure none
  | fuel + 1, bufPos, length, depth =>
    if (bufPos : Int) < maxBufPos then do
      let ended ← endOfContents memory buffer maxBufPos bufPos
      if ended then do
        let length ← int (length + 2)
        pure (some length)
      else do
        let length ← int (length + 1)
        let tag ← memory.read (buffer + bufPos)
        let bufPos ← int (bufPos + 1)
        let extended := if tag &&& 0x1f = 0x1f then 1 else 0
        let bufPos ← int (bufPos + extended)
        let length ← int (length + extended)
        let element ← decodeLengthRecursive memory buffer maxBufPos
          (fun start =>
            if depth + 1 > maxDepth then pure none
            else indefiniteLoop maxDepth fuel start 0 (depth + 1)) bufPos
        match element with
        | none => pure none
        | some (newBufPos, subLength) => do
          let length ← int (length + subLength + newBufPos - bufPos)
          let bufPos ← int (newBufPos + subLength)
          indefiniteLoop maxDepth fuel bufPos length depth
    else pure none

/-- `getIndefiniteLength`. -/
def getIndefiniteLength (maxDepth depth bufPos : Nat) : Traced Access (Option Nat) :=
  if depth + 1 > maxDepth then pure none
  else
    indefiniteLoop memory buffer maxBufPos maxDepth (maxBufPos - bufPos).toNat bufPos 0 (depth + 1)

/-- `BerDecoder_decodeLength`. -/
def decodeLength (bufPos : Nat) : Traced Access (Option (Nat × Nat)) :=
  decodeLengthRecursive memory buffer maxBufPos
    (getIndefiniteLength memory buffer maxBufPos 50 0) bufPos

end Length

/-- `BerDecoder_decodeUint32`. -/
def decodeUint32 (memory : Memory) (buffer intLen bufPos : Nat) : Traced Access UInt32 := do
  let octets ← memory.readOctets (buffer + bufPos) intLen
  pure (octets.foldl (fun value octet => (value <<< 8) + octet.toUInt32) 0)

/-- `BerDecoder_decodeInt32`. -/
def decodeInt32 (memory : Memory) (buffer intlen bufPos : Nat) : Traced Access Int32 := do
  let first ← memory.read (buffer + bufPos)
  let octets ← memory.readOctets (buffer + bufPos) intlen
  pure (octets.foldl (fun value octet => (value <<< 8) + octet.toUInt32.toInt32)
    (if first &&& 0x80 = 0x80 then -1 else 0))

/-- `BerDecoder_decodeFloat`: the host representation of the value. -/
def decodeFloat (memory : Memory) (buffer bufPos : Nat) : Traced Access (Octets 4) :=
  ⟨⟨(memory.octets (buffer + (bufPos + 1)) 4).reverse, by simp⟩,
    (memory.readOctets (buffer + (bufPos + 1)) 4).trace⟩

/-- `BerDecoder_decodeDouble`: the host representation of the value. -/
def decodeDouble (memory : Memory) (buffer bufPos : Nat) : Traced Access (Octets 8) :=
  ⟨⟨(memory.octets (buffer + (bufPos + 1)) 8).reverse, by simp⟩,
    (memory.readOctets (buffer + (bufPos + 1)) 8).trace⟩

/-- `BerDecoder_decodeBoolean`. -/
def decodeBoolean (memory : Memory) (buffer bufPos : Nat) : Traced Access Bool := do
  let octet ← memory.read (buffer + bufPos)
  pure (octet ≠ 0)

end GridGooseSV.BerDecoder
