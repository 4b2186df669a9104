import GridGooseSV.Ber.Indefinite

/-!
# How far the framing of elements is read

Whether a decoder stays below an address depends on what it finds there. It takes the octets of a
length one by one while the number that they form still fits, looks through an element of
indefinite length for its end, and goes from one element of a string to the next. For each of
these it is stated what has to lie below the address, and that this is exactly what is read.
-/

namespace GridGooseSV.BerDecoder

/-! ## Length octets -/

section Reach

variable (memory : Memory) (buffer : Nat) (maxBufPos : Int) (limit : Nat)

/-- The octets of a number lie below the limit, as many as are read: the next one is while the
number that they form still fits. -/
def NumberBelow (count bufPos : Nat) : Prop :=
  ∀ index < count, (bufPos + index : Int) < maxBufPos →
    ((bufPos + index + bigEndian (memory.octets (buffer + bufPos) index) : Nat) : Int) ≤
      maxBufPos → buffer + bufPos + index < limit

/-- The octets of a definite length that starts at a position lie below the limit. -/
def DefiniteBelow (bufPos : Nat) : Prop :=
  (bufPos : Int) < maxBufPos → buffer + bufPos < limit ∧
    ∀ count, (memory (buffer + bufPos)).toNat = 128 + count →
      NumberBelow memory buffer maxBufPos limit count (bufPos + 1)

/-- The content of an indefinite length ends at a position, as far as the search sees. -/
def EndsAt (position : Nat) : Prop :=
  EndOfContents memory (buffer + position) ∧ (position + 1 : Int) < maxBufPos

/-- Where the length of the element at a position starts. -/
def behindTag (position : Nat) : Nat := position + identifierLength (memory (buffer + position))

/-- The search for the end of an indefinite length passes over the element at a position, or into
it. -/
def GoesOnAt (position : Nat) : Prop :=
  (position : Int) < maxBufPos ∧ ¬ EndsAt memory buffer maxBufPos position

/-- The search from a position on comes to another. -/
inductive Searched (maxDepth : Nat) : (depth bufPos position : Nat) → Prop
  | here {depth bufPos : Nat} : Searched maxDepth depth bufPos bufPos
  | inside {depth bufPos position : Nat} (goesOn : GoesOnAt memory buffer maxBufPos bufPos)
      (content : (behindTag memory buffer bufPos : Int) < maxBufPos)
      (indefinite : memory (buffer + behindTag memory buffer bufPos) = 0x80)
      (shallow : depth + 1 ≤ maxDepth)
      (inner : Searched maxDepth (depth + 1) (behindTag memory buffer bufPos + 1) position) :
      Searched maxDepth depth bufPos position
  | next {depth bufPos start length position : Nat}
      (goesOn : GoesOnAt memory buffer maxBufPos bufPos)
      (decoded : (decodeLengthRecursive memory buffer maxBufPos
        (getIndefiniteLength memory buffer maxBufPos maxDepth depth)
        (behindTag memory buffer bufPos)).value = some (start, length))
      (later : Searched maxDepth depth (start + length) position) :
      Searched maxDepth depth bufPos position

/-- What the search reads of the element that it comes to. -/
def ItemBelow (position : Nat) : Prop :=
  (position : Int) < maxBufPos → buffer + position < limit ∧
    (memory (buffer + position) = 0 → (position + 1 : Int) < maxBufPos →
      buffer + position + 1 < limit) ∧
    (¬ EndsAt memory buffer maxBufPos position →
      DefiniteBelow memory buffer maxBufPos limit (behindTag memory buffer position))

/-- The length octets at a position lie below the limit, and what is searched for the end of an
indefinite length. -/
def LengthBelow (bufPos : Nat) : Prop :=
  DefiniteBelow memory buffer maxBufPos limit bufPos ∧
    ((bufPos : Int) < maxBufPos → memory (buffer + bufPos) = 0x80 →
      ∀ position, Searched memory buffer maxBufPos 50 1 (bufPos + 1) position →
        ItemBelow memory buffer maxBufPos limit position)

/-- The tag and the length of the element at a position. -/
def HeadBelow (position : Nat) : Prop :=
  buffer + position < limit ∧ LengthBelow memory buffer maxBufPos limit (position + 1)

end Reach

variable {memory : Memory} {buffer limit : Nat} {maxBufPos : Int}

/-- What holds of every position that is searched. -/
theorem forall_searched_iff {maxDepth depth bufPos : Nat} {property : Nat → Prop} :
    (∀ position, Searched memory buffer maxBufPos maxDepth depth bufPos position →
        property position) ↔
      property bufPos ∧ (GoesOnAt memory buffer maxBufPos bufPos →
        ((behindTag memory buffer bufPos : Int) < maxBufPos →
          memory (buffer + behindTag memory buffer bufPos) = 0x80 → depth + 1 ≤ maxDepth →
          ∀ position, Searched memory buffer maxBufPos maxDepth (depth + 1)
            (behindTag memory buffer bufPos + 1) position → property position) ∧
        ∀ start length, (decodeLengthRecursive memory buffer maxBufPos
            (getIndefiniteLength memory buffer maxBufPos maxDepth depth)
            (behindTag memory buffer bufPos)).value = some (start, length) →
          ∀ position, Searched memory buffer maxBufPos maxDepth depth (start + length) position →
            property position) := by
  constructor
  · intro all
    refine ⟨all bufPos .here, fun goesOn => ⟨?_, ?_⟩⟩
    · exact fun content indefinite shallow position inner =>
        all position (.inside goesOn content indefinite shallow inner)
    · exact fun start length decoded position later => all position (.next goesOn decoded later)
  · rintro ⟨first, rest⟩ position searched
    cases searched with
    | here => exact first
    | inside goesOn content indefinite shallow inner =>
        exact (rest goesOn).1 content indefinite shallow position inner
    | next goesOn decoded later => exact (rest goesOn).2 _ _ decoded position later

section Exact

-- Signed integers may take any value; what counts is what is read.
variable {predicate : Access → Prop} (ints : ∀ value, predicate (.int value))
  (reads : ∀ address, predicate (.read address) ↔ address < limit)

include ints in
theorem always_int_of_all (value : Nat) : (int value).Always predicate :=
  always_int.mpr (ints _)

include reads in
theorem always_read_iff {address : Nat} :
    (memory.read address).Always predicate ↔ address < limit :=
  Memory.always_read.trans (reads address)

include ints reads

theorem always_longLength_iff {lenLength bufPos length : Nat} :
    (longLength memory buffer maxBufPos lenLength bufPos length).Always predicate ↔
      ∀ index < lenLength, (bufPos + index : Int) < maxBufPos →
        ((bufPos + index + (length * 256 ^ index +
          bigEndian (memory.octets (buffer + bufPos) index)) : Nat) : Int) ≤ maxBufPos →
        buffer + bufPos + index < limit := by
  induction lenLength generalizing bufPos length with
  | zero => exact iff_of_true (Traced.always_pure _) (by simp)
  | succ lenLength ih =>
      -- The number with one octet more.
      have shifted : ∀ index,
          length * 256 ^ (index + 1) + bigEndian (memory.octets (buffer + bufPos) (index + 1)) =
            (length * 256 + (memory (buffer + bufPos)).toNat) * 256 ^ index +
              bigEndian (memory.octets (buffer + (bufPos + 1)) index) := by
        intro index
        rw [Memory.octets_succ, bigEndian_cons, Memory.length_octets, Nat.add_assoc buffer]
        ring
      rw [Nat.forall_lt_succ_left]
      unfold longLength
      by_cases inside : (bufPos : Int) ≥ maxBufPos
      · rw [if_pos inside]
        exact iff_of_true (Traced.always_pure _)
          ⟨fun below => by omega, fun index _ below => by omega⟩
      · rw [if_neg inside, Traced.always_bind, and_iff_right (always_int_of_all ints _)]
        by_cases past : ((int (bufPos + length)).value : Int) > maxBufPos
        · rw [if_pos past]
          simp only [value_int] at past
          refine iff_of_true (Traced.always_pure _)
            ⟨fun _ fits => ?_, fun index _ _ fits => ?_⟩
          · simp only [Nat.add_zero, pow_zero, Nat.mul_one, Memory.octets_zero,
              bigEndian_nil] at fits
            omega
          · have grown : length ≤ length * 256 ^ (index + 1) :=
              Nat.le_mul_of_pos_right _ (Nat.pow_pos (by decide))
            omega
        · rw [if_neg past]
          simp only [value_int] at past
          simp only [Traced.always_bind, always_int_of_all ints, true_and, value_int,
            Memory.value_read, always_read_iff reads]
          rw [ih]
          refine and_congr ⟨fun below _ _ => below, fun first => ?_⟩ ?_
          · refine first (by omega) ?_
            simp only [Nat.add_zero, pow_zero, Nat.mul_one, Memory.octets_zero, bigEndian_nil]
            omega
          · refine forall₂_congr fun index _ => ?_
            rw [shifted, show bufPos + (index + 1) = bufPos + 1 + index by omega,
              show buffer + bufPos + (index + 1) = buffer + (bufPos + 1) + index by omega]
            push_cast
            rw [show (bufPos : Int) + (index + 1) = bufPos + 1 + index by omega]

/-- The octets of a definite length, or the octet of an indefinite one and the search for its
end. -/
theorem always_decodeLengthRecursive_iff {indefinite : Nat → Traced Access (Option Nat)}
    {bufPos : Nat} :
    (decodeLengthRecursive memory buffer maxBufPos indefinite bufPos).Always predicate ↔
      DefiniteBelow memory buffer maxBufPos limit bufPos ∧
        ((bufPos : Int) < maxBufPos → memory (buffer + bufPos) = 0x80 →
          (indefinite (bufPos + 1)).Always predicate) := by
  have small := (memory (buffer + bufPos)).toNat_lt
  unfold decodeLengthRecursive DefiniteBelow
  by_cases inside : (bufPos : Int) ≥ maxBufPos
  · rw [if_pos inside]
    exact iff_of_true (Traced.always_pure _) ⟨fun below => by omega, fun below => by omega⟩
  · rw [if_neg inside, Traced.always_bind]
    refine (and_iff_left ?checks).trans ?_
    case checks =>
      split
      · exact Traced.always_pure _
      · exact .ite (fun _ => Traced.always_pure _) fun _ => .bind (always_int_of_all ints _)
          (.ite (fun _ => Traced.always_pure _) fun _ => Traced.always_pure _)
    have octet : memory (buffer + bufPos) = 0x80 ↔ (memory (buffer + bufPos)).toNat = 128 := by
      rw [← UInt8.toNat_inj]
      rfl
    unfold lengthOctets
    simp only [Traced.always_bind, Traced.always_ite, always_read_iff reads,
      always_int_of_all ints, always_longLength_iff ints reads, Traced.always_pure, true_and,
      and_true, implies_true]
    simp only [Memory.value_read, value_int, topBit_not_clear, toNat_lowBits, octet, Nat.zero_mul,
      Nat.zero_add]
    have begins : (bufPos : Int) < maxBufPos := by omega
    rw [forall_prop_of_true begins, forall_prop_of_true begins, and_assoc]
    refine and_congr_right' ⟨fun below => ⟨?_, ?_⟩, fun below large => ⟨?_, ?_⟩⟩
    · intro count given index bounded
      refine (below (by omega)).2 (by omega) index (by omega)
    · exact fun indefinite => (below (by omega)).1 (by omega)
    · exact fun zero => below.2 (by omega)
    · exact fun some => below.1 _ (by omega)

theorem always_endOfContents_iff {bufPos : Nat} :
    (endOfContents memory buffer maxBufPos bufPos).Always predicate ↔
      buffer + bufPos < limit ∧ (memory (buffer + bufPos) = 0 → (bufPos + 1 : Int) < maxBufPos →
        buffer + bufPos + 1 < limit) := by
  unfold endOfContents
  simp only [Traced.always_bind, Traced.always_ite, always_read_iff reads,
    always_int_of_all ints, Traced.always_pure, true_and, and_true, implies_true]
  simp only [Memory.value_read, value_int, Nat.cast_add, Nat.cast_one, Nat.add_assoc]

/-- The search for the end of an indefinite length stays below the limit exactly if every element
that it comes to does. -/
theorem always_indefiniteLoop_iff {maxDepth fuel bufPos length depth : Nat}
    (enough : maxBufPos ≤ bufPos + fuel) :
    (indefiniteLoop memory buffer maxBufPos maxDepth fuel bufPos length depth).Always predicate ↔
      ∀ position, Searched memory buffer maxBufPos maxDepth depth bufPos position →
        ItemBelow memory buffer maxBufPos limit position := by
  induction fuel generalizing bufPos length depth with
  | zero =>
      rw [forall_searched_iff]
      exact iff_of_true (Traced.always_pure _)
        ⟨fun below => by omega, fun goesOn => by have := goesOn.1; omega⟩
  | succ fuel ih =>
      rw [forall_searched_iff]
      unfold indefiniteLoop
      by_cases inside : (bufPos : Int) < maxBufPos
      · have ended : (endOfContents memory buffer maxBufPos bufPos).value = true ↔
            EndsAt memory buffer maxBufPos bufPos := by
          rw [endOfContents_eq_true, EndsAt, Nat.cast_add, Nat.cast_one]
        have item : ItemBelow memory buffer maxBufPos limit bufPos ↔ _ :=
          forall_prop_of_true inside
        rw [if_pos inside, Traced.always_bind, always_endOfContents_iff ints reads, item, and_assoc,
          and_assoc, and_assoc]
        refine and_congr_right fun here => and_congr_right' ?_
        by_cases ends : EndsAt memory buffer maxBufPos bufPos
        · rw [if_pos (ended.mpr ends)]
          exact iff_of_true (.bind (always_int_of_all ints _) (Traced.always_pure _))
            ⟨fun goesOn => absurd ends goesOn, fun goesOn => absurd ends goesOn.2⟩
        · have goesOn : GoesOnAt memory buffer maxBufPos bufPos := ⟨inside, ends⟩
          have identifier : bufPos + 1 +
              (if (memory.read (buffer + bufPos)).value &&& 0x1f = 0x1f then 1 else 0) =
              behindTag memory buffer bufPos := by
            rw [behindTag, identifierLength, Memory.value_read]
            split <;> rfl
          rw [if_neg (mt ended.mp ends), forall_prop_of_true ends, forall_prop_of_true goesOn]
          simp only [Traced.always_bind, always_int_of_all ints, true_and, always_read_iff reads,
            here, value_int]
          generalize (if (memory.read (buffer + bufPos)).value &&& 0x1f = 0x1f then 1 else 0) =
            extended at identifier ⊢
          rw [identifier, always_decodeLengthRecursive_iff ints reads, and_assoc]
          refine and_congr_right' (and_congr ?_ ?_)
          · refine forall₂_congr fun content _ => ?_
            rw [Traced.always_ite, and_iff_right fun _ => Traced.always_pure _, Nat.not_lt]
            exact forall_congr' fun _ => ih (by omega)
          · have nested : decodeLengthRecursive memory buffer maxBufPos
                (fun start => if depth + 1 > maxDepth then pure none
                  else indefiniteLoop memory buffer maxBufPos maxDepth fuel start 0 (depth + 1))
                (behindTag memory buffer bufPos) =
              decodeLengthRecursive memory buffer maxBufPos
                (getIndefiniteLength memory buffer maxBufPos maxDepth depth)
                (behindTag memory buffer bufPos) := by
              apply decodeLengthRecursive_indefinite
              rw [getIndefiniteLength, @indefiniteLoop_enough memory buffer maxBufPos maxDepth fuel
                (maxBufPos - (behindTag memory buffer bufPos + 1 : Nat)).toNat
                (behindTag memory buffer bufPos + 1) 0 (depth + 1) (by omega) (by omega)]
            rw [nested]
            rcases decoded : (decodeLengthRecursive memory buffer maxBufPos
              (getIndefiniteLength memory buffer maxBufPos maxDepth depth)
              (behindTag memory buffer bufPos)).value with _ | ⟨start, size⟩
            · exact iff_of_true (Traced.always_pure _) (by simp)
            · obtain ⟨_, _, octets⟩ := decodeLengthRecursive_eq_some.mp decoded
              have later := lengthOctets_advances octets
              simp only [Traced.always_bind, always_int_of_all ints, true_and, value_int,
                Option.some.injEq, Prod.mk.injEq]
              rw [ih (by omega)]
              constructor
              · rintro below _ _ ⟨rfl, rfl⟩
                exact below
              · exact fun below => below start size ⟨rfl, rfl⟩
      · rw [if_neg inside]
        exact iff_of_true (Traced.always_pure _)
          ⟨fun below => absurd below inside, fun goesOn => absurd goesOn.1 inside⟩

/-- Decoding a length reads exactly below a limit that its octets, and what is searched for the end
of an indefinite length, are below. -/
theorem always_decodeLength_iff {bufPos : Nat} :
    (decodeLength memory buffer maxBufPos bufPos).Always predicate ↔
      LengthBelow memory buffer maxBufPos limit bufPos := by
  unfold decodeLength LengthBelow
  rw [always_decodeLengthRecursive_iff ints reads]
  refine and_congr_right' (forall₂_congr fun _ _ => ?_)
  rw [getIndefiniteLength, if_neg (by decide)]
  exact always_indefiniteLoop_iff ints reads (by omega)

/-- What is done with an element comes behind its tag and length. -/
theorem always_head_iff {β : Type} {position : Nat}
    {next : UInt8 → Option (Nat × Nat) → Traced Access β} :
    (do
      let tag ← memory.read (buffer + position)
      let decoded ← decodeLength memory buffer maxBufPos (position + 1)
      next tag decoded : Traced Access β).Always predicate ↔
      HeadBelow memory buffer maxBufPos limit position ∧
        (next (memory (buffer + position))
          (decodeLength memory buffer maxBufPos (position + 1)).value).Always predicate := by
  rw [Traced.always_bind, Traced.always_bind, always_read_iff reads,
    always_decodeLength_iff ints reads, HeadBelow, and_assoc]
  rfl

end Exact

/-! ## Within the limit -/

/-- A buffer that ends by the limit is read below it. -/
theorem lengthBelow_of_within (within : (buffer : Int) + maxBufPos ≤ limit) (bufPos : Nat) :
    LengthBelow memory buffer maxBufPos limit bufPos :=
  (always_decodeLength_iff (fun _ => trivial) fun _ => Iff.rfl).mp
    (decodesBelow_decodeLength within bufPos)

theorem headBelow_of_within (within : (buffer : Int) + maxBufPos ≤ limit) {position : Nat}
    (inside : (position : Int) < maxBufPos) : HeadBelow memory buffer maxBufPos limit position :=
  ⟨by omega, lengthBelow_of_within within _⟩

/-! ## Octets that are as they came -/

section Locality

variable {other : Memory} {bottom : Nat}
  (agree : ∀ index, bottom ≤ index → memory (buffer + index) = other (buffer + index))
include agree

theorem octets_agree {position : Nat} (above : bottom ≤ position) (count : Nat) :
    memory.octets (buffer + position) count = other.octets (buffer + position) count := by
  apply Memory.octets_congr
  intro address after _
  have same := agree (address - buffer) (by omega)
  rwa [Nat.add_sub_of_le (by omega)] at same

theorem definiteBelow_congr {bufPos : Nat} (above : bottom ≤ bufPos) :
    DefiniteBelow memory buffer maxBufPos limit bufPos ↔
      DefiniteBelow other buffer maxBufPos limit bufPos := by
  unfold DefiniteBelow NumberBelow
  simp only [agree bufPos above, octets_agree agree (Nat.le_succ_of_le above)]

theorem endsAt_congr {position : Nat} (above : bottom ≤ position) :
    EndsAt memory buffer maxBufPos position ↔ EndsAt other buffer maxBufPos position := by
  unfold EndsAt EndOfContents
  rw [Nat.add_assoc, agree position above, agree (position + 1) (Nat.le_succ_of_le above)]

theorem behindTag_congr {position : Nat} (above : bottom ≤ position) :
    behindTag memory buffer position = behindTag other buffer position := by
  rw [behindTag, behindTag, agree position above]

omit agree in
theorem le_behindTag (position : Nat) : position ≤ behindTag memory buffer position :=
  Nat.le_add_right _ _

theorem itemBelow_congr {position : Nat} (above : bottom ≤ position) :
    ItemBelow memory buffer maxBufPos limit position ↔
      ItemBelow other buffer maxBufPos limit position := by
  unfold ItemBelow
  rw [agree position above, endsAt_congr agree above, behindTag_congr agree above,
    definiteBelow_congr agree (Nat.le_trans above (le_behindTag position))]

theorem searched_congr {maxDepth depth bufPos position : Nat} (above : bottom ≤ bufPos)
    (searched : Searched memory buffer maxBufPos maxDepth depth bufPos position) :
    bottom ≤ position ∧ Searched other buffer maxBufPos maxDepth depth bufPos position := by
  have goesOn_other : ∀ {bufPos}, bottom ≤ bufPos → GoesOnAt memory buffer maxBufPos bufPos →
      GoesOnAt other buffer maxBufPos bufPos :=
    fun above goesOn => ⟨goesOn.1, mt (endsAt_congr agree above).mpr goesOn.2⟩
  induction searched with
  | here => exact ⟨above, .here⟩
  | @inside depth bufPos position goesOn content indefinite shallow inner ih =>
      have later := @le_behindTag memory buffer bufPos
      rw [agree _ (by omega), behindTag_congr agree above] at indefinite
      rw [behindTag_congr agree above] at content
      obtain ⟨after, searched⟩ := ih (by omega)
      rw [behindTag_congr agree above] at searched
      exact ⟨after, .inside (goesOn_other above goesOn) content indefinite shallow searched⟩
  | @next depth bufPos start length position goesOn decoded later ih =>
      have behind := @le_behindTag memory buffer bufPos
      obtain ⟨_, _, octets⟩ := decodeLengthRecursive_eq_some.mp decoded
      have advanced := lengthOctets_advances octets
      obtain ⟨after, searched⟩ := ih (by omega)
      refine ⟨after, .next (goesOn_other above goesOn) ?_ searched⟩
      rw [← behindTag_congr agree above, ← decoded]
      have back : ∀ index, bottom ≤ index → (index : Int) < maxBufPos →
          other (buffer + index) = memory (buffer + index) :=
        fun index low _ => (agree index low).symm
      refine decodeLengthRecursive_congr back (fun position low => ?_) (by omega)
      simp only [getIndefiniteLength, Traced.value_ite, indefiniteLoop_congr back _ _ low]

theorem lengthBelow_congr {bufPos : Nat} (above : bottom ≤ bufPos) :
    LengthBelow memory buffer maxBufPos limit bufPos ↔
      LengthBelow other buffer maxBufPos limit bufPos := by
  unfold LengthBelow
  rw [definiteBelow_congr agree above, agree bufPos above]
  refine and_congr_right' (forall₂_congr fun _ _ => forall_congr' fun position => ?_)
  constructor
  · intro below searched
    obtain ⟨after, here⟩ := searched_congr (fun index low => (agree index low).symm)
      (Nat.le_succ_of_le above) searched
    exact (itemBelow_congr agree after).mp (below here)
  · intro below searched
    obtain ⟨after, there⟩ := searched_congr agree (Nat.le_succ_of_le above) searched
    exact (itemBelow_congr agree after).mpr (below there)

end Locality

/-! ## Strings of elements -/

/-- A reader that goes over a string of elements in a state. -/
structure Walk (σ : Type) where
  /-- what it asks of an element besides the tag and the length -/
  asks : σ → Element → Prop
  /-- its state behind an element, unless it stops there -/
  next : σ → Element → Option σ

namespace Walk

variable {σ τ : Type} (walk : Walk σ)

/-- The tags and lengths that a reader comes to in a string lie below the limit, and it has what
it asks of the elements. -/
def Below (memory : Memory) (buffer : Nat) (maxBufPos : Int) (stop limit : Nat) :
    σ → (position : Nat) → List Element → Prop
  | _, position, [] => position < stop → HeadBelow memory buffer maxBufPos limit position
  | state, position, element :: rest =>
    HeadBelow memory buffer maxBufPos limit position ∧ walk.asks state element ∧
      ∀ after, walk.next state element = some after →
        Below memory buffer maxBufPos stop limit after (element.address + element.length - buffer)
          rest

/-- A reader that delimits elements and passes those of some kind. -/
def delimiting (passes : Element → Bool) : Walk Unit where
  asks _ _ := True
  next _ element := if passes element then some () else none

variable {walk} {stop : Nat}

/-- What a loop does in one turn it does in all of them: it stays in step with the reader. -/
theorem below_iff (loop : (fuel : Nat) → τ → (position : Nat) → Prop)
    (inStep : τ → σ → (position : Nat) → Prop) (follow : τ → (position : Nat) → Element → τ)
    (ended : ∀ {fuel state position}, stop ≤ position → loop fuel state position)
    (turn : ∀ {fuel state walked position}, inStep state walked position → position < stop →
      (loop (fuel + 1) state position ↔ HeadBelow memory buffer maxBufPos limit position ∧
        ∀ start length,
          (decodeLength memory buffer maxBufPos (position + 1)).value = some (start, length) →
          let element : Element := ⟨memory (buffer + position), buffer + start, length⟩
          walk.asks walked element ∧ ∀ after, walk.next walked element = some after →
            loop fuel (follow state position element) (start + length)))
    (keeps : ∀ {state walked after position start length}, inStep state walked position →
      position < stop →
      (decodeLength memory buffer maxBufPos (position + 1)).value = some (start, length) →
      let element : Element := ⟨memory (buffer + position), buffer + start, length⟩
      walk.next walked element = some after →
        inStep (follow state position element) after (start + length))
    {fuel position : Nat} {state : τ} {walked : σ} (enough : stop - position ≤ fuel)
    (begins : inStep state walked position) :
    loop fuel state position ↔ walk.Below memory buffer maxBufPos stop limit walked position
      (elements memory buffer maxBufPos stop position).elements := by
  induction fuel generalizing state walked position with
  | zero =>
      rw [elements_end (by omega)]
      exact iff_of_true (ended (by omega)) fun inside => by omega
  | succ fuel ih =>
      by_cases inside : position < stop
      · rw [turn begins inside]
        rcases decoded : (decodeLength memory buffer maxBufPos (position + 1)).value with
          _ | ⟨start, length⟩
        · rw [elements_malformed inside decoded]
          exact ⟨fun below _ => below.1, fun below => ⟨below inside, by simp⟩⟩
        · have later := decodeLength_advances decoded
          have finish : buffer + start + length - buffer = start + length := by omega
          rw [elements_next inside decoded, Scan.cons, Below, finish]
          simp only [Option.some.injEq, Prod.mk.injEq, and_imp, forall_eq', forall_apply_eq_imp_iff]
          refine and_congr_right' (and_congr_right' (forall₂_congr fun after goes => ?_))
          exact ih (by omega) (keeps begins inside decoded goes)
      · rw [elements_end (by omega)]
        exact iff_of_true (ended (by omega)) fun more => absurd more inside

variable (walk) in
/-- A reader has what it asks of the elements that it comes to. -/
def Asked : σ → List Element → Prop
  | _, [] => True
  | state, element :: rest => walk.asks state element ∧
    ∀ after, walk.next state element = some after → Asked after rest

theorem asked_cons {state after : σ} {element : Element} {rest : List Element}
    (goes : walk.next state element = some after) :
    walk.Asked state (element :: rest) ↔ walk.asks state element ∧ walk.Asked after rest := by
  rw [Asked, goes]
  simp

/-- In a buffer that ends by the limit only what is asked of the elements is left. -/
theorem below_iff_asked (within : (buffer : Int) + maxBufPos ≤ limit)
    (fits : (stop : Int) ≤ maxBufPos) {walked : σ} {position : Nat} :
    walk.Below memory buffer maxBufPos stop limit walked position
        (elements memory buffer maxBufPos stop position).elements ↔
      walk.Asked walked (elements memory buffer maxBufPos stop position).elements := by
  rcases scanned : elements memory buffer maxBufPos stop position with ⟨parts, complete⟩
  simp only
  induction parts generalizing position walked with
  | nil => exact iff_of_true (fun inside => headBelow_of_within within (by omega)) trivial
  | cons element rest ih =>
      obtain ⟨inside, start, length, _, rfl, following⟩ := elements_eq_cons.mp scanned
      have finish : buffer + start + length - buffer = start + length := by omega
      rw [Below, Asked, finish, and_iff_right (headBelow_of_within within (by omega))]
      exact and_congr_right' (forall₂_congr fun after _ => ih following)

theorem asked_delimiting (passes : Element → Bool) (parts : List Element) :
    (delimiting passes).Asked () parts := by
  induction parts with
  | nil => trivial
  | cons element rest ih => exact ⟨trivial, fun _ _ => ih⟩

end Walk

end GridGooseSV.BerDecoder
