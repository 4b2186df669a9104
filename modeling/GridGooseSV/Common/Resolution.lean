import GridGooseSV.Common.UtcTime
import GridGooseSV.Foundation.Rescale

/-!
# Reading and writing nanoseconds

A timestamp counts fractions of a second in steps of 2⁻²⁴. Nanoseconds are a finer scale and
milliseconds a coarser one; what is read and what is written is rounded down each time.
-/

namespace GridGooseSV

namespace Timestamp

/-- The seconds of a timestamp. -/
def seconds (self : Timestamp) : Nat := bigEndian (self.val.take 4)

/-- The fraction of a second, in steps of 2⁻²⁴. -/
def fraction (self : Timestamp) : Nat := bigEndian ((self.val.drop 4).take 3)

/-- The octet behind the time. -/
def timeQuality (self : Timestamp) : List UInt8 := self.val.drop 7

theorem parts (self : Timestamp) :
    self.val = self.val.take 4 ++ (self.val.drop 4).take 3 ++ self.val.drop 7 := by
  have rest := List.take_append_drop 3 (self.val.drop 4)
  rw [List.drop_drop] at rest
  rw [List.append_assoc, rest, List.take_append_drop]

/-- A timestamp is its seconds, its fraction and its quality. -/
theorem eq_of_parts {self other : Timestamp} (seconds : self.seconds = other.seconds)
    (fraction : self.fraction = other.fraction)
    (quality : self.timeQuality = other.timeQuality) : self = other := by
  have length := self.property
  have lengthOther := other.property
  apply Subtype.ext
  rw [parts self, parts other, bigEndian_inj (by simp [length, lengthOther]) seconds,
    bigEndian_inj (by simp [length, lengthOther]) fraction]
  exact congrArg _ quality

theorem seconds_lt (self : Timestamp) : self.seconds < 2 ^ 32 := by
  have small := bigEndian_lt (self.val.take 4)
  rw [List.length_take, self.property] at small
  exact small

theorem fraction_lt (self : Timestamp) : self.fraction < 2 ^ 24 := by
  have small := bigEndian_lt ((self.val.drop 4).take 3)
  rw [List.length_take, List.length_drop, self.property] at small
  exact small

/-! ## Reading -/

/-- `Timestamp_getTimeInSeconds`. -/
def getTimeInSeconds (self : Timestamp) : UInt32 :=
  let octet (index : Nat) : UInt32 := (self.val.getD index 0).toUInt32
  octet 3 + octet 2 * 0x100 + octet 1 * 0x10000 + octet 0 * 0x1000000

/-- The fraction of a second as `Timestamp_getTimeInNs` adds it up. -/
def fractionOfSecond (self : Timestamp) : UInt32 :=
  let octet (index : Nat) : UInt32 := (self.val.getD index 0).toUInt32
  octet 6 + octet 5 * 0x100 + octet 4 * 0x10000

theorem getTimeInNs_eq (self : Timestamp) :
    self.getTimeInNs = self.getTimeInSeconds.toUInt64 * (1000000000 : UInt64) +
      (self.fractionOfSecond.toUInt64 * (1000000000 : UInt64)) >>> (24 : UInt64) := rfl

theorem octets_eq (self : Timestamp) : ∃ a b c d e f g h, self.val = [a, b, c, d, e, f, g, h] := by
  have length := self.property
  obtain ⟨a, b, c, d, first⟩ := List.length_eq_four.mp
    (by simp [length] : (self.val.take 4).length = 4)
  obtain ⟨e, f, g, h, second⟩ := List.length_eq_four.mp
    (by simp [length] : (self.val.drop 4).length = 4)
  refine ⟨a, b, c, d, e, f, g, h, ?_⟩
  rw [← List.take_append_drop 4 self.val, first, second]
  rfl

theorem toNat_getTimeInSeconds (self : Timestamp) : self.getTimeInSeconds.toNat = self.seconds := by
  obtain ⟨a, b, c, d, e, f, g, h, octets⟩ := self.octets_eq
  have smallA := a.toNat_lt
  have smallB := b.toNat_lt
  have smallC := c.toNat_lt
  have smallD := d.toNat_lt
  unfold getTimeInSeconds seconds
  rw [octets]
  simp only [List.getD_cons_zero, List.getD_cons_succ, UInt32.toNat_add, UInt32.toNat_mul,
    UInt8.toNat_toUInt32, UInt32.reduceToNat, List.take_succ_cons, List.take_zero, bigEndian,
    List.foldl_cons, List.foldl_nil]
  omega

theorem toNat_fractionOfSecond (self : Timestamp) :
    self.fractionOfSecond.toNat = self.fraction := by
  obtain ⟨a, b, c, d, e, f, g, h, octets⟩ := self.octets_eq
  have smallE := e.toNat_lt
  have smallF := f.toNat_lt
  have smallG := g.toNat_lt
  unfold fractionOfSecond fraction
  rw [octets]
  simp only [List.getD_cons_zero, List.getD_cons_succ, UInt32.toNat_add, UInt32.toNat_mul,
    UInt8.toNat_toUInt32, UInt32.reduceToNat, List.drop_succ_cons, List.drop_zero,
    List.take_succ_cons, List.take_zero, bigEndian, List.foldl_cons, List.foldl_nil]
  omega

/-- The nanoseconds of the seconds fit into 64 bits. -/
theorem toNat_secondsProduct (self : Timestamp) :
    (self.getTimeInSeconds.toUInt64 * 1000000000).toNat = self.getTimeInSeconds.toNat * 10 ^ 9 := by
  have small := self.getTimeInSeconds.toNat_lt
  rw [UInt64.toNat_mul, UInt32.toNat_toUInt64]
  simp only [UInt64.reduceToNat]
  omega

/-- The scaled fraction fits into 64 bits. -/
theorem toNat_fractionProduct (self : Timestamp) :
    (self.fractionOfSecond.toUInt64 * 1000000000).toNat = self.fractionOfSecond.toNat * 10 ^ 9 := by
  have small := self.fractionOfSecond.toNat_lt
  rw [UInt64.toNat_mul, UInt32.toNat_toUInt64]
  simp only [UInt64.reduceToNat]
  omega

/-- The nanoseconds of a fraction are less than a second. -/
theorem share_lt (self : Timestamp) : rescale (2 ^ 24) (10 ^ 9) self.fraction < 10 ^ 9 :=
  rescale_lt (by decide) self.fraction_lt

/-- The scaled fraction after the shift. -/
theorem toNat_nsVal (self : Timestamp) :
    ((self.fractionOfSecond.toUInt64 * 1000000000) >>> 24).toNat =
      rescale (2 ^ 24) (10 ^ 9) self.fraction := by
  rw [UInt64.toNat_shiftRight, toNat_fractionProduct, toNat_fractionOfSecond,
    Nat.shiftRight_eq_div_pow]
  rfl

/-- The time in nanoseconds. -/
theorem toNat_getTimeInNs (self : Timestamp) :
    self.getTimeInNs.toNat =
      self.seconds * 10 ^ 9 + rescale (2 ^ 24) (10 ^ 9) self.fraction := by
  have seconds := self.seconds_lt
  have share := self.share_lt
  rw [getTimeInNs_eq, UInt64.toNat_add, toNat_secondsProduct, toNat_nsVal, toNat_getTimeInSeconds]
  omega

/-- The time in milliseconds. -/
theorem toNat_getTimeInMs_eq (self : Timestamp) :
    self.getTimeInMs.toNat = self.seconds * 1000 + self.fraction / 16777 := by
  have length := self.property
  exact toNat_getTimeInMs (by simp [length]) (by simp [length]) self.parts

/-! ## Writing -/

section Writing

variable (self : Timestamp) (timeval32 fractionOfSecond : UInt32)

theorem seconds_setTime : (self.setTime timeval32 fractionOfSecond).seconds = timeval32.toNat := by
  have octets : (self.setTime timeval32 fractionOfSecond).val.take 4 =
      (timeOctets timeval32 fractionOfSecond).take 4 := rfl
  rw [seconds, octets, timeOctets_eq]
  exact bigEndian_four timeval32.toNat_lt

theorem fraction_setTime (small : fractionOfSecond.toNat < 2 ^ 24) :
    (self.setTime timeval32 fractionOfSecond).fraction = fractionOfSecond.toNat := by
  have octets : ((self.setTime timeval32 fractionOfSecond).val.drop 4).take 3 =
      (timeOctets timeval32 fractionOfSecond).drop 4 := rfl
  rw [fraction, octets, timeOctets_eq]
  exact bigEndian_three small

end Writing

/-- The remainder of a second is shifted by 24 bits within 64. -/
theorem toNat_shiftedRemainder (nsTime : UInt64) :
    ((nsTime % 1000000000) <<< 24).toNat = (nsTime % 1000000000).toNat * 2 ^ 24 := by
  rw [UInt64.toNat_shiftLeft, UInt64.toNat_mod]
  simp only [UInt64.reduceToNat, Nat.shiftLeft_eq, Nat.reduceMod]
  omega

/-- The fraction that is written is rounded down. -/
theorem toNat_fractionOfNanoseconds (nsTime : UInt64) :
    ((nsTime % 1000000000) <<< 24 / 1000000000).toUInt32.toNat =
      rescale (10 ^ 9) (2 ^ 24) (nsTime.toNat % 10 ^ 9) := by
  have small := @rescale_lt (10 ^ 9) (2 ^ 24) (nsTime.toNat % 10 ^ 9) (by decide)
    (Nat.mod_lt _ (by decide))
  rw [UInt64.toNat_toUInt32, UInt64.toNat_div, toNat_shiftedRemainder, UInt64.toNat_mod]
  exact Nat.mod_eq_of_lt (Nat.lt_trans small (by decide))

theorem seconds_setTimeInNanoseconds (self : Timestamp) {nsTime : UInt64}
    (small : nsTime.toNat < 2 ^ 32 * 10 ^ 9) :
    (self.setTimeInNanoseconds nsTime).seconds = nsTime.toNat / 10 ^ 9 := by
  rw [setTimeInNanoseconds, seconds_setTime, UInt64.toNat_toUInt32, UInt64.toNat_div]
  simp only [UInt64.reduceToNat]
  omega

theorem fraction_setTimeInNanoseconds (self : Timestamp) (nsTime : UInt64) :
    (self.setTimeInNanoseconds nsTime).fraction =
      rescale (10 ^ 9) (2 ^ 24) (nsTime.toNat % 10 ^ 9) := by
  have small := @rescale_lt (10 ^ 9) (2 ^ 24) (nsTime.toNat % 10 ^ 9) (by decide)
    (Nat.mod_lt _ (by decide))
  rw [← toNat_fractionOfNanoseconds] at small ⊢
  exact fraction_setTime self _ _ small

theorem timeQuality_setTimeInNanoseconds (self : Timestamp) (nsTime : UInt64) :
    (self.setTimeInNanoseconds nsTime).timeQuality = self.timeQuality := rfl

/-! ## Written and read -/

/-- The nanoseconds that are read of those that were written. -/
def readBack (self : Timestamp) (nsTime : UInt64) : UInt64 :=
  (self.setTimeInNanoseconds nsTime).getTimeInNs

theorem toNat_readBack (self : Timestamp) {nsTime : UInt64}
    (small : nsTime.toNat < 2 ^ 32 * 10 ^ 9) :
    (self.readBack nsTime).toNat = nsTime.toNat / 10 ^ 9 * 10 ^ 9 +
      rescale (2 ^ 24) (10 ^ 9) (rescale (10 ^ 9) (2 ^ 24) (nsTime.toNat % 10 ^ 9)) := by
  rw [readBack, toNat_getTimeInNs, seconds_setTimeInNanoseconds self small,
    fraction_setTimeInNanoseconds]

/-- A step of the fraction is less than 60 nanoseconds. -/
theorem remainder_le (remainder : Nat) :
    remainder ≤ rescale (2 ^ 24) (10 ^ 9) (rescale (10 ^ 9) (2 ^ 24) remainder) + 60 := by
  have near := @mul_lt_rescale_back (10 ^ 9) (2 ^ 24) remainder (by decide) (by decide)
  omega

/-- Nothing that the two functions compute in 64 bits is reduced. -/
structure ExactProducts (nsTime : UInt64) (stored : Timestamp) : Prop where
  shifted : ((nsTime % 1000000000) <<< 24).toNat = (nsTime % 1000000000).toNat * 2 ^ 24
  seconds : (stored.getTimeInSeconds.toUInt64 * 1000000000).toNat =
    stored.getTimeInSeconds.toNat * 10 ^ 9
  fraction : (stored.fractionOfSecond.toUInt64 * 1000000000).toNat =
    stored.fractionOfSecond.toNat * 10 ^ 9
  sum : stored.getTimeInNs.toNat = (stored.getTimeInSeconds.toUInt64 * 1000000000).toNat +
    ((stored.fractionOfSecond.toUInt64 * 1000000000) >>> 24).toNat

theorem exactProducts (nsTime : UInt64) (stored : Timestamp) : ExactProducts nsTime stored where
  shifted := toNat_shiftedRemainder nsTime
  seconds := stored.toNat_secondsProduct
  fraction := stored.toNat_fractionProduct
  sum := by
    rw [toNat_secondsProduct, toNat_nsVal, toNat_getTimeInNs, toNat_getTimeInSeconds]

/-- A time in nanoseconds is written and read back within a step of the fraction. -/
structure Accurate (timestamp : Timestamp) (nsTime : UInt64) : Prop where
  near : nsTime.toNat ≤ (timestamp.readBack nsTime).toNat + 60
  notLater : timestamp.readBack nsTime ≤ nsTime
  sameSecond : timestamp.readBack nsTime / 1000000000 = nsTime / 1000000000
  products : ExactProducts nsTime (timestamp.setTimeInNanoseconds nsTime)
  quality : (timestamp.setTimeInNanoseconds nsTime).timeQuality = timestamp.timeQuality

theorem accurate (self : Timestamp) {nsTime : UInt64} (small : nsTime.toNat < 2 ^ 32 * 10 ^ 9) :
    Accurate self nsTime := by
  have read := self.toNat_readBack small
  have near := remainder_le (nsTime.toNat % 10 ^ 9)
  have notMore := @rescale_back_le (10 ^ 9) (2 ^ 24) (nsTime.toNat % 10 ^ 9)
  refine ⟨?_, ?_, ?_, exactProducts _ _, self.timeQuality_setTimeInNanoseconds nsTime⟩
  · omega
  · rw [UInt64.le_iff_toNat_le]
    omega
  · rw [← UInt64.toNat_inj, UInt64.toNat_div, UInt64.toNat_div]
    simp only [UInt64.reduceToNat]
    omega

/-- What is written later is not read as earlier. -/
theorem readBack_mono (self other : Timestamp) {nsTime nsLater : UInt64}
    (small : nsLater.toNat < 2 ^ 32 * 10 ^ 9) (ordered : nsTime ≤ nsLater) :
    self.readBack nsTime ≤ other.readBack nsLater := by
  rw [UInt64.le_iff_toNat_le] at ordered ⊢
  have read := self.toNat_readBack (Nat.lt_of_le_of_lt ordered small)
  have readLater := other.toNat_readBack small
  have notMore := @rescale_back_le (10 ^ 9) (2 ^ 24) (nsTime.toNat % 10 ^ 9)
  by_cases sameSecond : nsTime.toNat / 10 ^ 9 = nsLater.toNat / 10 ^ 9
  · have remainders : nsTime.toNat % 10 ^ 9 ≤ nsLater.toNat % 10 ^ 9 := by omega
    have shares := @rescale_mono (2 ^ 24) (10 ^ 9) _ _
      (@rescale_mono (10 ^ 9) (2 ^ 24) _ _ remainders)
    omega
  · omega

/-- Nanoseconds are read back accurately and in order. -/
theorem nanoseconds_accurate (self : Timestamp) {nsTime : UInt64}
    (small : nsTime.toNat < 2 ^ 32 * 10 ^ 9) :
    Accurate self nsTime ∧ ∀ (other : Timestamp) (nsLater : UInt64),
      nsLater.toNat < 2 ^ 32 * 10 ^ 9 → nsTime ≤ nsLater →
        self.readBack nsTime ≤ other.readBack nsLater := by
  refine ⟨accurate self small, ?_⟩
  intro other nsLater smallLater ordered
  exact readBack_mono self other smallLater ordered

/-- The last nanosecond of a second and the one behind it. -/
theorem nanoseconds_accurate_last :
    (999999999 : UInt64).toNat < 2 ^ 32 * 10 ^ 9 ∧ Accurate Octets.zero 999999999 ∧
      readBack Octets.zero 999999999 ≤ readBack Octets.zero 1000000000 := by
  obtain ⟨accurate, ordered⟩ := @nanoseconds_accurate Octets.zero 999999999 (by decide)
  exact ⟨by decide, accurate, ordered Octets.zero 1000000000 (by decide) (by decide)⟩

/-! ## Relaying -/

/-- A timestamp that is read and written again. -/
def relayed (self : Timestamp) : Timestamp := self.setTimeInNanoseconds self.getTimeInNs

theorem seconds_relayed (self : Timestamp) : self.relayed.seconds = self.seconds := by
  have share := self.share_lt
  have small := self.seconds_lt
  have read := self.toNat_getTimeInNs
  rw [relayed, seconds_setTimeInNanoseconds self (by omega), read]
  omega

theorem fraction_relayed (self : Timestamp) :
    self.relayed.fraction =
      rescale (10 ^ 9) (2 ^ 24) (rescale (2 ^ 24) (10 ^ 9) self.fraction) := by
  have share := self.share_lt
  have read := self.toNat_getTimeInNs
  rw [relayed, fraction_setTimeInNanoseconds]
  congr 1
  omega

/-- A fraction that is a whole number of nanoseconds. -/
theorem whole_iff (fraction : Nat) : 2 ^ 24 ∣ fraction * 10 ^ 9 ↔ 2 ^ 15 ∣ fraction := by
  have coprime : Nat.Coprime (2 ^ 15) (5 ^ 9) := by decide
  have tens : fraction * 10 ^ 9 = 2 ^ 9 * (fraction * 5 ^ 9) := by omega
  rw [tens, show 2 ^ 24 = 2 ^ 9 * 2 ^ 15 by rfl, Nat.mul_dvd_mul_iff_left (by decide)]
  exact ⟨coprime.dvd_of_dvd_mul_right, fun divides => Nat.dvd_mul_right_of_dvd divides _⟩

theorem fraction_relayed_eq {self : Timestamp} (whole : 2 ^ 15 ∣ self.fraction) :
    self.relayed.fraction = self.fraction := by
  rw [fraction_relayed]
  exact rescale_back_eq (by decide) ((whole_iff _).mpr whole)

/-- A fraction that is no whole number of nanoseconds loses a step. -/
theorem fraction_relayed_short {self : Timestamp} (uneven : ¬ 2 ^ 15 ∣ self.fraction) :
    self.relayed.fraction + 1 = self.fraction := by
  rw [fraction_relayed]
  exact rescale_back_short (by decide) (by decide) (mt (whole_iff _).mp uneven)

theorem relayed_eq {self : Timestamp} (whole : 2 ^ 15 ∣ self.fraction) : self.relayed = self :=
  eq_of_parts self.seconds_relayed (fraction_relayed_eq whole)
    (self.timeQuality_setTimeInNanoseconds self.getTimeInNs)

/-- Relaying drifts by a step each time, down to a whole number of nanoseconds. -/
theorem fraction_relayed_iterate (self : Timestamp) (count : Nat) :
    (relayed^[count] self).fraction =
      max (self.fraction - count) (self.fraction / 2 ^ 15 * 2 ^ 15) := by
  induction count with
  | zero =>
      rw [Function.iterate_zero_apply]
      omega
  | succ count ih =>
      rw [Function.iterate_succ_apply']
      by_cases whole : 2 ^ 15 ∣ (relayed^[count] self).fraction
      · rw [fraction_relayed_eq whole, ih]
        rw [ih] at whole
        omega
      · have short := fraction_relayed_short whole
        rw [ih] at short whole
        omega

/-- A timestamp is relayed without loss if and only if its fraction is a whole number of
nanoseconds. -/
theorem relayed_lossless_iff (self : Timestamp) :
    (self.relayed = self ∧ ∀ count, relayed^[count] self = self) ↔ 2 ^ 15 ∣ self.fraction := by
  constructor
  · intro lossless
    by_contra uneven
    have short := fraction_relayed_short uneven
    rw [lossless.1] at short
    omega
  · intro whole
    have same := relayed_eq whole
    exact ⟨same, fun count => Function.iterate_fixed same count⟩

/-- The least fraction is lost. -/
theorem relayed_lossy :
    let timestamp : Timestamp := ⟨[0, 0, 0, 0, 0, 0, 1, 0], rfl⟩
    timestamp.relayed.val = [0, 0, 0, 0, 0, 0, 0, 0] ∧ timestamp.relayed ≠ timestamp := by
  decide +kernel

/-! ## Milliseconds and nanoseconds -/

/-- The two readings of a timestamp tell one time. -/
structure ReadingsAgree (timestamp : Timestamp) : Prop where
  quotient : timestamp.getTimeInMs = timestamp.getTimeInNs / 1000000
  sameSecond : timestamp.getTimeInMs / 1000 = timestamp.getTimeInSeconds.toUInt64

/-- The milliseconds of the nanoseconds. -/
theorem toNat_getTimeInNs_div (self : Timestamp) :
    (self.getTimeInNs / 1000000).toNat = self.seconds * 1000 + self.fraction * 1000 / 2 ^ 24 := by
  have small := self.fraction_lt
  rw [UInt64.toNat_div, toNat_getTimeInNs, rescale]
  simp only [UInt64.reduceToNat]
  omega

/-- The readings agree if and only if the fraction is in none of the gaps from 16777 times a
number of milliseconds up to that number of milliseconds. -/
theorem readingsAgree_iff (self : Timestamp) :
    ReadingsAgree self ↔ ∀ milliseconds, self.fraction < 16777 * milliseconds ∨
      2 ^ 24 * milliseconds ≤ 1000 * self.fraction := by
  have small := self.fraction_lt
  have direct := self.toNat_getTimeInMs_eq
  have divided := self.toNat_getTimeInNs_div
  constructor
  · intro agree milliseconds
    have same := congrArg UInt64.toNat agree.quotient
    rw [direct, divided] at same
    by_cases before : self.fraction < 16777 * milliseconds
    · exact .inl before
    · have reached : milliseconds ≤ self.fraction / 16777 := by omega
      rw [Nat.add_left_cancel_iff.mp same] at reached
      exact .inr (by omega)
  · intro outside
    have same : self.fraction / 16777 = self.fraction * 1000 / 2 ^ 24 := by
      have reached := outside (self.fraction / 16777)
      omega
    refine ⟨?_, ?_⟩
    · rw [← UInt64.toNat_inj, direct, divided, same]
    · rw [← UInt64.toNat_inj, UInt64.toNat_div, direct, UInt32.toNat_toUInt64,
        toNat_getTimeInSeconds, same]
      simp only [UInt64.reduceToNat]
      omega

/-- The last step of a second is read as a second by one and as less by the other. -/
theorem readings_differ :
    let timestamp : Timestamp := ⟨[0, 0, 0, 0, 0xff, 0xff, 0xff, 0], rfl⟩
    timestamp.getTimeInMs = 1000 ∧ timestamp.getTimeInNs / 1000000 = 999 ∧
      ¬ timestamp.ReadingsAgree := by
  have values : getTimeInMs ⟨[0, 0, 0, 0, 0xff, 0xff, 0xff, 0], rfl⟩ = 1000 ∧
      getTimeInNs ⟨[0, 0, 0, 0, 0xff, 0xff, 0xff, 0], rfl⟩ / 1000000 = 999 := by
    decide +kernel
  refine ⟨values.1, values.2, fun agree => ?_⟩
  have same := agree.quotient
  rw [values.1, values.2] at same
  contradiction

end Timestamp

end GridGooseSV
