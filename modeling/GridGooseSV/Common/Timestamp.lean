import GridGooseSV.Foundation.Numeral

/-!
# Timestamps

After `iec61850_common.cc`. A timestamp is eight octets: the seconds, a binary
fraction of a second of 24 bits, and the time quality.
-/

namespace GridGooseSV

/-- `Timestamp`. -/
abbrev Timestamp := Octets 8

namespace Timestamp

/-- The first seven octets of a timestamp. -/
def timeOctets (timeval32 fractionOfSecond : UInt32) : List UInt8 :=
  [(timeval32 / 0x1000000).toUInt8, (timeval32 / 0x10000).toUInt8, (timeval32 / 0x100).toUInt8,
    timeval32.toUInt8, (fractionOfSecond >>> 16).toUInt8, (fractionOfSecond >>> 8).toUInt8,
    fractionOfSecond.toUInt8]

/-- The time is set; the time quality is not touched. -/
def setTime (self : Timestamp) (timeval32 fractionOfSecond : UInt32) : Timestamp :=
  ⟨timeOctets timeval32 fractionOfSecond ++ self.val.drop 7, by
    simp [timeOctets, self.property]⟩

/-- `Timestamp_clearFlags`. -/
def clearFlags (self : Timestamp) : Timestamp :=
  ⟨self.val.take 7 ++ [0], by simp [self.property]⟩

/-- `Timestamp_setSubsecondPrecision`. -/
def setSubsecondPrecision (self : Timestamp) (subsecondPrecision : UInt8) : Timestamp :=
  let ssp := subsecondPrecision &&& 0x1f
  ⟨self.val.take 7 ++ [(self.val.getD 7 0 &&& 0xe0) + ssp], by simp [self.property]⟩

/-- `Timestamp_setTimeInMilliseconds`. -/
def setTimeInMilliseconds (self : Timestamp) (millisSinceEpoch : UInt64) : Timestamp :=
  let timeval32 := (millisSinceEpoch / 1000).toUInt32
  let remainder := (millisSinceEpoch % 1000).toUInt32
  self.setTime timeval32 (remainder * 16777 + remainder * 216 / 1000)

/-- `Timestamp_setTimeInNanoseconds`. -/
def setTimeInNanoseconds (self : Timestamp) (nsTime : UInt64) : Timestamp :=
  let timeval32 := (nsTime / 1000000000).toUInt32
  let remainder := (nsTime % 1000000000) <<< 24 / 1000000000
  self.setTime timeval32 remainder.toUInt32

end Timestamp

/-! ## Nanoseconds -/

/-- The nanoseconds that seven octets of a timestamp stand for. -/
def nsOfUtcTime (octets : List UInt8) : UInt64 :=
  let octet (index : Nat) : UInt32 := (octets.getD index 0).toUInt32
  let timeval32 := octet 3 + octet 2 * 0x100 + octet 1 * 0x10000 + octet 0 * 0x1000000
  let fractionOfSecond := octet 6 + octet 5 * 0x100 + octet 4 * 0x10000
  let nsVal := (fractionOfSecond.toUInt64 * 1000000000) >>> 24
  timeval32.toUInt64 * 1000000000 + nsVal

/-- The time is the number of seconds and a fraction of 24 bits, rounded down. -/
theorem toNat_nsOfUtcTime {seconds fraction : List UInt8} (four : seconds.length = 4)
    (three : fraction.length = 3) :
    (nsOfUtcTime (seconds ++ fraction)).toNat =
      bigEndian seconds * 10 ^ 9 + bigEndian fraction * 10 ^ 9 / 2 ^ 24 := by
  obtain ⟨a, b, c, d, rfl⟩ := List.length_eq_four.mp four
  obtain ⟨e, f, g, rfl⟩ := List.length_eq_three.mp three
  have small := fun octet : UInt8 => octet.toNat_lt
  have smallA := small a
  have smallB := small b
  have smallC := small c
  have smallD := small d
  have smallE := small e
  have smallF := small f
  have smallG := small g
  have timeval : (d.toUInt32 + c.toUInt32 * 0x100 + b.toUInt32 * 0x10000 +
      a.toUInt32 * 0x1000000).toNat = bigEndian [a, b, c, d] := by
    simp only [UInt32.toNat_add, UInt32.toNat_mul, UInt8.toNat_toUInt32, bigEndian,
      List.foldl_cons, List.foldl_nil, UInt32.reduceToNat]
    omega
  have parts : (g.toUInt32 + f.toUInt32 * 0x100 + e.toUInt32 * 0x10000).toNat =
      bigEndian [e, f, g] := by
    simp only [UInt32.toNat_add, UInt32.toNat_mul, UInt8.toNat_toUInt32, bigEndian,
      List.foldl_cons, List.foldl_nil, UInt32.reduceToNat]
    omega
  have secondsSmall : bigEndian [a, b, c, d] < 2 ^ 32 := by
    rw [← timeval]
    exact UInt32.toNat_lt _
  have fractionSmall : bigEndian [e, f, g] < 2 ^ 24 := by
    simp only [bigEndian, List.foldl_cons, List.foldl_nil]
    omega
  have split : nsOfUtcTime ([a, b, c, d] ++ [e, f, g]) =
      let timeval32 := d.toUInt32 + c.toUInt32 * 0x100 + b.toUInt32 * 0x10000 +
        a.toUInt32 * 0x1000000
      let fractionOfSecond := g.toUInt32 + f.toUInt32 * 0x100 + e.toUInt32 * 0x10000
      let nsVal := (fractionOfSecond.toUInt64 * 1000000000) >>> 24
      timeval32.toUInt64 * 1000000000 + nsVal := rfl
  rw [split]
  simp only [UInt64.toNat_add, UInt64.toNat_mul, UInt64.toNat_shiftRight, UInt32.toNat_toUInt64,
    timeval, parts, UInt64.reduceToNat, Nat.shiftRight_eq_div_pow, Nat.reduceMod, Nat.reducePow]
  have share : bigEndian [e, f, g] * 1000000000 / 16777216 < 1000000000 := by omega
  rw [@Nat.mod_eq_of_lt (bigEndian [a, b, c, d] * 1000000000) _ (by omega),
    @Nat.mod_eq_of_lt (bigEndian [e, f, g] * 1000000000) _ (by omega), Nat.mod_eq_of_lt (by omega)]

/-- `Timestamp_getTimeInNs`. -/
def Timestamp.getTimeInNs (self : Timestamp) : UInt64 := nsOfUtcTime self.val

/-- The nanoseconds of a fraction of 24 bits are less than a second. -/
theorem nanoseconds_lt {fraction : Nat} (small : fraction < 256 ^ 3) :
    fraction * 10 ^ 9 / 2 ^ 24 < 10 ^ 9 := by
  omega

/-- The nanoseconds do not run into the seconds. -/
theorem eq_of_time {seconds other share rest : Nat} (small : share < 10 ^ 9)
    (smallRest : rest < 10 ^ 9)
    (same : seconds * 10 ^ 9 + share = other * 10 ^ 9 + rest) : seconds = other ∧ share = rest := by
  omega

/-- One more step of the fraction is more than a nanosecond. -/
theorem eq_of_nanoseconds {fraction other : Nat}
    (same : fraction * 10 ^ 9 / 2 ^ 24 = other * 10 ^ 9 / 2 ^ 24) : fraction = other := by
  omega

/-- Times are told apart by their nanoseconds. -/
theorem eq_of_nsOfUtcTime {octets others : List UInt8} (length : octets.length = 7)
    (lengthOther : others.length = 7) (same : nsOfUtcTime octets = nsOfUtcTime others) :
    octets = others := by
  have numbers := congrArg UInt64.toNat same
  rw [← List.take_append_drop 4 octets, ← List.take_append_drop 4 others,
    toNat_nsOfUtcTime (by simp [length]) (by simp [length]),
    toNat_nsOfUtcTime (by simp [lengthOther]) (by simp [lengthOther])] at numbers
  have low := bigEndian_lt (octets.drop 4)
  have lowOther := bigEndian_lt (others.drop 4)
  rw [List.length_drop, length] at low
  rw [List.length_drop, lengthOther] at lowOther
  obtain ⟨seconds, fraction⟩ := eq_of_time (nanoseconds_lt low) (nanoseconds_lt lowOther) numbers
  rw [← List.take_append_drop 4 octets, ← List.take_append_drop 4 others,
    bigEndian_inj (by simp [length, lengthOther]) seconds,
    bigEndian_inj (by simp [length, lengthOther]) (eq_of_nanoseconds fraction)]

/-- Seven octets say the time. -/
theorem nsOfUtcTime_take (octets : List UInt8) :
    nsOfUtcTime (octets.take 7) = nsOfUtcTime octets := by
  simp [nsOfUtcTime, List.getD_eq_getElem?_getD]

/-- The precision does not change the time. -/
theorem getTimeInNs_setSubsecondPrecision (self : Timestamp) (subsecondPrecision : UInt8) :
    (self.setSubsecondPrecision subsecondPrecision).getTimeInNs = self.getTimeInNs := by
  rw [Timestamp.getTimeInNs, Timestamp.getTimeInNs, ← nsOfUtcTime_take, ← nsOfUtcTime_take self.val,
    Timestamp.setSubsecondPrecision]
  simp [self.property]

/-! ## Milliseconds -/

/-- Three octets of a number. -/
theorem bigEndian_three {number : Nat} (small : number < 2 ^ 24) :
    bigEndian [UInt8.ofNat (number / 2 ^ 16), UInt8.ofNat (number / 2 ^ 8), UInt8.ofNat number] =
      number := by
  simp only [bigEndian, List.foldl_cons, List.foldl_nil, UInt8.toNat_ofNat']
  omega

/-- Four octets of a number. -/
theorem bigEndian_four {number : Nat} (small : number < 2 ^ 32) :
    bigEndian [UInt8.ofNat (number / 2 ^ 24), UInt8.ofNat (number / 2 ^ 16),
      UInt8.ofNat (number / 2 ^ 8), UInt8.ofNat number] = number := by
  simp only [bigEndian, List.foldl_cons, List.foldl_nil, UInt8.toNat_ofNat']
  omega

/-- The three octets of a fraction of a second. -/
def fractionOctets (fraction : Nat) : List UInt8 :=
  [UInt8.ofNat (fraction / 2 ^ 16), UInt8.ofNat (fraction / 2 ^ 8), UInt8.ofNat fraction]

/-- The octets of a time are those of its seconds and of its fraction. -/
theorem Timestamp.timeOctets_eq (timeval32 fractionOfSecond : UInt32) :
    timeOctets timeval32 fractionOfSecond =
      [UInt8.ofNat (timeval32.toNat / 2 ^ 24), UInt8.ofNat (timeval32.toNat / 2 ^ 16),
        UInt8.ofNat (timeval32.toNat / 2 ^ 8), UInt8.ofNat timeval32.toNat] ++
      fractionOctets fractionOfSecond.toNat := by
  simp [timeOctets, fractionOctets, ← UInt8.toNat_inj, Nat.shiftRight_eq_div_pow]

/-- The octets of a time say its seconds and its fraction. -/
theorem toNat_nsOfUtcTime_setTime (self : Timestamp) (timeval32 fractionOfSecond : UInt32)
    (small : fractionOfSecond.toNat < 2 ^ 24) :
    (nsOfUtcTime (self.setTime timeval32 fractionOfSecond).val).toNat =
      timeval32.toNat * 10 ^ 9 + fractionOfSecond.toNat * 10 ^ 9 / 2 ^ 24 := by
  have octets : nsOfUtcTime (self.setTime timeval32 fractionOfSecond).val =
      nsOfUtcTime (Timestamp.timeOctets timeval32 fractionOfSecond) := rfl
  rw [octets, Timestamp.timeOctets_eq, toNat_nsOfUtcTime rfl rfl, fractionOctets,
    bigEndian_three small, bigEndian_four timeval32.toNat_lt]

/-- The fraction of a second that is written for milliseconds. -/
def fractionOf (milliseconds : Nat) : Nat := milliseconds * 16777 + milliseconds * 216 / 1000

theorem fractionOf_lt {milliseconds : Nat} (few : milliseconds < 1000) :
    fractionOf milliseconds < 2 ^ 24 := by
  unfold fractionOf
  omega

/-- What is set in milliseconds is a number of seconds and a fraction. -/
theorem Timestamp.setTimeInMilliseconds_eq (self : Timestamp) {millisSinceEpoch : UInt64}
    (small : millisSinceEpoch.toNat / 1000 < 2 ^ 32) :
    ∃ timeval32 fractionOfSecond : UInt32,
      self.setTimeInMilliseconds millisSinceEpoch = self.setTime timeval32 fractionOfSecond ∧
      timeval32.toNat = millisSinceEpoch.toNat / 1000 ∧
      fractionOfSecond.toNat = fractionOf (millisSinceEpoch.toNat % 1000) := by
  refine ⟨_, _, rfl, ?_, ?_⟩
  · simpa using Nat.mod_eq_of_lt small
  · generalize restEq : (millisSinceEpoch % 1000).toUInt32 = remainder
    have rest : remainder.toNat = millisSinceEpoch.toNat % 1000 := by
      rw [← restEq]
      simp
      omega
    simp (disch := omega) only [UInt32.toNat_add, UInt32.toNat_mul, UInt32.toNat_div,
      UInt32.reduceToNat, Nat.mod_eq_of_lt, rest, fractionOf]

/-- A fraction that is rounded down falls short of the millisecond. -/
theorem milliseconds_lt {remainder : Nat} (uneven : ¬ 125 ∣ remainder) :
    (remainder * 16777 + remainder * 216 / 1000) * 10 ^ 9 / 2 ^ 24 / 10 ^ 6 < remainder := by
  have short : (remainder * 16777 + remainder * 216 / 1000) * 1000 < remainder * 2 ^ 24 := by
    omega
  generalize remainder * 16777 + remainder * 216 / 1000 = fraction at *
  rw [Nat.div_div_eq_div_mul]
  apply Nat.div_lt_of_lt_mul
  calc fraction * 10 ^ 9
      = fraction * 1000 * 10 ^ 6 := by rw [Nat.mul_assoc, ← Nat.pow_add 10 3 6]
    _ < remainder * 2 ^ 24 * 10 ^ 6 := Nat.mul_lt_mul_of_pos_right short (by decide)
    _ = 2 ^ 24 * 10 ^ 6 * remainder := by rw [Nat.mul_assoc, Nat.mul_comm]

/-- An eighth of a second is exact. -/
theorem milliseconds_eq {remainder : Nat} (even : 125 ∣ remainder) :
    (remainder * 16777 + remainder * 216 / 1000) * 10 ^ 9 / 2 ^ 24 / 10 ^ 6 = remainder := by
  obtain ⟨eighths, rfl⟩ := even
  have share : 125 * eighths * 216 / 1000 = eighths * 27 := by omega
  rw [share]
  omega

/-- Milliseconds come back if 125 divides them. -/
theorem setTimeInMilliseconds_iff (self : Timestamp) {millisSinceEpoch : UInt64}
    (small : millisSinceEpoch.toNat / 1000 < 2 ^ 32) :
    nsOfUtcTime (self.setTimeInMilliseconds millisSinceEpoch).val / 1000000 = millisSinceEpoch ↔
      125 ∣ millisSinceEpoch.toNat := by
  obtain ⟨timeval32, fractionOfSecond, same, seconds, fraction⟩ :=
    self.setTimeInMilliseconds_eq small
  have few := fractionOf_lt (Nat.mod_lt millisSinceEpoch.toNat (by decide : 1000 > 0))
  have nanoseconds := toNat_nsOfUtcTime_setTime self timeval32 fractionOfSecond
    (fraction ▸ few)
  rw [fraction, seconds, fractionOf] at nanoseconds
  rw [same, ← UInt64.toNat_inj, UInt64.toNat_div, nanoseconds,
    show (1000000 : UInt64).toNat = 1000000 from rfl]
  generalize millisSinceEpoch.toNat = time at *
  have split : (time / 1000 * 10 ^ 9 +
      (time % 1000 * 16777 + time % 1000 * 216 / 1000) * 10 ^ 9 / 2 ^ 24) / 1000000 =
      time / 1000 * 1000 +
        (time % 1000 * 16777 + time % 1000 * 216 / 1000) * 10 ^ 9 / 2 ^ 24 / 10 ^ 6 := by
    omega
  rw [split]
  constructor
  · intro exactly
    by_contra uneven
    have short := @milliseconds_lt (time % 1000) (by omega)
    omega
  · intro even
    rw [@milliseconds_eq (time % 1000) (by omega)]
    omega

end GridGooseSV
