import GridGooseSV.Common.Timestamp
import GridGooseSV.Mms.Value

/-!
# The two forms of a UTC time

A UTC time of an MMS value and a timestamp are eight octets with the same meaning. What is
written as an MMS value has its seconds in host order, though, since `mms_value.cc` is compiled
without the macro that tells the byte order. It is read back right as an MMS value, but not as a
timestamp.
-/

namespace GridGooseSV

namespace Timestamp

/-- `Timestamp_getTimeInMs`. -/
def getTimeInMs (self : Timestamp) : UInt64 :=
  let octet (index : Nat) : UInt32 := (self.val.getD index 0).toUInt32
  let timeval32 := octet 3 + octet 2 * 0x100 + octet 1 * 0x10000 + octet 0 * 0x1000000
  let fractionOfSecond := (octet 4 <<< 16) + (octet 5 <<< 8) + octet 6
  let remainder := fractionOfSecond / 16777
  timeval32.toUInt64 * 1000 + remainder.toUInt64

/-- `Timestamp_fromMmsValue`, for a timestamp that is not NULL. -/
def fromMmsValue (self : Timestamp) : MmsValue → Option Timestamp
  | .utcTime utcTime => some (Octets.overwrite self utcTime.val)
  | _ => none

/-- The time is the number of seconds and the milliseconds that the fraction stands for. -/
theorem toNat_getTimeInMs {self : Timestamp} {seconds fraction rest : List UInt8}
    (four : seconds.length = 4) (three : fraction.length = 3)
    (octets : self.val = seconds ++ fraction ++ rest) :
    self.getTimeInMs.toNat = bigEndian seconds * 1000 + bigEndian fraction / 16777 := by
  obtain ⟨a, b, c, d, rfl⟩ := List.length_eq_four.mp four
  obtain ⟨e, f, g, rfl⟩ := List.length_eq_three.mp three
  have smallA := a.toNat_lt
  have smallB := b.toNat_lt
  have smallC := c.toNat_lt
  have smallD := d.toNat_lt
  have smallE := e.toNat_lt
  have smallF := f.toNat_lt
  have smallG := g.toNat_lt
  have timeval : (d.toUInt32 + c.toUInt32 * 0x100 + b.toUInt32 * 0x10000 +
      a.toUInt32 * 0x1000000).toNat = bigEndian [a, b, c, d] := by
    simp only [UInt32.toNat_add, UInt32.toNat_mul, UInt8.toNat_toUInt32, bigEndian,
      List.foldl_cons, List.foldl_nil, UInt32.reduceToNat]
    omega
  have parts : ((e.toUInt32 <<< 16) + (f.toUInt32 <<< 8) + g.toUInt32).toNat =
      bigEndian [e, f, g] := by
    simp only [UInt32.toNat_add, UInt32.toNat_shiftLeft, UInt8.toNat_toUInt32, bigEndian,
      List.foldl_cons, List.foldl_nil, UInt32.reduceToNat, Nat.shiftLeft_eq, Nat.reduceMod,
      Nat.reducePow]
    omega
  have secondsSmall : bigEndian [a, b, c, d] < 2 ^ 32 := by
    rw [← timeval]
    exact UInt32.toNat_lt _
  have fractionSmall : bigEndian [e, f, g] < 2 ^ 24 := by
    simp only [bigEndian, List.foldl_cons, List.foldl_nil]
    omega
  have sum : self.getTimeInMs = (d.toUInt32 + c.toUInt32 * 0x100 + b.toUInt32 * 0x10000 +
      a.toUInt32 * 0x1000000).toUInt64 * (1000 : UInt64) +
        (((e.toUInt32 <<< 16) + (f.toUInt32 <<< 8) + g.toUInt32) / 16777).toUInt64 := by
    unfold getTimeInMs
    rw [octets]
    rfl
  rw [sum, UInt64.toNat_add, UInt64.toNat_mul, UInt32.toNat_toUInt64, UInt32.toNat_toUInt64,
    UInt32.toNat_div, timeval, parts]
  simp only [UInt64.reduceToNat, UInt32.reduceToNat]
  rw [@Nat.mod_eq_of_lt (bigEndian [a, b, c, d] * 1000) _ (by omega), Nat.mod_eq_of_lt (by omega)]

end Timestamp

/-! ## Octets of a number -/

/-- The four octets of a number, least significant first. -/
theorem littleEndianOctets_four (number : Nat) :
    littleEndianOctets 4 number = [UInt8.ofNat number, UInt8.ofNat (number / 2 ^ 8),
      UInt8.ofNat (number / 2 ^ 16), UInt8.ofNat (number / 2 ^ 24)] := by
  simp [littleEndianOctets, Nat.div_div_eq_div_mul]

/-- The octets of a number read the same in both orders. -/
def Symmetric (number : Nat) : Prop :=
  number % 2 ^ 8 = number / 2 ^ 24 ∧ number / 2 ^ 8 % 2 ^ 8 = number / 2 ^ 16 % 2 ^ 8

instance (number : Nat) : Decidable (Symmetric number) := inferInstanceAs (Decidable (_ ∧ _))

theorem symmetric_iff {number : Nat} (small : number < 2 ^ 32) :
    Symmetric number ↔ littleEndianOctets 4 number = [UInt8.ofNat (number / 2 ^ 24),
      UInt8.ofNat (number / 2 ^ 16), UInt8.ofNat (number / 2 ^ 8), UInt8.ofNat number] := by
  rw [littleEndianOctets_four]
  simp only [Symmetric, List.cons.injEq, ← UInt8.toNat_inj, UInt8.toNat_ofNat', and_true]
  omega

/-- Octets in host order stand for the number only if they read the same in both orders. -/
theorem bigEndian_littleEndianOctets_iff {number : Nat} (small : number < 2 ^ 32) :
    bigEndian (littleEndianOctets 4 number) = number ↔ Symmetric number := by
  rw [symmetric_iff small]
  have ordered := bigEndian_four small
  constructor
  · intro same
    exact bigEndian_inj (by simp) (same.trans ordered.symm)
  · intro same
    rw [same, ordered]

/-! ## Milliseconds -/

/-- What was rounded down divides back. -/
theorem fractionOf_div {milliseconds : Nat} (few : milliseconds < 1000) :
    fractionOf milliseconds / 16777 = milliseconds := by
  unfold fractionOf
  omega

namespace MmsValue

/-- The octets of a UTC time. -/
theorem val_setUtcTimeMs (self : Octets 8) (timeval : UInt64) :
    (setUtcTimeMs self timeval).val = littleEndianOctets 4 (timeval.toNat / 1000) ++
      fractionOctets (fractionOf (timeval.toNat % 1000)) ++ [0x0a] := by
  simp only [setUtcTimeMs, Nat.shiftRight_eq_div_pow]
  apply Eq.trans (Octets.overwrite_all self (by simp))
  simp [fractionOctets, fractionOf]

/-- A time that was set is read back. -/
theorem getUtcTimeInMs_setUtcTimeMs (self : Octets 8) {timeval : UInt64}
    (small : timeval.toNat / 1000 < 2 ^ 32) :
    getUtcTimeInMs (setUtcTimeMs self timeval) = timeval.toNat := by
  have few := Nat.mod_lt timeval.toNat (by decide : 1000 > 0)
  have seconds : littleEndian (littleEndianOctets 4 (timeval.toNat / 1000)) =
      timeval.toNat / 1000 := by
    rw [littleEndian_littleEndianOctets]
    exact Nat.mod_eq_of_lt small
  have fraction : bigEndian (fractionOctets (fractionOf (timeval.toNat % 1000))) =
      fractionOf (timeval.toNat % 1000) := bigEndian_three (fractionOf_lt few)
  simp only [getUtcTimeInMs, val_setUtcTimeMs]
  have three : (fractionOctets (fractionOf (timeval.toNat % 1000))).length = 3 := rfl
  rw [List.append_assoc, List.take_left' (length_littleEndianOctets 4 _),
    List.drop_left' (length_littleEndianOctets 4 _), List.take_left' three, seconds, fraction,
    fractionOf_div few, Nat.mul_comm, Nat.div_add_mod]

end MmsValue

/-- The octets of a time that was set in milliseconds. -/
theorem Timestamp.val_setTimeInMilliseconds (self : Timestamp) {millisSinceEpoch : UInt64}
    (small : millisSinceEpoch.toNat / 1000 < 2 ^ 32) :
    (self.setTimeInMilliseconds millisSinceEpoch).val =
      [UInt8.ofNat (millisSinceEpoch.toNat / 1000 / 2 ^ 24),
        UInt8.ofNat (millisSinceEpoch.toNat / 1000 / 2 ^ 16),
        UInt8.ofNat (millisSinceEpoch.toNat / 1000 / 2 ^ 8),
        UInt8.ofNat (millisSinceEpoch.toNat / 1000)] ++
      fractionOctets (fractionOf (millisSinceEpoch.toNat % 1000)) ++ self.val.drop 7 := by
  obtain ⟨timeval32, fractionOfSecond, same, seconds, fraction⟩ :=
    self.setTimeInMilliseconds_eq small
  rw [same, ← seconds, ← fraction, ← timeOctets_eq]
  rfl

/-- A time in milliseconds is the same in both forms, and is read back from each. -/
structure UtcTimesAgree (mmsValue : Octets 8) (timestamp other : Timestamp) (time : UInt64) :
    Prop where
  octets : (MmsValue.setUtcTimeMs mmsValue time).val.take 7 =
    (timestamp.setTimeInMilliseconds time).val.take 7
  readAsValue : MmsValue.getUtcTimeInMs (MmsValue.setUtcTimeMs mmsValue time) = time.toNat
  readAsTimestamp : (other.fromMmsValue (.utcTime (MmsValue.setUtcTimeMs mmsValue time))).map
    Timestamp.getTimeInMs = some time

/-- The two forms agree on a time if and only if its seconds read the same in both byte orders. -/
theorem utcTimesAgree_iff (mmsValue : Octets 8) (timestamp other : Timestamp) (time : UInt64)
    (small : time.toNat / 1000 < 2 ^ 32) :
    UtcTimesAgree mmsValue timestamp other time ↔ Symmetric (time.toNat / 1000) := by
  have few := Nat.mod_lt time.toNat (by decide : 1000 > 0)
  have written := MmsValue.val_setUtcTimeMs mmsValue time
  have read : (other.fromMmsValue (.utcTime (MmsValue.setUtcTimeMs mmsValue time))).map
      Timestamp.getTimeInMs = some time ↔ Symmetric (time.toNat / 1000) := by
    have copied : (Octets.overwrite other (MmsValue.setUtcTimeMs mmsValue time).val).val =
        littleEndianOctets 4 (time.toNat / 1000) ++
          fractionOctets (fractionOf (time.toNat % 1000)) ++ [0x0a] :=
      (Octets.overwrite_all other (MmsValue.setUtcTimeMs mmsValue time).property).trans written
    have number := Timestamp.toNat_getTimeInMs (length_littleEndianOctets 4 _) rfl copied
    have fraction : bigEndian (fractionOctets (fractionOf (time.toNat % 1000))) =
        fractionOf (time.toNat % 1000) := bigEndian_three (fractionOf_lt few)
    rw [fraction, fractionOf_div few] at number
    rw [Timestamp.fromMmsValue, Option.map_some, Option.some.injEq, ← UInt64.toNat_inj, number,
      ← bigEndian_littleEndianOctets_iff small]
    omega
  constructor
  · exact fun agree => read.mp agree.readAsTimestamp
  · intro symmetric
    refine ⟨?_, MmsValue.getUtcTimeInMs_setUtcTimeMs mmsValue small, read.mpr symmetric⟩
    rw [written, Timestamp.val_setTimeInMilliseconds timestamp small,
      (symmetric_iff small).mp symmetric]
    rfl

/-- A quarter of a second after 65 12 12 65. -/
theorem utcTimesAgree_iff_palindrome :
    (1695683173250 : UInt64).toNat / 1000 = 0x65121265 ∧
      UtcTimesAgree Octets.zero Octets.zero Octets.zero 1695683173250 :=
  ⟨by decide, (utcTimesAgree_iff Octets.zero Octets.zero Octets.zero 1695683173250
    (by decide)).mpr (by decide)⟩

/-- The first second after the epoch is written as 01 00 00 00 and as 00 00 00 01. -/
theorem utcTimes_differ :
    (1000 : UInt64).toNat / 1000 < 2 ^ 32 ∧
      ¬ UtcTimesAgree Octets.zero Octets.zero Octets.zero 1000 := by
  refine ⟨by decide, fun agree => ?_⟩
  have different : (MmsValue.setUtcTimeMs Octets.zero 1000).val.take 7 ≠
      (Timestamp.setTimeInMilliseconds Octets.zero 1000).val.take 7 := by
    decide +kernel
  exact different agree.octets

end GridGooseSV
