import GridGooseSV.Foundation.Buffer

/-!
# Strings and times as text

After `string_utilities.cc` and `conversions.cc`.
-/

namespace GridGooseSV

namespace StringUtils

/-- The loop of `StringUtils_copyStringMax`, over what is left of the string. -/
def copyLoop (maxStringSize : Int) :
    (str1 : List UInt8) → (destPos : Nat) → (res : List UInt8) → Option (List UInt8)
  | [], destPos, res => writeAt res destPos 0
  | octet :: rest, destPos, res =>
    if (destPos : Int) < maxStringSize then do
      let res ← writeAt res destPos octet
      copyLoop maxStringSize rest (destPos + 1) res
    else writeAt res destPos 0

/-- `StringUtils_copyStringMax`, for a destination that is not NULL. -/
def copyStringMax (dest : List UInt8) (str1 : CString) : Option (List UInt8) :=
  copyLoop (dest.length - 1) str1.val 0 dest

/-- The loop copies what there is room for. -/
theorem shows_copyLoop {str1 written room : List UInt8} {maxStringSize : Int}
    (absent : 0 ∉ written) (absentBehind : 0 ∉ str1) (nonempty : room ≠ [])
    (size : maxStringSize = written.length + room.length - 1) :
    ∃ after, copyLoop maxStringSize str1 written.length (written ++ room) = some after ∧
      Shows after (written.length + room.length) (written ++ str1.take (room.length - 1)) := by
  induction str1 generalizing written room with
  | nil =>
      have positive := List.length_pos_iff.mpr nonempty
      refine ⟨_, writeAt_append written 0 nonempty, ?_, ?_, room.tail, ?_⟩
      · rw [List.length_append, List.length_cons, List.length_tail]
        omega
      · rwa [List.take_nil, List.append_nil]
      · rw [List.take_nil, List.append_nil]
  | cons octet str1 ih =>
      obtain ⟨first, others, rfl⟩ := List.exists_cons_of_ne_nil nonempty
      rw [List.length_cons] at size
      by_cases last : others = []
      · subst last
        rw [List.length_nil] at size
        refine ⟨written ++ [0], ?_, by simp, ?_, [], ?_⟩
        · rw [copyLoop, if_neg (by omega), writeAt_append written 0 nonempty]
          rfl
        · rwa [List.length_singleton, List.take_zero, List.append_nil]
        · rw [List.length_singleton, List.take_zero, List.append_nil]
      · have positive := List.length_pos_iff.mpr last
        have absentNext : 0 ∉ written ++ [octet] := by
          apply CString.zero_notMem_append absent
          intro member
          exact absentBehind (List.mem_singleton.mp member ▸ List.mem_cons_self)
        obtain ⟨after, copied, shows⟩ := ih absentNext
          (fun member => absentBehind (List.mem_cons_of_mem _ member)) last
          (by rw [List.length_append, List.length_singleton]; omega)
        rw [List.length_append, List.length_singleton, List.append_assoc,
          List.singleton_append] at copied shows
        refine ⟨after, ?_, ?_⟩
        · rw [copyLoop, if_pos (by omega), writeAt_append written octet nonempty,
            Option.bind_eq_bind, Option.bind_some, List.tail_cons, copied]
        · obtain ⟨count, room⟩ := Nat.exists_eq_add_one_of_ne_zero (Nat.ne_of_gt positive)
          rw [room, Nat.add_sub_cancel, Nat.add_assoc, Nat.add_comm 1] at shows
          rwa [List.length_cons, room, Nat.add_sub_cancel, List.take_succ_cons]

/-- What is left in a buffer that has room for the terminator. -/
theorem shows_copyStringMax {dest : List UInt8} (nonempty : dest ≠ []) (str1 : CString) :
    ∃ after, copyStringMax dest str1 = some after ∧
      Shows after dest.length (str1.val.take (dest.length - 1)) := by
  obtain ⟨after, copied, shows⟩ := @shows_copyLoop str1.val [] dest (dest.length - 1)
    List.not_mem_nil str1.property nonempty (by simp)
  rw [List.nil_append, List.length_nil, Nat.zero_add] at shows
  exact ⟨after, copied, shows⟩

/-- Without room for the terminator, it is written behind the buffer. -/
theorem copyStringMax_nil (str1 : CString) : copyStringMax [] str1 = none := by
  obtain ⟨octets, _⟩ := str1
  cases octets <;> rfl

end StringUtils

namespace Conversions

/-- The digits that `Conversions_intToStringBuffer` writes. -/
def intToStringBuffer (intValue : Nat) : (numberOfDigits : Nat) → List UInt8
  | 0 => []
  | digits + 1 =>
    UInt8.ofNat (intValue / 10 ^ digits + 48) :: intToStringBuffer (intValue % 10 ^ digits) digits

/-- A day of the Gregorian calendar. -/
structure Date where
  year : Nat
  month : Nat
  day : Nat
  deriving DecidableEq, Repr

/-- The date that `gmtime_r` finds for a number of days after the epoch. The years start in March
and are counted in eras of 400. -/
def dateOfDays (days : Nat) : Date :=
  let shifted := days + 719468
  let era := shifted / 146097
  let dayOfEra := shifted % 146097
  let yearOfEra :=
    (dayOfEra - dayOfEra / 1460 + dayOfEra / 36524 - dayOfEra / 146096) / 365
  let dayOfYear := dayOfEra - (365 * yearOfEra + yearOfEra / 4 - yearOfEra / 100)
  let shiftedMonth := (5 * dayOfYear + 2) / 153
  let month := if shiftedMonth < 10 then shiftedMonth + 3 else shiftedMonth - 9
  { year := yearOfEra + era * 400 + if month ≤ 2 then 1 else 0
    month := month
    day := dayOfYear - (153 * shiftedMonth + 2) / 5 + 1 }

example : dateOfDays 11016 = ⟨2000, 2, 29⟩ := by decide

/-- `Conversions_msTimeToGeneralizedTime`. -/
def msTimeToGeneralizedTime (msTime : Nat) : List UInt8 :=
  let unixTime := msTime / 1000
  let date := dateOfDays (unixTime / 86400)
  intToStringBuffer date.year 4 ++ intToStringBuffer date.month 2 ++
    intToStringBuffer date.day 2 ++ intToStringBuffer (unixTime / 3600 % 24) 2 ++
    intToStringBuffer (unixTime / 60 % 60) 2 ++ intToStringBuffer (unixTime % 60) 2 ++
    [0x2e] ++ intToStringBuffer (msTime % 1000) 3 ++ [0x5a, 0]

end Conversions

end GridGooseSV
