import GridGooseSV.Foundation.Format

/-!
# Strings in buffers of a fixed size

A buffer is the octets from a pointer to the end of what the pointer may access. What is read or
written behind that end is `none`. A string in a buffer is followed by a NUL.
-/

namespace GridGooseSV

/-- Write an octet at an index. -/
def writeAt (buffer : List UInt8) (index : Nat) (octet : UInt8) : Option (List UInt8) :=
  if index < buffer.length then some (buffer.set index octet) else none

/-- Write octets from an index on, one after the other. -/
def writeAll (buffer : List UInt8) (index : Nat) : List UInt8 → Option (List UInt8)
  | [] => some buffer
  | octet :: rest => do
    let buffer ← writeAt buffer index octet
    writeAll buffer (index + 1) rest

/-- Let a function write through a pointer to an index of the buffer. -/
def writeFrom (buffer : List UInt8) (index : Nat)
    (write : List UInt8 → Option (List UInt8)) : Option (List UInt8) :=
  (write (buffer.drop index)).map (buffer.take index ++ ·)

/-- `strlen`. -/
def strlen : List UInt8 → Option Nat
  | [] => none
  | octet :: rest => if octet = 0 then some 0 else (strlen rest).map (· + 1)

/-- `snprintf`: the string is cut to the size of the buffer, which it does not leave. -/
def snprintf (buffer : List UInt8) (string : CString) : List UInt8 :=
  if buffer.length = 0 then buffer
  else overwrite buffer (string.val.take (buffer.length - 1) ++ [0])

/-- A string starts in a buffer of a size. -/
structure Shows (buffer : List UInt8) (size : Nat) (string : List UInt8) : Prop where
  length : buffer.length = size
  absent : 0 ∉ string
  terminated : ∃ rest, buffer = string ++ 0 :: rest

section Writing

variable {written rest : List UInt8}

theorem writeAt_append (written : List UInt8) (octet : UInt8) {room : List UInt8}
    (some : room ≠ []) :
    writeAt (written ++ room) written.length octet =
      Option.some (written ++ octet :: room.tail) := by
  obtain ⟨first, rest, rfl⟩ := List.exists_cons_of_ne_nil some
  rw [writeAt, if_pos (by simp), List.set_append_right _ _ (Nat.le_refl _), Nat.sub_self]
  rfl

/-- What fits is written. -/
theorem writeAll_append (octets : List UInt8) {written room : List UInt8}
    (fits : octets.length ≤ room.length) :
    writeAll (written ++ room) written.length octets =
      some (written ++ octets ++ room.drop octets.length) := by
  induction octets generalizing written room with
  | nil => simp [writeAll]
  | cons octet octets ih =>
      obtain ⟨first, rest, rfl⟩ := List.exists_cons_of_length_pos
        (Nat.lt_of_lt_of_le (Nat.succ_pos _) fits)
      have next := @ih (written ++ [octet]) rest (by simpa using fits)
      rw [List.length_append, List.length_singleton] at next
      rw [writeAll, writeAt_append written octet (List.cons_ne_nil _ _), Option.bind_eq_bind,
        Option.bind_some, List.tail_cons]
      simpa using next

/-- The string that stands at an index is as long as it is. -/
theorem strlen_append {string : List UInt8} (absent : 0 ∉ string) :
    strlen (string ++ 0 :: rest) = some string.length := by
  induction string with
  | nil => simp [strlen]
  | cons octet string ih =>
      have nonzero : octet ≠ 0 := fun zero => absent (zero ▸ List.mem_cons_self)
      have others := ih fun member => absent (List.mem_cons_of_mem _ member)
      rw [List.cons_append, strlen, if_neg nonzero, others]
      rfl

end Writing

namespace Shows

variable {buffer : List UInt8} {size : Nat} {string : List UInt8}

theorem zero_mem (shows : Shows buffer size string) : 0 ∈ buffer := by
  obtain ⟨rest, rfl⟩ := shows.terminated
  simp

theorem length_lt (shows : Shows buffer size string) : string.length < size := by
  obtain ⟨rest, rfl⟩ := shows.terminated
  rw [← shows.length, List.length_append, List.length_cons]
  omega

theorem strlen_eq (shows : Shows buffer size string) : strlen buffer = some string.length := by
  obtain ⟨rest, rfl⟩ := shows.terminated
  exact strlen_append shows.absent

/-- A string behind another is a longer string. -/
theorem prepend (shows : Shows buffer size string) {written : List UInt8}
    (absent : 0 ∉ written) :
    Shows (written ++ buffer) (written.length + size) (written ++ string) := by
  obtain ⟨rest, rfl⟩ := shows.terminated
  refine ⟨?_, CString.zero_notMem_append absent shows.absent, rest, ?_⟩
  · rw [List.length_append, shows.length]
  · rw [List.append_assoc]

end Shows

/-- What `snprintf` leaves in a buffer. -/
theorem shows_snprintf {buffer : List UInt8} (nonempty : buffer ≠ []) (string : CString) :
    Shows (snprintf buffer string) buffer.length (string.val.take (buffer.length - 1)) := by
  have positive := List.length_pos_iff.mpr nonempty
  have fits : (string.val.take (buffer.length - 1) ++ [0]).length ≤ buffer.length := by
    rw [List.length_append, List.length_take, List.length_singleton]
    omega
  rw [snprintf, if_neg (by omega)]
  refine ⟨length_overwrite _ _, string.zero_notMem_take _,
    buffer.drop (string.val.take (buffer.length - 1) ++ [0]).length, ?_⟩
  rw [overwrite, List.take_of_length_le fits, List.append_assoc, List.singleton_append]

end GridGooseSV
