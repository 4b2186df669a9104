import GridGooseSV.Foundation.Traced
import Mathlib.Data.List.TakeWhile

/-!
# Octet memory

A memory gives an octet for every address. A buffer of a program is a range of
addresses; what a program finds at an address outside the octets it was given is
arbitrary, which a statement expresses by quantifying over the memory.
-/

namespace GridGooseSV

/-- An octet for every address. -/
abbrev Memory := Nat → UInt8

/-- What a program does that its caller may want bounded. -/
inductive Access
  /-- an octet of the memory is read -/
  | read (address : Nat)
  /-- an octet of the memory is written -/
  | write (address : Nat)
  /-- a signed machine integer takes a value -/
  | int (value : Int)
  /-- octets are copied into storage of the given capacity -/
  | copy (count capacity : Nat)
  /-- a freshly built object is stored -/
  | store
  /-- a stored object is deleted -/
  | delete
  deriving DecidableEq, Repr

/-- Every address the event reads lies below the limit. -/
def Access.ReadsBelow (limit : Nat) : Access → Prop
  | .read address => address < limit
  | _ => True

/-- The event is one of a decoder: it reads an address below the limit, computes or copies. -/
def Access.DecodesBelow (limit : Nat) : Access → Prop
  | .read address => address < limit
  | .int _ | .copy _ _ => True
  | .write _ | .store | .delete => False

theorem Access.DecodesBelow.readsBelow {limit : Nat} {event : Access}
    (decodes : event.DecodesBelow limit) : event.ReadsBelow limit := by
  cases event with
  | read address => exact decodes
  | _ => trivial

/-- Every address the event reads or writes lies below the limit. -/
def Access.TouchesBelow (limit : Nat) : Access → Prop
  | .read address => address < limit
  | .write address => address < limit
  | _ => True

/-- Every address the event writes lies in a range. -/
def Access.WritesWithin (bottom top : Nat) : Access → Prop
  | .write address => bottom ≤ address ∧ address < top
  | _ => True

/-- Every address the event reads lies in a range. -/
def Access.ReadsWithin (bottom top : Nat) : Access → Prop
  | .read address => bottom ≤ address ∧ address < top
  | _ => True

/-- The address that an event reads. -/
def Access.readAddress : Access → Option Nat
  | .read address => some address
  | _ => none

namespace Memory

/-- The octets at `count` consecutive addresses. -/
def octets (memory : Memory) (address : Nat) : Nat → List UInt8
  | 0 => []
  | count + 1 => memory address :: octets memory (address + 1) count

@[simp] theorem octets_zero (memory : Memory) (address : Nat) :
    memory.octets address 0 = [] := rfl

theorem octets_succ (memory : Memory) (address count : Nat) :
    memory.octets address (count + 1) =
      memory address :: memory.octets (address + 1) count := rfl

@[simp] theorem length_octets (memory : Memory) (address count : Nat) :
    (memory.octets address count).length = count := by
  induction count generalizing address with
  | zero => rfl
  | succ count ih => simp [octets_succ, ih]

theorem octets_add (memory : Memory) (address first second : Nat) :
    memory.octets address (first + second) =
      memory.octets address first ++ memory.octets (address + first) second := by
  induction first generalizing address with
  | zero => simp
  | succ first ih =>
      rw [Nat.add_right_comm, octets_succ, octets_succ, ih, List.cons_append, Nat.add_assoc,
        Nat.add_comm 1 first]

theorem getElem_octets (memory : Memory) (address count index : Nat)
    (bound : index < (memory.octets address count).length) :
    (memory.octets address count)[index] = memory (address + index) := by
  induction count generalizing address index with
  | zero => simp at bound
  | succ count ih =>
      cases index with
      | zero => rfl
      | succ index =>
          simp only [octets_succ, List.getElem_cons_succ]
          rw [ih, Nat.add_assoc, Nat.add_comm 1 index]

/-- The given octets stand at an address. -/
def Holds (memory : Memory) (address : Nat) (given : List UInt8) : Prop :=
  memory.octets address given.length = given

@[simp] theorem holds_nil (memory : Memory) (address : Nat) : memory.Holds address [] := rfl

theorem holds_cons {memory : Memory} {address : Nat} {octet : UInt8} {rest : List UInt8} :
    memory.Holds address (octet :: rest) ↔
      memory address = octet ∧ memory.Holds (address + 1) rest := by
  simp [Holds, octets_succ]

theorem holds_append {memory : Memory} {address : Nat} {first second : List UInt8} :
    memory.Holds address (first ++ second) ↔
      memory.Holds address first ∧ memory.Holds (address + first.length) second := by
  induction first generalizing address with
  | nil => simp
  | cons octet rest ih =>
      simp only [List.cons_append, holds_cons, ih, List.length_cons, and_assoc, Nat.add_assoc,
        Nat.add_comm 1 rest.length]

theorem Holds.octets {memory : Memory} {address : Nat} {given : List UInt8}
    (held : memory.Holds address given) : memory.octets address given.length = given := held

theorem Holds.get {memory : Memory} {address : Nat} {given : List UInt8}
    (held : memory.Holds address given) (index : Nat) (bound : index < given.length) :
    memory (address + index) = given[index] := by
  have read := getElem_octets memory address given.length index (by simpa using bound)
  rw [← read]
  exact List.getElem_of_eq held _

/-- Memories that agree on a range hold the same octets there. -/
theorem octets_congr {first second : Memory} {address count : Nat}
    (agree : ∀ position, address ≤ position → position < address + count →
      first position = second position) :
    first.octets address count = second.octets address count := by
  induction count generalizing address with
  | zero => rfl
  | succ count ih =>
      rw [octets_succ, octets_succ, agree address (Nat.le_refl _) (by omega)]
      congr 1
      exact ih fun position above below => agree position (by omega) (by omega)

/-- The same octets may stand at different addresses. -/
theorem octets_moved {first second : Memory} {address place count : Nat}
    (agree : ∀ index < count, first (address + index) = second (place + index)) :
    first.octets address count = second.octets place count := by
  apply List.ext_getElem (by simp)
  intro index bound _
  rw [length_octets] at bound
  rw [getElem_octets, getElem_octets, agree index bound]

/-- Write octets at consecutive addresses. -/
def put (memory : Memory) (address : Nat) (given : List UInt8) : Memory := fun position =>
  if address ≤ position then (given[position - address]?).getD (memory position)
  else memory position

theorem put_outside (memory : Memory) (address : Nat) (given : List UInt8) (position : Nat)
    (outside : position < address ∨ address + given.length ≤ position) :
    memory.put address given position = memory position := by
  unfold put
  split
  · rw [List.getElem?_eq_none (by omega), Option.getD_none]
  · rfl

theorem put_inside (memory : Memory) (address : Nat) (given : List UInt8) (index : Nat)
    (bound : index < given.length) :
    memory.put address given (address + index) = given[index] := by
  unfold put
  rw [if_pos (Nat.le_add_right _ _), Nat.add_sub_cancel_left, List.getElem?_eq_getElem bound,
    Option.getD_some]

@[simp] theorem put_nil (memory : Memory) (address : Nat) : memory.put address [] = memory := by
  funext position
  exact put_outside memory address [] position (by simp; omega)

/-- Octets that are written apart may be written in either order. -/
theorem put_comm (memory : Memory) {first second : Nat} {given other : List UInt8}
    (apart : first + given.length ≤ second ∨ second + other.length ≤ first) :
    (memory.put first given).put second other = (memory.put second other).put first given := by
  funext position
  by_cases inFirst : first ≤ position ∧ position < first + given.length
  · obtain ⟨index, rfl⟩ := Nat.exists_eq_add_of_le inFirst.1
    rw [put_inside _ _ _ index (by omega), put_outside _ _ _ _ (by omega),
      put_inside _ _ _ index (by omega)]
  · rw [put_outside _ first _ _ (by omega)]
    by_cases inSecond : second ≤ position ∧ position < second + other.length
    · obtain ⟨index, rfl⟩ := Nat.exists_eq_add_of_le inSecond.1
      rw [put_inside _ _ _ index (by omega), put_inside _ _ _ index (by omega)]
    · rw [put_outside _ second _ _ (by omega), put_outside _ first _ _ (by omega),
        put_outside _ second _ _ (by omega)]

/-- Octets are replaced by as many others, and what is written behind them stays. -/
theorem put_front (memory : Memory) (address : Nat) {old new rest : List UInt8}
    (same : new.length = old.length) :
    (memory.put address (old ++ rest)).put address new = memory.put address (new ++ rest) := by
  funext position
  by_cases inside : address ≤ position ∧ position < address + (new ++ rest).length
  · obtain ⟨index, rfl⟩ := Nat.exists_eq_add_of_le inside.1
    rw [put_inside _ _ (new ++ rest) index (by omega)]
    rw [List.length_append] at inside
    by_cases front : index < new.length
    · rw [put_inside _ _ new index front, List.getElem_append_left front]
    · rw [put_outside _ _ new _ (by omega),
        put_inside _ _ (old ++ rest) index (by rw [List.length_append]; omega),
        List.getElem_append_right (by omega), List.getElem_append_right (by omega)]
      congr 1
      omega
  · rw [List.length_append] at inside
    rw [put_outside _ _ new _ (by omega),
      put_outside _ _ _ _ (by rw [List.length_append]; omega),
      put_outside _ _ _ _ (by rw [List.length_append]; omega)]

/-- What was just written is held. -/
theorem holds_put (memory : Memory) (address : Nat) (given : List UInt8) :
    (memory.put address given).Holds address given := by
  apply List.ext_getElem (by simp)
  intro index first second
  rw [getElem_octets]
  exact put_inside memory address given index second

/-- Writing elsewhere leaves what is held. -/
theorem Holds.put {memory : Memory} {address : Nat} {given : List UInt8}
    (held : memory.Holds address given) {target : Nat} {written : List UInt8}
    (apart : address + given.length ≤ target ∨ target + written.length ≤ address) :
    (memory.put target written).Holds address given := by
  unfold Holds
  rw [← held.octets, length_octets]
  apply octets_congr
  intro position above below
  exact put_outside memory target written position (by omega)

/-- Writing what is held changes nothing. -/
theorem Holds.put_eq {memory : Memory} {address : Nat} {given : List UInt8}
    (held : memory.Holds address given) : memory.put address given = memory := by
  funext position
  by_cases inside : address ≤ position ∧ position < address + given.length
  · obtain ⟨index, rfl⟩ := Nat.exists_eq_add_of_le inside.1
    rw [put_inside _ _ _ index (by omega), held.get index (by omega)]
  · exact put_outside _ _ _ _ (by omega)

/-- Octets that are read differ after writing among them, unless what is written is held. -/
theorem octets_put_iff {memory : Memory} {address count place : Nat} {given : List UInt8}
    (above : address ≤ place) (below : place + given.length ≤ address + count) :
    memory.octets address count = (memory.put place given).octets address count ↔
      memory.Holds place given := by
  constructor
  · intro same
    apply List.ext_getElem (length_octets ..)
    intro index bound short
    have read := @List.getElem_of_eq _ _ _ same (place - address + index)
      (by rw [length_octets]; omega)
    rw [getElem_octets, getElem_octets,
      show address + (place - address + index) = place + index by omega,
      put_inside _ _ _ _ short] at read
    rw [getElem_octets, read]
  · intro held
    rw [held.put_eq]

/-- What is written right behind is held as well. -/
theorem Holds.append_put {memory : Memory} {address : Nat} {given : List UInt8}
    (held : memory.Holds address given) (written : List UInt8) :
    (memory.put (address + given.length) written).Holds address (given ++ written) :=
  holds_append.mpr ⟨held.put (.inl (Nat.le_refl _)), holds_put ..⟩

/-- What is passed over is held as it is found. -/
theorem Holds.append_octets {memory : Memory} {address : Nat} {given : List UInt8}
    (held : memory.Holds address given) (count : Nat) :
    memory.Holds address (given ++ memory.octets (address + given.length) count) := by
  refine holds_append.mpr ⟨held, ?_⟩
  rw [Holds, length_octets]

/-- Octets can be replaced by as many others. -/
theorem Holds.replace {memory : Memory} {address : Nat} {before old after : List UInt8}
    (held : memory.Holds address (before ++ (old ++ after))) {new : List UInt8}
    (same : new.length = old.length) :
    (memory.put (address + before.length) new).Holds address (before ++ (new ++ after)) := by
  obtain ⟨first, rest⟩ := holds_append.mp held
  obtain ⟨_, last⟩ := holds_append.mp rest
  refine holds_append.mpr ⟨first.put (.inl (Nat.le_refl _)), holds_append.mpr ⟨holds_put .., ?_⟩⟩
  rw [same]
  exact last.put (.inr (by omega))

/-- A memory that starts with the given octets. -/
def ofOctets (given : List UInt8) (stale : Memory) : Memory := stale.put 0 given

theorem holds_ofOctets (given : List UInt8) (stale : Memory) :
    (ofOctets given stale).Holds 0 given := holds_put stale 0 given

/-- Read one octet. -/
def read (memory : Memory) (address : Nat) : Traced Access UInt8 :=
  ⟨memory address, [.read address]⟩

/-- Read the octets at `count` consecutive addresses. -/
def readOctets (memory : Memory) (address count : Nat) : Traced Access (List UInt8) :=
  ⟨memory.octets address count, (List.range' address count).map .read⟩

/-- Write octets at consecutive addresses. -/
def store (memory : Memory) (address : Nat) (given : List UInt8) : Traced Access Memory :=
  ⟨memory.put address given, (List.range' address given.length).map .write⟩

@[simp] theorem value_store (memory : Memory) (address : Nat) (given : List UInt8) :
    (memory.store address given).value = memory.put address given := rfl

@[simp] theorem value_read (memory : Memory) (address : Nat) :
    (memory.read address).value = memory address := rfl

@[simp] theorem value_readOctets (memory : Memory) (address count : Nat) :
    (memory.readOctets address count).value = memory.octets address count := rfl

/-- This is tried before `value_bind`: a decision that follows is then about the
octet, not about the value of a read. -/
@[simp 1100] theorem value_bind_read {β : Type} (memory : Memory) (address : Nat)
    (next : UInt8 → Traced Access β) :
    (memory.read address >>= next).value = (next (memory address)).value := rfl

@[simp 1100] theorem value_bind_readOctets {β : Type} (memory : Memory) (address count : Nat)
    (next : List UInt8 → Traced Access β) :
    (memory.readOctets address count >>= next).value =
      (next (memory.octets address count)).value := rfl

@[simp] theorem always_read {memory : Memory} {address : Nat} {predicate : Access → Prop} :
    (memory.read address).Always predicate ↔ predicate (.read address) := by
  simp [Traced.Always, read]

theorem always_store {memory : Memory} {address : Nat} {given : List UInt8}
    {predicate : Access → Prop} :
    (memory.store address given).Always predicate ↔
      ∀ position, address ≤ position → position < address + given.length →
        predicate (.write position) := by
  simp only [Traced.Always, store, List.mem_map, List.mem_range'_1]
  constructor
  · intro holds position above below
    exact holds _ ⟨position, ⟨above, below⟩, rfl⟩
  · rintro holds _ ⟨position, ⟨above, below⟩, rfl⟩
    exact holds position above below

theorem always_readOctets {memory : Memory} {address count : Nat} {predicate : Access → Prop} :
    (memory.readOctets address count).Always predicate ↔
      ∀ position, address ≤ position → position < address + count →
        predicate (.read position) := by
  simp only [Traced.Always, readOctets, List.mem_map, List.mem_range'_1]
  constructor
  · intro holds position above below
    exact holds _ ⟨position, ⟨above, below⟩, rfl⟩
  · rintro holds _ ⟨position, ⟨above, below⟩, rfl⟩
    exact holds position above below

end Memory

namespace Traced

variable {α β : Type}

/-- The addresses that a computation reads, in order. -/
def reads (computation : Traced Access α) : List Nat :=
  computation.trace.filterMap Access.readAddress

@[simp] theorem reads_pure (value : α) : (pure value : Traced Access α).reads = [] := rfl

@[simp] theorem reads_bind (first : Traced Access α) (next : α → Traced Access β) :
    (first >>= next).reads = first.reads ++ (next first.value).reads :=
  List.filterMap_append

@[simp] theorem reads_read (memory : Memory) (address : Nat) :
    (memory.read address).reads = [address] := rfl

@[simp] theorem reads_readOctets (memory : Memory) (address count : Nat) :
    (memory.readOctets address count).reads = List.range' address count := by
  rw [reads, Memory.readOctets, List.filterMap_map]
  exact List.filterMap_some

/-- A predicate of reads alone. -/
theorem always_iff_forall_reads {computation : Traced Access α} {predicate : Access → Prop}
    (others : ∀ event, event.readAddress = none → predicate event) :
    computation.Always predicate ↔ ∀ address ∈ computation.reads, predicate (.read address) := by
  constructor
  · intro holds address member
    obtain ⟨event, caused, read⟩ := List.mem_filterMap.mp member
    cases event with
    | read _ => exact Option.some.inj read ▸ holds _ caused
    | _ => contradiction
  · intro holds event caused
    cases event with
    | read address => exact holds address (List.mem_filterMap.mpr ⟨_, caused, rfl⟩)
    | _ => exact others _ rfl

end Traced

/-- Copy octets over the front of storage, which keeps its size. -/
def overwrite (storage given : List UInt8) : List UInt8 :=
  given.take storage.length ++ storage.drop given.length

@[simp] theorem length_overwrite (storage given : List UInt8) :
    (overwrite storage given).length = storage.length := by
  simp [overwrite]
  omega

/-- A copy that fits can be read back. -/
theorem take_overwrite (storage given : List UInt8) (fits : given.length ≤ storage.length) :
    (overwrite storage given).take given.length = given := by
  unfold overwrite
  rw [List.take_of_length_le fits, List.take_left]

/-- The string that starts in storage: everything before the first NUL. -/
def cString (storage : List UInt8) : List UInt8 := storage.takeWhile (· != 0)

/-- A string without NUL octets. -/
abbrev CString := { octets : List UInt8 // 0 ∉ octets }

theorem zero_notMem_nil : 0 ∉ ([] : List UInt8) := List.not_mem_nil

theorem zero_notMem_a : 0 ∉ ([0x41] : List UInt8) := by decide

theorem zero_notMem_b : 0 ∉ ([0x42] : List UInt8) := by decide

theorem zero_notMem_cString (storage : List UInt8) : 0 ∉ cString storage := by
  intro member
  have kept := List.mem_takeWhile_imp member
  simp at kept

theorem cString_eq_self {given : List UInt8} (absent : 0 ∉ given) : cString given = given := by
  unfold cString
  rw [List.takeWhile_eq_self_iff]
  intro octet member
  exact bne_iff_ne.mpr fun zero => absent (zero ▸ member)

/-- What follows a terminator does not belong to the string. -/
theorem cString_append_zero (given rest : List UInt8) :
    cString (given ++ 0 :: rest) = cString given := by
  induction given with
  | nil => simp [cString]
  | cons octet given ih =>
      by_cases zero : octet = 0
      · simp [cString, zero]
      · have kept : (octet != 0) = true := bne_iff_ne.mpr zero
        simp only [cString, List.cons_append, List.takeWhile_cons, kept, ↓reduceIte]
        exact congrArg _ ih

end GridGooseSV
