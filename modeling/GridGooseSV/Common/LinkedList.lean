import GridGooseSV.Foundation.Chain
import GridGooseSV.Foundation.Runs
import Mathlib.Data.List.Basic

/-!
# Linked lists

After `linked_list.cc`. A list is a header without data and its elements behind it, and a reference
to an element is a list of the elements behind that one. Any number of lists share the memory.
-/

namespace GridGooseSV

namespace LinkedList

variable {Address Object : Type} [DecidableEq Address] [DecidableEq Object]

/-- The memory: the nodes that are allocated, with the data they point to. -/
abbrev Heap (Address Object : Type) := Nodes Address (Option Object)

/-- `LinkedList_getNext`. A node that is not allocated cannot be read. -/
def getNext (heap : Heap Address Object) (list : Address) : Option (Option Address) :=
  (heap list).map Node.next

/-- `LinkedList_getData`. -/
def getData (heap : Heap Address Object) (self : Address) : Option (Option Object) :=
  (heap self).map Node.item

/-- `list->next = next`. -/
def setNext (heap : Heap Address Object) (list : Address) (next : Option Address) :
    Option (Heap Address Object) :=
  (heap list).map fun node => Function.update heap list (some { node with next })

/-- `LinkedList_create`, at the address that is allocated for it. -/
def create (heap : Heap Address Object) (fresh : Address) : Heap Address Object :=
  Function.update heap fresh (some ⟨none, none⟩)

/-- `LinkedList_getLastElement`. -/
def getLastElement (heap : Heap Address Object) : Nat → Address → Option Address
  | 0, _ => none
  | fuel + 1, list =>
    match heap list with
    | none => none
    | some ⟨_, none⟩ => some list
    | some ⟨_, some next⟩ => getLastElement heap fuel next

/-- `LinkedList_add`. -/
def add (fuel : Nat) (heap : Heap Address Object) (list : Address) (data : Option Object)
    (fresh : Address) : Option (Heap Address Object) := do
  let heap := Function.update (create heap fresh) fresh (some ⟨data, none⟩)
  let listEnd ← getLastElement heap fuel list
  setNext heap listEnd (some fresh)

/-- `LinkedList_insertAfter`. -/
def insertAfter (heap : Heap Address Object) (list : Address) (data : Option Object)
    (fresh : Address) : Option (Heap Address Object) := do
  let originalNextElement ← getNext heap list
  let heap := Function.update (create heap fresh) fresh (some ⟨data, originalNextElement⟩)
  setNext heap list (some fresh)

/-- The loop of `LinkedList_size`. -/
def sizeLoop (heap : Heap Address Object) : Nat → Address → Nat → Option Nat
  | 0, _, _ => none
  | fuel + 1, nextElement, size =>
    match heap nextElement with
    | none => none
    | some ⟨_, none⟩ => some size
    | some ⟨_, some next⟩ => sizeLoop heap fuel next (size + 1)

/-- `LinkedList_size`. -/
def size (fuel : Nat) (heap : Heap Address Object) (list : Address) : Option Nat :=
  sizeLoop heap fuel list 0

/-- The loop of `LinkedList_contains`. -/
def containsLoop (heap : Heap Address Object) (data : Option Object) :
    Nat → Option Address → Option Bool
  | _, none => some false
  | 0, some _ => none
  | fuel + 1, some currentElement =>
    match heap currentElement with
    | none => none
    | some ⟨item, next⟩ => if item = data then some true else containsLoop heap data fuel next

/-- `LinkedList_contains`. -/
def contains (fuel : Nat) (heap : Heap Address Object) (list : Address) (data : Option Object) :
    Option Bool := do
  let currentElement ← getNext heap list
  containsLoop heap data fuel currentElement

/-- The loop of `LinkedList_remove`. -/
def removeLoop (heap : Heap Address Object) (data : Option Object) :
    Nat → Address → Option Address → Option (Heap Address Object × Bool)
  | _, _, none => some (heap, false)
  | 0, _, some _ => none
  | fuel + 1, lastElement, some currentElement =>
    match heap currentElement with
    | none => none
    | some ⟨item, next⟩ =>
      if item = data then
        (setNext heap lastElement next).map fun heap =>
          (Function.update heap currentElement none, true)
      else removeLoop heap data fuel currentElement next

/-- `LinkedList_remove`. -/
def remove (fuel : Nat) (heap : Heap Address Object) (list : Address) (data : Option Object) :
    Option (Heap Address Object × Bool) := do
  let currentElement ← getNext heap list
  removeLoop heap data fuel list currentElement

/-- The loop of `LinkedList_get`, with the steps that are left. -/
def getLoop (heap : Heap Address Object) : Nat → Option Address → Option (Option Address)
  | 0, element => some element
  | _ + 1, none => none
  | steps + 1, some element =>
    match heap element with
    | none => none
    | some ⟨_, none⟩ => some none
    | some ⟨_, some next⟩ => getLoop heap steps (some next)

/-- `LinkedList_get`. -/
def get (heap : Heap Address Object) (list : Address) (index : Int) : Option (Option Address) := do
  let element ← getNext heap list
  getLoop heap index.toNat element

/-- The loop of `LinkedList_printStringList`: the data that are printed. -/
def printLoop (heap : Heap Address Object) :
    Nat → Option Address → List (Option Object) → Option (List (Option Object))
  | _, none, printed => some printed
  | 0, some _, _ => none
  | fuel + 1, some element, printed =>
    match heap element with
    | none => none
    | some ⟨item, next⟩ => printLoop heap fuel next (printed ++ [item])

/-- `LinkedList_printStringList`, for data that are strings. -/
def printStringList (fuel : Nat) (heap : Heap Address Object) (list : Address) :
    Option (List (Option Object)) := do
  let element ← getNext heap list
  printLoop heap fuel element []

/-- The loop of `LinkedList_destroyDeep` and of `LinkedList_destroyStatic`: the nodes are freed, and
the data are deleted or are not. -/
def destroyLoop (deep : Bool) :
    Nat → Heap Address Object → Address → List Object → Option (Heap Address Object × List Object)
  | 0, _, _, _ => none
  | fuel + 1, heap, currentElement, deleted =>
    match heap currentElement with
    | none => none
    | some ⟨item, next⟩ =>
      let deleted := if deep then deleted ++ item.toList else deleted
      let heap := Function.update heap currentElement none
      match next with
      | none => some (heap, deleted)
      | some nextElement => destroyLoop deep fuel heap nextElement deleted

/-- `LinkedList_destroyDeep`, with the data that are deleted. -/
def destroyDeep (fuel : Nat) (heap : Heap Address Object) (list : Option Address) :
    Option (Heap Address Object × List Object) :=
  match list with
  | none => some (heap, [])
  | some list => destroyLoop true fuel heap list []

/-- `LinkedList_destroyStatic`. -/
def destroyStatic (fuel : Nat) (heap : Heap Address Object) (list : Address) :
    Option (Heap Address Object × List Object) := destroyLoop false fuel heap list []

/-- A call, with the address at which a node is allocated. -/
inductive Call (Address Object : Type)
  | create (fresh : Address)
  | add (list : Address) (data : Option Object) (fresh : Address)
  | insertAfter (list : Address) (data : Option Object) (fresh : Address)
  | remove (list : Address) (data : Option Object)
  | contains (list : Address) (data : Option Object)
  | size (list : Address)
  | get (list : Address) (index : Int)
  | getNext (list : Address)
  | getData (self : Address)
  | getLastElement (list : Address)
  | printStringList (list : Address)
  | destroyDeep (list : Option Address)
  | destroyStatic (list : Address)

/-- What a call returns, or what it prints or deletes. -/
inductive Answer (Address Object : Type)
  | done
  | truth (answer : Bool)
  | count (number : Nat)
  | element (address : Option Address)
  | data (data : Option Object)
  | printed (all : List (Option Object))
  | deleted (all : List Object)
  deriving DecidableEq

/-- What a call does to the memory. -/
def perform (fuel : Nat) (heap : Heap Address Object) :
    Call Address Object → Option (Heap Address Object × Answer Address Object)
  | .create fresh => some (create heap fresh, .element (some fresh))
  | .add list data fresh => (add fuel heap list data fresh).map fun heap => (heap, .done)
  | .insertAfter list data fresh =>
    (insertAfter heap list data fresh).map fun heap => (heap, .element (some fresh))
  | .remove list data => (remove fuel heap list data).map fun result => (result.1, .truth result.2)
  | .contains list data => (contains fuel heap list data).map fun found => (heap, .truth found)
  | .size list => (size fuel heap list).map fun number => (heap, .count number)
  | .get list index => (get heap list index).map fun address => (heap, .element address)
  | .getNext list => (getNext heap list).map fun address => (heap, .element address)
  | .getData self => (getData heap self).map fun data => (heap, .data data)
  | .getLastElement list =>
    (getLastElement heap fuel list).map fun address => (heap, .element (some address))
  | .printStringList list => (printStringList fuel heap list).map fun all => (heap, .printed all)
  | .destroyDeep list =>
    (destroyDeep fuel heap list).map fun result => (result.1, .deleted result.2)
  | .destroyStatic list =>
    (destroyStatic fuel heap list).map fun result => (result.1, .deleted result.2)

/-- The lists: for every header the nodes of its list, the header first, and nothing for an address
that is not a header. -/
abbrev Lists (Address Object : Type) := Address → List (Address × Option Object)

/-- No list has a node at the address. -/
def Free (lists : Lists Address Object) (address : Address) : Prop :=
  ∀ list, address ∉ (lists list).map Prod.fst

/-- What a call means for the lists. A reference is to the header of a list or to an element that
stands in it, and the allocator gives an address that is free. -/
inductive Meaning : Lists Address Object → Call Address Object → Lists Address Object →
    Answer Address Object → Prop
  | create {lists : Lists Address Object} {fresh : Address} (free : Free lists fresh) :
      Meaning lists (.create fresh) (Function.update lists fresh [(fresh, none)])
        (.element (some fresh))
  | add {lists : Lists Address Object} {list element fresh : Address} {item data : Option Object}
      {front back : List (Address × Option Object)}
      (split : lists list = front ++ (element, item) :: back) (free : Free lists fresh) :
      Meaning lists (.add element data fresh)
        (Function.update lists list (front ++ (element, item) :: (back ++ [(fresh, data)]))) .done
  | insertAfter {lists : Lists Address Object} {list element fresh : Address}
      {item data : Option Object} {front back : List (Address × Option Object)}
      (split : lists list = front ++ (element, item) :: back) (free : Free lists fresh) :
      Meaning lists (.insertAfter element data fresh)
        (Function.update lists list (front ++ (element, item) :: (fresh, data) :: back))
        (.element (some fresh))
  | remove {lists : Lists Address Object} {list element : Address} {item data : Option Object}
      {front back : List (Address × Option Object)}
      (split : lists list = front ++ (element, item) :: back) :
      Meaning lists (.remove element data)
        (Function.update lists list (front ++ (element, item) :: back.eraseP (·.2 = data)))
        (.truth (back.any (·.2 = data)))
  | contains {lists : Lists Address Object} {list element : Address} {item data : Option Object}
      {front back : List (Address × Option Object)}
      (split : lists list = front ++ (element, item) :: back) :
      Meaning lists (.contains element data) lists (.truth (back.any (·.2 = data)))
  | size {lists : Lists Address Object} {list element : Address} {item : Option Object}
      {front back : List (Address × Option Object)}
      (split : lists list = front ++ (element, item) :: back) :
      Meaning lists (.size element) lists (.count back.length)
  | get {lists : Lists Address Object} {list element : Address} {item : Option Object}
      {front back : List (Address × Option Object)} {index : Int}
      (split : lists list = front ++ (element, item) :: back) (filled : 0 < index → back ≠ []) :
      Meaning lists (.get element index) lists (.element (back[index.toNat]?.map Prod.fst))
  | getNext {lists : Lists Address Object} {list element : Address} {item : Option Object}
      {front back : List (Address × Option Object)}
      (split : lists list = front ++ (element, item) :: back) :
      Meaning lists (.getNext element) lists (.element (back.head?.map Prod.fst))
  | getData {lists : Lists Address Object} {list element : Address} {item : Option Object}
      {front back : List (Address × Option Object)}
      (split : lists list = front ++ (element, item) :: back) :
      Meaning lists (.getData element) lists (.data item)
  | getLastElement {lists : Lists Address Object} {list element : Address} {item : Option Object}
      {front back : List (Address × Option Object)}
      (split : lists list = front ++ (element, item) :: back) :
      Meaning lists (.getLastElement element) lists
        (.element (((element, item) :: back).getLast?.map Prod.fst))
  | printStringList {lists : Lists Address Object} {list element : Address} {item : Option Object}
      {front back : List (Address × Option Object)}
      (split : lists list = front ++ (element, item) :: back) :
      Meaning lists (.printStringList element) lists (.printed (back.map Prod.snd))
  | destroyNothing {lists : Lists Address Object} :
      Meaning lists (.destroyDeep none) lists (.deleted [])
  | destroyDeep {lists : Lists Address Object} {list : Address} {item : Option Object}
      {cells : List (Address × Option Object)} (whole : lists list = (list, item) :: cells) :
      Meaning lists (.destroyDeep (some list)) (Function.update lists list [])
        (.deleted (((list, item) :: cells).filterMap Prod.snd))
  | destroyStatic {lists : Lists Address Object} {list : Address} {item : Option Object}
      {cells : List (Address × Option Object)} (whole : lists list = (list, item) :: cells) :
      Meaning lists (.destroyStatic list) (Function.update lists list []) (.deleted [])

/-- What calls mean, one after another. -/
inductive Meanings : Lists Address Object → List (Call Address Object) → Lists Address Object →
    List (Answer Address Object) → Prop
  | nil {lists : Lists Address Object} : Meanings lists [] lists []
  | cons {lists next final : Lists Address Object} {call : Call Address Object}
      {calls : List (Call Address Object)} {answer : Answer Address Object}
      {answers : List (Answer Address Object)} (first : Meaning lists call next answer)
      (rest : Meanings next calls final answers) :
      Meanings lists (call :: calls) final (answer :: answers)

section Specification

variable {heap : Heap Address Object} {element fresh : Address} {item data : Option Object}
  {cells back : List (Address × Option Object)} {start : Option Address} {fuel : Nat}

omit [DecidableEq Address] [DecidableEq Object] in
theorem getLastElement_eq (segment : Segment heap ((element, item) :: back) (some element) none)
    (enough : back.length < fuel) :
    getLastElement heap fuel element = ((element, item) :: back).getLast?.map Prod.fst := by
  induction back generalizing element item fuel with
  | nil =>
      obtain ⟨_, _, node, rfl⟩ := segment
      cases fuel with
      | zero => exact absurd enough (Nat.not_lt_zero _)
      | succ fuel => simp [getLastElement, node]
  | cons cell back ih =>
      obtain ⟨_, _, node, rfl, rest⟩ := segment
      cases fuel with
      | zero => exact absurd enough (Nat.not_lt_zero _)
      | succ fuel =>
          simp only [getLastElement, node]
          rw [ih ⟨rfl, rest⟩ (Nat.lt_of_succ_lt_succ enough), List.getLast?_cons_cons]

omit [DecidableEq Address] [DecidableEq Object] in
theorem sizeLoop_eq (segment : Segment heap ((element, item) :: back) (some element) none)
    (enough : back.length < fuel) (counted : Nat) :
    sizeLoop heap fuel element counted = some (counted + back.length) := by
  induction back generalizing element item fuel counted with
  | nil =>
      obtain ⟨_, _, node, rfl⟩ := segment
      cases fuel with
      | zero => exact absurd enough (Nat.not_lt_zero _)
      | succ fuel => simp [sizeLoop, node]
  | cons cell back ih =>
      obtain ⟨_, _, node, rfl, rest⟩ := segment
      cases fuel with
      | zero => exact absurd enough (Nat.not_lt_zero _)
      | succ fuel =>
          simp only [sizeLoop, node]
          rw [ih ⟨rfl, rest⟩ (Nat.lt_of_succ_lt_succ enough), List.length_cons,
            Nat.add_right_comm, Nat.add_assoc]

omit [DecidableEq Address] in
theorem containsLoop_eq (segment : Segment heap cells start none) (enough : cells.length ≤ fuel) :
    containsLoop heap data fuel start = some (cells.any (·.2 = data)) := by
  induction cells generalizing start fuel with
  | nil =>
      obtain rfl : start = none := segment
      cases fuel <;> rfl
  | cons cell cells ih =>
      obtain ⟨rfl, next, node, rest⟩ := segment
      cases fuel with
      | zero => exact absurd enough (Nat.not_succ_le_zero _)
      | succ fuel =>
          simp only [containsLoop, node, List.any_cons]
          split
          · next same => simp [same]
          · next differ => simp [differ, ih rest (Nat.le_of_succ_le_succ enough)]

omit [DecidableEq Address] [DecidableEq Object] in
theorem printLoop_eq (segment : Segment heap cells start none) (enough : cells.length ≤ fuel)
    (printed : List (Option Object)) :
    printLoop heap fuel start printed = some (printed ++ cells.map Prod.snd) := by
  induction cells generalizing start fuel printed with
  | nil =>
      obtain rfl : start = none := segment
      cases fuel <;> simp [printLoop]
  | cons cell cells ih =>
      obtain ⟨rfl, next, node, rest⟩ := segment
      cases fuel with
      | zero => exact absurd enough (Nat.not_succ_le_zero _)
      | succ fuel =>
          simp only [printLoop, node]
          rw [ih rest (Nat.le_of_succ_le_succ enough), List.map_cons, List.append_assoc,
            List.singleton_append]

omit [DecidableEq Address] [DecidableEq Object] in
theorem getLoop_eq (segment : Segment heap cells start none) {steps : Nat}
    (filled : 0 < steps → cells ≠ []) :
    getLoop heap steps start = some (cells[steps]?.map Prod.fst) := by
  induction cells generalizing start steps with
  | nil =>
      obtain rfl : start = none := segment
      cases steps with
      | zero => rfl
      | succ steps => exact absurd rfl (filled (Nat.succ_pos _))
  | cons cell cells ih =>
      obtain ⟨rfl, next, node, rest⟩ := segment
      cases steps with
      | zero => rfl
      | succ steps =>
          cases cells with
          | nil =>
              obtain rfl : next = none := rest
              simp [getLoop, node]
          | cons other cells =>
              obtain rfl := rest.1
              simp only [getLoop, node]
              rw [ih rest fun _ => List.cons_ne_nil _ _]
              simp

omit [DecidableEq Object] in
theorem insertAfter_rewrites (segment : Segment heap ((element, item) :: back) (some element) none)
    (free : heap fresh = none) :
    ∃ after, insertAfter heap element data fresh = some after ∧
      Rewrites heap after ((element, item) :: back) ((element, item) :: (fresh, data) :: back)
        (some element) (some element) := by
  obtain ⟨_, next, node, rest⟩ := segment
  have differ : element ≠ fresh := fun same => by simp [same, free] at node
  refine ⟨_, ?_, .link data node rest free⟩
  simp [insertAfter, getNext, create, setNext, node, Function.update_of_ne differ]

omit [DecidableEq Object] in
theorem add_rewrites (segment : Segment heap ((element, item) :: back) (some element) none)
    (free : heap fresh = none) (enough : back.length < fuel) :
    ∃ after, add fuel heap element data fresh = some after ∧
      Rewrites heap after ((element, item) :: back) ((element, item) :: (back ++ [(fresh, data)]))
        (some element) (some element) := by
  have unread : ∀ cell ∈ (element, item) :: back, cell.1 ≠ fresh := by
    intro cell member same
    obtain ⟨_, node⟩ := segment.node_of_mem member
    simp [same, free] at node
  have again : Segment (Function.update heap fresh (some ⟨data, none⟩)) ((element, item) :: back)
      (some element) none :=
    segment.congr fun cell member => Function.update_of_ne (unread cell member) _ _
  have found := getLastElement_eq again enough
  obtain ⟨front, ⟨last, lastItem⟩, split⟩ :=
    (List.eq_nil_or_concat ((element, item) :: back)).resolve_left (List.cons_ne_nil _ _)
  rw [List.concat_eq_append] at split
  rw [split] at segment found unread
  obtain ⟨middle, _, rfl, next, node, rfl⟩ := Segment.append_iff.mp segment
  have differ : last ≠ fresh := unread _ (List.mem_append_right _ (List.mem_singleton_self _))
  have ended : Segment heap [] none none := rfl
  have linked := (Rewrites.link data node ended free).behind segment
  rw [← split, List.append_cons, ← split, List.cons_append] at linked
  rw [List.getLast?_concat, Option.map_some] at found
  exact ⟨_, by simp [add, create, setNext, found, node, Function.update_of_ne differ], linked⟩

theorem removeLoop_rewrites (node : heap element = some ⟨item, start⟩)
    (segment : Segment heap cells start none) (enough : cells.length ≤ fuel) :
    ∃ after, removeLoop heap data fuel element start = some (after, cells.any (·.2 = data)) ∧
      Rewrites heap after ((element, item) :: cells)
        ((element, item) :: cells.eraseP (·.2 = data)) (some element) (some element) := by
  induction cells generalizing element item start fuel with
  | nil =>
      obtain rfl : start = none := segment
      refine ⟨heap, ?_, .refl ⟨rfl, none, node, rfl⟩⟩
      cases fuel <;> rfl
  | cons cell cells ih =>
      obtain ⟨rfl, next, other, rest⟩ := segment
      cases fuel with
      | zero => exact absurd enough (Nat.not_succ_le_zero _)
      | succ fuel =>
          by_cases same : cell.2 = data
          · have erased : (cell :: cells).eraseP (·.2 = data) = cells := by simp [same]
            rw [erased]
            exact ⟨_, by simp [removeLoop, other, same, setNext, node], .unlink node other rest⟩
          · obtain ⟨after, result, rewrites⟩ := ih other rest (Nat.le_of_succ_le_succ enough)
            refine ⟨after, ?_, ?_⟩
            · simp [removeLoop, other, same, result]
            · rw [List.eraseP_cons_of_neg (by simpa using same)]
              exact rewrites.cons node

omit [DecidableEq Object] in
theorem rewrites_create (free : heap fresh = none) :
    Rewrites heap (create heap fresh) [] [(fresh, none)] none (some fresh) where
  entered := rfl
  chained := ⟨rfl, none, Function.update_self .., rfl⟩
  elsewhere address _ off := Function.update_of_ne (fun same => off (by simp [same])) _ _
  freed _ member := absurd member List.not_mem_nil
  fresh address member _ := by
    obtain rfl := List.mem_singleton.mp member
    exact free

omit [DecidableEq Object] in
theorem destroyLoop_rewrites (deep : Bool)
    (segment : Segment heap ((element, item) :: back) (some element) none)
    (enough : back.length < fuel) (deleted : List Object) :
    ∃ after, destroyLoop deep fuel heap element deleted = some (after, deleted ++
        if deep then ((element, item) :: back).filterMap Prod.snd else []) ∧
      Rewrites heap after ((element, item) :: back) [] (some element) none := by
  induction back generalizing heap element item deleted fuel with
  | nil =>
      obtain ⟨_, _, node, rfl⟩ := id segment
      cases fuel with
      | zero => exact absurd enough (Nat.not_lt_zero _)
      | succ fuel =>
          refine ⟨Function.update heap element none, ?_, segment, rfl, ?_, ?_, ?_⟩
          · cases deep <;> cases item <;> simp [destroyLoop, node]
          · exact fun address out _ => Function.update_of_ne (fun same => out (by simp [same])) _ _
          · intro address member _
            obtain rfl := List.mem_singleton.mp member
            exact Function.update_self ..
          · exact fun _ member => absurd member List.not_mem_nil
  | cons cell back ih =>
      obtain ⟨_, _, node, rfl, rest⟩ := id segment
      have outside : element ∉ (cell :: back).map Prod.fst := (List.nodup_cons.mp segment.nodup).1
      have remaining : Segment (Function.update heap element none) (cell :: back) (some cell.1)
          none := by
        refine Segment.congr ⟨rfl, rest⟩ fun kept member => ?_
        have inside : kept.1 ∈ (cell :: back).map Prod.fst := List.mem_map_of_mem member
        have differ : kept.1 ≠ element := fun same => outside (same ▸ inside)
        exact Function.update_of_ne differ _ _
      cases fuel with
      | zero => exact absurd enough (Nat.not_lt_zero _)
      | succ fuel =>
          obtain ⟨after, result, rewrites⟩ := ih remaining (Nat.lt_of_succ_lt_succ enough)
            (if deep then deleted ++ item.toList else deleted)
          refine ⟨after, ?_, segment, rfl, ?_, ?_, ?_⟩
          · simp only [destroyLoop, node, result]
            cases deep <;> cases item <;> simp
          · intro address out off
            rw [List.map_cons, List.mem_cons, not_or] at out
            rw [rewrites.elsewhere address out.2 off, Function.update_of_ne out.1]
          · intro address member off
            rw [List.map_cons, List.mem_cons] at member
            rcases member with rfl | member
            · rw [rewrites.elsewhere _ outside off, Function.update_self]
            · exact rewrites.freed address member off
          · exact fun _ member => absurd member List.not_mem_nil

end Specification

section Refinement

variable {heap : Heap Address Object} {lists next final : Lists Address Object}
  {call : Call Address Object} {calls : List (Call Address Object)}
  {answer : Answer Address Object} {answers : List (Answer Address Object)} {fuel bound : Nat}

/-- The first node of a list is its header. -/
def Headed (lists : Lists Address Object) : Prop :=
  ∀ list, lists list ≠ [] → ∃ item cells, lists list = (list, item) :: cells

omit [DecidableEq Address] [DecidableEq Object] in
theorem Headed.eq_nil (headed : Headed lists) {fresh : Address} (free : Free lists fresh) :
    lists fresh = [] := by
  by_contra filled
  obtain ⟨item, cells, whole⟩ := headed fresh filled
  exact free fresh (by simp [whole])

omit [DecidableEq Object] in
/-- A list keeps its header whatever is done behind a node of it. -/
theorem Headed.update (headed : Headed lists) {list : Address} {cell : Address × Option Object}
    {front back : List (Address × Option Object)} (split : lists list = front ++ cell :: back)
    (other : List (Address × Option Object)) :
    Headed (Function.update lists list (front ++ cell :: other)) := by
  intro query filled
  by_cases same : query = list
  · subst same
    rw [Function.update_self]
    obtain ⟨item, cells, whole⟩ := headed query (by simp [split])
    rw [split] at whole
    cases front with
    | nil =>
        obtain ⟨rfl, _⟩ := List.cons.inj whole
        exact ⟨item, other, rfl⟩
    | cons first front =>
        obtain ⟨rfl, _⟩ := List.cons.inj whole
        exact ⟨item, front ++ cell :: other, rfl⟩
  · rw [Function.update_of_ne same] at filled ⊢
    exact headed query filled

theorem Meaning.headed (meaning : Meaning lists call next answer) (headed : Headed lists) :
    Headed next := by
  cases meaning with
  | @create fresh _ =>
      intro query filled
      by_cases same : query = fresh
      · subst same
        exact ⟨none, [], Function.update_self ..⟩
      · rw [Function.update_of_ne same] at filled ⊢
        exact headed query filled
  | add split => exact headed.update split _
  | insertAfter split => exact headed.update split _
  | remove split => exact headed.update split _
  | @destroyDeep list | @destroyStatic list =>
      intro query filled
      by_cases same : query = list
      · rw [same, Function.update_self] at filled
        exact absurd rfl filled
      · rw [Function.update_of_ne same] at filled ⊢
        exact headed query filled
  | _ => exact headed

/-- A call adds one node to a list at most. -/
theorem Meaning.length_le (meaning : Meaning lists call next answer)
    (short : ∀ list, (lists list).length ≤ bound) (list : Address) :
    (next list).length ≤ bound + 1 := by
  have before := short list
  cases meaning with
  | @create fresh _ =>
      by_cases same : list = fresh
      · simp [same]
      · rw [Function.update_of_ne same]
        omega
  | @add other _ _ _ _ _ _ split _ | @insertAfter other _ _ _ _ _ _ split _ =>
      by_cases same : list = other
      · rw [same, split] at before
        simp only [same, Function.update_self, List.length_append, List.length_cons] at before ⊢
        simp
        omega
      · rw [Function.update_of_ne same]
        omega
  | @remove other _ _ data _ back split =>
      by_cases same : list = other
      · rw [same, split] at before
        have erased : (back.eraseP (·.2 = data)).length ≤ back.length := List.length_eraseP_le
        simp only [same, Function.update_self, List.length_append, List.length_cons] at before ⊢
        omega
      · rw [Function.update_of_ne same]
        omega
  | @destroyDeep other | @destroyStatic other =>
      by_cases same : list = other
      · simp [same]
      · rw [Function.update_of_ne same]
        omega
  | _ => omega

/-- A call does to the nodes what it means for the lists. -/
theorem perform_refines (carries : Carries heap lists) (headed : Headed lists)
    (enough : ∀ list, (lists list).length ≤ fuel) (meaning : Meaning lists call next answer) :
    ∃ after, perform fuel heap call = some (after, answer) ∧ Carries after next := by
  have behind : ∀ {list : Address} {cell : Address × Option Object}
      {front back : List (Address × Option Object)}, lists list = front ++ cell :: back →
      back.length < fuel := by
    intro list cell front back split
    have short := enough list
    rw [split, List.length_append, List.length_cons] at short
    omega
  cases meaning with
  | @create fresh free =>
      have rewrites := rewrites_create (carries.eq_none_of_not_mem free)
      have replaced : Rewrites heap (create heap fresh) (lists fresh) [(fresh, none)] none
          (some fresh) := by
        rw [headed.eq_nil free]
        exact rewrites
      exact ⟨_, rfl, carries.replace replaced⟩
  | add split free =>
      obtain ⟨after, result, rewrites⟩ := add_rewrites (carries.segment_behind split)
        (carries.eq_none_of_not_mem free) (behind split)
      exact ⟨after, by simp [perform, result], carries.replaceBehind split rewrites⟩
  | insertAfter split free =>
      obtain ⟨after, result, rewrites⟩ := insertAfter_rewrites (carries.segment_behind split)
        (carries.eq_none_of_not_mem free)
      exact ⟨after, by simp [perform, result], carries.replaceBehind split rewrites⟩
  | remove split =>
      obtain ⟨_, start, node, rest⟩ := carries.segment_behind split
      obtain ⟨after, result, rewrites⟩ :=
        removeLoop_rewrites node rest (Nat.le_of_lt (behind split))
      exact ⟨after, by simp [perform, remove, getNext, node, result],
        carries.replaceBehind split rewrites⟩
  | @contains _ _ _ data _ _ split =>
      obtain ⟨_, start, node, rest⟩ := carries.segment_behind split
      have found : containsLoop heap data fuel start = _ :=
        containsLoop_eq rest (Nat.le_of_lt (behind split))
      exact ⟨heap, by simp [perform, contains, getNext, node, found], carries⟩
  | size split =>
      have counted := sizeLoop_eq (carries.segment_behind split) (behind split) 0
      exact ⟨heap, by simp [perform, size, counted], carries⟩
  | get split filled =>
      obtain ⟨_, start, node, rest⟩ := carries.segment_behind split
      have found := getLoop_eq rest fun positive => filled (Int.lt_toNat.mp positive)
      exact ⟨heap, by simp [perform, get, getNext, node, found], carries⟩
  | getNext split =>
      obtain ⟨_, start, node, rest⟩ := carries.segment_behind split
      exact ⟨heap, by simp [perform, getNext, node, rest.start_eq], carries⟩
  | getData split =>
      obtain ⟨_, start, node, rest⟩ := carries.segment_behind split
      exact ⟨heap, by simp [perform, getData, node], carries⟩
  | @getLastElement _ element item _ back split =>
      have found := getLastElement_eq (carries.segment_behind split) (behind split)
      rw [List.getLast?_cons] at found ⊢
      exact ⟨heap, by simp [perform, found], carries⟩
  | printStringList split =>
      obtain ⟨_, start, node, rest⟩ := carries.segment_behind split
      have printed := printLoop_eq rest (Nat.le_of_lt (behind split)) []
      exact ⟨heap, by simp [perform, printStringList, getNext, node, printed], carries⟩
  | destroyNothing => exact ⟨heap, rfl, carries⟩
  | @destroyDeep list item cells whole =>
      have split : lists list = [] ++ (list, item) :: cells := whole
      obtain ⟨after, result, rewrites⟩ :=
        destroyLoop_rewrites true (carries.segment_behind split) (behind split) []
      exact ⟨after, by simp [perform, destroyDeep, result], carries.replace (whole ▸ rewrites)⟩
  | @destroyStatic list item cells whole =>
      have split : lists list = [] ++ (list, item) :: cells := whole
      obtain ⟨after, result, rewrites⟩ :=
        destroyLoop_rewrites false (carries.segment_behind split) (behind split) []
      exact ⟨after, by simp [perform, destroyStatic, result], carries.replace (whole ▸ rewrites)⟩

/-- So do calls one after another, whatever room the loops need. -/
theorem runAll_refines (carries : Carries heap lists) (headed : Headed lists)
    (short : ∀ list, (lists list).length ≤ bound) (meanings : Meanings lists calls final answers)
    (enough : bound + calls.length ≤ fuel) :
    ∃ after, runAll (perform fuel) heap calls = some (after, answers) ∧ Carries after final := by
  induction meanings generalizing heap bound with
  | nil => exact ⟨heap, rfl, carries⟩
  | @cons lists _ _ _ _ _ _ first rest ih =>
      rw [List.length_cons] at enough
      have room : ∀ list, (lists list).length ≤ fuel := fun list =>
        Nat.le_trans (short list) (by omega)
      obtain ⟨middle, result, carried⟩ := perform_refines carries headed room first
      obtain ⟨after, results, kept⟩ :=
        ih carried (first.headed headed) (first.length_le short) (by omega)
      exact ⟨after, runAll_cons.mpr ⟨middle, _, _, result, results, rfl⟩, kept⟩

/-- Whatever calls are made on any number of lists, by references to headers and to elements that
stand in a list, and wherever the allocator puts new nodes: no node is touched that is not
allocated, every call answers as it does for the lists, and the nodes that are allocated in the end
are those of the lists, of which no two share one. -/
theorem lists_refined (meanings : Meanings (fun _ => []) calls final answers)
    (enough : calls.length ≤ fuel) :
    ∃ after, runAll (perform fuel) (fun _ => none) calls = some (after, answers) ∧
      Carries after final :=
  runAll_refines .empty (fun _ filled => absurd rfl filled) (fun _ => Nat.le_refl 0) meanings
    (by omega)

/-- A list of which an element is removed. -/
theorem lists_refined_removed :
    ∃ after : Heap Nat Nat, runAll (perform 5) (fun _ => none)
        [.create 1, .add 1 (some 7) 2, .add 1 (some 8) 3, .remove 1 (some 7), .size 1] =
          some (after, [.element (some 1), .done, .done, .truth true, .count 1]) ∧
      Carries after (Function.update (fun _ => []) 1 [(1, none), (3, some 8)]) := by
  let one : List (Nat × Option Nat) → Lists Nat Nat := Function.update (fun _ => []) 1
  have again : ∀ cells other, Function.update (one cells) 1 other = one other := fun _ _ =>
    Function.update_idem ..
  have free : ∀ cells address, address ∉ cells.map Prod.fst → Free (one cells) address := by
    intro cells address outside list
    by_cases same : list = 1
    · rwa [same, show one cells 1 = cells from Function.update_self ..]
    · rw [show one cells list = [] from Function.update_of_ne same ..]
      exact List.not_mem_nil
  have first : Meaning (fun _ => []) (.create 1) (one [(1, none)]) (.element (some 1)) :=
    .create fun _ => List.not_mem_nil
  have second : Meaning (one [(1, none)]) (.add 1 (some 7) 2) (one [(1, none), (2, some 7)])
      .done := by
    rw [← again [(1, none)] [(1, none), (2, some 7)]]
    exact .add (show one [(1, none)] 1 = [] ++ [(1, none)] from rfl) (free _ _ (by decide))
  have third : Meaning (one [(1, none), (2, some 7)]) (.add 1 (some 8) 3)
      (one [(1, none), (2, some 7), (3, some 8)]) .done := by
    rw [← again [(1, none), (2, some 7)] [(1, none), (2, some 7), (3, some 8)]]
    exact .add (show one [(1, none), (2, some 7)] 1 = [] ++ [(1, none), (2, some 7)] from rfl)
      (free _ _ (by decide))
  have fourth : Meaning (one [(1, none), (2, some 7), (3, some 8)]) (.remove 1 (some 7))
      (one [(1, none), (3, some 8)]) (.truth true) := by
    rw [← again [(1, none), (2, some 7), (3, some 8)] [(1, none), (3, some 8)]]
    exact .remove (show one [(1, none), (2, some 7), (3, some 8)] 1 =
      [] ++ [(1, none), (2, some 7), (3, some 8)] from rfl)
  have fifth : Meaning (one [(1, none), (3, some 8)]) (.size 1) (one [(1, none), (3, some 8)])
      (.count 1) :=
    .size (show one [(1, none), (3, some 8)] 1 = [] ++ [(1, none), (3, some 8)] from rfl)
  exact lists_refined (.cons first (.cons second (.cons third (.cons fourth (.cons fifth .nil)))))
    (by decide)

end Refinement

end LinkedList

end GridGooseSV
