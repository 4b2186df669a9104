import Mathlib.Data.List.Nodup
import Mathlib.Logic.Function.Basic

/-!
# Linked nodes

Nodes in memory, each with an item and the address of the next one. A segment is what a chain of
nodes carries from one address to another, and a memory carries chains that share no node.
-/

namespace GridGooseSV

/-- An item and the address of the next node, if there is one. -/
structure Node (Address Item : Type) where
  item : Item
  next : Option Address
  deriving DecidableEq, Repr

/-- The nodes that are allocated. -/
abbrev Nodes (Address Item : Type) := Address → Option (Node Address Item)

variable {Address Item Key : Type} {nodes after : Nodes Address Item}
  {start middle stop : Option Address} {front back cells : List (Address × Item)}

/-- From one address to another there are the given nodes, one behind another. -/
def Segment (nodes : Nodes Address Item) :
    List (Address × Item) → Option Address → Option Address → Prop
  | [], start, stop => start = stop
  | (address, item) :: rest, start, stop =>
    start = some address ∧
      ∃ next, nodes address = some ⟨item, next⟩ ∧ Segment nodes rest next stop

namespace Segment

/-- A segment falls into two wherever its nodes do. -/
theorem append_iff : Segment nodes (front ++ back) start stop ↔
    ∃ middle, Segment nodes front start middle ∧ Segment nodes back middle stop := by
  induction front generalizing start with
  | nil => simp [Segment]
  | cons cell front ih =>
      simp only [List.cons_append, Segment, ih]
      constructor
      · rintro ⟨here, next, node, middle, first, second⟩
        exact ⟨middle, ⟨here, next, node, first⟩, second⟩
      · rintro ⟨middle, ⟨here, next, node, first⟩, second⟩
        exact ⟨here, next, node, middle, first, second⟩

/-- The nodes and the end of a segment say where it starts. -/
theorem start_unique {other : Option Address} {foreign : Nodes Address Item}
    (segment : Segment nodes cells start stop) (again : Segment foreign cells other stop) :
    start = other := by
  cases cells with
  | nil => exact Eq.trans segment (Eq.symm again)
  | cons cell rest => exact segment.1.trans again.1.symm

/-- A segment that ends starts at its first node. -/
theorem start_eq (segment : Segment nodes cells start none) :
    start = cells.head?.map Prod.fst := by
  cases cells with
  | nil => exact segment
  | cons cell rest => exact segment.1

/-- Other nodes do not matter. -/
theorem congr (segment : Segment nodes cells start stop)
    (same : ∀ cell ∈ cells, after cell.1 = nodes cell.1) : Segment after cells start stop := by
  induction cells generalizing start with
  | nil => exact segment
  | cons cell rest ih =>
      obtain ⟨here, next, node, others⟩ := segment
      obtain ⟨first, later⟩ := List.forall_mem_cons.mp same
      exact ⟨here, next, first.trans node, ih others later⟩

/-- Every node of a segment is allocated and carries its item. -/
theorem node_of_mem (segment : Segment nodes cells start stop) {cell : Address × Item}
    (member : cell ∈ cells) : ∃ next, nodes cell.1 = some ⟨cell.2, next⟩ := by
  induction cells generalizing start with
  | nil => exact absurd member List.not_mem_nil
  | cons first rest ih =>
      obtain ⟨_, next, node, others⟩ := segment
      rcases List.mem_cons.mp member with rfl | member
      · exact ⟨next, node⟩
      · exact ih others member

/-- Two segments from one address to the end have the same nodes. -/
theorem unique (first : Segment nodes front start none) (second : Segment nodes back start none) :
    front = back := by
  induction front generalizing start back with
  | nil =>
      cases back with
      | nil => rfl
      | cons cell back =>
          cases first
          exact absurd second.1 (by simp)
  | cons cell front ih =>
      obtain ⟨rfl, next, node, rest⟩ := first
      cases back with
      | nil => exact absurd second (by simp [Segment])
      | cons other back =>
          obtain ⟨here, _, again, remaining⟩ := second
          obtain ⟨address, item⟩ := cell
          obtain ⟨otherAddress, otherItem⟩ := other
          obtain rfl := Option.some.inj here
          obtain ⟨rfl, rfl⟩ := Node.mk.inj (Option.some.inj (node.symm.trans again))
          rw [ih rest remaining]

/-- No node stands twice in a segment that ends. -/
theorem nodup (segment : Segment nodes cells start none) : (cells.map Prod.fst).Nodup := by
  induction cells generalizing start with
  | nil => exact List.nodup_nil
  | cons cell rest ih =>
      obtain ⟨rfl, next, node, others⟩ := id segment
      refine List.nodup_cons.mpr ⟨fun member => ?_, ih others⟩
      obtain ⟨other, again, same⟩ := List.mem_map.mp member
      obtain ⟨before, behind, rfl⟩ := List.append_of_mem again
      obtain ⟨middle, _, tail⟩ := append_iff.mp others
      obtain rfl : middle = some cell.1 := tail.1.trans (congrArg some same)
      have lengths := congrArg List.length (unique segment tail)
      simp only [List.length_cons, List.length_append] at lengths
      omega

end Segment

/-- One memory has a chain that another does not have in its place: what the chain gave up is
freed, what it took was free, and nothing else differs. -/
structure Rewrites (nodes after : Nodes Address Item) (old new : List (Address × Item))
    (start entry : Option Address) : Prop where
  entered : Segment nodes old start none
  chained : Segment after new entry none
  elsewhere : ∀ address, address ∉ old.map Prod.fst → address ∉ new.map Prod.fst →
    after address = nodes address
  freed : ∀ address ∈ old.map Prod.fst, address ∉ new.map Prod.fst → after address = none
  fresh : ∀ address ∈ new.map Prod.fst, address ∉ old.map Prod.fst → nodes address = none

namespace Rewrites

variable {old new : List (Address × Item)} {entry : Option Address}

/-- Nothing is rewritten. -/
theorem refl (segment : Segment nodes cells start none) :
    Rewrites nodes nodes cells cells start start :=
  ⟨segment, segment, fun _ _ _ => rfl, fun _ member off => absurd member off,
    fun _ member off => absurd member off⟩

/-- A node that is allocated and not given up is not taken. -/
theorem not_mem (rewrites : Rewrites nodes after old new start entry) {address : Address}
    (allocated : nodes address ≠ none) (outside : address ∉ old.map Prod.fst) :
    address ∉ new.map Prod.fst := fun inside => allocated (rewrites.fresh address inside outside)

/-- The node in front of a chain that is rewritten stays. -/
theorem cons (rewrites : Rewrites nodes after old new start start) {cell : Address × Item}
    (node : nodes cell.1 = some ⟨cell.2, start⟩) :
    Rewrites nodes after (cell :: old) (cell :: new) (some cell.1) (some cell.1) := by
  have entered : Segment nodes (cell :: old) (some cell.1) none :=
    ⟨rfl, start, node, rewrites.entered⟩
  have outside : cell.1 ∉ old.map Prod.fst := (List.nodup_cons.mp entered.nodup).1
  have apart := rewrites.not_mem (node ▸ Option.some_ne_none _) outside
  refine ⟨entered, ⟨rfl, start, (rewrites.elsewhere _ outside apart).trans node,
    rewrites.chained⟩, fun address out off => ?_, fun address member off => ?_,
    fun address member out => ?_⟩
  · rw [List.map_cons, List.mem_cons, not_or] at out off
    exact rewrites.elsewhere address out.2 off.2
  · rw [List.map_cons, List.mem_cons] at member
    rw [List.map_cons, List.mem_cons, not_or] at off
    exact rewrites.freed address (member.resolve_left off.1) off.2
  · rw [List.map_cons, List.mem_cons] at member
    rw [List.map_cons, List.mem_cons, not_or] at out
    exact rewrites.fresh address (member.resolve_left out.1) out.2

/-- So do all the nodes in front of it. -/
theorem behind (rewrites : Rewrites nodes after old new start start) {first : Option Address}
    (whole : Segment nodes (front ++ old) first none) :
    Rewrites nodes after (front ++ old) (front ++ new) first first := by
  induction front generalizing first with
  | nil =>
      obtain rfl := whole.start_unique rewrites.entered
      exact rewrites
  | cons cell front ih =>
      obtain ⟨rfl, next, node, rest⟩ := whole
      exact (ih rest).cons node

variable [DecidableEq Address] {address fresh : Address} {item : Item} {next : Option Address}

/-- A new node behind another. -/
theorem link (data : Item) (node : nodes address = some ⟨item, next⟩)
    (segment : Segment nodes back next none) (free : nodes fresh = none) :
    Rewrites nodes (Function.update (Function.update nodes fresh (some ⟨data, next⟩)) address
      (some ⟨item, some fresh⟩)) ((address, item) :: back)
      ((address, item) :: (fresh, data) :: back)
      (some address) (some address) := by
  have entered : Segment nodes ((address, item) :: back) (some address) none :=
    ⟨rfl, next, node, segment⟩
  have distinct := List.nodup_cons.mp entered.nodup
  have differ : fresh ≠ address := fun same => by simp [← same, free] at node
  have apart : ∀ cell ∈ back, cell.1 ≠ address ∧ cell.1 ≠ fresh := by
    intro cell member
    have inside : cell.1 ∈ back.map Prod.fst := List.mem_map_of_mem member
    refine ⟨fun same => distinct.1 (same ▸ inside), fun same => ?_⟩
    obtain ⟨_, there⟩ := segment.node_of_mem member
    simp [same, free] at there
  refine ⟨entered, ⟨rfl, some fresh, Function.update_self .., rfl, next, ?_, ?_⟩,
    fun other out off => ?_, fun other member off => ?_, fun other member out => ?_⟩
  · rw [Function.update_of_ne differ, Function.update_self]
  · refine segment.congr fun cell member => ?_
    obtain ⟨one, two⟩ := apart cell member
    rw [Function.update_of_ne one, Function.update_of_ne two]
  · simp only [List.map_cons, List.mem_cons, not_or] at off
    rw [Function.update_of_ne off.1, Function.update_of_ne off.2.1]
  · simp only [List.map_cons, List.mem_cons, not_or] at member off
    exact absurd (member.resolve_left off.1) off.2.2
  · simp only [List.map_cons, List.mem_cons, not_or] at member out
    obtain rfl := (member.resolve_left out.1).resolve_right out.2
    exact free

/-- A node behind another is taken out. -/
theorem unlink {cell : Address × Item} (node : nodes address = some ⟨item, some cell.1⟩)
    (behind : nodes cell.1 = some ⟨cell.2, next⟩) (segment : Segment nodes back next none) :
    Rewrites nodes (Function.update (Function.update nodes address (some ⟨item, next⟩)) cell.1 none)
      ((address, item) :: cell :: back) ((address, item) :: back)
      (some address) (some address) := by
  have entered : Segment nodes ((address, item) :: cell :: back) (some address) none :=
    ⟨rfl, some cell.1, node, rfl, next, behind, segment⟩
  have distinct := List.nodup_cons.mp entered.nodup
  have rest := List.nodup_cons.mp distinct.2
  have differ : address ≠ cell.1 := fun same => distinct.1 (List.mem_cons.mpr (.inl same))
  refine ⟨entered, ⟨rfl, next, ?_, ?_⟩,
    fun other out off => ?_, fun other member off => ?_, fun other member out => ?_⟩
  · rw [Function.update_of_ne differ, Function.update_self]
  · refine segment.congr fun kept member => ?_
    have inside : kept.1 ∈ back.map Prod.fst := List.mem_map_of_mem member
    have one : kept.1 ≠ cell.1 := fun same => rest.1 (same ▸ inside)
    have two : kept.1 ≠ address := fun same => distinct.1 (same ▸ List.mem_cons_of_mem _ inside)
    rw [Function.update_of_ne one, Function.update_of_ne two]
  · simp only [List.map_cons, List.mem_cons, not_or] at out
    rw [Function.update_of_ne out.2.1, Function.update_of_ne out.1]
  · simp only [List.map_cons, List.mem_cons, not_or] at member off
    obtain rfl := (member.resolve_left off.1).resolve_right off.2
    exact Function.update_self ..
  · simp only [List.map_cons, List.mem_cons, not_or] at member out
    exact absurd (member.resolve_left out.1) out.2.2

end Rewrites

/-- The nodes that are allocated are those of some chains, and no two chains share one. -/
structure Carries (nodes : Nodes Address Item) (chains : Key → List (Address × Item)) : Prop where
  chained : ∀ key, ∃ start, Segment nodes (chains key) start none
  apart : ∀ {first second address}, address ∈ (chains first).map Prod.fst →
    address ∈ (chains second).map Prod.fst → first = second
  owned : ∀ address, nodes address ≠ none ↔ ∃ key, address ∈ (chains key).map Prod.fst

namespace Carries

variable {chains : Key → List (Address × Item)}

theorem empty : Carries (fun _ => none : Nodes Address Item) (fun _ : Key => []) where
  chained _ := ⟨none, rfl⟩
  apart member := absurd member List.not_mem_nil
  owned _ := by simp

/-- An address that is in no chain is free. -/
theorem eq_none_of_not_mem (carries : Carries nodes chains) {address : Address}
    (free : ∀ key, address ∉ (chains key).map Prod.fst) : nodes address = none := by
  by_contra allocated
  obtain ⟨key, member⟩ := (carries.owned address).mp allocated
  exact free key member

/-- What stands behind in a chain is a segment. -/
theorem segment_behind (carries : Carries nodes chains) {key : Key}
    (split : chains key = front ++ back) : Segment nodes back (back.head?.map Prod.fst) none := by
  obtain ⟨start, whole⟩ := carries.chained key
  rw [split] at whole
  obtain ⟨middle, _, behind⟩ := Segment.append_iff.mp whole
  exact behind.start_eq ▸ behind

variable [DecidableEq Key]

/-- One chain is replaced by another, and the others are left alone. -/
theorem replace (carries : Carries nodes chains) {key : Key} {entry : Option Address}
    (rewrites : Rewrites nodes after (chains key) cells start entry) :
    Carries after (Function.update chains key cells) := by
  have foreign : ∀ {other address}, other ≠ key → address ∈ (chains other).map Prod.fst →
      address ∉ (chains key).map Prod.fst ∧ address ∉ cells.map Prod.fst := by
    intro other address differ member
    have outside : address ∉ (chains key).map Prod.fst := fun inside =>
      differ (carries.apart member inside)
    exact ⟨outside, rewrites.not_mem ((carries.owned address).mpr ⟨other, member⟩) outside⟩
  refine ⟨fun other => ?_, fun {first second address} inFirst inSecond => ?_, fun address => ?_⟩
  · by_cases same : other = key
    · subst same
      rw [Function.update_self]
      exact ⟨entry, rewrites.chained⟩
    · obtain ⟨start, segment⟩ := carries.chained other
      rw [Function.update_of_ne same]
      refine ⟨start, segment.congr fun cell member => ?_⟩
      obtain ⟨outside, apart⟩ := foreign same (List.mem_map_of_mem member)
      exact rewrites.elsewhere _ outside apart
  · by_cases one : first = key <;> by_cases two : second = key
    · exact one.trans two.symm
    · rw [one, Function.update_self] at inFirst
      rw [Function.update_of_ne two] at inSecond
      exact absurd inFirst (foreign two inSecond).2
    · rw [two, Function.update_self] at inSecond
      rw [Function.update_of_ne one] at inFirst
      exact absurd inSecond (foreign one inFirst).2
    · rw [Function.update_of_ne one] at inFirst
      rw [Function.update_of_ne two] at inSecond
      exact carries.apart inFirst inSecond
  · constructor
    · intro allocated
      by_cases inside : address ∈ cells.map Prod.fst
      · exact ⟨key, by rwa [Function.update_self]⟩
      · have outside : address ∉ (chains key).map Prod.fst := fun member =>
          allocated (rewrites.freed address member inside)
        rw [rewrites.elsewhere address outside inside] at allocated
        obtain ⟨other, member⟩ := (carries.owned address).mp allocated
        have differ : other ≠ key := fun same => outside (same ▸ member)
        exact ⟨other, by rwa [Function.update_of_ne differ]⟩
    · rintro ⟨other, member⟩
      by_cases same : other = key
      · rw [same, Function.update_self] at member
        obtain ⟨cell, inside, rfl⟩ := List.mem_map.mp member
        obtain ⟨next, node⟩ := rewrites.chained.node_of_mem inside
        rw [node]
        exact Option.some_ne_none _
      · rw [Function.update_of_ne same] at member
        obtain ⟨outside, apart⟩ := foreign same member
        rw [rewrites.elsewhere address outside apart]
        exact (carries.owned address).mpr ⟨other, member⟩

/-- The back of a chain is replaced. -/
theorem replaceBehind (carries : Carries nodes chains) {key : Key}
    {old new : List (Address × Item)} (split : chains key = front ++ old)
    (rewrites : Rewrites nodes after old new start start) :
    Carries after (Function.update chains key (front ++ new)) := by
  obtain ⟨first, whole⟩ := carries.chained key
  rw [split] at whole
  exact carries.replace (split ▸ rewrites.behind whole)

end Carries

end GridGooseSV
