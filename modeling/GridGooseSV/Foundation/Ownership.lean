import Mathlib.Data.List.Nodup
import Mathlib.Logic.Function.Basic

/-!
# Blocks and their holders

Blocks of memory that are shared out: every block is held by nobody or stands in the list of one
holder, in one place. A block moves from hand to hand, and what is freed was held.
-/

namespace GridGooseSV

variable {Address Block Key : Type} {blocks loose : Address → Option Block}
  {lists : Key → List (Address × Block)}

/-- The blocks that are allocated are those that nobody holds and those in the lists, and none of
them is in two places. -/
structure Shared (blocks loose : Address → Option Block) (lists : Key → List (Address × Block)) :
    Prop where
  held : ∀ address block, blocks address = some block ↔
    loose address = some block ∨ ∃ key, (address, block) ∈ lists key
  nodup : ∀ key, ((lists key).map Prod.fst).Nodup
  apart : ∀ {first second address}, address ∈ (lists first).map Prod.fst →
    address ∈ (lists second).map Prod.fst → first = second
  unlisted : ∀ {address block}, loose address = some block →
    ∀ key, address ∉ (lists key).map Prod.fst

namespace Shared

variable {address : Address} {block other : Block} {key : Key}

theorem empty : Shared (fun _ => none : Address → Option Block) (fun _ => none)
    (fun _ : Key => []) where
  held _ _ := by simp
  nodup _ := List.nodup_nil
  apart member := absurd member List.not_mem_nil
  unlisted found := absurd found (by simp)

theorem block_of_loose (shared : Shared blocks loose lists) (found : loose address = some block) :
    blocks address = some block := (shared.held address block).mpr (.inl found)

theorem block_of_mem (shared : Shared blocks loose lists) (member : (address, block) ∈ lists key) :
    blocks address = some block := (shared.held address block).mpr (.inr ⟨key, member⟩)

/-- What is not allocated stands in no list. -/
theorem not_mem_of_eq_none (shared : Shared blocks loose lists) (free : blocks address = none)
    (key : Key) : address ∉ (lists key).map Prod.fst := by
  intro member
  obtain ⟨⟨_, block⟩, there, rfl⟩ := List.mem_map.mp member
  simp [shared.block_of_mem there] at free

/-- The block at an address that stands in a list is the one that stands there with it. -/
theorem eq_some_iff (shared : Shared blocks loose lists)
    (member : address ∈ (lists key).map Prod.fst) :
    blocks address = some block ↔ (address, block) ∈ lists key := by
  rw [shared.held]
  constructor
  · rintro (found | ⟨other, there⟩)
    · exact absurd member (shared.unlisted found key)
    · exact shared.apart (List.mem_map_of_mem there) member ▸ there
  · exact fun there => .inr ⟨key, there⟩

variable [DecidableEq Address]

/-- A new block, or another one in the place of a block that nobody holds. -/
theorem put (shared : Shared blocks loose lists)
    (outside : ∀ key, address ∉ (lists key).map Prod.fst) (block : Block) :
    Shared (Function.update blocks address (some block))
      (Function.update loose address (some block)) lists := by
  refine ⟨fun query found => ?_, shared.nodup, shared.apart, fun {query found} given key => ?_⟩
  · by_cases same : query = address
    · subst same
      have none : ∀ key, (query, found) ∉ lists key := fun key member =>
        outside key (List.mem_map_of_mem member)
      simp [none]
    · rw [Function.update_of_ne same, Function.update_of_ne same]
      exact shared.held query found
  · by_cases same : query = address
    · exact same ▸ outside key
    · rw [Function.update_of_ne same] at given
      exact shared.unlisted given key

/-- A block that nobody holds is freed. -/
theorem free (shared : Shared blocks loose lists) (found : loose address = some block) :
    Shared (Function.update blocks address none) (Function.update loose address none) lists := by
  have outside := shared.unlisted found
  refine ⟨fun query given => ?_, shared.nodup, shared.apart, fun {query given} there key => ?_⟩
  · by_cases same : query = address
    · subst same
      have none : ∀ key, (query, given) ∉ lists key := fun key member =>
        outside key (List.mem_map_of_mem member)
      simp [none]
    · rw [Function.update_of_ne same, Function.update_of_ne same]
      exact shared.held query given
  · by_cases same : query = address
    · simp [same] at there
    · rw [Function.update_of_ne same] at there
      exact shared.unlisted there key

variable [DecidableEq Key]

/-- A block that nobody holds comes to the end of a list. -/
theorem take (shared : Shared blocks loose lists) (found : loose address = some block) (key : Key) :
    Shared blocks (Function.update loose address none)
      (Function.update lists key (lists key ++ [(address, block)])) := by
  have outside := shared.unlisted found
  have member_iff : ∀ query cell, cell ∈
      Function.update lists key (lists key ++ [(address, block)]) query ↔
        cell ∈ lists query ∨ query = key ∧ cell = (address, block) := by
    intro query cell
    by_cases same : query = key
    · subst same
      simp
    · simp [same]
  have address_iff : ∀ query given, given ∈
      (Function.update lists key (lists key ++ [(address, block)]) query).map Prod.fst ↔
        given ∈ (lists query).map Prod.fst ∨ query = key ∧ given = address := by
    intro query given
    by_cases same : query = key
    · subst same
      simp
    · simp [same]
  refine ⟨fun query given => ?_, fun query => ?_, fun {first second query} one two => ?_,
    fun {query given} there other member => ?_⟩
  · simp only [member_iff]
    by_cases same : query = address
    · subst same
      rw [Function.update_self, shared.block_of_loose found]
      constructor
      · rintro ⟨⟩
        exact .inr ⟨key, .inr ⟨rfl, rfl⟩⟩
      · rintro (nothing | ⟨other, member | ⟨_, equal⟩⟩)
        · contradiction
        · exact absurd (List.mem_map_of_mem member) (outside other)
        · rw [(Prod.mk.inj equal).2]
    · rw [Function.update_of_ne same, shared.held query given]
      simp [same]
  · by_cases same : query = key
    · subst same
      rw [Function.update_self, List.map_append]
      refine List.nodup_append.mpr ⟨shared.nodup query, List.nodup_singleton _, ?_⟩
      intro given member other last equal
      rw [equal, List.mem_singleton.mp last] at member
      exact outside query member
    · rw [Function.update_of_ne same]
      exact shared.nodup query
  · rw [address_iff] at one two
    rcases one with one | ⟨rfl, rfl⟩ <;> rcases two with two | ⟨rfl, last⟩
    · exact shared.apart one two
    · exact absurd (last ▸ one) (outside first)
    · exact absurd two (outside second)
    · rfl
  · rw [address_iff] at member
    by_cases same : query = address
    · simp [same] at there
    · rw [Function.update_of_ne same] at there
      exact shared.unlisted there other (member.resolve_right fun last => same last.2)

/-- A block leaves its list, and nobody holds it. -/
theorem release (shared : Shared blocks loose lists) {front back : List (Address × Block)}
    (split : lists key = front ++ (address, block) :: back) :
    Shared blocks (Function.update loose address (some block))
      (Function.update lists key (front ++ back)) := by
  have there : (address, block) ∈ lists key := by simp [split]
  have distinct := shared.nodup key
  rw [split, List.map_append, List.map_cons] at distinct
  have apart : address ∉ (front ++ back).map Prod.fst := by
    rw [List.map_append]
    exact (List.nodup_cons.mp (List.nodup_middle.mp distinct)).1
  have member_iff : ∀ query cell, cell ∈ Function.update lists key (front ++ back) query ↔
      cell ∈ lists query ∧ cell.1 ≠ address := by
    intro query cell
    by_cases same : query = key
    · subst same
      rw [Function.update_self, split]
      constructor
      · intro member
        refine ⟨by simp at member ⊢; tauto, fun equal => ?_⟩
        exact apart (equal ▸ List.mem_map_of_mem member)
      · rintro ⟨member, differ⟩
        rcases List.mem_append.mp member with early | late
        · exact List.mem_append_left _ early
        · rcases List.mem_cons.mp late with rfl | late
          · contradiction
          · exact List.mem_append_right _ late
    · rw [Function.update_of_ne same]
      refine ⟨fun member => ⟨member, fun equal => same ?_⟩, And.left⟩
      exact shared.apart (List.mem_map_of_mem member) (equal ▸ List.mem_map_of_mem there)
  have address_iff : ∀ query given, given ∈
      (Function.update lists key (front ++ back) query).map Prod.fst ↔
        given ∈ (lists query).map Prod.fst ∧ given ≠ address := by
    intro query given
    simp only [List.mem_map, member_iff]
    constructor
    · rintro ⟨cell, ⟨member, differ⟩, rfl⟩
      exact ⟨⟨cell, member, rfl⟩, differ⟩
    · rintro ⟨⟨cell, member, rfl⟩, differ⟩
      exact ⟨cell, ⟨member, differ⟩, rfl⟩
  refine ⟨fun query given => ?_, fun query => ?_, fun {first second query} one two => ?_,
    fun {query given} found other member => ?_⟩
  · simp only [member_iff]
    by_cases same : query = address
    · subst same
      rw [Function.update_self, shared.block_of_mem there]
      simp
    · rw [Function.update_of_ne same, shared.held query given]
      simp [same]
  · by_cases same : query = key
    · subst same
      rw [Function.update_self, List.map_append]
      exact (List.nodup_cons.mp (List.nodup_middle.mp distinct)).2
    · rw [Function.update_of_ne same]
      exact shared.nodup query
  · rw [address_iff] at one two
    exact shared.apart one.1 two.1
  · rw [address_iff] at member
    rw [Function.update_of_ne member.2] at found
    exact shared.unlisted found other member.1

/-- The blocks of a list are replaced by others at the same addresses, or are freed. -/
theorem rewrite (shared : Shared blocks loose lists) {after : Address → Option Block}
    {cells : List (Address × Block)} (distinct : (cells.map Prod.fst).Nodup)
    (within : ∀ address ∈ cells.map Prod.fst, address ∈ (lists key).map Prod.fst)
    (elsewhere : ∀ address, address ∉ (lists key).map Prod.fst → after address = blocks address)
    (inside : ∀ address ∈ (lists key).map Prod.fst, ∀ block,
      after address = some block ↔ (address, block) ∈ cells) :
    Shared after loose (Function.update lists key cells) := by
  have kept : ∀ query given, given ∈ (Function.update lists key cells query).map Prod.fst →
      given ∈ (lists query).map Prod.fst := by
    intro query given member
    by_cases same : query = key
    · subst same
      rw [Function.update_self] at member
      exact within given member
    · rwa [Function.update_of_ne same] at member
  refine ⟨fun query given => ?_, fun query => ?_, fun one two =>
    shared.apart (kept _ _ one) (kept _ _ two), fun found other member =>
    shared.unlisted found other (kept _ _ member)⟩
  · by_cases listed : query ∈ (lists key).map Prod.fst
    · have held : loose query ≠ some given := fun found => shared.unlisted found key listed
      rw [inside query listed given]
      constructor
      · intro member
        exact .inr ⟨key, by rwa [Function.update_self]⟩
      · rintro (found | ⟨other, member⟩)
        · contradiction
        · obtain rfl := shared.apart (kept _ _ (List.mem_map_of_mem member)) listed
          rwa [Function.update_self] at member
    · rw [elsewhere query listed, shared.held query given]
      refine or_congr_right ⟨?_, ?_⟩
      · rintro ⟨other, member⟩
        have differ : other ≠ key := fun same => listed (same ▸ List.mem_map_of_mem member)
        exact ⟨other, by rwa [Function.update_of_ne differ]⟩
      · rintro ⟨other, member⟩
        by_cases same : other = key
        · subst same
          rw [Function.update_self] at member
          exact absurd (within query (List.mem_map_of_mem member)) listed
        · rw [Function.update_of_ne same] at member
          exact ⟨other, member⟩
  · by_cases same : query = key
    · subst same
      rwa [Function.update_self]
    · rw [Function.update_of_ne same]
      exact shared.nodup query

end Shared

end GridGooseSV
