import GridGooseSV.Foundation.Runs

/-!
# Episodes of a run

Some records of a run start an episode. The records of an episode stand one after another, up to the
one that ends it, and there are no more of them than a limit allows. The episode at the end of a run
may be one that still goes on.
-/

namespace GridGooseSV

/-- Which records start an episode, belong to it, and end it after so many others. -/
structure EpisodeRules (ω : Type) where
  starts : ω → Prop
  inside : ω → Prop
  ends : Nat → ω → Prop
  limit : Nat

namespace EpisodeRules

variable {ω : Type} (rules : EpisodeRules ω)

/-- Records that are an episode and what ends it, with whatever follows. -/
def Closed (records : List ω) : Prop :=
  ∃ body last rest, records = body ++ last :: rest ∧ body.length ≤ rules.limit ∧
    (∀ record ∈ body, rules.inside record) ∧ rules.ends body.length last

/-- Every episode has come to its end, or it is the one that goes on and has so many records. -/
structure Orderly (current : Option Nat) (records : List ω) : Prop where
  each : ∀ before start rest, records = before ++ start :: rest → rules.starts start →
    rules.Closed (start :: rest) ∨
      (current = some (rest.length + 1) ∧ ∀ record ∈ start :: rest, rules.inside record)
  going : ∀ count, current = some count → count ≤ rules.limit ∧
    ∃ before start rest, records = before ++ start :: rest ∧ rules.starts start ∧
      rest.length + 1 = count ∧ ∀ record ∈ start :: rest, rules.inside record

/-- An episode of more records than the limit allows. -/
def Overlong (records : List ω) : Prop :=
  ∃ before start rest after, records = before ++ (start :: rest) ++ after ∧ rules.starts start ∧
    rules.limit < rest.length + 1 ∧ ∀ record ∈ start :: rest, rules.inside record

variable {rules} {current : Option Nat} {count : Nat} {records : List ω} {record : ω}

theorem Closed.concat (closed : rules.Closed records) (record : ω) :
    rules.Closed (records ++ [record]) := by
  obtain ⟨body, last, rest, rfl, few, inside, ends⟩ := closed
  exact ⟨body, last, rest ++ [record], by simp, few, inside, ends⟩

theorem closed_single (ends : rules.ends 0 record) : rules.Closed [record] :=
  ⟨[], record, [], rfl, Nat.zero_le _, by simp, ends⟩

theorem orderly_nil : rules.Orderly none [] :=
  ⟨fun _ _ _ split => by simp at split, nofun⟩

/-- A record between episodes. -/
theorem Orderly.quiet (orderly : rules.Orderly none records)
    (ends : rules.starts record → rules.ends 0 record) :
    rules.Orderly none (records ++ [record]) := by
  refine ⟨fun before start rest split starts => .inl ?_, nofun⟩
  rcases split_of_concat split with ⟨rfl, _, rfl⟩ | ⟨earlier, rfl, within⟩
  · exact closed_single (ends starts)
  · rcases orderly.each _ _ _ within starts with closed | ⟨going, _⟩
    · exact closed.concat record
    · contradiction

/-- An episode starts. -/
theorem Orderly.start (orderly : rules.Orderly none records) (starts : rules.starts record)
    (inside : rules.inside record) (room : 1 ≤ rules.limit) :
    rules.Orderly (some 1) (records ++ [record]) := by
  refine ⟨fun before start rest split starting => ?_, fun count going => ?_⟩
  · rcases split_of_concat split with ⟨rfl, _, rfl⟩ | ⟨earlier, rfl, within⟩
    · exact .inr ⟨rfl, by simpa using inside⟩
    · rcases orderly.each _ _ _ within starting with closed | ⟨going, _⟩
      · exact .inl (closed.concat record)
      · contradiction
  · obtain rfl := Option.some.inj going
    exact ⟨room, records, record, [], rfl, starts, rfl, by simpa using inside⟩

/-- An episode goes on. -/
theorem Orderly.goOn (orderly : rules.Orderly (some count) records)
    (another : ¬ rules.starts record) (inside : rules.inside record)
    (room : count + 1 ≤ rules.limit) : rules.Orderly (some (count + 1)) (records ++ [record]) := by
  have member : ∀ {body : List ω}, (∀ each ∈ body, rules.inside each) →
      ∀ each ∈ body ++ [record], rules.inside each := by
    intro body all each among
    rcases List.mem_append.mp among with earlier | last
    · exact all each earlier
    · rw [List.mem_singleton.mp last]
      exact inside
  refine ⟨fun before start rest split starting => ?_, fun number going => ?_⟩
  · rcases split_of_concat split with ⟨rfl, _, rfl⟩ | ⟨earlier, rfl, within⟩
    · exact absurd starting another
    · rcases orderly.each _ _ _ within starting with closed | ⟨going, all⟩
      · exact .inl (closed.concat record)
      · refine .inr ⟨?_, member all⟩
        rw [Option.some.inj going, List.length_append, List.length_singleton]
  · obtain rfl := Option.some.inj going
    obtain ⟨_, before, start, rest, rfl, starts, rfl, all⟩ := orderly.going _ rfl
    exact ⟨room, before, start, rest ++ [record], by simp, starts, by simp, member all⟩

/-- An episode comes to its end. -/
theorem Orderly.finish (orderly : rules.Orderly (some count) records)
    (another : ¬ rules.starts record) (ends : rules.ends count record) :
    rules.Orderly none (records ++ [record]) := by
  refine ⟨fun before start rest split starting => .inl ?_, nofun⟩
  rcases split_of_concat split with ⟨rfl, _, rfl⟩ | ⟨earlier, rfl, within⟩
  · exact absurd starting another
  · rcases orderly.each _ _ _ within starting with closed | ⟨going, all⟩
    · exact closed.concat record
    · obtain rfl := Option.some.inj going
      exact ⟨start :: earlier, record, [], rfl, (orderly.going _ rfl).1, all, ends⟩

/-- An episode goes on beyond the limit. -/
theorem Orderly.overrun (orderly : rules.Orderly (some count) records)
    (inside : rules.inside record) (full : rules.limit ≤ count) :
    rules.Overlong (records ++ [record]) := by
  obtain ⟨_, before, start, rest, rfl, starts, rfl, all⟩ := orderly.going _ rfl
  refine ⟨before, start, rest ++ [record], [], by simp, starts, ?_, fun each among => ?_⟩
  · rw [List.length_append, List.length_singleton]
    omega
  · rw [← List.cons_append] at among
    rcases List.mem_append.mp among with earlier | last
    · exact all each earlier
    · rw [List.mem_singleton.mp last]
      exact inside

theorem Overlong.concat (overlong : rules.Overlong records) (record : ω) :
    rules.Overlong (records ++ [record]) := by
  obtain ⟨before, start, rest, after, rfl, starts, long, all⟩ := overlong
  exact ⟨before, start, rest, after ++ [record], by simp, starts, long, all⟩

/-- What is too long does not come to an end within the limit. -/
theorem Closed.length_le {body after : List ω} (closed : rules.Closed (body ++ after))
    (inside : ∀ record ∈ body, rules.inside record)
    (apart : ∀ count record, rules.inside record → ¬ rules.ends count record) :
    body.length ≤ rules.limit := by
  obtain ⟨shorter, last, rest, split, few, _, ends⟩ := closed
  by_contra long
  have place : (body ++ after)[shorter.length]? = some last := by
    rw [split, List.getElem?_append_right (Nat.le_refl _), Nat.sub_self]
    rfl
  rw [List.getElem?_append_left (by omega)] at place
  exact apart _ _ (inside last (List.mem_of_getElem? place)) ends

end EpisodeRules

end GridGooseSV
