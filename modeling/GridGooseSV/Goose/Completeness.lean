import GridGooseSV.Goose.Filter
import Mathlib.Data.List.Nodup

/-!
# Who is told of a frame

A frame is of concern to every observer and to every other subscriber whose reference
and filters match it. The search for its subscriber stops at the first one that is an
observer or has the reference, so that one listener at most is called, and which one
depends on the order of the list.
-/

namespace GridGooseSV

/-- A frame as it was sent that is received as a complete GOOSE message with one
reference, which is a text. -/
structure WellFormedFrame (frame : List UInt8) (destination : Octets 6) (reference : List UInt8)
    (memory : Memory) : Prop where
  destined : frame.take 6 = destination.val
  held : memory.Holds 0 (frame.drop 14)
  goose : IsGooseFrame memory (frame.length - 14)
  complete : (frameElements memory).complete = true
  refers : ∃ element, referring (frameElements memory).elements = [element] ∧
    element.content memory = reference
  text : 0 ∉ reference

/-- A subscriber of a receiver under its own name, with the reference that it was created
for. Only an observer gets another one. -/
structure Registration where
  name : Nat
  goCbRef : CString
  subscriber : GooseSubscriber
  created : subscriber.isObserver = false →
    subscriber.goCBRef.val = goCbRef.val.take stringLimit ∧
      subscriber.goCBRefLen = goCbRef.val.length

namespace Registration

/-- A frame is of concern to a subscriber: it is an observer, or the reference that it was
created for, its APPID and its destination match. -/
def Concerned (entry : Registration) (reference : List UInt8) (appId : UInt16)
    (destination : Octets 6) : Prop :=
  entry.subscriber.isObserver = true ∨
    (entry.goCbRef.val = reference ∧ entry.subscriber.accepts appId destination = true)

/-- An observer, or a subscriber created for the reference, which was not cut. -/
def candidate (entry : Registration) (reference : List UInt8) : Bool :=
  entry.subscriber.isObserver ||
    decide (entry.goCbRef.val = reference ∧ entry.goCbRef.val.length ≤ stringLimit)

/-- A reference that was cut never matches: the comparison meets the terminator. -/
theorem selects_eq_candidate (entry : Registration) {reference : List UInt8}
    (text : 0 ∉ reference) : entry.subscriber.selects reference = entry.candidate reference := by
  unfold GooseSubscriber.selects GooseSubscriber.refersTo candidate
  cases observing : entry.subscriber.isObserver with
  | true => rfl
  | false =>
      obtain ⟨stored, length⟩ := entry.created observing
      rw [Bool.false_or, Bool.false_or, stored, length, Bool.eq_iff_iff]
      simp only [Bool.and_eq_true, decide_eq_true_eq]
      constructor
      · rintro ⟨same, equal⟩
        have fits : entry.goCbRef.val.length ≤ stringLimit := by
          by_contra long
          -- The terminator is among the octets that are compared, the reference has none.
          have terminated : (0 : UInt8) ∈ reference := by
            rw [← equal, List.take_of_length_le]
            · exact List.mem_append_right _ (List.mem_singleton_self _)
            · rw [List.length_append, List.length_take_of_le (by omega), List.length_singleton]
              omega
          exact text terminated
        rw [List.take_of_length_le fits, ← same, List.take_left] at equal
        exact ⟨equal, fits⟩
      · rintro ⟨rfl, fits⟩
        exact ⟨rfl, by rw [List.take_of_length_le fits, List.take_left]⟩

end Registration

/-- The names of the subscribers of a receiver whose listener is called. -/
def notifiedNames (entries : List Registration) (memory : Memory) (numbytes : Nat)
    (now : UInt64) : List Nat :=
  (parseGooseMessage (entries.map Registration.subscriber) memory numbytes
    now).value.calls.filterMap fun index => entries[index]?.map Registration.name

/-- Every subscriber that a frame is of concern to is called once, and any order of the
list leads to calls of the same subscribers. -/
structure DeliveredCompletely (entries : List Registration) (reference : List UInt8)
    (appId : UInt16) (destination : Octets 6) (memory : Memory) (numbytes : Nat)
    (now : UInt64) : Prop where
  complete : ∀ entry ∈ entries, entry.Concerned reference appId destination →
    entry.subscriber.listener = true →
      (notifiedNames entries memory numbytes now).count entry.name = 1
  unordered : ∀ other, entries.Perm other → ∀ name,
    name ∈ notifiedNames other memory numbytes now ↔
      name ∈ notifiedNames entries memory numbytes now

/-- The subscribers that are observers or have the reference of a frame. -/
def candidates (entries : List Registration) (reference : List UInt8) :
    List Registration :=
  entries.filter (·.candidate reference)

/-- A well-formed frame is delivered to the first subscriber that its reference selects. -/
theorem deliveredTo_of_wellFormed {frame : List UInt8} {destination : Octets 6}
    {reference : List UInt8} {memory : Memory} {subscribers : List GooseSubscriber}
    (wellFormed : WellFormedFrame frame destination reference memory) :
    deliveredTo memory (frame.length - 14) subscribers =
      subscribers.findIdx? (·.selects reference) := by
  obtain ⟨element, one, rfl⟩ := wellFormed.refers
  rw [deliveredTo, if_pos wellFormed.goose, target, matchAll_none, one, wellFormed.complete]
  simp only [Bool.and_true]
  rw [selected]
  cases subscribers.findIdx? (·.selects (element.content memory)) <;> rfl

section Notifying

variable {frame : List UInt8} {destination : Octets 6} {reference : List UInt8}
variable {memory : Memory} {entries : List Registration}

/-- The first candidate is told, if it has a listener. -/
theorem notifiedNames_of_wellFormed
    (wellFormed : WellFormedFrame frame destination reference memory)
    (entries : List Registration) (now : UInt64) :
    notifiedNames entries memory (frame.length - 14) now =
      ((candidates entries reference).head?.filter (·.subscriber.listener)).toList.map
        Registration.name := by
  obtain ⟨_, _, calls⟩ := received_parseGooseMessage (entries.map Registration.subscriber) memory
    (frame.length - 14) now
  have search : ((·.selects reference) ∘ Registration.subscriber) =
      fun entry : Registration => entry.candidate reference :=
    funext fun entry => entry.selects_eq_candidate wellFormed.text
  rw [notifiedNames, calls, deliveredTo_of_wellFormed wellFormed, List.findIdx?_map, search,
    candidates, List.head?_filter, notified]
  cases position : entries.findIdx? (·.candidate reference) with
  | none =>
      have nobody : entries.find? (·.candidate reference) = none :=
        List.find?_eq_none.mpr (by simpa using position)
      rw [nobody]
      rfl
  | some index =>
      obtain ⟨inside, candidate, before⟩ := List.findIdx?_eq_some_iff_getElem.mp position
      have found : entries.find? (·.candidate reference) = some entries[index] :=
        List.find?_eq_some_iff_getElem.mpr
          ⟨candidate, index, inside, rfl, fun earlier less => by simpa using before earlier less⟩
      rw [found, Option.filter_some, Option.filter_some]
      cases listening : entries[index].subscriber.listener <;> simp [inside, listening]

/-- Two candidates can both be the first one. -/
theorem notifiedNames_of_candidate
    (wellFormed : WellFormedFrame frame destination reference memory)
    {entry : Registration} (present : entry ∈ candidates entries reference)
    (now : UInt64) :
    ∃ other, entries.Perm other ∧ notifiedNames other memory (frame.length - 14) now =
      if entry.subscriber.listener then [entry.name] else [] := by
  obtain ⟨member, candidate⟩ := List.mem_filter.mp present
  obtain ⟨front, back, rfl⟩ := List.append_of_mem member
  refine ⟨entry :: (front ++ back), List.perm_middle, ?_⟩
  rw [notifiedNames_of_wellFormed wellFormed, candidates, List.filter_cons, if_pos candidate,
    List.head?_cons, Option.filter_some]
  cases listening : entry.subscriber.listener <;> simp

/-- Candidates without a listener are not told. -/
theorem notifiedNames_of_silent
    (wellFormed : WellFormedFrame frame destination reference memory)
    (silent : ∀ entry ∈ candidates entries reference, entry.subscriber.listener = false)
    (now : UInt64) :
    notifiedNames entries memory (frame.length - 14) now = [] := by
  rw [notifiedNames_of_wellFormed wellFormed]
  cases head : (candidates entries reference).head? with
  | none => rfl
  | some entry => simp [Option.filter_some, silent entry (List.mem_of_head? head)]

/-- The order of the list does not matter exactly if there is one candidate at most, or
none has a listener. -/
theorem unordered_iff (named : (entries.map Registration.name).Nodup)
    (wellFormed : WellFormedFrame frame destination reference memory) (now : UInt64) :
    (∀ other, entries.Perm other → ∀ name,
        name ∈ notifiedNames other memory (frame.length - 14) now ↔
          name ∈ notifiedNames entries memory (frame.length - 14) now) ↔
      (candidates entries reference).length ≤ 1 ∨
        ∀ entry ∈ candidates entries reference, entry.subscriber.listener = false := by
  constructor
  · intro unordered
    by_contra several
    obtain ⟨many, speaking⟩ := not_or.mp several
    push Not at speaking
    obtain ⟨speaker, first, listening⟩ := speaking
    have distinct : (candidates entries reference).Nodup := (List.Nodup.of_map _ named).filter _
    obtain ⟨other, second, different⟩ : ∃ other ∈ candidates entries reference,
        other ≠ speaker := by
      rcases (distinct.ne_singleton_iff speaker).mp (fun one => many (by simp [one])) with
        nobody | found
      · exact absurd first (by simp [nobody])
      · exact found
    -- Either of the two can be the first candidate of the list.
    obtain ⟨firstOrder, permFirst, toldFirst⟩ := notifiedNames_of_candidate wellFormed first now
    obtain ⟨secondOrder, permSecond, toldSecond⟩ :=
      notifiedNames_of_candidate wellFormed second now
    have called : speaker.name ∈ notifiedNames secondOrder memory (frame.length - 14) now := by
      rw [unordered secondOrder permSecond, ← unordered firstOrder permFirst, toldFirst]
      simp [listening]
    have same : other.name = speaker.name := by
      rw [toldSecond] at called
      split at called
      · exact (List.mem_singleton.mp called).symm
      · exact absurd called List.not_mem_nil
    exact different (List.inj_on_of_nodup_map named (List.mem_filter.mp second).1
      (List.mem_filter.mp first).1 same)
  · intro few other perm name
    have reordered : (candidates entries reference).Perm (candidates other reference) :=
      perm.filter _
    rcases few with single | silent
    · have same : candidates other reference = candidates entries reference := by
        rcases Nat.le_one_iff_eq_zero_or_eq_one.mp single with zero | one
        · rw [List.length_eq_zero_iff.mp zero] at reordered ⊢
          exact List.nil_perm.mp reordered
        · obtain ⟨entry, equation⟩ := List.length_eq_one_iff.mp one
          rw [equation] at reordered ⊢
          exact List.perm_singleton.mp reordered.symm
      rw [notifiedNames_of_wellFormed wellFormed, notifiedNames_of_wellFormed wellFormed, same]
    · rw [notifiedNames_of_silent wellFormed silent, notifiedNames_of_silent wellFormed
        fun entry candidate => silent entry (reordered.mem_iff.mpr candidate)]

/-- All subscribers a frame is of concern to are told, in any order of the list, exactly
if no reference of a listener among them was cut, and one subscriber at most is an
observer or has the reference, or none of these has a listener. -/
theorem delivered_completely_iff (named : (entries.map Registration.name).Nodup)
    (wellFormed : WellFormedFrame frame destination reference memory) (now : UInt64) :
    DeliveredCompletely entries reference (sentAppId frame) destination memory
        (frame.length - 14) now ↔
      (∀ entry ∈ entries, entry.Concerned reference (sentAppId frame) destination →
          entry.subscriber.listener = true →
          entry.subscriber.isObserver = true ∨ entry.goCbRef.val.length ≤ stringLimit) ∧
        ((candidates entries reference).length ≤ 1 ∨
          ∀ entry ∈ candidates entries reference, entry.subscriber.listener = false) := by
  constructor
  · rintro ⟨complete, unordered⟩
    refine ⟨?_, (unordered_iff named wellFormed now).mp unordered⟩
    intro entry member concerned listening
    have called : entry.name ∈ notifiedNames entries memory (frame.length - 14) now :=
      List.count_pos_iff.mp (by rw [complete entry member concerned listening]; exact one_pos)
    rw [notifiedNames_of_wellFormed wellFormed] at called
    obtain ⟨first, told, same⟩ := List.mem_map.mp called
    obtain ⟨head, _⟩ := Option.filter_eq_some_iff.mp (Option.mem_toList.mp told)
    obtain ⟨present, candidate⟩ := List.mem_filter.mp (List.mem_of_head? head)
    rw [List.inj_on_of_nodup_map named present member same, Registration.candidate,
      Bool.or_eq_true, decide_eq_true_eq] at candidate
    exact candidate.imp_right And.right
  · rintro ⟨uncut, few⟩
    refine ⟨?_, (unordered_iff named wellFormed now).mpr few⟩
    intro entry member concerned listening
    have fits := uncut entry member concerned listening
    have candidate : entry ∈ candidates entries reference := by
      refine List.mem_filter.mpr ⟨member, ?_⟩
      rw [Registration.candidate, Bool.or_eq_true, decide_eq_true_eq]
      rcases concerned with observing | ⟨same, _⟩
      · exact .inl observing
      · exact fits.imp_right fun short => ⟨same, short⟩
    have alone : candidates entries reference = [entry] := by
      rcases few with single | silent
      · obtain ⟨other, equation⟩ := List.length_eq_one_iff.mp
          (Nat.le_antisymm single (List.length_pos_of_mem candidate))
        rw [equation] at candidate ⊢
        rw [List.mem_singleton.mp candidate]
      · exact absurd (silent entry candidate) (by simp [listening])
    rw [notifiedNames_of_wellFormed wellFormed, alone]
    simp [Option.filter_some, listening]

end Notifying

/-- A subscriber with a listener, as it is created. -/
def Registration.listening (name : Nat) (goCbRef : CString) : Registration where
  name := name
  goCbRef := goCbRef
  subscriber := (GooseSubscriber.create goCbRef none).setListener
  created _ := ⟨rfl, rfl⟩

/-- An observer with a listener. -/
def Registration.observing (name : Nat) : Registration where
  name := name
  goCbRef := ⟨[], by decide⟩
  subscriber := (GooseSubscriber.create ⟨[], by decide⟩ none).setObserver.setListener
  created := nofun

/-- A frame with the reference of one character. -/
def referenceFrame : List UInt8 :=
  taggedFrame Octets.zero Octets.zero Octets.zero 0x1000
    [(0x80, [0x41]), (0x85, [0x00, 0x00, 0x01])]

theorem wellFormed_referenceFrame :
    WellFormedFrame referenceFrame Octets.zero [0x41]
      (Memory.ofOctets (referenceFrame.drop 14) fun _ => 0) where
  destined := by decide
  held := Memory.holds_ofOctets _ _
  goose := by decide +kernel
  complete := by decide +kernel
  refers := ⟨⟨0x80, 16, 1⟩, by decide +kernel, by decide +kernel⟩
  text := by decide

/-- One subscriber for each of two references. -/
theorem delivered_completely_to_one :
    let memory := Memory.ofOctets (referenceFrame.drop 14) fun _ => 0
    let entries := [Registration.listening 0 ⟨[0x42], by decide⟩,
      Registration.listening 1 ⟨[0x41], by decide⟩]
    DeliveredCompletely entries [0x41] (sentAppId referenceFrame) Octets.zero memory
        (referenceFrame.length - 14) 0 ↔
      (∀ entry ∈ entries, entry.Concerned [0x41] (sentAppId referenceFrame) Octets.zero →
          entry.subscriber.listener = true →
          entry.subscriber.isObserver = true ∨ entry.goCbRef.val.length ≤ stringLimit) ∧
        ((candidates entries [0x41]).length ≤ 1 ∨
          ∀ entry ∈ candidates entries [0x41], entry.subscriber.listener = false) :=
  delivered_completely_iff (by decide) wellFormed_referenceFrame 0

/-- Of two observers only the first one is told. -/
theorem observer_not_told :
    ¬ ∀ entries : List Registration, (entries.map Registration.name).Nodup →
      ∀ (frame : List UInt8) (destination : Octets 6) (reference : List UInt8) (memory : Memory),
        WellFormedFrame frame destination reference memory → ∀ now : UInt64,
          DeliveredCompletely entries reference (sentAppId frame) destination memory
            (frame.length - 14) now := by
  intro claim
  have complete := (claim [.observing 0, .observing 1] (by decide) _ _ _ _
    wellFormed_referenceFrame 0).complete (.observing 1) (by simp) (.inl rfl) rfl
  have untold : (notifiedNames [.observing 0, .observing 1]
      (Memory.ofOctets (referenceFrame.drop 14) fun _ => 0)
      (referenceFrame.length - 14) 0).count 1 = 0 := by
    decide +kernel
  exact absurd (complete.symm.trans untold) (by decide)

end GridGooseSV
