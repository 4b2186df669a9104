import GridGooseSV.Foundation.Simulation
import GridGooseSV.Goose.Filter
import GridGooseSV.Goose.Stream

/-!
# Subscribers of one receiver

A receiver has a list of subscribers and searches it anew for every reference. A subscriber that
no other one in front of it is taken for behaves as if it were alone and were given only the
frames with its reference; any other one never changes.
-/

namespace GridGooseSV

/-- A step of a receiver, as the listener of one subscriber hears of it: the subscriber as it is
when the listener is called. -/
def heardAt (index : Nat) (subscribers : List GooseSubscriber) (arrival : Arrival) :
    List GooseSubscriber × List GooseSubscriber :=
  let reception := (parseGooseMessage subscribers arrival.memory arrival.numbytes arrival.now).value
  (reception.subscriberList,
    if index ∈ reception.calls then reception.subscriberList[index]?.toList else [])

/-- A GOOSE frame has an element that refers to a subscriber with the given reference. -/
def refersTo (reference : List UInt8) (arrival : Arrival) : Bool :=
  decide (IsGooseFrame arrival.memory arrival.numbytes) &&
    (frameElements arrival.memory).elements.any fun element =>
      decide (element.pduTag = some .gocbRef ∧ element.content arrival.memory = reference)

/-- A frame that refers to a subscriber refers to no other one. -/
def RefersOnlyTo (reference : List UInt8) (arrival : Arrival) : Prop :=
  refersTo reference arrival = true → ∀ element ∈ (frameElements arrival.memory).elements,
    element.pduTag = some .gocbRef → element.content arrival.memory = reference

instance (reference : List UInt8) (arrival : Arrival) :
    Decidable (RefersOnlyTo reference arrival) :=
  inferInstanceAs (Decidable (_ → ∀ element ∈ _, _))

/-- A subscriber that is no observer, and the first one that its reference selects. -/
structure Unshadowed (subscribers : List GooseSubscriber) (index : Nat)
    (subscriber : GooseSubscriber) : Prop where
  found : subscribers[index]? = some subscriber
  plain : subscriber.Plain
  first : ∀ earlier < index, ∀ other, subscribers[earlier]? = some other →
    ¬ other.selects subscriber.goCBRef.val

section Selecting

variable {memory : Memory} {subscribers : List GooseSubscriber} {index : Nat}
variable {self : GooseSubscriber}

theorem Unshadowed.alone (plain : self.Plain) : Unshadowed [self] 0 self where
  found := rfl
  plain := plain
  first := fun _ less => absurd less (Nat.not_lt_zero _)

theorem Unshadowed.findIdx? (unshadowed : Unshadowed subscribers index self)
    (octets : List UInt8) :
    subscribers.findIdx? (·.selects octets) = some index ↔ octets = self.goCBRef.val := by
  obtain ⟨found, plain, first⟩ := unshadowed
  obtain ⟨bound, here⟩ := List.getElem?_eq_some_iff.mp found
  rw [List.findIdx?_eq_some_iff_getElem]
  constructor
  · rintro ⟨_, selects, _⟩
    rw [here] at selects
    exact (selects_iff_of_plain plain _).mp selects
  · rintro rfl
    refine ⟨bound, by rw [here]; exact (selects_iff_of_plain plain _).mpr rfl, ?_⟩
    intro earlier less
    exact first earlier less _ (List.getElem?_eq_getElem (by omega))

/-- The reference selects the subscriber, and nothing else does. -/
theorem Unshadowed.selected (unshadowed : Unshadowed subscribers index self)
    (element : Element) :
    selected memory element subscribers = some index ↔
      element.content memory = self.goCBRef.val := unshadowed.findIdx? _

theorem Unshadowed.congr {others : List GooseSubscriber} {after : GooseSubscriber}
    (unshadowed : Unshadowed subscribers index self) (alike : SelectAlike subscribers others)
    (found : others[index]? = some after) (plain : after.Plain)
    (goCBRef : after.goCBRef = self.goCBRef) : Unshadowed others index after := by
  refine ⟨found, plain, fun earlier less other here => ?_⟩
  have same := congrArg (fun list : List Bool => list[earlier]?) (alike self.goCBRef.val)
  simp only [List.getElem?_map, here, Option.map_some] at same
  obtain ⟨before, there, selects⟩ := Option.map_eq_some_iff.mp same
  rw [goCBRef, ← selects]
  exact unshadowed.first earlier less before there

end Selecting

/-- Two searches that have both found nothing, or each the one it is looking for. -/
def MatchedAlike (index other : Nat) (matching same : Option Nat) : Prop :=
  (matching = none ∧ same = none) ∨ (matching = some index ∧ same = some other)

section Alone

variable {memory : Memory} {subscribers others : List GooseSubscriber} {index other : Nat}
variable {self : GooseSubscriber} {reference : List UInt8}

theorem MatchedAlike.after {matching same : Option Nat}
    (alike : MatchedAlike index other matching same) {element : Element}
    (selects : element.pduTag = some .gocbRef →
      selected memory element subscribers = some index ∧
        selected memory element others = some other) :
    MatchedAlike index other (matchAfter memory subscribers element matching)
      (matchAfter memory others element same) := by
  unfold matchAfter
  split
  · rename_i refers
    obtain ⟨here, there⟩ := selects refers
    rw [here, there]
    exact .inr ⟨rfl, rfl⟩
  · exact alike

theorem MatchedAlike.goesOn {matching same : Option Nat}
    (alike : MatchedAlike index other matching same) (element : Element) :
    goesOn element matching = goesOn element same := by
  rcases alike with ⟨rfl, rfl⟩ | ⟨rfl, rfl⟩ <;> rfl

theorem MatchedAlike.iff {matching same : Option Nat}
    (alike : MatchedAlike index other matching same) :
    matching = some index ↔ same = some other := by
  rcases alike with ⟨rfl, rfl⟩ | ⟨rfl, rfl⟩ <;> simp

/-- Elements that refer to one subscriber only are matched alike in two lists with it. -/
theorem matchAll_alike {elements : List Element} {matching same : Option Nat}
    (alike : MatchedAlike index other matching same)
    (selects : ∀ element ∈ elements, element.pduTag = some .gocbRef →
      selected memory element subscribers = some index ∧
        selected memory element others = some other) :
    MatchedAlike index other (matchAll memory subscribers elements matching).1
        (matchAll memory others elements same).1 ∧
      (matchAll memory subscribers elements matching).2 =
        (matchAll memory others elements same).2 := by
  induction elements generalizing matching same with
  | nil => exact ⟨alike, rfl⟩
  | cons element rest ih =>
      obtain ⟨here, later⟩ := List.forall_mem_cons.mp selects
      have after := alike.after here
      simp only [matchAll, after.goesOn element]
      split
      · exact ih after later
      · exact ⟨after, rfl⟩

theorem handed_alike {tag : PduTag} {elements : List Element} {matching same : Option Nat}
    (alike : MatchedAlike index other matching same)
    (selects : ∀ element ∈ elements, element.pduTag = some .gocbRef →
      selected memory element subscribers = some index ∧
        selected memory element others = some other) :
    handed memory subscribers tag index elements matching =
      handed memory others tag other elements same := by
  induction elements generalizing matching same with
  | nil => rfl
  | cons element rest ih =>
      obtain ⟨here, later⟩ := List.forall_mem_cons.mp selects
      have after := alike.after here
      have first : handedBy memory tag index element
            (matchAfter memory subscribers element matching) =
          handedBy memory tag other element (matchAfter memory others element same) := by
        simp only [handedBy, after.iff]
      simp only [handed, after.goesOn element, first, ih after later]

/-- What a frame that refers to no other subscriber leaves of one. -/
theorem parsed_alike {index other : Nat} {subscribers others : List GooseSubscriber}
    {numbytes : Nat} (plain : ¬ self.isObserver)
    (selects : ∀ element ∈ (frameElements memory).elements, element.pduTag = some .gocbRef →
      selected memory element subscribers = some index ∧
        selected memory element others = some other) :
    parsed memory numbytes subscribers index self = parsed memory numbytes others other self := by
  have addresses : self.withAddresses memory = self := if_neg plain
  have strings := fun tag => @handed_alike memory subscribers others index other tag
    (frameElements memory).elements none none (.inl ⟨rfl, rfl⟩) selects
  unfold parsed readBy
  simp only [addresses, ite_self, strings]

theorem deliveredTo_alike {numbytes : Nat}
    (selects : ∀ element ∈ (frameElements memory).elements, element.pduTag = some .gocbRef →
      selected memory element subscribers = some index ∧
        selected memory element others = some other) :
    deliveredTo memory numbytes subscribers = some index ↔
      deliveredTo memory numbytes others = some other := by
  obtain ⟨alike, same⟩ := matchAll_alike (.inl ⟨rfl, rfl⟩) selects
  unfold deliveredTo target
  split
  · simp only [same]
    split
    · exact alike.iff
    · simp
  · simp

end Alone

section Steps

variable {subscribers : List GooseSubscriber} {index : Nat} {self : GooseSubscriber}

/-- What the listener of a subscriber hears of a frame. -/
theorem snd_heardAt (subscribers : List GooseSubscriber) (index : Nat) (arrival : Arrival) :
    (heardAt index subscribers arrival).2 =
      if deliveredTo arrival.memory arrival.numbytes subscribers = some index then
        ((receive subscribers arrival)[index]?.filter (·.listener)).toList else [] := by
  obtain ⟨_, state, calls⟩ := received_parseGooseMessage subscribers arrival.memory
    arrival.numbytes arrival.now
  simp only [heardAt, receive, calls, notified, Option.mem_toList,
    Option.filter_eq_some_iff]
  by_cases delivered : deliveredTo arrival.memory arrival.numbytes subscribers = some index
  · rw [state, if_pos delivered]
    cases subscribers[index]? with
    | none => simp
    | some subscriber =>
        have listens :
            ((parsed arrival.memory arrival.numbytes subscribers index subscriber).deliver
              arrival.memory (framePdu arrival.memory) arrival.now).value.listener =
                subscriber.listener := by
          rw [GooseSubscriber.value_deliver, parsed_eq]
        simp only [delivered, true_and, Option.map_some, Option.getD_some, if_true,
          Option.filter_some, listens]
        split <;> rfl
  · simp [delivered]

/-- A plain subscriber stays plain, and its reference is what it was. -/
theorem plain_receive (found : subscribers[index]? = some self) (plain : self.Plain)
    (arrival : Arrival) :
    ∃ after, (receive subscribers arrival)[index]? = some after ∧ after.Plain ∧
      after.goCBRef = self.goCBRef := by
  have reference : (parsed arrival.memory arrival.numbytes subscribers index self).goCBRef =
      self.goCBRef := by
    have addresses : self.withAddresses arrival.memory = self := if_neg plain.unobserving
    unfold parsed readBy
    simp only [addresses, ite_self]
    split
    · exact if_neg plain.unobserving
    · rfl
  refine ⟨_, by rw [getElem?_receive, found, Option.map_some], ?_⟩
  rw [parsed_eq] at reference ⊢
  dsimp only
  split
  · rw [GooseSubscriber.value_deliver]
    exact ⟨⟨plain.unobserving, by rw [reference]; exact plain.whole⟩, reference⟩
  · exact ⟨⟨plain.unobserving, by rw [reference]; exact plain.whole⟩, reference⟩

/-- A frame that does not refer to a subscriber leaves it as it is. -/
theorem unchanged_of_not_refersTo {reference : List UInt8} {arrival : Arrival}
    (found : subscribers[index]? = some self) (plain : ¬ self.isObserver)
    (search : ∀ element, selected arrival.memory element subscribers = some index →
      element.content arrival.memory = reference)
    (other : refersTo reference arrival = false) :
    (receive subscribers arrival)[index]? = some self ∧
      (heardAt index subscribers arrival).2 = [] := by
  by_cases goose : IsGooseFrame arrival.memory arrival.numbytes
  · have unselected :
        ¬ Selects arrival.memory subscribers index (frameElements arrival.memory).elements := by
      rintro ⟨element, member, kind, selects⟩
      have refers : refersTo reference arrival = true := Bool.and_eq_true_iff.mpr
        ⟨decide_eq_true goose, List.any_eq_true.mpr
          ⟨element, member, decide_eq_true ⟨kind, search element selects⟩⟩⟩
      rw [other] at refers
      contradiction
    obtain ⟨same, uncalled⟩ := @unchanged_of_not_selects arrival.memory subscribers index
      arrival.numbytes self found plain unselected arrival.now
    exact ⟨same, if_neg uncalled⟩
  · rw [receive, heardAt, value_parseGooseMessage_of_not goose]
    exact ⟨found, rfl⟩

theorem length_receive (subscribers : List GooseSubscriber) (arrival : Arrival) :
    (receive subscribers arrival).length = subscribers.length := by
  have same := congrArg List.length (selectAlike_receive subscribers arrival [])
  rw [List.length_map, List.length_map] at same
  exact same.symm

/-- A subscriber that is not shadowed is followed by a receiver of its own. -/
theorem follows_alone (index : Nat) (reference : List UInt8) :
    Tracks (heardAt index) (heardAt 0)
      (fun subscribers others => ∃ self, Unshadowed subscribers index self ∧
        others = [self] ∧ self.goCBRef.val = reference)
      (refersTo reference) (RefersOnlyTo reference) where
  follows := by
    rintro subscribers _ arrival ⟨self, unshadowed, rfl, rfl⟩ only refers
    have alone := Unshadowed.alone unshadowed.plain
    have selects : ∀ element ∈ (frameElements arrival.memory).elements,
        element.pduTag = some .gocbRef →
        selected arrival.memory element subscribers = some index ∧
          selected arrival.memory element [self] = some 0 := by
      intro element member kind
      have content := only refers element member kind
      exact ⟨(unshadowed.selected element).mpr content, (alone.selected element).mpr content⟩
    obtain ⟨after, found, plain, reference⟩ :=
      plain_receive unshadowed.found unshadowed.plain arrival
    have delivered : Matches subscribers index arrival ↔ Matches [self] 0 arrival :=
      deliveredTo_alike selects
    have same : (receive [self] arrival)[0]? = (receive subscribers arrival)[index]? := by
      rw [getElem?_receive, getElem?_receive, unshadowed.found, List.getElem?_cons_zero,
        Option.map_some, Option.map_some, parsed_alike unshadowed.plain.unobserving selects]
      by_cases here : Matches [self] 0 arrival
      · rw [if_pos here, if_pos (delivered.mpr here)]
      · rw [if_neg here, if_neg (mt delivered.mp here)]
    refine ⟨⟨after, unshadowed.congr (selectAlike_receive _ _) found plain reference, ?_,
      congrArg _ reference⟩, ?_⟩
    · apply List.ext_getElem?
      intro position
      cases position with
      | zero => exact same.trans found
      | succ position =>
          exact List.getElem?_eq_none (by
            change (receive [self] arrival).length ≤ position + 1
            rw [length_receive]
            exact Nat.le_add_left _ _)
    · rw [snd_heardAt, snd_heardAt, same]
      simp only [deliveredTo_alike selects]
  stays := by
    rintro subscribers _ arrival ⟨self, unshadowed, rfl, rfl⟩ _ other
    obtain ⟨same, silent⟩ := unchanged_of_not_refersTo unshadowed.found
      unshadowed.plain.unobserving (fun element => (unshadowed.selected element).mp) other
    exact ⟨⟨self, unshadowed.congr (selectAlike_receive _ _) same unshadowed.plain rfl, rfl, rfl⟩,
      silent⟩

/-- A subscriber that another one in front of it is taken for stays as it is. -/
theorem stays_shadowed (found : subscribers[index]? = some self) (plain : self.Plain)
    (shadowed : ¬ Unshadowed subscribers index self) (arrivals : List Arrival) :
    (collect (heardAt index) subscribers arrivals).1[index]? = some self ∧
      (collect (heardAt index) subscribers arrivals).2 = [] := by
  obtain ⟨earlier, less, other, there, shadows⟩ : ∃ earlier < index, ∃ other,
      subscribers[earlier]? = some other ∧ other.selects self.goCBRef.val := by
    by_contra none
    exact shadowed ⟨found, plain, fun earlier less other there shadows =>
      none ⟨earlier, less, other, there, shadows⟩⟩
  have unselected : ∀ {list : List GooseSubscriber}, SelectAlike subscribers list →
      list[index]? = some self → ∀ (memory : Memory) (elements : List Element),
        ¬ Selects memory list index elements := by
    rintro list alike here memory elements ⟨element, _, _, selects⟩
    obtain ⟨inside, selectsHere, before⟩ := List.findIdx?_eq_some_iff_getElem.mp selects
    obtain ⟨_, at_⟩ := List.getElem?_eq_some_iff.mp here
    rw [at_] at selectsHere
    have content := (selects_iff_of_plain plain _).mp selectsHere
    have same := congrArg (fun list : List Bool => list[earlier]?) (alike self.goCBRef.val)
    simp only [List.getElem?_map, there, Option.map_some] at same
    obtain ⟨twin, foundTwin, selectsTwin⟩ := Option.map_eq_some_iff.mp same.symm
    obtain ⟨_, atTwin⟩ := List.getElem?_eq_some_iff.mp foundTwin
    have skipped := before earlier less
    rw [atTwin, content, selectsTwin] at skipped
    exact skipped shadows
  refine And.imp_left And.right (@collect_silent _ _ _ (heardAt index)
    (fun list => SelectAlike subscribers list ∧ list[index]? = some self) ?_ subscribers
    ⟨fun _ => rfl, found⟩ arrivals)
  rintro list arrival ⟨alike, here⟩
  obtain ⟨same, uncalled⟩ := @unchanged_of_not_selects arrival.memory list index
    arrival.numbytes self here plain.unobserving (unselected alike here _ _) arrival.now
  exact ⟨⟨fun octets => (alike octets).trans (selectAlike_receive list arrival octets), same⟩,
    if_neg uncalled⟩

end Steps

/-- A frame with the given reference and state number. -/
def referringFrame (destination : Octets 6) (appId : UInt16) (reference : StringField)
    (stNum : UInt32) : List UInt8 :=
  taggedFrame destination Octets.zero Octets.zero appId
    [(0x80, reference.val), (0x85, BerEncoder.encodeUInt32 stNum)] ++ List.replicate 22 0

/-- A frame for a reference arrives. -/
def arrivalFor (reference : StringField) (stNum : UInt32) : Arrival :=
  let packet := (referringFrame Octets.zero 0 reference stNum).drop 14
  ⟨Memory.ofOctets packet fun _ => 0, packet.length, 0⟩

end GridGooseSV
