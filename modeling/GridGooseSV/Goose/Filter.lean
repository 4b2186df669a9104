import GridGooseSV.Goose.Header

/-!
# Filters

A frame changes or notifies only subscribers that one of its references selects: the
last one, if it is delivered, or one that strings follow. The addresses of a subscriber
have no part in that.
-/

namespace GridGooseSV

section Selecting

variable {memory : Memory} {subscribers : List GooseSubscriber} {index : Nat}

/-- A reference among the elements selects the subscriber. -/
def Selects (memory : Memory) (subscribers : List GooseSubscriber) (index : Nat)
    (elements : List Element) : Prop :=
  ∃ element ∈ elements, element.pduTag = some .gocbRef ∧
    selected memory element subscribers = some index

theorem matchAfter_eq_some {element : Element} {matching : Option Nat}
    (matched : matchAfter memory subscribers element matching = some index) :
    matching = some index ∨ (element.pduTag = some .gocbRef ∧
      selected memory element subscribers = some index) := by
  unfold matchAfter at matched
  split at matched
  · rename_i kind
    cases search : selected memory element subscribers with
    | none => exact .inl (by simpa [search] using matched)
    | some position => exact .inr ⟨kind, by simpa [search] using matched⟩
  · exact .inl matched

/-- The references among elements. -/
def referring (elements : List Element) : List Element :=
  elements.filter fun element => decide (element.pduTag = some .gocbRef)

/-- The first reference selects a subscriber, and the last one that does selects the
subscriber at the index. -/
structure SelectsLast (memory : Memory) (subscribers : List GooseSubscriber)
    (elements : List Element) (index : Nat) : Prop where
  first : ∀ element ∈ (referring elements).head?, (selected memory element subscribers).isSome
  last : ((referring elements).filterMap (selected memory · subscribers)).getLast? = some index

theorem getLast?_selected_cons {element : Element} {rest : List Element} {position : Nat}
    (search : selected memory element subscribers = some position) :
    ((element :: rest).filterMap (selected memory · subscribers)).getLast? =
      (rest.filterMap (selected memory · subscribers)).getLast?.or (some position) := by
  simp only [List.filterMap_cons, search, List.getLast?_cons]
  cases (rest.filterMap (selected memory · subscribers)).getLast? <;> rfl

/-- Once a subscriber is matched all elements are read. -/
theorem matchAll_some (elements : List Element) (position : Nat) :
    matchAll memory subscribers elements (some position) =
      (((referring elements).filterMap (selected memory · subscribers)).getLast?.or
        (some position), true) := by
  induction elements generalizing position with
  | nil => rfl
  | cons element rest ih =>
      by_cases refers : element.pduTag = some .gocbRef
      · rw [referring, List.filter_cons_of_pos (by simpa using refers), ← referring]
        cases search : selected memory element subscribers with
        | none => simp [matchAll, matchAfter, goesOn, refers, search, ih]
        | some index =>
            rw [getLast?_selected_cons search]
            simp [matchAll, matchAfter, goesOn, refers, search, ih]
      · rw [referring, List.filter_cons_of_neg (by simpa using refers), ← referring]
        simp [matchAll, matchAfter, goesOn, refers, ih]

/-- The first reference decides whether the elements are read. -/
theorem matchAll_none (elements : List Element) :
    matchAll memory subscribers elements none =
      match referring elements with
      | [] => (none, true)
      | element :: rest =>
        match selected memory element subscribers with
        | none => (none, false)
        | some index =>
          ((rest.filterMap (selected memory · subscribers)).getLast?.or (some index), true) := by
  induction elements with
  | nil => rfl
  | cons element rest ih =>
      by_cases refers : element.pduTag = some .gocbRef
      · rw [referring, List.filter_cons_of_pos (by simpa using refers), ← referring]
        cases search : selected memory element subscribers with
        | none => simp [matchAll, matchAfter, goesOn, refers, search]
        | some index => simp [matchAll, matchAfter, goesOn, refers, search, matchAll_some]
      · rw [referring, List.filter_cons_of_neg (by simpa using refers), ← referring, ← ih]
        simp [matchAll, matchAfter, goesOn, refers]

/-- All elements are read and a subscriber is matched in the end exactly if the
references select it last. -/
theorem matchAll_eq_iff (elements : List Element) :
    matchAll memory subscribers elements none = (some index, true) ↔
      SelectsLast memory subscribers elements index := by
  rw [matchAll_none]
  constructor
  · intro matched
    cases refers : referring elements with
    | nil => simp [refers] at matched
    | cons element rest =>
        cases search : selected memory element subscribers with
        | none => simp [refers, search] at matched
        | some position =>
            simp only [refers, search, Prod.mk.injEq, and_true] at matched
            exact ⟨by simp [refers, search], by rw [refers, getLast?_selected_cons search, matched]⟩
  · rintro ⟨first, last⟩
    cases refers : referring elements with
    | nil => simp [refers] at last
    | cons element rest =>
        obtain ⟨position, search⟩ := Option.isSome_iff_exists.mp (first element (by simp [refers]))
        rw [refers, getLast?_selected_cons search] at last
        simp only [search, last]

/-- A frame is delivered to the subscriber that its references select last. -/
theorem deliveredTo_eq_iff {numbytes : Nat} :
    deliveredTo memory numbytes subscribers = some index ↔
      IsGooseFrame memory numbytes ∧ (frameElements memory).complete ∧
        SelectsLast memory subscribers (frameElements memory).elements index := by
  rw [← matchAll_eq_iff]
  constructor
  · exact read_of_deliveredTo
  · rintro ⟨goose, complete, matched⟩
    rw [deliveredTo, if_pos goose, target, matched, complete]
    rfl

/-- Whoever is matched once an element is read was matched before or is selected. -/
theorem selects_cons {element : Element} {rest : List Element} {matching : Option Nat}
    (later : matchAfter memory subscribers element matching = some index ∨
      Selects memory subscribers index rest) :
    matching = some index ∨ Selects memory subscribers index (element :: rest) := by
  rcases later with matched | ⟨other, member, selects⟩
  · rcases matchAfter_eq_some matched with before | selects
    · exact .inl before
    · exact .inr ⟨element, List.mem_cons_self, selects⟩
  · exact .inr ⟨other, List.mem_cons_of_mem _ member, selects⟩

/-- Matching starts with a reference that selects. -/
theorem selects_of_matchAll {elements : List Element} {matching : Option Nat}
    (matched : (matchAll memory subscribers elements matching).1 = some index) :
    matching = some index ∨ Selects memory subscribers index elements := by
  induction elements generalizing matching with
  | nil => exact .inl matched
  | cons element rest ih =>
      apply selects_cons
      rw [matchAll] at matched
      split at matched
      · exact ih matched
      · exact .inl matched

/-- Strings are handed over after a reference that selects. -/
theorem selects_of_handed {tag : PduTag} {elements : List Element} {matching : Option Nat}
    (given : (handed memory subscribers tag index elements matching).isSome) :
    matching = some index ∨ Selects memory subscribers index elements := by
  induction elements generalizing matching with
  | nil => simp [handed] at given
  | cons element rest ih =>
      apply selects_cons
      rw [handed] at given
      split at given
      · cases later : handed memory subscribers tag index rest
          (matchAfter memory subscribers element matching) with
        | none =>
            rw [later] at given
            exact .inl (handedBy_isSome.mp given).2.2
        | some field => exact ih (by rw [later]; rfl)
      · exact .inl (handedBy_isSome.mp given).2.2

/-- A subscriber that is no observer and that no reference selects stays as it is. -/
theorem unchanged_of_not_selects {numbytes : Nat} {self : GooseSubscriber}
    (found : subscribers[index]? = some self) (plain : ¬ self.isObserver)
    (other : ¬ Selects memory subscribers index (frameElements memory).elements)
    (now : UInt64) :
    afterFrame subscribers memory numbytes now index = some self ∧
      index ∉ (parseGooseMessage subscribers memory numbytes now).value.calls := by
  obtain ⟨_, state, calls⟩ := received_parseGooseMessage subscribers memory numbytes now
  have elsewhere : deliveredTo memory numbytes subscribers ≠ some index := by
    intro delivered
    have all := (read_of_deliveredTo delivered).2.2
    rcases selects_of_matchAll (congrArg Prod.fst all) with before | selects
    · contradiction
    · exact other selects
  have nothing : ∀ tag, handed memory subscribers tag index (frameElements memory).elements none =
      none := by
    intro tag
    rw [← Option.not_isSome_iff_eq_none]
    intro given
    rcases selects_of_handed given with before | selects
    · contradiction
    · exact other selects
  refine ⟨?_, fun called => elsewhere (eq_some_of_mem_notified (calls ▸ called))⟩
  have addresses : self.withAddresses memory = self := if_neg plain
  rw [afterFrame, state, found, Option.map_some, if_neg elsewhere, parsed]
  simp only [addresses, ite_self, readBy, nothing, GooseSubscriber.withStrings_none]

end Selecting

/-! ## Plain subscribers -/

/-- No subscriber in front of it has the same reference. -/
def FirstWithReference (subscribers : List GooseSubscriber) (index : Nat)
    (self : GooseSubscriber) : Prop :=
  ∀ earlier < index, ∀ other, subscribers[earlier]? = some other → other.goCBRef ≠ self.goCBRef

/-- A reference selects the first plain subscriber that has it. -/
theorem selected_iff_of_plain {memory : Memory} {element : Element}
    {subscribers : List GooseSubscriber} (plain : ∀ subscriber ∈ subscribers, subscriber.Plain)
    {index : Nat} {self : GooseSubscriber} (found : subscribers[index]? = some self) :
    selected memory element subscribers = some index ↔
      element.content memory = self.goCBRef.val ∧ FirstWithReference subscribers index self := by
  obtain ⟨bound, here⟩ := List.getElem?_eq_some_iff.mp found
  have selects : ∀ (position : Nat) (subscriber : GooseSubscriber),
      subscribers[position]? = some subscriber →
      (subscriber.selects (element.content memory) ↔
        element.content memory = subscriber.goCBRef.val) :=
    fun position subscriber found => selects_iff_of_plain
      (plain subscriber (List.mem_of_getElem? found)) _
  rw [selected, List.findIdx?_eq_some_iff_getElem]
  constructor
  · rintro ⟨_, selectsHere, before⟩
    rw [here] at selectsHere
    have content := (selects index self found).mp selectsHere
    refine ⟨content, fun earlier less other foundOther same => ?_⟩
    obtain ⟨inside, there⟩ := List.getElem?_eq_some_iff.mp foundOther
    have skipped := before earlier less
    rw [there] at skipped
    exact skipped ((selects earlier other foundOther).mpr (content.trans (congrArg _ same.symm)))
  · rintro ⟨content, first⟩
    refine ⟨bound, by rw [here]; exact (selects index self found).mpr content, ?_⟩
    intro earlier less
    have inside : earlier < subscribers.length := by omega
    have foundOther := List.getElem?_eq_getElem inside
    intro selectsOther
    have contentOther := (selects earlier _ foundOther).mp selectsOther
    exact first earlier less _ foundOther (Subtype.ext (contentOther.symm.trans content))

/-! ## Filters and frames -/

/-- The APPID and the destination that a frame was sent with are of interest. -/
def GooseSubscriber.AcceptsSent (self : GooseSubscriber) (frame : List UInt8) : Prop :=
  ∀ destination : Octets 6, frame.take 6 = destination.val →
    self.accepts (sentAppId frame) destination

/-- What the receive buffer holds once a frame has arrived: the frame without the 14
octets that the sender drops, and what was there behind it. -/
def arrived (frame : List UInt8) (stale : Memory) : Memory := Memory.ofOctets (frame.drop 14) stale

/-- The filters are honoured for a frame: whenever it arrives, it notifies and changes only
subscribers that it refers to and that its addresses are of interest to. -/
def FiltersHonoured (subscribers : List GooseSubscriber) (frame : List UInt8) (stale : Memory) :
    Prop :=
  ∀ (now : UInt64) (index : Nat) (self : GooseSubscriber), subscribers[index]? = some self →
    (index ∈ (parseGooseMessage subscribers (arrived frame stale) (frame.length - 14)
        now).value.calls ∨
      afterFrame subscribers (arrived frame stale) (frame.length - 14) now index ≠ some self) →
    (∃ element ∈ (frameElements (arrived frame stale)).elements,
      element.pduTag = some .gocbRef ∧
        element.content (arrived frame stale) = self.goCBRef.val) ∧
      self.AcceptsSent frame

/-- A frame reaches a subscriber: it can be read to its end and its references select the
subscriber last, or it brings another string after a reference to the subscriber. -/
def Reaches (memory : Memory) (numbytes : Nat) (subscribers : List GooseSubscriber)
    (index : Nat) (self : GooseSubscriber) : Prop :=
  IsGooseFrame memory numbytes ∧
    (((frameElements memory).complete ∧
        SelectsLast memory subscribers (frameElements memory).elements index) ∨
      (∃ field ∈ handed memory subscribers .datSet index (frameElements memory).elements none,
        field ≠ self.datSet) ∨
      ∃ field ∈ handed memory subscribers .goId index (frameElements memory).elements none,
        field ≠ self.goId)

section Reaching

variable {memory : Memory} {numbytes : Nat} {subscribers : List GooseSubscriber} {index : Nat}
variable {self : GooseSubscriber}

theorem getD_eq_iff {given : Option StringField} {field : StringField} :
    given.getD field = field ↔ ∀ other ∈ given, other = field := by
  cases given with
  | none => simp
  | some other => simp

/-- Parsing leaves a subscriber that is no observer as it is exactly if no other string is
handed to it. -/
theorem parsed_eq_self_iff (plain : ¬ self.isObserver) :
    parsed memory numbytes subscribers index self = self ↔
      (IsGooseFrame memory numbytes →
        (∀ field ∈ handed memory subscribers .datSet index (frameElements memory).elements none,
          field = self.datSet) ∧
        ∀ field ∈ handed memory subscribers .goId index (frameElements memory).elements none,
          field = self.goId) := by
  by_cases goose : IsGooseFrame memory numbytes
  · have addresses : self.withAddresses memory = self := if_neg plain
    rw [parsed, if_pos goose, addresses, ite_self, readBy, ← getD_eq_iff, ← getD_eq_iff]
    simp only [goose, true_imp_iff]
    constructor
    · intro same
      exact ⟨congrArg GooseSubscriber.datSet same, congrArg GooseSubscriber.goId same⟩
    · rintro ⟨datSet, goId⟩
      rw [GooseSubscriber.withStrings, if_neg plain, datSet, goId]
  · simp [parsed, goose]

/-- A frame that is delivered changes the time of invalidity, at one time or another. -/
theorem changes_of_deliveredTo (found : subscribers[index]? = some self)
    (delivered : deliveredTo memory numbytes subscribers = some index) :
    ∃ now : UInt64, afterFrame subscribers memory numbytes now index ≠ some self := by
  refine ⟨self.invalidityTime + 1 - (framePdu memory).timeAllowedToLive.toUInt64, fun same => ?_⟩
  rw [afterFrame, (received_parseGooseMessage subscribers memory numbytes _).state, found,
    Option.map_some, if_pos delivered, GooseSubscriber.value_deliver, Option.some.injEq] at same
  have moved := congrArg GooseSubscriber.invalidityTime same
  simp only [UInt64.sub_add_cancel] at moved
  exact absurd moved (by simp)

/-- A subscriber that is no observer is notified or changed, at one time or another,
exactly if the frame reaches it. -/
theorem touched_iff_reaches (found : subscribers[index]? = some self)
    (plain : ¬ self.isObserver) :
    (∃ now : UInt64, index ∈ (parseGooseMessage subscribers memory numbytes now).value.calls ∨
        afterFrame subscribers memory numbytes now index ≠ some self) ↔
      Reaches memory numbytes subscribers index self := by
  constructor
  · rintro ⟨now, touched⟩
    obtain ⟨_, state, calls⟩ := received_parseGooseMessage subscribers memory numbytes now
    by_cases delivered : deliveredTo memory numbytes subscribers = some index
    · obtain ⟨goose, selects⟩ := deliveredTo_eq_iff.mp delivered
      exact ⟨goose, .inl selects⟩
    · have changed : parsed memory numbytes subscribers index self ≠ self := by
        rcases touched with called | changed
        · exact absurd (eq_some_of_mem_notified (calls ▸ called)) delivered
        · simpa [afterFrame, state, found, delivered] using changed
      rw [ne_eq, parsed_eq_self_iff plain] at changed
      push Not at changed
      obtain ⟨goose, another⟩ := changed
      refine ⟨goose, .inr ?_⟩
      by_cases same : ∀ field ∈ handed memory subscribers .datSet index
          (frameElements memory).elements none, field = self.datSet
      · exact .inr (another same)
      · push Not at same
        exact .inl same
  · rintro ⟨goose, reaches⟩
    by_cases delivered : deliveredTo memory numbytes subscribers = some index
    · obtain ⟨now, changed⟩ := changes_of_deliveredTo found delivered
      exact ⟨now, .inr changed⟩
    · refine ⟨0, .inr ?_⟩
      rw [afterFrame, (received_parseGooseMessage subscribers memory numbytes 0).state, found,
        Option.map_some, if_neg delivered, ne_eq, Option.some.injEq, parsed_eq_self_iff plain]
      intro known
      obtain ⟨datSet, goId⟩ := known goose
      rcases reaches with selects | ⟨field, given, other⟩ | ⟨field, given, other⟩
      · exact delivered (deliveredTo_eq_iff.mpr ⟨goose, selects⟩)
      · exact other (datSet field given)
      · exact other (goId field given)

end Reaching

/-- The filters of plain subscribers are honoured for a frame exactly if each subscriber
that the frame reaches accepts its addresses. -/
theorem filters_honoured_iff {subscribers : List GooseSubscriber}
    (plain : ∀ subscriber ∈ subscribers, subscriber.Plain) (frame : List UInt8)
    (stale : Memory) :
    FiltersHonoured subscribers frame stale ↔
      ∀ index self, subscribers[index]? = some self →
        Reaches (arrived frame stale) (frame.length - 14) subscribers index self →
        self.AcceptsSent frame := by
  have unobserving : ∀ {index : Nat} {self : GooseSubscriber},
      subscribers[index]? = some self → ¬ self.isObserver :=
    fun found => (plain _ (List.mem_of_getElem? found)).unobserving
  constructor
  · intro honoured index self found reaches
    obtain ⟨now, touched⟩ := (touched_iff_reaches found (unobserving found)).mpr reaches
    exact (honoured now index self found touched).2
  · intro accepting now index self found touched
    have reaches := (touched_iff_reaches found (unobserving found)).mp ⟨now, touched⟩
    refine ⟨?_, accepting index self found reaches⟩
    by_cases selects : Selects (arrived frame stale) subscribers index
      (frameElements (arrived frame stale)).elements
    · obtain ⟨element, member, kind, search⟩ := selects
      exact ⟨element, member, kind, ((selected_iff_of_plain plain found).mp search).1⟩
    · obtain ⟨same, uncalled⟩ := @unchanged_of_not_selects (arrived frame stale) subscribers index
        (frame.length - 14) self found (unobserving found) selects now
      exact absurd touched (not_or.mpr ⟨uncalled, not_not.mpr same⟩)

/-- A frame for the second of two subscribers with different addresses. -/
theorem filters_honoured_for_second :
    FiltersHonoured
      [(GooseSubscriber.create ⟨[0x41], by decide⟩ none).setAppId 1,
        (GooseSubscriber.create ⟨[0x42], by decide⟩ none).setAppId 2]
      (taggedFrame Octets.zero Octets.zero Octets.zero 2
        [(0x80, [0x42]), (0x82, [0x44]), (0x85, [0x00, 0x00, 0x01])]) (fun _ => 0) := by
  refine (filters_honoured_iff ?_ _ _).mpr ?_
  · intro subscriber member
    rcases List.mem_pair.mp member with rfl | rfl
    · exact ⟨by decide, by decide⟩
    · exact ⟨by decide, by decide⟩
  · rintro (_ | _ | _) self found ⟨_, reaches⟩
    · rcases reaches with ⟨_, selects⟩ | ⟨_, given, _⟩ | ⟨_, given, _⟩
      · exact absurd selects.last (by decide +kernel)
      · exact absurd (Option.isSome_of_mem given) (by decide +kernel)
      · exact absurd (Option.isSome_of_mem given) (by decide +kernel)
    · cases found
      exact fun _ _ => Bool.and_eq_true_iff.mpr
        ⟨by decide +kernel, decide_eq_true (.inl (by decide))⟩
    · simp at found

/-- A frame with another APPID than the only subscriber's is delivered to it. -/
theorem filters_not_honoured :
    ¬ ∀ subscribers : List GooseSubscriber, (∀ subscriber ∈ subscribers, subscriber.Plain) →
      ∀ (frame : List UInt8) (stale : Memory), FiltersHonoured subscribers frame stale := by
  intro honoured
  let self := ((GooseSubscriber.create ⟨[0x41], by decide⟩ none).setAppId 1).setListener
  let frame := taggedFrame Octets.zero Octets.zero Octets.zero 2
    [(0x80, [0x41]), (0x85, [0x00, 0x00, 0x01])]
  have plain : ∀ subscriber ∈ [self], subscriber.Plain := by
    intro subscriber member
    rw [List.mem_singleton.mp member]
    exact ⟨by decide, by decide⟩
  have called : 0 ∈ (parseGooseMessage [self] (arrived frame fun _ => 0) (frame.length - 14)
      0).value.calls := by
    decide +kernel
  have accepted := (honoured [self] plain frame (fun _ => 0) 0 0 self rfl (.inl called)).2
    Octets.zero (by decide +kernel)
  exact absurd accepted (by decide +kernel)

end GridGooseSV
