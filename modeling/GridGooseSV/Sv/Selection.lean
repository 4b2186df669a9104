import GridGooseSV.Sv.Handover

/-!
# Which subscriber is selected

The receiver goes through its subscribers and takes the first one that matches. What it
compares with the address of a subscriber are the first six octets of what it was given.
-/

namespace GridGooseSV

namespace SVReceiver

/-- The first subscriber that a destination and an APPID are for. -/
def due (self : SVReceiver) (destination : List UInt8) (appId : UInt16) : Option Nat :=
  self.subscriberList.findIdx? fun subscriber => subscriber.appId = appId ∧
    (self.checkDestAddr = true → subscriber.ethAddr.val = destination)

/-- A subscriber has a listener. -/
def listens (self : SVReceiver) (index : Nat) : Bool :=
  (self.subscriberList[index]?.map SVSubscriber.listener).getD false

/-- The subscriber whose listener a destination and an APPID are for. -/
def heard (self : SVReceiver) (destination : List UInt8) (appId : UInt16) : Option Nat :=
  (self.due destination appId).filter fun index => self.listens index

/-- Without the check the destination does not matter. -/
theorem heard_unchecked {self : SVReceiver} (unchecked : self.checkDestAddr = false)
    (first second : List UInt8) (appId : UInt16) :
    self.heard first appId = self.heard second appId := by
  simp only [heard, due, unchecked, Bool.false_eq_true, false_implies]

end SVReceiver

theorem value_findSubscriber_cons (checkDestAddr : Bool) (memory : Memory) (appId : UInt16)
    (subscriber : SVSubscriber) (rest : List SVSubscriber) :
    (findSubscriber checkDestAddr memory appId (subscriber :: rest)).value =
      if subscriber.appId = appId ∧
          (checkDestAddr = true → subscriber.ethAddr.val = memory.octets 0 6) then
        some (0, subscriber)
      else (findSubscriber checkDestAddr memory appId rest).value.map
        fun (index, subscriber) => (index + 1, subscriber) := by
  simp only [findSubscriber, ↓Memory.value_bind_readOctets, Traced.value_ite, Traced.value_bind,
    Traced.value_pure]
  by_cases same : subscriber.appId = appId
  · cases checkDestAddr with
    | false => simp [same]
    | true => simp [same, eq_comm]
  · simp [same]

/-- The search gives the first subscriber that the first six octets and the APPID are for. -/
theorem findSubscriber_spec (checkDestAddr : Bool) (memory : Memory) (appId : UInt16)
    (list : List SVSubscriber) :
    let found := (findSubscriber checkDestAddr memory appId list).value
    (⟨checkDestAddr, list⟩ : SVReceiver).due (memory.octets 0 6) appId = found.map Prod.fst ∧
      ∀ index subscriber, found = some (index, subscriber) → list[index]? = some subscriber := by
  induction list with
  | nil => exact ⟨rfl, fun index subscriber found => by contradiction⟩
  | cons first rest ih =>
      obtain ⟨due, there⟩ := ih
      simp only [SVReceiver.due, value_findSubscriber_cons, List.findIdx?_cons] at due ⊢
      by_cases matching : first.appId = appId ∧
          (checkDestAddr = true → first.ethAddr.val = memory.octets 0 6)
      · rw [if_pos matching, if_pos (decide_eq_true matching)]
        refine ⟨rfl, fun index subscriber found => ?_⟩
        obtain ⟨rfl, rfl⟩ := Prod.mk.inj (Option.some.inj found)
        rfl
      · rw [if_neg matching, if_neg (by simpa using matching), due]
        refine ⟨by rw [Option.map_map, Option.map_map]; rfl, fun index subscriber found => ?_⟩
        obtain ⟨⟨place, other⟩, later, same⟩ := Option.map_eq_some_iff.mp found
        obtain ⟨rfl, rfl⟩ := Prod.mk.inj same
        exact there place other later

/-- The listener that the search leads to. -/
theorem heard_octets (self : SVReceiver) (memory : Memory) (appId : UInt16) :
    self.heard (memory.octets 0 6) appId =
      (findSubscriber self.checkDestAddr memory appId self.subscriberList).value.bind
        fun found => if found.2.listener then some found.1 else none := by
  obtain ⟨due, there⟩ := findSubscriber_spec self.checkDestAddr memory appId self.subscriberList
  rw [SVReceiver.heard, due]
  cases found : (findSubscriber self.checkDestAddr memory appId self.subscriberList).value with
  | none => rfl
  | some result =>
      have present := there result.1 result.2 found
      rw [Option.map_some, Option.bind_some, Option.filter_some, SVReceiver.listens, present]
      rfl

end GridGooseSV
