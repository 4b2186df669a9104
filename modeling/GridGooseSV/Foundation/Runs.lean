import Mathlib.Data.Option.Basic
import Mathlib.Data.List.Basic

/-!
# Runs

A machine takes a state and an action to the next state and an output, or to nothing where the
action is not possible. A run is a sequence of actions. What every step keeps is kept by every
run; so is a relation between the state and the outputs so far.
-/

namespace GridGooseSV

variable {σ α ω : Type}

/-- The state after actions, and the outputs. -/
def runAll (step : σ → α → Option (σ × ω)) (state : σ) : List α → Option (σ × List ω)
  | [] => some (state, [])
  | action :: rest => do
    let (next, output) ← step state action
    let (final, outputs) ← runAll step next rest
    pure (final, output :: outputs)

/-- Every output is as a property says, given the outputs before it. -/
def EachAfter (property : List ω → ω → Prop) (outputs : List ω) : Prop :=
  ∀ before output rest, outputs = before ++ output :: rest → property before output

theorem eachAfter_nil {property : List ω → ω → Prop} : EachAfter property [] :=
  fun _ _ _ split => by simp at split

/-- An output is the last one, or stands among those before it. -/
theorem split_of_concat {before rest outputs : List ω} {last output : ω}
    (split : outputs ++ [last] = before ++ output :: rest) :
    (rest = [] ∧ before = outputs ∧ output = last) ∨
      ∃ earlier, rest = earlier ++ [last] ∧ outputs = before ++ output :: earlier := by
  rcases List.eq_nil_or_concat rest with rfl | ⟨earlier, final, rfl⟩
  · obtain ⟨rfl, same⟩ := List.append_inj' split rfl
    exact .inl ⟨rfl, rfl, (List.singleton_inj.mp same).symm⟩
  · rw [List.concat_eq_append] at split ⊢
    rw [← List.cons_append, ← List.append_assoc] at split
    obtain ⟨rfl, same⟩ := List.append_inj' split rfl
    rw [List.singleton_inj.mp same]
    exact .inr ⟨earlier, rfl, rfl⟩

theorem EachAfter.concat {property : List ω → ω → Prop} {outputs : List ω} {output : ω}
    (each : EachAfter property outputs) (last : property outputs output) :
    EachAfter property (outputs ++ [output]) := by
  intro before other rest split
  rcases split_of_concat split with ⟨_, rfl, rfl⟩ | ⟨earlier, _, within⟩
  · exact last
  · exact each _ _ _ within

section Runs

variable {step : σ → α → Option (σ × ω)} {state final : σ} {actions : List α} {outputs : List ω}

theorem runAll_cons {action : α} :
    runAll step state (action :: actions) = some (final, outputs) ↔
      ∃ next output rest, step state action = some (next, output) ∧
        runAll step next actions = some (final, rest) ∧ outputs = output :: rest := by
  simp only [runAll, Option.bind_eq_bind, Option.pure_def, Option.bind_eq_some_iff,
    Option.some.injEq, Prod.mk.injEq]
  constructor
  · rintro ⟨⟨next, output⟩, stepped, ⟨_, rest⟩, run, rfl, rfl⟩
    exact ⟨next, output, rest, stepped, run, rfl⟩
  · rintro ⟨next, output, rest, stepped, run, rfl⟩
    exact ⟨(next, output), stepped, (final, rest), run, rfl, rfl⟩

/-- A run is a run followed by another. -/
theorem runAll_append {rest : List α} :
    runAll step state (actions ++ rest) = some (final, outputs) ↔
      ∃ middle before after, runAll step state actions = some (middle, before) ∧
        runAll step middle rest = some (final, after) ∧ outputs = before ++ after := by
  induction actions generalizing state outputs with
  | nil => simp [runAll]
  | cons action actions ih =>
      rw [List.cons_append, runAll_cons]
      constructor
      · rintro ⟨next, output, _, stepped, run, rfl⟩
        obtain ⟨middle, before, after, first, second, rfl⟩ := ih.mp run
        exact ⟨middle, output :: before, after,
          runAll_cons.mpr ⟨next, output, before, stepped, first, rfl⟩, second, rfl⟩
      · rintro ⟨middle, _, after, first, second, rfl⟩
        obtain ⟨next, output, before, stepped, run, rfl⟩ := runAll_cons.mp first
        exact ⟨next, output, before ++ after, stepped, ih.mpr ⟨middle, before, after, run, second,
          rfl⟩, rfl⟩

/-- What a step keeps of the state and of the outputs so far is kept by a run. -/
theorem runAll_history {holds : σ → List ω → Prop}
    (kept : ∀ state done action next output, holds state done →
      step state action = some (next, output) → holds next (done ++ [output]))
    {done : List ω} (initially : holds state done)
    (run : runAll step state actions = some (final, outputs)) : holds final (done ++ outputs) := by
  induction actions generalizing state done outputs with
  | nil =>
      obtain ⟨rfl, rfl⟩ := Prod.mk.inj (Option.some.inj run)
      rwa [List.append_nil]
  | cons action actions ih =>
      obtain ⟨next, output, rest, stepped, others, rfl⟩ := runAll_cons.mp run
      have further := ih (kept _ _ _ _ _ initially stepped) others
      rwa [List.append_assoc, List.singleton_append] at further

/-- Where every step with an admitted action is possible so is every run with such actions. -/
theorem runAll_total_of_admitted {holds : σ → List ω → Prop} {admitted : α → Prop}
    (goesOn : ∀ state done action, admitted action → holds state done → ∃ next output,
      step state action = some (next, output) ∧ holds next (done ++ [output]))
    {done : List ω} (initially : holds state done) {actions : List α}
    (all : ∀ action ∈ actions, admitted action) :
    ∃ final outputs, runAll step state actions = some (final, outputs) ∧
      holds final (done ++ outputs) := by
  induction actions generalizing state done with
  | nil => exact ⟨state, [], rfl, by rwa [List.append_nil]⟩
  | cons action rest ih =>
      obtain ⟨first, others⟩ := List.forall_mem_cons.mp all
      obtain ⟨next, output, stepped, later⟩ := goesOn _ _ action first initially
      obtain ⟨final, outputs, run, kept⟩ := ih later others
      rw [List.append_assoc, List.singleton_append] at kept
      exact ⟨final, output :: outputs, runAll_cons.mpr ⟨next, output, outputs, stepped, run, rfl⟩,
        kept⟩

/-- Where every step is possible so is every run, and it keeps what the steps keep. -/
theorem runAll_total {holds : σ → List ω → Prop}
    (goesOn : ∀ state done action, holds state done → ∃ next output,
      step state action = some (next, output) ∧ holds next (done ++ [output]))
    {done : List ω} (initially : holds state done) (actions : List α) :
    ∃ final outputs, runAll step state actions = some (final, outputs) ∧
      holds final (done ++ outputs) :=
  runAll_total_of_admitted (fun state done action (_ : True) => goesOn state done action) initially
    fun _ _ => trivial

/-- What a step keeps is kept by a run. -/
theorem runAll_invariant {holds : σ → Prop}
    (kept : ∀ state action next output, holds state →
      step state action = some (next, output) → holds next)
    (initially : holds state) (run : runAll step state actions = some (final, outputs)) :
    holds final :=
  @runAll_history _ _ _ step state final actions outputs (fun state _ => holds state)
    (fun _ _ _ _ _ before stepped => kept _ _ _ _ before stepped) [] initially run

/-- Where a step is possible exactly if what was done so far bears it, a run is possible exactly if
that is so at every action. -/
theorem runAll_ne_none_iff {holds : σ → List α → Prop} {bears : List α → α → Prop}
    (goesOn : ∀ state done action, holds state done → bears done action →
      ∃ next output, step state action = some (next, output) ∧ holds next (done ++ [action]))
    (refused : ∀ state done action, holds state done → ¬ bears done action →
      step state action = none)
    {done : List α} (initially : holds state done) (actions : List α) :
    runAll step state actions ≠ none ↔ ∀ before action rest, actions = before ++ action :: rest →
      bears (done ++ before) action := by
  induction actions generalizing state done with
  | nil => simp [runAll]
  | cons first others ih =>
      by_cases borne : bears done first
      · obtain ⟨next, output, stepped, kept⟩ := goesOn state done first initially borne
        have run : runAll step state (first :: others) ≠ none ↔ runAll step next others ≠ none := by
          simp only [Option.ne_none_iff_exists', Prod.exists, runAll_cons, stepped,
            Option.some.injEq, Prod.mk.injEq]
          constructor
          · rintro ⟨final, _, _, _, rest, ⟨rfl, rfl⟩, run, _⟩
            exact ⟨final, rest, run⟩
          · rintro ⟨final, rest, run⟩
            exact ⟨final, _, next, output, rest, ⟨rfl, rfl⟩, run, rfl⟩
        rw [run, ih kept]
        constructor
        · intro each before action rest split
          cases before with
          | nil =>
              obtain ⟨rfl, _⟩ := List.cons.inj split
              rwa [List.append_nil]
          | cons head before =>
              obtain ⟨rfl, within⟩ := List.cons.inj split
              have later := each before action rest within
              rwa [List.append_assoc, List.singleton_append] at later
        · intro each before action rest split
          rw [List.append_assoc, List.singleton_append]
          exact each (first :: before) action rest (congrArg (first :: ·) split)
      · have stuck : runAll step state (first :: others) = none := by
          rw [runAll, refused state done first initially borne]
          rfl
        refine iff_of_false (not_not_intro stuck) fun each => borne ?_
        have now := each [] first others rfl
        rwa [List.append_nil] at now

end Runs

end GridGooseSV
