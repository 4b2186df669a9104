import Mathlib.Data.Option.Basic
import Mathlib.Data.List.Basic

/-!
# Simulation

A machine takes every input to a next state and to outputs. A second machine that is given only
some of the inputs follows the first one if the inputs it is not given change nothing that the
two states have in common, and lead to no output. Two machines that may refuse an input agree if
they refuse the same ones and answer the others alike.
-/

namespace GridGooseSV

variable {σ τ α ω : Type}

/-- The state after inputs, and all that was put out. -/
def collect (step : σ → α → σ × List ω) (state : σ) : List α → σ × List ω
  | [] => (state, [])
  | input :: rest =>
    let next := step state input
    let final := collect step next.1 rest
    (final.1, next.2 ++ final.2)

/-- A machine in a state that no input changes puts nothing out. -/
theorem collect_silent {step : σ → α → σ × List ω} {holds : σ → Prop}
    (kept : ∀ state input, holds state → holds (step state input).1 ∧ (step state input).2 = [])
    {state : σ} (initially : holds state) (inputs : List α) :
    holds (collect step state inputs).1 ∧ (collect step state inputs).2 = [] := by
  induction inputs generalizing state with
  | nil => exact ⟨initially, rfl⟩
  | cons input rest ih =>
      obtain ⟨next, silent⟩ := kept state input initially
      obtain ⟨final, later⟩ := ih next
      refine ⟨final, ?_⟩
      rw [collect, silent, later]
      rfl

/-- One machine tracks another on the inputs that concern it. -/
structure Tracks (step : σ → α → σ × List ω) (own : τ → α → τ × List ω)
    (related : σ → τ → Prop) (concerns : α → Bool) (admitted : α → Prop) : Prop where
  follows : ∀ {state other input}, related state other → admitted input → concerns input = true →
    related (step state input).1 (own other input).1 ∧ (step state input).2 = (own other input).2
  stays : ∀ {state other input}, related state other → admitted input → concerns input = false →
    related (step state input).1 other ∧ (step state input).2 = []

/-- A machine that is given only what concerns it puts out the same. -/
theorem Tracks.run {step : σ → α → σ × List ω} {own : τ → α → τ × List ω}
    {related : σ → τ → Prop} {concerns : α → Bool} {admitted : α → Prop}
    (follows : Tracks step own related concerns admitted) {state : σ} {other : τ}
    (initially : related state other) {inputs : List α}
    (all : ∀ input ∈ inputs, admitted input) :
    related (collect step state inputs).1 (collect own other (inputs.filter concerns)).1 ∧
      (collect step state inputs).2 =
        (collect own other (inputs.filter concerns)).2 := by
  induction inputs generalizing state other with
  | nil => exact ⟨initially, rfl⟩
  | cons input rest ih =>
      obtain ⟨first, others⟩ := List.forall_mem_cons.mp all
      cases concerned : concerns input with
      | true =>
          obtain ⟨next, same⟩ := follows.follows initially first concerned
          obtain ⟨final, later⟩ := ih next others
          rw [List.filter_cons_of_pos concerned]
          exact ⟨final, congrArg₂ (· ++ ·) same later⟩
      | false =>
          obtain ⟨next, silent⟩ := follows.stays initially first concerned
          obtain ⟨final, later⟩ := ih next others
          rw [List.filter_cons_of_neg (by simp [concerned])]
          refine ⟨final, ?_⟩
          rw [← later, collect, silent]
          rfl

/-- Both refuse, or both answer alike and stay related. -/
inductive Agree (related : σ → τ → Prop) : Option (σ × ω) → Option (τ × ω) → Prop
  | refused : Agree related none none
  | answered {state : σ} {other : τ} (kept : related state other) (output : ω) :
      Agree related (some (state, output)) (some (other, output))

namespace Agree

variable {related : σ → τ → Prop} {first : Option (σ × ω)} {second : Option (τ × ω)}

theorem eq_none_iff (agree : Agree related first second) : first = none ↔ second = none := by
  cases agree <;> simp

/-- An answer of the one is an answer of the other. -/
theorem exists_of_eq_some (agree : Agree related first second) {other : τ} {output : ω}
    (answered : second = some (other, output)) :
    ∃ state, first = some (state, output) ∧ related state other := by
  cases agree with
  | refused => contradiction
  | answered kept output =>
      obtain ⟨rfl, rfl⟩ := Prod.mk.inj (Option.some.inj answered)
      exact ⟨_, rfl, kept⟩

/-- What goes on from answers that agree. -/
theorem bind {σ' τ' ω' : Type} {next : σ' → τ' → Prop} (agree : Agree related first second)
    {further : σ × ω → Option (σ' × ω')} {own : τ × ω → Option (τ' × ω')}
    (follows : ∀ state other output, related state other →
      Agree next (further (state, output)) (own (other, output))) :
    Agree next (first.bind further) (second.bind own) := by
  cases agree with
  | refused => exact .refused
  | answered kept output => exact follows _ _ output kept

end Agree

end GridGooseSV
