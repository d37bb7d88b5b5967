/-!
# Transitions

A transition takes a state and an input to a new state and a list of outputs.
`Transition.run` feeds it a list of inputs and joins the outputs; the laws
`run_nil`, `run_cons` and `run_append` say all there is to know about it.
-/

namespace ReliableDatagram

/-- A step of a machine with states `σ`, inputs `α` and outputs `β`. -/
abbrev Transition (σ α β : Type) : Type := σ → α → σ × List β

namespace Transition

variable {σ α β : Type}

/-- One step that also appends its outputs to those already collected. -/
def collect (step : Transition σ α β) (collected : σ × Array β) (input : α) : σ × Array β :=
  match collected with
  | (state, outputs) =>
      match step state input with
      | (state, more) => (state, outputs ++ more)

/-- The state after all inputs, and the outputs of all steps in order. -/
def run (step : Transition σ α β) (state : σ) (inputs : List α) : σ × List β :=
  match inputs.foldl (collect step) (state, #[]) with
  | (state, outputs) => (state, outputs.toList)

theorem foldl_collect (step : Transition σ α β) (state : σ) (outputs : Array β)
    (inputs : List α) :
    (inputs.foldl (collect step) (state, outputs)).1 = (run step state inputs).1 ∧
      (inputs.foldl (collect step) (state, outputs)).2.toList =
        outputs.toList ++ (run step state inputs).2 := by
  induction inputs generalizing state outputs with
  | nil => simp [run]
  | cons input rest ih =>
      have first := ih (step state input).1 (outputs ++ (step state input).2)
      have start := ih (step state input).1 ((#[] : Array β) ++ (step state input).2)
      simp only [run, List.foldl_cons, collect] at first start ⊢
      exact ⟨first.1.trans start.1.symm, by rw [first.2, start.2]; simp⟩

@[simp] theorem run_nil (step : Transition σ α β) (state : σ) :
    run step state [] = (state, []) := rfl

/-- A run starts with the step on the first input. -/
theorem run_cons (step : Transition σ α β) (state : σ) (input : α) (rest : List α) :
    run step state (input :: rest) =
      ((run step (step state input).1 rest).1,
        (step state input).2 ++ (run step (step state input).1 rest).2) := by
  have after := foldl_collect step (step state input).1 ((#[] : Array β) ++ (step state input).2) rest
  apply Prod.ext
  · simpa [run, collect] using after.1
  · simpa [run, collect] using after.2

/-- A run over two lists is a run over the first and then one over the second. -/
theorem run_append (step : Transition σ α β) (state : σ) (first second : List α) :
    run step state (first ++ second) =
      ((run step (run step state first).1 second).1,
        (run step state first).2 ++ (run step (run step state first).1 second).2) := by
  induction first generalizing state with
  | nil => simp
  | cons input rest ih => simp [run_cons, ih]

/-- What every step keeps, a run keeps. -/
theorem run_preserves (step : Transition σ α β) (property : σ → Prop)
    (preserved : ∀ state input, property state → property (step state input).1)
    (state : σ) (inputs : List α) (initial : property state) :
    property (run step state inputs).1 := by
  induction inputs generalizing state with
  | nil => exact initial
  | cons input rest ih =>
      rw [run_cons]
      exact ih _ (preserved state input initial)

end Transition

end ReliableDatagram
