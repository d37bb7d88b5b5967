import ReliableDatagram.Transition

/-!
# Runs with their outputs

The outputs of a run are the outputs of its steps.  What each step keeps of the state and
of all outputs so far, a run keeps (`run_keeps`), and a run that puts out something has a
step that does, after a run that put out no more than what came before (`run_eq_append`).
The steps share out the places among chosen outputs (`exists_step_of_getElem?`).  Notes that
are taken beside a run leave it as it is (`run_beside`).
-/

namespace ReliableDatagram

namespace Transition

variable {σ α β : Type} {step : Transition σ α β}

theorem mem_run {state : σ} {inputs : List α} {output : β}
    (member : output ∈ (run step state inputs).2) :
    ∃ state input, output ∈ (step state input).2 := by
  induction inputs generalizing state with
  | nil => cases member
  | cons input rest ih =>
      rw [run_cons] at member
      rcases List.mem_append.mp member with first | later
      · exact ⟨state, input, first⟩
      · exact ih later

/-- The last step of a run starts where the run so far has led. -/
theorem run_concat (step : Transition σ α β) (state : σ) (inputs : List α) (last : α) :
    (run step state (inputs ++ [last])).1 = (step (run step state inputs).1 last).1 := by
  rw [run_append, run_cons, run_nil]

theorem outputs_concat (step : Transition σ α β) (state : σ) (inputs : List α) (last : α) :
    (run step state (inputs ++ [last])).2 =
      (run step state inputs).2 ++ (step (run step state inputs).1 last).2 := by
  rw [run_append, run_cons, run_nil, List.append_nil]

/-- What each step keeps of a state and all outputs so far, a run keeps. -/
theorem run_keeps (property : σ → List β → Prop)
    (kept : ∀ {state past} (input : α), property state past →
      property (step state input).1 (past ++ (step state input).2))
    {state : σ} {past : List β} (inputs : List α) (initial : property state past) :
    property (run step state inputs).1 (past ++ (run step state inputs).2) := by
  induction inputs generalizing state past with
  | nil => rwa [run_nil, List.append_nil]
  | cons input rest ih =>
      rw [run_cons, ← List.append_assoc]
      exact ih (kept input initial)

theorem run_of_still {state : σ} (still : ∀ input, step state input = (state, []))
    (inputs : List α) : run step state inputs = (state, []) := by
  induction inputs with
  | nil => rfl
  | cons input rest ih => rw [run_cons, still, ih, List.append_nil]

/-- Behind each output of a run stands a step that puts it out.  The run up to this step
put out a part of what came before. -/
theorem run_eq_append {state : σ} {inputs : List α} {before after : List β} {output : β}
    (outputs : (run step state inputs).2 = before ++ output :: after) :
    ∃ first input rest, inputs = first ++ input :: rest ∧
      output ∈ (step (run step state first).1 input).2 ∧
      (run step state first).2 <+: before := by
  induction inputs generalizing state before with
  | nil => exact absurd outputs.symm (List.append_ne_nil_of_right_ne_nil _ (List.cons_ne_nil _ _))
  | cons input rest ih =>
      rw [run_cons] at outputs
      rcases List.append_eq_append_iff.mp outputs with
        ⟨later, earlier, remaining⟩ | ⟨here, now, remaining⟩
      · rcases ih remaining with ⟨first, next, others, rfl, member, part⟩
        refine ⟨input :: first, next, others, rfl, ?_, ?_⟩
        · rwa [run_cons]
        · rw [run_cons, earlier]
          exact (List.prefix_append_right_inj _).mpr part
      · cases here with
        | cons head tail =>
            rw [List.cons_append, List.cons.injEq] at remaining
            refine ⟨[], input, rest, rfl, ?_, List.nil_prefix⟩
            rw [run_nil, now, remaining.1]
            exact List.mem_append_right _ List.mem_cons_self
        | nil =>
            rw [List.append_nil] at now
            have later : (run step (step state input).1 rest).2 = [] ++ output :: after :=
              remaining.symm
            rcases ih later with ⟨first, next, others, rfl, member, part⟩
            refine ⟨input :: first, next, others, rfl, ?_, ?_⟩
            · rwa [run_cons]
            · have whole : (run step state (input :: first)).2 = before := by
                rw [run_cons, now, List.prefix_nil.mp part, List.append_nil]
              exact whole ▸ List.prefix_refl _

/-- Behind each place among chosen outputs of a run stands a step that fills it.  The run up
to this step filled the places before. -/
theorem exists_step_of_getElem? {γ : Type} {pick : β → Option γ} {state : σ} {inputs : List α}
    {index : Nat} {chosen : γ}
    (found : ((run step state inputs).2.filterMap pick)[index]? = some chosen) :
    ∃ first input rest offset, inputs = first ++ input :: rest ∧
      index = ((run step state first).2.filterMap pick).length + offset ∧
      ((step (run step state first).1 input).2.filterMap pick)[offset]? = some chosen := by
  induction inputs generalizing state index with
  | nil => cases found
  | cons input rest ih =>
      rw [run_cons, List.filterMap_append] at found
      rcases Nat.lt_or_ge index ((step state input).2.filterMap pick).length with here | later
      · rw [List.getElem?_append_left here] at found
        exact ⟨[], input, rest, index, rfl, (Nat.zero_add index).symm, found⟩
      · rw [List.getElem?_append_right later] at found
        rcases ih found with ⟨first, next, others, offset, rfl, place, filled⟩
        refine ⟨input :: first, next, others, offset, rfl, ?_, ?_⟩
        · rw [run_cons, List.filterMap_append, List.length_append]
          omega
        · rw [run_cons]
          exact filled

/-! ## Notes beside a run -/

/-- A step beside which notes are taken.  They look at the state before the step. -/
def beside {γ : Type} (step : Transition σ α β) (note : γ → σ → α → γ) :
    Transition (σ × γ) α β
  | (state, notes), input =>
      (((step state input).1, note notes state input), (step state input).2)

/-- Notes do not change the run that they are taken of. -/
theorem run_beside {γ : Type} (step : Transition σ α β) (note : γ → σ → α → γ) (state : σ)
    (notes : γ) (inputs : List α) :
    (run (beside step note) (state, notes) inputs).1.1 = (run step state inputs).1 ∧
      (run (beside step note) (state, notes) inputs).2 = (run step state inputs).2 := by
  induction inputs generalizing state notes with
  | nil => exact ⟨rfl, rfl⟩
  | cons input rest ih =>
      have later := ih (step state input).1 (note notes state input)
      rw [run_cons, run_cons]
      exact ⟨later.1, congrArg _ later.2⟩

end Transition

end ReliableDatagram
