import Mathlib.Data.List.Basic

set_option autoImplicit false

/-! Deterministic machines that answer every input, and their runs. -/

namespace Machine

variable {σ τ ι ω : Type}

/-- The answers to a list of inputs, and the state reached. -/
def run (step : σ → ι → ω × σ) : σ → List ι → List ω × σ
  | s, [] => ([], s)
  | s, i :: rest =>
      let (answer, s') := step s i
      let (answers, last) := run step s' rest
      (answer :: answers, last)

/-- The states that a run goes through, the first and the last included. -/
def visited (step : σ → ι → ω × σ) : σ → List ι → List σ
  | s, [] => [s]
  | s, i :: rest => s :: visited step (step s i).2 rest

/-- Every input of a run meets a condition in the state in which it arrives. -/
def Admits (step : σ → ι → ω × σ) (condition : σ → ι → Prop) : σ → List ι → Prop
  | _, [] => True
  | s, i :: rest => condition s i ∧ Admits step condition (step s i).2 rest

instance Admits.decidable {step : σ → ι → ω × σ} {condition : σ → ι → Prop}
    [hdecide : ∀ s i, Decidable (condition s i)] :
    ∀ (s : σ) (inputs : List ι), Decidable (Admits step condition s inputs)
  | _, [] => isTrue trivial
  | s, i :: rest =>
      have := hdecide s i
      have := @Admits.decidable step condition hdecide (step s i).2 rest
      inferInstanceAs (Decidable (_ ∧ _))

section Run

variable {step : σ → ι → ω × σ}

@[simp] theorem run_nil (s : σ) : run step s [] = ([], s) := rfl

@[simp] theorem run_cons (s : σ) (i : ι) (rest : List ι) :
    run step s (i :: rest) =
      ((step s i).1 :: (run step (step s i).2 rest).1, (run step (step s i).2 rest).2) :=
  rfl

theorem run_append (s : σ) (before after : List ι) :
    run step s (before ++ after) =
      ((run step s before).1 ++ (run step (run step s before).2 after).1,
        (run step (run step s before).2 after).2) := by
  induction before generalizing s with
  | nil => simp
  | cons i rest ih => simp [ih]

/-- An invariant of one admitted step is an invariant of an admitted run. -/
theorem run_invariant {condition : σ → ι → Prop} {invariant : σ → Prop}
    (hstep : ∀ s i, invariant s → condition s i → invariant (step s i).2) :
    ∀ (inputs : List ι) (s : σ), invariant s → Admits step condition s inputs →
      invariant (run step s inputs).2 := by
  intro inputs
  induction inputs with
  | nil => intro s hs _; exact hs
  | cons i rest ih =>
      rintro s hs ⟨hcondition, hrest⟩
      exact ih _ (hstep s i hs hcondition) hrest

/-- What an answer leaves behind, and later steps keep, holds of every answer when the
run is over. -/
theorem run_answers {condition : σ → ι → Prop} {invariant : σ → Prop} {kept : ω → σ → Prop}
    (hstep : ∀ s i, invariant s → condition s i →
      invariant (step s i).2 ∧ kept (step s i).1 (step s i).2 ∧
        ∀ answer, kept answer s → kept answer (step s i).2) :
    ∀ (inputs : List ι) (s : σ), invariant s → Admits step condition s inputs →
      (∀ answer, kept answer s → kept answer (run step s inputs).2) ∧
        ∀ answer ∈ (run step s inputs).1, kept answer (run step s inputs).2 := by
  intro inputs
  induction inputs with
  | nil => intro s _ _; exact ⟨fun _ h => h, by simp⟩
  | cons i rest ih =>
      rintro s hs ⟨hcondition, hrest⟩
      obtain ⟨hnext, hanswer, hkeeps⟩ := hstep s i hs hcondition
      obtain ⟨hlater, hanswers⟩ := ih _ hnext hrest
      refine ⟨fun answer h => hlater answer (hkeeps answer h), ?_⟩
      intro answer hmem
      rcases List.mem_cons.1 hmem with rfl | hmem
      · exact hlater _ hanswer
      · exact hanswers answer hmem

theorem admits_append {condition : σ → ι → Prop} (s : σ) (before after : List ι) :
    Admits step condition s (before ++ after) ↔
      Admits step condition s before ∧ Admits step condition (run step s before).2 after := by
  induction before generalizing s with
  | nil => simp [Admits]
  | cons i rest ih => simp [Admits, ih, and_assoc]

/-- Consecutive states of an admitted run are related as those of one admitted step. -/
theorem visited_chain {condition : σ → ι → Prop} {invariant : σ → Prop}
    {related : σ → σ → Prop}
    (hstep : ∀ s i, invariant s → condition s i →
      invariant (step s i).2 ∧ related s (step s i).2) :
    ∀ (inputs : List ι) (s : σ), invariant s → Admits step condition s inputs →
      (visited step s inputs).IsChain related := by
  intro inputs
  induction inputs with
  | nil => intro s _ _; exact List.IsChain.singleton s
  | cons i rest ih =>
      rintro s hs ⟨hcondition, hrest⟩
      obtain ⟨hnext, hrelated⟩ := hstep s i hs hcondition
      have hchain := ih _ hnext hrest
      cases rest with
      | nil => exact List.IsChain.cons_cons hrelated hchain
      | cons j rest => exact List.IsChain.cons_cons hrelated hchain

theorem admits_of_forall {condition : σ → ι → Prop} :
    ∀ (inputs : List ι) (s : σ), (∀ i ∈ inputs, ∀ s, condition s i) →
      Admits step condition s inputs := by
  intro inputs
  induction inputs with
  | nil => intro _ _; trivial
  | cons i rest ih =>
      intro s h
      exact ⟨h i (by simp) s, ih _ fun j hj => h j (List.mem_cons_of_mem i hj)⟩

end Run

/-- Two machines that agree on every admitted step from related states agree on
every admitted run. -/
theorem run_simulation {step : σ → ι → ω × σ} {step' : τ → ι → ω × τ}
    {condition : σ → ι → Prop} {related : σ → τ → Prop}
    (hstep : ∀ s t i, related s t → condition s i →
      (step s i).1 = (step' t i).1 ∧ related (step s i).2 (step' t i).2) :
    ∀ (inputs : List ι) (s : σ) (t : τ), related s t → Admits step condition s inputs →
      (run step s inputs).1 = (run step' t inputs).1 ∧
        related (run step s inputs).2 (run step' t inputs).2 := by
  intro inputs
  induction inputs with
  | nil => intro s t hrelated _; exact ⟨rfl, hrelated⟩
  | cons i rest ih =>
      rintro s t hrelated ⟨hcondition, hrest⟩
      obtain ⟨hanswer, hnext⟩ := hstep s t i hrelated hcondition
      obtain ⟨hanswers, hlast⟩ := ih _ _ hnext hrest
      exact ⟨by simp [hanswer, hanswers], hlast⟩

end Machine
