import CausalOps.Library.Machine

set_option autoImplicit false

/-! Noninterference of a deterministic machine: an observer gets the answers that it would get
if the inputs of the others had never been issued. -/

namespace Machine

variable {σ ι ω : Type}

section Observer

variable (step : σ → ι → ω × σ) (mine : σ → ι → Bool)

/-- The answers to the inputs that are the observer's when they arrive. -/
def observed : σ → List ι → List ω
  | _, [] => []
  | s, i :: rest =>
      if mine s i then (step s i).1 :: observed (step s i).2 rest
      else observed (step s i).2 rest

/-- The inputs of a run that are the observer's when they arrive. -/
def purged : σ → List ι → List ι
  | _, [] => []
  | s, i :: rest =>
      if mine s i then i :: purged (step s i).2 rest else purged (step s i).2 rest

/-- Two states may agree, as far as an observer can tell: its own steps then give the same
answers and agreeing states, and the steps of the others change nothing that it can tell. -/
structure Unwinding (condition : σ → ι → Prop) (agree : σ → σ → Prop) : Prop where
  consistent : ∀ s t i, agree s t → condition s i → mine s i = true →
    (step s i).1 = (step t i).1 ∧ agree (step s i).2 (step t i).2
  respects : ∀ s t i, agree s t → condition s i → mine s i = false → agree (step s i).2 t

end Observer

variable {step : σ → ι → ω × σ} {mine : σ → ι → Bool} {condition : σ → ι → Prop}
  {agree : σ → σ → Prop}

/-- The observed answers of an admitted run are all the answers of the purged run. -/
theorem Unwinding.run (h : Unwinding step mine condition agree) :
    ∀ (inputs : List ι) (s t : σ), agree s t → Admits step condition s inputs →
      observed step mine s inputs = (Machine.run step t (purged step mine s inputs)).1 ∧
        agree (Machine.run step s inputs).2
          (Machine.run step t (purged step mine s inputs)).2 := by
  intro inputs
  induction inputs with
  | nil => intro s t hagree _; exact ⟨rfl, hagree⟩
  | cons i rest ih =>
      rintro s t hagree ⟨hcondition, hrest⟩
      cases hmine : mine s i with
      | true =>
          obtain ⟨hanswer, hnext⟩ := h.consistent s t i hagree hcondition hmine
          obtain ⟨hanswers, hlast⟩ := ih _ _ hnext hrest
          simp only [observed, purged, hmine, if_true, run_cons]
          exact ⟨by rw [hanswer, hanswers], hlast⟩
      | false =>
          have hnext := h.respects s t i hagree hcondition hmine
          simp only [observed, purged, hmine, Bool.false_eq_true, if_false, run_cons]
          exact ih _ _ hnext hrest

end Machine
