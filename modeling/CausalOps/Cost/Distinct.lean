import CausalOps.Cost.SentOnce

set_option autoImplicit false

/-! Calls with keys of their own, of which the ledger holds none: none of them finds a row that
is already there, whatever order they and the other calls take and whatever befalls them. -/

namespace CausalOps.Cost

open CausalOps.Investigation

section Programs

def WasThere : (op : SendOp) → op.Result → Prop
  | .reserve _ _ _ _, .ok (_, false) => True
  | _, _ => False

/-- A program that is not refused for a row unless it was told of one. -/
def Unambiguous : Sending AIMessage → Prop
  | .ret _ => True
  | .raise error => ∀ row, error ≠ .ambiguousReservationNotResent row
  | .call op next => ∀ answer, ¬ WasThere op answer → Unambiguous (next answer)

theorem unambiguous_readBack {key : RequestKey} {missing : String}
    {next : CostLedgerRow → Sending AIMessage} (hnext : ∀ row, Unambiguous (next row)) :
    Unambiguous (readBack key missing >>= next) := by
  intro answer _
  match answer with
  | .error message => exact fun _ => nofun
  | .ok none => exact fun _ => nofun
  | .ok (some row) => exact hnext row

theorem unambiguous_recordReservation {key : RequestKey} {reservedUsd : Option ℚ}
    {requestedAt : Moment} {ceilingUsd : Option ℚ}
    {next : CostLedgerRow × Bool → Sending AIMessage}
    (hinserted : ∀ row, Unambiguous (next (row, true))) :
    Unambiguous (recordReservation key reservedUsd requestedAt ceilingUsd >>= next) := by
  intro answer hnew
  match answer with
  | .error error => exact fun _ => nofun
  | .ok (row, false) => exact absurd trivial hnew
  | .ok (_, true) =>
      intro readAnswer _
      match readAnswer with
      | .error message => exact fun _ => nofun
      | .ok none => exact fun _ => nofun
      | .ok (some row) => exact hinserted row

theorem invokeAndSettle_unambiguous (model : LiveClaudeModel) (request : ModelRequest)
    (tools : String) : Unambiguous (invokeAndSettle model request tools) := by
  intro answer _
  cases answer with
  | none => exact fun _ => nofun
  | some message =>
      dsimp only
      cases message.usageMetadata with
      | none => exact fun _ => nofun
      | some usage =>
          intro settledAt _ settled _
          cases settled with
          | error error => exact fun _ => nofun
          | ok after => exact unambiguous_readBack fun _ => trivial

theorem send_unambiguous (call : SendCall) :
    Unambiguous (send call.model call.request call.tools) := by
  unfold send
  split
  · exact fun _ => nofun
  dsimp only
  split
  · exact fun _ => nofun
  intro requestedAt _
  exact unambiguous_recordReservation fun _ => invokeAndSettle_unambiguous _ _ _

/-- What is left of a call is unambiguous, or it has ended so. -/
def Progress.Unambiguous : Progress → Prop
  | .running program => Cost.Unambiguous program
  | .ended (.error error) => ∀ row, error ≠ .ambiguousReservationNotResent row
  | _ => True

theorem standing_unambiguous {program : Sending AIMessage} (h : Unambiguous program) :
    (standing program).Unambiguous := by
  cases program with
  | ret message => trivial
  | raise error => exact h
  | call op next => exact h

end Programs

section Operations

variable {ι : Type} {system : System ι}

theorem fresh_of_after {before : Phase} {op : SendOp} {answer : op.Result}
    (h : before.after op answer = .fresh) : before = .fresh := by
  cases before with
  | fresh => rfl
  | inserted row => cases op <;> cases h
  | invoked row =>
      cases op with
      | settle read actualUsd inputTokens outputTokens settledAt => cases answer <;> cases h
      | _ => cases h
  | settled row after => cases op <;> cases h

/-- An operation that leaves a call without a row has not changed the table. -/
theorem exec_fresh (surroundings : Surroundings) (i : ι) {key : RequestKey} {op : SendOp}
    (hallows : Phase.fresh.Allows key op)
    (hfresh : Phase.fresh.after op (exec surroundings i system op).1 = .fresh) :
    (exec surroundings i system op).2.rows = system.rows := by
  cases op with
  | clock => rfl
  | readRow read =>
      simp only [exec]
      split <;> rfl
  | invoke read systemText content tools => exact hallows.elim
  | settle read actualUsd inputTokens outputTokens settledAt => exact hallows.elim
  | reserve read reservedUsd requestedAt ceilingUsd =>
      have hreserving := record_reserving system.rows read reservedUsd requestedAt ceilingUsd
      simp only [exec] at hfresh ⊢
      split at hfresh
      · rename_i hfails
        rw [if_pos hfails]
      · rename_i hworks
        rw [if_neg hworks]
        generalize recordReservationBeforeRequest system.rows read reservedUsd requestedAt
          ceilingUsd = result at hreserving hfresh ⊢
        obtain ⟨answer, after⟩ := result
        dsimp only at hreserving
        cases hreserving with
        | refused error => rfl
        | existing row hrow => rfl
        | inserted row ceiling hceiling hkey hnew hreserved hroom => cases hfresh

theorem exec_new (surroundings : Surroundings) (i : ι) {key : RequestKey} {op : SendOp}
    {before : Phase} (hallows : before.Allows key op)
    (hclear : before = .fresh → readRow system.rows key = none) :
    ¬ WasThere op (exec surroundings i system op).1 := by
  cases op with
  | clock => exact id
  | readRow read => exact id
  | invoke read systemText content tools => exact id
  | settle read actualUsd inputTokens outputTokens settledAt => exact id
  | reserve read reservedUsd requestedAt ceilingUsd =>
      cases before with
      | inserted row => exact hallows.elim
      | invoked row => exact hallows.elim
      | settled row after => exact hallows.elim
      | fresh =>
          obtain rfl : read = key := hallows
          have hreserving := record_reserving system.rows read reservedUsd requestedAt ceilingUsd
          simp only [exec]
          split
          · exact id
          · generalize recordReservationBeforeRequest system.rows read reservedUsd requestedAt
              ceilingUsd = result at hreserving ⊢
            obtain ⟨answer, after⟩ := result
            dsimp only at hreserving
            cases hreserving with
            | refused error => exact id
            | existing row hrow =>
                rw [hclear rfl] at hrow
                cases hrow
            | inserted row ceiling hceiling hkey hnew hreserved hroom => exact id

end Operations

section Runs

variable {ι : Type} [DecidableEq ι] {calls : ι → SendCall} {own : ι → Prop} {system : System ι}
  {phase : ι → Phase}

/-- The calls of `own` share no key, with each other or with another call. -/
def Apart (calls : ι → SendCall) (own : ι → Prop) : Prop :=
  ∀ i j, own i → j ≠ i → (calls i).key ≠ (calls j).key

/-- None of these calls that has yet to reserve has a row under its key. -/
structure Clear (calls : ι → SendCall) (own : ι → Prop) (system : System ι)
    (phase : ι → Phase) : Prop where
  agrees : Agrees calls system phase
  clear : ∀ i, own i → phase i = .fresh → readRow system.rows (calls i).key = none
  unambiguous : ∀ i, own i → (system.progress i).Unambiguous

theorem clear_initial {rows : List CostLedgerRow} (hkeyed : Rows.Keyed CostLedgerRow.key rows)
    (hnone : ∀ i, own i → readRow rows (calls i).key = none) :
    Clear calls own (System.initial rows) fun _ => .fresh where
  agrees := agrees_initial calls hkeyed
  clear := fun i hown _ => hnone i hown
  unambiguous := fun _ _ => trivial

theorem Clear.setProgress (h : Clear calls own system phase) {i : ι} {progress : Progress}
    (hstands : (phase i).Stands (calls i).key progress)
    (hquiet : own i → progress.Unambiguous) :
    Clear calls own (system.setProgress i progress) phase where
  agrees := h.agrees.setProgress hstands
  clear := h.clear
  unambiguous := by
    intro j hown
    by_cases hj : j = i
    · subst hj
      simpa [System.setProgress] using hquiet hown
    · simpa [System.setProgress, Function.update_of_ne hj] using h.unambiguous j hown

theorem Clear.step (h : Clear calls own system phase) (hapart : Apart calls own) (act : Act ι) :
    ∃ next, Clear calls own (system.step calls act) next := by
  cases act with
  | start i =>
      simp only [System.step]
      have hstands := h.agrees.stands i
      split
      · rename_i hwaiting
        rw [hwaiting] at hstands
        refine ⟨phase, h.setProgress ?_ fun _ => standing_unambiguous (send_unambiguous _)⟩
        rw [hstands]
        exact stands_standing (send_follows (calls i))
      · exact ⟨phase, h⟩
  | advance i surroundings =>
      simp only [System.step]
      have hstands := h.agrees.stands i
      have hquiet := h.unambiguous i
      split
      · rename_i op next hrunning
        rw [hrunning] at hstands hquiet
        obtain ⟨hallows, hnext⟩ := hstands
        have hdoes := exec_does surroundings i h.agrees.keyed (h.agrees.stored i) hallows
        refine ⟨_, h.agrees.does hdoes (stands_standing (hnext _)), ?_, ?_⟩
        · intro j hown hfresh
          by_cases hj : j = i
          · subst hj
            rw [Function.update_self] at hfresh
            have hbefore : phase j = .fresh := fresh_of_after hfresh
            rw [hbefore] at hfresh hallows
            have hrows := exec_fresh surroundings j hallows hfresh
            change readRow (exec surroundings j system op).2.rows _ = none
            rw [hrows]
            exact h.clear j hown hbefore
          · rw [Function.update_of_ne hj] at hfresh
            have hother : (calls j).key ≠ (calls i).key := hapart j i hown fun heq => hj heq.symm
            change readRow (exec surroundings i system op).2.rows _ = none
            rw [hdoes.touches.others _ hother]
            exact h.clear j hown hfresh
        · intro j hown
          by_cases hj : j = i
          · subst hj
            have hleft := hquiet hown _ (exec_new surroundings j hallows (h.clear j hown))
            simpa [System.setProgress] using standing_unambiguous hleft
          · have hsame := h.unambiguous j hown
            rw [← hdoes.progress] at hsame
            simpa [System.setProgress, Function.update_of_ne hj] using hsame
      · exact ⟨phase, h⟩
  | crash i =>
      simp only [System.step]
      split
      · exact ⟨phase, h.setProgress trivial fun _ => trivial⟩
      · exact ⟨phase, h⟩

theorem Clear.run (h : Clear calls own system phase) (hapart : Apart calls own)
    (acts : List (Act ι)) : ∃ next, Clear calls own (system.run calls acts) next := by
  induction acts generalizing system phase with
  | nil => exact ⟨phase, h⟩
  | cons act rest ih =>
      obtain ⟨next, hnext⟩ := h.step hapart act
      exact ih hnext

/-- Calls with keys of their own, none of them in the ledger, are never refused for a row. -/
theorem never_ambiguous {rows : List CostLedgerRow} (hkeyed : Rows.Keyed CostLedgerRow.key rows)
    (hapart : Apart calls own) (hnone : ∀ i, own i → readRow rows (calls i).key = none)
    (acts : List (Act ι)) (i : ι) (hown : own i) (row : CostLedgerRow) :
    ((System.initial rows).run calls acts).progress i ≠
      .ended (.error (.ambiguousReservationNotResent row)) := by
  intro hended
  obtain ⟨phase, hclear⟩ := (clear_initial hkeyed hnone).run hapart acts
  have hquiet := hclear.unambiguous i hown
  rw [hended] at hquiet
  exact hquiet row rfl

end Runs

end CausalOps.Cost
