import CausalOps.Cost.Preflight

set_option autoImplicit false

/-! `run_cost_totals`: what one run has reserved and paid, beside the total over all runs. -/

namespace CausalOps.Cost

section Totals

def ofRun (runId : String) (rows : List CostLedgerRow) : List CostLedgerRow :=
  rows.filter fun row => row.key.runId = runId

/-- `row.actual_usd or 0.0`. -/
def CostLedgerRow.actualUsd (row : CostLedgerRow) : ℚ :=
  match row.state with
  | .settled settlement => settlement.actualUsd
  | .reserved => 0

structure RunCost where
  reservedUsd : ℚ
  actualUsd : ℚ
  fullySettled : Bool
  deriving DecidableEq

def runCostTotals (rows : List CostLedgerRow) (runId : String) : RunCost :=
  let parsed := ofRun runId rows
  { reservedUsd := (parsed.map CostLedgerRow.reservedUsd).sum
    actualUsd := ((parsed.filter fun row => !isReserved row).map CostLedgerRow.actualUsd).sum
    fullySettled := parsed.all fun row => !isReserved row }

def Call.key : Call → RequestKey
  | .record key _ _ => key
  | .settle key _ _ _ _ => key

end Totals

section Spending

variable {rows : List CostLedgerRow} {runId : String}

theorem sum_of_keys {amount : CostLedgerRow → ℚ} (hnonneg : ∀ row, 0 ≤ amount row)
    {runIds : List String} (hnodup : runIds.Nodup) (rows : List CostLedgerRow) :
    (runIds.map fun runId => ((ofRun runId rows).map amount).sum).sum ≤
      (rows.map amount).sum := by
  induction runIds generalizing rows with
  | nil =>
      simp only [List.map_nil, List.sum_nil]
      exact List.sum_nonneg (by simpa using fun row _ => hnonneg row)
  | cons runId rest ih =>
      obtain ⟨hnew, hrest⟩ := List.nodup_cons.1 hnodup
      -- The other runs have the same rows among those that are not of this one.
      have hothers : ∀ other ∈ rest, ofRun other rows =
          ofRun other (rows.filter fun row => !decide (row.key.runId = runId)) := by
        intro other hother
        have hne : other ≠ runId := fun heq => hnew (heq ▸ hother)
        simp only [ofRun, List.filter_filter]
        refine List.filter_congr fun row _ => ?_
        by_cases hrow : row.key.runId = other
        · simp [hrow, hne]
        · simp [hrow]
      have hsum : (rest.map fun other => ((ofRun other rows).map amount).sum).sum ≤
          ((rows.filter fun row => !decide (row.key.runId = runId)).map amount).sum := by
        rw [List.map_congr_left fun other hother => by rw [hothers other hother]]
        exact ih hrest _
      have hsplit : ((ofRun runId rows).map amount).sum +
          ((rows.filter fun row => !decide (row.key.runId = runId)).map amount).sum =
            (rows.map amount).sum := by
        rw [← List.sum_append, ← List.map_append]
        exact ((List.filter_append_perm (fun row => decide (row.key.runId = runId)) rows).map
          amount).sum_eq
      rw [List.map_cons, List.sum_cons]
      linarith

theorem actual_eq_sum (rows : List CostLedgerRow) :
    ((rows.filter fun row => !isReserved row).map CostLedgerRow.actualUsd).sum =
      (rows.map CostLedgerRow.actualUsd).sum := by
  induction rows with
  | nil => rfl
  | cons row rest ih =>
      cases hstate : row.state with
      | reserved => simp [isReserved, hstate, CostLedgerRow.actualUsd, ← ih]
      | settled settlement =>
          have hsettled : isReserved row = false := by simp [isReserved, hstate]
          simp [hsettled, ih]

theorem actual_nonneg (row : CostLedgerRow) : 0 ≤ row.actualUsd := by
  cases hstate : row.state with
  | reserved => simp [CostLedgerRow.actualUsd, hstate]
  | settled settlement =>
      simpa [CostLedgerRow.actualUsd, hstate] using settlement.actualNonneg

theorem actual_le_accounted (row : CostLedgerRow) : row.actualUsd ≤ row.accounted := by
  cases hstate : row.state with
  | reserved => simpa [CostLedgerRow.actualUsd, CostLedgerRow.accounted, hstate] using
      row.reservedNonneg
  | settled settlement => simp [CostLedgerRow.actualUsd, CostLedgerRow.accounted, hstate]

theorem sum_le_spend {amount : CostLedgerRow → ℚ} (hle : ∀ row, amount row ≤ row.accounted)
    (rows : List CostLedgerRow) : (rows.map amount).sum ≤ applicationWideSpendUsd rows :=
  List.sum_le_sum fun row _ => hle row

/-- What distinct runs have reserved, and what they have paid, is within the total over all
runs. -/
theorem runs_le_spend {runIds : List String} (hnodup : runIds.Nodup) (rows : List CostLedgerRow) :
    (runIds.map fun runId => (runCostTotals rows runId).reservedUsd).sum ≤
        applicationWideSpendUsd rows ∧
      (runIds.map fun runId => (runCostTotals rows runId).actualUsd).sum ≤
        applicationWideSpendUsd rows := by
  constructor
  · exact le_trans (sum_of_keys (fun row => row.reservedNonneg) hnodup rows)
      (sum_le_spend reserved_le_accounted rows)
  · simp only [runCostTotals, actual_eq_sum]
    exact le_trans (sum_of_keys actual_nonneg hnodup rows) (sum_le_spend actual_le_accounted rows)

theorem ofRun_modify {key : RequestKey} {change : CostLedgerRow → CostLedgerRow}
    (hchange : ∀ row, (change row).key = row.key) (hother : key.runId ≠ runId)
    (rows : List CostLedgerRow) :
    ofRun runId (Rows.modify CostLedgerRow.key key change rows) = ofRun runId rows := by
  induction rows with
  | nil => rfl
  | cons row rest ih =>
      simp only [ofRun, Rows.modify] at ih
      by_cases hkey : row.key = key
      · have hne : ¬ row.key.runId = runId := by
          rw [hkey]
          exact hother
        simp only [ofRun, Rows.modify, List.map_cons, if_pos hkey, List.filter_cons,
          hchange, hne, decide_false, Bool.false_eq_true, if_false, ih]
      · simp only [ofRun, Rows.modify, List.map_cons, if_neg hkey, List.filter_cons, ih]

theorem ofRun_callStep (ceilingUsd : Option ℚ) (hkeyed : Rows.Keyed CostLedgerRow.key rows)
    (call : Call) (hother : call.key.runId ≠ runId) :
    ofRun runId (callStep ceilingUsd rows call).2 = ofRun runId rows := by
  cases call with
  | record key reservedUsd requestedAt =>
      have hreserving := record_reserving rows key reservedUsd requestedAt ceilingUsd
      simp only [callStep]
      generalize recordReservationBeforeRequest rows key reservedUsd requestedAt ceilingUsd =
        result at hreserving ⊢
      obtain ⟨answer, after⟩ := result
      cases hreserving with
      | refused error => rfl
      | existing row hrow => rfl
      | inserted row ceiling hceiling hkey hnew hreserved hroom =>
          have hne : ¬ row.key.runId = runId := by
            rw [hkey]
            exact hother
          simp [ofRun, hne]
  | settle key actualUsd inputTokens outputTokens settledAt =>
      have hsettling := settle_settling hkeyed key actualUsd inputTokens outputTokens settledAt
      simp only [callStep]
      generalize settleReservation rows key actualUsd inputTokens outputTokens settledAt =
        result at hsettling ⊢
      obtain ⟨answer, after⟩ := result
      cases hsettling with
      | refused error => rfl
      | settled row settlement hrow hreserved =>
          exact ofRun_modify (settle_key settlement) hother rows

theorem runCostTotals_callStep (ceilingUsd : Option ℚ)
    (hkeyed : Rows.Keyed CostLedgerRow.key rows) (call : Call)
    (hother : call.key.runId ≠ runId) :
    runCostTotals (callStep ceilingUsd rows call).2 runId = runCostTotals rows runId := by
  simp only [runCostTotals, ofRun_callStep ceilingUsd hkeyed call hother]

end Spending

end CausalOps.Cost
