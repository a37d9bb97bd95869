import CausalOps.Cost.Batch
import CausalOps.Cost.Floor
import CausalOps.Investigation.Graph.Bounded

set_option autoImplicit false

/-! The check before a batch of scored runs: what the whole batch could reserve at most has to
fit under the ceiling, before any of it is spent. -/

namespace CausalOps.Cost

open CausalOps.ControlPlane (CheckpointStoreError)
open CausalOps.Investigation

section Preflight

def evaluationFamilies : List String :=
  ["ambiguous_telemetry", "configuration_change", "downstream_timeout_retry_amplification",
    "resource_pool_saturation"]

def evaluationSeeds : List String := ["evaluation", "evaluation_b", "evaluation_c"]

def evidenceBudgetCurve : List ℤ := [2, 3, 4]

def resolveBudgets (executedTools : ℤ) : Budgets :=
  { defaultBudgets with executedTools := executedTools, modelCalls := executedTools + 2 }

/-- The runs of one invocation: both arms of every family with every seed. -/
def scoredRuns : ℕ := evaluationFamilies.length * evaluationSeeds.length * 2

/-- The JSON texts of the tools that `propose` and `respond` bind. -/
structure ToolDefinitions where
  propose : String
  respond : String
  ordered : estimateInputTokens respond ≤ estimateInputTokens propose

def ToolDefinitions.boundBy (tools : ToolDefinitions) : Stage → String
  | .finalAssessment => tools.respond
  | _ => tools.propose

def maximumPossibleReservationUsd (tools : ToolDefinitions) (pricing : PricingSnapshot) : ℚ :=
  pricing.reservationUsd (maxInputTokens + estimateInputTokens tools.propose)

/-- The most that a batch could reserve, were it priced so. -/
def worstCaseUsd (tools : ToolDefinitions) (budgets : Budgets) (pricing : PricingSnapshot) : ℚ :=
  scoredRuns * ((budgets.modelCalls + budgets.repairs : ℤ) : ℚ) *
    maximumPossibleReservationUsd tools pricing

/-- `MAXIMUM_POSSIBLE_RESERVATION_USD` is computed with the prices of Sonnet. -/
def preflightWorstCaseBatchUsd (tools : ToolDefinitions) (budgets : Budgets) : ℚ :=
  worstCaseUsd tools budgets claudeSonnet5Pricing

def applicationWideSpendUsd (rows : List CostLedgerRow) : ℚ := reservedAndSettledTotal rows

def cannotCover (reading : Reading) (tools : ToolDefinitions) (budgets : Budgets)
    (alreadySpent ceilingUsd : ℚ) : String :=
  liveEvaluationMaxUsdVariable ++ "=" ++ reading.fixed 4 ceilingUsd ++
    " cannot cover this invocation's worst-case batch cost: $" ++ reading.fixed 4 alreadySpent ++
    " already spent/committed application-wide, plus a worst case of $" ++
    reading.fixed 4 (preflightWorstCaseBatchUsd tools budgets) ++ " for this --executed-tools " ++
    toString budgets.executedTools ++ " batch (" ++ toString scoredRuns ++ " runs x " ++
    toString (budgets.modelCalls + budgets.repairs) ++ " model calls x $" ++
    reading.fixed 6 (maximumPossibleReservationUsd tools claudeSonnet5Pricing) ++
    " per call), plus the $" ++ reading.fixed 2 reservationCeilingBufferUsd ++
    " reservation buffer. Raise LIVE_EVALUATION_MAX_USD, or wait for headroom to free up, " ++
    "before running this batch."

def checkPreflightCost (reading : Reading) (tools : ToolDefinitions) (rows : List CostLedgerRow)
    (budgets : Budgets) (ceilingUsd : ℚ) : Except CheckpointStoreError Unit :=
  let alreadySpent := applicationWideSpendUsd rows
  if alreadySpent + preflightWorstCaseBatchUsd tools budgets + reservationCeilingBufferUsd >
      ceilingUsd then
    .error ⟨.ceilingBelowReservationBuffer,
      cannotCover reading tools budgets alreadySpent ceilingUsd⟩
  else .ok ()

end Preflight

section Batch

/-- One scored run, as far as it went: it neither crashes nor pauses. -/
structure ScoredRun (budgets : Budgets) where
  setting : Setting
  investigationId : String
  runId : String
  startedAt : CausalOps.Investigation.Time
  turns : List Turn
  sameBudgets : setting.budgets = budgets

variable {budgets : Budgets}

def ScoredRun.requests (run : ScoredRun budgets) : List ModelRequest :=
  requested (after run.setting
    (Thread.start run.setting run.investigationId run.runId run.startedAt)
    (run.turns.map .step)).journal

theorem requests_length (run : ScoredRun budgets) :
    (run.requests.length : ℤ) ≤ max 0 budgets.modelCalls + budgets.repairs := by
  have hbounded := (bounded_steps run.setting run.investigationId run.runId run.startedAt
    run.turns).sent
  rw [run.sameBudgets] at hbounded
  exact hbounded

/-- What the runs of one invocation ask of their model. -/
structure Batch (budgets : Budgets) where
  requests : Fin scoredRuns → List ModelRequest
  within : ∀ run, ((requests run).length : ℤ) ≤ max 0 budgets.modelCalls + budgets.repairs

def Batch.ofRuns (runs : Fin scoredRuns → ScoredRun budgets) : Batch budgets where
  requests := fun run => (runs run).requests
  within := fun run => requests_length (runs run)

/-- The requests of a batch, by run and by place in it. -/
abbrev Batch.Calls (batch : Batch budgets) := Σ run, Fin (batch.requests run).length

theorem sum_calls (batch : Batch budgets) (amount : batch.Calls → ℚ) :
    ∑ i, amount i = ∑ run, ∑ place, amount ⟨run, place⟩ := Fintype.sum_sigma amount

/-- The `_send` of each request of a batch, all by one model under one ceiling. -/
def Batch.sends (batch : Batch budgets) (tools : ToolDefinitions) (model : LiveClaudeModel)
    (i : batch.Calls) : SendCall :=
  let request := (batch.requests i.1).get i.2
  ⟨model, request, tools.boundBy request.stage⟩

theorem reservationUsd_mono (pricing : PricingSnapshot) {few many : ℕ} (h : few ≤ many) :
    pricing.reservationUsd few ≤ pricing.reservationUsd many := by
  have hinput := pricing.inputPos
  have hcast : (few : ℚ) ≤ many := Nat.cast_le.2 h
  have hdivided : (few : ℚ) / 1000000 ≤ many / 1000000 :=
    div_le_div_of_nonneg_right hcast (by norm_num)
  have hpriced := mul_le_mul_of_nonneg_right hdivided hinput.le
  simp only [PricingSnapshot.reservationUsd]
  linarith

theorem boundBy_le (tools : ToolDefinitions) (stage : Stage) :
    estimateInputTokens (tools.boundBy stage) ≤ estimateInputTokens tools.propose := by
  cases stage with
  | finalAssessment => exact tools.ordered
  | initialPlan => exact le_rfl
  | hypothesisUpdate => exact le_rfl

/-- No call of a batch costs more than the maximum at the model's prices. -/
theorem sends_price_le (batch : Batch budgets) (tools : ToolDefinitions) (model : LiveClaudeModel)
    (i : batch.Calls) :
    (batch.sends tools model i).price ≤ maximumPossibleReservationUsd tools model.pricing := by
  unfold SendCall.price
  split
  · rename_i hcap
    exact reservationUsd_mono _ (Nat.add_le_add hcap (boundBy_le tools _))
  · exact PricingSnapshot.reservationUsd_nonneg _ _

/-- All calls of a batch together cost no more than its worst case at the model's prices. -/
theorem sends_total_le (batch : Batch budgets) (hcalls : 0 ≤ budgets.modelCalls)
    (tools : ToolDefinitions) (model : LiveClaudeModel) :
    ∑ i, (batch.sends tools model i).price ≤ worstCaseUsd tools budgets model.pricing := by
  have hmaximum : 0 ≤ maximumPossibleReservationUsd tools model.pricing :=
    model.pricing.reservationUsd_nonneg _
  have hrun : ∀ run, ∑ place, (batch.sends tools model ⟨run, place⟩).price ≤
      ((budgets.modelCalls + budgets.repairs : ℤ) : ℚ) *
        maximumPossibleReservationUsd tools model.pricing := by
    intro run
    have hlength : ((batch.requests run).length : ℤ) ≤ budgets.modelCalls + budgets.repairs := by
      have hbound := batch.within run
      rwa [max_eq_right hcalls] at hbound
    calc ∑ place, (batch.sends tools model ⟨run, place⟩).price
        ≤ ∑ _place : Fin (batch.requests run).length,
            maximumPossibleReservationUsd tools model.pricing :=
          Finset.sum_le_sum fun place _ => sends_price_le batch tools model ⟨run, place⟩
      _ = ((batch.requests run).length : ℚ) * maximumPossibleReservationUsd tools model.pricing := by
          simp
      _ ≤ _ := mul_le_mul_of_nonneg_right (by exact_mod_cast hlength) hmaximum
  calc ∑ i, (batch.sends tools model i).price
      = ∑ run, ∑ place, (batch.sends tools model ⟨run, place⟩).price := sum_calls batch _
    _ ≤ ∑ _run : Fin scoredRuns, ((budgets.modelCalls + budgets.repairs : ℤ) : ℚ) *
          maximumPossibleReservationUsd tools model.pricing :=
        Finset.sum_le_sum fun run _ => hrun run
    _ = worstCaseUsd tools budgets model.pricing := by
        simp only [Finset.sum_const, Finset.card_univ, Fintype.card_fin, nsmul_eq_mul,
          worstCaseUsd, mul_assoc]

/-- When the check covers a batch: the selected prices are no higher than those it counts
with, or their own worst case fits too. -/
def Covered (tools : ToolDefinitions) (rows : List CostLedgerRow) (budgets : Budgets)
    (pricing : PricingSnapshot) (ceilingUsd : ℚ) : Prop :=
  maximumPossibleReservationUsd tools pricing ≤
      maximumPossibleReservationUsd tools claudeSonnet5Pricing ∨
    applicationWideSpendUsd rows + worstCaseUsd tools budgets pricing +
      reservationCeilingBufferUsd ≤ ceilingUsd

theorem covered_sonnet (tools : ToolDefinitions) (rows : List CostLedgerRow) (budgets : Budgets)
    (ceilingUsd : ℚ) : Covered tools rows budgets claudeSonnet5Pricing ceilingUsd := Or.inl le_rfl

theorem covered_haiku (tools : ToolDefinitions) (rows : List CostLedgerRow) (budgets : Budgets)
    (ceilingUsd : ℚ) : Covered tools rows budgets claudeHaiku45Pricing ceilingUsd := by
  refine Or.inl ?_
  have htokens : (0 : ℚ) ≤ (maxInputTokens + estimateInputTokens tools.propose : ℕ) / 1000000 :=
    div_nonneg (Nat.cast_nonneg _) (by norm_num)
  simp only [maximumPossibleReservationUsd, PricingSnapshot.reservationUsd, claudeHaiku45Pricing,
    claudeSonnet5Pricing, maxOutputTokens]
  linarith

/-- The check passed, and no reservation of the batch is refused for the ceiling. -/
def PreflightSound (tools : ToolDefinitions) (pricing : PricingSnapshot) (executedTools : ℤ)
    (rows : List CostLedgerRow) (ceilingUsd : ℚ) : Prop :=
  ∀ (batch : Batch (resolveBudgets executedTools)) (credentialPresent : Bool)
    (acts : List (Act batch.Calls)) (i : batch.Calls) (error : SendError),
    let calls := batch.sends tools ⟨pricing, some ceilingUsd, credentialPresent⟩
    (∀ act ∈ acts, Honest calls act) →
      ((System.initial rows).run calls acts).progress i = .ended (.error error) →
        ¬ error.IsCeiling

theorem passes_iff (reading : Reading) (tools : ToolDefinitions) (rows : List CostLedgerRow)
    (budgets : Budgets) (ceilingUsd : ℚ) :
    checkPreflightCost reading tools rows budgets ceilingUsd = .ok () ↔
      applicationWideSpendUsd rows + preflightWorstCaseBatchUsd tools budgets +
        reservationCeilingBufferUsd ≤ ceilingUsd := by
  simp only [checkPreflightCost]
  split
  · rename_i hexceeds
    exact ⟨fun hok => (nomatch hok), fun hroom => absurd hroom (not_le.2 hexceeds)⟩
  · rename_i hroom
    exact ⟨fun _ => not_lt.1 hroom, fun _ => rfl⟩

/-- Where the check covers the selected prices, a batch that passes it is never refused. -/
theorem preflight_sound (reading : Reading) (tools : ToolDefinitions) (pricing : PricingSnapshot)
    (executedTools : ℤ) (rows : List CostLedgerRow) (ceilingUsd : ℚ)
    (hcurve : executedTools ∈ evidenceBudgetCurve)
    (hkeyed : Rows.Keyed CostLedgerRow.key rows)
    (hpasses : checkPreflightCost reading tools rows (resolveBudgets executedTools) ceilingUsd =
      .ok ())
    (hcovered : Covered tools rows (resolveBudgets executedTools) pricing ceilingUsd) :
    PreflightSound tools pricing executedTools rows ceilingUsd := by
  intro batch credentialPresent acts i error calls hhonest hended
  have hcalls : 0 ≤ (resolveBudgets executedTools).modelCalls := by
    simp only [evidenceBudgetCurve, List.mem_cons, List.not_mem_nil, or_false] at hcurve
    simp only [resolveBudgets]
    omega
  have htotal := sends_total_le batch hcalls tools ⟨pricing, some ceilingUsd, credentialPresent⟩
  have hroom : applicationWideSpendUsd rows + worstCaseUsd tools (resolveBudgets executedTools)
      pricing + reservationCeilingBufferUsd ≤ ceilingUsd := by
    rcases hcovered with hcheaper | hroom
    · have hcounted := (passes_iff reading tools rows _ ceilingUsd).1 hpasses
      have hruns : (0 : ℚ) ≤ scoredRuns * (((resolveBudgets executedTools).modelCalls +
          (resolveBudgets executedTools).repairs : ℤ) : ℚ) :=
        mul_nonneg (Nat.cast_nonneg _) (by exact_mod_cast (by omega))
      have hless := mul_le_mul_of_nonneg_left hcheaper hruns
      simp only [preflightWorstCaseBatchUsd, worstCaseUsd] at hcounted ⊢
      linarith
    · exact hroom
  refine never_over_ceiling hkeyed (fun _ => rfl) ?_ hhonest i hended
  simp only [applicationWideSpendUsd] at hroom
  linarith

end Batch

section Exhausted

variable {ι : Type} [DecidableEq ι] {pricing : PricingSnapshot} {ceiling : ℚ}
  {request : ι → ModelRequest} {tools : ι → String} {system : System ι}

def reservingCalls (pricing : PricingSnapshot) (ceiling : ℚ) (request : ι → ModelRequest)
    (tools : ι → String) (i : ι) : SendCall := ⟨⟨pricing, some ceiling, true⟩, request i, tools i⟩

/-- A store that works and a provider that does not answer. -/
def unanswered : Surroundings := ⟨0, false, none⟩

def reserving (i : ι) : List (Act ι) := [.start i, .advance i unanswered, .advance i unanswered]

omit [DecidableEq ι] in
theorem honest_reserving (calls : ι → SendCall) (indices : List ι) :
    ∀ act ∈ indices.flatMap reserving, Honest calls act := by
  intro act hact
  obtain ⟨i, -, hreserving⟩ := List.mem_flatMap.1 hact
  simp only [reserving, List.mem_cons, List.not_mem_nil, or_false] at hreserving
  rcases hreserving with rfl | rfl | rfl
  · trivial
  · exact fun message usage hmessage => nomatch hmessage
  · exact fun message usage hmessage => nomatch hmessage

theorem advance_running {calls : ι → SendCall} {i : ι} {op : SendOp}
    {next : op.Result → Sending AIMessage} (h : system.progress i = .running (.call op next))
    (surroundings : Surroundings) :
    system.step calls (.advance i surroundings) =
      (exec surroundings i system op).2.setProgress i
        (standing (next (exec surroundings i system op).1)) := by
  simp only [System.step, h]

theorem run_reserving {i : ι} (hfits : Fits (request i)) (hwaiting : system.progress i = .waiting) :
    system.run (reservingCalls pricing ceiling request tools) (reserving i) =
      (system.setProgress i (standing (sendAt pricing ceiling (request i) (tools i) 0))).step
        (reservingCalls pricing ceiling request tools) (.advance i unanswered) := by
  have hstart : system.step (reservingCalls pricing ceiling request tools) (.start i) =
      system.setProgress i
        (.running (.call .clock (sendAt pricing ceiling (request i) (tools i)))) := by
    simp only [System.step, hwaiting, reservingCalls, send_fits hfits]
    rfl
  have hclock : (system.setProgress i (.running (.call .clock
      (sendAt pricing ceiling (request i) (tools i))))).step
        (reservingCalls pricing ceiling request tools) (.advance i unanswered) =
      system.setProgress i (standing (sendAt pricing ceiling (request i) (tools i) 0)) := by
    rw [advance_running (Function.update_self i _ _)]
    simp only [exec, unanswered, System.setProgress, Function.update_idem]
  simp only [System.run, reserving, List.foldl_cons, List.foldl_nil]
  rw [hstart, hclock]

theorem record_over {rows : List CostLedgerRow} {key : RequestKey} {price : ℚ}
    (hprice : 0 ≤ price) (hceiling : 0 ≤ ceiling) (hnew : readRow rows key = none)
    (hover : ceiling - reservationCeilingBufferUsd - reservedAndSettledTotal rows < price) :
    ∃ remaining, recordReservationBeforeRequest rows key (some price) 0 (some ceiling) =
      (.error (.costCeilingExceeded price remaining), rows) := by
  simp only [recordReservationBeforeRequest, validMoney, dif_pos hprice, dif_pos hceiling, hnew,
    gt_iff_lt, if_pos hover]
  exact ⟨_, rfl⟩

theorem record_under {rows : List CostLedgerRow} {key : RequestKey} {price : ℚ}
    (hprice : 0 ≤ price) (hceiling : 0 ≤ ceiling) (hnew : readRow rows key = none)
    (hunder : price ≤ ceiling - reservationCeilingBufferUsd - reservedAndSettledTotal rows) :
    ∃ row, recordReservationBeforeRequest rows key (some price) 0 (some ceiling) =
      (.ok (row, true), rows ++ [row]) ∧ row.key = key ∧ row.accounted = price := by
  have hroom : ¬ ceiling - reservationCeilingBufferUsd - reservedAndSettledTotal rows < price :=
    not_lt.2 hunder
  simp only [recordReservationBeforeRequest, validMoney, dif_pos hprice, dif_pos hceiling, hnew,
    gt_iff_lt, if_neg hroom]
  exact ⟨_, rfl, rfl, rfl⟩

theorem reserving_over (pricing : PricingSnapshot) (tools : ι → String) {i : ι}
    (hfits : Fits (request i)) (hwaiting : system.progress i = .waiting)
    (hceiling : 0 ≤ ceiling) (hnew : readRow system.rows (requestKey (request i)) = none)
    (hover : ceiling - reservationCeilingBufferUsd - reservedAndSettledTotal system.rows <
      priceOf pricing (request i) (tools i)) :
    ∃ error, (system.run (reservingCalls pricing ceiling request tools) (reserving i)).progress i =
      .ended (.error error) ∧ error.IsCeiling := by
  obtain ⟨remaining, hrecord⟩ := record_over (priceOf_nonneg pricing (request i) (tools i))
    hceiling hnew hover
  refine ⟨.ledger (.costCeilingExceeded (priceOf pricing (request i) (tools i)) remaining), ?_,
    trivial⟩
  rw [run_reserving hfits hwaiting, advance_running (Function.update_self i _ _)]
  simp only [exec, unanswered, System.setProgress, Bool.false_eq_true, if_false, hrecord,
    Function.update_self]
  rfl

theorem reserving_under (pricing : PricingSnapshot) (tools : ι → String) {i : ι}
    (hfits : Fits (request i))
    (hwaiting : system.progress i = .waiting) (hceiling : 0 ≤ ceiling)
    (hnew : readRow system.rows (requestKey (request i)) = none)
    (hunder : priceOf pricing (request i) (tools i) ≤
      ceiling - reservationCeilingBufferUsd - reservedAndSettledTotal system.rows) :
    let after := system.run (reservingCalls pricing ceiling request tools) (reserving i)
    (∃ row, after.rows = system.rows ++ [row] ∧ row.key = requestKey (request i) ∧
      row.accounted = priceOf pricing (request i) (tools i)) ∧
      ∀ j, j ≠ i → after.progress j = system.progress j := by
  intro after
  obtain ⟨row, hrecord, hkey, haccounted⟩ := record_under
    (priceOf_nonneg pricing (request i) (tools i)) hceiling hnew hunder
  have hafter : after = (system.setProgress i
      (standing (sendAt pricing ceiling (request i) (tools i) 0))).step
        (reservingCalls pricing ceiling request tools) (.advance i unanswered) :=
    run_reserving hfits hwaiting
  rw [advance_running (Function.update_self i _ _)] at hafter
  simp only [exec, unanswered, System.setProgress, Bool.false_eq_true, if_false, hrecord,
    System.note, Function.update_idem] at hafter
  rw [hafter]
  exact ⟨⟨row, rfl, hkey, haccounted⟩, fun j hj => Function.update_of_ne hj _ _⟩

omit [DecidableEq ι] in
theorem unread_of_keys {rows : List CostLedgerRow}
    (hdistinct : Function.Injective fun i => requestKey (request i)) {before : List ι} {i : ι}
    (hkeys : rows.map CostLedgerRow.key = before.map fun i => requestKey (request i))
    (hnot : i ∉ before) : readRow rows (requestKey (request i)) = none := by
  refine Rows.lookup_eq_none.2 ?_
  intro row hrow hkey
  have hmem : row.key ∈ before.map fun i => requestKey (request i) :=
    hkeys ▸ List.mem_map_of_mem hrow
  obtain ⟨j, hj, hsame⟩ := List.mem_map.1 hmem
  obtain rfl : j = i := hdistinct (hsame.trans hkey)
  exact hnot hj

theorem run_append (calls : ι → SendCall) (first second : List (Act ι)) :
    system.run calls (first ++ second) = (system.run calls first).run calls second :=
  List.foldl_append

/-- Calls with keys of their own that fit together are reserved one after the other. -/
theorem run_under (pricing : PricingSnapshot) (tools : ι → String)
    (hfits : ∀ i, Fits (request i)) (hceiling : 0 ≤ ceiling)
    (hdistinct : Function.Injective fun i => requestKey (request i)) {indices : List ι}
    (hnodup : indices.Nodup)
    (hunder : (indices.map fun i => priceOf pricing (request i) (tools i)).sum ≤
      ceiling - reservationCeilingBufferUsd) :
    let after := (System.initial []).run (reservingCalls pricing ceiling request tools)
      (indices.flatMap reserving)
    after.rows.map CostLedgerRow.key = indices.map (fun i => requestKey (request i)) ∧
      reservedAndSettledTotal after.rows =
        (indices.map fun i => priceOf pricing (request i) (tools i)).sum ∧
      ∀ i, i ∉ indices → after.progress i = .waiting := by
  induction indices using List.reverseRecOn with
  | nil => exact ⟨rfl, rfl, fun _ _ => rfl⟩
  | append_singleton before i ih =>
      obtain ⟨hbefore, -, hapart⟩ := List.nodup_append.1 hnodup
      have hnot : i ∉ before := fun hmem => hapart i hmem i (List.mem_singleton_self i) rfl
      rw [List.map_append, List.sum_append] at hunder
      simp only [List.map_cons, List.map_nil, List.sum_cons, List.sum_nil, add_zero] at hunder
      have hprice := priceOf_nonneg pricing (request i) (tools i)
      obtain ⟨hkeys, htotal, hwaiting⟩ := ih hbefore (by linarith)
      have hnew := unread_of_keys hdistinct hkeys hnot
      obtain ⟨⟨row, hrows, hkey, haccounted⟩, hothers⟩ := reserving_under pricing tools
        (hfits i) (hwaiting i hnot) hceiling hnew (by rw [htotal]; linarith)
      rw [List.flatMap_append, List.flatMap_singleton, run_append]
      refine ⟨?_, ?_, ?_⟩
      · rw [hrows, List.map_append, hkeys, List.map_append, List.map_singleton, hkey,
          List.map_singleton]
      · rw [hrows, reservedAndSettledTotal, List.map_append, List.sum_append, List.map_append,
          List.sum_append, List.map_singleton, List.sum_singleton, haccounted, List.map_singleton,
          List.sum_singleton, ← htotal]
        rfl
      · intro j hj
        rw [List.mem_append, List.mem_singleton, not_or] at hj
        rw [hothers j hj.2]
        exact hwaiting j hj.1

omit [DecidableEq ι] in
/-- The first of a list of amounts that exceeds a room together with those before it. -/
theorem exists_first_over (amount : ι → ℚ) {room : ℚ} (hroom : 0 ≤ room) {indices : List ι}
    (hover : room < (indices.map amount).sum) :
    ∃ before i rest, indices = before ++ i :: rest ∧ (before.map amount).sum ≤ room ∧
      room < (before.map amount).sum + amount i := by
  induction indices using List.reverseRecOn with
  | nil => exact absurd hover (not_lt.2 hroom)
  | append_singleton before i ih =>
      by_cases hfirst : room < (before.map amount).sum
      · obtain ⟨earlier, j, rest, hsplit, hunder, hexceeds⟩ := ih hfirst
        refine ⟨earlier, j, rest ++ [i], ?_, hunder, hexceeds⟩
        rw [hsplit, List.append_assoc, List.cons_append]
      · rw [List.map_append, List.sum_append, List.map_singleton, List.sum_singleton] at hover
        exact ⟨before, i, [], rfl, not_lt.1 hfirst, hover⟩

/-- Calls with keys of their own that cost more than the room together: one of them is
refused for the ceiling. -/
theorem some_over (pricing : PricingSnapshot) (tools : ι → String)
    (hfits : ∀ i, Fits (request i))
    (hroom : reservationCeilingBufferUsd ≤ ceiling)
    (hdistinct : Function.Injective fun i => requestKey (request i)) {indices : List ι}
    (hnodup : indices.Nodup)
    (hover : ceiling - reservationCeilingBufferUsd <
      (indices.map fun i => priceOf pricing (request i) (tools i)).sum) :
    ∃ before i error, ((System.initial []).run (reservingCalls pricing ceiling request tools)
      ((before ++ [i]).flatMap reserving)).progress i = .ended (.error error) ∧
        error.IsCeiling := by
  have hceiling : 0 ≤ ceiling := le_trans (by norm_num [reservationCeilingBufferUsd]) hroom
  obtain ⟨before, i, rest, rfl, hunder, hexceeds⟩ :=
    exists_first_over _ (sub_nonneg.2 hroom) hover
  obtain ⟨hbefore, -, hapart⟩ := List.nodup_append.1 hnodup
  have hnot : i ∉ before := fun hmem => hapart i hmem i List.mem_cons_self rfl
  obtain ⟨hkeys, htotal, hwaiting⟩ := run_under pricing tools hfits
    hceiling hdistinct hbefore hunder
  have hnew := unread_of_keys hdistinct hkeys hnot
  obtain ⟨error, hended, hrefusal⟩ := reserving_over pricing tools
    (hfits i) (hwaiting i hnot) hceiling hnew (by rw [htotal]; linarith)
  refine ⟨before, i, error, ?_, hrefusal⟩
  rw [List.flatMap_append, List.flatMap_singleton, run_append]
  exact hended

end Exhausted

section Samples

def labDefinitions : ToolDefinitions where
  propose := textOf 13716
  respond := textOf 2422
  ordered := by
    rw [estimateInputTokens_textOf, estimateInputTokens_textOf]
    norm_num

theorem le_length_intercalate {α : Type} (separator : List α) {bounds : List ℕ}
    {pieces : List (List α)} (h : List.Forall₂ (fun bound piece => bound ≤ piece.length) bounds
      pieces) : bounds.sum ≤ (separator.intercalate pieces).length := by
  induction h with
  | nil => simp
  | @cons bound first bounds rest hfirst hrest ih =>
      rw [List.sum_cons]
      cases rest with
      | nil =>
          obtain rfl := List.forall₂_nil_right_iff.1 hrest
          simpa using hfirst
      | cons second others =>
          rw [List.intercalate_cons_cons, List.length_append, List.length_append]
          omega

theorem le_length_ofList {bound : ℕ} (cs : List Char) (h : bound ≤ cs.length) :
    bound ≤ (String.ofList cs).toList.length := by
  rwa [String.toList_ofList]

theorem systemText_long : 2000 ≤ systemText.length := by
  have hlines : [60, 80, 20, 0, 70, 70, 70, 70, 80, 50, 0, 70, 70, 70, 70, 70, 40, 0, 80, 80, 80,
      80, 80, 80, 80, 80, 80, 70, 80, 60, 80, 80, 80, 80, 80, 10, 70, 70, 10].sum ≤
        systemText.length := by
    rw [systemText, joinStrings, String.length_ofList]
    refine le_length_intercalate _ ?_
    simp only [List.map_cons, List.map_nil]
    repeat refine .cons (le_length_ofList _ (by decide)) ?_
    exact .nil
  exact le_trans (by decide) hlines

/-- A question of a run: the turn and stage, and what a repair has to correct. -/
structure LabQuestion where
  turn : ℕ
  stage : Stage
  phase : GraphPhase
  repairErrors : Option String

/-- A request of a stage, as a run with nothing gathered makes it. -/
def labRequest (run : Fin scoredRuns) (question : LabQuestion) : ModelRequest where
  stage := question.stage
  systemText := systemText
  contextText := probeLines ++ "\n\n## Task\n" ++ stageInstructions question.stage
  repairErrors := question.repairErrors
  runId := "run-" ++ toString run.1
  graphPhase := question.phase
  modelTurn := question.turn
  contextDigest := if question.repairErrors.isSome then "repair" else "digest"

/-- With tools, a plan and an update that are both repaired, a second update and an assessment;
without tools, an assessment that is repaired. -/
def labQuestions : Bool → List LabQuestion
  | true =>
      [⟨0, .initialPlan, .investigate, none⟩,
        ⟨0, .initialPlan, .investigate, some "Field required"⟩,
        ⟨1, .hypothesisUpdate, .investigate, none⟩,
        ⟨1, .hypothesisUpdate, .investigate, some "Field required"⟩,
        ⟨2, .hypothesisUpdate, .investigate, none⟩,
        ⟨3, .finalAssessment, .finalAssessment, none⟩]
  | false =>
      [⟨0, .finalAssessment, .finalAssessment, none⟩,
        ⟨0, .finalAssessment, .finalAssessment, some "Field required"⟩]

def labArm (run : Fin scoredRuns) : Bool := run.1 < 12

def labRequests (run : Fin scoredRuns) : List ModelRequest :=
  (labQuestions (labArm run)).map (labRequest run)

def labBatch : Batch (resolveBudgets 2) where
  requests := labRequests
  within := by
    intro run
    rw [labRequests, List.length_map]
    cases labArm run <;> decide

theorem labRequest_fits (run : Fin scoredRuns) {question : LabQuestion}
    (hrepair : question.repairErrors = none ∨ question.repairErrors = some "Field required") :
    Fits (labRequest run question) := by
  have hsystem := systemText_length
  have hlines := probeLines_length
  have htask : ("\n\n## Task\n" : String).length ≤ 20 := length_ofList_le _ (by decide)
  have hheader : ("\n\n## Correction needed\n" : String).length ≤ 30 :=
    length_ofList_le _ (by decide)
  have herrors : ("Field required" : String).length ≤ 20 := length_ofList_le _ (by decide)
  have hpresent : ("Field required" : String) ≠ "" := by decide
  have hinstructions := stageInstructions_length question.stage
  rcases hrepair with hnone | hsome
  · simp only [Fits, estimateInputTokens, labRequest, humanContent, hnone, String.length_append,
      maxInputTokens]
    omega
  · simp only [Fits, estimateInputTokens, labRequest, humanContent, hsome, if_neg hpresent,
      String.length_append, maxInputTokens]
    omega

theorem labQuestions_repairs (tools : Bool) : ∀ question ∈ labQuestions tools,
    question.repairErrors = none ∨ question.repairErrors = some "Field required" := by
  cases tools <;> simp [labQuestions]

def labAsked (i : labBatch.Calls) : ModelRequest := (labBatch.requests i.1).get i.2

def labBound (i : labBatch.Calls) : String := labDefinitions.boundBy (labAsked i).stage

theorem labAsked_mem (i : labBatch.Calls) :
    ∃ question ∈ labQuestions (labArm i.1), labRequest i.1 question = labAsked i :=
  List.mem_map.1 (List.get_mem (labRequests i.1) i.2)

theorem labCalls_fit (i : labBatch.Calls) : Fits (labAsked i) := by
  obtain ⟨question, hquestion, hasked⟩ := labAsked_mem i
  rw [← hasked]
  exact labRequest_fits i.1 (labQuestions_repairs _ question hquestion)

theorem labRuns_distinct : ∀ run other : Fin scoredRuns,
    "run-" ++ toString run.1 = "run-" ++ toString other.1 → run = other := by decide +kernel

/-- The requests of one run differ in their phase, their turn or their digest. -/
theorem labRequests_nodup (run : Fin scoredRuns) :
    ((labRequests run).map requestKey).Nodup := by
  have hparts : ∀ tools : Bool, (((labQuestions tools).map (labRequest run)).map fun request =>
      (request.graphPhase, request.modelTurn, request.contextDigest)).Nodup := by
    intro tools
    cases tools <;> simp [labQuestions, labRequest]
  refine List.Nodup.of_map (fun key => (key.graphPhase, key.modelTurn, key.contextDigest)) ?_
  rw [List.map_map]
  have hvalue : Function.Injective fun parts : GraphPhase × ℕ × String =>
      (parts.1.value, (parts.2.1 : ℤ), parts.2.2) := by
    rintro ⟨phase, turn, digest⟩ ⟨phase', turn', digest'⟩ heq
    simp only [Prod.mk.injEq, Nat.cast_inj] at heq
    obtain ⟨hphase, rfl, rfl⟩ := heq
    have hsame : phase = phase' := by
      revert hphase
      cases phase <;> cases phase' <;> decide
    rw [hsame]
  have hmapped := (hparts (labArm run)).map hvalue
  rwa [List.map_map] at hmapped

theorem labCalls_distinct : Function.Injective fun i => requestKey (labAsked i) := by
  rintro ⟨run, place⟩ ⟨other, otherPlace⟩ heq
  have hrun : ∀ i : labBatch.Calls, (labAsked i).runId = "run-" ++ toString i.1.1 := by
    intro i
    obtain ⟨question, -, hasked⟩ := labAsked_mem i
    rw [← hasked]
    rfl
  have hsame : (labAsked ⟨run, place⟩).runId = (labAsked ⟨other, otherPlace⟩).runId :=
    congrArg RequestKey.runId heq
  rw [hrun, hrun] at hsame
  obtain rfl := labRuns_distinct run other hsame
  have hnodup := labRequests_nodup run
  have hget := List.inj_on_of_nodup_map hnodup (List.get_mem (labRequests run) place)
    (List.get_mem (labRequests run) otherPlace) heq
  rw [List.nodup_iff_injective_get.1 (hnodup.of_map _) hget]

/-- The instructions and the tools alone are a part of what a request costs. -/
theorem tools_le_price (run : Fin scoredRuns) (question : LabQuestion) (tools : String) (n : ℕ)
    (htools : estimateInputTokens tools = n) :
    claudeOpus5Pricing.reservationUsd (2000 + n) ≤
      priceOf claudeOpus5Pricing (labRequest run question) tools := by
  have hsystem := systemText_long
  rw [← htools]
  refine reservationUsd_mono _ (Nat.add_le_add ?_ le_rfl)
  simp only [estimateInputTokens, labRequest, String.length_append]
  omega

def labFloor : Stage → ℚ
  | .finalAssessment => 6211 / 100000
  | _ => 11858 / 100000

theorem labRequest_price (run : Fin scoredRuns) (question : LabQuestion) :
    labFloor question.stage ≤ priceOf claudeOpus5Pricing (labRequest run question)
      (labDefinitions.boundBy question.stage) := by
  have hpropose : 11858 / 100000 ≤
      priceOf claudeOpus5Pricing (labRequest run question) labDefinitions.propose := by
    refine le_trans ?_ (tools_le_price run question _ 13716 (estimateInputTokens_textOf 13716))
    norm_num [PricingSnapshot.reservationUsd, claudeOpus5Pricing, maxOutputTokens]
  have hrespond : 6211 / 100000 ≤
      priceOf claudeOpus5Pricing (labRequest run question) labDefinitions.respond := by
    refine le_trans ?_ (tools_le_price run question _ 2422 (estimateInputTokens_textOf 2422))
    norm_num [PricingSnapshot.reservationUsd, claudeOpus5Pricing, maxOutputTokens]
  cases question.stage with
  | initialPlan => exact hpropose
  | hypothesisUpdate => exact hpropose
  | finalAssessment => exact hrespond

def labCost (tools : Bool) : ℚ :=
  ((labQuestions tools).map fun question => labFloor question.stage).sum

theorem sum_labAsked (run : Fin scoredRuns) (price : ModelRequest → ℚ) :
    ∑ place, price (labAsked ⟨run, place⟩) =
      ((labQuestions (labArm run)).map fun question => price (labRequest run question)).sum := by
  have hplaces := Fin.sum_univ_fun_getElem (labRequests run) price
  rw [labRequests, List.map_map] at hplaces
  exact hplaces

theorem labRun_price (run : Fin scoredRuns) :
    labCost (labArm run) ≤ ∑ place, priceOf claudeOpus5Pricing (labAsked ⟨run, place⟩)
      (labBound ⟨run, place⟩) := by
  simp only [labBound]
  have hplaces := sum_labAsked run fun request =>
    priceOf claudeOpus5Pricing request (labDefinitions.boundBy request.stage)
  refine le_of_le_of_eq ?_ hplaces.symm
  exact List.sum_le_sum fun question _ => labRequest_price run question

theorem labCost_total : ∑ run : Fin scoredRuns, labCost (labArm run) = 935076 / 100000 := by
  change ∑ run : Fin (12 + 12), labCost (decide (run.1 < 12)) = _
  have htools : ∀ i : Fin 12, labCost (decide ((Fin.castAdd 12 i).1 < 12)) = 65501 / 100000 := by
    intro i
    norm_num [labCost, labQuestions, labFloor]
  have hbaseline : ∀ i : Fin 12, labCost (decide ((Fin.natAdd 12 i).1 < 12)) = 12422 / 100000 := by
    intro i
    norm_num [labCost, labQuestions, labFloor]
  rw [Fin.sum_univ_add]
  simp only [htools, hbaseline, Finset.sum_const, Finset.card_univ, Fintype.card_fin,
    nsmul_eq_mul]
  norm_num

theorem preflightWorstCase_two (tools : ToolDefinitions) :
    preflightWorstCaseBatchUsd tools (resolveBudgets 2) =
      144 * ((9600 + (estimateInputTokens tools.propose : ℚ)) / 1000000 * 2 + 16 / 1000) := by
  have hruns : (scoredRuns : ℚ) = 24 := by norm_num [scoredRuns, evaluationFamilies, evaluationSeeds]
  simp only [preflightWorstCaseBatchUsd, worstCaseUsd, maximumPossibleReservationUsd,
    hruns, PricingSnapshot.reservationUsd, claudeSonnet5Pricing, maxInputTokens, maxOutputTokens,
    resolveBudgets, defaultBudgets]
  push_cast
  linarith

theorem preflightWorstCase_lab :
    preflightWorstCaseBatchUsd labDefinitions (resolveBudgets 2) = 9019008 / 1000000 := by
  have htools : (estimateInputTokens labDefinitions.propose : ℚ) = 13716 :=
    congrArg Nat.cast (estimateInputTokens_textOf 13716)
  rw [preflightWorstCase_two, htools]
  norm_num

/-- Sonnet passes the check under ten dollars on an empty ledger. -/
theorem preflight_sound_sonnet :
    PreflightSound labDefinitions claudeSonnet5Pricing 2 [] 10 := by
  refine preflight_sound labReading labDefinitions claudeSonnet5Pricing 2 [] 10 (by decide)
    (Rows.keyed_nil _) ?_ (covered_sonnet _ _ _ _)
  refine (passes_iff _ _ _ _ _).2 ?_
  rw [preflightWorstCase_lab]
  norm_num [applicationWideSpendUsd, reservedAndSettledTotal, reservationCeilingBufferUsd]

/-- Opus passes the same check, under a ceiling that the batch exceeds. -/
theorem preflight_opus_fails :
    checkPreflightCost labReading labDefinitions [] (resolveBudgets 2) (228 / 25) = .ok () ∧
      ¬ PreflightSound labDefinitions claudeOpus5Pricing 2 [] (228 / 25) := by
  refine ⟨(passes_iff _ _ _ _ _).2 ?_, ?_⟩
  · rw [preflightWorstCase_lab]
    norm_num [applicationWideSpendUsd, reservedAndSettledTotal, reservationCeilingBufferUsd]
  · intro hsound
    have htotal : (228 / 25 : ℚ) - reservationCeilingBufferUsd < (Finset.univ.toList.map
        fun i => priceOf claudeOpus5Pricing (labAsked i) (labBound i)).sum := by
      rw [Finset.sum_map_toList, sum_calls]
      calc (228 / 25 : ℚ) - reservationCeilingBufferUsd
          < ∑ run : Fin scoredRuns, labCost (labArm run) := by
            rw [labCost_total]
            norm_num [reservationCeilingBufferUsd]
        _ ≤ ∑ run, ∑ place, priceOf claudeOpus5Pricing (labAsked ⟨run, place⟩)
              (labBound ⟨run, place⟩) := Finset.sum_le_sum fun run _ => labRun_price run
    obtain ⟨before, i, error, hended, hrefusal⟩ := some_over claudeOpus5Pricing labBound labCalls_fit
      (by norm_num [reservationCeilingBufferUsd]) labCalls_distinct (Finset.nodup_toList _) htotal
    exact hsound labBatch true _ i error (honest_reserving _ (before ++ [i])) hended hrefusal

end Samples

end CausalOps.Cost
