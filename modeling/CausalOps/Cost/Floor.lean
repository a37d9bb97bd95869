import CausalOps.ControlPlane.Ledger
import CausalOps.Cost.Send
import CausalOps.Investigation.Prompts

set_option autoImplicit false

/-! The ceiling that a live run is configured with, and the floor under it: the price of the
smallest request that could ever be sent. -/

namespace CausalOps.Cost

open CausalOps.ControlPlane (CheckpointStoreError CheckpointStoreReasonCode)
open CausalOps.Investigation

section Selection

def claudeHaiku45Pricing : PricingSnapshot := ⟨1, 5, by norm_num, by norm_num⟩

def claudeOpus5Pricing : PricingSnapshot := ⟨5, 25, by norm_num, by norm_num⟩

/-- What `float(text)` makes of a text. -/
inductive ParsedFloat where
  | malformed (error : String)
  | notFinite
  | finite (value : ℚ)
  deriving DecidableEq

/-- `str.lower`, `float`, `repr`, and a number with so many decimals. -/
structure Reading where
  lower : String → String
  float : String → ParsedFloat
  represent : String → String
  fixed : ℕ → ℚ → String

abbrev Environment := String → Option String

def liveModelVariable : String := "CAUSALOPS_LIVE_MODEL"

def liveModelPricing : String → Option PricingSnapshot
  | "sonnet" => some claudeSonnet5Pricing
  | "haiku" => some claudeHaiku45Pricing
  | "opus" => some claudeOpus5Pricing
  | _ => none

structure UnknownLiveModel where
  message : String

def resolveLiveModelPricing (reading : Reading) (environment : Environment) :
    Except UnknownLiveModel PricingSnapshot :=
  let raw := reading.lower (Text.strip ((environment liveModelVariable).getD ""))
  if raw = "" then .ok claudeSonnet5Pricing
  else
    match liveModelPricing raw with
    | some pricing => .ok pricing
    | none => .error ⟨liveModelVariable ++ "=" ++ reading.represent raw ++
        " is not one of ['haiku', 'opus', 'sonnet']"⟩

end Selection

section Probe

def minimumReservationProbeRunId : String := "minimum-reservation-probe"

def probeStart : CausalOps.Investigation.Time := 1767225600000000

def probeScope : IncidentScope where
  incidentId := minimumReservationProbeRunId
  services := ["service"]
  startedAt := probeStart
  endedAt := probeStart + 60000000
  endpoint := "/"
  servicesNonempty := List.cons_ne_nil _ _
  windowOrdered := by decide

def probePacket : InitialAlertPacket where
  incidentId := probeScope.incidentId
  windowStart := probeScope.startedAt
  windowEnd := probeScope.endedAt
  endpoint := probeScope.endpoint
  symptom := .elevatedLatency
  services := probeScope.services
  alertedAt := probeScope.startedAt
  alertSourceVersion := "probe"
  symptomEvidenceId := "probe-symptom"
  topologyEvidenceId := "probe-topology"
  servicesNonempty := probeScope.servicesNonempty

/-- The context of a run that has gathered nothing and spent one call. -/
def probeLines : String :=
  renderContext probePacket probeScope [] [] (defaultBudgets.modelCalls - 1)
    defaultBudgets.executedTools [] [] defaultBudgets.runbookSearches

def probeContext : String :=
  probeLines ++ "\n\n## Task\n" ++ stageInstructions .finalAssessment

def buildMinimumFinalAssessmentRequest (digestText : String → String) : ModelRequest where
  stage := .finalAssessment
  systemText := systemText
  contextText := probeContext
  repairErrors := none
  runId := minimumReservationProbeRunId
  graphPhase := .finalAssessment
  modelTurn := 1
  contextDigest := digestText (systemText ++ probeContext)

/-- `MinimumReservationProbeTransport`, on a ledger in memory. -/
def probeSurroundings : Surroundings where
  now := 0
  storeFails := false
  reply := some ⟨.str "", [], [], some ⟨0, 0⟩⟩

/-- One call of `_send` from its start to its end: a call has at most seven operations. -/
def sendAlone (call : SendCall) : System Unit :=
  (System.initial []).run (fun _ => call)
    (.start () :: List.replicate 7 (.advance () probeSurroundings))

/-- The row of the smallest request, sent on an empty ledger under a ceiling. -/
def probeRow (digestText : String → String) (tools : String) (pricing : PricingSnapshot)
    (ceilingUsd : ℚ) : Option CostLedgerRow :=
  (sendAlone ⟨⟨pricing, some ceilingUsd, true⟩, buildMinimumFinalAssessmentRequest digestText,
    tools⟩).rows.find? fun row => row.key.runId = minimumReservationProbeRunId

/-- A probe that raises leaves its module unloaded. -/
def minimumPossibleReservationUsd (digestText : String → String) (tools : String)
    (pricing : PricingSnapshot) : Option ℚ :=
  (probeRow digestText tools pricing 1000000).map CostLedgerRow.reservedUsd

end Probe

section Ceiling

def defaultLiveEvaluationMaxUsd : ℚ := 5

def liveEvaluationMaxUsdVariable : String := "LIVE_EVALUATION_MAX_USD"

/-- `MINIMUM_USABLE_CEILING_USD`, given `MINIMUM_POSSIBLE_RESERVATION_USD`. -/
def minimumUsableCeilingUsd (minimumUsd : ℚ) : ℚ := reservationCeilingBufferUsd + minimumUsd

def notANumber (reading : Reading) (raw error : String) : String :=
  liveEvaluationMaxUsdVariable ++ "=" ++ reading.represent raw ++ " is not a number (" ++ error ++
    "). Set it to a plain positive figure such as 5.00, or leave it unset to use the default ($" ++
    reading.fixed 2 defaultLiveEvaluationMaxUsd ++ ", see .env.example)."

def notFiniteNumber (reading : Reading) (raw : String) : String :=
  liveEvaluationMaxUsdVariable ++ "=" ++ reading.represent raw ++ " is not a finite number -- " ++
    "infinite and NaN ceilings are not a real spending limit. Set it to a plain positive " ++
    "figure such as 5.00 (see .env.example)."

def belowFloor (reading : Reading) (minimumUsd value : ℚ) : String :=
  let usable := reading.fixed 6 (minimumUsableCeilingUsd minimumUsd)
  liveEvaluationMaxUsdVariable ++ "=" ++ reading.fixed 4 value ++ " is at or below $" ++ usable ++
    " -- the $" ++ reading.fixed 2 reservationCeilingBufferUsd ++ " reservation safety buffer " ++
    "every live request is checked against, plus $" ++ reading.fixed 6 minimumUsd ++
    ", the cheapest real reservation this project's pricing could ever produce -- so no " ++
    "reservation, however small, could ever be authorized at this ceiling. Set " ++
    liveEvaluationMaxUsdVariable ++ " comfortably above $" ++ usable ++ " (see .env.example)."

/-- What the variable says, unless it is unset or blank. -/
def configuredCeiling (reading : Reading) (environment : Environment) : Option ParsedFloat :=
  let raw := Text.strip ((environment liveEvaluationMaxUsdVariable).getD "")
  if raw = "" then none else some (reading.float raw)

def liveEvaluationCeilingUsd (reading : Reading) (minimumUsd : ℚ) (environment : Environment) :
    Except CheckpointStoreError ℚ :=
  let raw := Text.strip ((environment liveEvaluationMaxUsdVariable).getD "")
  match configuredCeiling reading environment with
  | none => .ok defaultLiveEvaluationMaxUsd
  | some (.malformed error) => .error ⟨.ceilingMalformed, notANumber reading raw error⟩
  | some .notFinite => .error ⟨.ceilingMalformed, notFiniteNumber reading raw⟩
  | some (.finite value) =>
      if value ≤ minimumUsableCeilingUsd minimumUsd then
        .error ⟨.ceilingBelowReservationBuffer, belowFloor reading minimumUsd value⟩
      else .ok value

end Ceiling

section Alone

variable {pricing : PricingSnapshot} {request : ModelRequest} {tools : String} {ceiling : ℚ}

/-- The price of a request with its tools: what `_send` reserves. -/
def priceOf (pricing : PricingSnapshot) (request : ModelRequest) (tools : String) : ℚ :=
  pricing.reservationUsd (estimateInputTokens (request.systemText ++ humanContent request) +
    estimateInputTokens tools)

theorem priceOf_nonneg (pricing : PricingSnapshot) (request : ModelRequest) (tools : String) :
    0 ≤ priceOf pricing request tools := pricing.reservationUsd_nonneg _

def Fits (request : ModelRequest) : Prop :=
  estimateInputTokens (request.systemText ++ humanContent request) ≤ maxInputTokens

/-- What is left of `_send` once it knows the time. -/
def sendAt (pricing : PricingSnapshot) (ceiling : ℚ) (request : ModelRequest) (tools : String)
    (requestedAt : Moment) : Sending AIMessage :=
  recordReservation (requestKey request) (some (priceOf pricing request tools)) requestedAt
      (some ceiling) >>= fun answer =>
    if answer.2 then invokeAndSettle ⟨pricing, some ceiling, true⟩ request tools
    else .raise (.ambiguousReservationNotResent answer.1)

theorem send_fits (hfits : Fits request) :
    send ⟨pricing, some ceiling, true⟩ request tools =
      .call .clock (sendAt pricing ceiling request tools) := by
  have hcap : ¬ estimateInputTokens (request.systemText ++ humanContent request) >
      maxInputTokens := Nat.not_lt.2 hfits
  simp only [send, Bool.true_eq_false, if_false, if_neg hcap]
  rfl

theorem reserve_refused (key : RequestKey) (requestedAt : Moment)
    (h : ceiling - reservationCeilingBufferUsd < priceOf pricing request tools) :
    ∃ error, recordReservationBeforeRequest [] key (some (priceOf pricing request tools))
      requestedAt (some ceiling) = (.error error, []) := by
  have hnonneg := priceOf_nonneg pricing request tools
  simp only [recordReservationBeforeRequest, validMoney, dif_pos hnonneg]
  by_cases hceiling : 0 ≤ ceiling
  · rw [dif_pos hceiling]
    simp [readRow, Rows.lookup, reservedAndSettledTotal, h]
  · rw [dif_neg hceiling]
    exact ⟨_, rfl⟩

def reservedRow (pricing : PricingSnapshot) (request : ModelRequest) (tools : String)
    (requestedAt : Moment) : CostLedgerRow where
  key := requestKey request
  state := .reserved
  reservedUsd := priceOf pricing request tools
  reservedAt := requestedAt
  reservedNonneg := priceOf_nonneg pricing request tools

theorem reserve_inserted (requestedAt : Moment)
    (h : priceOf pricing request tools ≤ ceiling - reservationCeilingBufferUsd) :
    recordReservationBeforeRequest [] (requestKey request)
        (some (priceOf pricing request tools)) requestedAt (some ceiling) =
      (.ok (reservedRow pricing request tools requestedAt, true),
        [reservedRow pricing request tools requestedAt]) := by
  have hnonneg := priceOf_nonneg pricing request tools
  have hceiling : 0 ≤ ceiling := by
    have hbuffer : (0 : ℚ) ≤ reservationCeilingBufferUsd := by
      norm_num [reservationCeilingBufferUsd]
    linarith
  simp only [recordReservationBeforeRequest, validMoney, dif_pos hnonneg, dif_pos hceiling]
  simp [readRow, Rows.lookup, reservedAndSettledTotal, not_lt.2 h, reservedRow]

section Steps

variable {calls : Unit → SendCall} {system : System Unit}

theorem setProgress_unit (system : System Unit) (progress : Progress) :
    system.setProgress () progress = ⟨system.rows, system.journal, fun _ => progress⟩ := by
  simp only [System.setProgress, System.mk.injEq, true_and]
  funext i
  exact Function.update_self () progress system.progress

theorem run_cons (act : Act Unit) (acts : List (Act Unit)) :
    system.run calls (act :: acts) = (system.step calls act).run calls acts := rfl

theorem step_advance {op : SendOp} {next : op.Result → Sending AIMessage}
    (h : system.progress () = .running (.call op next)) (surroundings : Surroundings) :
    system.step calls (.advance () surroundings) =
      ⟨(exec surroundings () system op).2.rows, (exec surroundings () system op).2.journal,
        fun _ => standing (next (exec surroundings () system op).1)⟩ := by
  rw [← setProgress_unit]
  simp only [System.step, h]

theorem run_ended {outcome : Except SendError AIMessage}
    (h : system.progress () = .ended outcome) (surroundings : Surroundings) (n : ℕ) :
    system.run calls (List.replicate n (.advance () surroundings)) = system := by
  induction n with
  | zero => rfl
  | succ n ih =>
      rw [List.replicate_succ]
      change (system.step calls _).run calls _ = system
      rw [System.step, h]
      exact ih

end Steps

theorem sendAlone_timed (hfits : Fits request) :
    sendAlone ⟨⟨pricing, some ceiling, true⟩, request, tools⟩ =
      (⟨[], [], fun _ => standing (sendAt pricing ceiling request tools 0)⟩ : System Unit).run
        (fun _ => ⟨⟨pricing, some ceiling, true⟩, request, tools⟩)
        (List.replicate 6 (.advance () probeSurroundings)) := by
  have hstart : (System.initial []).step (fun _ => ⟨⟨pricing, some ceiling, true⟩, request, tools⟩)
      (.start ()) =
        (⟨[], [], fun _ => .running (.call .clock (sendAt pricing ceiling request tools))⟩ :
          System Unit) := by
    simp only [System.step, System.initial, setProgress_unit, send_fits hfits]
    rfl
  rw [sendAlone, List.replicate_succ, run_cons, run_cons, hstart, step_advance rfl]
  rfl

theorem sendAlone_refused (hfits : Fits request)
    (h : ceiling - reservationCeilingBufferUsd < priceOf pricing request tools) :
    (sendAlone ⟨⟨pricing, some ceiling, true⟩, request, tools⟩).rows = [] := by
  obtain ⟨error, hreserve⟩ := reserve_refused (requestKey request) 0 h
  rw [sendAlone_timed hfits, List.replicate_succ, run_cons, step_advance rfl]
  simp only [exec, probeSurroundings, Bool.false_eq_true, if_false, hreserve]
  rw [run_ended rfl]

theorem readRow_reserved (requestedAt : Moment) :
    readRow [reservedRow pricing request tools requestedAt] (requestKey request) =
      some (reservedRow pricing request tools requestedAt) := by
  simp [readRow, Rows.lookup, reservedRow]

theorem settle_reserved (pricing : PricingSnapshot) (request : ModelRequest) (tools : String)
    (requestedAt settledAt : Moment) :
    ∃ row settlement, settleReservation [reservedRow pricing request tools requestedAt]
        (requestKey request) (some (pricing.actualCostUsd 0 0)) (some 0) (some 0) settledAt =
      (.ok row, [(reservedRow pricing request tools requestedAt).settle settlement]) := by
  have hcost : pricing.actualCostUsd 0 0 = 0 := by simp [PricingSnapshot.actualCostUsd]
  have hkey : (reservedRow pricing request tools requestedAt).key = requestKey request := rfl
  have hreserved : isReserved (reservedRow pricing request tools requestedAt) = true := by
    simp [isReserved, reservedRow]
  let settlement : Settlement := ⟨0, 0, 0, settledAt, le_rfl⟩
  refine ⟨(reservedRow pricing request tools requestedAt).settle settlement, settlement, ?_⟩
  simp only [settleReservation, hcost, validMoney, le_refl, dif_pos, validTokens, lt_irrefl,
    if_false]
  simp [Rows.update, hkey, hreserved, readRow, Rows.lookup, CostLedgerRow.settle, settlement]

theorem sendAlone_inserted (hfits : Fits request)
    (h : priceOf pricing request tools ≤ ceiling - reservationCeilingBufferUsd) :
    ∃ settlement, (sendAlone ⟨⟨pricing, some ceiling, true⟩, request, tools⟩).rows =
      [(reservedRow pricing request tools 0).settle settlement] := by
  obtain ⟨row, settlement, hsettle⟩ :=
    settle_reserved pricing request tools 0 0
  refine ⟨settlement, ?_⟩
  rw [sendAlone_timed hfits, List.replicate_succ, run_cons, step_advance rfl]
  simp only [exec, probeSurroundings, Bool.false_eq_true, if_false, reserve_inserted 0 h,
    System.note]
  -- the row is read back, and the provider invoked
  rw [List.replicate_succ, run_cons, step_advance rfl]
  simp only [exec, Bool.false_eq_true, if_false, readRow_reserved]
  rw [List.replicate_succ, run_cons, step_advance rfl, List.replicate_succ, run_cons,
    step_advance rfl]
  simp only [exec, System.note]
  -- the row is settled, and read back
  rw [List.replicate_succ, run_cons, step_advance rfl]
  simp only [exec, Bool.false_eq_true, if_false, hsettle, System.note]
  rw [List.replicate_succ, run_cons, step_advance rfl]
  rfl

end Alone

section Prose

theorem length_intercalate_le {α : Type} (separator : List α) (bound : ℕ) {pieces : List (List α)}
    (h : ∀ piece ∈ pieces, piece.length ≤ bound) :
    (separator.intercalate pieces).length ≤ pieces.length * (bound + separator.length) := by
  induction pieces with
  | nil => simp
  | cons first rest ih =>
      have hfirst : first.length ≤ bound := h first List.mem_cons_self
      have hrest := ih fun piece hpiece => h piece (List.mem_cons_of_mem _ hpiece)
      cases rest with
      | nil =>
          rw [List.intercalate_singleton, List.length_cons, List.length_nil]
          omega
      | cons second others =>
          rw [List.intercalate_cons_cons, List.length_append, List.length_append, List.length_cons,
            Nat.succ_mul]
          omega

theorem length_joinStrings_le (separator : String) (bound : ℕ) {pieces : List String}
    (h : ∀ piece ∈ pieces, piece.length ≤ bound) :
    (joinStrings separator pieces).length ≤ pieces.length * (bound + separator.length) := by
  have hpieces : ∀ piece ∈ pieces.map String.toList, piece.length ≤ bound := by
    intro piece hpiece
    obtain ⟨text, htext, rfl⟩ := List.mem_map.1 hpiece
    simpa only [String.length_toList] using h text htext
  have hjoined := length_intercalate_le separator.toList bound hpieces
  simpa only [joinStrings, Text.join, String.length_ofList, String.length_toList,
    List.length_map] using hjoined

theorem length_ofList_le {bound : ℕ} (cs : List Char) (h : cs.length ≤ bound) :
    (String.ofList cs).length ≤ bound := by
  rwa [String.length_ofList]

theorem length_append_le {first second : String} {m n : ℕ} (hfirst : first.length ≤ m)
    (hsecond : second.length ≤ n) : (first ++ second).length ≤ m + n := by
  rw [String.length_append]
  exact Nat.add_le_add hfirst hsecond

-- a literal is read as its list of characters, which is far cheaper than to decode it

theorem systemText_length : systemText.length ≤ 5000 := by
  refine (length_joinStrings_le "\n" 100 ?_).trans ?_
  · repeat
      refine List.forall_mem_cons.2 ⟨length_ofList_le _ ?_, ?_⟩
      · decide
    exact List.forall_mem_nil _
  · decide +kernel

theorem stageInstructions_length (stage : Stage) : (stageInstructions stage).length ≤ 500 := by
  cases stage with
  | initialPlan =>
      have h : (stageInstructions .initialPlan).length ≤ 100 + 100 :=
        length_append_le (length_ofList_le _ (by decide)) (length_ofList_le _ (by decide))
      exact h.trans (by decide)
  | hypothesisUpdate =>
      have h : (stageInstructions .hypothesisUpdate).length ≤ 100 + 100 + 100 + 100 + 100 :=
        length_append_le (length_append_le (length_append_le (length_append_le
          (length_ofList_le _ (by decide)) (length_ofList_le _ (by decide)))
          (length_ofList_le _ (by decide))) (length_ofList_le _ (by decide)))
          (length_ofList_le _ (by decide))
      exact h.trans (by decide)
  | finalAssessment =>
      have h : (stageInstructions .finalAssessment).length ≤ 100 + 100 + 100 + 100 :=
        length_append_le (length_append_le (length_append_le (length_ofList_le _ (by decide))
          (length_ofList_le _ (by decide))) (length_ofList_le _ (by decide)))
          (length_ofList_le _ (by decide))
      exact h.trans (by decide)

theorem probeLines_length : probeLines.length ≤ 2400 := by
  refine (length_joinStrings_le "\n" 90 ?_).trans ?_
  · decide +kernel
  · decide +kernel

theorem probeContext_length : probeContext.length ≤ 2920 := by
  have htask : ("\n\n## Task\n" : String).length ≤ 20 := length_ofList_le _ (by decide)
  exact (length_append_le (length_append_le probeLines_length htask)
    (stageInstructions_length .finalAssessment)).trans (by decide)

theorem minimum_fits (digestText : String → String) :
    Fits (buildMinimumFinalAssessmentRequest digestText) := by
  have hsystem := systemText_length
  have hcontext := probeContext_length
  simp only [Fits, estimateInputTokens, buildMinimumFinalAssessmentRequest, humanContent,
    String.length_append, maxInputTokens]
  omega

end Prose

section Floor

variable {digestText : String → String} {tools : String} {pricing : PricingSnapshot} {ceiling : ℚ}

/-- What the smallest request costs under the selected prices. -/
def minimumPrice (digestText : String → String) (tools : String) (pricing : PricingSnapshot) : ℚ :=
  priceOf pricing (buildMinimumFinalAssessmentRequest digestText) tools

theorem probeRow_refused (h : ceiling - reservationCeilingBufferUsd <
    minimumPrice digestText tools pricing) : probeRow digestText tools pricing ceiling = none := by
  simp only [probeRow, sendAlone_refused (minimum_fits digestText) h, List.find?_nil]

theorem probeRow_inserted (h : minimumPrice digestText tools pricing ≤
    ceiling - reservationCeilingBufferUsd) : ∃ row, probeRow digestText tools pricing ceiling =
      some row ∧ row.reservedUsd = minimumPrice digestText tools pricing := by
  obtain ⟨settlement, hrows⟩ := sendAlone_inserted (minimum_fits digestText) h
  let row := (reservedRow pricing (buildMinimumFinalAssessmentRequest digestText) tools 0).settle
    settlement
  refine ⟨row, ?_, rfl⟩
  simp only [probeRow, hrows]
  exact List.find?_cons_of_pos (decide_eq_true rfl)

/-- The smallest request is authorised on an empty ledger. -/
def Authorised (digestText : String → String) (tools : String) (pricing : PricingSnapshot)
    (ceiling : ℚ) : Prop := (probeRow digestText tools pricing ceiling).isSome = true

theorem authorised_iff : Authorised digestText tools pricing ceiling ↔
    reservationCeilingBufferUsd + minimumPrice digestText tools pricing ≤ ceiling := by
  rcases lt_or_ge (ceiling - reservationCeilingBufferUsd)
    (minimumPrice digestText tools pricing) with hfew | hroom
  · rw [Authorised, probeRow_refused hfew]
    simp only [Option.isSome_none, Bool.false_eq_true, false_iff, not_le]
    linarith
  · obtain ⟨row, hrow, -⟩ := probeRow_inserted hroom
    rw [Authorised, hrow]
    simp only [Option.isSome_some, true_iff]
    linarith

theorem minimumPossible_eq {minimumUsd : ℚ}
    (h : minimumPossibleReservationUsd digestText tools pricing = some minimumUsd) :
    minimumUsd = minimumPrice digestText tools pricing := by
  rcases lt_or_ge ((1000000 : ℚ) - reservationCeilingBufferUsd)
    (minimumPrice digestText tools pricing) with hfew | hroom
  · rw [minimumPossibleReservationUsd, probeRow_refused hfew] at h
    cases h
  · obtain ⟨row, hrow, hprice⟩ := probeRow_inserted hroom
    rw [minimumPossibleReservationUsd, hrow] at h
    rw [← Option.some.inj h]
    exact hprice

/-- An accepted ceiling authorises the smallest request at the selected prices, and a
positive one that is refused as too small could not have. -/
def FloorSound (reading : Reading) (digestText : String → String) (tools : String)
    (minimumUsd : ℚ) (environment : Environment) : Prop :=
  ∀ pricing, resolveLiveModelPricing reading environment = .ok pricing →
    (∀ ceiling, liveEvaluationCeilingUsd reading minimumUsd environment = .ok ceiling →
      Authorised digestText tools pricing ceiling) ∧
    ∀ error value, liveEvaluationCeilingUsd reading minimumUsd environment = .error error →
      error.reasonCode = .ceilingBelowReservationBuffer →
      configuredCeiling reading environment = some (.finite value) → 0 < value →
      ¬ Authorised digestText tools pricing value

/-- A value between the floor at the default prices and the one at the selected prices. -/
def Misjudged (floor selected value : ℚ) : Prop :=
  floor < value ∧ value < selected ∨ 0 < value ∧ selected ≤ value ∧ value ≤ floor

/-- When the floor is sound: the configured value is on the same side of both floors. -/
def FloorAgrees (reading : Reading) (digestText : String → String) (tools : String)
    (environment : Environment) : Prop :=
  ∀ pricing, resolveLiveModelPricing reading environment = .ok pricing →
    let floor := reservationCeilingBufferUsd + minimumPrice digestText tools claudeSonnet5Pricing
    let selected := reservationCeilingBufferUsd + minimumPrice digestText tools pricing
    match configuredCeiling reading environment with
    | none => selected ≤ defaultLiveEvaluationMaxUsd
    | some (.finite value) => ¬ Misjudged floor selected value
    | some _ => True

variable {reading : Reading} {environment : Environment} {minimumUsd : ℚ}

theorem accepted_iff : liveEvaluationCeilingUsd reading minimumUsd environment = .ok ceiling ↔
    configuredCeiling reading environment = none ∧ defaultLiveEvaluationMaxUsd = ceiling ∨
      configuredCeiling reading environment = some (.finite ceiling) ∧
        minimumUsableCeilingUsd minimumUsd < ceiling := by
  unfold liveEvaluationCeilingUsd
  cases configuredCeiling reading environment with
  | none => simp
  | some parsed =>
      cases parsed with
      | malformed error => simp
      | notFinite => simp
      | finite value =>
          dsimp only
          split
          · rename_i hbelow
            simp only [reduceCtorEq, false_and, false_or, Option.some.injEq,
              ParsedFloat.finite.injEq, false_iff, not_and, not_lt]
            rintro rfl
            exact hbelow
          · rename_i habove
            simp only [Except.ok.injEq, reduceCtorEq, false_and, false_or, Option.some.injEq,
              ParsedFloat.finite.injEq, iff_self_and]
            rintro rfl
            exact not_le.1 habove

theorem tooSmall_iff (minimumUsd : ℚ) {value : ℚ}
    (hconfigured : configuredCeiling reading environment = some (.finite value)) :
    (∃ error, liveEvaluationCeilingUsd reading minimumUsd environment = .error error ∧
      error.reasonCode = .ceilingBelowReservationBuffer) ↔
        value ≤ minimumUsableCeilingUsd minimumUsd := by
  simp only [liveEvaluationCeilingUsd, hconfigured]
  split
  · rename_i hbelow
    exact ⟨fun _ => hbelow, fun _ => ⟨_, rfl, rfl⟩⟩
  · rename_i habove
    exact ⟨fun ⟨_, herror, _⟩ => (nomatch herror), fun hbelow => absurd hbelow habove⟩

theorem floorSound_iff (reading : Reading) (digestText : String → String) (tools : String)
    (minimumUsd : ℚ) (environment : Environment)
    (hloaded : minimumPossibleReservationUsd digestText tools claudeSonnet5Pricing =
      some minimumUsd) :
    FloorSound reading digestText tools minimumUsd environment ↔
      FloorAgrees reading digestText tools environment := by
  obtain rfl := minimumPossible_eq hloaded
  refine forall₂_congr fun pricing _ => ?_
  simp only [authorised_iff, accepted_iff]
  cases hconfigured : configuredCeiling reading environment with
  | none => simp
  | some parsed =>
      cases parsed with
      | malformed error => simp
      | notFinite => simp
      | finite value =>
          have hsmall := tooSmall_iff (minimumPrice digestText tools claudeSonnet5Pricing) hconfigured
          constructor
          · rintro ⟨haccepted, hrefused⟩ (⟨habove, hselected⟩ | ⟨hpositive, hselected, hbelow⟩)
            · exact absurd (haccepted value (Or.inr ⟨rfl, habove⟩)) (not_le.2 hselected)
            · obtain ⟨error, herror, hreason⟩ := hsmall.2 hbelow
              exact hrefused error value herror hreason rfl hpositive hselected
          · intro hagrees
            refine ⟨?_, ?_⟩
            · rintro ceiling (⟨hnone, -⟩ | ⟨hsame, habove⟩)
              · cases hnone
              · obtain rfl := ParsedFloat.finite.inj (Option.some.inj hsame)
                exact not_lt.1 fun hselected => hagrees (Or.inl ⟨habove, hselected⟩)
            · intro error refused herror hreason hsame hpositive hselected
              obtain rfl := ParsedFloat.finite.inj (Option.some.inj hsame)
              exact hagrees (Or.inr ⟨hpositive, hselected, hsmall.1 ⟨error, herror, hreason⟩⟩)

@[irreducible] def textOf (n : ℕ) : String := String.ofList (List.replicate n 'x')

theorem estimateInputTokens_textOf (n : ℕ) : estimateInputTokens (textOf n) = n := by
  rw [estimateInputTokens, textOf, String.length_ofList, List.length_replicate]

/-- A text of the length that the tool definition of the final assessment has. -/
def labTools : String := textOf 2422

def labReading : Reading where
  lower := id
  float := fun text =>
    if text = "0.140625" then .finite (9 / 64)
    else .malformed ("could not convert string to float: '" ++ text ++ "'")
  represent := fun text => "'" ++ text ++ "'"
  fixed := fun _ _ => ""

/-- The tokens of the smallest request are those of its prose and of its tools. -/
theorem minimumPrice_lab (pricing : PricingSnapshot) :
    ∃ prose : ℕ, prose ≤ maxInputTokens ∧
      minimumPrice id labTools pricing = pricing.reservationUsd (prose + 2422) := by
  have htools : estimateInputTokens labTools = 2422 := estimateInputTokens_textOf 2422
  refine ⟨_, minimum_fits id, ?_⟩
  rw [minimumPrice, priceOf, htools]

theorem minimumPrice_sonnet_lt :
    reservationCeilingBufferUsd + minimumPrice id labTools claudeSonnet5Pricing < 9 / 64 := by
  obtain ⟨prose, hprose, hprice⟩ := minimumPrice_lab claudeSonnet5Pricing
  have hcast : (prose : ℚ) ≤ 9600 := by exact_mod_cast hprose
  rw [hprice]
  simp only [PricingSnapshot.reservationUsd, claudeSonnet5Pricing, reservationCeilingBufferUsd,
    maxOutputTokens]
  push_cast
  linarith

theorem minimumPrice_opus_gt :
    9 / 64 < reservationCeilingBufferUsd + minimumPrice id labTools claudeOpus5Pricing := by
  obtain ⟨prose, -, hprice⟩ := minimumPrice_lab claudeOpus5Pricing
  have hcast : (0 : ℚ) ≤ prose := Nat.cast_nonneg prose
  rw [hprice]
  simp only [PricingSnapshot.reservationUsd, claudeOpus5Pricing, reservationCeilingBufferUsd,
    maxOutputTokens]
  push_cast
  linarith

/-- Nothing is configured: the default model under the default ceiling. -/
theorem floorSound_unset :
    FloorSound labReading id labTools (minimumPrice id labTools claudeSonnet5Pricing)
      fun _ => none := by
  have hsmall := minimumPrice_sonnet_lt
  have hroom : minimumPrice id labTools claudeSonnet5Pricing ≤
      1000000 - reservationCeilingBufferUsd := by
    simp only [reservationCeilingBufferUsd] at hsmall ⊢
    linarith
  obtain ⟨row, hrow, hprice⟩ := probeRow_inserted hroom
  have hloaded : minimumPossibleReservationUsd id labTools claudeSonnet5Pricing =
      some (minimumPrice id labTools claudeSonnet5Pricing) := by
    rw [minimumPossibleReservationUsd, hrow, Option.map_some, hprice]
  refine (floorSound_iff labReading id labTools _ _ hloaded).2 ?_
  intro pricing hpricing
  have hblank : labReading.lower (Text.strip ((none : Option String).getD "")) = "" := by
    decide +kernel
  have hunset : configuredCeiling labReading (fun _ => none) = none := by decide +kernel
  simp only [resolveLiveModelPricing, hblank, if_true] at hpricing
  obtain rfl := Except.ok.inj hpricing
  simp only [hunset, defaultLiveEvaluationMaxUsd]
  linarith

/-- Opus under a ceiling that the floor of Sonnet lets through. -/
theorem floorSound_opus_fails :
    ¬ FloorSound labReading id labTools (minimumPrice id labTools claudeSonnet5Pricing)
      fun name => if name = liveModelVariable then some "opus"
        else if name = liveEvaluationMaxUsdVariable then some "0.140625" else none := by
  intro hsound
  have hmodel : Text.strip "opus" = "opus" := by decide +kernel
  have hconfigured : configuredCeiling labReading (fun name =>
      if name = liveModelVariable then some "opus"
      else if name = liveEvaluationMaxUsdVariable then some "0.140625" else none) =
        some (.finite (9 / 64)) := by decide +kernel
  have hresolved : resolveLiveModelPricing labReading (fun name =>
      if name = liveModelVariable then some "opus"
      else if name = liveEvaluationMaxUsdVariable then some "0.140625" else none) =
        .ok claudeOpus5Pricing := by
    simp only [resolveLiveModelPricing, if_true, Option.getD_some, hmodel]
    rfl
  have hauthorised := (hsound claudeOpus5Pricing hresolved).1 (9 / 64)
    (accepted_iff.2 (Or.inr ⟨hconfigured, minimumPrice_sonnet_lt⟩))
  exact absurd (authorised_iff.1 hauthorised) (not_le.2 minimumPrice_opus_gt)

end Floor

end CausalOps.Cost
