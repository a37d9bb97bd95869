import CausalOps.ControlPlane.Ledger
import CausalOps.Investigation.Models
import CausalOps.Investigation.Wrappers

set_option autoImplicit false

/-! The state that the graph's nodes hand to each other, and the report that is built
from it when an investigation is over. -/

namespace CausalOps.Investigation

open CausalOps.ControlPlane (Verdict RowPaired)

section Events

/-- What an event says beyond its sequence number and phase. -/
inductive EventDetail where
  | investigationStarted (incident runId : String)
  | stageStarted (stage : Stage)
  | invalidResponse (stage : Stage) (reason : String)
  | stageStopped (reason : ReasonCode)
  | stageFinished (proposed : Bool)
  | proposalRecorded (proposalTurn : ℕ) (stage : Stage) (hypotheses : List Hypothesis)
      (proposal : Option ToolProposal)
  | internalError (error : String)
  | proposalReceived (tool : ToolName)
  | proposalDenied (proposalTurn : ℤ) (receiptId : String) (reason : Option ReasonCode)
      (message : String)
  | checkStarted (tool : ToolName)
  | checkFinished (proposalTurn : ℤ) (receiptId : String) (outcome : Option ToolOutcome)
      (durationMs : ℕ)
  | backendCrashed (error : String)
  | evidenceNormalized (count : ℕ)
  | forgedCitation (cited : ℕ)
  | escalationDecided (reason : EscalationReason) (decision : Verdict)
  | runbookCitationUnresolved (count : ℕ)
  deriving DecidableEq, Repr

structure RunEvent where
  sequence : ℕ
  state : GraphPhase
  detail : EventDetail
  deriving DecidableEq, Repr

/-- `RunRecorder.event`. -/
def recordEvent (phase : GraphPhase) (events : List RunEvent) (detail : EventDetail) :
    List RunEvent :=
  events ++ [⟨events.length + 1, phase, detail⟩]

def recordEvents (phase : GraphPhase) (events : List RunEvent) (details : List EventDetail) :
    List RunEvent :=
  details.foldl (recordEvent phase) events

@[simp] theorem recordEvents_nil (phase : GraphPhase) (events : List RunEvent) :
    recordEvents phase events [] = events := rfl

end Events

section Documents

structure Versions where
  promptVersion : String
  policyVersion : String
  toolRegistryVersion : String
  deriving DecidableEq, Repr

def currentVersions : Versions := ⟨"13", "4", "8"⟩

structure EscalationRecord where
  reason : EscalationReason
  decision : Verdict
  rejectionNote : Option String
  noteBound : ∀ note ∈ rejectionNote, note.length ≤ 300
  paired : RowPaired decision rejectionNote

/-- `InvestigationReport.check_terminal_invariants`. -/
def ReportCoherent (disposition : Disposition) (rootCause : RootCauseCode)
    (assessed : Bool) (reasonCode : Option ReasonCode) : Prop :=
  match disposition with
  | .diagnosed => rootCause ≠ .undetermined ∧ assessed = true
  | .insufficientEvidence => rootCause = .undetermined ∧ assessed = true
  | .failedSafe => rootCause = .undetermined ∧ assessed = false ∧ reasonCode.isSome = true

instance (disposition : Disposition) (rootCause : RootCauseCode) (assessed : Bool)
    (reasonCode : Option ReasonCode) :
    Decidable (ReportCoherent disposition rootCause assessed reasonCode) := by
  unfold ReportCoherent
  split <;> infer_instance

structure InvestigationReport where
  investigationId : String
  incidentId : String
  disposition : Disposition
  rootCause : RootCauseCode
  assessment : Option FinalAssessment
  reasonCode : Option ReasonCode
  budgets : Budgets
  versions : Versions
  startedAt : Time
  finishedAt : Time
  latencyMs : ℕ
  modelCallsUsed : ℕ
  repairsUsed : ℕ
  toolsExecuted : ℕ
  invalidResponses : ℕ
  usage : Option ModelUsage
  finalContextDigest : String
  evidenceIds : List String
  receiptIds : List String
  retrievalMode : RetrievalMode
  runbookPassageIds : List String
  limitations : List String
  escalation : Option EscalationRecord
  coherent : ReportCoherent disposition rootCause assessment.isSome reasonCode

end Documents

structure GraphState where
  investigationId : String
  runId : String
  incidentId : String
  phase : GraphPhase
  modelTurn : ℕ
  modelCallsUsed : ℕ
  repairsUsed : ℕ
  invalidResponses : ℕ
  startedAt : Time
  contextDigest : String
  seenFingerprints : Finset String
  receipts : List ToolReceipt
  evidence : List Evidence
  runbookPassages : List RunbookPassage
  retrievalMode : RetrievalMode
  events : List RunEvent
  pendingProposal : Option ToolProposal
  assessment : Option FinalAssessment
  usage : Option ModelUsage
  failureReason : Option ReasonCode
  escalationReason : Option EscalationReason
  escalationDecision : Option Verdict
  rejectionNote : Option String
  report : Option InvestigationReport

section Rebuilding

/-- The receipts of a state; one of another incident is a corrupted checkpoint. -/
def rebuildReceipts (state : GraphState) : Except Escape (List ToolReceipt) :=
  if state.receipts.all fun receipt => receipt.incidentId = state.incidentId then
    .ok state.receipts
  else .error (.raised "AssertionError")

def rebuildRecords (state : GraphState) : Except Escape EvidenceStore :=
  (rebuildStore state.incidentId state.evidence).mapError fun _ => .raised "ValueError"

def rebuildLedger (budgets : Budgets) (receipts : List ToolReceipt) :
    Except Escape ReservationLedger :=
  (ReservationLedger.fromReceipts receipts budgets.executedTools
    budgets.runbookSearches).mapError fun _ => .raised "ValueError"

def toolsLeft (budgets : Budgets) (receipts : List ToolReceipt) : Except Escape ℤ :=
  (rebuildLedger budgets receipts).map ReservationLedger.slotsLeft

def runbookSearchesLeft (budgets : Budgets) (receipts : List ToolReceipt) : Except Escape ℤ :=
  (rebuildLedger budgets receipts).map ReservationLedger.runbookSlotsLeft

def modelCallsLeft (modelCallsUsed repairsUsed : ℕ) (budgets : Budgets) : ℤ :=
  budgets.modelCalls - (modelCallsUsed - repairsUsed : ℤ)

def expired (startedAt : Time) (budgets : Budgets) (reading : Time) : Bool :=
  reading - startedAt > budgets.wallClockSeconds * 1000000

end Rebuilding

section Escalation

/-- Why a finished assessment needs the owner, the first reason that applies. -/
def escalationReason (receipts : List ToolReceipt) (assessment : FinalAssessment)
    (remaining : ℤ) (retrievedPassageCount : ℕ) : Option EscalationReason :=
  if receipts.any fun receipt => receipt.outcome = some .unavailable then some .toolUnavailable
  else if (receipts.any fun receipt => receipt.tool = .searchRunbooks &&
      receipt.policyResult = .allowed && receipt.state = .settled) &&
      retrievedPassageCount = 0 then
    some .retrievalCoverageInsufficient
  else if assessment.disposition = .insufficientEvidence ∧ remaining > 0 then
    some .insufficientEvidenceWithCheckRemaining
  else if assessment.contraryEvidenceIds ≠ [] then some .conflictingEvidence
  else none

/-- The rejection note of a resume value: nothing, a text, or anything else. -/
def noteOf : Option Json → Option (Option String)
  | none => some none
  | some .null => some none
  | some (.str text) => some (some text)
  | some _ => none

/-- `_parse_resume_decision`; `none` is a malformed value. -/
def parseResumeDecision : Json → Option (Verdict × Option String)
  | .obj entries =>
      match Json.get entries "decision" with
      | some (.str "accept") =>
          match noteOf (Json.get entries "rejection_note") with
          | some none => some (.accept, none)
          | _ => none
      | some (.str "reject") =>
          match noteOf (Json.get entries "rejection_note") with
          | some (some note) =>
              if Text.strip note = "" then none else some (.reject, some (Text.strip note))
          | _ => none
      | _ => none
  | _ => none

end Escalation

section Build

def unresolvedRunbookCitations (assessment : Option FinalAssessment)
    (passages : List RunbookPassage) : List String :=
  match assessment with
  | none => []
  | some assessment => assessment.runbookCitations.filter fun passageId =>
      !passages.any fun passage => passage.passageId = passageId

def countsAsExecuted (receipt : ToolReceipt) : Bool :=
  receipt.policyResult = .allowed && receipt.state = .settled

/-- `int((finished_at - started_at).total_seconds() * 1000)`, toward zero, without the rounding of
the floats: the code can be one millisecond short (1.001 s gives 1000). -/
def latencyMs (startedAt finishedAt : Time) : ℤ := (finishedAt - startedAt).tdiv 1000

def buildEscalation (state : GraphState) : Except Escape (Option EscalationRecord) :=
  match state.escalationReason with
  | none => .ok none
  | some reason =>
      match state.escalationDecision with
      | none => .error (.raised "AssertionError")
      | some decision =>
          if h : (∀ note ∈ state.rejectionNote, note.length ≤ 300) ∧
              RowPaired decision state.rejectionNote then
            .ok (some ⟨reason, decision, state.rejectionNote, h.1, h.2⟩)
          else .error (.raised "ValidationError")

/-- The four fields that say how the investigation ended. -/
structure Ending where
  disposition : Disposition
  rootCause : RootCauseCode
  assessment : Option FinalAssessment
  reasonCode : Option ReasonCode

def endingOf (state : GraphState) (forceFailureReason : Option ReasonCode) : Ending :=
  match (if forceFailureReason.isSome then none else state.assessment) with
  | some assessment =>
      match assessment.disposition with
      | .diagnosed => ⟨.diagnosed, assessment.rootCause, some assessment, none⟩
      | .insufficientEvidence =>
          ⟨.insufficientEvidence, assessment.rootCause, some assessment, none⟩
  | none =>
      ⟨.failedSafe, .undetermined, none,
        some ((forceFailureReason.or state.failureReason).getD .internalError)⟩

def limitationsOf (state : GraphState) (ending : Ending) : List String :=
  let unresolved := unresolvedRunbookCitations ending.assessment state.runbookPassages
  (if state.usage.isSome then [] else ["this model reports no token usage"]) ++
    if unresolved = [] then []
    else [toString unresolved.length ++ " cited runbook passage id(s) could not be resolved " ++
      "against what this run actually retrieved"]

/-- The report itself, refused for a negative latency. -/
def finishReport (budgets : Budgets) (state : GraphState) (finishedAt : Time)
    (receipts : List ToolReceipt) (store : EvidenceStore) (ending : Ending)
    (escalation : Option EscalationRecord) : Except Escape InvestigationReport :=
  if h : 0 ≤ latencyMs state.startedAt finishedAt ∧ ReportCoherent ending.disposition
      ending.rootCause ending.assessment.isSome ending.reasonCode then
    .ok {
      investigationId := state.investigationId
      incidentId := state.incidentId
      disposition := ending.disposition
      rootCause := ending.rootCause
      assessment := ending.assessment
      reasonCode := ending.reasonCode
      budgets := budgets
      versions := currentVersions
      startedAt := state.startedAt
      finishedAt := finishedAt
      latencyMs := (latencyMs state.startedAt finishedAt).toNat
      modelCallsUsed := state.modelCallsUsed
      repairsUsed := state.repairsUsed
      toolsExecuted := receipts.countP countsAsExecuted
      invalidResponses := state.invalidResponses
      usage := state.usage
      finalContextDigest := state.contextDigest
      evidenceIds := store.ordered.map Evidence.evidenceId
      receiptIds := receipts.map ToolReceipt.receiptId
      retrievalMode := state.retrievalMode
      runbookPassageIds := state.runbookPassages.map RunbookPassage.passageId
      limitations := limitationsOf state ending
      escalation := escalation
      coherent := h.2 }
  else .error (.raised "ValidationError")

def buildReport (budgets : Budgets) (state : GraphState) (finishedAt : Time)
    (forceFailureReason : Option ReasonCode) : Except Escape InvestigationReport :=
  match rebuildReceipts state with
  | .error escape => .error escape
  | .ok receipts =>
      match rebuildRecords state with
      | .error escape => .error escape
      | .ok store =>
          match buildEscalation state with
          | .error escape => .error escape
          | .ok escalation =>
              finishReport budgets state finishedAt receipts store
                (endingOf state forceFailureReason) escalation

end Build

section Built

variable {budgets : Budgets} {state : GraphState} {finishedAt : Time}
  {forceFailureReason : Option ReasonCode}

theorem endingOf_coherent (state : GraphState) (forceFailureReason : Option ReasonCode) :
    ReportCoherent (endingOf state forceFailureReason).disposition
      (endingOf state forceFailureReason).rootCause
      (endingOf state forceFailureReason).assessment.isSome
      (endingOf state forceFailureReason).reasonCode := by
  unfold endingOf
  split
  · rename_i assessment _
    have hterminal := assessment.terminal
    split
    · rename_i hdisposition
      rw [hdisposition] at hterminal
      exact ⟨hterminal.1, rfl⟩
    · rename_i hdisposition
      rw [hdisposition] at hterminal
      exact ⟨hterminal, rfl⟩
  · exact ⟨rfl, rfl, rfl⟩

/-- A report is `FAILED_SAFE` exactly when it carries no assessment. -/
theorem InvestigationReport.failedSafe_iff (report : InvestigationReport) :
    (report.disposition = .failedSafe ↔ report.assessment = none) ∧
      (report.disposition = .failedSafe → report.reasonCode.isSome = true) := by
  have hcoherent := report.coherent
  cases hdisposition : report.disposition with
  | diagnosed =>
      rw [hdisposition] at hcoherent
      obtain ⟨-, hassessed⟩ := hcoherent
      exact ⟨⟨nofun, fun hnone => by simp [hnone] at hassessed⟩, nofun⟩
  | insufficientEvidence =>
      rw [hdisposition] at hcoherent
      obtain ⟨-, hassessed⟩ := hcoherent
      exact ⟨⟨nofun, fun hnone => by simp [hnone] at hassessed⟩, nofun⟩
  | failedSafe =>
      rw [hdisposition] at hcoherent
      obtain ⟨-, hassessed, hreason⟩ := hcoherent
      exact ⟨⟨fun _ => by simpa using hassessed, fun _ => rfl⟩, fun _ => hreason⟩

/-- Everything a report that was built says about the state it was built from. -/
theorem buildReport_ok {report : InvestigationReport}
    (h : buildReport budgets state finishedAt forceFailureReason = .ok report) :
    ∃ store escalation, rebuildReceipts state = .ok state.receipts ∧
      rebuildRecords state = .ok store ∧ buildEscalation state = .ok escalation ∧
      finishReport budgets state finishedAt state.receipts store
        (endingOf state forceFailureReason) escalation = .ok report := by
  unfold buildReport at h
  cases hreceipts : rebuildReceipts state with
  | error escape => simp [hreceipts] at h
  | ok receipts =>
      have hsame : receipts = state.receipts := by
        unfold rebuildReceipts at hreceipts
        split at hreceipts
        · exact (Except.ok.inj hreceipts).symm
        · cases hreceipts
      subst hsame
      cases hstore : rebuildRecords state with
      | error escape => simp [hreceipts, hstore] at h
      | ok store =>
          cases hescalation : buildEscalation state with
          | error escape => simp [hreceipts, hstore, hescalation] at h
          | ok escalation =>
              simp only [hreceipts, hstore, hescalation] at h
              exact ⟨store, escalation, rfl, rfl, rfl, h⟩

/-- Building a report from a sound state fails only for the clock and the escalation. -/
theorem buildReport_isOk (budgets : Budgets) (state : GraphState) (finishedAt : Time)
    (forceFailureReason : Option ReasonCode) {store : EvidenceStore}
    (hreceipts : rebuildReceipts state = .ok state.receipts)
    (hstore : rebuildRecords state = .ok store) :
    (∃ report, buildReport budgets state finishedAt forceFailureReason = .ok report) ↔
      0 ≤ latencyMs state.startedAt finishedAt ∧
        ∃ escalation, buildEscalation state = .ok escalation := by
  constructor
  · rintro ⟨report, h⟩
    obtain ⟨_, escalation, -, -, hescalation, hfinish⟩ := buildReport_ok h
    unfold finishReport at hfinish
    split at hfinish
    · rename_i hchecks
      exact ⟨hchecks.1, escalation, hescalation⟩
    · cases hfinish
  · rintro ⟨hlatency, escalation, hescalation⟩
    have hchecks := And.intro hlatency (endingOf_coherent state forceFailureReason)
    simp only [buildReport, hreceipts, hstore, hescalation, finishReport, dif_pos hchecks]
    exact ⟨_, rfl⟩

end Built

end CausalOps.Investigation
