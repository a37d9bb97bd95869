import CausalOps.Investigation.Report

set_option autoImplicit false

/-! The mechanical scores of one run: its report and evidence against the ground truth that
only the evaluator holds. -/

namespace Json

/-- The value of a `bool`, an `int` or a `float`, which Python compares as numbers. -/
def number? : Json → Option ℚ
  | .bool value => some (if value then 1 else 0)
  | .int value => some value
  | .float value => some value
  | _ => none

/-- Python's `==`: numbers by their value, dictionaries whatever the order of their keys. -/
def pyEq : Json → Json → Bool
  | .null, .null => true
  | .str text, .str other => text = other
  | .arr items, .arr others => pyEqItems items others
  | .obj entries, .obj others =>
      entries.length = others.length && pyEqEntries entries others
  | value, other =>
      match number? value, number? other with
      | some x, some y => x = y
      | _, _ => false
where
  pyEqItems : List Json → List Json → Bool
    | [], [] => true
    | item :: rest, other :: others => pyEq item other && pyEqItems rest others
    | _, _ => false
  pyEqEntries : List (String × Json) → Dict → Bool
    | [], _ => true
    | (key, value) :: rest, others =>
        (match get others key with
          | some other => pyEq value other
          | none => false) && pyEqEntries rest others

example : pyEq (.obj [("a", .int 1), ("b", .str "x")]) (.obj [("b", .str "x"), ("a", .float 1)]) =
    true := by decide +kernel

end Json

namespace CausalOps.Evaluation

open CausalOps.Investigation
open CausalOps.ControlPlane (Verdict)

section Outcomes

inductive PredicateOperator where
  | equals
  | atLeast
  | contains
  deriving DecidableEq, Repr

/-- One observable fact that a cited answer has to rest on. -/
structure RequiredEvidencePredicate where
  source : String
  kind : EvidenceKind
  template : Option String
  field : String
  operator : PredicateOperator
  value : Json

structure ExpectedOutcome where
  rootCause : RootCauseCode
  disposition : Disposition
  predicates : List RequiredEvidencePredicate

structure ControlCounts where
  denied : ℤ
  duplicate : ℤ
  outOfScope : ℤ
  invalidResponses : ℤ
  unsettled : ℤ
  deriving DecidableEq, Repr

structure Efficiency where
  latencyMs : ℤ
  modelCalls : ℤ
  toolsExecuted : ℤ
  inputTokens : Option ℤ
  outputTokens : Option ℤ
  deriving DecidableEq, Repr

structure MechanicalScores where
  diagnosisCorrect : Bool
  dispositionCorrect : Bool
  citationsValid : Bool
  citationsSufficient : Option Bool
  correctAndGrounded : Option Bool
  control : ControlCounts
  efficiency : Efficiency
  deriving DecidableEq, Repr

end Outcomes

section Scoring

/-- `payload.get("template") != predicate.template`, where a template is asked for. -/
def templateMatches (predicate : RequiredEvidencePredicate) (payload : Json.Dict) : Bool :=
  match predicate.template with
  | none => true
  | some template =>
      match Json.get payload "template" with
      | some observed => Json.pyEq observed (.str template)
      | none => false

/-- The comparison of what was observed with what a predicate asks. -/
def PredicateOperator.holds (observed value : Json) : PredicateOperator → Bool
  | .equals => Json.pyEq observed value
  | .atLeast =>
      match Json.number? observed, Json.number? value with
      | some x, some y => y ≤ x
      | _, _ => false
  | .contains =>
      match observed, value with
      | .str text, .str part => decide (part.toList <:+: text.toList)
      | _, _ => false

def satisfies (predicate : RequiredEvidencePredicate) (evidence : Evidence) : Bool :=
  evidence.kind = predicate.kind && evidence.source = predicate.source &&
    templateMatches predicate evidence.payload &&
    match Json.get evidence.payload predicate.field with
    | none => false
    | some observed => predicate.operator.holds observed predicate.value

/-- The records that the report cites as supporting its diagnosis, of its own incident. -/
def citedEvidence (report : InvestigationReport) (evidence : List Evidence) : List Evidence :=
  match report.assessment with
  | none => []
  | some assessment => evidence.filter fun record =>
      assessment.supportingEvidenceIds.contains record.evidenceId &&
        record.incidentId = report.incidentId

/-- Every cited id exists and belongs to this incident. -/
def citationsAreValid (report : InvestigationReport) (evidence : List Evidence) : Bool :=
  match report.assessment with
  | none => false
  | some assessment =>
      let known := (evidence.filter fun record => record.incidentId = report.incidentId).map
        Evidence.evidenceId
      (assessment.supportingEvidenceIds ++ assessment.contraryEvidenceIds).all known.contains

def outOfScopeReasons : List ReasonCode :=
  [.crossIncidentRequest, .unknownService, .outsideIncidentWindow, .resultLimitExceeded]

def countControl (report : InvestigationReport) (receipts : List ToolReceipt) : ControlCounts :=
  let denied := receipts.filter fun receipt => receipt.policyResult = .denied
  { denied := denied.length
    duplicate := denied.countP fun denial => denial.reasonCode = some .duplicateProposal
    outOfScope := denied.countP fun denial => denial.reasonCode.any outOfScopeReasons.contains
    invalidResponses := report.invalidResponses
    unsettled := receipts.countP fun receipt => receipt.state = .reserved }

def rejected (report : InvestigationReport) : Bool :=
  report.escalation.any fun escalation => escalation.decision = .reject

def diagnosisCorrect (report : InvestigationReport) (expected : ExpectedOutcome) : Bool :=
  report.assessment.isSome && report.rootCause = expected.rootCause

/-- `None` where no predicate is declared, and nothing could fail. -/
def citationsSufficient (report : InvestigationReport) (evidence : List Evidence)
    (expected : ExpectedOutcome) : Option Bool :=
  if expected.predicates = [] then none
  else some (expected.predicates.all fun predicate =>
    (citedEvidence report evidence).any (satisfies predicate))

def scoreRun (report : InvestigationReport) (evidence : List Evidence)
    (receipts : List ToolReceipt) (expected : ExpectedOutcome) : MechanicalScores where
  diagnosisCorrect := diagnosisCorrect report expected
  dispositionCorrect := report.disposition = expected.disposition && !rejected report
  citationsValid := citationsAreValid report evidence
  citationsSufficient := citationsSufficient report evidence expected
  correctAndGrounded :=
    if expected.predicates = [] then none
    else if diagnosisCorrect report expected then citationsSufficient report evidence expected
    else some false
  control := countControl report receipts
  efficiency :=
    { latencyMs := report.latencyMs
      modelCalls := report.modelCallsUsed
      toolsExecuted := report.toolsExecuted
      inputTokens := report.usage.map ModelUsage.inputTokens
      outputTokens := report.usage.map ModelUsage.outputTokens }

end Scoring

section Relations

variable {report other : InvestigationReport} {evidence evidence' : List Evidence}
  {receipts : List ToolReceipt} {expected : ExpectedOutcome}
  {assessment assessment' : FinalAssessment}

/-- The records of the incident that the report is about. -/
def ownEvidence (report : InvestigationReport) (evidence : List Evidence) : List Evidence :=
  evidence.filter fun record => record.incidentId = report.incidentId

theorem mem_ownEvidence {record : Evidence} :
    record ∈ ownEvidence report evidence ↔
      record ∈ evidence ∧ record.incidentId = report.incidentId := by
  simp [ownEvidence]

theorem mem_citedEvidence (hassessment : report.assessment = some assessment)
    {record : Evidence} :
    record ∈ citedEvidence report evidence ↔
      record ∈ ownEvidence report evidence ∧
        record.evidenceId ∈ assessment.supportingEvidenceIds := by
  simp only [citedEvidence, hassessment, ownEvidence, List.mem_filter, Bool.and_eq_true,
    List.contains_iff_mem, decide_eq_true_eq]
  tauto

theorem citedEvidence_unassessed (hassessment : report.assessment = none) :
    citedEvidence report evidence = [] := by
  simp [citedEvidence, hassessment]

/-- Which of its own incident's records a report cites is all that its evidence decides. -/
theorem mem_citedEvidence_congr
    (hown : ∀ record, record ∈ ownEvidence report evidence' ↔ record ∈ ownEvidence report evidence)
    {record : Evidence} :
    record ∈ citedEvidence report evidence' ↔ record ∈ citedEvidence report evidence := by
  cases hassessment : report.assessment with
  | none => simp [citedEvidence_unassessed hassessment]
  | some assessment => rw [mem_citedEvidence hassessment, mem_citedEvidence hassessment, hown]

theorem citationsSufficient_congr
    (hcited : ∀ record, record ∈ citedEvidence other evidence' ↔
      record ∈ citedEvidence report evidence) :
    citationsSufficient other evidence' expected = citationsSufficient report evidence expected := by
  have hany : ∀ predicate, (citedEvidence other evidence').any (satisfies predicate) =
      (citedEvidence report evidence).any (satisfies predicate) := by
    intro predicate
    rw [Bool.eq_iff_iff, List.any_eq_true, List.any_eq_true]
    simp only [hcited]
  simp only [citationsSufficient, hany]

theorem citationsAreValid_congr
    (hown : ∀ record, record ∈ ownEvidence report evidence' ↔
      record ∈ ownEvidence report evidence) :
    citationsAreValid report evidence' = citationsAreValid report evidence := by
  cases hassessment : report.assessment with
  | none => simp [citationsAreValid, hassessment]
  | some assessment =>
      have hknown : ∀ id, ((ownEvidence report evidence').map Evidence.evidenceId).contains id =
          ((ownEvidence report evidence).map Evidence.evidenceId).contains id := by
        intro id
        rw [Bool.eq_iff_iff, List.contains_iff_mem, List.contains_iff_mem, List.mem_map,
          List.mem_map]
        simp only [hown]
      simp only [citationsAreValid, hassessment]
      exact congrArg _ (funext hknown)

/-- The scores depend on which records of its own incident a run left, and on nothing else
about the evidence. -/
theorem scoreRun_congr
    (hown : ∀ record, record ∈ ownEvidence report evidence' ↔
      record ∈ ownEvidence report evidence) :
    scoreRun report evidence' receipts expected = scoreRun report evidence receipts expected := by
  simp only [scoreRun, citationsAreValid_congr hown,
    citationsSufficient_congr fun _ => mem_citedEvidence_congr hown]

/-- More supporting citations and more records of the incident satisfy no fewer predicates. -/
theorem citationsSufficient_mono (hincident : other.incidentId = report.incidentId)
    (hassessment : report.assessment = some assessment)
    (hother : other.assessment = some assessment')
    (hcited : assessment.supportingEvidenceIds ⊆ assessment'.supportingEvidenceIds)
    (hown : ownEvidence report evidence ⊆ evidence')
    (h : citationsSufficient report evidence expected = some true) :
    citationsSufficient other evidence' expected = some true := by
  have hmore : citedEvidence report evidence ⊆ citedEvidence other evidence' := by
    intro record hrecord
    obtain ⟨hmem, hid⟩ := (mem_citedEvidence hassessment).1 hrecord
    have hsame := (mem_ownEvidence.1 hmem).2.trans hincident.symm
    exact (mem_citedEvidence hother).2 ⟨mem_ownEvidence.2 ⟨hown hmem, hsame⟩, hcited hid⟩
  unfold citationsSufficient at h ⊢
  split at h
  · cases h
  · rename_i hdeclared
    rw [if_neg hdeclared]
    have hall := List.all_eq_true.1 (Option.some.inj h)
    refine congrArg some (List.all_eq_true.2 fun predicate hpredicate => ?_)
    obtain ⟨record, hrecord, hsatisfies⟩ := List.any_eq_true.1 (hall predicate hpredicate)
    exact List.any_eq_true.2 ⟨record, hmore hrecord, hsatisfies⟩

theorem citationsSufficient_none :
    citationsSufficient report evidence expected = none ↔ expected.predicates = [] := by
  unfold citationsSufficient
  split <;> simp_all

theorem correctAndGrounded_none :
    (scoreRun report evidence receipts expected).correctAndGrounded = none ↔
      expected.predicates = [] := by
  by_cases hdeclared : expected.predicates = []
  · simp [scoreRun, hdeclared]
  · have hsufficient : citationsSufficient report evidence expected ≠ none := fun hnone =>
      hdeclared (citationsSufficient_none.1 hnone)
    cases hdiagnosis : diagnosisCorrect report expected <;>
      simp [scoreRun, hdeclared, hdiagnosis, hsufficient]

theorem unassessed_of_failedSafe (h : report.disposition = .failedSafe) :
    report.assessment = none := by
  have hcoherent := report.coherent
  rw [h] at hcoherent
  exact Option.isSome_eq_false_iff.1 hcoherent.2.1 |> Option.isNone_iff_eq_none.1

end Relations

structure ScoresRelated (report : InvestigationReport) (evidence : List Evidence)
    (receipts : List ToolReceipt) (expected : ExpectedOutcome) : Prop where
  permuted : ∀ evidence', evidence'.Perm evidence →
    scoreRun report evidence' receipts expected = scoreRun report evidence receipts expected
  /-- Records of other incidents come and go anywhere in the list. -/
  isolated : ∀ evidence', ownEvidence report evidence' = ownEvidence report evidence →
    scoreRun report evidence' receipts expected = scoreRun report evidence receipts expected
  contrary : ∀ (assessment : FinalAssessment) (contraryEvidenceIds : List String),
    report.assessment = some assessment → ∀ hcoherent,
      (scoreRun { report with
        assessment := some { assessment with contraryEvidenceIds := contraryEvidenceIds }
        coherent := hcoherent } evidence receipts expected).citationsSufficient =
        (scoreRun report evidence receipts expected).citationsSufficient
  monotone : ∀ (other : InvestigationReport) (assessment assessment' : FinalAssessment) evidence',
    other.incidentId = report.incidentId → report.assessment = some assessment →
    other.assessment = some assessment' →
    assessment.supportingEvidenceIds ⊆ assessment'.supportingEvidenceIds →
    ownEvidence report evidence ⊆ evidence' →
    (scoreRun report evidence receipts expected).citationsSufficient = some true →
      (scoreRun other evidence' receipts expected).citationsSufficient = some true
  failedSafe : report.disposition = .failedSafe →
    (scoreRun report evidence receipts expected).diagnosisCorrect = false
  applicable : (scoreRun report evidence receipts expected).citationsSufficient = none ↔
    expected.predicates = []
  grounded : (scoreRun report evidence receipts expected).correctAndGrounded = none ↔
    (scoreRun report evidence receipts expected).citationsSufficient = none
  overruled : ∀ accepted refused : EscalationRecord, report.escalation = some accepted →
    accepted.decision = .accept → refused.decision = .reject →
      scoreRun { report with escalation := some refused } evidence receipts expected =
        { scoreRun report evidence receipts expected with dispositionCorrect := false }

/-- The relations between the scores of a run and of its variants. -/
theorem score_run_relations (report : InvestigationReport) (evidence : List Evidence)
    (receipts : List ToolReceipt) (expected : ExpectedOutcome) :
    ScoresRelated report evidence receipts expected where
  permuted evidence' hperm := scoreRun_congr fun record => by
    simp only [mem_ownEvidence, hperm.mem_iff]
  isolated evidence' hsame := scoreRun_congr fun record => by rw [hsame]
  contrary assessment contraryEvidenceIds hassessment hcoherent := by
    refine citationsSufficient_congr fun record => ?_
    rw [mem_citedEvidence rfl, mem_citedEvidence hassessment]
    rfl
  monotone other assessment assessment' evidence' hincident hassessment hother hcited hown h :=
    citationsSufficient_mono hincident hassessment hother hcited hown h
  failedSafe h := by
    simp [scoreRun, diagnosisCorrect, unassessed_of_failedSafe h]
  applicable := citationsSufficient_none
  grounded := correctAndGrounded_none.trans citationsSufficient_none.symm
  overruled accepted refused haccepted hdecision hrefused := by
    simp only [scoreRun, rejected, Option.any_some, hrefused, decide_true, Bool.not_true,
      Bool.and_false]
    rfl

end CausalOps.Evaluation
