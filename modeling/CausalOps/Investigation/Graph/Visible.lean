import CausalOps.Investigation.Graph.Gathered

set_option autoImplicit false

/-! No evidence is hidden from the model: every prompt of a run lists every record that
the run holds, because what the checks can add fits the quotas. -/

namespace CausalOps.Investigation

open EvidenceStore (ofKind)
open ReservationLedger (spentOf)

variable {setting : Setting} {state state' : GraphState} {thread next : Thread} {node : Node}
  {turn : Turn}

section Counting

def kindByTool : ToolName → Option EvidenceKind
  | .queryMetric => some .metric
  | .queryLogs => some .log
  | .listRecentChanges => some .change
  | .getTopology => some .topology
  | .searchRunbooks => none

/-- An incident as `build_incident` makes it: one symptom and one topology record. -/
structure BuiltIncident (incident : StoredIncident) : Prop where
  distinct : Rows.Keyed Evidence.evidenceId incident.evidence
  symptom : ofKind .symptom incident.evidence = 1
  topology : ofKind .topology incident.evidence = 1
  rest : ∀ kind, kind ≠ .symptom → kind ≠ .topology → ofKind kind incident.evidence = 0

/-- Fresh ids, and a check that answers gives evidence of the kind of its tool. -/
def Typed (thread : Thread) (turn : Turn) : Prop :=
  Fresh thread turn ∧ ∀ proposal, thread.state.pendingProposal = some proposal →
    ∀ found, turn.outside.check = .ok found → found.outcome = .executed →
      kindByTool proposal.tool = some found.kind

def isTopologyCheck (receipt : ToolReceipt) : Bool :=
  receipt.policyResult = .allowed && receipt.tool = .getTopology

def topologyCheck (setting : Setting) : ToolArguments :=
  .getTopology ⟨setting.incident.scope.incidentId⟩

/-- Which records a state can hold: those of its executed checks, each of its kind, with
at most one of them a topology check. -/
structure Few (setting : Setting) (state : GraphState) : Prop where
  kinds : ∃ gathered, state.evidence = setting.incident.evidence ++ gathered ∧
    gathered.map (fun record => some record.kind) =
      (state.receipts.filter isExecutedCheck).map fun receipt => kindByTool receipt.tool
  allowed : ∀ receipt ∈ state.receipts, isExecutedCheck receipt = true →
    receipt.policyResult = .allowed
  topology : state.receipts.countP isTopologyCheck ≤ 1
  seen : 0 < state.receipts.countP isTopologyCheck →
    setting.hashing.fingerprint (topologyCheck setting) ∈ state.seenFingerprints

theorem ofKind_append (kind : EvidenceKind) (before after : List Evidence) :
    ofKind kind (before ++ after) = ofKind kind before + ofKind kind after := by
  simp [ofKind, List.countP_append]

theorem ofKind_gathered {gathered : List Evidence} {executed : List ToolReceipt}
    (hkinds : gathered.map (fun record => some record.kind) =
      executed.map fun receipt => kindByTool receipt.tool) (kind : EvidenceKind) :
    ofKind kind gathered = executed.countP fun receipt => kindByTool receipt.tool = some kind := by
  have hcount := congrArg (List.countP fun found => found = some kind) hkinds
  simpa [List.countP_map, Function.comp_def, ofKind] using hcount

theorem within_quotas (hbuilt : BuiltIncident setting.incident) (hsound : Sound setting state)
    (hfew : Few setting state) (kind : EvidenceKind) :
    ofKind kind state.evidence = 0 ∨
      (ofKind kind state.evidence : ℤ) ≤
        deriveContextQuotas setting.budgets.executedTools kind := by
  obtain ⟨gathered, hevidence, hkinds⟩ := hfew.kinds
  have hgathered := ofKind_gathered hkinds kind
  have hslots := hsound.slots false
  simp only [slotBudget, Bool.false_eq_true, if_false] at hslots
  -- every executed check has spent a slot
  have hspent : (state.receipts.filter isExecutedCheck).countP (fun receipt =>
      kindByTool receipt.tool = some kind) ≤ spentOf false state.receipts := by
    refine le_trans List.countP_le_length ?_
    rw [← List.countP_eq_length_filter]
    refine List.countP_mono_left fun receipt hmem hexecuted => ?_
    have hallowed := hfew.allowed receipt hmem hexecuted
    have htool : receipt.tool ≠ .searchRunbooks := by
      simp only [isExecutedCheck, Bool.and_eq_true, decide_eq_true_eq] at hexecuted
      exact hexecuted.1
    simp [hallowed, ReservationLedger.isRunbook, htool]
  have hsplit := ofKind_append kind setting.incident.evidence gathered
  rw [← hevidence] at hsplit
  cases kind with
  | symptom =>
      have hnone : (state.receipts.filter isExecutedCheck).countP (fun receipt =>
          kindByTool receipt.tool = some .symptom) = 0 := by
        refine List.countP_eq_zero.2 fun receipt _ => ?_
        cases receipt.tool <;> simp [kindByTool]
      right
      simp only [deriveContextQuotas]
      rw [hsplit, hbuilt.symptom, hgathered, hnone]
      decide
  | topology =>
      have hone : (state.receipts.filter isExecutedCheck).countP (fun receipt =>
          kindByTool receipt.tool = some .topology) ≤ state.receipts.countP isTopologyCheck := by
        rw [List.countP_filter]
        refine List.countP_mono_left fun receipt hmem hboth => ?_
        obtain ⟨hkind, hexecuted⟩ := (Bool.and_eq_true _ _).mp hboth
        have hallowed := hfew.allowed receipt hmem hexecuted
        have htool : receipt.tool = .getTopology := by
          cases htool : receipt.tool <;> simp [htool, kindByTool] at hkind ⊢
        simp [isTopologyCheck, hallowed, htool]
      have htopology := hfew.topology
      right
      simp only [deriveContextQuotas]
      rw [hsplit, hbuilt.topology, hgathered]
      omega
  | metric =>
      have hown := hbuilt.rest .metric (by decide) (by decide)
      simp only [deriveContextQuotas]
      omega
  | log =>
      have hown := hbuilt.rest .log (by decide) (by decide)
      simp only [deriveContextQuotas]
      omega
  | change =>
      have hown := hbuilt.rest .change (by decide) (by decide)
      simp only [deriveContextQuotas]
      omega

end Counting

section Growing

variable {proposal : ToolProposal} {receipts : List ToolReceipt} {evidence : List Evidence}
  {passages : List RunbookPassage} {mode : RetrievalMode} {failed : Bool}

@[simp] theorem proposedCheck_tool (setting : Setting) (proposal : ToolProposal) :
    (proposedCheck setting proposal).tool = proposal.tool :=
  resolveEffectiveWindow_tool _ _

theorem growth_kinds (hpending : thread.state.pendingProposal = some proposal)
    (htyped : Typed thread turn)
    (h : Growth setting thread.state proposal turn.outside receipts evidence passages mode
      failed) :
    evidence.map (fun record => some record.kind) =
      (receipts.filter isExecutedCheck).map fun receipt => kindByTool receipt.tool := by
  have hmatched := growth_matched h
  cases h with
  | executed found record _ hallowed htool hfound hexecuted hevidence =>
      obtain ⟨-, -, -, hkind⟩ := buildEvidence_ok hevidence
      have hcheck : isExecutedCheck (settledFor setting thread.state proposal turn.outside
          .executed found.reasonCode found.durationMs (some record.contentHash)
          (some record.evidenceId)) = true := by
        by_contra hnot
        rw [List.filter_cons_of_neg hnot] at hmatched
        simp at hmatched
      rw [List.filter_cons_of_pos hcheck]
      have hkinds : kindByTool proposal.tool = some found.kind :=
        htyped.2 proposal hpending found hfound hexecuted
      have htools : (settledFor setting thread.state proposal turn.outside .executed
          found.reasonCode found.durationMs (some record.contentHash)
          (some record.evidenceId)).tool = proposal.tool := proposedCheck_tool setting proposal
      simp [hkind, htools, hkinds]
  | nothing => rfl
  | denied _ _ =>
      have hnil := List.map_eq_nil_iff.1 hmatched.symm
      rw [hnil]
      rfl
  | reserved _ =>
      have hnil := List.map_eq_nil_iff.1 hmatched.symm
      rw [hnil]
      rfl
  | searched _ _ _ _ _ =>
      have hnil := List.map_eq_nil_iff.1 hmatched.symm
      rw [hnil]
      rfl
  | lost _ _ _ _ _ _ =>
      have hnil := List.map_eq_nil_iff.1 hmatched.symm
      rw [hnil]
      rfl
  | failed _ _ _ _ _ _ =>
      have hnil := List.map_eq_nil_iff.1 hmatched.symm
      rw [hnil]
      rfl

/-- An allowed topology check is the one of the incident, so it was not seen before. -/
theorem topologyCheck_unseen (hallowed : AllowedCheck setting state (proposedCheck setting proposal))
    (htool : (proposedCheck setting proposal).tool = .getTopology) :
    proposedCheck setting proposal = topologyCheck setting := by
  have hpermitted := hallowed.permitted
  cases hcheck : proposedCheck setting proposal with
  | getTopology arguments =>
      rw [hcheck] at hpermitted
      obtain ⟨incidentId⟩ := arguments
      have hsame : incidentId = setting.incident.scope.incidentId := hpermitted
      rw [topologyCheck, hsame]
  | queryMetric _ => rw [hcheck] at htool; cases htool
  | queryLogs _ => rw [hcheck] at htool; cases htool
  | listRecentChanges _ => rw [hcheck] at htool; cases htool
  | searchRunbooks _ => rw [hcheck] at htool; cases htool

theorem Few.keeps (h : Few setting state) (hkeeps : Keeps state state') : Few setting state' := by
  refine ⟨?_, ?_, ?_, ?_⟩
  · rw [hkeeps.evidence, hkeeps.receipts]
    exact h.kinds
  · rw [hkeeps.receipts]
    exact h.allowed
  · rw [hkeeps.receipts]
    exact h.topology
  · rw [hkeeps.receipts, hkeeps.seen]
    exact h.seen

theorem Few.dispatch (h : Few setting thread.state) (htyped : Typed thread turn)
    (hdispatches : Dispatches setting thread.state turn.outside proposal receipts evidence passages
      mode failed state') : Few setting state' := by
  have hkinds := growth_kinds hdispatches.pending htyped hdispatches.growth
  obtain ⟨gathered, hevidence, hgathered⟩ := h.kinds
  have hmore : ∃ gathered, state'.evidence = setting.incident.evidence ++ gathered ∧
      gathered.map (fun record => some record.kind) =
        (state'.receipts.filter isExecutedCheck).map fun receipt => kindByTool receipt.tool := by
    refine ⟨gathered ++ evidence, ?_, ?_⟩
    · rw [hdispatches.evidenceNow, hevidence, List.append_assoc]
    · rw [hdispatches.receiptsNow, List.map_append, List.filter_append, List.map_append,
        hgathered, hkinds]
  rcases growth_receipts hdispatches.growth with hnone | ⟨receipt, hone, hnew⟩
  · have hreceipts : state'.receipts = thread.state.receipts := by
      rw [hdispatches.receiptsNow, hnone, List.append_nil]
    refine ⟨hmore, by rw [hreceipts]; exact h.allowed, by rw [hreceipts]; exact h.topology, ?_⟩
    rw [hreceipts]
    intro hpositive
    rcases hdispatches.seenNow with ⟨hseen, -⟩ | hseen
    · rw [hseen]
      exact h.seen hpositive
    · rw [hseen]
      exact Finset.mem_insert_of_mem (h.seen hpositive)
  · have hreceipts : state'.receipts = thread.state.receipts ++ [receipt] := by
      rw [hdispatches.receiptsNow, hone]
    have hseen : state'.seenFingerprints = insert
        (setting.hashing.fingerprint (proposedCheck setting proposal))
        thread.state.seenFingerprints := by
      rcases hdispatches.seenNow with ⟨-, hempty⟩ | hseen
      · rw [hone] at hempty
        cases hempty
      · exact hseen
    have hcount : state'.receipts.countP isTopologyCheck =
        thread.state.receipts.countP isTopologyCheck +
          if isTopologyCheck receipt = true then 1 else 0 := by
      rw [hreceipts, List.countP_append, List.countP_singleton]
    refine ⟨hmore, ?_, ?_, ?_⟩
    · rw [hreceipts]
      intro other hmem hexecuted
      rcases List.mem_append.1 hmem with hold | hlast
      · exact h.allowed other hold hexecuted
      · obtain rfl := List.mem_singleton.1 hlast
        rcases hnew.policy with ⟨-, -, houtcome⟩ | ⟨hallowed, -⟩
        · rw [isExecutedCheck_outcome (by rw [houtcome]; decide)] at hexecuted
          cases hexecuted
        · exact hallowed
    · rw [hcount]
      have htopology := h.topology
      split
      · rename_i hcheck
        simp only [isTopologyCheck, Bool.and_eq_true, decide_eq_true_eq] at hcheck
        rcases hnew.policy with ⟨hdenied, -⟩ | ⟨-, hallowed⟩
        · rw [hdenied] at hcheck
          cases hcheck.1
        · -- an earlier one would have left its fingerprint among those seen
          have hsame := topologyCheck_unseen hallowed (hnew.tool.symm.trans hcheck.2)
          have hunseen := hallowed.unseen
          rw [hsame] at hunseen
          have hzero : ¬ 0 < thread.state.receipts.countP isTopologyCheck :=
            fun hpositive => hunseen (h.seen hpositive)
          omega
      · exact htopology
    · rw [hcount, hseen]
      intro hpositive
      by_cases hcheck : isTopologyCheck receipt = true
      · simp only [isTopologyCheck, Bool.and_eq_true, decide_eq_true_eq] at hcheck
        rcases hnew.policy with ⟨hdenied, -⟩ | ⟨-, hallowed⟩
        · rw [hdenied] at hcheck
          cases hcheck.1
        · rw [topologyCheck_unseen hallowed (hnew.tool.symm.trans hcheck.2)]
          exact Finset.mem_insert_self _ _
      · rw [if_neg hcheck] at hpositive
        exact Finset.mem_insert_of_mem (h.seen hpositive)

end Growing

section Prompts

def promptOf (setting : Setting) (evidence : List Evidence) (markers : List String)
    (modelCallsLeft checksLeft searchesLeft : ℤ) (passages : List RunbookPassage)
    (notes : List DeniedCheckNote) (stage : Stage) : String :=
  renderContext setting.incident.packet setting.incident.scope evidence markers modelCallsLeft
      checksLeft passages notes searchesLeft ++
    "\n\n## Task\n" ++ stageInstructions stage

/-- A request that shows all the evidence of a state, in order and without a marker. -/
def ShowsAll (setting : Setting) (state : GraphState) (request : ModelRequest) : Prop :=
  (EvidenceStore.mk state.incidentId state.evidence).contextEvidence
      (deriveContextQuotas setting.budgets.executedTools) =
    ((EvidenceStore.mk state.incidentId state.evidence).ordered, []) ∧
  (∃ modelCallsLeft checksLeft searchesLeft passages notes stage, request.contextText =
    promptOf setting (EvidenceStore.mk state.incidentId state.evidence).ordered []
      modelCallsLeft checksLeft searchesLeft passages notes stage) ∧
  ∀ record ∈ state.evidence, (evidenceLine record).toList <:+: request.contextText.toList

theorem evidenceLine_infix {evidence : List Evidence} {record : Evidence}
    (hmem : record ∈ evidence) {modelCallsLeft checksLeft searchesLeft : ℤ}
    {passages : List RunbookPassage} {notes : List DeniedCheckNote} {stage : Stage} :
    (evidenceLine record).toList <:+: (promptOf setting evidence [] modelCallsLeft checksLeft
      searchesLeft passages notes stage).toList := by
  have hline : (evidenceLine record).toList ∈ (headerLines setting.incident.packet
      setting.incident.scope modelCallsLeft checksLeft searchesLeft notes ++ [fenceOpen] ++
        insideLines evidence [] passages ++ [fenceClose]).map String.toList := by
    refine List.mem_map_of_mem ?_
    simp only [List.mem_append, insideLines]
    exact Or.inl (Or.inr (Or.inl (Or.inl (List.mem_map_of_mem hmem))))
  obtain ⟨before, behind, hinside⟩ := Text.infix_join "\n".toList hline
  refine ⟨before, behind ++ "\n\n## Task\n".toList ++ (stageInstructions stage).toList, ?_⟩
  simp only [promptOf, renderContext, joinStrings, String.toList_append, String.toList_ofList]
  rw [← hinside]
  simp

theorem rendered_showsAll {stage : Stage} {phase : GraphPhase} {asking : Asking}
    {repairErrors : Option String} {request : ModelRequest}
    (hbuilt : BuiltIncident setting.incident) (hsound : Sound setting state)
    (hfew : Few setting state)
    (h : renderStageRequest (stageContext setting state
      ⟨state.incidentId, state.evidence⟩ state.receipts stage phase) asking repairErrors =
        .ok request) : ShowsAll setting state request := by
  have hall := EvidenceStore.contextEvidence_of_within
    ⟨state.incidentId, state.evidence⟩ (within_quotas hbuilt hsound hfew)
  have htext : ∃ modelCallsLeft checksLeft searchesLeft passages notes stage,
      request.contextText = promptOf setting
        (EvidenceStore.mk state.incidentId state.evidence).ordered []
        modelCallsLeft checksLeft searchesLeft passages notes stage := by
    unfold renderStageRequest at h
    split at h
    · rename_i checksLeft notes searchesLeft _ _ _
      refine ⟨asking.callsLeft setting.budgets, checksLeft, searchesLeft, state.runbookPassages,
        notes, stage, ?_⟩
      rw [← Except.ok.inj h]
      simp only [contextText, stageContext, hall, promptOf]
    · cases h
    · cases h
    · cases h
  refine ⟨hall, htext, fun record hmem => ?_⟩
  obtain ⟨modelCallsLeft, checksLeft, searchesLeft, passages, notes, stage, heq⟩ := htext
  rw [heq]
  exact evidenceLine_infix (EvidenceStore.mem_ordered.2 hmem)

theorem askOnce_requests {α : Type} {context : StageContext} {asking asked : Asking}
    {repairErrors : Option String} {reply : Reply α}
    {outcome : Except Escape (Except String α)}
    (h : askOnce context asking repairErrors reply = (asked, outcome)) :
    ∀ request ∈ asked.requests, request ∈ asking.requests ∨
      ∃ asking' repairErrors', renderStageRequest context asking' repairErrors' = .ok request := by
  unfold askOnce at h
  cases hrender : renderStageRequest context asking repairErrors with
  | error escape =>
      rw [hrender] at h
      obtain ⟨rfl, rfl⟩ := Prod.mk.inj h
      exact fun request hmem => Or.inl hmem
  | ok request =>
      have hadded : ∀ other ∈ asking.requests ++ [request], other ∈ asking.requests ∨
          ∃ asking' repairErrors', renderStageRequest context asking' repairErrors' = .ok other := by
        intro other hmem
        rcases List.mem_append.1 hmem with hold | hnew
        · exact Or.inl hold
        · obtain rfl := List.mem_singleton.1 hnew
          exact Or.inr ⟨asking, repairErrors, hrender⟩
      rw [hrender] at h
      cases hreply : reply request with
      | error escape =>
          simp only [hreply] at h
          obtain ⟨rfl, rfl⟩ := Prod.mk.inj h
          exact hadded
      | ok answered =>
          simp only [hreply] at h
          obtain ⟨rfl, rfl⟩ := Prod.mk.inj h
          exact hadded

theorem askWithRepair_requests {α : Type} (context : StageContext) (startedAt reading : Time)
    (asking : Asking) (first second : Reply α) :
    ∀ request ∈ (askWithRepair context startedAt reading asking first second).1.requests,
      request ∈ asking.requests ∨
        ∃ asking' repairErrors, renderStageRequest context asking' repairErrors = .ok request := by
  unfold askWithRepair
  split
  · exact fun request hmem => Or.inl hmem
  split
  · exact fun request hmem => Or.inl hmem
  cases hasked : askOnce context asking none first with
  | mk asked outcome =>
  have hfirst := askOnce_requests hasked
  cases outcome with
  | error escape => exact hfirst
  | ok parsed =>
  cases parsed with
  | ok value => exact hfirst
  | error errors =>
  dsimp only
  split
  · exact hfirst
  cases hagain : askOnce context (asked.invalid context.stage errors).repair (some errors)
    second with
  | mk again outcome =>
  have hsecond : ∀ request ∈ again.requests, request ∈ asking.requests ∨
      ∃ asking' repairErrors, renderStageRequest context asking' repairErrors = .ok request := by
    intro request hmem
    rcases askOnce_requests hagain request hmem with hold | hnew
    · exact hfirst request hold
    · exact Or.inr hnew
  cases outcome with
  | error escape => exact hsecond
  | ok parsed =>
  cases parsed with
  | ok value => exact hsecond
  | error errors' => exact hsecond

/-- Every request of a node shows all the evidence of the state it starts from. -/
theorem perform_showsAll {resumes : List Json} (hbuilt : BuiltIncident setting.incident)
    (hsound : Sound setting state) (hfew : Few setting state) :
    ∀ request ∈ (perform setting node state resumes turn).requests,
      ShowsAll setting state request := by
  intro request hmem
  have hnone : ∀ asking : Asking, asking.requests = [] → ∀ context : StageContext,
      (request ∈ asking.requests ∨ ∃ asking' repairErrors,
        renderStageRequest context asking' repairErrors = .ok request) →
      ∃ asking' repairErrors, renderStageRequest context asking' repairErrors = .ok request := by
    intro asking hempty context hrequest
    rcases hrequest with hold | hnew
    · rw [hempty] at hold
      cases hold
    · exact hnew
  cases node with
  | investigate =>
      simp only [perform, investigate, hsound.rebuildReceipts, hsound.rebuildRecords] at hmem
      obtain ⟨asking, repairErrors, hrender⟩ :=
        hnone _ rfl _ (askWithRepair_requests _ _ _ _ _ _ request hmem)
      exact rendered_showsAll hbuilt hsound hfew hrender
  | finalAssessment =>
      simp only [perform, finalAssessment, hsound.rebuildReceipts, hsound.rebuildRecords] at hmem
      obtain ⟨asking, repairErrors, hrender⟩ :=
        hnone _ rfl _ (askWithRepair_requests _ _ _ _ _ _ request hmem)
      exact rendered_showsAll hbuilt hsound hfew hrender
  | dispatchTool =>
      rw [perform, (dispatchTool_quiet _ _ turn).1] at hmem
      cases hmem
  | normalizeEvidence => cases hmem
  | escalationInterrupt =>
      rw [perform, (escalationInterrupt_quiet _ _ resumes).1] at hmem
      cases hmem
  | finalReport =>
      rw [perform, (finalReport_quiet _ _ turn).1] at hmem
      cases hmem

end Prompts

section Visible

/-- Every prompt so far has shown all the evidence of its moment. -/
structure Visible (setting : Setting) (thread : Thread) : Prop where
  sound : Sound setting thread.state
  few : Few setting thread.state
  shown : ∀ entry ∈ thread.journal, ∀ request ∈ entry.requests,
    ShowsAll setting entry.before request

theorem Few.perform {resumes : List Json} (h : Few setting thread.state)
    (hsound : Sound setting thread.state) (htyped : Typed thread turn)
    (hleft : (perform setting node thread.state resumes turn).left = .updated state') :
    Few setting state' := by
  by_cases hnode : node = .dispatchTool
  · subst hnode
    obtain ⟨proposal, receipts, evidence, passages, mode, failed, hdispatches⟩ :=
      dispatchTool_dispatches hsound.receiptsOfState hsound.receiptsKeyed htyped.1.1 hleft
    exact h.dispatch htyped hdispatches
  · exact h.keeps (perform_keeps hnode hleft)

theorem Visible.step (hbuilt : BuiltIncident setting.incident) (h : Visible setting thread)
    (htyped : Typed thread turn) (hsteps : Steps setting thread node turn next) :
    Visible setting next := by
  have hshown : ∀ entry ∈ journalOf setting thread node turn, ∀ request ∈ entry.requests,
      ShowsAll setting entry.before request := by
    intro entry hentry request hrequest
    rcases List.mem_append.1 hentry with hold | hnew
    · exact h.shown entry hold request hrequest
    · obtain rfl := List.mem_singleton.1 hnew
      exact perform_showsAll hbuilt h.sound h.few request hrequest
  have hsound := h.sound.step htyped.1 hsteps
  cases hsteps with
  | raised escape hraises => exact ⟨hsound, h.few, hshown⟩
  | paused payload hpaused => exact ⟨hsound, h.few, hshown⟩
  | ended state hleft hroute => exact ⟨hsound, h.few.perform h.sound htyped hleft, hshown⟩
  | moved state following hleft hroute =>
      exact ⟨hsound, h.few.perform h.sound htyped hleft, hshown⟩

def labMetric : ToolProposal where
  arguments := .queryMetric ⟨.gatewayErrorRate, "gateway", none, none⟩
  evidenceGap := "whether requests fail"
  expectedObservation := "more errors than before"
  gapBound := by decide
  observationBound := by decide

def labMetricPlan : Plan where
  hypotheses := labHypotheses
  proposal := some labMetric
  stopReason := none
  hypothesesBound := labHypotheses_bound
  stopBound := noStop_bound
  proposalOrStop := by decide

/-- A turn in which the model proposes a metric check that finds a rise. -/
def measuringTurn : Turn :=
  { answeringTurn diagnosing with
    firstProposal := fun _ =>
      .ok ⟨some labMetricPlan, "", [toToolCall labReader labMetric "call-1"], none⟩
    outside := { labOutside "receipt" "evidence" with
      check := .ok ⟨.executed, .metric, "prometheus", "errors rise", [("peak", .int 3)], none,
        12⟩ } }

def stoppedTurn : Turn :=
  { answeringTurn diagnosing with outside := labOutside "receipt-2" "evidence-2" }

/-- A metric check, and then a stop. -/
def measuringActs : List Act :=
  [.step measuringTurn, .step measuringTurn, .step stoppedTurn, .step stoppedTurn,
    .step stoppedTurn, .step stoppedTurn]

end Visible

end CausalOps.Investigation
