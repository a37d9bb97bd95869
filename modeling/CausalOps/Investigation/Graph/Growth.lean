import CausalOps.Investigation.Wrappers.Leaves
import CausalOps.Investigation.Graph.Steps

set_option autoImplicit false

/-! What the nodes commit. Only the dispatching node adds receipts, evidence and passages,
and it adds at most one of each kind of record at a time. -/

namespace CausalOps.Investigation

section Rebuilds

variable {budgets : Budgets} {receipts : List ToolReceipt} {state : GraphState}

def ledgerOf (budgets : Budgets) (receipts : List ToolReceipt) : ReservationLedger :=
  ⟨budgets.executedTools, budgets.runbookSearches, receipts, []⟩

theorem foldlM_receipts {ledger : ReservationLedger}
    (hkeyed : Rows.Keyed ToolReceipt.receiptId (ledger.receipts ++ receipts)) :
    receipts.foldlM
        (fun (ledger : ReservationLedger) (receipt : ToolReceipt) =>
          if ledger.receipts.any fun old => old.receiptId = receipt.receiptId then
            Except.error ("duplicate receipt_id " ++ receipt.receiptId ++ " in from_receipts")
          else .ok { ledger with receipts := ledger.receipts ++ [receipt] }) ledger =
      .ok { ledger with receipts := ledger.receipts ++ receipts } := by
  induction receipts generalizing ledger with
  | nil => simp [pure, Except.pure]
  | cons receipt rest ih =>
      have hfresh : ReservationLedger.Unused receipt.receiptId ledger.receipts := by
        intro old hold heq
        have hnodup : ((ledger.receipts ++ receipt :: rest).map ToolReceipt.receiptId).Nodup :=
          hkeyed
        rw [List.map_append, List.nodup_append] at hnodup
        exact hnodup.2.2 _ (List.mem_map_of_mem hold) _
          (List.mem_map_of_mem List.mem_cons_self) heq
      have hkeyed' : Rows.Keyed ToolReceipt.receiptId
          ({ ledger with receipts := ledger.receipts ++ [receipt] }.receipts ++ rest) := by
        simpa using hkeyed
      have hrest := ih hkeyed'
      simp only [List.foldlM_cons, ReservationLedger.any_unused hfresh, Bool.false_eq_true,
        if_false]
      change List.foldlM _ _ rest = _
      rw [hrest]
      simp

theorem rebuildLedger_of_keyed (budgets : Budgets)
    (hkeyed : Rows.Keyed ToolReceipt.receiptId receipts) :
    rebuildLedger budgets receipts = .ok (ledgerOf budgets receipts) := by
  have hall : Rows.Keyed ToolReceipt.receiptId
      ((ReservationLedger.empty budgets.executedTools budgets.runbookSearches).receipts ++
        receipts) := by
    simpa [ReservationLedger.empty] using hkeyed
  have hfold := foldlM_receipts hall
  simp only [rebuildLedger, ReservationLedger.fromReceipts, hfold]
  rfl

theorem rebuildReceipts_of_own (hown : ∀ receipt ∈ state.receipts,
    receipt.incidentId = state.incidentId) : rebuildReceipts state = .ok state.receipts := by
  rw [rebuildReceipts, if_pos (by simpa using hown)]

end Rebuilds

section Growth

/-- A check that policy allows: a slot is left, its fingerprint is new, and its
arguments are within scope and budgets. -/
structure AllowedCheck (setting : Setting) (state : GraphState) (effective : ToolArguments) :
    Prop where
  slot : 0 < (ledgerOf setting.budgets state.receipts).slotsLeftFor effective.tool
  unseen : setting.hashing.fingerprint effective ∉ state.seenFingerprints
  permitted : Permitted setting.incident.scope setting.budgets effective

def proposedCheck (setting : Setting) (proposal : ToolProposal) : ToolArguments :=
  resolveEffectiveWindow proposal.arguments setting.incident.scope

def proposedDecision (setting : Setting) (state : GraphState) (proposal : ToolProposal) :
    PolicyDecision :=
  decisionOf setting.hashing proposal setting.incident.scope state.seenFingerprints
    setting.budgets (ledgerOf setting.budgets state.receipts)

def reservedFor (setting : Setting) (state : GraphState) (proposal : ToolProposal)
    (outside : Outside) : ToolReceipt :=
  reservedNow setting.incident.scope (proposedCheck setting proposal)
    (proposedDecision setting state proposal) outside

def deniedFor (setting : Setting) (state : GraphState) (proposal : ToolProposal)
    (outside : Outside) : ToolReceipt :=
  deniedNow setting.incident.scope (proposedCheck setting proposal)
    (proposedDecision setting state proposal) outside

def settledFor (setting : Setting) (state : GraphState) (proposal : ToolProposal)
    (outside : Outside) (outcome : ToolOutcome) (reasonCode : Option ReasonCode) (durationMs : ℤ)
    (resultDigest evidenceId : Option String) : ToolReceipt :=
  ReservationLedger.settledReceipt (reservedFor setting state proposal outside) outcome reasonCode
    durationMs.toNat resultDigest evidenceId

/-- An exception strikes after the wrapper has settled. -/
def StrikesLate (outside : Outside) : Prop :=
  outside.strike = some .settled ∨ ∃ events, outside.strike = some (.recorded events)

/-- What the dispatching node adds to the receipts, the evidence and the passages, the
retrieval mode it leaves, and whether it fails the run. -/
inductive Growth (setting : Setting) (state : GraphState) (proposal : ToolProposal)
    (outside : Outside) :
    List ToolReceipt → List Evidence → List RunbookPassage → RetrievalMode → Bool → Prop
  | nothing : Growth setting state proposal outside [] [] [] state.retrievalMode true
  | denied (failed : Bool)
      (hdenied : (proposedDecision setting state proposal).result = .denied) :
      Growth setting state proposal outside [deniedFor setting state proposal outside] [] []
        state.retrievalMode failed
  | reserved (hallowed : AllowedCheck setting state (proposedCheck setting proposal)) :
      Growth setting state proposal outside [reservedFor setting state proposal outside] [] []
        state.retrievalMode true
  | searched (found : RunbookCheckOutcome)
      (hallowed : AllowedCheck setting state (proposedCheck setting proposal))
      (htool : (proposedCheck setting proposal).tool = .searchRunbooks)
      (hfound : outside.search = .ok found) (hduration : 0 ≤ found.durationMs) :
      Growth setting state proposal outside
        [settledFor setting state proposal outside found.outcome found.reasonCode found.durationMs
          none none] [] found.passages found.retrievalMode false
  | lost (found : RunbookCheckOutcome)
      (hallowed : AllowedCheck setting state (proposedCheck setting proposal))
      (htool : (proposedCheck setting proposal).tool = .searchRunbooks)
      (hfound : outside.search = .ok found) (hduration : 0 ≤ found.durationMs)
      (hstrike : StrikesLate outside) :
      Growth setting state proposal outside
        [settledFor setting state proposal outside found.outcome found.reasonCode found.durationMs
          none none] [] [] state.retrievalMode true
  | failed (found : CheckOutcome) (failed : Bool)
      (hallowed : AllowedCheck setting state (proposedCheck setting proposal))
      (htool : (proposedCheck setting proposal).tool ≠ .searchRunbooks)
      (hfound : outside.check = .ok found) (hnot : found.outcome ≠ .executed) :
      Growth setting state proposal outside
        [settledFor setting state proposal outside found.outcome found.reasonCode found.durationMs
          none none] [] [] state.retrievalMode failed
  | executed (found : CheckOutcome) (evidence : Evidence) (failed : Bool)
      (hallowed : AllowedCheck setting state (proposedCheck setting proposal))
      (htool : (proposedCheck setting proposal).tool ≠ .searchRunbooks)
      (hfound : outside.check = .ok found) (hexecuted : found.outcome = .executed)
      (hevidence : buildEvidence setting.hashing outside.evidenceId
        setting.incident.scope.incidentId outside.observedAt found outside.receiptId =
          .ok evidence) :
      Growth setting state proposal outside
        [settledFor setting state proposal outside .executed found.reasonCode found.durationMs
          (some evidence.contentHash) (some evidence.evidenceId)] [evidence] []
        state.retrievalMode failed

/-- The dispatching node's new state, given what it adds. -/
structure Dispatches (setting : Setting) (state : GraphState) (outside : Outside)
    (proposal : ToolProposal) (receipts : List ToolReceipt) (evidence : List Evidence)
    (passages : List RunbookPassage) (mode : RetrievalMode) (failed : Bool)
    (state' : GraphState) : Prop where
  pending : state.pendingProposal = some proposal
  growth : Growth setting state proposal outside receipts evidence passages mode failed
  receiptsNow : state'.receipts = state.receipts ++ receipts
  evidenceNow : state'.evidence = state.evidence ++ evidence
  passagesNow : state'.runbookPassages = state.runbookPassages ++ passages
  modeNow : state'.retrievalMode = mode
  seenNow : state'.seenFingerprints = state.seenFingerprints ∧ receipts = [] ∨
    state'.seenFingerprints = insert
      (setting.hashing.fingerprint (proposedCheck setting proposal)) state.seenFingerprints
  failureNow : state'.failureReason =
    if failed then some .internalError else state.failureReason
  restNow : state'.incidentId = state.incidentId ∧ state'.startedAt = state.startedAt ∧
    state'.assessment = state.assessment ∧ state'.escalationReason = state.escalationReason ∧
    state'.modelTurn = state.modelTurn ∧ state'.report = state.report ∧
    state'.pendingProposal = none

variable {setting : Setting} {state : GraphState} {proposal : ToolProposal} {turn : Turn}

theorem allowedCheck_of_allowed
    (h : (proposedDecision setting state proposal).result = .allowed) :
    AllowedCheck setting state (proposedCheck setting proposal) :=
  have hallowed := authorize_allowed h
  ⟨hallowed.1, hallowed.2.1, hallowed.2.2⟩

theorem settledOutcome_error {outside : Outside} {result : DispatchResult} {escape : Escape}
    (h : settledOutcome outside result = .error escape) : outside.strike = some .settled := by
  by_cases hstruck : struckAt outside .settled = true
  · simpa [struckAt] using hstruck
  · simp [settledOutcome, hstruck] at h

theorem settledOutcome_ok {outside : Outside} {result result' : DispatchResult}
    (h : settledOutcome outside result = .ok result') : result' = result := by
  by_cases hstruck : struckAt outside .settled = true
  · simp [settledOutcome, hstruck] at h
  · simpa [settledOutcome, hstruck] using h.symm

theorem yields_ok {outcome : Except Escape DispatchResult} {result result' : DispatchResult}
    (hyields : Yields outcome result) (h : outcome = .ok result') : result' = result := by
  rcases hyields with hyields | ⟨name, hyields⟩
  · exact Except.ok.inj (h.symm.trans hyields)
  · rw [hyields] at h
    cases h

theorem dispatches_crashed {outside : Outside} {ledger : ReservationLedger} {seen : Finset String}
    {details : List EventDetail} {error : String} {receipts : List ToolReceipt}
    {evidence : List Evidence} (hpending : state.pendingProposal = some proposal)
    (hgrowth : Growth setting state proposal outside receipts evidence [] state.retrievalMode true)
    (hreceipts : ledger.receipts = state.receipts ++ receipts)
    (hevidence : ledger.evidence.map Prod.snd = evidence)
    (hseen : seen = state.seenFingerprints ∧ receipts = [] ∨ seen = insert
      (setting.hashing.fingerprint (proposedCheck setting proposal)) state.seenFingerprints) :
    Dispatches setting state outside proposal receipts evidence [] state.retrievalMode true
      (crashedState state ledger seen details error) :=
  { pending := hpending
    growth := hgrowth
    receiptsNow := hreceipts
    evidenceNow := by simp [crashedState, hevidence]
    passagesNow := by simp [crashedState]
    modeNow := rfl
    seenNow := hseen
    failureNow := rfl
    restNow := ⟨rfl, rfl, rfl, rfl, rfl, rfl, rfl⟩ }

theorem dispatches_ok {outside : Outside} {ledger : ReservationLedger} {seen : Finset String}
    {details : List EventDetail} {receipts : List ToolReceipt} {result : DispatchResult}
    (hpending : state.pendingProposal = some proposal)
    (hgrowth : Growth setting state proposal outside receipts result.evidence.toList
      result.passages (result.retrievalMode.getD state.retrievalMode) false)
    (hreceipts : ledger.receipts = state.receipts ++ receipts)
    (hseen : seen = insert (setting.hashing.fingerprint (proposedCheck setting proposal))
      state.seenFingerprints) :
    Dispatches setting state outside proposal receipts result.evidence.toList result.passages
      (result.retrievalMode.getD state.retrievalMode) false
      (dispatchedState state ledger seen details result) :=
  { pending := hpending
    growth := hgrowth
    receiptsNow := hreceipts
    evidenceNow := rfl
    passagesNow := rfl
    modeNow := rfl
    seenNow := Or.inr hseen
    failureNow := rfl
    restNow := ⟨rfl, rfl, rfl, rfl, rfl, rfl, rfl⟩ }

theorem strikesLate_of_recording {outside : Outside} {events : ℕ}
    (h : struckWhileRecording outside = some events) : StrikesLate outside := by
  simp only [struckWhileRecording] at h
  split at h
  · rename_i recorded hstrike
    exact Or.inr ⟨recorded, hstrike⟩
  · cases h

/-- Where a check leaves its result or raises, the node commits the same growth and fails the
run or not. -/
theorem yields_dispatches {outside : Outside} {ledger : ReservationLedger} {seen : Finset String}
    {sent : Option ToolArguments} {outcome : Except Escape DispatchResult}
    {result : DispatchResult} {receipts : List ToolReceipt} {state' : GraphState}
    (hpending : state.pendingProposal = some proposal) (hyields : Yields outcome result)
    (hgrowth : ∀ failed, Growth setting state proposal outside receipts result.evidence.toList []
      state.retrievalMode failed)
    (hpassages : result.passages = []) (hmode : result.retrievalMode = none)
    (hreceipts : ledger.receipts = state.receipts ++ receipts)
    (hevidence : ledger.evidence.map Prod.snd = result.evidence.toList)
    (hseen : seen = insert (setting.hashing.fingerprint (proposedCheck setting proposal))
      state.seenFingerprints)
    (h : dispatchedLeft state proposal outside ⟨ledger, seen, sent, outcome⟩ = .updated state') :
    ∃ failed, Dispatches setting state outside proposal receipts result.evidence.toList []
      state.retrievalMode failed state' := by
  simp only [dispatchedLeft] at h
  split at h
  · cases h
  · obtain rfl := Left.updated.inj h
    exact ⟨true, dispatches_crashed hpending (hgrowth true) hreceipts hevidence (Or.inr hseen)⟩
  · rename_i result'
    obtain rfl := yields_ok hyields rfl
    split at h
    · obtain rfl := Left.updated.inj h
      exact ⟨true, dispatches_crashed hpending (hgrowth true) hreceipts hevidence (Or.inr hseen)⟩
    · obtain rfl := Left.updated.inj h
      have hgrows : Growth setting state proposal outside receipts result'.evidence.toList
          result'.passages (result'.retrievalMode.getD state.retrievalMode) false := by
        rw [hpassages, hmode]
        exact hgrowth false
      have hdispatches : ∀ details, Dispatches setting state outside proposal receipts
          result'.evidence.toList result'.passages
          (result'.retrievalMode.getD state.retrievalMode) false
          (dispatchedState state ledger seen details result') :=
        fun _ => dispatches_ok hpending hgrows hreceipts hseen
      rw [hpassages, hmode] at hdispatches
      exact ⟨false, hdispatches _⟩

theorem dispatchedLeft_dispatches {outside : Outside} {dispatched : Dispatched}
    {state' : GraphState} (hpending : state.pendingProposal = some proposal)
    (hleaves : Leaves setting.hashing setting.incident.scope (proposedCheck setting proposal)
      (proposedDecision setting state proposal) state.seenFingerprints
      (ledgerOf setting.budgets state.receipts) outside dispatched)
    (h : dispatchedLeft state proposal outside dispatched = .updated state') :
    ∃ receipts evidence passages mode failed, Dispatches setting state outside proposal receipts
      evidence passages mode failed state' := by
  have hmark : (proposedDecision setting state proposal).fingerprint =
      setting.hashing.fingerprint (proposedCheck setting proposal) :=
    authorize_fingerprint _ _ _ _ _ _
  have hseen : ∀ {receipts : List ToolReceipt}, insert
      (proposedDecision setting state proposal).fingerprint state.seenFingerprints =
        state.seenFingerprints ∧ receipts = [] ∨
      insert (proposedDecision setting state proposal).fingerprint state.seenFingerprints = insert
        (setting.hashing.fingerprint (proposedCheck setting proposal)) state.seenFingerprints :=
    Or.inr (by rw [hmark])
  cases hleaves with
  | struck name =>
      simp only [dispatchedLeft] at h
      obtain rfl := Left.updated.inj h
      exact ⟨_, _, _, _, _, dispatches_crashed hpending .nothing (by simp [ledgerOf]) rfl hseen⟩
  | denied outcome hdenied hyields =>
      obtain ⟨failed, hdispatches⟩ := yields_dispatches hpending hyields
        (fun failed => .denied failed hdenied) rfl rfl rfl rfl (by rw [hmark]) h
      exact ⟨_, _, _, _, failed, hdispatches⟩
  | reserved escape hallowed =>
      have hcheck := allowedCheck_of_allowed hallowed
      simp only [dispatchedLeft] at h
      cases escape with
      | bubbled => cases h
      | refused refusal =>
          obtain rfl := Left.updated.inj h
          exact ⟨_, _, _, _, _, dispatches_crashed hpending (.reserved hcheck) rfl rfl hseen⟩
      | raised name =>
          obtain rfl := Left.updated.inj h
          exact ⟨_, _, _, _, _, dispatches_crashed hpending (.reserved hcheck) rfl rfl hseen⟩
  | searched found outcome hallowed htool hfound hduration hyields =>
      have hcheck := allowedCheck_of_allowed hallowed
      simp only [dispatchedLeft] at h
      split at h
      · cases h
      · have hstrike : StrikesLate outside := Or.inl (settledOutcome_error hyields.symm)
        obtain rfl := Left.updated.inj h
        exact ⟨_, _, _, _, _,
          dispatches_crashed hpending (.lost found hcheck htool hfound hduration hstrike) rfl rfl hseen⟩
      · have hresult := settledOutcome_ok hyields.symm
        split at h
        · rename_i events hevents
          obtain rfl := Left.updated.inj h
          exact ⟨_, _, _, _, _, dispatches_crashed hpending
            (.lost found hcheck htool hfound hduration (strikesLate_of_recording hevents)) rfl rfl hseen⟩
        · obtain rfl := Left.updated.inj h
          refine ⟨_, _, _, _, _, dispatches_ok hpending ?_ rfl (by rw [hmark])⟩
          rw [hresult]
          exact .searched found hcheck htool hfound hduration
  | failed found outcome hallowed htool hfound hnot hyields =>
      have hcheck := allowedCheck_of_allowed hallowed
      obtain ⟨failed, hdispatches⟩ := yields_dispatches hpending hyields
        (fun failed => .failed found failed hcheck htool hfound hnot) rfl rfl rfl rfl
        (by rw [hmark]) h
      exact ⟨_, _, _, _, failed, hdispatches⟩
  | executed found evidence outcome hallowed htool hfound hexecuted hevidence hyields =>
      have hcheck := allowedCheck_of_allowed hallowed
      obtain ⟨failed, hdispatches⟩ := yields_dispatches hpending hyields
        (fun failed => .executed found evidence failed hcheck htool hfound hexecuted hevidence)
        rfl rfl rfl rfl (by rw [hmark]) h
      exact ⟨_, _, _, _, failed, hdispatches⟩

/-- The specification of the dispatching node, under an unused receipt id. -/
theorem dispatchTool_dispatches {state' : GraphState}
    (hown : ∀ receipt ∈ state.receipts, receipt.incidentId = state.incidentId)
    (hkeyed : Rows.Keyed ToolReceipt.receiptId state.receipts)
    (hunused : ReservationLedger.Unused turn.outside.receiptId state.receipts)
    (h : (dispatchTool setting state turn).left = .updated state') :
    ∃ proposal receipts evidence passages mode failed, Dispatches setting state turn.outside
      proposal receipts evidence passages mode failed state' := by
  unfold dispatchTool at h
  split at h
  · cases h
  rename_i proposal hpending
  rw [rebuildReceipts_of_own hown] at h
  simp only [rebuildLedger_of_keyed setting.budgets hkeyed] at h
  split at h
  · obtain rfl := Left.updated.inj h
    exact ⟨proposal, _, _, _, _, _, dispatches_crashed hpending .nothing
      (by simp [ledgerOf]) rfl (Or.inl ⟨rfl, rfl⟩)⟩
  · have hleaves := dispatch_leaves setting.hashing proposal setting.incident.scope
      state.seenFingerprints setting.budgets (ledgerOf setting.budgets state.receipts)
      turn.outside hunused
    exact ⟨proposal, dispatchedLeft_dispatches hpending hleaves h⟩

end Growth

section Frames

structure Keeps (before after : GraphState) : Prop where
  incident : after.incidentId = before.incidentId
  started : after.startedAt = before.startedAt
  receipts : after.receipts = before.receipts
  evidence : after.evidence = before.evidence
  passages : after.runbookPassages = before.runbookPassages
  mode : after.retrievalMode = before.retrievalMode
  seen : after.seenFingerprints = before.seenFingerprints

variable {setting : Setting} {state state' : GraphState} {turn : Turn}

theorem investigated_keeps {stage : Stage}
    {asked : Asking × Except Escape (Option (Plan × Option ToolProposal))}
    (h : investigated state stage asked = .updated state') :
    Keeps state state' ∧ state'.assessment = state.assessment ∧
      state'.escalationReason = state.escalationReason := by
  unfold investigated at h
  split at h
  · obtain rfl := Left.updated.inj h
    exact ⟨⟨rfl, rfl, rfl, rfl, rfl, rfl, rfl⟩, rfl, rfl⟩
  · obtain rfl := Left.updated.inj h
    exact ⟨⟨rfl, rfl, rfl, rfl, rfl, rfl, rfl⟩, rfl, rfl⟩
  · cases h
  · obtain rfl := Left.updated.inj h
    exact ⟨⟨rfl, rfl, rfl, rfl, rfl, rfl, rfl⟩, rfl, rfl⟩
  · obtain rfl := Left.updated.inj h
    exact ⟨⟨rfl, rfl, rfl, rfl, rfl, rfl, rfl⟩, rfl, rfl⟩

theorem assessed_keeps {store : EvidenceStore}
    {asked : Asking × Except Escape (Option FinalAssessment)}
    (h : assessed state store asked = .updated state') :
    Keeps state state' ∧ state'.escalationReason = state.escalationReason ∧
      (state'.assessment = none ∧ state'.failureReason.isSome = true ∨
        ∃ assessment, state'.assessment = some assessment ∧ state'.failureReason = none ∧
          store.unknownIds
            (assessment.supportingEvidenceIds ++ assessment.contraryEvidenceIds) = []) := by
  unfold assessed at h
  split at h
  · split at h
    · obtain rfl := Left.updated.inj h
      exact ⟨⟨rfl, rfl, rfl, rfl, rfl, rfl, rfl⟩, rfl, Or.inl ⟨rfl, rfl⟩⟩
    · obtain rfl := Left.updated.inj h
      exact ⟨⟨rfl, rfl, rfl, rfl, rfl, rfl, rfl⟩, rfl, Or.inl ⟨rfl, rfl⟩⟩
  · rename_i assessment _
    dsimp only at h
    split at h
    · obtain rfl := Left.updated.inj h
      exact ⟨⟨rfl, rfl, rfl, rfl, rfl, rfl, rfl⟩, rfl, Or.inl ⟨rfl, rfl⟩⟩
    · rename_i hknown
      obtain rfl := Left.updated.inj h
      exact ⟨⟨rfl, rfl, rfl, rfl, rfl, rfl, rfl⟩, rfl,
        Or.inr ⟨assessment, rfl, rfl, not_not.1 hknown⟩⟩
  · cases h
  · obtain rfl := Left.updated.inj h
    exact ⟨⟨rfl, rfl, rfl, rfl, rfl, rfl, rfl⟩, rfl, Or.inl ⟨rfl, rfl⟩⟩
  · obtain rfl := Left.updated.inj h
    exact ⟨⟨rfl, rfl, rfl, rfl, rfl, rfl, rfl⟩, rfl, Or.inl ⟨rfl, rfl⟩⟩

theorem escalationInterrupt_decides {resumes : List Json}
    (h : (escalationInterrupt setting state resumes).left = .updated state') :
    ∃ reason decision note, resumes.findSome? parseResumeDecision = some (decision, note) ∧
      state' = decidedState state reason decision note := by
  unfold escalationInterrupt at h
  split at h
  · rename_i reason remaining store _ _
    split at h
    · rename_i decision note hfound
      obtain rfl := Left.updated.inj h
      exact ⟨reason, decision, note, hfound, rfl⟩
    · cases h
  · cases h
  · cases h
  · cases h

theorem finalReport_reports
    (h : (finalReport setting state turn).left = .updated state') :
    ∃ report, buildReport setting.budgets state turn.reportReading none = .ok report ∧
      state' = reportedState state report := by
  unfold finalReport at h
  split at h
  · cases h
  · rename_i report hbuilt
    obtain rfl := Left.updated.inj h
    exact ⟨report, hbuilt, rfl⟩

theorem perform_keeps {node : Node} {resumes : List Json} (hnode : node ≠ .dispatchTool)
    (h : (perform setting node state resumes turn).left = .updated state') :
    Keeps state state' := by
  cases node with
  | dispatchTool => exact absurd rfl hnode
  | investigate =>
      simp only [perform, investigate] at h
      split at h
      · exact (investigated_keeps h).1
      · cases h
      · cases h
  | finalAssessment =>
      simp only [perform, finalAssessment] at h
      split at h
      · exact (assessed_keeps h).1
      · cases h
      · cases h
  | normalizeEvidence =>
      obtain rfl := Left.updated.inj h
      exact ⟨rfl, rfl, rfl, rfl, rfl, rfl, rfl⟩
  | escalationInterrupt =>
      obtain ⟨reason, decision, note, -, rfl⟩ := escalationInterrupt_decides h
      exact ⟨rfl, rfl, rfl, rfl, rfl, rfl, rfl⟩
  | finalReport =>
      obtain ⟨report, -, rfl⟩ := finalReport_reports h
      exact ⟨rfl, rfl, rfl, rfl, rfl, rfl, rfl⟩

end Frames

end CausalOps.Investigation
