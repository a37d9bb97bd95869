import CausalOps.Investigation.Graph.Growth

set_option autoImplicit false

/-! The events of a run: appended and numbered in order, and joined to the receipts by the
turns of the proposals and the ids of the receipts. -/

namespace CausalOps.Investigation

section Events

/-- The proposal turn and the receipt id of an event that tells how a dispatch ended. -/
def carriedBy : EventDetail → Option (ℤ × String)
  | .proposalDenied proposalTurn receiptId _ _ => some (proposalTurn, receiptId)
  | .checkFinished proposalTurn receiptId _ _ => some (proposalTurn, receiptId)
  | _ => none

def carries (receiptId : String) (detail : EventDetail) : Bool :=
  (carriedBy detail).any fun carried => carried.2 = receiptId

def recordedTurn : EventDetail → Option ℕ
  | .proposalRecorded proposalTurn _ _ _ => some proposalTurn
  | _ => none

def records (proposalTurn : ℕ) (detail : EventDetail) : Bool :=
  recordedTurn detail = some proposalTurn

def Aside (detail : EventDetail) : Prop := carriedBy detail = none ∧ recordedTurn detail = none

instance (detail : EventDetail) : Decidable (Aside detail) := by
  unfold Aside
  infer_instance

def detailsOf (events : List RunEvent) : List EventDetail := events.map RunEvent.detail

def Numbered (events : List RunEvent) : Prop :=
  events.map RunEvent.sequence = List.range' 1 events.length

variable {phase : GraphPhase} {events : List RunEvent} {details : List EventDetail}

theorem detailsOf_recordEvents :
    detailsOf (recordEvents phase events details) = detailsOf events ++ details := by
  induction details generalizing events with
  | nil => simp
  | cons detail rest ih =>
      have hone : detailsOf (recordEvent phase events detail) = detailsOf events ++ [detail] := by
        simp [detailsOf, recordEvent]
      have hrest := @ih (recordEvent phase events detail)
      rw [hone, List.append_assoc, List.singleton_append] at hrest
      exact hrest

theorem Numbered.recordEvent (h : Numbered events) (phase : GraphPhase) (detail : EventDetail) :
    Numbered (recordEvent phase events detail) := by
  have hmap : events.map RunEvent.sequence = List.range' 1 events.length := h
  rw [Numbered, CausalOps.Investigation.recordEvent, List.map_append, hmap, List.length_append,
    List.length_singleton, List.range'_1_concat, Nat.add_comm 1]
  rfl

theorem Numbered.recordEvents (h : Numbered events) (phase : GraphPhase)
    (details : List EventDetail) : Numbered (recordEvents phase events details) := by
  induction details generalizing events with
  | nil => exact h
  | cons detail rest ih => exact ih (h.recordEvent phase detail)

theorem prefix_recordEvents : events <+: recordEvents phase events details := by
  induction details generalizing events with
  | nil => exact List.prefix_rfl
  | cons detail rest ih => exact (List.prefix_append events _).trans ih

theorem carries_aside {detail : EventDetail} (h : Aside detail) (receiptId : String) :
    carries receiptId detail = false := by
  rw [carries, h.1]
  rfl

theorem countP_carries_aside (h : ∀ detail ∈ details, Aside detail) (receiptId : String) :
    details.countP (carries receiptId) = 0 :=
  List.countP_eq_zero.2 fun detail hdetail => by simp [carries_aside (h detail hdetail)]

theorem countP_records_aside (h : ∀ detail ∈ details, Aside detail) (proposalTurn : ℕ) :
    details.countP (records proposalTurn) = 0 :=
  List.countP_eq_zero.2 fun detail hdetail => by simp [records, (h detail hdetail).2]

end Events

section Stages

variable {α : Type} {context : StageContext} {asking : Asking}

/-- Nothing that a stage notes itself takes part in the join. -/
def Asking.Aside (asking : Asking) : Prop :=
  ∀ detail ∈ asking.details, CausalOps.Investigation.Aside detail

theorem Asking.Aside.append (h : asking.Aside) {detail : EventDetail}
    (hdetail : CausalOps.Investigation.Aside detail) :
    ∀ noted ∈ asking.details ++ [detail], CausalOps.Investigation.Aside noted := by
  intro noted hnoted
  rcases List.mem_append.1 hnoted with hbefore | hlast
  · exact h noted hbefore
  · rw [List.mem_singleton.1 hlast]
    exact hdetail

theorem start_aside (state : GraphState) (stage : Stage) : (Asking.start state stage).Aside := by
  intro detail hdetail
  rw [List.mem_singleton.1 hdetail]
  exact ⟨rfl, rfl⟩

theorem Asking.Aside.note (h : asking.Aside) {detail : EventDetail}
    (hdetail : CausalOps.Investigation.Aside detail) : (asking.note detail).Aside :=
  h.append hdetail

theorem Asking.Aside.stop (h : asking.Aside) (reason : ReasonCode) : (asking.stop reason).Aside :=
  h.append ⟨rfl, rfl⟩

theorem Asking.Aside.invalid (h : asking.Aside) (stage : Stage) (errors : String) :
    (asking.invalid stage errors).Aside :=
  h.append ⟨rfl, rfl⟩

theorem askOnce_aside (h : asking.Aside) (repairErrors : Option String) (reply : Reply α) :
    (askOnce context asking repairErrors reply).1.Aside := by
  unfold askOnce
  split
  · exact h
  · split <;> exact h

theorem askWithRepair_aside (h : asking.Aside) (startedAt reading : Time)
    (first second : Reply α) :
    (askWithRepair context startedAt reading asking first second).1.Aside := by
  have hfirst : (askOnce context asking none first).1.Aside := askOnce_aside h none first
  unfold askWithRepair
  split
  · exact h.stop _
  split
  · exact h.stop _
  split
  · rename_i asked escape hasked
    rw [hasked] at hfirst
    exact hfirst
  · rename_i asked value hasked
    rw [hasked] at hfirst
    exact hfirst
  · rename_i asked errors hasked
    have hrefused : (asked.invalid context.stage errors).Aside := by
      rw [hasked] at hfirst
      exact hfirst.invalid _ _
    dsimp only
    split
    · exact hrefused.stop _
    have hrepair : (asked.invalid context.stage errors).repair.Aside := hrefused
    have hsecond : (askOnce context (asked.invalid context.stage errors).repair (some errors)
      second).1.Aside := askOnce_aside hrepair (some errors) second
    split
    · rename_i again escape hagain
      rw [hagain] at hsecond
      exact hsecond
    · rename_i again value hagain
      rw [hagain] at hsecond
      exact hsecond
    · rename_i again errors' hagain
      rw [hagain] at hsecond
      exact (hsecond.invalid _ _).stop _

end Stages

section Returns

variable {setting : Setting} {state : GraphState} {turn : Turn} {node : Node}

/-- The receipt that a dispatch returned with, when the node's dispatch returned. -/
def returnedReceipt (setting : Setting) (node : Node) (state : GraphState) (turn : Turn) :
    Option ToolReceipt :=
  match node, state.pendingProposal, rebuildReceipts state with
  | .dispatchTool, some proposal, .ok receipts =>
      match rebuildLedger setting.budgets receipts with
      | .error _ => none
      | .ok ledger =>
          if struckAt turn.outside .lookup then none
          else
            match (dispatch setting.hashing proposal setting.incident.scope state.seenFingerprints
              setting.budgets ledger turn.outside).outcome with
            | .error _ => none
            | .ok result => some result.receipt
  | _, _, _ => none

theorem settle_id {ledger : ReservationLedger} {receiptId : String} {outcome : ToolOutcome}
    {reasonCode : Option ReasonCode} {durationMs : ℤ} {resultDigest evidenceId : Option String}
    {evidence : Option Evidence} {receipt : ToolReceipt} {stored : ReservationLedger}
    (h : ledger.settle receiptId outcome reasonCode durationMs resultDigest evidenceId evidence =
      .ok (receipt, stored)) : receipt.receiptId = receiptId := by
  unfold ReservationLedger.settle at h
  split at h
  · cases h
  rename_i current hcurrent
  have hid : current.receiptId = receiptId := Rows.lookup_key hcurrent
  split at h
  · cases h
  split at h
  · cases h
  dsimp only at h
  split at h
  · rw [← (Prod.mk.inj (Except.ok.inj h)).1]
    exact hid
  · rw [← (Prod.mk.inj (Except.ok.inj h)).1]
    exact hid

theorem finishSearch_id {outside : Outside} {ledger : ReservationLedger} {receiptId : String}
    {result : DispatchResult} (h : (finishSearch outside ledger receiptId).2 = .ok result) :
    result.receipt.receiptId = receiptId := by
  unfold finishSearch at h
  split at h
  · cases h
  split at h
  · cases h
  rename_i receipt stored hsettled
  rw [settledOutcome_ok h]
  exact settle_id hsettled

theorem finishCheck_id {hashing : Hashing} {scope : IncidentScope} {outside : Outside}
    {ledger : ReservationLedger} {receiptId : String} {result : DispatchResult}
    (h : (finishCheck hashing scope outside ledger receiptId).2 = .ok result) :
    result.receipt.receiptId = receiptId := by
  unfold finishCheck at h
  split at h
  · cases h
  split at h
  · split at h
    · cases h
    split at h
    · cases h
    rename_i receipt stored hsettled
    rw [settledOutcome_ok h]
    exact settle_id hsettled
  · split at h
    · cases h
    rename_i receipt stored hsettled
    rw [settledOutcome_ok h]
    exact settle_id hsettled

theorem dispatch_id {hashing : Hashing} {proposal : ToolProposal} {scope : IncidentScope}
    {seen : Finset String} {budgets : Budgets} {ledger : ReservationLedger} {outside : Outside}
    {result : DispatchResult}
    (h : (dispatch hashing proposal scope seen budgets ledger outside).outcome = .ok result) :
    result.receipt.receiptId = outside.receiptId := by
  unfold dispatch at h
  dsimp only at h
  split at h
  · cases h
  split at h
  · split at h
    · cases h
    rw [settledOutcome_ok h]
    rfl
  · split at h
    · cases h
    dsimp only at h
    split at h
    · exact finishSearch_id h
    · exact finishCheck_id h

theorem returnedReceipt_id {receipt : ToolReceipt}
    (h : returnedReceipt setting node state turn = some receipt) :
    receipt.receiptId = turn.outside.receiptId := by
  unfold returnedReceipt at h
  split at h
  · split at h
    · cases h
    split at h
    · cases h
    split at h
    · cases h
    rename_i result hresult
    rw [← Option.some.inj h]
    exact dispatch_id hresult
  · cases h

theorem returnedReceipt_other (hnode : node ≠ .dispatchTool) :
    returnedReceipt setting node state turn = none := by
  unfold returnedReceipt
  split
  · exact absurd rfl hnode
  · rfl

/-- The result of a dispatch that returned, by what it adds to the receipts. -/
theorem leaves_ok {hashing : Hashing} {scope : IncidentScope} {effective : ToolArguments}
    {decision : PolicyDecision} {seen : Finset String} {ledger : ReservationLedger}
    {outside : Outside} {dispatched : Dispatched} {result : DispatchResult}
    (hleaves : Leaves hashing scope effective decision seen ledger outside dispatched)
    (h : dispatched.outcome = .ok result) :
    dispatched.ledger.receipts = ledger.receipts ++ [result.receipt] ∧
      result.receipt.tool = effective.tool := by
  cases hleaves with
  | struck name => cases h
  | denied outcome hdenied hyields =>
      rw [yields_ok hyields h]
      exact ⟨rfl, rfl⟩
  | reserved escape hallowed => cases h
  | searched found outcome hallowed htool hfound hduration hyields =>
      rw [settledOutcome_ok (hyields.symm.trans h)]
      exact ⟨rfl, rfl⟩
  | failed found outcome hallowed htool hfound hnot hyields =>
      rw [yields_ok hyields h]
      exact ⟨rfl, rfl⟩
  | executed found evidence outcome hallowed htool hfound hexecuted hevidence hyields =>
      rw [yields_ok hyields h]
      exact ⟨rfl, rfl⟩

theorem leaves_added {hashing : Hashing} {scope : IncidentScope} {effective : ToolArguments}
    {decision : PolicyDecision} {seen : Finset String} {ledger : ReservationLedger}
    {outside : Outside} {dispatched : Dispatched}
    (hleaves : Leaves hashing scope effective decision seen ledger outside dispatched) :
    ∃ added, dispatched.ledger.receipts = ledger.receipts ++ added ∧
      (added = [] ∨ ∃ receipt, added = [receipt] ∧ receipt.receiptId = outside.receiptId) := by
  cases hleaves with
  | struck name => exact ⟨[], (List.append_nil _).symm, Or.inl rfl⟩
  | _ => exact ⟨_, rfl, Or.inr ⟨_, rfl, rfl⟩⟩

end Returns

section Nodes

variable {setting : Setting} {state state' : GraphState} {turn : Turn} {node : Node}

/-- What a node appends to the events, with what it does to the rest of the join: nothing of
it, a recorded proposal, or the end of a dispatch. -/
inductive Audits (setting : Setting) (node : Node) (state : GraphState) (turn : Turn)
    (state' : GraphState) : Prop
  | aside (phase : GraphPhase) (details : List EventDetail) (added : List ToolReceipt)
      (hevents : state'.events = recordEvents phase state.events details)
      (haside : ∀ detail ∈ details, Aside detail) (hturn : state'.modelTurn = state.modelTurn)
      (hpending : state'.pendingProposal = none ∨
        state'.pendingProposal = state.pendingProposal)
      (hreceipts : state'.receipts = state.receipts ++ added)
      (hadded : added = [] ∨ node = .dispatchTool ∧ ∃ receipt, added = [receipt] ∧
        receipt.receiptId = turn.outside.receiptId)
      (hnothing : returnedReceipt setting node state turn = none) :
      Audits setting node state turn state'
  | proposed (details : List EventDetail) (stage : Stage) (hypotheses : List Hypothesis)
      (hevents : state'.events = recordEvents .investigate state.events (details ++
        [.proposalRecorded state.modelTurn stage hypotheses state'.pendingProposal]))
      (haside : ∀ detail ∈ details, Aside detail)
      (hturn : state'.modelTurn = state.modelTurn + 1)
      (hreceipts : state'.receipts = state.receipts)
      (hnothing : returnedReceipt setting node state turn = none) :
      Audits setting node state turn state'
  | dispatched (proposal : ToolProposal) (result : DispatchResult) (last : List EventDetail)
      (hproposed : state.pendingProposal = some proposal)
      (hevents : state'.events = recordEvents .dispatchTool state.events
        (.proposalReceived proposal.tool :: dispatchDetails state proposal result ++ last))
      (haside : ∀ detail ∈ last, Aside detail) (hturn : state'.modelTurn = state.modelTurn)
      (hpending : state'.pendingProposal = none)
      (hreceipts : state'.receipts = state.receipts ++ [result.receipt])
      (hid : result.receipt.receiptId = turn.outside.receiptId)
      (htool : result.receipt.tool = proposal.tool)
      (hnode : node = .dispatchTool)
      (hreturned : returnedReceipt setting node state turn = some result.receipt) :
      Audits setting node state turn state'

/-- A node that asks nothing of the wrapper and keeps the turn and the proposal. -/
theorem audits_same (hnode : node ≠ .dispatchTool) {phase : GraphPhase}
    {details : List EventDetail} (hevents : state'.events = recordEvents phase state.events details)
    (haside : ∀ detail ∈ details, Aside detail) (hturn : state'.modelTurn = state.modelTurn)
    (hpending : state'.pendingProposal = none ∨ state'.pendingProposal = state.pendingProposal)
    (hreceipts : state'.receipts = state.receipts) : Audits setting node state turn state' :=
  .aside phase details [] hevents haside hturn hpending (by rw [hreceipts, List.append_nil])
    (Or.inl rfl) (returnedReceipt_other hnode)

theorem investigated_audits {stage : Stage}
    {asked : Asking × Except Escape (Option (Plan × Option ToolProposal))}
    (haside : asked.1.Aside) (h : investigated state stage asked = .updated state') :
    Audits setting .investigate state turn state' := by
  unfold investigated at h
  split at h
  · obtain rfl := Left.updated.inj h
    exact audits_same nofun rfl haside rfl (Or.inl rfl) rfl
  · rename_i plan proposal _
    obtain rfl := Left.updated.inj h
    exact .proposed (asked.1.note (.stageFinished proposal.isSome)).details stage plan.hypotheses
      rfl (haside.note ⟨rfl, rfl⟩) rfl rfl (returnedReceipt_other nofun)
  · cases h
  · obtain rfl := Left.updated.inj h
    exact audits_same nofun rfl (haside.note ⟨rfl, rfl⟩) rfl (Or.inl rfl) rfl
  · obtain rfl := Left.updated.inj h
    exact audits_same nofun rfl (haside.note ⟨rfl, rfl⟩) rfl (Or.inl rfl) rfl

theorem assessed_audits {store : EvidenceStore}
    {asked : Asking × Except Escape (Option FinalAssessment)}
    (haside : asked.1.Aside) (h : assessed state store asked = .updated state') :
    Audits setting .finalAssessment state turn state' := by
  unfold assessed at h
  split at h
  · split at h
    · obtain rfl := Left.updated.inj h
      exact audits_same nofun rfl haside rfl (Or.inr rfl) rfl
    · obtain rfl := Left.updated.inj h
      exact audits_same nofun rfl (haside.note ⟨rfl, rfl⟩) rfl (Or.inr rfl) rfl
  · dsimp only at h
    split at h
    · obtain rfl := Left.updated.inj h
      exact audits_same nofun rfl (haside.note ⟨rfl, rfl⟩) rfl (Or.inr rfl) rfl
    · obtain rfl := Left.updated.inj h
      exact audits_same nofun rfl haside rfl (Or.inr rfl) rfl
  · cases h
  · obtain rfl := Left.updated.inj h
    exact audits_same nofun rfl (haside.note ⟨rfl, rfl⟩) rfl (Or.inr rfl) rfl
  · obtain rfl := Left.updated.inj h
    exact audits_same nofun rfl (haside.note ⟨rfl, rfl⟩) rfl (Or.inr rfl) rfl

/-- The clock that stamps the events answers: an exception strikes a dispatch that returned
before or behind its two events, never between them. -/
def Stamped (turn : Turn) : Prop :=
  ∀ events, turn.outside.strike = some (.recorded events) → 2 ≤ events

theorem take_dispatchDetails {proposal : ToolProposal} {result : DispatchResult} {events : ℕ}
    (h : 2 ≤ events) :
    (dispatchDetails state proposal result).take events = dispatchDetails state proposal result := by
  apply List.take_of_length_le
  refine le_trans ?_ h
  simp only [dispatchDetails]
  split <;> simp

theorem dispatchedLeft_audits {proposal : ToolProposal} {dispatched : Dispatched}
    {effective : ToolArguments} {decision : PolicyDecision}
    (hproposed : state.pendingProposal = some proposal) (htool : effective.tool = proposal.tool)
    (hstamped : Stamped turn)
    (hleaves : Leaves setting.hashing setting.incident.scope effective decision
      state.seenFingerprints (ledgerOf setting.budgets state.receipts) turn.outside dispatched)
    (hid : ∀ result, dispatched.outcome = .ok result →
      result.receipt.receiptId = turn.outside.receiptId)
    (hreturned : returnedReceipt setting .dispatchTool state turn =
      match dispatched.outcome with
      | .error _ => none
      | .ok result => some result.receipt)
    (h : dispatchedLeft state proposal turn.outside dispatched = .updated state') :
    Audits setting .dispatchTool state turn state' := by
  cases houtcome : dispatched.outcome with
  | error escape =>
      rw [houtcome] at hreturned
      obtain ⟨added, hadded, hone⟩ := leaves_added hleaves
      have hcrashed : state' = crashedState state dispatched.ledger dispatched.seen
          [.proposalReceived proposal.tool] escape.name := by
        cases escape <;> simp only [dispatchedLeft, houtcome] at h <;>
          first | exact (Left.updated.inj h).symm | cases h
      rw [hcrashed]
      refine .aside .dispatchTool _ added rfl ?_ rfl (Or.inl rfl) hadded
        (hone.imp_right fun hnew => ⟨rfl, hnew⟩) hreturned
      simp [Aside, carriedBy, recordedTurn]
  | ok result =>
      rw [houtcome] at hreturned
      obtain ⟨hreceipts, hsame⟩ := leaves_ok hleaves houtcome
      simp only [dispatchedLeft, houtcome] at h
      split at h
      · rename_i events hevents
        have hstrike : turn.outside.strike = some (.recorded events) := by
          unfold struckWhileRecording at hevents
          split at hevents
          · rename_i recorded hstrike
            rw [hstrike, Option.some.inj hevents]
          · cases hevents
        obtain rfl := Left.updated.inj h
        refine .dispatched proposal result [.backendCrashed "Exception"] hproposed ?_ ?_ rfl rfl
          hreceipts (hid result houtcome) (hsame.trans htool) rfl hreturned
        · simp only [crashedState, take_dispatchDetails (hstamped events hstrike)]
          rfl
        · simp [Aside, carriedBy, recordedTurn]
      · obtain rfl := Left.updated.inj h
        refine .dispatched proposal result [] hproposed ?_
          (fun _ hmem => absurd hmem List.not_mem_nil) rfl rfl hreceipts
          (hid result houtcome) (hsame.trans htool) rfl hreturned
        rw [List.append_nil]
        rfl

theorem rebuildReceipts_ok {receipts : List ToolReceipt}
    (h : rebuildReceipts state = .ok receipts) : receipts = state.receipts := by
  unfold rebuildReceipts at h
  split at h
  · exact (Except.ok.inj h).symm
  · cases h

theorem dispatchTool_audits (hkeyed : Rows.Keyed ToolReceipt.receiptId state.receipts)
    (hunused : ReservationLedger.Unused turn.outside.receiptId state.receipts)
    (hstamped : Stamped turn) (h : (dispatchTool setting state turn).left = .updated state') :
    Audits setting .dispatchTool state turn state' := by
  unfold dispatchTool at h
  split at h
  · cases h
  rename_i proposal hproposed
  split at h
  · cases h
  rename_i receipts hreceipts
  obtain rfl := rebuildReceipts_ok hreceipts
  have hledger := rebuildLedger_of_keyed setting.budgets hkeyed
  simp only [hledger] at h
  have hreturned : returnedReceipt setting .dispatchTool state turn =
      if struckAt turn.outside .lookup then none
      else
        match (dispatch setting.hashing proposal setting.incident.scope state.seenFingerprints
          setting.budgets (ledgerOf setting.budgets state.receipts) turn.outside).outcome with
        | .error _ => none
        | .ok result => some result.receipt := by
    simp only [returnedReceipt, hproposed, hreceipts, hledger]
  split at h
  · rename_i hstruck
    obtain rfl := Left.updated.inj h
    rw [if_pos hstruck] at hreturned
    refine .aside .dispatchTool _ [] rfl ?_ rfl (Or.inl rfl) (List.append_nil _).symm (Or.inl rfl)
      hreturned
    simp [Aside, carriedBy, recordedTurn]
  · rename_i hstruck
    rw [if_neg hstruck] at hreturned
    exact dispatchedLeft_audits hproposed (resolveEffectiveWindow_tool _ _) hstamped
      (dispatch_leaves _ _ _ _ _ _ _ hunused) (fun _ => dispatch_id) hreturned h

theorem perform_audits_other {resumes : List Json} (hnode : node ≠ .dispatchTool)
    (h : (perform setting node state resumes turn).left = .updated state') :
    Audits setting node state turn state' := by
  cases node with
  | investigate =>
      simp only [perform, investigate] at h
      split at h
      · exact investigated_audits (askWithRepair_aside (start_aside _ _) _ _ _ _) h
      · cases h
      · cases h
  | dispatchTool => exact absurd rfl hnode
  | normalizeEvidence =>
      obtain rfl := Left.updated.inj h
      have hevents : recordEvent .normalizeEvidence state.events
          (.evidenceNormalized state.evidence.length) =
          recordEvents .normalizeEvidence state.events
            [.evidenceNormalized state.evidence.length] := rfl
      refine audits_same (by simp) hevents ?_ rfl (Or.inr rfl) rfl
      simp [Aside, carriedBy, recordedTurn]
  | finalAssessment =>
      simp only [perform, finalAssessment] at h
      split at h
      · exact assessed_audits (askWithRepair_aside (start_aside _ _) _ _ _ _) h
      · cases h
      · cases h
  | escalationInterrupt =>
      obtain ⟨reason, decision, note, -, rfl⟩ := escalationInterrupt_decides h
      have hevents : recordEvent .escalationInterrupt state.events
          (.escalationDecided reason decision) =
          recordEvents .escalationInterrupt state.events [.escalationDecided reason decision] := rfl
      refine audits_same (by simp) hevents ?_ rfl (Or.inr rfl) rfl
      simp [Aside, carriedBy, recordedTurn]
  | finalReport =>
      obtain ⟨report, -, rfl⟩ := finalReport_reports h
      refine audits_same (by simp) rfl ?_ rfl (Or.inr rfl) rfl
      split <;> simp [Aside, carriedBy, recordedTurn]

theorem perform_appends {resumes : List Json}
    (h : (perform setting node state resumes turn).left = .updated state') :
    ∃ phase details, state'.events = recordEvents phase state.events details := by
  by_cases hnode : node = .dispatchTool
  · subst hnode
    simp only [perform, dispatchTool] at h
    split at h
    · cases h
    split at h
    · cases h
    split at h
    · cases h
    split at h
    · obtain rfl := Left.updated.inj h
      exact ⟨.dispatchTool, _, rfl⟩
    dsimp only at h
    simp only [dispatchedLeft] at h
    split at h
    · cases h
    · obtain rfl := Left.updated.inj h
      exact ⟨.dispatchTool, _, rfl⟩
    · split at h <;> (obtain rfl := Left.updated.inj h; exact ⟨.dispatchTool, _, rfl⟩)
  · cases perform_audits_other hnode h with
    | aside phase details added hevents => exact ⟨phase, details, hevents⟩
    | proposed details stage hypotheses hevents => exact ⟨.investigate, _, hevents⟩
    | dispatched proposal result last hproposed hevents => exact ⟨.dispatchTool, _, hevents⟩

end Nodes

section Joins

variable {setting : Setting} {thread next : Thread} {node : Node} {turn : Turn}
  {details added : List EventDetail} {receipt : ToolReceipt}

/-- One event carries the id of the receipt; the turn that it names was recorded once, with the
tool of the receipt. -/
structure Joined (details : List EventDetail) (receipt : ToolReceipt) (proposalTurn : ℕ) : Prop where
  once : details.countP (carries receipt.receiptId) = 1
  carried : ∃ detail ∈ details, carriedBy detail = some ((proposalTurn : ℤ), receipt.receiptId)
  recordedOnce : details.countP (records proposalTurn) = 1
  sameTool : ∃ stage hypotheses proposal,
    EventDetail.proposalRecorded proposalTurn stage hypotheses (some proposal) ∈ details ∧
      proposal.tool = receipt.tool

theorem Joined.append {proposalTurn : ℕ} (h : Joined details receipt proposalTurn)
    (hcarries : added.countP (carries receipt.receiptId) = 0)
    (hrecords : added.countP (records proposalTurn) = 0) :
    Joined (details ++ added) receipt proposalTurn where
  once := by rw [List.countP_append, h.once, hcarries]
  carried := by
    obtain ⟨detail, hdetail, hcarried⟩ := h.carried
    exact ⟨detail, List.mem_append_left added hdetail, hcarried⟩
  recordedOnce := by rw [List.countP_append, h.recordedOnce, hrecords]
  sameTool := by
    obtain ⟨stage, hypotheses, proposal, hrecorded, htool⟩ := h.sameTool
    exact ⟨stage, hypotheses, proposal, List.mem_append_left added hrecorded, htool⟩

/-- The dispatching node mints a receipt id that it never minted before, and the clock of the
events answers. -/
def Mints (thread : Thread) (turn : Turn) : Prop :=
  (∀ entry ∈ thread.journal, entry.node = .dispatchTool →
    entry.turn.outside.receiptId ≠ turn.outside.receiptId) ∧ Stamped turn

def Minting (thread : Thread) (turn : Turn) : Prop :=
  thread.position = .running .dispatchTool → Mints thread turn

/-- What holds of the events and the receipts of a thread. -/
structure Audited (setting : Setting) (thread : Thread) : Prop where
  keyed : Rows.Keyed ToolReceipt.receiptId thread.state.receipts
  minted : ∀ receipt ∈ thread.state.receipts, ∃ entry ∈ thread.journal,
    entry.node = .dispatchTool ∧ entry.turn.outside.receiptId = receipt.receiptId
  turns : ∀ proposalTurn, (detailsOf thread.state.events).countP (records proposalTurn) =
    if proposalTurn < thread.state.modelTurn then 1 else 0
  proposed : ∀ proposal, thread.state.pendingProposal = some proposal →
    ∃ proposalTurn, thread.state.modelTurn = proposalTurn + 1 ∧ ∃ stage hypotheses,
      EventDetail.proposalRecorded proposalTurn stage hypotheses (some proposal) ∈
        detailsOf thread.state.events
  unused : ∀ receiptId, ReservationLedger.Unused receiptId thread.state.receipts →
    (detailsOf thread.state.events).countP (carries receiptId) = 0
  joined : ∀ entry ∈ thread.journal, ∀ receipt ∈ thread.state.receipts,
    returnedReceipt setting entry.node entry.before entry.turn = some receipt →
      ∃ proposalTurn < thread.state.modelTurn,
        Joined (detailsOf thread.state.events) receipt proposalTurn

theorem Audited.unminted (h : Audited setting thread) (hmints : Mints thread turn) :
    ReservationLedger.Unused turn.outside.receiptId thread.state.receipts := by
  intro receipt hreceipt hsame
  obtain ⟨entry, hentry, hnode, hid⟩ := h.minted receipt hreceipt
  exact hmints.1 entry hentry hnode (hid.trans hsame)

theorem returnedReceipt_node {state : GraphState}
    (h : returnedReceipt setting node state turn = some receipt) : node = .dispatchTool := by
  by_contra hnode
  rw [returnedReceipt_other hnode] at h
  cases h

theorem Audited.kept (h : Audited setting thread)
    (hmints : node = .dispatchTool → Mints thread turn) (hstate : next.state = thread.state)
    (hjournal : next.journal = journalOf setting thread node turn) : Audited setting next where
  keyed := by rw [hstate]; exact h.keyed
  minted := by
    intro receipt hreceipt
    rw [hstate] at hreceipt
    obtain ⟨entry, hentry, hid⟩ := h.minted receipt hreceipt
    exact ⟨entry, hjournal ▸ List.mem_append_left _ hentry, hid⟩
  turns := by rw [hstate]; exact h.turns
  proposed := by rw [hstate]; exact h.proposed
  unused := by rw [hstate]; exact h.unused
  joined := by
    intro entry hentry receipt hreceipt hreturned
    rw [hstate] at hreceipt ⊢
    rw [hjournal] at hentry
    rcases List.mem_append.1 hentry with hbefore | hlast
    · exact h.joined entry hbefore receipt hreceipt hreturned
    · obtain rfl := List.mem_singleton.1 hlast
      have hmints := hmints (returnedReceipt_node hreturned)
      exact absurd (returnedReceipt_id hreturned).symm
        (h.unminted hmints receipt hreceipt).symm

section Dispatched

variable {proposal : ToolProposal} {result : DispatchResult} {last : List EventDetail}

theorem carries_dispatched (state : GraphState) (haside : ∀ detail ∈ last, Aside detail)
    (receiptId : String) :
    (EventDetail.proposalReceived proposal.tool ::
        dispatchDetails state proposal result ++ last).countP (carries receiptId) =
      if result.receipt.receiptId = receiptId then 1 else 0 := by
  rw [List.countP_append, countP_carries_aside haside]
  simp only [dispatchDetails]
  split <;> simp [carries, carriedBy, List.countP_cons, List.countP_nil]

theorem records_dispatched (state : GraphState) (haside : ∀ detail ∈ last, Aside detail)
    (proposalTurn : ℕ) :
    (EventDetail.proposalReceived proposal.tool ::
        dispatchDetails state proposal result ++ last).countP (records proposalTurn) = 0 := by
  rw [List.countP_append, countP_records_aside haside]
  simp only [dispatchDetails]
  split <;> simp [records, recordedTurn]

theorem carried_dispatched (state : GraphState) (proposal : ToolProposal)
    (result : DispatchResult) : ∃ detail ∈ dispatchDetails state proposal result,
      carriedBy detail = some ((state.modelTurn : ℤ) - 1, result.receipt.receiptId) := by
  simp only [dispatchDetails]
  split
  · exact ⟨_, List.mem_singleton.2 rfl, rfl⟩
  · exact ⟨_, List.mem_cons_of_mem _ (List.mem_singleton.2 rfl), rfl⟩

/-- What is dispatched was proposed on one turn, so that its receipt joins that turn. -/
theorem Audited.dispatched (h : Audited setting thread)
    (hproposed : thread.state.pendingProposal = some proposal)
    (haside : ∀ detail ∈ last, Aside detail) (htool : result.receipt.tool = proposal.tool)
    (hnew : ∀ receipt ∈ thread.state.receipts, receipt.receiptId ≠ result.receipt.receiptId) :
    ∃ proposalTurn < thread.state.modelTurn, Joined (detailsOf thread.state.events ++
      (.proposalReceived proposal.tool :: dispatchDetails thread.state proposal result ++ last))
        result.receipt proposalTurn := by
  obtain ⟨proposalTurn, hmodel, stage, hypotheses, hmem⟩ := h.proposed proposal hproposed
  have hbelow : proposalTurn < thread.state.modelTurn := hmodel ▸ Nat.lt_succ_self _
  refine ⟨proposalTurn, hbelow, ?_, ?_, ?_, ?_⟩
  · rw [List.countP_append, carries_dispatched _ haside, if_pos rfl, h.unused _ hnew]
  · obtain ⟨detail, hdetail, hcarried⟩ := carried_dispatched thread.state proposal result
    refine ⟨detail, by simp [hdetail], ?_⟩
    rw [hcarried, hmodel]
    simp
  · rw [List.countP_append, records_dispatched _ haside, h.turns, if_pos hbelow]
  · exact ⟨stage, hypotheses, proposal, List.mem_append_left _ hmem, htool.symm⟩

end Dispatched

structure Grows (setting : Setting) (thread : Thread) (node : Node) (turn : Turn) (next : Thread)
    (added : List EventDetail) (receipts : List ToolReceipt) : Prop where
  detailsNow : detailsOf next.state.events = detailsOf thread.state.events ++ added
  receiptsNow : next.state.receipts = thread.state.receipts ++ receipts
  one : receipts = [] ∨ node = .dispatchTool ∧ ∃ receipt, receipts = [receipt] ∧
    receipt.receiptId = turn.outside.receiptId
  carriesNow : ∀ receiptId, added.countP (carries receiptId) = 0 ∨
    ∃ receipt ∈ receipts, receipt.receiptId = receiptId
  onward : thread.state.modelTurn ≤ next.state.modelTurn
  recordsNow : ∀ proposalTurn, added.countP (records proposalTurn) =
    if thread.state.modelTurn ≤ proposalTurn ∧ proposalTurn < next.state.modelTurn then 1 else 0
  proposed : ∀ proposal, next.state.pendingProposal = some proposal →
    ∃ proposalTurn, next.state.modelTurn = proposalTurn + 1 ∧ ∃ stage hypotheses,
      EventDetail.proposalRecorded proposalTurn stage hypotheses (some proposal) ∈
        detailsOf next.state.events
  returned : ∀ receipt, returnedReceipt setting node thread.state turn = some receipt →
    ∃ proposalTurn < next.state.modelTurn, Joined (detailsOf next.state.events) receipt proposalTurn

theorem Audited.grown (h : Audited setting thread)
    (hmints : node = .dispatchTool → Mints thread turn) {receipts : List ToolReceipt}
    (hgrows : Grows setting thread node turn next added receipts)
    (hjournal : next.journal = journalOf setting thread node turn) : Audited setting next := by
  have hnew : ∀ receipt ∈ receipts, node = .dispatchTool ∧
      receipt.receiptId = turn.outside.receiptId := by
    intro receipt hreceipt
    rcases hgrows.one with rfl | ⟨hnode, new, rfl, hid⟩
    · cases hreceipt
    · rw [List.mem_singleton.1 hreceipt]
      exact ⟨hnode, hid⟩
  refine ⟨?_, ?_, ?_, hgrows.proposed, ?_, ?_⟩
  · rw [hgrows.receiptsNow]
    rcases hgrows.one with rfl | ⟨hnode, new, rfl, hid⟩
    · rw [List.append_nil]
      exact h.keyed
    · exact h.keyed.append fun old hold hsame =>
        h.unminted (hmints hnode) old hold (hsame.trans hid)
  · intro receipt hreceipt
    rw [hgrows.receiptsNow] at hreceipt
    rw [hjournal]
    rcases List.mem_append.1 hreceipt with hold | hlast
    · obtain ⟨entry, hentry, hid⟩ := h.minted receipt hold
      exact ⟨entry, List.mem_append_left _ hentry, hid⟩
    · obtain ⟨hnode, hid⟩ := hnew receipt hlast
      exact ⟨_, List.mem_append_right _ (List.mem_singleton.2 rfl), hnode, hid.symm⟩
  · intro proposalTurn
    rw [hgrows.detailsNow, List.countP_append, h.turns, hgrows.recordsNow]
    have honward := hgrows.onward
    split_ifs <;> omega
  · intro receiptId hunused
    rw [hgrows.receiptsNow] at hunused
    rw [hgrows.detailsNow, List.countP_append,
      h.unused receiptId fun old hold => hunused old (List.mem_append_left _ hold), Nat.zero_add]
    rcases hgrows.carriesNow receiptId with hnone | ⟨receipt, hreceipt, hid⟩
    · exact hnone
    · exact absurd hid (hunused receipt (List.mem_append_right _ hreceipt))
  · intro entry hentry receipt hreceipt hreturned
    rw [hgrows.receiptsNow] at hreceipt
    rw [hjournal] at hentry
    rcases List.mem_append.1 hentry with hbefore | hlast
    · have hother : ∀ new ∈ receipts, new.receiptId ≠ receipt.receiptId := by
        intro new hmem hsame
        obtain ⟨hnode, hid⟩ := hnew new hmem
        exact (hmints hnode).1 entry hbefore (returnedReceipt_node hreturned)
          ((returnedReceipt_id hreturned).symm.trans (hsame.symm.trans hid))
      rcases List.mem_append.1 hreceipt with hold | hlate
      · obtain ⟨proposalTurn, hturn, hjoined⟩ := h.joined entry hbefore receipt hold hreturned
        refine ⟨proposalTurn, hturn.trans_le hgrows.onward, ?_⟩
        rw [hgrows.detailsNow]
        refine hjoined.append ?_ ?_
        · rcases hgrows.carriesNow receipt.receiptId with hnone | ⟨new, hmem, hsame⟩
          · exact hnone
          · exact absurd hsame (hother new hmem)
        · rw [hgrows.recordsNow, if_neg fun hboth => absurd hboth.1 (not_le.2 hturn)]
      · exact absurd rfl (hother receipt hlate)
    · obtain rfl := List.mem_singleton.1 hlast
      exact hgrows.returned receipt hreturned

theorem Audited.grows (h : Audited setting thread)
    (hmints : node = .dispatchTool → Mints thread turn)
    (haudits : Audits setting node thread.state turn next.state) :
    ∃ added receipts, Grows setting thread node turn next added receipts := by
  cases haudits with
  | aside phase details added hevents haside hturn hpending hreceipts hadded hnothing =>
      have hdetails : detailsOf next.state.events = detailsOf thread.state.events ++ details := by
        rw [hevents, detailsOf_recordEvents]
      refine ⟨details, added, hdetails, hreceipts, hadded, ?_, hturn.ge, ?_, ?_, ?_⟩
      · exact fun receiptId => Or.inl (countP_carries_aside haside receiptId)
      · intro proposalTurn
        rw [countP_records_aside haside, hturn, if_neg (by omega)]
      · intro proposal hproposal
        rcases hpending with hnone | hsame
        · rw [hnone] at hproposal
          cases hproposal
        · obtain ⟨proposalTurn, hmodel, stage, hypotheses, hmem⟩ :=
            h.proposed proposal (hsame ▸ hproposal)
          exact ⟨proposalTurn, hturn.trans hmodel, stage, hypotheses,
            hdetails ▸ List.mem_append_left _ hmem⟩
      · intro receipt hreturned
        rw [hnothing] at hreturned
        cases hreturned
  | proposed details stage hypotheses hevents haside hturn hreceipts hnothing =>
      have hdetails : detailsOf next.state.events = detailsOf thread.state.events ++
          (details ++ [.proposalRecorded thread.state.modelTurn stage hypotheses
            next.state.pendingProposal]) := by
        rw [hevents, detailsOf_recordEvents]
      refine ⟨_, [], hdetails, by rw [hreceipts, List.append_nil], Or.inl rfl, ?_,
        hturn ▸ Nat.le_succ _, ?_, ?_, ?_⟩
      · intro receiptId
        left
        rw [List.countP_append, countP_carries_aside haside]
        rfl
      · intro proposalTurn
        rw [List.countP_append, countP_records_aside haside, hturn, Nat.zero_add,
          List.countP_singleton]
        simp only [records, recordedTurn, Option.some.injEq, decide_eq_true_eq]
        split_ifs <;> omega
      · intro proposal hproposal
        refine ⟨thread.state.modelTurn, hturn, stage, hypotheses, ?_⟩
        rw [hdetails, hproposal]
        simp
      · intro receipt hreturned
        rw [hnothing] at hreturned
        cases hreturned
  | dispatched proposal result last hproposed hevents haside hturn hpending hreceipts hid htool
      hnode hreturned =>
      have hdetails : detailsOf next.state.events = detailsOf thread.state.events ++
          (.proposalReceived proposal.tool :: dispatchDetails thread.state proposal result ++
            last) := by
        rw [hevents, detailsOf_recordEvents]
      refine ⟨_, [result.receipt], hdetails, hreceipts, Or.inr ⟨hnode, _, rfl, hid⟩, ?_, hturn.ge,
        ?_, ?_, ?_⟩
      · intro receiptId
        by_cases hsame : result.receipt.receiptId = receiptId
        · exact Or.inr ⟨_, List.mem_singleton.2 rfl, hsame⟩
        · left
          rw [carries_dispatched _ haside, if_neg hsame]
      · intro proposalTurn
        rw [records_dispatched _ haside, hturn, if_neg (by omega)]
      · intro other hother
        rw [hpending] at hother
        cases hother
      · intro receipt hother
        rw [hreturned] at hother
        obtain rfl := Option.some.inj hother
        rw [hdetails, hturn]
        exact h.dispatched hproposed haside htool (hid ▸ h.unminted (hmints hnode))

theorem Audited.updated (h : Audited setting thread)
    (hmints : node = .dispatchTool → Mints thread turn) {state' : GraphState}
    (hleft : (perform setting node thread.state thread.resumes turn).left = .updated state')
    (hstate : next.state = state') (hjournal : next.journal = journalOf setting thread node turn) :
    Audited setting next := by
  subst hstate
  have haudits : Audits setting node thread.state turn next.state := by
    by_cases hnode : node = .dispatchTool
    · have hmint := hmints hnode
      subst hnode
      exact dispatchTool_audits h.keyed (h.unminted hmint) hmint.2 hleft
    · exact perform_audits_other hnode hleft
  obtain ⟨added, receipts, hgrows⟩ := h.grows hmints haudits
  exact h.grown hmints hgrows hjournal

theorem Audited.step (h : Audited setting thread) (hrunning : thread.position = .running node)
    (hminted : Minting thread turn) (hsteps : Steps setting thread node turn next) :
    Audited setting next := by
  have hmints : node = .dispatchTool → Mints thread turn := fun hnode =>
    hminted (hnode ▸ hrunning)
  cases hsteps with
  | raised escape hraises => exact h.kept hmints rfl rfl
  | paused payload hpaused => exact h.kept hmints rfl rfl
  | ended state hleft hroute => exact h.updated hmints hleft rfl rfl
  | moved state following hleft hroute => exact h.updated hmints hleft rfl rfl

theorem audited_start (setting : Setting) (investigationId runId : String) (startedAt : Time) :
    Audited setting (Thread.start setting investigationId runId startedAt) := by
  have hdetails : detailsOf (Thread.start setting investigationId runId startedAt).state.events =
      [.investigationStarted setting.incident.scope.incidentId runId] := rfl
  have haside : ∀ detail ∈ detailsOf
      (Thread.start setting investigationId runId startedAt).state.events, Aside detail := by
    simp [hdetails, Aside, carriedBy, recordedTurn]
  refine ⟨Rows.keyed_nil _, fun receipt hreceipt => absurd hreceipt List.not_mem_nil, ?_,
    fun proposal hproposal => absurd hproposal.symm (Option.some_ne_none proposal), ?_,
    fun entry hentry => absurd hentry List.not_mem_nil⟩
  · intro proposalTurn
    rw [countP_records_aside haside]
    exact (if_neg (Nat.not_lt_zero proposalTurn)).symm
  · exact fun receiptId _ => countP_carries_aside haside receiptId

theorem audited_after (setting : Setting) (investigationId runId : String) (startedAt : Time)
    (acts : List Act)
    (hminted : Machine.Admits (act setting) (Meets Minting)
      (Thread.start setting investigationId runId startedAt) acts) :
    Audited setting
      (after setting (Thread.start setting investigationId runId startedAt) acts) :=
  @after_invariant setting Minting (Audited setting)
    (fun _ _ _ _ hrunning h hcondition hsteps => h.step hrunning hcondition hsteps)
    (fun _ _ _ _ h => ⟨h.keyed, h.minted, h.turns, h.proposed, h.unused, h.joined⟩)
    (fun _ _ _ _ h => ⟨h.keyed, h.minted, h.turns, h.proposed, h.unused, h.joined⟩) _
    (audited_start setting investigationId runId startedAt) acts hminted

end Joins

section Runs

variable {setting : Setting} {thread next : Thread} {node : Node} {turn : Turn}

theorem Steps.appends (hsteps : Steps setting thread node turn next) :
    ∃ phase details, next.state.events = recordEvents phase thread.state.events details := by
  cases hsteps with
  | raised escape hraises => exact ⟨.created, [], rfl⟩
  | paused payload hpaused => exact ⟨.created, [], rfl⟩
  | ended state hleft hroute => exact perform_appends hleft
  | moved state following hleft hroute => exact perform_appends hleft

/-- Events are only appended, and the numbers go on, in every run from any thread. -/
theorem events_after (setting : Setting) (thread : Thread) (acts : List Act) :
    thread.state.events <+: (after setting thread acts).state.events ∧
      (Numbered thread.state.events → Numbered (after setting thread acts).state.events) := by
  refine @after_invariant setting (fun _ _ => True)
    (fun later => thread.state.events <+: later.state.events ∧
      (Numbered thread.state.events → Numbered later.state.events)) ?_
    (fun _ _ _ _ h => h) (fun _ _ _ _ h => h) thread ⟨List.prefix_rfl, id⟩ acts
    (admits_unconditional thread acts)
  intro later node turn next hrunning h htrue hsteps
  obtain ⟨phase, details, hevents⟩ := hsteps.appends
  rw [hevents]
  exact ⟨h.1.trans prefix_recordEvents, fun hnumbered => (h.2 hnumbered).recordEvents _ _⟩

/-- What the recorder of the caller holds when an invocation is settled. -/
def settledEvents (thread : Thread) : List RunEvent :=
  match thread.position with
  | .raised _ .bubbled => thread.state.events
  | .raised _ escape => recordEvent .finalReport thread.state.events (.internalError escape.name)
  | .running _ =>
      recordEvent .finalReport thread.state.events (.internalError "GraphRecursionError")
  | _ => thread.state.events

theorem settledEvents_appends (thread : Thread) :
    ∃ details, settledEvents thread = recordEvents .finalReport thread.state.events details ∧
      ∀ detail ∈ details, Aside detail := by
  unfold settledEvents
  split
  · exact ⟨[], rfl, fun _ hmem => absurd hmem List.not_mem_nil⟩
  · exact ⟨[.internalError _], rfl, by simp [Aside, carriedBy, recordedTurn]⟩
  · exact ⟨[.internalError _], rfl, by simp [Aside, carriedBy, recordedTurn]⟩
  · exact ⟨[], rfl, fun _ hmem => absurd hmem List.not_mem_nil⟩

theorem audit_join (setting : Setting) (investigationId runId : String) (startedAt : Time)
    (acts later : List Act) :
    let start := Thread.start setting investigationId runId startedAt
    let thread := after setting start acts
    (thread.state.events <+: (after setting thread later).state.events ∧
        thread.state.events <+: settledEvents thread) ∧
      (Numbered thread.state.events ∧ Numbered (settledEvents thread)) ∧
      (Machine.Admits (act setting) (Meets Minting) start acts →
        ∀ entry ∈ thread.journal, ∀ receipt ∈ thread.state.receipts,
          returnedReceipt setting entry.node entry.before entry.turn = some receipt →
            ∃ proposalTurn, Joined (detailsOf thread.state.events) receipt proposalTurn ∧
              Joined (detailsOf (settledEvents thread)) receipt proposalTurn) := by
  intro start thread
  have hnumbered : Numbered thread.state.events :=
    (events_after setting start acts).2 (Numbered.recordEvent (show Numbered [] from rfl) _ _)
  obtain ⟨details, hsettled, haside⟩ := settledEvents_appends thread
  refine ⟨⟨(events_after setting thread later).1, ?_⟩, ⟨hnumbered, ?_⟩, ?_⟩
  · rw [hsettled]
    exact prefix_recordEvents
  · rw [hsettled]
    exact hnumbered.recordEvents _ _
  · intro hminted entry hentry receipt hreceipt hreturned
    have haudited := audited_after setting investigationId runId startedAt acts hminted
    obtain ⟨proposalTurn, -, hjoined⟩ := haudited.joined entry hentry receipt hreceipt hreturned
    refine ⟨proposalTurn, hjoined, ?_⟩
    rw [hsettled, detailsOf_recordEvents]
    exact hjoined.append (countP_carries_aside haside _) (countP_records_aside haside _)

/-- A search of the lab is joined to the plan that proposed it. -/
theorem audit_join_searching :
    let thread := after labSetting labStart [.step (searchingTurn none), .step (searchingTurn none)]
    ∃ receipt ∈ thread.state.receipts, ∃ proposalTurn,
      Joined (detailsOf thread.state.events) receipt proposalTurn := by
  intro thread
  have hminted : Machine.Admits (act labSetting) (Meets Minting) labStart
      [.step (searchingTurn none), .step (searchingTurn none)] := by
    refine ⟨fun _ hposition => ?_, fun _ _ => ⟨by decide +kernel, fun events hstrike => ?_⟩, trivial⟩
    · cases hposition
    · cases hstrike
  let entry := entryOf labSetting (superstep labSetting labStart (searchingTurn none)) .dispatchTool
    (searchingTurn none)
  have hreturned : returnedReceipt labSetting entry.node entry.before entry.turn =
      thread.state.receipts.head? := by
    rfl
  have hsome : thread.state.receipts.head?.isSome = true := by decide +kernel
  obtain ⟨receipt, hreceipt⟩ := Option.isSome_iff_exists.1 hsome
  have hmem := List.mem_of_mem_head? hreceipt
  have hentry : entry ∈ thread.journal := List.mem_append_right _ (List.mem_singleton.2 rfl)
  obtain ⟨proposalTurn, hjoined, -⟩ := (audit_join labSetting "investigation" "run" 0
    [.step (searchingTurn none), .step (searchingTurn none)] []).2.2 hminted entry hentry receipt
      hmem (hreturned.trans hreceipt)
  exact ⟨receipt, hmem, proposalTurn, hjoined⟩

end Runs

end CausalOps.Investigation
