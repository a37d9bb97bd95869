import CausalOps.Investigation.Mcp.Behind

set_option autoImplicit false

/-! A healthy child answers as the backend itself would: dispatch over MCP is dispatch. -/

namespace CausalOps.Investigation.Mcp

section Same

/-- The same evidence, ids and times aside; the payload has its keys in order. -/
def SameEvidence : Option Evidence → Option Evidence → Prop
  | none, none => True
  | some direct, some forwarded =>
      forwarded.kind = direct.kind ∧ forwarded.source = direct.source ∧
        forwarded.summary = direct.summary ∧
        forwarded.payload = Json.sortKeys.sortEntries direct.payload ∧
        forwarded.contentHash = direct.contentHash
  | _, _ => False

structure SameReceipt (direct forwarded : ToolReceipt) : Prop where
  tool : forwarded.tool = direct.tool
  fingerprint : forwarded.fingerprint = direct.fingerprint
  policyResult : forwarded.policyResult = direct.policyResult
  outcome : forwarded.outcome = direct.outcome
  reasonCode : forwarded.reasonCode = direct.reasonCode
  arguments : forwarded.arguments = direct.arguments

structure SameResult (direct forwarded : DispatchResult) : Prop where
  receipt : SameReceipt direct.receipt forwarded.receipt
  evidence : SameEvidence direct.evidence forwarded.evidence
  passages : forwarded.passages = direct.passages
  retrievalMode : forwarded.retrievalMode = direct.retrievalMode
  message : forwarded.message = direct.message

/-- The same result, or an exception on both sides. -/
def SameOutcome : Except Escape DispatchResult → Except Escape DispatchResult → Prop
  | .ok direct, .ok forwarded => SameResult direct forwarded
  | .error _, .error _ => True
  | _, _ => False

end Same

section Settlements

variable {hashing : Hashing} {incidentId : String} {outside : Outside} {reserved : ToolReceipt}
  {found : CheckOutcome}

/-- What a dispatch can settle: the receipt and the evidence that it builds are valid. -/
def Accepted (found : CheckOutcome) : Prop :=
  0 ≤ found.durationMs ∧ (found.outcome = .executed → found.summary.length ≤ 400)

def evidenceOf (hashing : Hashing) (incidentId : String) (outside : Outside)
    (found : CheckOutcome) (h : found.summary.length ≤ 400) : Evidence where
  evidenceId := outside.evidenceId
  incidentId := incidentId
  kind := found.kind
  source := found.source
  observedAt := outside.observedAt
  summary := found.summary
  payload := found.payload
  receiptId := some outside.receiptId
  contentHash := hashing.contentHash found.payload
  summaryBound := h

theorem settleCheck_executed (hexecuted : found.outcome = .executed)
    (hduration : 0 ≤ found.durationMs) (hsummary : found.summary.length ≤ 400) :
    settleCheck hashing incidentId outside reserved (.ok found) =
      .ok ⟨ReservationLedger.settledReceipt reserved .executed found.reasonCode
        found.durationMs.toNat (some (hashing.contentHash found.payload))
        (some outside.evidenceId), some (evidenceOf hashing incidentId outside found hsummary),
        [], none⟩ := by
  have hbuild : buildEvidence hashing outside.evidenceId incidentId outside.observedAt found
      outside.receiptId = .ok (evidenceOf hashing incidentId outside found hsummary) := by
    simp only [buildEvidence, dif_pos hsummary]
    rfl
  simp only [settleCheck, hbuild, settledBy, if_neg (not_lt.2 hduration),
    hexecuted]
  rfl

theorem settleCheck_failed (hfailed : found.outcome ≠ .executed)
    (hduration : 0 ≤ found.durationMs) :
    settleCheck hashing incidentId outside reserved (.ok found) =
      .ok ⟨ReservationLedger.settledReceipt reserved found.outcome found.reasonCode
        found.durationMs.toNat none none, none, [], none⟩ := by
  simp only [settleCheck, if_neg hfailed, settledBy, if_neg (not_lt.2 hduration)]
  rfl

theorem settleCheck_refused (hrefused : ¬ Accepted found) :
    ∃ escape, settleCheck hashing incidentId outside reserved (.ok found) = .error escape := by
  by_cases hduration : 0 ≤ found.durationMs
  · have hlong : found.outcome = .executed ∧ ¬ found.summary.length ≤ 400 := by
      by_contra hshort
      exact hrefused ⟨hduration, fun hexecuted => by
        by_contra hsummary
        exact hshort ⟨hexecuted, hsummary⟩⟩
    simp only [settleCheck, if_pos hlong.1, buildEvidence, dif_neg hlong.2]
    exact ⟨_, rfl⟩
  · have hnegative : found.durationMs < 0 := not_le.1 hduration
    simp only [settleCheck, settledBy, if_pos hnegative]
    split
    · split
      · exact ⟨_, rfl⟩
      · exact ⟨_, rfl⟩
    · exact ⟨_, rfl⟩

end Settlements

section Answers

variable {Wire : Type} {c : Setting Wire}

/-- A link on which nothing goes wrong: a child that is found dead can be started again. -/
structure Link.Healthy (link : Link Wire) : Prop where
  spawn : link.spawn = .handshakes
  reply : link.reply = .answers

/-- Ready for a request, or to be replaced before the next one. -/
def McpChild.Good (child : McpChild) : Prop :=
  child.poisoned = false → child.session.ready = true ∧ child.session.pending = none

/-- What the client is handed of what the child's dispatch yields. -/
def contentOf (c : Setting Wire) : Except Escape DispatchResult → Except McpError (List Wire)
  | .ok result => .ok [c.dumpResult result]
  | .error _ => .error .diedMidCall

theorem toolCallRequest_good (hfaithful : c.strict.Faithful) {session : Session}
    (hready : session.ready = true) (hpending : session.pending = none)
    (arguments : ToolArguments) :
    ∃ after request, session.toolCallRequest c.strict arguments.tool
      (dumpArguments c.strict arguments) = some (after, request) ∧ after.ready = true := by
  simp only [Session.toolCallRequest, hready, Bool.not_true, Bool.false_eq_true, if_false,
    validate_payload hfaithful, ne_eq, not_true_eq_false, hpending, Option.isSome_none]
  exact ⟨_, _, rfl, rfl⟩

theorem respawn_healthy {child : McpChild} (hgood : child.Good) {link : Link Wire}
    (hlink : link.Healthy) :
    (child.respawnIfDead c.budgets link).2 = true ∧
      (child.respawnIfDead c.budgets link).1.session.ready = true ∧
      (child.respawnIfDead c.budgets link).1.session.pending = none ∧
      (child.respawnIfDead c.budgets link).1.poisoned = false := by
  unfold McpChild.respawnIfDead
  split
  · rename_i hfine
    rw [Bool.and_eq_true, Bool.not_eq_true'] at hfine
    obtain ⟨hready, hpending⟩ := hgood hfine.1
    exact ⟨rfl, hready, hpending, hfine.1⟩
  · rw [hlink.spawn]
    exact ⟨rfl, rfl, rfl, rfl⟩

variable {seen : Finset String} {spent : ℕ} {drawn : List String} {effective : ToolArguments}

theorem call_healthy (hfaithful : c.strict.Faithful) {child : McpChild} (hgood : child.Good)
    (hbehind : Behind c.budgets seen spent drawn child.memory) {link : Link Wire}
    (hlink : link.Healthy) (htool : effective.tool ≠ .searchRunbooks) (fresh : Fresh)
    (backend : ToolArguments → BackendCheck) {called : Called Wire}
    (hcalled : called = c.call child link effective.tool (dumpArguments c.strict effective) fresh
      backend) :
    called.child.Good ∧ ∃ memory, Behind c.budgets seen spent drawn memory ∧
      called.content = contentOf c (dispatch c.hashing (observabilityProposal effective) c.scope
        memory.seen c.budgets memory.ledger (fresh.outside
          (.ok (backend (resolveEffectiveWindow effective c.scope)).1)
          (.error (.raised "KeyError")))).outcome := by
  subst hcalled
  have hspawned := respawn_behind hbehind link
  obtain ⟨hok, hready, hpending, hclean⟩ := respawn_healthy (c := c) hgood hlink
  simp only [Setting.call]
  cases hrespawn : child.respawnIfDead c.budgets link with
  | mk spawned ok =>
      rw [hrespawn] at hspawned hok hready hpending hclean
      cases hok
      obtain ⟨after, request, hrequest, hafter⟩ :=
        toolCallRequest_good hfaithful hready hpending effective
      obtain ⟨hname, harguments, hsent⟩ := toolCallRequest_some hfaithful hrequest
      dsimp only
      rw [hrequest]
      dsimp only
      rw [handle_dump hfaithful spawned.memory hname harguments htool, hlink.reply]
      dsimp only
      cases houtcome : (dispatch c.hashing (observabilityProposal effective) c.scope
          spawned.memory.seen c.budgets spawned.memory.ledger (fresh.outside
            (.ok (backend (resolveEffectiveWindow effective c.scope)).1)
            (.error (.raised "KeyError")))).outcome with
      | ok result =>
          simp only [Setting.execute, houtcome, McpChild.accept,
            Session.acceptToolCallResponse, hsent, ne_eq, not_true_eq_false, if_false]
          refine ⟨fun _ => ⟨hafter, rfl⟩, spawned.memory, hspawned, ?_⟩
          rw [houtcome]
          rfl
      | error escape =>
          simp only [Setting.execute, houtcome]
          refine ⟨fun hpoisoned => (by cases hpoisoned), spawned.memory, hspawned, ?_⟩
          rw [houtcome]
          rfl

variable {memory : Memory} {fresh : Fresh}

/-- The outcome of a dispatch that its policy allows, of a tool other than the search. -/
theorem outcome_of_check {proposal : ToolProposal} {seen : Finset String}
    {ledger : ReservationLedger} {outside : Outside} (hcalm : outside.strike = none)
    (hunused : ReservationLedger.Unused outside.receiptId ledger.receipts)
    (hallowed : (decisionOf c.hashing proposal c.scope seen c.budgets ledger).result = .allowed)
    (htool : (resolveEffectiveWindow proposal.arguments c.scope).tool ≠ .searchRunbooks) :
    (dispatch c.hashing proposal c.scope seen c.budgets ledger outside).outcome =
      (settleCheck c.hashing c.scope.incidentId outside
        (reservedNow c.scope (resolveEffectiveWindow proposal.arguments c.scope)
          (decisionOf c.hashing proposal c.scope seen c.budgets ledger) outside)
        outside.check).map Settlement.result := by
  rw [dispatch_allowed hcalm hunused hallowed]
  dsimp only
  rw [finishedBy_outcome, settlementOf, if_neg]
  exact htool

theorem outcome_of_search {proposal : ToolProposal} {seen : Finset String}
    {ledger : ReservationLedger} {outside : Outside} (hcalm : outside.strike = none)
    (hunused : ReservationLedger.Unused outside.receiptId ledger.receipts)
    (hallowed : (decisionOf c.hashing proposal c.scope seen c.budgets ledger).result = .allowed)
    (htool : (resolveEffectiveWindow proposal.arguments c.scope).tool = .searchRunbooks) :
    (dispatch c.hashing proposal c.scope seen c.budgets ledger outside).outcome =
      (settleSearch (reservedNow c.scope (resolveEffectiveWindow proposal.arguments c.scope)
        (decisionOf c.hashing proposal c.scope seen c.budgets ledger) outside)
        outside.search).map Settlement.result := by
  rw [dispatch_allowed hcalm hunused hallowed]
  dsimp only
  rw [finishedBy_outcome, settlementOf, if_pos]
  exact htool

/-- What the client makes of the child's answer, by what the backend has answered. -/
structure Forwards (c : Setting Wire) (tool : ToolName) (found : CheckOutcome)
    (check : Except Escape CheckOutcome) : Prop where
  refused : ¬ Accepted found → ∃ escape, check = .error escape
  executed : Accepted found → found.outcome = .executed →
    check = .ok { found with
      payload := Json.sortKeys.sortEntries found.payload
      durationMs := found.durationMs.toNat }
  failed : Accepted found → found.outcome ≠ .executed →
    ∃ kind source note, check = .ok { found with
      kind := kind
      source := source
      summary := note
      payload := []
      durationMs := 0 }

theorem forwards_settled (hfaithful : c.Faithful) (tool : ToolName) (incidentId : String)
    (outside : Outside) (reserved : ToolReceipt) (found : BackendCheck) :
    Forwards c tool found.1 (c.checkOf tool (contentOf c
      ((settleCheck c.hashing incidentId outside reserved (.ok found.1)).map
        Settlement.result))) := by
  refine ⟨fun hrefused => ?_, fun haccepted hexecuted => ?_, fun haccepted hfailed => ?_⟩
  · obtain ⟨escape, hescape⟩ :=
      @settleCheck_refused c.hashing incidentId outside reserved found.1 hrefused
    rw [hescape]
    exact ⟨_, rfl⟩
  · have hreason : found.1.reasonCode = none := found.2.1 hexecuted
    rw [settleCheck_executed hexecuted haccepted.1 (haccepted.2 hexecuted)]
    simp only [Except.map, contentOf, Setting.checkOf, Setting.parseDispatchResult,
      hfaithful.result]
    simp only [DispatchResult.sortKeys, Settlement.result, Option.map_some, forwardedOutcome,
      ReservationLedger.settledReceipt, Evidence.sortKeys, evidenceOf, hexecuted, hreason]
  · have hreason : found.1.reasonCode ≠ none := fun hnone => hfailed (found.2.2 hnone)
    obtain ⟨reason, hreason⟩ := Option.ne_none_iff_exists'.1 hreason
    rw [settleCheck_failed hfailed haccepted.1]
    simp only [Except.map, contentOf, Setting.checkOf, Setting.parseDispatchResult,
      hfaithful.result]
    refine ⟨kindByTool tool, tool.value, "MCP child reported a non-executed outcome", ?_⟩
    simp only [DispatchResult.sortKeys, Settlement.result, Option.map_none, forwardedOutcome,
      ReservationLedger.settledReceipt, hreason, Option.getD_some, failedCheck]
    split
    · rename_i hnone
      cases hnone
    · rfl

theorem forwards_check (h : Authorized c seen spent effective) (hfaithful : c.Faithful)
    (hbehind : Behind c.budgets seen spent drawn memory) (hnew : fresh.receiptId ∉ drawn)
    (tool : ToolName) (backend : ToolArguments → BackendCheck) :
    Forwards c tool (backend effective).1 (c.checkOf tool (contentOf c (dispatch c.hashing
      (observabilityProposal effective) c.scope memory.seen c.budgets memory.ledger
      (fresh.outside (.ok (backend (resolveEffectiveWindow effective c.scope)).1)
        (.error (.raised "KeyError")))).outcome)) := by
  have htool : (resolveEffectiveWindow (observabilityProposal effective).arguments c.scope).tool ≠
      .searchRunbooks := by
    rw [resolveEffectiveWindow_tool]
    exact h.observability
  rw [h.resolved, outcome_of_check rfl (hbehind.unused hnew) (h.child_allows hbehind) htool]
  exact forwards_settled hfaithful tool _ _ _ (backend effective)

theorem Setting.Faithful.hash_sorted (h : c.Faithful) (payload : Json.Dict) :
    c.hashing.contentHash (Json.sortKeys.sortEntries payload) =
      c.hashing.contentHash payload := by
  obtain ⟨digest, hdigest⟩ := h.hash
  rw [hdigest, hdigest, Json.sortEntries_of_sorted (Json.sortEntries_sorted payload)]

/-- Two dispatches of one decision, one with a backend's check and one with what the client
makes of it. -/
theorem sameOutcome_check (hfaithful : c.Faithful) {tool : ToolName} {found : BackendCheck}
    {check : Except Escape CheckOutcome} (hforwards : Forwards c tool found.1 check)
    (incidentId : String) {outside outside' : Outside} {reserved reserved' : ToolReceipt}
    (hreserved : SameReceipt reserved reserved') :
    SameOutcome
      ((settleCheck c.hashing incidentId outside reserved (.ok found.1)).map Settlement.result)
      ((settleCheck c.hashing incidentId outside' reserved' check).map Settlement.result) := by
  by_cases haccepted : Accepted found.1
  · by_cases hexecuted : found.1.outcome = .executed
    · have hforwarded := @settleCheck_executed c.hashing incidentId outside' reserved'
        { found.1 with
          payload := Json.sortKeys.sortEntries found.1.payload
          durationMs := found.1.durationMs.toNat }
        hexecuted (Int.natCast_nonneg _) (haccepted.2 hexecuted)
      rw [hforwards.executed haccepted hexecuted, hforwarded,
        settleCheck_executed hexecuted haccepted.1 (haccepted.2 hexecuted)]
      exact ⟨⟨hreserved.tool, hreserved.fingerprint, hreserved.policyResult, rfl, rfl,
        hreserved.arguments⟩, ⟨rfl, rfl, rfl, rfl, hfaithful.hash_sorted _⟩, rfl, rfl, rfl⟩
    · obtain ⟨kind, source, note, hcheck⟩ := hforwards.failed haccepted hexecuted
      have hforwarded := @settleCheck_failed c.hashing incidentId outside' reserved'
        { found.1 with
          kind := kind
          source := source
          summary := note
          payload := []
          durationMs := 0 }
        hexecuted (le_refl (0 : ℤ))
      rw [hcheck, hforwarded, settleCheck_failed hexecuted haccepted.1]
      exact ⟨⟨hreserved.tool, hreserved.fingerprint, hreserved.policyResult, rfl, rfl,
        hreserved.arguments⟩, trivial, rfl, rfl, rfl⟩
  · obtain ⟨escape, hescape⟩ := hforwards.refused haccepted
    obtain ⟨escape', hescape'⟩ :=
      @settleCheck_refused c.hashing incidentId outside reserved found.1 haccepted
    rw [hescape, hescape']
    exact True.intro

end Answers

end CausalOps.Investigation.Mcp
