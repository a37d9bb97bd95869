import CausalOps.Investigation.Mcp.Forwarding
import CausalOps.Library.Machine

set_option autoImplicit false

/-! Whole runs: the direct registry and the client's over MCP, proposal by proposal. -/

namespace CausalOps.Investigation.Mcp

section Client

variable {Wire : Type} {c : Setting Wire} {drawn drawnChild : List String} {client : Client}
  {turn : Turn Wire}

/-- The client's ledger, and a child that is behind it. -/
structure Tracked (c : Setting Wire) (drawn drawnChild : List String) (client : Client) :
    Prop where
  budget : client.memory.ledger.budget = c.budgets.executedTools
  drawn : ∀ receipt ∈ client.memory.ledger.receipts, receipt.receiptId ∈ drawn
  behind : Behind c.budgets client.memory.seen (client.memory.ledger.spent false) drawnChild
    client.child.memory

theorem Tracked.start (c : Setting Wire) : Tracked c [] [] (Client.start c.budgets) :=
  ⟨rfl, fun _ hreceipt => (by cases hreceipt), behind_child _ _ _ _⟩

theorem Tracked.unused (h : Tracked c drawn drawnChild client) {receiptId : String}
    (hnew : receiptId ∉ drawn) :
    ReservationLedger.Unused receiptId client.memory.ledger.receipts := by
  rintro old hold rfl
  exact hnew (h.drawn old hold)

/-- What the client's policy has allowed of a tool that the child serves. -/
theorem Tracked.authorized (h : Tracked c drawn drawnChild client) {proposal : ToolProposal}
    (hallowed : (decisionOf c.hashing proposal c.scope client.memory.seen c.budgets
      client.memory.ledger).result = .allowed)
    (htool : (resolveEffectiveWindow proposal.arguments c.scope).tool ≠ .searchRunbooks) :
    Authorized c client.memory.seen (client.memory.ledger.spent false)
      (resolveEffectiveWindow proposal.arguments c.scope) := by
  refine ⟨resolveEffectiveWindow_idem _ _, htool, ?_⟩
  simpa only [decisionOf, ReservationLedger.slotsLeftFor, if_neg htool,
    ReservationLedger.slotsLeft, h.budget] using hallowed

/-- The call that a dispatch over MCP makes in the place of a backend. -/
def childCall (c : Setting Wire) (client : Client) (turn : Turn Wire) : Called Wire :=
  c.call client.child turn.link (resolveEffectiveWindow turn.proposal.arguments c.scope).tool
    (dumpArguments c.strict (resolveEffectiveWindow turn.proposal.arguments c.scope)) turn.child
    turn.backend

def clientOutside (c : Setting Wire) (client : Client) (turn : Turn Wire) : Outside :=
  turn.client.outside
    (c.checkOf (resolveEffectiveWindow turn.proposal.arguments c.scope).tool
      (childCall c client turn).content)
    (.ok (turn.search (resolveEffectiveWindow turn.proposal.arguments c.scope)))

def clientDispatch (c : Setting Wire) (client : Client) (turn : Turn Wire) : Dispatched :=
  dispatch c.hashing turn.proposal c.scope client.memory.seen c.budgets client.memory.ledger
    (clientOutside c client turn)

def clientDecision (c : Setting Wire) (client : Client) (turn : Turn Wire) : PolicyDecision :=
  decisionOf c.hashing turn.proposal c.scope client.memory.seen c.budgets client.memory.ledger

/-- The child is asked for what the policy allows, but for the search. -/
def Asks (c : Setting Wire) (client : Client) (turn : Turn Wire) : Prop :=
  (clientDecision c client turn).result = .allowed ∧
    (resolveEffectiveWindow turn.proposal.arguments c.scope).tool ≠ .searchRunbooks

theorem clientDispatch_grown (h : Tracked c drawn drawnChild client)
    (hnew : turn.client.receiptId ∉ drawn) :
    Grown client.memory.ledger client.memory.seen turn.client.receiptId
      (resolveEffectiveWindow turn.proposal.arguments c.scope).tool
      (clientDecision c client turn) (clientDispatch c client turn) :=
  @dispatch_grown c.hashing turn.proposal c.scope client.memory.seen c.budgets
    client.memory.ledger (clientOutside c client turn) rfl (h.unused hnew)

theorem forwarding_asks (h : Tracked c drawn drawnChild client)
    (hnew : turn.client.receiptId ∉ drawn) (hasks : Asks c client turn) :
    c.forwarding client turn =
      (⟨(clientDispatch c client turn).outcome, clientDecision c client turn,
          (childCall c client turn).decision⟩,
        ⟨⟨(clientDispatch c client turn).seen, (clientDispatch c client turn).ledger⟩,
          (childCall c client turn).child⟩) := by
  have hcalled : (clientDispatch c client turn).called.isSome = true :=
    (clientDispatch_grown h hnew).called.2 hasks.1
  have hasked : ((clientDispatch c client turn).called.isSome &&
      decide ((resolveEffectiveWindow turn.proposal.arguments c.scope).tool ≠
        .searchRunbooks)) = true := by
    rw [hcalled, Bool.true_and, decide_eq_true_eq]
    exact hasks.2
  unfold clientDispatch clientOutside childCall at hasked
  simp only [Setting.forwarding, hasked, if_true]
  rfl

theorem forwarding_alone (h : Tracked c drawn drawnChild client)
    (hnew : turn.client.receiptId ∉ drawn) (hasks : ¬ Asks c client turn) :
    c.forwarding client turn =
      (⟨(clientDispatch c client turn).outcome, clientDecision c client turn, none⟩,
        ⟨⟨(clientDispatch c client turn).seen, (clientDispatch c client turn).ledger⟩,
          client.child⟩) := by
  have hasked : ((clientDispatch c client turn).called.isSome &&
      decide ((resolveEffectiveWindow turn.proposal.arguments c.scope).tool ≠
        .searchRunbooks)) = false := by
    rw [Bool.and_eq_false_iff]
    by_cases hcalled : (clientDispatch c client turn).called.isSome = true
    · refine .inr (decide_eq_false fun htool => hasks ⟨?_, htool⟩)
      exact (clientDispatch_grown h hnew).called.1 hcalled
    · exact .inl (Bool.eq_false_iff.2 hcalled)
  unfold clientDispatch clientOutside childCall at hasked
  simp only [Setting.forwarding, hasked, Bool.false_eq_true, if_false]
  rfl

theorem grown_drawn {ledger : ReservationLedger} {seen : Finset String} {receiptId : String}
    {tool : ToolName} {decision : PolicyDecision} {dispatched : Dispatched}
    (hgrown : Grown ledger seen receiptId tool decision dispatched)
    (hdrawn : ∀ receipt ∈ ledger.receipts, receipt.receiptId ∈ drawn) :
    ∀ receipt ∈ dispatched.ledger.receipts, receipt.receiptId ∈ receiptId :: drawn := by
  intro receipt hreceipt
  obtain ⟨last, hreceipts, hid, _⟩ := hgrown.receipts
  rw [hreceipts] at hreceipt
  rcases List.mem_append.1 hreceipt with hold | hlast
  · exact List.mem_cons_of_mem _ (hdrawn receipt hold)
  · rw [List.mem_singleton.1 hlast, hid]
    exact List.mem_cons_self

theorem Tracked.step (h : Tracked c drawn drawnChild client) (hfaithful : c.strict.Faithful)
    (hnew : turn.client.receiptId ∉ drawn) (hnewChild : turn.child.receiptId ∉ drawnChild) :
    Tracked c (turn.client.receiptId :: drawn) (turn.child.receiptId :: drawnChild)
        (c.forwarding client turn).2 ∧
      ∀ decision, (c.forwarding client turn).1.childDecision = some decision →
        decision.result = .allowed := by
  have hgrown := clientDispatch_grown h hnew
  have hbudget := hgrown.budget.trans h.budget
  have hdrawn := grown_drawn hgrown h.drawn
  by_cases hasks : Asks c client turn
  · have hauthorized := h.authorized hasks.1 hasks.2
    obtain ⟨hallows, hbehind⟩ := hauthorized.call hfaithful h.behind hnewChild turn.link
      (Eq.refl (childCall c client turn))
    rw [forwarding_asks h hnew hasks]
    refine ⟨⟨hbudget, hdrawn, ?_⟩, hallows⟩
    have hspent := hgrown.spent false
    rw [if_pos ⟨hasks.1, decide_eq_false hasks.2⟩] at hspent
    have hmark : (clientDecision c client turn).fingerprint =
        c.hashing.fingerprint (resolveEffectiveWindow turn.proposal.arguments c.scope) :=
      authorize_fingerprint _ _ _ _ _ _
    have hseen := hgrown.seen
    rw [hmark] at hseen
    simp only [hseen, hspent]
    exact hbehind
  · rw [forwarding_alone h hnew hasks]
    refine ⟨⟨hbudget, hdrawn, ?_⟩, fun _ hnone => (by cases hnone)⟩
    refine h.behind.mono ?_ ?_ fun _ hid => List.mem_cons_of_mem _ hid
    · simp only [hgrown.seen]
      exact Finset.subset_insert _ _
    · simp only [hgrown.spent false]
      exact Nat.le_add_right _ _

end Client

section Twin

variable {Wire : Type} {c : Setting Wire} {drawn drawnChild drawnDirect : List String}
  {direct : Memory} {client : Client} {turn : Turn Wire}

/-- Two memories between which no policy decision can tell. -/
structure Twin (direct forwarded : Memory) : Prop where
  seen : forwarded.seen = direct.seen
  budget : forwarded.ledger.budget = direct.ledger.budget
  runbookBudget : forwarded.ledger.runbookBudget = direct.ledger.runbookBudget
  spent : ∀ runbook, forwarded.ledger.spent runbook = direct.ledger.spent runbook

theorem Twin.decision {forwarded : Memory} (h : Twin direct forwarded)
    (proposal : ToolProposal) :
    decisionOf c.hashing proposal c.scope forwarded.seen c.budgets forwarded.ledger =
      decisionOf c.hashing proposal c.scope direct.seen c.budgets direct.ledger := by
  simp only [decisionOf, h.seen, ReservationLedger.slotsLeftFor, ReservationLedger.slotsLeft,
    ReservationLedger.runbookSlotsLeft, h.budget, h.runbookBudget, h.spent]

theorem Twin.grown {forwarded : Memory} (h : Twin direct forwarded) {id id' : String}
    {tool : ToolName} {decision : PolicyDecision} {dispatched dispatched' : Dispatched}
    (hdirect : Grown direct.ledger direct.seen id tool decision dispatched)
    (hforwarded : Grown forwarded.ledger forwarded.seen id' tool decision dispatched') :
    Twin ⟨dispatched.seen, dispatched.ledger⟩ ⟨dispatched'.seen, dispatched'.ledger⟩ where
  seen := by simp only [hforwarded.seen, hdirect.seen, h.seen]
  budget := hforwarded.budget.trans (h.budget.trans hdirect.budget.symm)
  runbookBudget := hforwarded.runbookBudget.trans (h.runbookBudget.trans hdirect.runbookBudget.symm)
  spent runbook := by simp only [hforwarded.spent runbook, hdirect.spent runbook, h.spent runbook]

def directOutside (c : Setting Wire) (turn : Turn Wire) : Outside :=
  turn.direct.outside
    (.ok (turn.backend (resolveEffectiveWindow turn.proposal.arguments c.scope)).1)
    (.ok (turn.search (resolveEffectiveWindow turn.proposal.arguments c.scope)))

def directDispatch (c : Setting Wire) (direct : Memory) (turn : Turn Wire) : Dispatched :=
  dispatch c.hashing turn.proposal c.scope direct.seen c.budgets direct.ledger
    (directOutside c turn)

theorem sameOutcome_search (found : RunbookCheckOutcome) {reserved reserved' : ToolReceipt}
    (hreserved : SameReceipt reserved reserved') :
    SameOutcome ((settleSearch reserved (.ok found)).map Settlement.result)
      ((settleSearch reserved' (.ok found)).map Settlement.result) := by
  simp only [settleSearch, settledBy]
  split
  · exact True.intro
  · exact ⟨⟨hreserved.tool, hreserved.fingerprint, hreserved.policyResult, rfl, rfl,
      hreserved.arguments⟩, True.intro, rfl, rfl, rfl⟩

theorem Tracked.same_outcome (h : Tracked c drawn drawnChild client) (hfaithful : c.Faithful)
    (htwin : Twin direct client.memory) (hgood : client.child.Good)
    (hunused : ReservationLedger.Unused turn.direct.receiptId direct.ledger.receipts)
    (hnew : turn.client.receiptId ∉ drawn) (hnewChild : turn.child.receiptId ∉ drawnChild)
    (hlink : turn.link.Healthy) :
    SameOutcome (directDispatch c direct turn).outcome (clientDispatch c client turn).outcome := by
  have hdecision := htwin.decision (c := c) turn.proposal
  have hclientUnused := h.unused hnew
  unfold directDispatch clientDispatch
  cases hresult : (decisionOf c.hashing turn.proposal c.scope direct.seen c.budgets
      direct.ledger).result with
  | denied =>
      rw [dispatch_denied rfl hunused hresult,
        dispatch_denied rfl hclientUnused (hdecision ▸ hresult)]
      dsimp only
      rw [hdecision]
      exact ⟨⟨rfl, rfl, rfl, rfl, rfl, rfl⟩, True.intro, rfl, rfl, rfl⟩
  | allowed =>
      have hallowed : (decisionOf c.hashing turn.proposal c.scope client.memory.seen c.budgets
          client.memory.ledger).result = .allowed := hdecision ▸ hresult
      by_cases htool :
          (resolveEffectiveWindow turn.proposal.arguments c.scope).tool = .searchRunbooks
      · rw [outcome_of_search rfl hunused hresult htool,
          outcome_of_search rfl hclientUnused hallowed htool, hdecision]
        exact sameOutcome_search _ ⟨rfl, rfl, rfl, rfl, rfl, rfl⟩
      · have hauthorized := h.authorized hallowed htool
        obtain ⟨_, memory, hbehind, hcontent⟩ := call_healthy hfaithful.strict hgood h.behind
          hlink htool turn.child turn.backend (Eq.refl (childCall c client turn))
        have hforwards := forwards_check hauthorized hfaithful hbehind hnewChild
          (resolveEffectiveWindow turn.proposal.arguments c.scope).tool turn.backend
        rw [← hcontent] at hforwards
        rw [outcome_of_check rfl hunused hresult htool,
          outcome_of_check rfl hclientUnused hallowed htool, hdecision]
        exact sameOutcome_check hfaithful hforwards c.scope.incidentId
          ⟨rfl, rfl, rfl, rfl, rfl, rfl⟩

end Twin

section Runs

variable {Wire : Type} {c : Setting Wire} {drawn drawnChild drawnDirect : List String}
  {direct : Memory} {client : Client}

structure Beside (c : Setting Wire) (drawnDirect drawn drawnChild : List String)
    (direct : Memory) (client : Client) : Prop where
  tracked : Tracked c drawn drawnChild client
  twin : Twin direct client.memory
  drawn : ∀ receipt ∈ direct.ledger.receipts, receipt.receiptId ∈ drawnDirect

theorem Beside.start (c : Setting Wire) :
    Beside c [] [] [] (Memory.start c.budgets) (Client.start c.budgets) :=
  ⟨Tracked.start c, ⟨rfl, rfl, rfl, fun _ => rfl⟩, fun _ hreceipt => (by cases hreceipt)⟩

theorem Beside.unused (h : Beside c drawnDirect drawn drawnChild direct client)
    {receiptId : String} (hnew : receiptId ∉ drawnDirect) :
    ReservationLedger.Unused receiptId direct.ledger.receipts := by
  rintro old hold rfl
  exact hnew (h.drawn old hold)

theorem forwarding_memory (turn : Turn Wire) : (c.forwarding client turn).2.memory =
    ⟨(clientDispatch c client turn).seen, (clientDispatch c client turn).ledger⟩ := rfl

theorem Beside.step (h : Beside c drawnDirect drawn drawnChild direct client)
    (hfaithful : c.Faithful) {turn : Turn Wire} (hnewDirect : turn.direct.receiptId ∉ drawnDirect)
    (hnew : turn.client.receiptId ∉ drawn) (hnewChild : turn.child.receiptId ∉ drawnChild) :
    Beside c (turn.direct.receiptId :: drawnDirect) (turn.client.receiptId :: drawn)
      (turn.child.receiptId :: drawnChild) (c.direct direct turn).2
      (c.forwarding client turn).2 := by
  have hdirect : Grown direct.ledger direct.seen turn.direct.receiptId
      (resolveEffectiveWindow turn.proposal.arguments c.scope).tool
      (decisionOf c.hashing turn.proposal c.scope direct.seen c.budgets direct.ledger)
      (directDispatch c direct turn) :=
    @dispatch_grown c.hashing turn.proposal c.scope direct.seen c.budgets direct.ledger
      (directOutside c turn) rfl (h.unused hnewDirect)
  have hclient := clientDispatch_grown h.tracked hnew
  rw [clientDecision, h.twin.decision] at hclient
  refine ⟨(h.tracked.step hfaithful.strict hnew hnewChild).1, ?_, grown_drawn hdirect h.drawn⟩
  rw [forwarding_memory]
  exact h.twin.grown hdirect hclient

theorem forwarding_good (h : Tracked c drawn drawnChild client) (hfaithful : c.Faithful)
    (hgood : client.child.Good) {turn : Turn Wire} (hnew : turn.client.receiptId ∉ drawn)
    (hlink : turn.link.Healthy) : (c.forwarding client turn).2.child.Good := by
  by_cases hasks : Asks c client turn
  · rw [forwarding_asks h hnew hasks]
    exact (call_healthy hfaithful.strict hgood h.behind hlink hasks.2 turn.child turn.backend
      (Eq.refl (childCall c client turn))).1
  · rw [forwarding_alone h hnew hasks]
    exact hgood

def Drawn (turns : List (Turn Wire)) (draw : Turn Wire → Fresh) (before : List String) : Prop :=
  ((turns.map fun turn => (draw turn).receiptId) ++ before).Nodup

theorem Drawn.head {turn : Turn Wire} {turns : List (Turn Wire)} {draw : Turn Wire → Fresh}
    {before : List String} (h : Drawn (turn :: turns) draw before) :
    (draw turn).receiptId ∉ before := fun hmem =>
  (List.nodup_cons.1 h).1 (List.mem_append_right _ hmem)

theorem Drawn.tail {turn : Turn Wire} {turns : List (Turn Wire)} {draw : Turn Wire → Fresh}
    {before : List String} (h : Drawn (turn :: turns) draw before) :
    Drawn turns draw ((draw turn).receiptId :: before) :=
  List.nodup_middle.2 h

theorem run_allows (hfaithful : c.Faithful) (turns : List (Turn Wire)) :
    ∀ {drawn drawnChild : List String} {client : Client}, Tracked c drawn drawnChild client →
      Drawn turns Turn.client drawn → Drawn turns Turn.child drawnChild →
      ∀ shown ∈ (Machine.run c.forwarding client turns).1, ∀ decision,
        shown.childDecision = some decision → decision.result = .allowed := by
  induction turns with
  | nil => intro _ _ _ _ _ _ shown hshown; cases hshown
  | cons turn turns ih =>
      intro drawn drawnChild client h hclient hchild shown hshown
      obtain ⟨hnext, hallows⟩ := h.step hfaithful.strict hclient.head hchild.head
      rw [Machine.run_cons] at hshown
      rcases List.mem_cons.1 hshown with rfl | hlater
      · exact hallows
      · exact ih hnext hclient.tail hchild.tail shown hlater

theorem run_same (hfaithful : c.Faithful) (turns : List (Turn Wire)) :
    ∀ {drawnDirect drawn drawnChild : List String} {direct : Memory} {client : Client},
      Beside c drawnDirect drawn drawnChild direct client → client.child.Good →
      Drawn turns Turn.direct drawnDirect → Drawn turns Turn.client drawn →
      Drawn turns Turn.child drawnChild → (∀ turn ∈ turns, turn.link.Healthy) →
      List.Forall₂ (fun outcome shown => SameOutcome outcome shown.outcome)
        (Machine.run c.direct direct turns).1 (Machine.run c.forwarding client turns).1 := by
  induction turns with
  | nil => intros; exact List.Forall₂.nil
  | cons turn turns ih =>
      intro drawnDirect drawn drawnChild direct client h hgood hdirect hclient hchild hlinks
      have hlink := hlinks turn List.mem_cons_self
      rw [Machine.run_cons, Machine.run_cons]
      refine List.Forall₂.cons ?_ ?_
      · exact h.tracked.same_outcome hfaithful h.twin hgood (h.unused hdirect.head) hclient.head
          hchild.head hlink
      · exact ih (h.step hfaithful hdirect.head hclient.head hchild.head)
          (forwarding_good h.tracked hfaithful hgood hclient.head hlink) hdirect.tail hclient.tail
          hchild.tail fun other hother => hlinks other (List.mem_cons_of_mem _ hother)

/-- Dispatch over MCP equals direct dispatch while the child is healthy, and in every run the
child's policy allows what the client's has allowed. -/
theorem mcp_dispatch (c : Setting Wire) (hfaithful : c.Faithful) (turns : List (Turn Wire))
    (hdirect : Drawn turns Turn.direct []) (hclient : Drawn turns Turn.client [])
    (hchild : Drawn turns Turn.child []) :
    ((∀ turn ∈ turns, turn.link.Healthy) →
      List.Forall₂ (fun outcome shown => SameOutcome outcome shown.outcome)
        (Machine.run c.direct (Memory.start c.budgets) turns).1
        (Machine.run c.forwarding (Client.start c.budgets) turns).1) ∧
      ∀ shown ∈ (Machine.run c.forwarding (Client.start c.budgets) turns).1, ∀ decision,
        shown.childDecision = some decision → decision.result = .allowed :=
  ⟨run_same hfaithful turns (Beside.start c) (fun _ => ⟨rfl, rfl⟩) hdirect hclient hchild,
    run_allows hfaithful turns (Tracked.start c) hclient hchild⟩

end Runs

section Sample

def labHashing : Hashing where
  digestText := fun text => "digest of " ++ text
  contentHash := fun payload =>
    "hash of " ++ String.join ((Json.sortKeys.sortEntries payload).map Prod.fst)
  fingerprint := fun arguments => "fingerprint of " ++ arguments.tool.value

/-- The lab's incident, with results that are handed over as they are. -/
def labSetting : Setting DispatchResult where
  hashing := labHashing
  scope := labScope
  budgets := defaultBudgets
  strict := labPydantic
  dumpResult := DispatchResult.sortKeys
  readResult := some

theorem labSetting_faithful : labSetting.Faithful where
  strict := labPydantic_faithful
  result := fun _ => rfl
  hash := ⟨fun payload => "hash of " ++ String.join (payload.map Prod.fst), fun _ => rfl⟩

def labFresh (party : String) : Fresh where
  receiptId := "receipt of the " ++ party
  evidenceId := "evidence of the " ++ party
  requestedAt := 1
  observedAt := 2

/-- A metric check over the whole incident, over a healthy child. -/
def labTurn : Turn DispatchResult where
  proposal := ⟨.queryMetric ⟨.gatewayErrorRate, "gateway", none, none⟩, "is it failing",
    "a raised error rate", by decide, by decide⟩
  backend := fun _ => ⟨⟨.executed, .metric, "prometheus", "errors rise",
    [("status", .str "ok"), ("peak", .int 3)], none, 12⟩, by decide⟩
  search := fun _ => ⟨.executed, [], .fts5Lexical, none, 3⟩
  direct := labFresh "direct registry"
  client := labFresh "client"
  child := labFresh "child"
  link := ⟨false, .handshakes, .answers⟩

theorem mcp_dispatch_metric :
    List.Forall₂ (fun outcome shown => SameOutcome outcome shown.outcome)
        (Machine.run labSetting.direct (Memory.start labSetting.budgets) [labTurn]).1
        (Machine.run labSetting.forwarding (Client.start labSetting.budgets) [labTurn]).1 ∧
      ∀ shown ∈ (Machine.run labSetting.forwarding (Client.start labSetting.budgets)
          [labTurn]).1, ∀ decision,
        shown.childDecision = some decision → decision.result = .allowed := by
  have h := mcp_dispatch labSetting labSetting_faithful [labTurn] (by simp [Drawn])
    (by simp [Drawn]) (by simp [Drawn])
  refine ⟨h.1 fun turn hturn => ?_, h.2⟩
  rw [List.mem_singleton.1 hturn]
  exact ⟨rfl, rfl⟩

end Sample

end CausalOps.Investigation.Mcp
