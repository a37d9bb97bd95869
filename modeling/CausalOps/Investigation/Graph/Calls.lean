import CausalOps.Investigation.Graph

set_option autoImplicit false

/-! What a stage charges for the requests it makes, and with it how many turns, requests
and nodes a run can have. -/

namespace CausalOps.Investigation

section Ask

/-- A request that repeats an earlier one with what was wrong with its answer. -/
def isRepair (request : ModelRequest) : Bool := request.repairErrors.isSome

/-- How the counters of a stage can move: every request is counted, every repair is
within the budget and free, and nothing is asked once no call is left. -/
structure Charged (budgets : Budgets) (before after : Asking) : Prop where
  calls : before.modelCallsUsed + after.requests.length =
    after.modelCallsUsed + before.requests.length
  repairs : before.repairsUsed + after.requests.countP isRepair ≤
    after.repairsUsed + before.requests.countP isRepair
  bound : after.repairsUsed ≤ max before.repairsUsed budgets.repairs
  atMostOne : before.callsLeft budgets - 1 ≤ after.callsLeft budgets
  within : min 0 (before.callsLeft budgets) ≤ after.callsLeft budgets

variable {α : Type} {context : StageContext} {asking : Asking}

theorem renderStageRequest_repair {repairErrors : Option String} {request : ModelRequest}
    (h : renderStageRequest context asking repairErrors = .ok request) :
    request.repairErrors = repairErrors := by
  unfold renderStageRequest at h
  split at h
  · rw [← Except.ok.inj h]
  · cases h
  · cases h
  · cases h

/-- A request is either not made, or counted under its own repair errors. -/
theorem askOnce_cases {repairErrors : Option String} {reply : Reply α} {asked : Asking}
    {outcome : Except Escape (Except String α)}
    (h : askOnce context asking repairErrors reply = (asked, outcome)) :
    (asked = asking ∧ ∃ escape, outcome = .error escape) ∨
      ∃ request, request.repairErrors = repairErrors ∧
        asked.requests = asking.requests ++ [request] ∧
        asked.modelCallsUsed = asking.modelCallsUsed + 1 ∧
        asked.repairsUsed = asking.repairsUsed ∧ asked.stopReason = asking.stopReason := by
  unfold askOnce at h
  cases hrender : renderStageRequest context asking repairErrors with
  | error escape =>
      rw [hrender] at h
      obtain ⟨rfl, rfl⟩ := Prod.mk.inj h
      exact Or.inl ⟨rfl, escape, rfl⟩
  | ok request =>
      rw [hrender] at h
      refine Or.inr ⟨request, renderStageRequest_repair hrender, ?_⟩
      cases hreply : reply request with
      | error escape =>
          simp only [hreply] at h
          obtain ⟨rfl, rfl⟩ := Prod.mk.inj h
          exact ⟨rfl, rfl, rfl, rfl⟩
      | ok answered =>
          simp only [hreply] at h
          obtain ⟨rfl, rfl⟩ := Prod.mk.inj h
          exact ⟨rfl, rfl, rfl, rfl⟩

@[simp] theorem callsLeft_stop (budgets : Budgets) (asking : Asking) (reason : ReasonCode) :
    (asking.stop reason).callsLeft budgets = asking.callsLeft budgets := rfl

@[simp] theorem callsLeft_note (budgets : Budgets) (asking : Asking) (detail : EventDetail) :
    (asking.note detail).callsLeft budgets = asking.callsLeft budgets := rfl

@[simp] theorem callsLeft_invalid (budgets : Budgets) (asking : Asking) (stage : Stage)
    (errors : String) :
    (asking.invalid stage errors).callsLeft budgets = asking.callsLeft budgets := rfl

/-- What a question leaves of its budget, and what an answer to it shows. -/
structure AskedOf (budgets : Budgets) (before after : Asking)
    (outcome : Except Escape (Option α)) : Prop where
  charged : Charged budgets before after
  answered : ∀ value, outcome = .ok (some value) →
    after.callsLeft budgets = before.callsLeft budgets - 1 ∧ 1 ≤ before.callsLeft budgets
  stopped : outcome = .ok none → ∃ reason, after.stopReason = some reason ∧
    (reason = .modelCallBudgetExhausted → before.callsLeft budgets ≤ 0)

section Charges

variable {budgets : Budgets} {asked again : Asking} {request request' : ModelRequest}

theorem callsLeft_call {before after : Asking}
    (hcalls : after.modelCallsUsed = before.modelCallsUsed + 1)
    (hrepairs : after.repairsUsed = before.repairsUsed) :
    after.callsLeft budgets = before.callsLeft budgets - 1 := by
  simp only [Asking.callsLeft, modelCallsLeft, hcalls, hrepairs]
  omega

theorem charged_stop (budgets : Budgets) (asking : Asking) (reason : ReasonCode) :
    Charged budgets asking (asking.stop reason) :=
  { calls := rfl
    repairs := le_rfl
    bound := le_max_left _ _
    atMostOne := by rw [callsLeft_stop]; omega
    within := by rw [callsLeft_stop]; omega }

theorem charged_self (budgets : Budgets) (asking : Asking) : Charged budgets asking asking :=
  { calls := rfl
    repairs := le_rfl
    bound := le_max_left _ _
    atMostOne := by omega
    within := by omega }

theorem charged_first (hleft : 1 ≤ asking.callsLeft budgets)
    (hrepair : request.repairErrors = none)
    (hrequests : asked.requests = asking.requests ++ [request])
    (hcalls : asked.modelCallsUsed = asking.modelCallsUsed + 1)
    (hrepairs : asked.repairsUsed = asking.repairsUsed) : Charged budgets asking asked :=
  { calls := by
      rw [hrequests, hcalls, List.length_append, List.length_singleton]
      omega
    repairs := by simp [hrequests, hrepairs, isRepair, hrepair]
    bound := by simp [hrepairs]
    atMostOne := (callsLeft_call hcalls hrepairs).ge
    within := by rw [callsLeft_call hcalls hrepairs]; omega }

theorem callsLeft_repair {stage : Stage} {errors : String}
    (hcalls : asked.modelCallsUsed = asking.modelCallsUsed + 1)
    (hrepairs : asked.repairsUsed = asking.repairsUsed) :
    ((asked.invalid stage errors).repair).callsLeft budgets = asking.callsLeft budgets := by
  simp only [Asking.callsLeft, modelCallsLeft, Asking.repair, Asking.invalid, hcalls, hrepairs]
  omega

theorem charged_repair (stage : Stage) (errors : String) (hroom : asked.repairsUsed < budgets.repairs)
    (hrepair : request.repairErrors = none)
    (hrequests : asked.requests = asking.requests ++ [request])
    (hcalls : asked.modelCallsUsed = asking.modelCallsUsed + 1)
    (hrepairs : asked.repairsUsed = asking.repairsUsed) :
    Charged budgets asking ((asked.invalid stage errors).repair) :=
  { calls := by
      simp only [Asking.repair, Asking.invalid, hrequests, hcalls, List.length_append,
        List.length_singleton]
      omega
    repairs := by
      simp [Asking.repair, Asking.invalid, hrequests, hrepairs, isRepair, hrepair]
    bound := le_trans hroom (le_max_right _ _)
    atMostOne := by rw [callsLeft_repair hcalls hrepairs]; omega
    within := by rw [callsLeft_repair hcalls hrepairs]; omega }

theorem charged_second {stage : Stage} {errors : String} (hleft : 1 ≤ asking.callsLeft budgets)
    (hroom : asked.repairsUsed < budgets.repairs)
    (hrepair : request.repairErrors = none)
    (hrequests : asked.requests = asking.requests ++ [request])
    (hcalls : asked.modelCallsUsed = asking.modelCallsUsed + 1)
    (hrepairs : asked.repairsUsed = asking.repairsUsed)
    (hrepair' : request'.repairErrors = some errors)
    (hrequests' : again.requests = ((asked.invalid stage errors).repair).requests ++ [request'])
    (hcalls' : again.modelCallsUsed = ((asked.invalid stage errors).repair).modelCallsUsed + 1)
    (hrepairs' : again.repairsUsed = ((asked.invalid stage errors).repair).repairsUsed) :
    Charged budgets asking again ∧
      again.callsLeft budgets = asking.callsLeft budgets - 1 := by
  have hunsent := charged_repair stage errors hroom hrepair hrequests
    hcalls hrepairs
  have hagain : again.callsLeft budgets = asking.callsLeft budgets - 1 := by
    rw [callsLeft_call hcalls' hrepairs', callsLeft_repair hcalls hrepairs]
  refine ⟨?_, hagain⟩
  exact
    { calls := by
        have hcounted := hunsent.calls
        rw [hrequests', hcalls', List.length_append, List.length_singleton]
        omega
      repairs := by
        rw [hrequests', hrepairs']
        simp [Asking.repair, Asking.invalid, hrequests, hrepairs, isRepair, hrepair, hrepair']
        omega
      bound := hrepairs' ▸ hunsent.bound
      atMostOne := by rw [hagain]
      within := by rw [hagain]; omega }

end Charges

theorem askWithRepair_asked (context : StageContext) (startedAt reading : Time)
    (asking : Asking) (first second : Reply α) :
    AskedOf context.setting.budgets asking
      (askWithRepair context startedAt reading asking first second).1
      (askWithRepair context startedAt reading asking first second).2 := by
  unfold askWithRepair
  split
  · exact ⟨charged_stop _ _ _, nofun, fun _ => ⟨_, rfl, nofun⟩⟩
  split
  · rename_i hexhausted
    exact ⟨charged_stop _ _ _, nofun, fun _ => ⟨_, rfl, fun _ => hexhausted⟩⟩
  rename_i hexhausted
  have hleft : 1 ≤ asking.callsLeft context.setting.budgets := by omega
  cases hasked : askOnce context asking none first with
  | mk asked outcome =>
  rcases askOnce_cases hasked with
    ⟨rfl, escape, rfl⟩ | ⟨request, hrepair, hrequests, hcalls, hrepairs, -⟩
  · exact ⟨charged_self _ _, nofun, nofun⟩
  have hfirst := charged_first hleft hrepair hrequests hcalls hrepairs
  cases outcome with
  | error escape => exact ⟨hfirst, nofun, nofun⟩
  | ok parsed =>
  cases parsed with
  | ok value => exact ⟨hfirst, fun _ _ => ⟨callsLeft_call hcalls hrepairs, hleft⟩, nofun⟩
  | error errors =>
  dsimp only
  split
  · exact ⟨⟨hfirst.calls, hfirst.repairs, hfirst.bound, hfirst.atMostOne, hfirst.within⟩, nofun,
      fun _ => ⟨_, rfl, nofun⟩⟩
  rename_i hroom
  have hroom : asked.repairsUsed < context.setting.budgets.repairs := not_le.1 hroom
  cases hagain : askOnce context (asked.invalid context.stage errors).repair (some errors)
    second with
  | mk again outcome =>
  rcases askOnce_cases hagain with
    ⟨rfl, escape, rfl⟩ | ⟨request', hrepair', hrequests', hcalls', hrepairs', -⟩
  · exact ⟨charged_repair _ _ hroom hrepair hrequests hcalls hrepairs, nofun, nofun⟩
  obtain ⟨hsecond, hspent⟩ := charged_second hleft hroom hrepair hrequests hcalls hrepairs hrepair'
    hrequests' hcalls' hrepairs'
  cases outcome with
  | error escape => exact ⟨hsecond, nofun, nofun⟩
  | ok parsed =>
  cases parsed with
  | ok value => exact ⟨hsecond, fun _ _ => ⟨hspent, hleft⟩, nofun⟩
  | error errors' =>
    exact ⟨⟨hsecond.calls, hsecond.repairs, hsecond.bound, hsecond.atMostOne, hsecond.within⟩,
      nofun, fun _ => ⟨_, rfl, nofun⟩⟩

end Ask

section Nodes

def GraphState.callsLeft (state : GraphState) (budgets : Budgets) : ℤ :=
  modelCallsLeft state.modelCallsUsed state.repairsUsed budgets

/-- What a node's requests cost, whether or not its state is committed. -/
structure Metered (budgets : Budgets) (state : GraphState) (performed : Performed)
    (calls repairs : ℕ) : Prop where
  sent : calls = state.modelCallsUsed + performed.requests.length
  resent : state.repairsUsed + performed.requests.countP isRepair ≤ repairs
  bound : repairs ≤ max state.repairsUsed budgets.repairs
  atMostOne : state.callsLeft budgets - 1 ≤ modelCallsLeft calls repairs budgets
  within : min 0 (state.callsLeft budgets) ≤ modelCallsLeft calls repairs budgets
  updated : ∀ state', performed.left = .updated state' →
    state'.modelCallsUsed = calls ∧ state'.repairsUsed = repairs

variable {setting : Setting} {state : GraphState}

theorem not_updated_of_escaped {escape : Escape} {state' : GraphState} {claim : Prop}
    (h : (escapedAtOnce escape).left = .updated state') : claim := by
  cases h

theorem metered_quiet {budgets : Budgets} {performed : Performed}
    (hrequests : performed.requests = [])
    (hkept : ∀ state', performed.left = .updated state' →
      state'.modelCallsUsed = state.modelCallsUsed ∧ state'.repairsUsed = state.repairsUsed) :
    Metered budgets state performed state.modelCallsUsed state.repairsUsed :=
  { sent := by simp [hrequests]
    resent := by simp [hrequests]
    bound := le_max_left _ _
    atMostOne := by simp only [GraphState.callsLeft]; omega
    within := by simp only [GraphState.callsLeft]; omega
    updated := hkept }

/-- A node that asks once, and puts the counters of its stage into the state. -/
theorem metered_asking {budgets : Budgets} {performed : Performed} {stage : Stage}
    {asked : Asking} (hcharged : Charged budgets (Asking.start state stage) asked)
    (hrequests : performed.requests = asked.requests)
    (hcounted : ∀ state', performed.left = .updated state' →
      state'.modelCallsUsed = asked.modelCallsUsed ∧ state'.repairsUsed = asked.repairsUsed) :
    Metered budgets state performed asked.modelCallsUsed asked.repairsUsed :=
  { sent := by
      have hcalls := hcharged.calls
      simpa [hrequests, Asking.start] using hcalls.symm
    resent := by
      have hrepairs := hcharged.repairs
      simpa [hrequests, Asking.start] using hrepairs
    bound := hcharged.bound
    atMostOne := hcharged.atMostOne
    within := hcharged.within
    updated := hcounted }

theorem investigated_counters {stage : Stage}
    {asked : Asking × Except Escape (Option (Plan × Option ToolProposal))} {state' : GraphState}
    (h : investigated state stage asked = .updated state') :
    state'.modelCallsUsed = asked.1.modelCallsUsed ∧
      state'.repairsUsed = asked.1.repairsUsed := by
  unfold investigated at h
  split at h
  · obtain rfl := Left.updated.inj h
    exact ⟨rfl, rfl⟩
  · obtain rfl := Left.updated.inj h
    exact ⟨rfl, rfl⟩
  · cases h
  · obtain rfl := Left.updated.inj h
    exact ⟨rfl, rfl⟩
  · obtain rfl := Left.updated.inj h
    exact ⟨rfl, rfl⟩

theorem assessed_counters {store : EvidenceStore}
    {asked : Asking × Except Escape (Option FinalAssessment)} {state' : GraphState}
    (h : assessed state store asked = .updated state') :
    state'.modelCallsUsed = asked.1.modelCallsUsed ∧
      state'.repairsUsed = asked.1.repairsUsed := by
  unfold assessed at h
  split at h
  · split at h <;> (obtain rfl := Left.updated.inj h; exact ⟨rfl, rfl⟩)
  · dsimp only at h
    split at h <;> (obtain rfl := Left.updated.inj h; exact ⟨rfl, rfl⟩)
  · cases h
  · obtain rfl := Left.updated.inj h
    exact ⟨rfl, rfl⟩
  · obtain rfl := Left.updated.inj h
    exact ⟨rfl, rfl⟩

theorem dispatchedLeft_counters {proposal : ToolProposal} {outside : Outside}
    {dispatched : Dispatched} {state' : GraphState}
    (h : dispatchedLeft state proposal outside dispatched = .updated state') :
    state'.modelCallsUsed = state.modelCallsUsed ∧ state'.repairsUsed = state.repairsUsed := by
  unfold dispatchedLeft at h
  split at h
  · cases h
  · obtain rfl := Left.updated.inj h
    exact ⟨rfl, rfl⟩
  · dsimp only at h
    split at h <;> (obtain rfl := Left.updated.inj h; exact ⟨rfl, rfl⟩)

theorem dispatchTool_quiet (setting : Setting) (state : GraphState) (turn : Turn) :
    (dispatchTool setting state turn).requests = [] ∧
      ∀ state', (dispatchTool setting state turn).left = .updated state' →
        state'.modelCallsUsed = state.modelCallsUsed ∧
          state'.repairsUsed = state.repairsUsed := by
  unfold dispatchTool
  split
  · exact ⟨rfl, fun _ h => not_updated_of_escaped h⟩
  split
  · exact ⟨rfl, fun _ h => not_updated_of_escaped h⟩
  split
  · exact ⟨rfl, fun _ h => not_updated_of_escaped h⟩
  split
  · refine ⟨rfl, ?_⟩
    intro state' h
    obtain rfl := Left.updated.inj h
    exact ⟨rfl, rfl⟩
  · exact ⟨rfl, fun _ h => dispatchedLeft_counters h⟩

theorem escalationInterrupt_quiet (setting : Setting) (state : GraphState)
    (resumes : List Json) :
    (escalationInterrupt setting state resumes).requests = [] ∧
      ∀ state', (escalationInterrupt setting state resumes).left = .updated state' →
        state'.modelCallsUsed = state.modelCallsUsed ∧
          state'.repairsUsed = state.repairsUsed := by
  unfold escalationInterrupt
  split
  · split
    · refine ⟨rfl, ?_⟩
      intro state' h
      obtain rfl := Left.updated.inj h
      exact ⟨rfl, rfl⟩
    · refine ⟨rfl, ?_⟩
      intro state' h
      cases h
  all_goals exact ⟨rfl, fun _ h => not_updated_of_escaped h⟩

theorem finalReport_quiet (setting : Setting) (state : GraphState) (turn : Turn) :
    (finalReport setting state turn).requests = [] ∧
      ∀ state', (finalReport setting state turn).left = .updated state' →
        state'.modelCallsUsed = state.modelCallsUsed ∧
          state'.repairsUsed = state.repairsUsed := by
  unfold finalReport
  split
  · exact ⟨rfl, fun _ h => not_updated_of_escaped h⟩
  · refine ⟨rfl, ?_⟩
    intro state' h
    obtain rfl := Left.updated.inj h
    exact ⟨rfl, rfl⟩

theorem perform_metered (setting : Setting) (node : Node) (state : GraphState)
    (resumes : List Json) (turn : Turn) :
    ∃ calls repairs,
      Metered setting.budgets state (perform setting node state resumes turn) calls repairs := by
  cases node with
  | investigate =>
      simp only [perform, investigate]
      split
      · rename_i receipts store _ _
        have hasked := askWithRepair_asked (stageContext setting state store receipts
          (investigateStage state) .investigate) state.startedAt turn.stageReading
          (Asking.start state (investigateStage state))
          (proposalReply setting.pydantic turn.firstProposal)
          (proposalReply setting.pydantic turn.secondProposal)
        exact ⟨_, _, metered_asking hasked.charged rfl fun _ h => investigated_counters h⟩
      · exact ⟨_, _, metered_quiet rfl fun _ h => not_updated_of_escaped h⟩
      · exact ⟨_, _, metered_quiet rfl fun _ h => not_updated_of_escaped h⟩
  | finalAssessment =>
      simp only [perform, finalAssessment]
      split
      · rename_i receipts store _ _
        have hasked := askWithRepair_asked (stageContext setting state store receipts
          .finalAssessment .finalAssessment) state.startedAt turn.stageReading
          (Asking.start state .finalAssessment)
          (responseReply setting.pydantic turn.firstResponse)
          (responseReply setting.pydantic turn.secondResponse)
        exact ⟨_, _, metered_asking hasked.charged rfl fun _ h => assessed_counters h⟩
      · exact ⟨_, _, metered_quiet rfl fun _ h => not_updated_of_escaped h⟩
      · exact ⟨_, _, metered_quiet rfl fun _ h => not_updated_of_escaped h⟩
  | dispatchTool =>
      have hquiet := dispatchTool_quiet setting state turn
      exact ⟨_, _, metered_quiet hquiet.1 hquiet.2⟩
  | normalizeEvidence =>
      refine ⟨_, _, metered_quiet rfl ?_⟩
      intro state' h
      obtain rfl := Left.updated.inj h
      exact ⟨rfl, rfl⟩
  | escalationInterrupt =>
      have hquiet := escalationInterrupt_quiet setting state resumes
      exact ⟨_, _, metered_quiet hquiet.1 hquiet.2⟩
  | finalReport =>
      have hquiet := finalReport_quiet setting state turn
      exact ⟨_, _, metered_quiet hquiet.1 hquiet.2⟩

theorem investigate_proposes {turn : Turn} {state' : GraphState}
    (h : (investigate setting state turn).left = .updated state')
    (hproposed : state'.pendingProposal.isSome = true) :
    state'.callsLeft setting.budgets = state.callsLeft setting.budgets - 1 := by
  unfold investigate at h
  split at h
  · rename_i receipts store _ _
    dsimp only at h
    generalize hasked : askWithRepair _ _ _ _ _ _ = asked at h
    have hspec := askWithRepair_asked (stageContext setting state store receipts
      (investigateStage state) .investigate) state.startedAt turn.stageReading
      (Asking.start state (investigateStage state))
      (proposalReply setting.pydantic turn.firstProposal)
      (proposalReply setting.pydantic turn.secondProposal)
    rw [hasked] at hspec
    unfold investigated at h
    split at h
    · obtain rfl := Left.updated.inj h
      simp [stoppedState] at hproposed
    · rename_i plan proposal houtcome
      obtain rfl := Left.updated.inj h
      exact (hspec.answered _ houtcome).1
    · cases h
    · obtain rfl := Left.updated.inj h
      simp [stoppedState] at hproposed
    · obtain rfl := Left.updated.inj h
      simp at hproposed
  · cases h
  · cases h

end Nodes

end CausalOps.Investigation
