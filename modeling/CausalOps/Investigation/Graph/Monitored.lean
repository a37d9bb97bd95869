import CausalOps.Library.Machine
import CausalOps.Investigation.Graph.Sound
import CausalOps.Investigation.Wrappers.Stored

set_option autoImplicit false

/-! Any sequence of proposals through the wrappers, the ledger rebuilt from the stored
receipts before each: what reaches a backend, how often, and with which arguments. -/

namespace CausalOps.Investigation

open ReservationLedger (spentOf)

section Sequences

/-- One proposal, and what the outside answers while it is dispatched. -/
structure Proposed where
  proposal : ToolProposal
  outside : Outside

/-- What the dispatches of one investigation share. -/
structure Monitor where
  hashing : Hashing
  pydantic : Pydantic
  scope : IncidentScope
  budgets : Budgets

/-- One dispatch: what it started from, and what it left. -/
structure Record where
  ledger : ReservationLedger
  seen : Finset String
  proposed : Proposed
  dispatched : Dispatched

namespace Monitor

def record (m : Monitor) (ledger : ReservationLedger) (seen : Finset String)
    (proposed : Proposed) : Record where
  ledger := ledger
  seen := seen
  proposed := proposed
  dispatched := dispatch m.hashing proposed.proposal m.scope seen m.budgets ledger proposed.outside

/-- The arguments that a dispatch checks and would run. -/
def effective (m : Monitor) (record : Record) : ToolArguments :=
  resolveEffectiveWindow record.proposed.proposal.arguments m.scope

def decision (m : Monitor) (record : Record) : PolicyDecision :=
  decisionOf m.hashing record.proposed.proposal m.scope record.seen m.budgets record.ledger

/-- `_rebuild_receipts` and `from_receipts`, on the receipts of a state. -/
def rebuild (m : Monitor) (receipts : List Json.Dict) : Except Escape ReservationLedger :=
  match receipts.mapM (validateReceipt m.pydantic) with
  | .error _ => .error (.raised "ValidationError")
  | .ok receipts =>
      if receipts.all fun receipt => receipt.incidentId = m.scope.incidentId then
        rebuildLedger m.budgets receipts
      else .error (.raised "AssertionError")

end Monitor

/-- What a state keeps between two dispatches, with every dispatch so far. -/
structure Stored where
  receipts : List Json.Dict
  seen : Finset String
  trace : List Record

def Stored.empty : Stored := ⟨[], ∅, []⟩

/-- One dispatch on a ledger that is rebuilt from what is stored. -/
def stepStored (m : Monitor) (stored : Stored) (proposed : Proposed) : Unit × Stored :=
  match m.rebuild stored.receipts with
  | .error _ => ((), stored)
  | .ok ledger =>
      let record := m.record ledger stored.seen proposed
      ((), ⟨record.dispatched.ledger.receipts.map (dumpReceipt m.pydantic),
        record.dispatched.seen, stored.trace ++ [record]⟩)

def callsOf (trace : List Record) : List ToolArguments :=
  trace.filterMap fun record => record.dispatched.called

end Sequences

section Guards

variable {hashing : Hashing} {proposal : ToolProposal} {scope : IncidentScope}
  {seen : Finset String} {budgets : Budgets} {ledger : ReservationLedger} {outside : Outside}

/-- What a dispatch adds to the receipts, and whether it calls a backend. -/
inductive Adds (scope : IncidentScope) (effective : ToolArguments) (decision : PolicyDecision)
    (outside : Outside) : Option ToolArguments → List ToolReceipt → Prop
  | nothing : Adds scope effective decision outside none []
  | denied (receipt : ToolReceipt) (hdenied : decision.result = .denied)
      (hid : receipt.receiptId = outside.receiptId)
      (hown : receipt.incidentId = scope.incidentId)
      (hpolicy : receipt.policyResult = .denied) :
      Adds scope effective decision outside none [receipt]
  | called (receipt : ToolReceipt) (hallowed : decision.result = .allowed)
      (hid : receipt.receiptId = outside.receiptId)
      (hown : receipt.incidentId = scope.incidentId)
      (hpolicy : receipt.policyResult = .allowed) (htool : receipt.tool = effective.tool) :
      Adds scope effective decision outside (some effective) [receipt]

theorem dispatch_adds (hunused : ReservationLedger.Unused outside.receiptId ledger.receipts) :
    ∃ added,
      (dispatch hashing proposal scope seen budgets ledger outside).ledger.receipts =
          ledger.receipts ++ added ∧
        Adds scope (resolveEffectiveWindow proposal.arguments scope)
          (decisionOf hashing proposal scope seen budgets ledger) outside
          (dispatch hashing proposal scope seen budgets ledger outside).called added ∧
        (dispatch hashing proposal scope seen budgets ledger outside).ledger.budget =
          ledger.budget ∧
        (dispatch hashing proposal scope seen budgets ledger outside).ledger.runbookBudget =
          ledger.runbookBudget ∧
        (dispatch hashing proposal scope seen budgets ledger outside).seen =
          insert (hashing.fingerprint (resolveEffectiveWindow proposal.arguments scope)) seen := by
  have hleaves := dispatch_leaves hashing proposal scope seen budgets ledger outside hunused
  have hmark : (decisionOf hashing proposal scope seen budgets ledger).fingerprint =
      hashing.fingerprint (resolveEffectiveWindow proposal.arguments scope) :=
    authorize_fingerprint _ _ _ _ _ _
  rw [← hmark]
  generalize dispatch hashing proposal scope seen budgets ledger outside = dispatched at hleaves
  cases hleaves with
  | struck name => exact ⟨[], by simp, .nothing, rfl, rfl, rfl⟩
  | denied outcome hdenied hyields =>
      exact ⟨_, rfl, .denied _ hdenied rfl rfl rfl, rfl, rfl, rfl⟩
  | reserved escape hallowed =>
      exact ⟨_, rfl, .called _ hallowed rfl rfl rfl rfl, rfl, rfl, rfl⟩
  | searched found outcome hallowed htool hfound hduration hyields =>
      exact ⟨_, rfl, .called _ hallowed rfl rfl rfl rfl, rfl, rfl, rfl⟩
  | failed found outcome hallowed htool hfound hnot hyields =>
      exact ⟨_, rfl, .called _ hallowed rfl rfl rfl rfl, rfl, rfl, rfl⟩
  | executed found evidence outcome hallowed htool hfound hexecuted hevidence hyields =>
      exact ⟨_, rfl, .called _ hallowed rfl rfl rfl rfl, rfl, rfl, rfl⟩

/-- A backend is called on a ledger that holds the reserved receipt of the call. -/
structure Reserves (m : Monitor) (record : Record) (arguments : ToolArguments)
    (receipt : ToolReceipt) (held : ReservationLedger) : Prop where
  reserved : record.ledger.reserve record.proposed.outside.receiptId m.scope.incidentId
    arguments.tool (m.decision record).fingerprint record.proposed.outside.requestedAt arguments =
      some (receipt, held)
  state : receipt.state = .reserved
  stated : receipt.arguments = some arguments
  present : receipt ∈ held.receipts
  finished : (record.dispatched.ledger, record.dispatched.outcome) =
    if arguments.tool = .searchRunbooks then
      finishSearch record.proposed.outside held record.proposed.outside.receiptId
    else finishCheck m.hashing m.scope record.proposed.outside held
      record.proposed.outside.receiptId

/-- One dispatch is guarded: a backend call was allowed and reserved first, and a denied
proposal calls nothing and spends nothing. -/
structure Guarded (m : Monitor) (record : Record) : Prop where
  called : ∀ arguments, record.dispatched.called = some arguments →
    arguments = m.effective record ∧ (m.decision record).result = .allowed ∧
      Permitted m.scope m.budgets arguments ∧
      ∃ receipt held, Reserves m record arguments receipt held
  denied : (m.decision record).result = .denied → record.dispatched.called = none ∧
    ∀ tool, record.dispatched.ledger.slotsLeftFor tool = record.ledger.slotsLeftFor tool

theorem mem_put (receipt : ToolReceipt) (ledger : ReservationLedger) :
    receipt ∈ (ledger.put receipt).receipts := by
  have hlookup : Rows.lookup ToolReceipt.receiptId receipt.receiptId
      (ledger.put receipt).receipts = some receipt := by
    simp [ReservationLedger.put, Rows.lookup_put]
  exact Rows.lookup_mem hlookup

theorem reserve_some {receiptId incidentId fingerprint : String} {tool : ToolName}
    {requestedAt : Time} {arguments : ToolArguments} {receipt : ToolReceipt}
    {held : ReservationLedger}
    (h : ledger.reserve receiptId incidentId tool fingerprint requestedAt arguments =
      some (receipt, held)) :
    receipt = ReservationLedger.reservedReceipt receiptId incidentId tool fingerprint requestedAt
      arguments ∧ held = ledger.put receipt := by
  simp only [ReservationLedger.reserve] at h
  split at h
  · cases h
  · obtain ⟨rfl, rfl⟩ := Prod.mk.inj (Option.some.inj h)
    exact ⟨rfl, rfl⟩

/-- Only an allowed dispatch with a slot reaches a backend, and reserves first. -/
theorem record_called (m : Monitor) (seen : Finset String) (proposed : Proposed)
    {arguments : ToolArguments}
    (h : (m.record ledger seen proposed).dispatched.called = some arguments) :
    arguments = m.effective (m.record ledger seen proposed) ∧
      (m.decision (m.record ledger seen proposed)).result = .allowed ∧
      ∃ receipt held, Reserves m (m.record ledger seen proposed) arguments receipt held := by
  have hdispatched : (m.record ledger seen proposed).dispatched =
      dispatch m.hashing proposed.proposal m.scope seen m.budgets ledger proposed.outside := rfl
  rw [hdispatched] at h
  simp only [dispatch] at h
  split at h
  · cases h
  split at h
  · split at h <;> cases h
  rename_i hstruck hdenied
  split at h
  · cases h
  rename_i receipt held hreserve
  obtain rfl := Option.some.inj h
  obtain ⟨hreceipt, hheld⟩ := reserve_some hreserve
  have hallowed : (m.decision (m.record ledger seen proposed)).result = .allowed := by
    cases hresult : (m.decision (m.record ledger seen proposed)).result with
    | allowed => rfl
    | denied => exact absurd hresult hdenied
  refine ⟨rfl, hallowed, receipt, held, hreserve, ?_, ?_, ?_, ?_⟩
  · rw [hreceipt]
    rfl
  · rw [hreceipt]
    rfl
  · rw [hheld]
    exact mem_put _ _
  · rw [hdispatched]
    simp only [dispatch, if_neg hstruck, if_neg hdenied, hreserve]
    rfl

theorem record_denied (m : Monitor) (seen : Finset String) (proposed : Proposed)
    (hdenied : (m.decision (m.record ledger seen proposed)).result = .denied) :
    (m.record ledger seen proposed).dispatched.called = none := by
  cases hcalled : (m.record ledger seen proposed).dispatched.called with
  | none => rfl
  | some arguments =>
      obtain ⟨-, hallowed, -⟩ := record_called m seen proposed hcalled
      rw [hdenied] at hallowed
      cases hallowed

theorem adds_spent {effective : ToolArguments} {decision : PolicyDecision}
    {called : Option ToolArguments} {added : List ToolReceipt}
    (h : Adds scope effective decision outside called added) (runbook : Bool) :
    spentOf runbook added =
      called.toList.countP fun arguments => decide (arguments.tool = .searchRunbooks) == runbook := by
  cases h with
  | nothing => rfl
  | denied receipt hdenied hid hown hpolicy => simp [spentOf, hpolicy]
  | called receipt hallowed hid hown hpolicy htool =>
      simp [spentOf, hpolicy, ReservationLedger.isRunbook, htool]

theorem adds_id {effective : ToolArguments} {decision : PolicyDecision}
    {called : Option ToolArguments} {added : List ToolReceipt}
    (h : Adds scope effective decision outside called added) :
    ∀ receipt ∈ added, receipt.receiptId = outside.receiptId ∧
      receipt.incidentId = scope.incidentId := by
  cases h with
  | nothing => simp
  | denied receipt hdenied hid hown hpolicy => simp [hid, hown]
  | called receipt hallowed hid hown hpolicy htool => simp [hid, hown]

theorem adds_keyed {effective : ToolArguments} {decision : PolicyDecision}
    {called : Option ToolArguments} {added : List ToolReceipt} {receipts : List ToolReceipt}
    (h : Adds scope effective decision outside called added)
    (hkeyed : Rows.Keyed ToolReceipt.receiptId receipts)
    (hunused : ReservationLedger.Unused outside.receiptId receipts) :
    Rows.Keyed ToolReceipt.receiptId (receipts ++ added) := by
  have happend : ∀ receipt : ToolReceipt, receipt.receiptId = outside.receiptId →
      Rows.Keyed ToolReceipt.receiptId (receipts ++ [receipt]) :=
    fun receipt hid => hkeyed.append fun old hold heq => hunused old hold (heq.trans hid)
  cases h with
  | nothing => simpa using hkeyed
  | denied receipt hdenied hid hown hpolicy => exact happend receipt hid
  | called receipt hallowed hid hown hpolicy htool => exact happend receipt hid

theorem spentOf_concat (runbook : Bool) (receipts added : List ToolReceipt) :
    spentOf runbook (receipts ++ added) = spentOf runbook receipts + spentOf runbook added := by
  simp [spentOf, List.countP_append]

theorem slotsLeftFor_eq (ledger : ReservationLedger) (tool : ToolName) :
    ledger.slotsLeftFor tool =
      (if tool = .searchRunbooks then ledger.runbookBudget else ledger.budget) -
        spentOf (tool = .searchRunbooks) ledger.receipts := by
  by_cases htool : tool = .searchRunbooks <;>
    simp [ReservationLedger.slotsLeftFor, ReservationLedger.runbookSlotsLeft,
      ReservationLedger.slotsLeft, ReservationLedger.spent, htool]

theorem record_guarded (m : Monitor) (seen : Finset String) (proposed : Proposed)
    (hunused : ReservationLedger.Unused proposed.outside.receiptId ledger.receipts) :
    Guarded m (m.record ledger seen proposed) where
  called := by
    intro arguments hcalled
    obtain ⟨heffective, hallowed, hreserves⟩ := record_called m seen proposed hcalled
    have hpermitted := (authorize_allowed hallowed).2.2
    rw [heffective] at hreserves ⊢
    exact ⟨rfl, hallowed, hpermitted, hreserves⟩
  denied := by
    intro hdenied
    have hnone := record_denied m seen proposed hdenied
    refine ⟨hnone, fun tool => ?_⟩
    obtain ⟨added, hreceipts, hadds, hbudget, hrunbook, -⟩ := @dispatch_adds m.hashing
      proposed.proposal m.scope seen m.budgets ledger proposed.outside hunused
    have hspent := adds_spent hadds (tool = .searchRunbooks)
    change (dispatch m.hashing proposed.proposal m.scope seen m.budgets ledger
      proposed.outside).called = none at hnone
    change (dispatch m.hashing proposed.proposal m.scope seen m.budgets ledger
      proposed.outside).ledger.slotsLeftFor tool = ledger.slotsLeftFor tool
    rw [hnone] at hspent
    rw [slotsLeftFor_eq, slotsLeftFor_eq, hbudget, hrunbook, hreceipts, spentOf_concat, hspent]
    simp

end Guards

section Monitored

variable {m : Monitor} {stored : Stored} {receipts : List ToolReceipt} {proposed : Proposed}

def poolCalls (runbook : Bool) (calls : List ToolArguments) : ℕ :=
  calls.countP fun arguments => decide (arguments.tool = .searchRunbooks) == runbook

structure Monitored (m : Monitor) (stored : Stored) (receipts : List ToolReceipt) : Prop where
  dumped : stored.receipts = receipts.map (dumpReceipt m.pydantic)
  own : ∀ receipt ∈ receipts, receipt.incidentId = m.scope.incidentId
  keyed : Rows.Keyed ToolReceipt.receiptId receipts
  minted : ∀ receipt ∈ receipts, ∃ record ∈ stored.trace,
    receipt.receiptId = record.proposed.outside.receiptId
  spent : ∀ runbook, spentOf runbook receipts = poolCalls runbook (callsOf stored.trace)
  slots : ∀ runbook, (spentOf runbook receipts : ℤ) ≤ max 0 (slotBudget m.budgets runbook)
  seen : ∀ arguments ∈ callsOf stored.trace, m.hashing.fingerprint arguments ∈ stored.seen
  once : (callsOf stored.trace).Nodup
  guarded : ∀ record ∈ stored.trace, Guarded m record

theorem monitored_empty (m : Monitor) : Monitored m Stored.empty [] where
  dumped := rfl
  own := by simp
  keyed := Rows.keyed_nil _
  minted := by simp
  spent := fun _ => rfl
  slots := fun _ => le_max_left _ _
  seen := by simp [Stored.empty, callsOf]
  once := List.nodup_nil
  guarded := by simp [Stored.empty]

theorem Monitored.rebuild (h : Monitored m stored receipts) (hfaithful : m.pydantic.Faithful) :
    m.rebuild stored.receipts = .ok (ledgerOf m.budgets receipts) := by
  have hown : (receipts.all fun receipt => receipt.incidentId = m.scope.incidentId) = true := by
    simpa using h.own
  simp only [Monitor.rebuild, h.dumped, mapM_validateReceipt hfaithful, hown, if_true,
    rebuildLedger_of_keyed m.budgets h.keyed]

theorem callsOf_append (trace : List Record) (record : Record) :
    callsOf (trace ++ [record]) = callsOf trace ++ record.dispatched.called.toList := by
  cases hcalled : record.dispatched.called <;> simp [callsOf, hcalled]

theorem poolCalls_append (runbook : Bool) (calls later : List ToolArguments) :
    poolCalls runbook (calls ++ later) = poolCalls runbook calls + poolCalls runbook later := by
  simp [poolCalls, List.countP_append]

theorem Monitored.stored_step (h : Monitored m stored receipts) (hfaithful : m.pydantic.Faithful)
    (proposed : Proposed) :
    (stepStored m stored proposed).2 =
      let record := m.record (ledgerOf m.budgets receipts) stored.seen proposed
      ⟨record.dispatched.ledger.receipts.map (dumpReceipt m.pydantic), record.dispatched.seen,
        stored.trace ++ [record]⟩ := by
  simp only [stepStored, h.rebuild hfaithful]

theorem adds_slots {seen : Finset String} {proposal : ToolProposal}
    {called : Option ToolArguments} {added : List ToolReceipt} {outside : Outside}
    (h : Adds m.scope (resolveEffectiveWindow proposal.arguments m.scope)
      (decisionOf m.hashing proposal m.scope seen m.budgets (ledgerOf m.budgets receipts)) outside
      called added)
    (hslots : ∀ runbook, (spentOf runbook receipts : ℤ) ≤ max 0 (slotBudget m.budgets runbook))
    (runbook : Bool) :
    (spentOf runbook (receipts ++ added) : ℤ) ≤ max 0 (slotBudget m.budgets runbook) := by
  have hbefore := hslots runbook
  cases h with
  | nothing => simpa using hbefore
  | denied receipt hdenied hid hown hpolicy =>
      simpa [spentOf_append, hpolicy] using hbefore
  | called receipt hallowed hid hown hpolicy htool =>
      have hslot := (authorize_allowed hallowed).1
      rw [slotsLeftFor_ledgerOf] at hslot
      rw [spentOf_append]
      split
      · rename_i hspends
        have hpool : decide (receipt.tool = .searchRunbooks) = runbook := hspends.2
        rw [← htool, hpool] at hslot
        push_cast
        omega
      · simpa using hbefore

theorem Monitored.step (h : Monitored m stored receipts) (hfaithful : m.pydantic.Faithful)
    (hunused : ReservationLedger.Unused proposed.outside.receiptId receipts) :
    Monitored m (stepStored m stored proposed).2
      (m.record (ledgerOf m.budgets receipts) stored.seen
        proposed).dispatched.ledger.receipts := by
  rw [h.stored_step hfaithful proposed]
  have hguarded : Guarded m (m.record (ledgerOf m.budgets receipts) stored.seen proposed) :=
    record_guarded m stored.seen proposed hunused
  obtain ⟨added, hreceipts, hadds, -, -, hseen⟩ := @dispatch_adds m.hashing
    proposed.proposal m.scope stored.seen m.budgets (ledgerOf m.budgets receipts) proposed.outside
    hunused
  dsimp only
  generalize hrecord : m.record (ledgerOf m.budgets receipts) stored.seen proposed = record at *
  have hdispatched : dispatch m.hashing proposed.proposal m.scope stored.seen m.budgets
      (ledgerOf m.budgets receipts) proposed.outside = record.dispatched := by
    rw [← hrecord]
    rfl
  have hproposed : record.proposed = proposed := by
    rw [← hrecord]
    rfl
  rw [hdispatched] at hreceipts hadds hseen
  have hcalls : ∀ arguments ∈ record.dispatched.called.toList,
      arguments = resolveEffectiveWindow proposed.proposal.arguments m.scope ∧
        m.hashing.fingerprint arguments ∉ stored.seen := by
    intro arguments hmem
    generalize record.dispatched.called = called at hadds hmem
    cases hadds with
    | nothing => simp at hmem
    | denied receipt hdenied hid hown hpolicy => simp at hmem
    | called receipt hallowed hid hown hpolicy htool =>
        obtain rfl : arguments = resolveEffectiveWindow proposed.proposal.arguments m.scope := by
          simpa using hmem
        exact ⟨rfl, (authorize_allowed hallowed).2.1⟩
  have hreceipts : record.dispatched.ledger.receipts = receipts ++ added := hreceipts
  refine { dumped := rfl, own := ?_, keyed := ?_, minted := ?_, spent := ?_, slots := ?_,
           seen := ?_, once := ?_, guarded := ?_ }
  · rw [hreceipts]
    intro receipt hmem
    rcases List.mem_append.1 hmem with hold | hnew
    · exact h.own receipt hold
    · exact (adds_id hadds receipt hnew).2
  · rw [hreceipts]
    exact adds_keyed hadds h.keyed hunused
  · rw [hreceipts]
    intro receipt hmem
    rcases List.mem_append.1 hmem with hold | hnew
    · obtain ⟨earlier, hearlier, hid⟩ := h.minted receipt hold
      exact ⟨earlier, List.mem_append_left _ hearlier, hid⟩
    · refine ⟨record, by simp, ?_⟩
      rw [hproposed]
      exact (adds_id hadds receipt hnew).1
  · intro runbook
    rw [hreceipts, spentOf_concat, callsOf_append, poolCalls_append, h.spent runbook,
      adds_spent hadds runbook]
    rfl
  · intro runbook
    rw [hreceipts]
    exact adds_slots hadds h.slots runbook
  · intro arguments hmem
    rw [callsOf_append] at hmem
    change m.hashing.fingerprint arguments ∈ record.dispatched.seen
    rw [hseen]
    rcases List.mem_append.1 hmem with hold | hnew
    · exact Finset.mem_insert_of_mem (h.seen arguments hold)
    · rw [(hcalls arguments hnew).1]
      exact Finset.mem_insert_self _ _
  · rw [callsOf_append]
    refine List.nodup_append.2 ⟨h.once, ?_, ?_⟩
    · cases record.dispatched.called <;> simp
    · rintro arguments hold other hnew rfl
      exact (hcalls arguments hnew).2 (h.seen arguments hold)
  · intro earlier hmem
    rcases List.mem_append.1 hmem with hold | hnew
    · exact h.guarded earlier hold
    · obtain rfl := List.mem_singleton.1 hnew
      exact hguarded

/-- The receipt id of a proposal is new to what is stored. -/
def New (stored : Stored) (proposed : Proposed) : Prop :=
  ∀ record ∈ stored.trace, record.proposed.outside.receiptId ≠ proposed.outside.receiptId

theorem stepStored_trace {record : Record}
    (hmem : record ∈ (stepStored m stored proposed).2.trace) :
    record ∈ stored.trace ∨ record.proposed = proposed := by
  simp only [stepStored] at hmem
  split at hmem
  · exact Or.inl hmem
  · rcases List.mem_append.1 hmem with hold | hnew
    · exact Or.inl hold
    · obtain rfl := List.mem_singleton.1 hnew
      exact Or.inr rfl

theorem distinct_admits (m : Monitor) (sequence : List Proposed) :
    ∀ stored : Stored, (∀ proposed ∈ sequence, New stored proposed) →
      (sequence.map fun proposed => proposed.outside.receiptId).Nodup →
      Machine.Admits (stepStored m) New stored sequence := by
  induction sequence with
  | nil => intro stored _ _; trivial
  | cons proposed rest ih =>
      intro stored hnew hdistinct
      rw [List.map_cons, List.nodup_cons] at hdistinct
      refine ⟨hnew proposed List.mem_cons_self, ih _ ?_ hdistinct.2⟩
      intro later hlater record hmem
      rcases stepStored_trace hmem with hold | rfl
      · exact hnew later (List.mem_cons_of_mem _ hlater) record hold
      · intro heq
        exact hdistinct.1 (List.mem_map.2 ⟨later, hlater, heq.symm⟩)

theorem Monitored.unused (h : Monitored m stored receipts) (hnew : New stored proposed) :
    ReservationLedger.Unused proposed.outside.receiptId receipts := by
  intro receipt hmem heq
  obtain ⟨record, hrecord, hid⟩ := h.minted receipt hmem
  exact hnew record hrecord (hid.symm.trans heq)

/-- What holds between two dispatches holds after every sequence, and no proposal of it is
left out. -/
theorem Monitored.run (hfaithful : m.pydantic.Faithful) (sequence : List Proposed) :
    ∀ (stored : Stored) (receipts : List ToolReceipt), Monitored m stored receipts →
      Machine.Admits (stepStored m) New stored sequence →
      (∃ receipts', Monitored m (Machine.run (stepStored m) stored sequence).2 receipts') ∧
        (Machine.run (stepStored m) stored sequence).2.trace.map Record.proposed =
          stored.trace.map Record.proposed ++ sequence := by
  induction sequence with
  | nil =>
      intro stored receipts h _
      exact ⟨⟨receipts, h⟩, by simp⟩
  | cons proposed rest ih =>
      rintro stored receipts h ⟨hnew, hrest⟩
      have hstep := h.step hfaithful (h.unused hnew)
      obtain ⟨hlast, hall⟩ := ih _ _ hstep hrest
      refine ⟨hlast, ?_⟩
      rw [Machine.run_cons, hall, h.stored_step hfaithful proposed]
      simp [Monitor.record]

end Monitored

section ReferenceMonitor

/-- The dispatches of a sequence as a reference monitor leaves them: each one guarded, no two
calls alike, and no pool overdrawn. -/
structure Watched (m : Monitor) (sequence : List Proposed) (trace : List Record) : Prop where
  every : trace.map Record.proposed = sequence
  guarded : ∀ record ∈ trace, Guarded m record
  once : (callsOf trace).Nodup
  checks : (poolCalls false (callsOf trace) : ℤ) ≤ max 0 m.budgets.executedTools
  searches : (poolCalls true (callsOf trace) : ℤ) ≤ max 0 m.budgets.runbookSearches

def storedTrace (m : Monitor) (sequence : List Proposed) : List Record :=
  (Machine.run (stepStored m) Stored.empty sequence).2.trace

/-- Every sequence of proposals under fresh receipt ids, each dispatched on a ledger that is
rebuilt from what is stored, is watched. -/
theorem reference_monitor (m : Monitor) (hfaithful : m.pydantic.Faithful)
    (sequence : List Proposed)
    (hdistinct : (sequence.map fun proposed => proposed.outside.receiptId).Nodup) :
    Watched m sequence (storedTrace m sequence) := by
  obtain ⟨⟨receipts, h⟩, hall⟩ := Monitored.run hfaithful sequence Stored.empty []
    (monitored_empty m) (distinct_admits m sequence _ (by simp [New, Stored.empty]) hdistinct)
  have hpool : ∀ runbook, (poolCalls runbook (callsOf (storedTrace m sequence)) : ℤ) ≤
      max 0 (slotBudget m.budgets runbook) := by
    intro runbook
    have hspent := h.spent runbook
    have hslots := h.slots runbook
    rw [hspent] at hslots
    exact hslots
  exact ⟨hall, h.guarded, h.once, hpool false, hpool true⟩

def labMonitor : Monitor := ⟨labHashing, labPydantic, labIncident.scope, defaultBudgets⟩

/-- The same search proposed twice: the second is a duplicate. -/
def labSequence : List Proposed :=
  [⟨labSearch, labOutside "first" "evidence-1"⟩, ⟨labSearch, labOutside "second" "evidence-2"⟩]

theorem reference_monitor_duplicate :
    Watched labMonitor labSequence (storedTrace labMonitor labSequence) ∧
      poolCalls true (callsOf (storedTrace labMonitor labSequence)) = 1 :=
  ⟨reference_monitor labMonitor labPydantic_faithful labSequence (by decide), by decide +kernel⟩

end ReferenceMonitor

end CausalOps.Investigation
