import CausalOps.Investigation.Mcp.Settlements

set_option autoImplicit false

/-! The child's memory lags behind the client's: it has seen no fingerprint and spent no slot
that the client has not, whatever has happened to the child. -/

namespace CausalOps.Investigation

section Authorize

/-- A policy that has seen less and has a slot left allows what another one allows. -/
theorem authorize_of_fresher {hashing : Hashing} {arguments : ToolArguments}
    {scope : IncidentScope} {seen seen' : Finset String} {budgets : Budgets} {left left' : ℤ}
    (hallowed : (authorize hashing arguments scope seen budgets left).result = .allowed)
    (hseen : seen' ⊆ seen) (hleft : 0 < left') :
    (authorize hashing arguments scope seen' budgets left').result = .allowed := by
  obtain ⟨hslots, hfresh, _⟩ := authorize_allowed hallowed
  have hfresh' : hashing.fingerprint arguments ∉ seen' := fun hmem => hfresh (hseen hmem)
  simp only [authorize, if_neg (not_le.2 hslots), if_neg hfresh] at hallowed
  simp only [authorize, if_neg (not_le.2 hleft), if_neg hfresh']
  exact hallowed

end Authorize

namespace Mcp

section Requests

variable {strict : Pydantic}

theorem payloadOf_dump (arguments : ToolArguments) :
    payloadOf arguments.tool (dumpArguments strict arguments) =
      dumpArguments strict arguments := by
  cases arguments <;> simp [payloadOf, dumpArguments, Json.set, ToolArguments.tool, ToolName.value]

theorem validate_payload (hfaithful : strict.Faithful) (arguments : ToolArguments) :
    validateArguments strict [] (payloadOf arguments.tool (dumpArguments strict arguments)) =
      .ok arguments := by
  rw [payloadOf_dump, validateArguments_dump hfaithful]

/-- A request that the session lets out carries the arguments as they were dumped. -/
theorem toolCallRequest_some (hfaithful : strict.Faithful) {session after : Session}
    {arguments : ToolArguments} {request : Request}
    (h : session.toolCallRequest strict arguments.tool (dumpArguments strict arguments) =
      some (after, request)) :
    request.name = arguments.tool.value ∧ request.arguments = dumpArguments strict arguments ∧
      after.pending = some request.id := by
  simp only [Session.toolCallRequest, validate_payload hfaithful] at h
  split at h
  · cases h
  · simp only [ne_eq, not_true_eq_false, if_false] at h
    split at h
    · cases h
    · cases h
      exact ⟨rfl, rfl, rfl⟩

variable {Wire : Type} {c : Setting Wire}

theorem handle_dump (hfaithful : c.strict.Faithful) (memory : Memory) {request : Request}
    {arguments : ToolArguments} (hname : request.name = arguments.tool.value)
    (harguments : request.arguments = dumpArguments c.strict arguments)
    (htool : arguments.tool ≠ .searchRunbooks) (fresh : Fresh)
    (backend : ToolArguments → BackendCheck) :
    c.handle memory request fresh backend =
      c.execute memory request.id arguments fresh backend := by
  simp only [Setting.handle, hname, readToolName_value, harguments,
    validate_payload hfaithful, ne_eq, not_true_eq_false, if_false, if_neg htool]

end Requests

section Behind

variable {Wire : Type} {c : Setting Wire}

/-- What a child's memory is bounded by: the client's fingerprints and spent slots, and the
receipt ids that the child's processes have drawn. -/
structure Behind (budgets : Budgets) (seen : Finset String) (spent : ℕ) (drawn : List String)
    (memory : Memory) : Prop where
  seen : memory.seen ⊆ seen
  budget : memory.ledger.budget = budgets.executedTools
  spent : memory.ledger.spent false ≤ spent
  drawn : ∀ receipt ∈ memory.ledger.receipts, receipt.receiptId ∈ drawn

theorem Behind.mono {budgets : Budgets} {seen seen' : Finset String} {spent spent' : ℕ}
    {drawn drawn' : List String} {memory : Memory} (h : Behind budgets seen spent drawn memory)
    (hseen : seen ⊆ seen') (hspent : spent ≤ spent') (hdrawn : ∀ id ∈ drawn, id ∈ drawn') :
    Behind budgets seen' spent' drawn' memory :=
  ⟨h.seen.trans hseen, h.budget, h.spent.trans hspent,
    fun receipt hreceipt => hdrawn _ (h.drawn receipt hreceipt)⟩

theorem behind_child (budgets : Budgets) (seen : Finset String) (spent : ℕ)
    (drawn : List String) : Behind budgets seen spent drawn (Memory.child budgets) :=
  ⟨Finset.empty_subset seen, rfl, Nat.zero_le spent, fun _ hreceipt => (by cases hreceipt)⟩

theorem Behind.unused {budgets : Budgets} {seen : Finset String} {spent : ℕ}
    {drawn : List String} {memory : Memory} (h : Behind budgets seen spent drawn memory)
    {receiptId : String} (hnew : receiptId ∉ drawn) :
    ReservationLedger.Unused receiptId memory.ledger.receipts := by
  rintro old hold rfl
  exact hnew (h.drawn old hold)

/-- The client's decision on some arguments, and what it had seen and spent before. -/
structure Authorized (c : Setting Wire) (seen : Finset String) (spent : ℕ)
    (effective : ToolArguments) : Prop where
  resolved : resolveEffectiveWindow effective c.scope = effective
  observability : effective.tool ≠ .searchRunbooks
  allowed : (authorize c.hashing effective c.scope seen c.budgets
    (c.budgets.executedTools - spent)).result = .allowed

variable {seen : Finset String} {spent : ℕ} {drawn : List String} {memory : Memory}
  {effective : ToolArguments} {fresh : Fresh} {backend : ToolArguments → BackendCheck}

theorem Authorized.child_allows (h : Authorized c seen spent effective)
    (hbehind : Behind c.budgets seen spent drawn memory) :
    (decisionOf c.hashing (observabilityProposal effective) c.scope memory.seen c.budgets
      memory.ledger).result = .allowed := by
  have hslots : 0 < memory.ledger.slotsLeftFor effective.tool := by
    have hspent : (memory.ledger.spent false : ℤ) ≤ spent := by exact_mod_cast hbehind.spent
    have hleft := (authorize_allowed h.allowed).1
    simp only [ReservationLedger.slotsLeftFor, if_neg h.observability,
      ReservationLedger.slotsLeft, hbehind.budget]
    omega
  have hsame : resolveEffectiveWindow (observabilityProposal effective).arguments c.scope =
      effective := h.resolved
  rw [decisionOf, hsame]
  exact authorize_of_fresher h.allowed hbehind.seen hslots

theorem Authorized.execute (h : Authorized c seen spent effective)
    (hbehind : Behind c.budgets seen spent drawn memory) (hnew : fresh.receiptId ∉ drawn)
    (id : ℕ) (backend : ToolArguments → BackendCheck) :
    (∀ decision, (c.execute memory id effective fresh backend).decision = some decision →
        decision.result = .allowed) ∧
      Behind c.budgets (insert (c.hashing.fingerprint effective) seen) (spent + 1)
        (fresh.receiptId :: drawn) (c.execute memory id effective fresh backend).memory := by
  have hallows := h.child_allows hbehind
  refine ⟨fun decision hdecision => ?_, ?_⟩
  · obtain rfl := Option.some.inj hdecision
    exact hallows
  · obtain ⟨outside, houtside⟩ : ∃ outside, outside = fresh.outside
        (.ok (backend (resolveEffectiveWindow effective c.scope)).1)
        (.error (.raised "KeyError")) := ⟨_, rfl⟩
    obtain ⟨dispatched, hdispatched⟩ : ∃ dispatched, dispatched = dispatch c.hashing
        (observabilityProposal effective) c.scope memory.seen c.budgets memory.ledger outside :=
      ⟨_, rfl⟩
    have hmemory : (c.execute memory id effective fresh backend).memory =
        ⟨dispatched.seen, dispatched.ledger⟩ := by
      rw [hdispatched, houtside]
      rfl
    have hgrown := @dispatch_grown c.hashing (observabilityProposal effective) c.scope
      memory.seen c.budgets memory.ledger outside (by rw [houtside]; rfl)
      (by rw [houtside]; exact hbehind.unused hnew)
    rw [← hdispatched] at hgrown
    have hmark : (decisionOf c.hashing (observabilityProposal effective) c.scope memory.seen
        c.budgets memory.ledger).fingerprint = c.hashing.fingerprint effective := by
      rw [decisionOf, authorize_fingerprint]
      exact congrArg c.hashing.fingerprint h.resolved
    rw [hmemory]
    refine ⟨?_, hgrown.budget.trans hbehind.budget, ?_, ?_⟩
    · have hseen := hgrown.seen
      rw [hmark] at hseen
      rw [hseen]
      exact Finset.insert_subset_insert _ hbehind.seen
    · have hbound := hbehind.spent
      rw [hgrown.spent false]
      split <;> omega
    · intro receipt hreceipt
      obtain ⟨last, hreceipts, hid, _⟩ := hgrown.receipts
      rw [hreceipts] at hreceipt
      rcases List.mem_append.1 hreceipt with hold | hlast
      · exact List.mem_cons_of_mem _ (hbehind.drawn receipt hold)
      · rw [List.mem_singleton.1 hlast, hid, houtside]
        exact List.mem_cons_self

theorem respawn_behind {child : McpChild}
    (hbehind : Behind c.budgets seen spent drawn child.memory) (link : Link Wire) :
    Behind c.budgets seen spent drawn (child.respawnIfDead c.budgets link).1.memory := by
  unfold McpChild.respawnIfDead
  split
  · exact hbehind
  · split <;> exact behind_child c.budgets seen spent drawn

@[simp] theorem accept_memory (child : McpChild) (decision : Option PolicyDecision)
    (response : Response Wire) : (child.accept decision response).child.memory = child.memory :=
  rfl

@[simp] theorem accept_decision (child : McpChild) (decision : Option PolicyDecision)
    (response : Response Wire) : (child.accept decision response).decision = decision := rfl

/-- Whatever happens around a call, the child's policy allows what it is asked, and the child
stays behind. -/
theorem Authorized.call (h : Authorized c seen spent effective) (hfaithful : c.strict.Faithful)
    {child : McpChild} (hbehind : Behind c.budgets seen spent drawn child.memory)
    (hnew : fresh.receiptId ∉ drawn) (link : Link Wire) {called : Called Wire}
    (hcalled : called = c.call child link effective.tool (dumpArguments c.strict effective) fresh
      backend) :
    (∀ decision, called.decision = some decision → decision.result = .allowed) ∧
      Behind c.budgets (insert (c.hashing.fingerprint effective) seen) (spent + 1)
        (fresh.receiptId :: drawn) called.child.memory := by
  have hlater : ∀ {memory : Memory}, Behind c.budgets seen spent drawn memory →
      Behind c.budgets (insert (c.hashing.fingerprint effective) seen) (spent + 1)
        (fresh.receiptId :: drawn) memory := fun hmemory =>
    hmemory.mono (Finset.subset_insert _ _) (Nat.le_succ _) fun _ hid =>
      List.mem_cons_of_mem _ hid
  have hspawned := respawn_behind hbehind link
  subst hcalled
  simp only [Setting.call]
  cases hrespawn : child.respawnIfDead c.budgets link with
  | mk spawned ok =>
      rw [hrespawn] at hspawned
      cases ok with
      | false => exact ⟨fun _ hnone => (by cases hnone), hlater hspawned⟩
      | true =>
          dsimp only
          cases hrequest : spawned.session.toolCallRequest c.strict effective.tool
              (dumpArguments c.strict effective) with
          | none => exact ⟨fun _ hnone => (by cases hnone), hlater hspawned⟩
          | some sent =>
              obtain ⟨session, request⟩ := sent
              obtain ⟨hname, harguments, _⟩ := toolCallRequest_some hfaithful hrequest
              dsimp only
              rw [handle_dump hfaithful spawned.memory hname harguments h.observability]
              obtain ⟨hallows, hserved⟩ :=
                h.execute hspawned hnew request.id backend
              -- Whether or not the child has handled the request.
              have heither : ∀ handled : Bool,
                  (∀ decision, (if handled then
                      (c.execute spawned.memory request.id effective fresh backend).decision
                    else none) = some decision → decision.result = .allowed) ∧
                  Behind c.budgets (insert (c.hashing.fingerprint effective) seen) (spent + 1)
                    (fresh.receiptId :: drawn) (if handled then
                      (c.execute spawned.memory request.id effective fresh backend).memory
                    else spawned.memory) := by
                rintro (_ | _)
                · exact ⟨fun _ hnone => (by cases hnone), hlater hspawned⟩
                · exact ⟨hallows, hserved⟩
              cases link.reply with
              | late handled | closes handled => exact heither handled
              | garbled handled response => cases response <;> exact heither handled
              | answers =>
                  dsimp only
                  split <;> exact heither true

end Behind

end Mcp

end CausalOps.Investigation
