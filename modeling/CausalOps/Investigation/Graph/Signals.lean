import CausalOps.Investigation.Graph.Sound

set_option autoImplicit false

/-! The graph's own control-flow signal leaves a node only when a call to the outside
raised it: nothing inside the graph does. -/

namespace CausalOps.Investigation

def Silent {α : Type} (result : Except Escape α) : Prop := result ≠ .error .bubbled

/-- No call of a turn raises the control-flow signal. -/
structure Unsignalled (turn : Turn) : Prop where
  firstProposal : ∀ request, Silent (turn.firstProposal request)
  secondProposal : ∀ request, Silent (turn.secondProposal request)
  firstResponse : ∀ request, Silent (turn.firstResponse request)
  secondResponse : ∀ request, Silent (turn.secondResponse request)
  check : Silent turn.outside.check
  search : Silent turn.outside.search

section Results

variable {α β : Type}

theorem silent_ok (value : α) : Silent (.ok value) := fun h => by cases h

theorem silent_raised (name : String) : Silent (.error (.raised name) : Except Escape α) :=
  fun h => by cases h

theorem silent_error {result : Except Escape α} {escape : Escape} (hsilent : Silent result)
    (h : result = .error escape) : escape ≠ .bubbled := by
  rintro rfl
  exact hsilent h

theorem silent_passed {result : Except Escape α} {escape : Escape} (hsilent : Silent result)
    (h : result = .error escape) : Silent (.error escape : Except Escape β) :=
  fun herror => silent_error hsilent h (Except.error.inj herror)

theorem silent_map {result : Except Escape α} (f : α → β) (hsilent : Silent result) :
    Silent (result.map f) := by
  cases result with
  | ok value => exact silent_ok _
  | error escape =>
      exact silent_passed hsilent rfl

theorem silent_mapError {ε : Type} (result : Except ε α) (name : String) :
    Silent (result.mapError fun _ => Escape.raised name) := by
  cases result with
  | ok value => exact silent_ok _
  | error refusal => exact silent_raised name

theorem silent_mapM {f : α → Except Escape β} (hsilent : ∀ a, Silent (f a)) (items : List α) :
    Silent (items.mapM f) := by
  induction items with
  | nil => exact silent_ok _
  | cons item rest ih =>
      rw [List.mapM_cons]
      intro h
      cases hfirst : f item with
      | error escape =>
          rw [hfirst] at h
          exact silent_error (hsilent item) hfirst (Except.error.inj h)
      | ok value =>
          rw [hfirst] at h
          cases hrest : rest.mapM f with
          | error escape =>
              simp only [hrest] at h
              exact silent_error ih hrest (Except.error.inj h)
          | ok values =>
              simp only [hrest] at h
              cases h

end Results

section Rebuilding

theorem silent_rebuildReceipts (state : GraphState) : Silent (rebuildReceipts state) := by
  unfold rebuildReceipts
  split
  · exact silent_ok _
  · exact silent_raised _

theorem silent_rebuildRecords (state : GraphState) : Silent (rebuildRecords state) :=
  silent_mapError _ _

theorem silent_rebuildLedger (budgets : Budgets) (receipts : List ToolReceipt) :
    Silent (rebuildLedger budgets receipts) := silent_mapError _ _

theorem silent_toolsLeft (budgets : Budgets) (receipts : List ToolReceipt) :
    Silent (toolsLeft budgets receipts) := silent_map _ (silent_rebuildLedger budgets receipts)

theorem silent_runbookSearchesLeft (budgets : Budgets) (receipts : List ToolReceipt) :
    Silent (runbookSearchesLeft budgets receipts) :=
  silent_map _ (silent_rebuildLedger budgets receipts)

theorem silent_deniedCheckNotes (budgets : Budgets) (receipts : List ToolReceipt) :
    Silent (deniedCheckNotes budgets receipts) := by
  refine silent_mapM (fun receipt => ?_) _
  split
  · exact silent_raised _
  · split
    · exact silent_raised _
    · exact silent_ok _

theorem silent_escalationOf (budgets : Budgets) (state : GraphState) :
    Silent (escalationOf budgets state) := by
  unfold escalationOf
  split
  · split
    · exact silent_ok _
    · rename_i escape hleft
      exact silent_passed (silent_toolsLeft _ _) hleft
  · rename_i escape hreceipts
    exact silent_passed (silent_rebuildReceipts _) hreceipts
  · exact silent_raised _

theorem silent_buildEscalation (state : GraphState) : Silent (buildEscalation state) := by
  unfold buildEscalation
  split
  · exact silent_ok _
  split
  · exact silent_raised _
  split
  · exact silent_ok _
  · exact silent_raised _

theorem silent_buildReport (budgets : Budgets) (state : GraphState) (finishedAt : Time)
    (force : Option ReasonCode) : Silent (buildReport budgets state finishedAt force) := by
  unfold buildReport
  split
  · rename_i escape hreceipts
    exact silent_passed (silent_rebuildReceipts _) hreceipts
  split
  · rename_i escape hstore
    exact silent_passed (silent_rebuildRecords _) hstore
  split
  · rename_i escape hescalation
    exact silent_passed (silent_buildEscalation _) hescalation
  · unfold finishReport
    split
    · exact silent_ok _
    · exact silent_raised _

end Rebuilding

section Asking

variable {α : Type} {context : StageContext}

theorem silent_renderStageRequest (context : StageContext) (asking : Asking)
    (repairErrors : Option String) : Silent (renderStageRequest context asking repairErrors) := by
  unfold renderStageRequest
  split
  · exact silent_ok _
  · rename_i escape hleft
    exact silent_passed (silent_toolsLeft _ _) hleft
  · rename_i escape hnotes _
    exact silent_passed (silent_deniedCheckNotes _ _) hnotes
  · rename_i escape hsearches _ _
    exact silent_passed (silent_runbookSearchesLeft _ _) hsearches

theorem silent_askOnce (context : StageContext) (asking : Asking) (repairErrors : Option String) {reply : Reply α}
    (hreply : ∀ request, Silent (reply request)) :
    Silent (askOnce context asking repairErrors reply).2 := by
  unfold askOnce
  split
  · rename_i escape hrender
    exact silent_passed (silent_renderStageRequest _ _ _) hrender
  · split
    · rename_i escape hanswer
      exact silent_passed (hreply _) hanswer
    · exact silent_ok _

theorem silent_askWithRepair (startedAt reading : Time) (asking : Asking) {first second : Reply α}
    (hfirst : ∀ request, Silent (first request)) (hsecond : ∀ request, Silent (second request)) :
    Silent (askWithRepair context startedAt reading asking first second).2 := by
  unfold askWithRepair
  split
  · exact silent_ok _
  split
  · exact silent_ok _
  split
  · rename_i asked escape hask
    have hsilent := silent_askOnce context asking none hfirst
    rw [hask] at hsilent
    exact silent_passed hsilent rfl
  · exact silent_ok _
  · rename_i asked errors _
    dsimp only
    split
    · exact silent_ok _
    · split
      · rename_i again escape hask
        have hsilent := silent_askOnce context
          (asked.invalid context.stage errors).repair (some errors) hsecond
        rw [hask] at hsilent
        exact silent_passed hsilent rfl
      · exact silent_ok _
      · exact silent_ok _

end Asking

section Dispatching

variable {outside : Outside}

theorem silent_settledOutcome (result : DispatchResult) :
    Silent (settledOutcome outside result) := by
  unfold settledOutcome
  split
  · exact silent_raised _
  · exact silent_ok _

theorem silent_settle (ledger : ReservationLedger) (receiptId : String) (outcome : ToolOutcome)
    (reasonCode : Option ReasonCode) (durationMs : ℤ) (resultDigest evidenceId : Option String)
    (evidence : Option Evidence) :
    Silent (ledger.settle receiptId outcome reasonCode durationMs resultDigest evidenceId
      evidence) := by
  unfold ReservationLedger.settle
  split
  · exact silent_raised _
  split
  · exact silent_raised _
  split
  · exact silent_raised _
  · dsimp only
    split <;> exact silent_ok _

theorem silent_finishSearch (hsearch : Silent outside.search) (ledger : ReservationLedger)
    (receiptId : String) : Silent (finishSearch outside ledger receiptId).2 := by
  unfold finishSearch
  split
  · rename_i escape hfound
    exact silent_passed hsearch hfound
  split
  · rename_i escape hsettle
    exact silent_passed (silent_settle _ _ _ _ _ _ _ _) hsettle
  · exact silent_settledOutcome _

theorem silent_finishCheck (hashing : Hashing) (scope : IncidentScope)
    (hcheck : Silent outside.check) (ledger : ReservationLedger) (receiptId : String) :
    Silent (finishCheck hashing scope outside ledger receiptId).2 := by
  unfold finishCheck
  split
  · rename_i escape hfound
    exact silent_passed hcheck hfound
  split
  · split
    · rename_i escape hevidence
      refine silent_passed ?_ hevidence
      unfold buildEvidence
      split
      · exact silent_ok _
      · exact silent_raised _
    split
    · rename_i escape hsettle
      exact silent_passed (silent_settle _ _ _ _ _ _ _ _) hsettle
    · exact silent_settledOutcome _
  · split
    · rename_i escape hsettle
      exact silent_passed (silent_settle _ _ _ _ _ _ _ _) hsettle
    · exact silent_settledOutcome _

theorem silent_dispatch (hashing : Hashing) (proposal : ToolProposal) (scope : IncidentScope)
    (seen : Finset String) (budgets : Budgets) (ledger : ReservationLedger)
    (hcheck : Silent outside.check) (hsearch : Silent outside.search) :
    Silent (dispatch hashing proposal scope seen budgets ledger outside).outcome := by
  unfold dispatch
  dsimp only
  split
  · exact silent_raised _
  split
  · split
    · rename_i escape hrecord
      refine silent_passed ?_ hrecord
      unfold ReservationLedger.record
      split
      · exact silent_raised _
      split
      · exact silent_raised _
      split
      · exact silent_raised _
      · exact silent_ok _
    · exact silent_settledOutcome _
  · split
    · exact silent_raised _
    · dsimp only
      split
      · exact silent_finishSearch hsearch _ _
      · exact silent_finishCheck hashing scope hcheck _ _

end Dispatching

section Nodes

variable {setting : Setting} {state : GraphState} {turn : Turn}

theorem investigated_unsignalled {stage : Stage}
    {asked : Asking × Except Escape (Option (Plan × Option ToolProposal))}
    (hsilent : Silent asked.2) : investigated state stage asked ≠ .escaped .bubbled := by
  unfold investigated
  split
  · nofun
  · nofun
  · rename_i hasked
    exact absurd hasked hsilent
  · nofun
  · nofun

theorem assessed_unsignalled {store : EvidenceStore}
    {asked : Asking × Except Escape (Option FinalAssessment)} (hsilent : Silent asked.2) :
    assessed state store asked ≠ .escaped .bubbled := by
  unfold assessed
  split
  · split <;> nofun
  · dsimp only
    split <;> nofun
  · rename_i hasked
    exact absurd hasked hsilent
  · nofun
  · nofun

theorem dispatchedLeft_unsignalled {proposal : ToolProposal} {outside : Outside}
    {dispatched : Dispatched} (hsilent : Silent dispatched.outcome) :
    dispatchedLeft state proposal outside dispatched ≠ .escaped .bubbled := by
  unfold dispatchedLeft
  dsimp only
  split
  · rename_i houtcome
    exact absurd houtcome hsilent
  · nofun
  · split <;> nofun

theorem escapedAtOnce_unsignalled {escape : Escape} (h : escape ≠ .bubbled) :
    (escapedAtOnce escape).left ≠ .escaped .bubbled :=
  fun hleft => h (Left.escaped.inj hleft)

theorem perform_unsignalled (h : Unsignalled turn) (node : Node) (state : GraphState)
    (resumes : List Json) :
    (perform setting node state resumes turn).left ≠ .escaped .bubbled := by
  have hreceipts := silent_rebuildReceipts state
  have hrecords := silent_rebuildRecords state
  cases node with
  | investigate =>
      simp only [perform, investigate]
      split
      · exact investigated_unsignalled (silent_askWithRepair _ _ _
          (fun request => silent_map _ (h.firstProposal request))
          fun request => silent_map _ (h.secondProposal request))
      · rename_i escape herror
        exact escapedAtOnce_unsignalled (silent_error hreceipts herror)
      · rename_i escape herror _
        exact escapedAtOnce_unsignalled (silent_error hrecords herror)
  | dispatchTool =>
      simp only [perform, dispatchTool]
      split
      · intro hleft
        cases hleft
      split
      · rename_i escape herror
        exact escapedAtOnce_unsignalled (silent_error hreceipts herror)
      split
      · rename_i escape herror
        exact escapedAtOnce_unsignalled (silent_error (silent_rebuildLedger _ _) herror)
      split
      · intro hleft
        cases hleft
      · exact dispatchedLeft_unsignalled (silent_dispatch _ _ _ _ _ _ h.check h.search)
  | normalizeEvidence =>
      intro hleft
      cases hleft
  | finalAssessment =>
      simp only [perform, finalAssessment]
      split
      · exact assessed_unsignalled (silent_askWithRepair _ _ _
          (fun request => silent_map _ (h.firstResponse request))
          fun request => silent_map _ (h.secondResponse request))
      · rename_i escape herror
        exact escapedAtOnce_unsignalled (silent_error hreceipts herror)
      · rename_i escape herror _
        exact escapedAtOnce_unsignalled (silent_error hrecords herror)
  | escalationInterrupt =>
      simp only [perform, escalationInterrupt]
      split
      · split
        · intro hleft
          cases hleft
        · intro hleft
          cases hleft
      · intro hleft
        cases hleft
      · rename_i escape herror
        exact escapedAtOnce_unsignalled (silent_error (silent_escalationOf _ _) herror)
      · rename_i escape herror _
        exact escapedAtOnce_unsignalled (silent_error hrecords herror)
  | finalReport =>
      simp only [perform, finalReport]
      split
      · rename_i escape herror
        exact escapedAtOnce_unsignalled (silent_error (silent_buildReport _ _ _ _) herror)
      · intro hleft
        cases hleft

theorem silent_route (node : Node) (state : GraphState) (reading : Time) :
    Silent (route setting node state reading) := by
  cases node with
  | investigate => exact silent_ok _
  | dispatchTool => exact silent_ok _
  | normalizeEvidence =>
      refine silent_map _ ?_
      unfold routeAfterNormalize
      split
      · exact silent_ok _
      split
      · rename_i escape herror
        exact silent_passed (silent_rebuildReceipts _) herror
      split
      · rename_i escape herror
        exact silent_passed (silent_toolsLeft _ _) herror
      · split <;> exact silent_ok _
  | finalAssessment =>
      refine silent_map _ ?_
      unfold routeAfterFinalAssessment
      split
      · exact silent_ok _
      split
      · exact silent_ok _
      split
      · rename_i escape herror
        exact silent_passed (silent_escalationOf _ _) herror
      · exact silent_ok _
      · exact silent_ok _
  | escalationInterrupt => exact silent_ok _
  | finalReport => exact silent_ok _

theorem raises_unsignalled {thread : Thread} {node : Node} {escape : Escape}
    (h : Unsignalled turn) (hraises : Raises setting thread node turn escape) :
    escape ≠ .bubbled := by
  cases hraises with
  | node escape hleft =>
      rintro rfl
      exact perform_unsignalled h node thread.state thread.resumes hleft
  | fault name hfault => nofun
  | route state escape hleft hroute => exact silent_error (silent_route _ _ _) hroute

theorem steps_unsignalled {thread : Thread} {turns : List Turn}
    (hstart : ∀ node, thread.position ≠ .raised node .bubbled)
    (h : ∀ turn ∈ turns, Unsignalled turn) (node : Node) :
    (after setting thread (turns.map .step)).position ≠ .raised node .bubbled := by
  have hadmitted : Machine.Admits (act setting) (Meets fun _ turn => Unsignalled turn) thread
      (turns.map .step) := by
    refine Machine.admits_of_forall _ _ ?_
    intro step hstep thread
    obtain ⟨turn, hturn, rfl⟩ := List.mem_map.1 hstep
    exact fun _ => h turn hturn
  refine @steps_invariant setting (fun _ turn => Unsignalled turn)
    (fun thread => ∀ node, thread.position ≠ .raised node .bubbled) ?_ thread hstart turns
    hadmitted node
  · intro thread node turn next _ _ hturn hsteps other hposition
    cases hsteps with
    | raised escape hraises =>
        obtain ⟨-, hescape⟩ := Position.raised.inj hposition
        exact raises_unsignalled hturn hraises hescape
    | paused payload hleft => cases hposition
    | ended state hleft hroute => cases hposition
    | moved state following hleft hroute => cases hposition

end Nodes

end CausalOps.Investigation
