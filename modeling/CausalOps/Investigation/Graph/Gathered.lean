import CausalOps.Investigation.Graph.Contained

set_option autoImplicit false

/-! Receipts, evidence, passages and the retrieval mode are written in different places.
They agree in every state unless an exception strikes after a search was settled. -/

namespace CausalOps.Investigation

variable {setting : Setting} {state state' : GraphState} {thread next : Thread} {node : Node}
  {turn : Turn}

section Records

/-- A diagnostic check that was executed, and so must have become evidence. -/
def isExecutedCheck (receipt : ToolReceipt) : Bool :=
  receipt.tool ≠ .searchRunbooks && receipt.outcome = some .executed

def isSettledSearch (receipt : ToolReceipt) : Bool :=
  countsAsExecuted receipt && ReservationLedger.isRunbook receipt

def receiptMark (receipt : ToolReceipt) : Option String × Option String × Option String :=
  (some receipt.receiptId, receipt.evidenceId, receipt.resultDigest)

def evidenceMark (record : Evidence) : Option String × Option String × Option String :=
  (record.receiptId, some record.evidenceId, some record.contentHash)

def EvidenceOf (evidence : List Evidence) (receipt : ToolReceipt) (record : Evidence) : Prop :=
  (evidence.filter fun other => other.receiptId = some receipt.receiptId) = [record] ∧
    receipt.evidenceId = some record.evidenceId ∧
    receipt.resultDigest = some record.contentHash

/-- The search that a dispatch settled: its entry, and what its backend found. -/
def SearchOf (setting : Setting) (journal : List Entry) (receipt : ToolReceipt)
    (found : RunbookCheckOutcome) : Prop :=
  ∃ entry ∈ journal, entry.node = .dispatchTool ∧ entry.turn.outside.search = .ok found ∧
    ∃ proposal, entry.before.pendingProposal = some proposal ∧
      receipt = settledFor setting entry.before proposal entry.turn.outside found.outcome
        found.reasonCode found.durationMs none none

/-- The executed checks and the gathered evidence of a state belong to each other. -/
structure EvidenceComplete (thread : Thread) : Prop where
  evidence : ∀ receipt ∈ thread.state.receipts, isExecutedCheck receipt = true →
    ∃ record, EvidenceOf thread.state.evidence receipt record
  receipts : ∀ record ∈ thread.state.evidence, ∀ receiptId, record.receiptId = some receiptId →
    ∃ receipt ∈ thread.state.receipts, receipt.receiptId = receiptId ∧
      isExecutedCheck receipt = true ∧ EvidenceOf thread.state.evidence receipt record

structure Complete (setting : Setting) (thread : Thread) : Prop
    extends EvidenceComplete thread where
  passages : ∀ receipt ∈ thread.state.receipts, isSettledSearch receipt = true →
    ∃ found, SearchOf setting thread.journal receipt found ∧
      ∀ passage ∈ found.passages, passage ∈ thread.state.runbookPassages
  mode : thread.state.retrievalMode ≠ .disabled ↔
    ∃ receipt ∈ thread.state.receipts, isSettledSearch receipt = true

/-- An exception strikes the dispatching node after its search was settled. -/
def LosesSearch (setting : Setting) (thread : Thread) (turn : Turn) : Prop :=
  thread.position = .running .dispatchTool ∧ StrikesLate turn.outside ∧
    ∃ proposal found, thread.state.pendingProposal = some proposal ∧
      AllowedCheck setting thread.state (proposedCheck setting proposal) ∧
      (proposedCheck setting proposal).tool = .searchRunbooks ∧
      turn.outside.search = .ok found ∧ 0 ≤ found.durationMs

/-- No step loses a search, and the backends report the mode in which they are
configured. -/
def KeepsSearches (setting : Setting) (thread : Thread) (turn : Turn) : Prop :=
  Fresh thread turn ∧ ¬ LosesSearch setting thread turn ∧
    ∀ found, turn.outside.search = .ok found → found.retrievalMode ≠ .disabled

end Records

section Matched

/-- The gathered evidence stands in the order of the receipts that it belongs to. -/
def Matched (setting : Setting) (receipts : List ToolReceipt) (evidence : List Evidence) : Prop :=
  ∃ gathered, evidence = setting.incident.evidence ++ gathered ∧
    gathered.map evidenceMark = (receipts.filter isExecutedCheck).map receiptMark

variable {receipts : List ToolReceipt} {evidence : List Evidence} {proposal : ToolProposal}
  {passages : List RunbookPassage} {mode : RetrievalMode} {failed : Bool}

theorem isExecutedCheck_search {receipt : ToolReceipt} (h : receipt.tool = .searchRunbooks) :
    isExecutedCheck receipt = false := by
  simp [isExecutedCheck, h]

theorem isExecutedCheck_outcome {receipt : ToolReceipt} (h : receipt.outcome ≠ some .executed) :
    isExecutedCheck receipt = false := by
  simp [isExecutedCheck, h]

theorem growth_matched {outside : Outside}
    (h : Growth setting state proposal outside receipts evidence passages mode failed) :
    evidence.map evidenceMark = (receipts.filter isExecutedCheck).map receiptMark := by
  cases h with
  | nothing => rfl
  | denied _ hdenied =>
      rw [List.filter_cons_of_neg (by simp [isExecutedCheck_outcome, deniedFor, deniedNow,
        deniedReceipt])]
      rfl
  | reserved hallowed =>
      rw [List.filter_cons_of_neg (by simp [isExecutedCheck_outcome, reservedFor, reservedNow,
        ReservationLedger.reservedReceipt])]
      rfl
  | searched found hallowed htool hfound hduration =>
      rw [List.filter_cons_of_neg (by
        rw [isExecutedCheck_search htool]
        exact Bool.false_ne_true)]
      rfl
  | lost found hallowed htool hfound hduration hstrike =>
      rw [List.filter_cons_of_neg (by
        rw [isExecutedCheck_search htool]
        exact Bool.false_ne_true)]
      rfl
  | failed found _ hallowed htool hfound hnot =>
      have houtcome : (settledFor setting state proposal outside found.outcome found.reasonCode
          found.durationMs none none).outcome ≠ some .executed :=
        fun heq => hnot (Option.some.inj heq)
      rw [List.filter_cons_of_neg (by
        rw [isExecutedCheck_outcome houtcome]
        exact Bool.false_ne_true)]
      rfl
  | executed found record _ hallowed htool hfound hexecuted hevidence =>
      obtain ⟨hid, -, hreceipt, -⟩ := buildEvidence_ok hevidence
      have hcheck : isExecutedCheck (settledFor setting state proposal outside .executed
          found.reasonCode found.durationMs (some record.contentHash)
          (some record.evidenceId)) = true := by
        have htool' : (settledFor setting state proposal outside .executed
          found.reasonCode found.durationMs (some record.contentHash)
          (some record.evidenceId)).tool ≠ .searchRunbooks := htool
        simp only [isExecutedCheck, Bool.and_eq_true, decide_eq_true_eq]
        exact ⟨htool', rfl⟩
      rw [List.filter_cons_of_pos hcheck]
      simp only [List.map_cons, List.map_nil, List.filter_nil, evidenceMark, hreceipt]
      rfl

theorem Matched.append {receipts' : List ToolReceipt} {evidence' : List Evidence}
    (h : Matched setting receipts evidence)
    (hmore : evidence'.map evidenceMark = (receipts'.filter isExecutedCheck).map receiptMark) :
    Matched setting (receipts ++ receipts') (evidence ++ evidence') := by
  obtain ⟨gathered, rfl, hmatched⟩ := h
  refine ⟨gathered ++ evidence', by simp, ?_⟩
  rw [List.map_append, List.filter_append, List.map_append, hmatched, hmore]

/-- The records under one receipt id, when the incident's own carry none. -/
theorem filter_of_matched {gathered : List Evidence} {executed : List ToolReceipt}
    (hkeyed : Rows.Keyed ToolReceipt.receiptId executed)
    (hmatched : gathered.map evidenceMark = executed.map receiptMark) {receipt : ToolReceipt}
    (hmem : receipt ∈ executed) :
    ∃ record, (gathered.filter fun other => other.receiptId = some receipt.receiptId) = [record] ∧
      evidenceMark record = receiptMark receipt := by
  induction gathered generalizing executed with
  | nil =>
      have hnil := List.map_eq_nil_iff.1 hmatched.symm
      rw [hnil] at hmem
      cases hmem
  | cons record rest ih =>
      cases executed with
      | nil => cases hmem
      | cons first others =>
          obtain ⟨hfirst, hothers⟩ := List.cons.inj hmatched
          have hid : record.receiptId = some first.receiptId := congrArg Prod.fst hfirst
          have hnodup : (first.receiptId :: others.map ToolReceipt.receiptId).Nodup := hkeyed
          obtain ⟨hnew, hdistinct⟩ := List.nodup_cons.1 hnodup
          rcases List.mem_cons.1 hmem with rfl | hlater
          · -- no later record carries the id of the first receipt
            have hnone : (rest.filter fun other => other.receiptId = some receipt.receiptId) =
                [] := by
              refine List.filter_eq_nil_iff.2 fun other hother heq => ?_
              have hmark : evidenceMark other ∈ others.map receiptMark :=
                hothers ▸ List.mem_map_of_mem hother
              obtain ⟨later, hlater, hlatermark⟩ := List.mem_map.1 hmark
              have hlaterid : some later.receiptId = other.receiptId :=
                congrArg Prod.fst hlatermark
              have hsame : later.receiptId = receipt.receiptId :=
                Option.some.inj (hlaterid.trans (of_decide_eq_true heq))
              exact hnew (hsame ▸ List.mem_map_of_mem hlater)
            refine ⟨record, ?_, hfirst⟩
            rw [List.filter_cons_of_pos (by simpa using hid), hnone]
          · obtain ⟨found, hfound, hmark⟩ := ih hdistinct hothers hlater
            refine ⟨found, ?_, hmark⟩
            have hne : ¬ record.receiptId = some receipt.receiptId := by
              rw [hid]
              intro heq
              exact hnew (Option.some.inj heq ▸ List.mem_map_of_mem hlater)
            rw [List.filter_cons_of_neg (by simpa using hne), hfound]

theorem evidenceOf_matched (hreceiptless : ∀ record ∈ setting.incident.evidence,
      record.receiptId = none)
    (hkeyed : Rows.Keyed ToolReceipt.receiptId receipts) (h : Matched setting receipts evidence)
    {receipt : ToolReceipt} (hmem : receipt ∈ receipts) (hexecuted : isExecutedCheck receipt = true) :
    ∃ record, EvidenceOf evidence receipt record := by
  obtain ⟨gathered, rfl, hmatched⟩ := h
  obtain ⟨record, hfilter, hmark⟩ := filter_of_matched
    (hkeyed.of_sublist List.filter_sublist) hmatched (List.mem_filter.2 ⟨hmem, hexecuted⟩)
  have hown : (setting.incident.evidence.filter fun other =>
      other.receiptId = some receipt.receiptId) = [] := by
    refine List.filter_eq_nil_iff.2 fun other hother heq => ?_
    rw [hreceiptless other hother] at heq
    cases of_decide_eq_true heq
  refine ⟨record, by rw [List.filter_append, hown, hfilter]; rfl, ?_, ?_⟩
  · exact (congrArg (fun mark => mark.2.1) hmark).symm
  · exact (congrArg (fun mark => mark.2.2) hmark).symm

theorem receiptOf_matched (hreceiptless : ∀ record ∈ setting.incident.evidence,
      record.receiptId = none)
    (hkeyed : Rows.Keyed ToolReceipt.receiptId receipts) (h : Matched setting receipts evidence)
    {record : Evidence} (hmem : record ∈ evidence) {receiptId : String}
    (hid : record.receiptId = some receiptId) :
    ∃ receipt ∈ receipts, receipt.receiptId = receiptId ∧ isExecutedCheck receipt = true ∧
      EvidenceOf evidence receipt record := by
  have hall := h
  obtain ⟨gathered, rfl, hmatched⟩ := h
  rcases List.mem_append.1 hmem with hown | hgathered
  · rw [hreceiptless record hown] at hid
    cases hid
  · have hmark : evidenceMark record ∈ (receipts.filter isExecutedCheck).map receiptMark :=
      hmatched ▸ List.mem_map_of_mem hgathered
    obtain ⟨receipt, hreceipt, hsame⟩ := List.mem_map.1 hmark
    obtain ⟨hreceipt, hexecuted⟩ := List.mem_filter.1 hreceipt
    have hreceiptId : some receipt.receiptId = record.receiptId := congrArg Prod.fst hsame
    obtain ⟨found, hfound, hevidenceId, hdigest⟩ :=
      evidenceOf_matched hreceiptless hkeyed hall hreceipt hexecuted
    have hself : record ∈ ((setting.incident.evidence ++ gathered).filter fun other =>
        other.receiptId = some receipt.receiptId) :=
      List.mem_filter.2 ⟨hmem, decide_eq_true hreceiptId.symm⟩
    rw [hfound] at hself
    obtain rfl := List.mem_singleton.1 hself
    exact ⟨receipt, hreceipt, Option.some.inj (hreceiptId.trans hid), hexecuted, hfound,
      hevidenceId, hdigest⟩

end Matched

section Gathered

/-- The invariant behind `EvidenceComplete`. -/
structure Evidenced (setting : Setting) (thread : Thread) : Prop where
  sound : Sound setting thread.state
  matched : Matched setting thread.state.receipts thread.state.evidence

/-- The invariant behind `Complete`. -/
structure Gathered (setting : Setting) (thread : Thread) : Prop
    extends Evidenced setting thread where
  passages : ∀ receipt ∈ thread.state.receipts, isSettledSearch receipt = true →
    ∃ found, SearchOf setting thread.journal receipt found ∧
      ∀ passage ∈ found.passages, passage ∈ thread.state.runbookPassages
  mode : thread.state.retrievalMode ≠ .disabled ↔
    ∃ receipt ∈ thread.state.receipts, isSettledSearch receipt = true

theorem SearchOf.append {journal : List Entry} {receipt : ToolReceipt}
    {found : RunbookCheckOutcome} (h : SearchOf setting journal receipt found) (entry : Entry) :
    SearchOf setting (journal ++ [entry]) receipt found := by
  obtain ⟨made, hmade, hrest⟩ := h
  exact ⟨made, List.mem_append_left _ hmade, hrest⟩

theorem isSettledSearch_denied {outside : Outside} {proposal : ToolProposal} :
    isSettledSearch (deniedFor setting state proposal outside) = false := rfl

theorem isSettledSearch_reserved {outside : Outside} {proposal : ToolProposal} :
    isSettledSearch (reservedFor setting state proposal outside) = false := rfl

theorem isSettledSearch_check {receipt : ToolReceipt} (h : receipt.tool ≠ .searchRunbooks) :
    isSettledSearch receipt = false := by
  simp [isSettledSearch, ReservationLedger.isRunbook, h]

/-- A dispatch that does not lose a search adds a settled search with its passages and
its mode, or no settled search at all. -/
theorem growth_searches {proposal : ToolProposal} {receipts : List ToolReceipt}
    {evidence : List Evidence} {passages : List RunbookPassage} {mode : RetrievalMode}
    {failed : Bool} (hpending : thread.state.pendingProposal = some proposal)
    (hrunning : thread.position = .running .dispatchTool)
    (hkeeps : KeepsSearches setting thread turn)
    (h : Growth setting thread.state proposal turn.outside receipts evidence passages mode
      failed) :
    ((∀ receipt ∈ receipts, isSettledSearch receipt = false) ∧ passages = [] ∧
        mode = thread.state.retrievalMode) ∨
      ∃ found, turn.outside.search = .ok found ∧ passages = found.passages ∧ mode ≠ .disabled ∧
        receipts = [settledFor setting thread.state proposal turn.outside found.outcome
          found.reasonCode found.durationMs none none] ∧
        ∀ receipt ∈ receipts, isSettledSearch receipt = true := by
  cases h with
  | nothing => exact Or.inl ⟨fun _ hmem => absurd hmem List.not_mem_nil, rfl, rfl⟩
  | denied _ hdenied =>
      refine Or.inl ⟨fun receipt hmem => ?_, rfl, rfl⟩
      rw [List.mem_singleton.1 hmem]
      exact isSettledSearch_denied
  | reserved hallowed =>
      refine Or.inl ⟨fun receipt hmem => ?_, rfl, rfl⟩
      rw [List.mem_singleton.1 hmem]
      exact isSettledSearch_reserved
  | searched found hallowed htool hfound hduration =>
      refine Or.inr ⟨found, hfound, rfl, hkeeps.2.2 found hfound, rfl, fun receipt hmem => ?_⟩
      rw [List.mem_singleton.1 hmem]
      have htool' : (settledFor setting thread.state proposal turn.outside found.outcome
        found.reasonCode found.durationMs none none).tool = .searchRunbooks := htool
      simp only [isSettledSearch, ReservationLedger.isRunbook, htool', decide_true, Bool.and_true]
      rfl
  | lost found hallowed htool hfound hduration hstrike =>
      exact absurd ⟨hrunning, hstrike, proposal, found, hpending, hallowed, htool, hfound,
        hduration⟩ hkeeps.2.1
  | failed found _ hallowed htool hfound hnot =>
      refine Or.inl ⟨fun receipt hmem => ?_, rfl, rfl⟩
      rw [List.mem_singleton.1 hmem]
      exact isSettledSearch_check htool
  | executed found record _ hallowed htool hfound hexecuted hevidence =>
      refine Or.inl ⟨fun receipt hmem => ?_, rfl, rfl⟩
      rw [List.mem_singleton.1 hmem]
      exact isSettledSearch_check htool

theorem Evidenced.complete (h : Evidenced setting thread)
    (hreceiptless : ∀ record ∈ setting.incident.evidence, record.receiptId = none) :
    EvidenceComplete thread :=
  ⟨fun _ hmem hexecuted =>
      evidenceOf_matched hreceiptless h.sound.receiptsKeyed h.matched hmem hexecuted,
    fun _ hmem _ hid =>
      receiptOf_matched hreceiptless h.sound.receiptsKeyed h.matched hmem hid⟩

/-- A node that goes on, whatever strikes it, keeps receipts and evidence together. -/
theorem Evidenced.updated (h : Evidenced setting thread) (hfresh : Fresh thread turn)
    (hleft : (perform setting node thread.state thread.resumes turn).left = .updated state')
    (position : Position) (resumes : List Json) (journal : List Entry) :
    Evidenced setting ⟨state', position, resumes, journal⟩ := by
  refine ⟨h.sound.perform hfresh hleft, ?_⟩
  by_cases hnode : node = .dispatchTool
  · subst hnode
    obtain ⟨proposal, receipts, evidence, passages, mode, failed, hdispatches⟩ :=
      dispatchTool_dispatches h.sound.receiptsOfState h.sound.receiptsKeyed hfresh.1 hleft
    change Matched setting state'.receipts state'.evidence
    rw [hdispatches.receiptsNow, hdispatches.evidenceNow]
    exact h.matched.append (growth_matched hdispatches.growth)
  · have hkeeps := perform_keeps hnode hleft
    change Matched setting state'.receipts state'.evidence
    rw [hkeeps.receipts, hkeeps.evidence]
    exact h.matched

theorem Evidenced.step (h : Evidenced setting thread) (hfresh : Fresh thread turn)
    (hsteps : Steps setting thread node turn next) : Evidenced setting next := by
  cases hsteps with
  | raised escape hraises => exact ⟨h.sound, h.matched⟩
  | paused payload hpaused => exact ⟨h.sound, h.matched⟩
  | ended state hleft hroute => exact h.updated hfresh hleft _ _ _
  | moved state following hleft hroute => exact h.updated hfresh hleft _ _ _

theorem evidenced_start (hdistinct : DistinctRecords setting) (investigationId runId : String)
    (startedAt : Time) :
    Evidenced setting (Thread.start setting investigationId runId startedAt) :=
  ⟨sound_created hdistinct investigationId runId startedAt,
    [], by simp [Thread.start, createdState], rfl⟩

theorem Gathered.keeps (h : Gathered setting thread) (hkeeps : Keeps thread.state state')
    (entry : Entry) (position : Position)
    (hevidenced : Evidenced setting
      ⟨state', position, thread.resumes, thread.journal ++ [entry]⟩) :
    Gathered setting ⟨state', position, thread.resumes, thread.journal ++ [entry]⟩ := by
  refine ⟨hevidenced, ?_, ?_⟩
  · rw [hkeeps.receipts, hkeeps.passages]
    intro receipt hmem hsettled
    obtain ⟨found, hfound, hpassages⟩ := h.passages receipt hmem hsettled
    exact ⟨found, hfound.append entry, hpassages⟩
  · rw [hkeeps.receipts, hkeeps.mode]
    exact h.mode

theorem Gathered.dispatch {proposal : ToolProposal} {receipts : List ToolReceipt}
    {evidence : List Evidence} {passages : List RunbookPassage} {mode : RetrievalMode}
    {failed : Bool} {requests : List ModelRequest} {called : Option ToolArguments}
    (h : Gathered setting thread) (hrunning : thread.position = .running .dispatchTool)
    (hkeeps : KeepsSearches setting thread turn)
    (hdispatches : Dispatches setting thread.state turn.outside proposal receipts evidence passages
      mode failed state') (position : Position)
    (hevidenced : Evidenced setting ⟨state', position, thread.resumes,
      thread.journal ++ [⟨.dispatchTool, thread.state, turn, requests, called⟩]⟩) :
    Gathered setting ⟨state', position, thread.resumes,
      thread.journal ++ [⟨.dispatchTool, thread.state, turn, requests, called⟩]⟩ := by
  refine ⟨hevidenced, ?_, ?_⟩
  · rw [hdispatches.receiptsNow, hdispatches.passagesNow]
    intro receipt hmem hsettled
    rcases List.mem_append.1 hmem with hold | hnew
    · obtain ⟨found, hfound, hpassages⟩ := h.passages receipt hold hsettled
      exact ⟨found, hfound.append _, fun passage hpassage =>
        List.mem_append_left _ (hpassages passage hpassage)⟩
    · rcases growth_searches hdispatches.pending hrunning hkeeps hdispatches.growth with
        ⟨hnone, -, -⟩ | ⟨found, hfound, hpassages, -, hreceipts, -⟩
      · rw [hnone receipt hnew] at hsettled
        cases hsettled
      · rw [hreceipts] at hnew
        refine ⟨found, ⟨_, List.mem_append_right _ (List.mem_singleton.2 rfl), rfl, hfound,
          proposal, hdispatches.pending, List.mem_singleton.1 hnew⟩, fun passage hpassage => ?_⟩
        rw [hpassages]
        exact List.mem_append_right _ hpassage
  · rw [hdispatches.receiptsNow, hdispatches.modeNow]
    rcases growth_searches hdispatches.pending hrunning hkeeps hdispatches.growth with
      ⟨hnone, -, hmode⟩ | ⟨found, -, -, hmode, hreceipts, hall⟩
    · rw [hmode, h.mode]
      constructor
      · rintro ⟨receipt, hmem, hsettled⟩
        exact ⟨receipt, List.mem_append_left _ hmem, hsettled⟩
      · rintro ⟨receipt, hmem, hsettled⟩
        rcases List.mem_append.1 hmem with hold | hnew
        · exact ⟨receipt, hold, hsettled⟩
        · rw [hnone receipt hnew] at hsettled
          cases hsettled
    · refine iff_of_true hmode ?_
      rw [hreceipts] at hall ⊢
      exact ⟨_, List.mem_append_right _ (List.mem_singleton.2 rfl),
        hall _ (List.mem_singleton.2 rfl)⟩

theorem Gathered.updated (h : Gathered setting thread) (hrunning : thread.position = .running node)
    (hkeeps : KeepsSearches setting thread turn)
    (hleft : (perform setting node thread.state thread.resumes turn).left = .updated state')
    (position : Position) :
    Gathered setting ⟨state', position, thread.resumes, journalOf setting thread node turn⟩ := by
  have hevidenced := h.toEvidenced.updated hkeeps.1 hleft position thread.resumes
    (journalOf setting thread node turn)
  by_cases hnode : node = .dispatchTool
  · subst hnode
    obtain ⟨proposal, receipts, evidence, passages, mode, failed, hdispatches⟩ :=
      dispatchTool_dispatches h.sound.receiptsOfState h.sound.receiptsKeyed hkeeps.1.1 hleft
    exact h.dispatch hrunning hkeeps hdispatches position hevidenced
  · exact h.keeps (perform_keeps hnode hleft) _ position hevidenced

theorem Gathered.step (h : Gathered setting thread) (hrunning : thread.position = .running node)
    (hkeeps : KeepsSearches setting thread turn)
    (hsteps : Steps setting thread node turn next) : Gathered setting next := by
  have hsame : Keeps thread.state thread.state := ⟨rfl, rfl, rfl, rfl, rfl, rfl, rfl⟩
  cases hsteps with
  | raised escape hraises => exact h.keeps hsame _ _ ⟨h.sound, h.matched⟩
  | paused payload hpaused => exact h.keeps hsame _ _ ⟨h.sound, h.matched⟩
  | ended state hleft hroute => exact h.updated hrunning hkeeps hleft _
  | moved state following hleft hroute => exact h.updated hrunning hkeeps hleft _

theorem Gathered.run (hdistinct : DistinctRecords setting) (investigationId runId : String)
    (startedAt : Time) (acts : List Act)
    (hkeeps : Machine.Admits (act setting) (Meets (KeepsSearches setting))
      (Thread.start setting investigationId runId startedAt) acts) :
    Gathered setting
      (after setting (Thread.start setting investigationId runId startedAt) acts) := by
  refine after_invariant ?_ ?_ ?_ ?_ acts hkeeps
  · intro thread node turn next hrunning h hcondition hsteps
    exact h.step hrunning hcondition hsteps
  · intro thread value payload _ h
    exact ⟨⟨h.sound, h.matched⟩, h.passages, h.mode⟩
  · intro thread node escape _ h
    exact ⟨⟨h.sound, h.matched⟩, h.passages, h.mode⟩
  · refine ⟨evidenced_start hdistinct investigationId runId startedAt,
      fun _ hmem => absurd hmem List.not_mem_nil, ?_⟩
    refine iff_of_false (fun hmode => hmode rfl) ?_
    rintro ⟨receipt, hmem, -⟩
    exact absurd hmem List.not_mem_nil

/-- In every run the executed checks and the evidence belong to each other; in every run no step
of which loses a search, every record of every state is accounted for. -/
theorem complete_runs (setting : Setting) (hdistinct : DistinctRecords setting)
    (hreceiptless : ∀ record ∈ setting.incident.evidence, record.receiptId = none)
    (investigationId runId : String) (startedAt : Time) (acts : List Act)
    (hfresh : Machine.Admits (act setting) (Meets Fresh)
      (Thread.start setting investigationId runId startedAt) acts) :
    EvidenceComplete
        (after setting (Thread.start setting investigationId runId startedAt) acts) ∧
      (Machine.Admits (act setting) (Meets (KeepsSearches setting))
          (Thread.start setting investigationId runId startedAt) acts →
        Complete setting
          (after setting (Thread.start setting investigationId runId startedAt) acts)) := by
  have hevidenced : Evidenced setting
      (after setting (Thread.start setting investigationId runId startedAt) acts) := by
    refine after_invariant ?_ ?_ ?_ ?_ acts hfresh
    · exact fun thread node turn next _ h hcondition hsteps => h.step hcondition hsteps
    · exact fun thread value payload _ h => ⟨h.sound, h.matched⟩
    · exact fun thread node escape _ h => ⟨h.sound, h.matched⟩
    · exact evidenced_start hdistinct investigationId runId startedAt
  refine ⟨hevidenced.complete hreceiptless, fun hkeeps => ?_⟩
  have h := Gathered.run hdistinct investigationId runId startedAt acts hkeeps
  exact ⟨h.toEvidenced.complete hreceiptless, h.passages, h.mode⟩

/-- A search that was settled and recorded. -/
theorem complete_runs_searching : Complete labSetting
    (after labSetting labStart (List.replicate 2 (.step (searchingTurn none)))) := by
  refine (complete_runs labSetting labSetting_distinct (by decide) "investigation" "run" 0
    (List.replicate 2 (.step (searchingTurn none)))
    ⟨fun _ => by decide +kernel, fun _ => by decide +kernel, trivial⟩).2
    ⟨fun _ => ⟨by decide +kernel, ?_, ?_⟩, fun _ => ⟨by decide +kernel, ?_, ?_⟩, trivial⟩
  · rintro ⟨hposition, -⟩
    cases hposition
  · rintro found hfound
    cases hfound
    decide
  · rintro ⟨-, hstrikes, -⟩
    rcases hstrikes with hstrike | ⟨events, hstrike⟩ <;> cases hstrike
  · rintro found hfound
    cases hfound
    decide

/-- An exception after the search was settled: the report will be built from a state with
a settled search, without its passage and with retrieval disabled. -/
theorem complete_runs_lost :
    let thread := after labSetting labStart
      (List.replicate 3 (.step (searchingTurn (some .settled))))
    thread.position = .running .finalReport ∧ ¬ Complete labSetting thread := by
  refine ⟨by decide +kernel, fun hcomplete => ?_⟩
  have hdisabled : (after labSetting labStart
      (List.replicate 3 (.step (searchingTurn (some .settled))))).state.retrievalMode =
        .disabled := by decide +kernel
  exact hcomplete.mode.2 (by decide +kernel) hdisabled

end Gathered

end CausalOps.Investigation
