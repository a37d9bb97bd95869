import CausalOps.ControlPlane.Sqlite.Records

set_option autoImplicit false

/-! Calls issued one after another by a single caller. With nobody else at the ledger,
the ledger repeats what the tables say, and every method is a function of the tables. -/

namespace CausalOps.ControlPlane.Sqlite

section Answers

/-- `decide` as the tables alone determine it. -/
def decideAlone (ownerEmail investigationId : String) (d : OwnerDecision) (db : Database) :
    Except Refusal (Reply × Database) :=
  match owned db ownerEmail investigationId with
  | .error e => .error e
  | .ok job =>
      match db.decision investigationId with
      | some prior =>
          match decisionFromRow prior with
          | .error e => .error e
          | .ok mirroredDecision =>
              match presentCheckpoint job.checkpointId with
              | none => .error (.integrity "decision record has no paused checkpoint")
              | some checkpointId =>
                  if prior.checkpointId ≠ checkpointId then
                    .error (.integrity "decision record belongs to a different checkpoint")
                  else if mirroredDecision ≠ d then
                    .error (.conflict "a different owner decision is recorded")
                  else .ok (.view job.view, db)
      | none =>
          if job.status ≠ .pausedApproval then
            .error (.conflict "investigation is not waiting for a decision")
          else
            match presentCheckpoint job.checkpointId with
            | none => .error (.integrity "paused investigation has no checkpoint")
            | some checkpointId =>
                .ok (.view ⟨investigationId, .queued⟩,
                  queueDecided (insertMirror db investigationId checkpointId d)
                    investigationId checkpointId d)

def carriedDecision (db : Database) (id : String) : Option OwnerDecision :=
  (db.decision id).bind fun m => OwnerDecision.validate m.decision m.rejectionNote

/-- `claim_next` when no paused job has a decision. -/
def claimAlone (s : Settings) (a : Ambient) (db : Database) :
    Except Refusal (Reply × Database) :=
  let db := reclaimExpiredInvestigations s a.now db
  if db.jobs.any fun row => row.status = .running then .ok (.claim none, db)
  else if db.jobs.any (deferredScenario a.now) then .ok (.claim none, db)
  else
    match (db.jobs.filter (claimable a.now)).argmin claimOrder with
    | none => .ok (.claim none, db)
    | some row =>
        .ok (.claim (some (workerClaim row (carriedDecision db row.id) a.fresh.hex)),
          startClaim s a.now a.fresh.hex row db)

def answer (s : Settings) (a : Ambient) : Call → Database → Except Refusal (Reply × Database)
  | .create owner family key, db => create a.fresh owner family key db
  | .status owner id, db => status owner id db
  | .events owner id, db => events owner id db
  | .decide owner id d, db => decideAlone owner id d db
  | .report owner id, db => report s owner id db
  | .renewRunning id token, db => renewRunning s a.now id token db
  | .reserveIncident id token, db => reserveIncident a.now id token db
  | .scenarioStatus incident, db => scenarioStatus incident db
  | .incidentIdFor id, db => incidentIdFor id db
  | .claimNext, db => claimAlone s a db
  | .markPaused id checkpoint token, db => markPaused a.now id checkpoint token db
  | .requeueRunning id token, db => requeueRunning id token db
  | .retryRunning id token errorName, db => retryRunning s a.now id token errorName db
  | .finalize id artifact token, db => finalize s a id artifact token db
  | .claimDelivery, db => claimDelivery s a db
  | .markDelivered id token, db => markDelivered a.now id token db
  | .renewDelivery id token, db => renewDelivery s a.now id token db
  | .releaseDelivery id token, db => releaseDelivery id token db
  | .retryDelivery id token errorName, db => retryDelivery s a.now id token errorName db

/-- The tables after an answer: a refusal rolls back. -/
def settled (db : Database) : Except Refusal (Reply × Database) → Database
  | .ok answered => answered.2
  | .error _ => db

@[simp] theorem settled_ok (db db' : Database) (reply : Reply) :
    settled db (.ok (reply, db')) = db' := rfl

@[simp] theorem settled_error (db : Database) (e : Refusal) :
    settled db (.error e) = db := rfl

end Answers

section Linked

/-- The ledger holds the decision of a mirror row, and answers a read with it. -/
def OnRecord (ledger : Ledger) (m : MirrorRow) : Prop :=
  ∃ d row, m.toDecisionColumns = .of m.checkpointId d ∧
    readDecisionForThread ledger m.jobId = .ok (some row) ∧
      row.checkpointId = m.checkpointId ∧ row.matches d = true

/-- Tables and ledger, when all decisions came through `decide`. A job that was paused
again after its decision keeps the mirror row of the first pause. -/
structure Linked (ledger : Ledger) (db : Database) : Prop where
  checkpoint : ∀ row ∈ db.jobs, ∀ c, row.checkpointId = some c → c ≠ ""
  paused : ∀ row ∈ db.jobs, row.status = .pausedApproval → row.checkpointId ≠ none
  decided : ∀ m ∈ db.decisions, ∃ row, db.job m.jobId = some row ∧
    (row.status ≠ .pausedApproval → row.checkpointId = some m.checkpointId)
  recorded : ∀ m ∈ db.decisions, OnRecord ledger m
  unrecorded : ∀ id, db.decision id = none → readDecisionForThread ledger id = .ok none

variable {s : Settings} {ledger : Ledger} {db db' : Database} {id : String}

theorem linked_empty : Linked [] .empty :=
  ⟨by simp [Database.empty], by simp [Database.empty], by simp [Database.empty],
    by simp [Database.empty], fun _ _ => rfl⟩

def noDecision : Rules := ⟨⟨fun _ _ _ => True, fun _ => True⟩, fun _ _ _ => False⟩

/-- New columns for a job that was not paused, with its checkpoint unless it is paused. -/
theorem Linked.setJob (hkeys : Keys db) (hlinked : Linked ledger db) {row : JobRow}
    (hrow : db.job id = some row) {job : Job} (hid : job.id = row.id)
    (hbefore : row.status ≠ .pausedApproval)
    (hcase : (job.checkpointId = row.checkpointId ∧ job.status ≠ .pausedApproval) ∨
      ∃ c, c ≠ "" ∧ job.checkpointId = some c ∧ job.status = .pausedApproval) :
    Linked ledger (db.setJob id job) := by
  have hrows := @mem_setJob_jobs db id hkeys row hrow job
  refine ⟨?_, ?_, ?_, hlinked.recorded, hlinked.unrecorded⟩
  · intro r hr c hc
    rcases hrows.1 hr with rfl | ⟨hr, -⟩
    · rcases hcase with ⟨hsame, -⟩ | ⟨c', hne, hnew, -⟩
      · exact hlinked.checkpoint row (job_mem hrow) c (hsame.symm.trans hc)
      · exact Option.some.inj (hnew.symm.trans hc) ▸ hne
    · exact hlinked.checkpoint r hr c hc
  · intro r hr hpaused
    rcases hrows.1 hr with rfl | ⟨hr, -⟩
    · rcases hcase with ⟨-, hnot⟩ | ⟨c, -, hnew, -⟩
      · exact absurd hpaused hnot
      · intro hnone
        exact Option.some_ne_none c (hnew.symm.trans hnone)
    · exact hlinked.paused r hr hpaused
  · intro m hm
    obtain ⟨r, hr, hcheckpoint⟩ := hlinked.decided m hm
    by_cases heq : m.jobId = id
    · rw [heq, hrow] at hr
      cases hr
      refine ⟨{ row with toJob := job }, ?_, ?_⟩
      · rw [setJob_job hkeys hrow hid, if_pos heq]
      · intro hopen
        rcases hcase with ⟨hsame, -⟩ | ⟨c, -, -, hpaused⟩
        · exact hsame.trans (hcheckpoint hbefore)
        · exact absurd hpaused hopen
    · refine ⟨r, ?_, hcheckpoint⟩
      rw [setJob_job hkeys hrow hid, if_neg heq]
      exact hr

theorem Linked.emit (hlinked : Linked ledger db) (o : Option Occurrence) :
    Linked ledger (db.emit id o) := by
  cases o with
  | none => exact hlinked
  | some o =>
      exact ⟨hlinked.checkpoint, hlinked.paused, hlinked.decided, hlinked.recorded,
        hlinked.unrecorded⟩

theorem Linked.move (hkeys : Keys db) (hlinked : Linked ledger db)
    (h : Move s noDecision db db') : Linked ledger db' := by
  cases h with
  | created fresh owner family key habsent hkey =>
      refine ⟨?_, ?_, ?_, hlinked.recorded, hlinked.unrecorded⟩
      · intro r hr c hc
        rcases List.mem_append.1 hr with hr | hr
        · exact hlinked.checkpoint r hr c hc
        · obtain rfl := List.mem_singleton.1 hr
          cases hc
      · intro r hr hpaused
        rcases List.mem_append.1 hr with hr | hr
        · exact hlinked.paused r hr hpaused
        · obtain rfl := List.mem_singleton.1 hr
          cases hpaused
      · intro m hm
        obtain ⟨r, hr, hcheckpoint⟩ := hlinked.decided m hm
        refine ⟨r, ?_, hcheckpoint⟩
        have hlookup : Rows.lookup JobRow.key m.jobId db.jobs = some r := hr
        simp [Database.job, Database.insertJob, Rows.lookup_append, hlookup]
  | @job id row job o hrow hstep =>
      obtain ⟨hbefore, hcase⟩ := hstep.checkpoint_or_paused
      refine (hlinked.setJob hkeys hrow hstep.keeps.1 hbefore ?_).emit o
      rcases hcase with hsame | ⟨c, hpresent, -, hcheckpoint, hpaused⟩
      · exact .inl hsame
      · exact .inr ⟨c, strip_ne_empty hpresent, hcheckpoint, hpaused⟩
  | decided hrow hpaused hcheckpoint hpresent hrecorded hnone => exact hrecorded.elim
  | redecided hrow hpaused hcheckpoint hpresent hrecorded hmirrored => exact hrecorded.elim
  | @finalized id artifact content row path hrow hrunning hpath hblank habsent =>
      have hset : Linked ledger (db.setJob id (completedJob s row.toJob artifact content)) :=
        hlinked.setJob hkeys hrow rfl (by simp [hrunning]) (.inl ⟨rfl, by simp [completedJob]⟩)
      exact ⟨hset.checkpoint, hset.paused, hset.decided, hset.recorded, hset.unrecorded⟩
  | @delivery id row delivery o hrow hstep =>
      refine Linked.emit ?_ o
      exact ⟨hlinked.checkpoint, hlinked.paused, hlinked.decided, hlinked.recorded,
        hlinked.unrecorded⟩

theorem Linked.moves (hkeys : Keys db) (hlinked : Linked ledger db)
    (h : Moves s noDecision db db') : Linked ledger db' :=
  (h.preserve (fun _ _ hkeys hlinked hmove => hlinked.move hkeys hmove) hkeys hlinked).2

theorem newestRow_append_ne {row : LedgerRow} (hne : row.threadId ≠ id) :
    newestRow (ledger ++ [row]) id = newestRow ledger id := by
  simp [newestRow, List.filter_append, hne]

theorem newestRow_append_self {row : LedgerRow} (hnone : newestRow ledger row.threadId = none) :
    newestRow (ledger ++ [row]) row.threadId = some row := by
  have hothers : ledger.filter (fun old => old.threadId = row.threadId) = [] := by
    simpa [newestRow] using hnone
  simp [newestRow, List.filter_append, hothers]

theorem read_append_ne {row : LedgerRow} (hne : row.threadId ≠ id) :
    readDecisionForThread (ledger ++ [row]) id = readDecisionForThread ledger id := by
  simp only [readDecisionForThread, newestRow_append_ne hne]

theorem read_eq_none : readDecisionForThread ledger id = .ok none ↔ newestRow ledger id = none := by
  simp only [readDecisionForThread]
  cases hnewest : newestRow ledger id with
  | none => simp
  | some row =>
      cases hvalid : DecisionRow.validate row <;> simp [hvalid]

theorem read_append_self {c : String} {d : OwnerDecision} {decidedAt : Time}
    (hnone : readDecisionForThread ledger id = .ok none) :
    ∃ row, readDecisionForThread (ledger ++ [LedgerRow.of id c d decidedAt]) id = .ok (some row) ∧
      row.checkpointId = c ∧ row.matches d = true := by
  have hnewest : newestRow (ledger ++ [LedgerRow.of id c d decidedAt]) id =
      some (LedgerRow.of id c d decidedAt) :=
    newestRow_append_self (read_eq_none.1 hnone)
  refine ⟨⟨id, c, d.decision, d.rejectionNote, decidedAt, rowPaired_of_paired d.paired⟩, ?_,
    rfl, ?_⟩
  · simp only [readDecisionForThread, hnewest, DecisionRow.validate_of]
  · simp [DecisionRow.matches]

theorem Linked.decided_move (hkeys : Keys db) (hlinked : Linked ledger db) {row : JobRow}
    (hrow : db.job id = some row) {c : String} (hcheckpoint : row.checkpointId = some c)
    (hnone : db.decision id = none) (d : OwnerDecision) (decidedAt : Time) :
    Linked (ledger ++ [LedgerRow.of id c d decidedAt])
      (queueDecided (insertMirror db id c d) id c d) := by
  have hkeys' : Keys (insertMirror db id c d) := insertMirror_keys hkeys hnone
  have hrow' : (insertMirror db id c d).job id = some row := hrow
  have hjobs : ∀ r, r ∈ (queueDecided (insertMirror db id c d) id c d).jobs ↔
      r = { row with toJob := queuedJob row.toJob } ∨ (r ∈ db.jobs ∧ r.id ≠ id) := by
    intro r
    rw [queueDecided_jobs hkeys' hrow', mem_setJob_jobs hkeys' hrow']
    rfl
  have hjob : ∀ other, (queueDecided (insertMirror db id c d) id c d).job other =
      if other = id then some { row with toJob := queuedJob row.toJob } else db.job other :=
    fun other => queueDecided_job hkeys' hrow' other
  have hfresh : ∀ m ∈ db.decisions, m.jobId ≠ id := Rows.lookup_eq_none.1 hnone
  have hread := hlinked.unrecorded id hnone
  refine ⟨?_, ?_, ?_, ?_, ?_⟩
  · intro r hr c' hc'
    rcases (hjobs r).1 hr with rfl | ⟨hr, -⟩
    · exact hlinked.checkpoint row (job_mem hrow) c' hc'
    · exact hlinked.checkpoint r hr c' hc'
  · intro r hr hpaused
    rcases (hjobs r).1 hr with rfl | ⟨hr, -⟩
    · cases hpaused
    · exact hlinked.paused r hr hpaused
  · intro m hm
    rw [hjob]
    rcases List.mem_append.1 hm with hm | hm
    · obtain ⟨r, hr, hsame⟩ := hlinked.decided m hm
      exact ⟨r, by rw [if_neg (hfresh m hm)]; exact hr, hsame⟩
    · obtain rfl := List.mem_singleton.1 hm
      exact ⟨_, if_pos rfl, fun _ => hcheckpoint⟩
  · intro m hm
    rcases List.mem_append.1 hm with hm | hm
    · obtain ⟨d', r, hcolumns, hrecorded, hr, hmatches⟩ := hlinked.recorded m hm
      have hne : (LedgerRow.of id c d decidedAt).threadId ≠ m.jobId := (hfresh m hm).symm
      exact ⟨d', r, hcolumns, (read_append_ne hne).trans hrecorded, hr, hmatches⟩
    · obtain rfl := List.mem_singleton.1 hm
      obtain ⟨r, hr, hc, hmatches⟩ := @read_append_self ledger id c d decidedAt hread
      exact ⟨d, r, rfl, hr, hc, hmatches⟩
  · intro other hother
    have hdecision : (insertMirror db id c d).decision other = none := hother
    rw [insertMirror_decision] at hdecision
    have hne : id ≠ other := by
      rintro rfl
      simp at hdecision
    have hold : db.decision other = none := by
      cases hlookup : db.decision other with
      | none => rfl
      | some m => simp [hlookup] at hdecision
    have hne' : (LedgerRow.of id c d decidedAt).threadId ≠ other := hne
    rw [read_append_ne hne']
    exact hlinked.unrecorded other hold

end Linked

section Run

variable {s : Settings} {db : Database} {st : Store} {id : String}

theorem run_ensure_recorded {utcNow : Time} {c : String} {d : OwnerDecision}
    {row : DecisionRow} (hread : readDecisionForThread st.ledger id = .ok (some row))
    (hcheckpoint : row.checkpointId = c) (hmatches : row.matches d = true) :
    (ensureLedgerDecision utcNow id c d).run exec st = (.ok (), st) := by
  simp [ensureLedgerDecision, exec, hread, hcheckpoint, hmatches]

theorem run_ensure_new {utcNow : Time} {c : String} {d : OwnerDecision}
    (hread : readDecisionForThread st.ledger id = .ok none) :
    (ensureLedgerDecision utcNow id c d).run exec st =
      (.ok (), { st with ledger := st.ledger ++ [LedgerRow.of id c d utcNow] }) := by
  have habsent := newestRow_eq_none.1 (read_eq_none.1 hread)
  have hany : (st.ledger.any fun row => row.threadId = id && row.checkpointId = c) = false := by
    simp only [List.any_eq_false, Bool.and_eq_true, decide_eq_true_eq, not_and]
    exact fun row hrow hthread => absurd hthread (habsent row hrow)
  simp [ensureLedgerDecision, exec, hread, recordDecisionBeforeResume, hany]

/-- The mirror row of a job, as `decide` and `claim_next` read it. -/
theorem Linked.mirror (hlinked : Linked st.ledger db) {m : MirrorRow}
    (hm : db.decision id = some m) :
    ∃ d row, decisionFromRow m = .ok d ∧ carriedDecision db id = some d ∧
      readDecisionForThread st.ledger id = .ok (some row) ∧
        row.checkpointId = m.checkpointId ∧ row.matches d = true := by
  obtain ⟨d, row, hcolumns, hread, hcheckpoint, hmatches⟩ :=
    hlinked.recorded m (decision_mem hm)
  have hid : m.jobId = id := (Rows.lookup_key hm : m.key = id)
  have hdecision : m.decision = d.decision.text := congrArg DecisionColumns.decision hcolumns
  have hnote : m.rejectionNote = d.rejectionNote :=
    congrArg DecisionColumns.rejectionNote hcolumns
  refine ⟨d, row, decisionFromRow_eq hcolumns, ?_, hid ▸ hread, hcheckpoint, hmatches⟩
  simp [carriedDecision, hm, hdecision, hnote]

theorem run_decide (hkeys : Keys db) (hlinked : Linked st.ledger db) (utcNow : Time)
    (owner : String) (d : OwnerDecision) :
    ∃ ledger, (Sqlite.decide utcNow owner id d db).run exec st =
        (decideAlone owner id d db, { st with ledger := ledger }) ∧
      Linked ledger (settled db (decideAlone owner id d db)) := by
  simp only [Sqlite.decide, decideAlone]
  cases howned : owned db owner id with
  | error e => exact ⟨st.ledger, rfl, hlinked⟩
  | ok job =>
      have hrow := owned_job hkeys howned
      cases hprior : db.decision id with
      | some prior =>
          obtain ⟨mirrored, row, hfrom, -, hread, hcheckpoint, hmatches⟩ := hlinked.mirror hprior
          simp only [hfrom]
          cases hpresent : presentCheckpoint job.checkpointId with
          | none => exact ⟨st.ledger, rfl, hlinked⟩
          | some c =>
              simp only
              by_cases hsame : prior.checkpointId = c
              · by_cases hequal : mirrored = d
                · have hensure := @run_ensure_recorded st id utcNow c mirrored row hread
                    (hcheckpoint.trans hsame) hmatches
                  refine ⟨st.ledger, ?_, by simpa [hsame, hequal] using hlinked⟩
                  simp [hsame, hequal, Program.run_bind, hequal ▸ hensure]
                · exact ⟨st.ledger, by simp [hsame, hequal], by simpa [hsame, hequal] using hlinked⟩
              · exact ⟨st.ledger, by simp [hsame], by simpa [hsame] using hlinked⟩
      | none =>
          simp only
          by_cases hpaused : job.status = .pausedApproval
          · cases hpresent : presentCheckpoint job.checkpointId with
            | none => exact ⟨st.ledger, by simp [hpaused], by simpa [hpaused] using hlinked⟩
            | some c =>
                obtain ⟨hcheckpoint, -⟩ := presentCheckpoint_eq.1 hpresent
                have hensure := @run_ensure_new st id utcNow c d (hlinked.unrecorded id hprior)
                refine ⟨st.ledger ++ [LedgerRow.of id c d utcNow], ?_, ?_⟩
                · simp [hpaused, Program.run_bind, hensure]
                · simpa [hpaused] using
                    hlinked.decided_move hkeys hrow hcheckpoint hprior d utcNow
          · exact ⟨st.ledger, by simp [hpaused], by simpa [hpaused] using hlinked⟩

def NoneDecided (db : Database) : Prop :=
  ∀ row ∈ db.jobs, row.status = .pausedApproval → db.decision row.id = none

instance (db : Database) : Decidable (NoneDecided db) := by
  unfold NoneDecided
  infer_instance

/-- Rules under which no job enters or leaves a pause. -/
def noPause : Rules := ⟨⟨fun _ _ _ => False, fun _ => True⟩, fun _ _ _ => False⟩

theorem NoneDecided.setJob (hkeys : Keys db) (hnone : NoneDecided db) {row : JobRow}
    (hrow : db.job id = some row) {job : Job} (hopen : job.status ≠ .pausedApproval) :
    NoneDecided (db.setJob id job) := by
  intro r hr hpaused
  rcases (mem_setJob_jobs hkeys hrow).1 hr with rfl | ⟨hr, -⟩
  · exact absurd hpaused hopen
  · exact hnone r hr hpaused

theorem NoneDecided.move {db' : Database} (hkeys : Keys db) (hnone : NoneDecided db)
    (h : Move s noPause db db') : NoneDecided db' := by
  cases h with
  | created fresh owner family key habsent hkey =>
      intro r hr hpaused
      rcases List.mem_append.1 hr with hr | hr
      · exact hnone r hr hpaused
      · obtain rfl := List.mem_singleton.1 hr
        cases hpaused
  | @job id row job o hrow hstep =>
      have hset : NoneDecided (db.setJob id job) := by
        rcases hstep.checkpoint_or_paused.2 with ⟨-, hopen⟩ | ⟨c, -, hpausable, -⟩
        · exact hnone.setJob hkeys hrow hopen
        · exact hpausable.elim
      cases o <;> exact hset
  | decided hrow hpaused hcheckpoint hpresent hrecorded hnone => exact hrecorded.elim
  | redecided hrow hpaused hcheckpoint hpresent hrecorded hmirrored => exact hrecorded.elim
  | @finalized id artifact content row path hrow hrunning hpath hblank habsent =>
      have hset : NoneDecided (db.setJob id (completedJob s row.toJob artifact content)) :=
        hnone.setJob hkeys hrow (by simp [completedJob])
      exact hset
  | @delivery id row delivery o hrow hstep =>
      cases o <;> exact hnone

theorem run_reconcileRows (hlinked : Linked st.ledger db) (hnone : NoneDecided db) :
    (reconcileDurableDecisions db).run exec st = (.ok db, st) := by
  have hrows : ∀ rows : List JobRow, (∀ row ∈ rows, row ∈ db.jobs ∧ row.status = .pausedApproval) →
      (reconcileRows rows db).run exec st = (.ok db, st) := by
    intro rows
    induction rows with
    | nil => intro _; rfl
    | cons row rest ih =>
        intro hall
        obtain ⟨hmem, hpaused⟩ := hall row (by simp)
        obtain ⟨c, hc⟩ := Option.ne_none_iff_exists'.1 (hlinked.paused row hmem hpaused)
        have hpresent := presentCheckpoint_eq.2 ⟨hc, hlinked.checkpoint row hmem c hc⟩
        have hread := hlinked.unrecorded row.id (hnone row hmem hpaused)
        have hrest := ih fun r hr => hall r (List.mem_cons_of_mem row hr)
        simp [reconcileRows, reconcileRow, hpresent, exec, hread, hrest]
  exact hrows _ fun row hrow => by simpa using hrow

theorem run_claimNext (hkeys : Keys db) (hlinked : Linked st.ledger db)
    (hnone : NoneDecided db) (a : Ambient) :
    (claimNext s a db).run exec st = (claimAlone s a db, st) ∧
      Linked st.ledger (settled db (claimAlone s a db)) := by
  have hreclaimed : Moves s noDecision db (reclaimExpiredInvestigations s a.now db) :=
    reclaimExpiredInvestigations_moves hkeys
  have hquiet : Moves s noPause db (reclaimExpiredInvestigations s a.now db) :=
    reclaimExpiredInvestigations_moves hkeys
  have hkeys' := hreclaimed.keys hkeys
  have hlinked' := hlinked.moves hkeys hreclaimed
  have hnone' := (hquiet.preserve
    (fun _ _ hkeys hnone hmove => hnone.move hkeys hmove) hkeys hnone).2
  simp only [claimNext, claimAlone, Program.run_bind, run_reconcileRows hlinked' hnone']
  generalize reclaimExpiredInvestigations s a.now db = db₀ at hkeys' hlinked' hnone' ⊢
  split
  · exact ⟨rfl, hlinked'⟩
  · rename_i hidle
    split
    · exact ⟨rfl, hlinked'⟩
    · rename_i hlab
      cases hselected : (db₀.jobs.filter (claimable a.now)).argmin claimOrder with
      | none => exact ⟨rfl, hlinked'⟩
      | some row =>
          have hmem := List.mem_filter.1 (List.argmin_mem hselected)
          have hrow : db₀.job row.id = some row := hkeys'.jobs.lookup_of_mem hmem.1
          have hmove : Move s noDecision db₀ (startClaim s a.now a.fresh.hex row db₀) :=
            startClaim_move hkeys' hrow (selected_step trivial (by simpa using hidle)
              (by simpa using hlab) hselected)
          refine ⟨?_, hlinked'.move hkeys' hmove⟩
          have hsame : (startClaim s a.now a.fresh.hex row db₀).decision row.id =
              db₀.decision row.id := rfl
          simp only [claimRow, hsame]
          cases hm : db₀.decision row.id with
          | none => simp [carriedDecision, hm]
          | some m =>
              obtain ⟨d, ledgerRow, hfrom, hcarried, hread, hcheckpoint, hmatches⟩ :=
                hlinked'.mirror hm
              have hopen : row.status ≠ .pausedApproval := by
                have hqueued : row.status = .queued := by
                  have hclaimable := hmem.2
                  simp only [claimable, Bool.and_eq_true, decide_eq_true_eq] at hclaimable
                  exact hclaimable.1.1
                simp [hqueued]
              have hc : row.checkpointId = some m.checkpointId := by
                obtain ⟨r, hr, hsame⟩ := hlinked'.decided m (decision_mem hm)
                have hid : m.jobId = row.id := (Rows.lookup_key hm : m.key = row.id)
                rw [hid, hrow] at hr
                cases hr
                exact hsame hopen
              have hpresent := presentCheckpoint_eq.2
                ⟨hc, hlinked'.checkpoint row hmem.1 _ hc⟩
              have hensure := @run_ensure_recorded st row.id a.utcNow m.checkpointId d ledgerRow
                hread hcheckpoint hmatches
              simp [hfrom, hpresent, Program.run_bind, hensure, hcarried]

/-- The moves of a call that is answered, `decide` aside. -/
theorem answer_moves (hkeys : Keys db) {a : Ambient} {call : Call} {reply : Reply}
    {db' : Database} (hcheck : precheck call = .ok ())
    (hother : ∀ owner id d, call ≠ .decide owner id d) (hclaim : call ≠ .claimNext)
    (h : answer s a call db = .ok (reply, db')) : Moves s noDecision db db' := by
  cases call with
  | create owner family key => exact create_moves h
  | status owner id => exact status_moves h ▸ .refl
  | events owner id => exact events_moves h ▸ .refl
  | report owner id => exact report_moves h ▸ .refl
  | scenarioStatus incident => exact scenarioStatus_moves h ▸ .refl
  | incidentIdFor id => exact incidentIdFor_moves h ▸ .refl
  | decide owner id d => exact absurd rfl (hother owner id d)
  | claimNext => exact absurd rfl hclaim
  | renewRunning id token => exact renewRunning_moves hkeys h
  | reserveIncident id token => exact reserveIncident_moves hkeys h
  | markPaused id checkpointId token =>
      have hpresent : Text.strip checkpointId ≠ "" := by
        intro hblank
        simp [precheck, hblank] at hcheck
      exact markPaused_moves hkeys hpresent (fun _ _ _ => trivial) h
  | requeueRunning id token => exact requeueRunning_moves hkeys h
  | retryRunning id token errorName => exact retryRunning_moves hkeys h
  | finalize id artifact token =>
      have hblank : Text.strip artifact ≠ "" := by
        intro hblank
        simp [precheck, hblank] at hcheck
      exact finalize_moves hkeys hblank h
  | claimDelivery => exact claimDelivery_moves hkeys h
  | markDelivered id token => exact markDelivered_moves hkeys h
  | renewDelivery id token => exact renewDelivery_moves hkeys h
  | releaseDelivery id token => exact releaseDelivery_moves hkeys h
  | retryDelivery id token errorName => exact retryDelivery_moves hkeys h

/-- A call without other callers gives the answer that the tables determine. -/
theorem step_alone {store : Store} (hkeys : Keys store.control)
    (hlinked : Linked store.ledger store.control) (a : Ambient) (call : Call)
    (hcheck : precheck call = .ok ()) (hquiet : call = .claimNext → NoneDecided store.control) :
    (step s store (a, call)).1 = (answer s a call store.control).map Prod.fst ∧
      (step s store (a, call)).2.control =
        settled store.control (answer s a call store.control) ∧
      Linked (step s store (a, call)).2.ledger (step s store (a, call)).2.control := by
  have hdone : ∀ (ledger : Ledger) (result : Except Refusal (Reply × Database)),
      (body s a call store.control).run exec store = (result, { store with ledger := ledger }) →
      Linked ledger (settled store.control result) →
      (step s store (a, call)).1 = result.map Prod.fst ∧
        (step s store (a, call)).2.control = settled store.control result ∧
        Linked (step s store (a, call)).2.ledger (step s store (a, call)).2.control := by
    intro ledger result hrun hlinked'
    simp only [step, method, hcheck, run_transaction, hrun]
    cases result with
    | error e => exact ⟨rfl, rfl, hlinked'⟩
    | ok answered => exact ⟨rfl, rfl, hlinked'⟩
  have hpure : ∀ result : Except Refusal (Reply × Database),
      body s a call store.control = .lift result →
      (∀ reply db', result = .ok (reply, db') → Moves s noDecision store.control db') →
      (step s store (a, call)).1 = result.map Prod.fst ∧
        (step s store (a, call)).2.control = settled store.control result ∧
        Linked (step s store (a, call)).2.ledger (step s store (a, call)).2.control := by
    intro result hbody hmoves
    cases result with
    | error e => exact hdone store.ledger (.error e) (by rw [hbody]; rfl) hlinked
    | ok answered =>
        exact hdone store.ledger (.ok answered) (by rw [hbody]; rfl)
          (hlinked.moves hkeys (hmoves answered.1 answered.2 rfl))
  cases call with
  | decide owner id d =>
      obtain ⟨ledger, hrun, hlinked'⟩ := @run_decide store.control store id hkeys hlinked a.utcNow owner d
      exact hdone ledger _ hrun hlinked'
  | claimNext =>
      obtain ⟨hrun, hlinked'⟩ := @run_claimNext s store.control store hkeys hlinked (hquiet rfl) a
      exact hdone store.ledger _ hrun hlinked'
  | create | status | events | report | scenarioStatus | incidentIdFor | renewRunning
  | reserveIncident | markPaused | requeueRunning | retryRunning | finalize | claimDelivery
  | markDelivered | renewDelivery | releaseDelivery | retryDelivery =>
      exact hpure _ rfl fun reply db' =>
        answer_moves hkeys hcheck (by intros; simp) (by simp)

end Run

end CausalOps.ControlPlane.Sqlite
