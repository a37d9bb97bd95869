import CausalOps.ControlPlane.Sqlite.Transactions

set_option autoImplicit false

/-! How a decision reaches a job: the invariant that ties paused jobs, checkpoints and
mirrored decisions together, and what `decide` and `claim_next` do under it. -/

namespace CausalOps.ControlPlane.Sqlite

open Program (Sharing)

section Sane

/-- Checkpoints are those a thread may pause at; a job has a mirrored decision exactly
from the moment it leaves its pause; and a mirrored decision is one on record, for the
checkpoint of its job. -/
structure Sane (recorded : String → String → OwnerDecision → Prop)
    (may : String → String → Prop) (db : Database) : Prop where
  checkpoint : ∀ row ∈ db.jobs, ∀ c, row.checkpointId = some c → c ≠ "" ∧ may row.id c
  paused : ∀ row ∈ db.jobs, row.status = .pausedApproval →
    row.checkpointId ≠ none ∧ db.decision row.id = none
  decided : ∀ row ∈ db.jobs, row.checkpointId ≠ none → row.status ≠ .pausedApproval →
    db.decision row.id ≠ none
  mirrored : ∀ m ∈ db.decisions, ∃ row, db.job m.jobId = some row ∧
    row.checkpointId = some m.checkpointId ∧
      ∃ d, m.toDecisionColumns = .of m.checkpointId d ∧ recorded m.jobId m.checkpointId d

variable {s : Settings} {rules : Rules} {may : String → String → Prop} {db db' : Database}

theorem sane_empty {recorded : String → String → OwnerDecision → Prop} :
    Sane recorded may .empty :=
  ⟨by simp [Database.empty], by simp [Database.empty], by simp [Database.empty],
    by simp [Database.empty]⟩

theorem Sane.mono {recorded recorded' : String → String → OwnerDecision → Prop}
    (hsane : Sane recorded may db)
    (himp : ∀ id c d, recorded id c d → recorded' id c d) : Sane recorded' may db := by
  refine ⟨hsane.checkpoint, hsane.paused, hsane.decided, ?_⟩
  intro m hm
  obtain ⟨row, hrow, hcheckpoint, d, hcolumns, hrecorded⟩ := hsane.mirrored m hm
  exact ⟨row, hrow, hcheckpoint, d, hcolumns, himp _ _ _ hrecorded⟩

theorem JobStep.checkpoint_or_paused {job job' : Job} {o : Option Occurrence}
    (h : JobStep s rules db job job' o) :
    job.status ≠ .pausedApproval ∧
      ((job'.checkpointId = job.checkpointId ∧ job'.status ≠ .pausedApproval) ∨
        ∃ c, Text.strip c ≠ "" ∧ rules.pausable db job.id c ∧ job'.checkpointId = some c ∧
          job'.status = .pausedApproval) := by
  cases h with
  | paused hrunning htoken hpresent hpausable =>
      exact ⟨by simp [hrunning], Or.inr ⟨_, hpresent, hpausable, rfl, rfl⟩⟩
  | started hissued hqueued => exact ⟨by simp [hqueued], Or.inl ⟨rfl, by simp⟩⟩
  | renewed hrunning => exact ⟨by simp [hrunning], Or.inl ⟨rfl, by simp [hrunning]⟩⟩
  | reserved hrunning => exact ⟨by simp [hrunning], Or.inl ⟨rfl, by simp [hrunning]⟩⟩
  | leaseFailed hrunning => exact ⟨by simp [hrunning], Or.inl ⟨rfl, by simp⟩⟩
  | leaseExpired hrunning => exact ⟨by simp [hrunning], Or.inl ⟨rfl, by simp⟩⟩
  | requeued hrunning => exact ⟨by simp [hrunning], Or.inl ⟨rfl, by simp⟩⟩
  | retryFailed hrunning => exact ⟨by simp [hrunning], Or.inl ⟨rfl, by simp⟩⟩
  | retryScheduled hrunning => exact ⟨by simp [hrunning], Or.inl ⟨rfl, by simp⟩⟩

theorem strip_ne_empty {c : String} (h : Text.strip c ≠ "") : c ≠ "" := by
  rintro rfl
  exact h (by decide)

theorem decision_of_event {id : String} {o : Option Occurrence} (other : String) :
    (db.emit id o).decision other = db.decision other := by
  cases o <;> rfl

theorem job_of_event {id : String} {o : Option Occurrence} (other : String) :
    (db.emit id o).job other = db.job other := by
  cases o <;> rfl

/-- Writing a job that is neither paused before nor after keeps the invariant. -/
theorem Sane.setJob {recorded : String → String → OwnerDecision → Prop}
    (hkeys : Keys db) (hsane : Sane recorded may db) {id : String} {row : JobRow}
    (hrow : db.job id = some row) {job : Job} (hid : job.id = row.id)
    (hcheckpoint : job.checkpointId = row.checkpointId)
    (hbefore : row.status ≠ .pausedApproval) (hafter : job.status ≠ .pausedApproval) :
    Sane recorded may (db.setJob id job) := by
  have hmem := job_mem hrow
  have hjobid := job_id hrow
  refine ⟨?_, ?_, ?_, ?_⟩
  · intro r hr c hc
    rcases (mem_setJob_jobs hkeys hrow).1 hr with rfl | ⟨hr, -⟩
    · have h := hsane.checkpoint row hmem c (hcheckpoint ▸ hc)
      exact ⟨h.1, hid ▸ h.2⟩
    · exact hsane.checkpoint r hr c hc
  · intro r hr hp
    rcases (mem_setJob_jobs hkeys hrow).1 hr with rfl | ⟨hr, -⟩
    · exact absurd hp hafter
    · exact hsane.paused r hr hp
  · intro r hr hc hp
    rcases (mem_setJob_jobs hkeys hrow).1 hr with rfl | ⟨hr, -⟩
    · change db.decision job.id ≠ none
      rw [hid]
      refine hsane.decided row hmem (fun heq => hc ?_) hbefore
      exact hcheckpoint.trans heq
    · exact hsane.decided r hr hc hp
  · intro m hm
    obtain ⟨r, hr, hc, d, hcolumns, hrecorded⟩ := hsane.mirrored m hm
    by_cases heq : m.jobId = id
    · rw [heq, hrow] at hr
      cases hr
      refine ⟨{ row with toJob := job }, ?_, hcheckpoint.trans hc, d, hcolumns, hrecorded⟩
      rw [setJob_job hkeys hrow hid, if_pos heq]
    · refine ⟨r, ?_, hc, d, hcolumns, hrecorded⟩
      rw [setJob_job hkeys hrow hid, if_neg heq]
      exact hr

theorem Sane.event {recorded : String → String → OwnerDecision → Prop}
    (hsane : Sane recorded may db) (id : String) (o : Option Occurrence) :
    Sane recorded may (db.emit id o) := by
  cases o with
  | none => exact hsane
  | some o => exact ⟨hsane.checkpoint, hsane.paused, hsane.decided, hsane.mirrored⟩

theorem Sane.move
    (hpausable : ∀ db id c, rules.pausable db id c → may id c ∧ db.decision id = none)
    (hkeys : Keys db) (hsane : Sane rules.recorded may db)
    (h : Move s rules db db') : Sane rules.recorded may db' := by
  cases h with
  | created fresh owner family key habsent hkey =>
      have hjob : ∀ other r, db.job other = some r → Rows.lookup JobRow.key other
          (db.insertJob (newJob fresh owner family key)).jobs = some r := by
        intro other r hr
        have hlookup : Rows.lookup JobRow.key other db.jobs = some r := hr
        simp [Database.insertJob, Rows.lookup_append, hlookup]
      refine ⟨?_, ?_, ?_, ?_⟩
      · intro r hr c hc
        rcases List.mem_append.1 hr with hr | hr
        · exact hsane.checkpoint r hr c hc
        · obtain rfl := List.mem_singleton.1 hr
          cases hc
      · intro r hr hp
        rcases List.mem_append.1 hr with hr | hr
        · exact hsane.paused r hr hp
        · obtain rfl := List.mem_singleton.1 hr
          cases hp
      · intro r hr hc hp
        rcases List.mem_append.1 hr with hr | hr
        · exact hsane.decided r hr hc hp
        · obtain rfl := List.mem_singleton.1 hr
          exact absurd rfl hc
      · intro m hm
        obtain ⟨r, hr, hc, d, hcolumns, hrecorded⟩ := hsane.mirrored m hm
        exact ⟨r, hjob _ r hr, hc, d, hcolumns, hrecorded⟩
  | @job id row job o hrow hstep =>
      refine Sane.event ?_ id o
      obtain ⟨hbefore, hcase⟩ := hstep.checkpoint_or_paused
      rcases hcase with ⟨hcheckpoint, hafter⟩ | ⟨c, hpresent, hpause, hcheckpoint, hafter⟩
      · exact hsane.setJob hkeys hrow hstep.keeps.1 hcheckpoint hbefore hafter
      · obtain ⟨hmay, hunmirrored⟩ := hpausable db row.id c hpause
        have hid := hstep.keeps.1
        refine ⟨?_, ?_, ?_, ?_⟩
        · intro r hr c' hc'
          rcases (mem_setJob_jobs hkeys hrow).1 hr with rfl | ⟨hr, -⟩
          · obtain rfl : c = c' := Option.some.inj (hcheckpoint.symm.trans hc')
            exact ⟨strip_ne_empty hpresent, hid ▸ hmay⟩
          · exact hsane.checkpoint r hr c' hc'
        · intro r hr hp
          rcases (mem_setJob_jobs hkeys hrow).1 hr with rfl | ⟨hr, -⟩
          · refine ⟨by simp [hcheckpoint], ?_⟩
            change db.decision job.id = none
            rw [hid]
            exact hunmirrored
          · exact hsane.paused r hr hp
        · intro r hr hc hp
          rcases (mem_setJob_jobs hkeys hrow).1 hr with rfl | ⟨hr, -⟩
          · exact absurd hafter hp
          · exact hsane.decided r hr hc hp
        · intro m hm
          obtain ⟨r, hr, hc, d, hcolumns, hrecorded⟩ := hsane.mirrored m hm
          have hne : m.jobId ≠ id := by
            intro heq
            have hlookup := Rows.lookup_eq_none.1 hunmirrored m hm
            exact hlookup (heq.trans (job_id hrow).symm)
          refine ⟨r, ?_, hc, d, hcolumns, hrecorded⟩
          rw [setJob_job hkeys hrow hid, if_neg hne]
          exact hr
  | @decided id c row d hrow hpaused hcheckpoint hpresent hrecorded hnone =>
      have hkeys' : Keys (insertMirror db id c d) := insertMirror_keys hkeys hnone
      have hrow' : (insertMirror db id c d).job id = some row := hrow
      have hjobs : ∀ r, r ∈ (queueDecided (insertMirror db id c d) id c d).jobs ↔
          r = { row with toJob := queuedJob row.toJob } ∨ (r ∈ db.jobs ∧ r.id ≠ id) := by
        intro r
        rw [queueDecided_jobs hkeys' hrow', mem_setJob_jobs hkeys' hrow']
        rfl
      have hdecision : ∀ other, (queueDecided (insertMirror db id c d) id c d).decision other =
          (db.decision other).or (if id = other then some ⟨.of c d, id⟩ else none) :=
        fun other => insertMirror_decision other
      refine ⟨?_, ?_, ?_, ?_⟩
      · intro r hr c' hc'
        rcases (hjobs r).1 hr with rfl | ⟨hr, -⟩
        · exact hsane.checkpoint row (job_mem hrow) c' hc'
        · exact hsane.checkpoint r hr c' hc'
      · intro r hr hp
        rcases (hjobs r).1 hr with rfl | ⟨hr, hne⟩
        · cases hp
        · have hold := hsane.paused r hr hp
          refine ⟨hold.1, ?_⟩
          rw [hdecision, hold.2, if_neg fun heq => hne heq.symm]
          rfl
      · intro r hr hc hp
        rcases (hjobs r).1 hr with rfl | ⟨hr, hne⟩
        · rw [hdecision]
          simp [hnone, queuedJob, job_id hrow]
        · have hold := hsane.decided r hr hc hp
          rw [hdecision]
          cases hlookup : db.decision r.id with
          | none => exact absurd hlookup hold
          | some m => simp
      · intro m hm
        rcases List.mem_append.1 hm with hm | hm
        · obtain ⟨r, hr, hc, d', hcolumns, hrec⟩ := hsane.mirrored m hm
          have hne : m.jobId ≠ id := fun heq =>
            Rows.lookup_eq_none.1 hnone m hm heq
          refine ⟨r, ?_, hc, d', hcolumns, hrec⟩
          rw [queueDecided_job hkeys' hrow', if_neg hne]
          exact hr
        · obtain rfl := List.mem_singleton.1 hm
          refine ⟨{ row with toJob := queuedJob row.toJob }, ?_, hcheckpoint, d, rfl, hrecorded⟩
          rw [queueDecided_job hkeys' hrow', if_pos rfl]
  | redecided hrow hpaused hcheckpoint hpresent hrecorded hmirrored =>
      have hnone := (hsane.paused _ (job_mem hrow) hpaused).2
      rw [job_id hrow, hmirrored] at hnone
      cases hnone
  | @finalized id artifact content row path hrow hrunning hpath hblank habsent =>
      have hset : Sane rules.recorded may
          (db.setJob id (completedJob s row.toJob artifact content)) :=
        hsane.setJob hkeys hrow rfl rfl (by simp [hrunning]) (by simp [completedJob])
      exact ⟨hset.checkpoint, hset.paused, hset.decided, hset.mirrored⟩
  | @delivery id row delivery o hrow hstep =>
      refine Sane.event ?_ id o
      exact ⟨hsane.checkpoint, hsane.paused, hsane.decided, hsane.mirrored⟩

theorem Sane.moves
    (hpausable : ∀ db id c, rules.pausable db id c → may id c ∧ db.decision id = none)
    (hkeys : Keys db) (hsane : Sane rules.recorded may db) (h : Moves s rules db db') :
    Sane rules.recorded may db' :=
  (h.preserve (fun _ _ hkeys hsane hmove => hsane.move hpausable hkeys hmove) hkeys hsane).2

end Sane

section Decide

variable {ι : Type} {s : Settings} {sharing : Sharing ι Store} {i : ι}
  {recorded : Store → String → String → OwnerDecision → Prop} {may : String → String → Prop}
  {good : Store → Prop} {trusted : Prop} {conduct : Conduct}
  {db : Database} {st : Store}

/-- What surrounds the tables at one state of the store. -/
abbrev rulesAt (recorded : Store → String → String → OwnerDecision → Prop)
    (conduct : Conduct) (st : Store) : Rules :=
  ⟨conduct, recorded st⟩

theorem Moves.later {st' : Store} {db' : Database} (hlater : Later recorded st st')
    (h : Moves s (rulesAt recorded conduct st) db db') :
    Moves s (rulesAt recorded conduct st') db db' := by
  refine Moves.mono ?_ ?_ h
  · exact hlater
  · rfl

theorem LedgerUse.may_of_sane (huse : LedgerUse sharing i recorded may good trusted)
    (hsane : trusted → Sane (recorded st) may db) {row : JobRow} (hmem : row ∈ db.jobs)
    {c : String} (hcheckpoint : row.checkpointId = some c) : may row.id c := by
  by_cases htrusted : trusted
  · exact ((hsane htrusted).checkpoint row hmem c hcheckpoint).2
  · exact huse.free htrusted _ _

theorem presentCheckpoint_eq {o : Option String} {c : String} :
    presentCheckpoint o = some c ↔ o = some c ∧ c ≠ "" := by
  cases o with
  | none => simp [presentCheckpoint]
  | some text =>
      by_cases h : text = ""
      · simp only [presentCheckpoint, h, if_true, reduceCtorEq, Option.some.injEq, false_iff]
        rintro ⟨rfl, hne⟩
        exact hne rfl
      · simp only [presentCheckpoint, h, if_false, Option.some.injEq]
        exact ⟨fun heq => ⟨heq, heq ▸ h⟩, And.left⟩

theorem decisionFromRow_eq {m : MirrorRow} {c : String} {d : OwnerDecision}
    (h : m.toDecisionColumns = .of c d) : decisionFromRow m = .ok d := by
  have hcolumns : m.decision = d.decision.text ∧ m.rejectionNote = d.rejectionNote :=
    ⟨congrArg DecisionColumns.decision h, congrArg DecisionColumns.rejectionNote h⟩
  simp [decisionFromRow, hcolumns]

/-- What `decide` leaves behind, from a store in which it read these tables. -/
structure DecideOutcome (s : Settings)
    (recorded : Store → String → String → OwnerDecision → Prop)
    (conduct : Conduct) (good : Store → Prop) (trusted : Prop)
    (st : Store) (db : Database) (owner id : String) (d : OwnerDecision)
    (outcome : Except Refusal (Reply × Database)) (t : Store) : Prop where
  sound : good t
  later : Later recorded st t
  moves : ∀ reply db', outcome = .ok (reply, db') →
    Moves s (rulesAt recorded conduct t) db db' ∧ ∃ c, recorded t id c d
  viewed : ∀ reply db', outcome = .ok (reply, db') → ∃ view, reply = .view view
  refused : trusted → ∀ e, outcome = .error e →
    owned db owner id = .error e ∨ ∃ message, e = .conflict message
  accepted : trusted → ∀ row, owned db owner id = .ok row → row.checkpointId ≠ none →
    (∃ c, recorded st id c d) → ∃ answer, outcome = .ok answer

theorem DecideOutcome.ofError {owner id : String} {d : OwnerDecision} {e : Refusal}
    {t : Store} (hsound : good t) (hlater : Later recorded st t)
    (hrefused : trusted → owned db owner id = .error e ∨ ∃ message, e = .conflict message)
    (hnew : trusted → ∀ row, owned db owner id = .ok row → row.checkpointId ≠ none →
      ¬ ∃ c, recorded st id c d) :
    DecideOutcome s recorded conduct good trusted st db owner id d (.error e) t := by
  refine ⟨hsound, hlater, ?_, ?_, ?_, ?_⟩
  · intro reply db' hok
    cases hok
  · intro reply db' hok
    cases hok
  · intro htrusted e' he
    cases he
    exact hrefused htrusted
  · intro htrusted row hrow hcheckpoint hrecorded
    exact absurd hrecorded (hnew htrusted row hrow hcheckpoint)

theorem DecideOutcome.ofOk {owner id : String} {d : OwnerDecision} {view : InvestigationView}
    {db' : Database} {t : Store} (hsound : good t) (hlater : Later recorded st t)
    (hmoves : Moves s (rulesAt recorded conduct t) db db') (hrecorded : ∃ c, recorded t id c d) :
    DecideOutcome s recorded conduct good trusted st db owner id d (.ok (.view view, db')) t := by
  refine ⟨hsound, hlater, ?_, ?_, ?_, ?_⟩
  · intro reply db'' hok
    cases hok
    exact ⟨hmoves, hrecorded⟩
  · intro reply db'' hok
    cases hok
    exact ⟨view, rfl⟩
  · intro _ e he
    cases he
  · exact fun _ _ _ _ _ => ⟨_, rfl⟩

/-- The ledger write of `decide`, followed by what it does to the tables. -/
theorem ensureThen_meets (huse : LedgerUse sharing i recorded may good trusted)
    (hgood : good st) {utcNow : Time} {owner id checkpointId : String} {d : OwnerDecision}
    {view : InvestigationView} {db' : Database} (hmay : may id checkpointId)
    (hmoves : ∀ t, recorded t id checkpointId d →
      Moves s (rulesAt recorded conduct t) db db')
    (hagain : trusted → (∃ c, recorded st id c d) → recorded st id checkpointId d) :
    (ensureLedgerDecision utcNow id checkpointId d >>= fun _ =>
        (Program.ret (.view view, db') : Prog (Reply × Database))).Meets exec sharing i
      (DecideOutcome s recorded conduct good trusted st db owner id d) st := by
  have hensure := @ensureLedgerDecision_meets id _ _ _ _ _ _ _ huse checkpointId d utcNow hmay _ hgood
  have hreturned : ∀ (u : Unit) (t : Store),
      (good t ∧ Later recorded st t ∧ recorded t id checkpointId d) →
      (Program.ret (.view view, db') : Prog (Reply × Database)).Meets exec sharing i
        (DecideOutcome s recorded conduct good trusted st db owner id d) t := by
    rintro - t ⟨hsound, hlater, hrecorded⟩ u hu
    have hrecorded' := huse.stable hrecorded hu
    exact .ofOk (huse.good_rely hsound hu) (huse.later hlater hu) (hmoves u hrecorded')
      ⟨checkpointId, hrecorded'⟩
  refine Program.Meets.bind (hensure.mono ?_) hreturned
  intro outcome t hensured
  cases outcome with
  | ok u => exact ⟨hensured.sound, hensured.later, hensured.stored rfl⟩
  | error e =>
      refine .ofError hensured.sound hensured.later
        (fun htrusted => Or.inr (hensured.conflict htrusted e rfl)) ?_
      intro htrusted row _ _ hrecorded
      have hok := hensured.repeated htrusted (hagain htrusted hrecorded)
      cases hok

theorem decide_meets (huse : LedgerUse sharing i recorded may good trusted)
    (hgood : good st) (hkeys : Keys db)
    (hsane : trusted → Sane (recorded st) may db)
    (hunique : trusted → ∀ id c c' d d', recorded st id c d → recorded st id c' d' →
      c = c' ∧ d = d')
    {utcNow : Time} {owner id : String} {d : OwnerDecision} :
    (Sqlite.decide utcNow owner id d db).Meets exec sharing i
      (DecideOutcome s recorded conduct good trusted st db owner id d) st := by
  have hself : Later recorded st st := fun _ _ _ h => h
  -- A refusal before the ledger is used.
  have hearly : ∀ e : Refusal, (trusted → owned db owner id = .error e ∨
      ∃ message, e = .conflict message) → (trusted → ∀ row, owned db owner id = .ok row →
      row.checkpointId ≠ none → ¬ ∃ c, recorded st id c d) →
      (Program.raise e : Prog (Reply × Database)).Meets exec sharing i
        (DecideOutcome s recorded conduct good trusted st db owner id d) st :=
    fun e hrefused hnew t ht =>
      .ofError (huse.good_rely hgood ht) (huse.later hself ht) hrefused hnew
  simp only [Sqlite.decide]
  split
  · rename_i e howned
    refine hearly e (fun _ => Or.inl howned) ?_
    intro _ row hrow
    rw [howned] at hrow
    cases hrow
  · rename_i job howned
    have hrow := owned_job hkeys howned
    have hmem := job_mem hrow
    have hid : job.id = id := job_id hrow
    split
    · rename_i prior hprior
      -- In a trusted store the mirrored row is the decision on record.
      have hmirrored : trusted → ∃ d', decisionFromRow prior = .ok d' ∧
          job.checkpointId = some prior.checkpointId ∧ prior.checkpointId ≠ "" ∧
          recorded st id prior.checkpointId d' := by
        intro htrusted
        obtain ⟨row, hjob, hcheckpoint, d', hcolumns, hrecorded⟩ :=
          (hsane htrusted).mirrored prior (decision_mem hprior)
        have hkey : prior.jobId = id := (Rows.lookup_key hprior : prior.key = id)
        rw [hkey, hrow] at hjob
        cases hjob
        exact ⟨d', decisionFromRow_eq hcolumns, hcheckpoint,
          ((hsane htrusted).checkpoint job hmem _ hcheckpoint).1, hkey ▸ hrecorded⟩
      split
      · rename_i e hdecision
        have hbroken : ¬ trusted := fun htrusted => by
          obtain ⟨d', hok, -⟩ := hmirrored htrusted
          rw [hdecision] at hok
          cases hok
        exact hearly e (fun h => absurd h hbroken) fun h => absurd h hbroken
      · rename_i mirroredDecision hdecision
        split
        · rename_i hpresent
          have hbroken : ¬ trusted := fun htrusted => by
            obtain ⟨d', -, hcheckpoint, hne, -⟩ := hmirrored htrusted
            have hsome := presentCheckpoint_eq.2 ⟨hcheckpoint, hne⟩
            rw [hpresent] at hsome
            cases hsome
          exact hearly _ (fun h => absurd h hbroken) fun h => absurd h hbroken
        · rename_i checkpointId hpresent
          obtain ⟨hcheckpoint, -⟩ := presentCheckpoint_eq.1 hpresent
          split
          · rename_i hdiffers
            have hbroken : ¬ trusted := fun htrusted => by
              obtain ⟨d', -, hsame, -⟩ := hmirrored htrusted
              rw [hcheckpoint] at hsame
              exact hdiffers (Option.some.inj hsame).symm
            exact hearly _ (fun h => absurd h hbroken) fun h => absurd h hbroken
          · rename_i hsame
            have honrecord : trusted → recorded st id checkpointId mirroredDecision := by
              intro htrusted
              obtain ⟨d', hok, -, -, hrecorded⟩ := hmirrored htrusted
              rw [hdecision] at hok
              obtain rfl := Except.ok.inj hok
              rwa [not_not.1 hsame] at hrecorded
            split
            · rename_i hdiffers
              refine hearly _ (fun _ => Or.inr ⟨_, rfl⟩) ?_
              rintro htrusted - - - ⟨c, hrecorded⟩
              exact hdiffers (hunique htrusted _ _ _ _ _ (honrecord htrusted) hrecorded).2
            · rename_i hequal
              obtain rfl := not_not.1 hequal
              have hmay' : may id checkpointId := hid ▸ huse.may_of_sane hsane hmem hcheckpoint
              exact ensureThen_meets huse hgood hmay' (fun _ _ => .refl)
                fun htrusted _ => honrecord htrusted
    · rename_i hnone
      split
      · rename_i hnotpaused
        refine hearly _ (fun _ => Or.inr ⟨_, rfl⟩) ?_
        intro htrusted row hrow' hcheckpoint _
        rw [howned] at hrow'
        cases hrow'
        exact (hsane htrusted).decided job hmem hcheckpoint hnotpaused (hid ▸ hnone)
      · rename_i hpaused
        have hpaused' : job.status = .pausedApproval := not_not.1 hpaused
        split
        · rename_i hpresent
          have hbroken : ¬ trusted := fun htrusted => by
            have hsome := ((hsane htrusted).paused job hmem hpaused').1
            obtain ⟨c, hc⟩ := Option.ne_none_iff_exists'.1 hsome
            have hok := presentCheckpoint_eq.2
              ⟨hc, ((hsane htrusted).checkpoint job hmem c hc).1⟩
            rw [hpresent] at hok
            cases hok
          exact hearly _ (fun h => absurd h hbroken) fun h => absurd h hbroken
        · rename_i checkpointId hpresent
          obtain ⟨hcheckpoint, hne⟩ := presentCheckpoint_eq.1 hpresent
          have hmay' : may id checkpointId := hid ▸ huse.may_of_sane hsane hmem hcheckpoint
          refine ensureThen_meets huse hgood hmay' (fun t hrecorded => ?_) ?_
          · exact .single (.decided hrow hpaused' hcheckpoint hne hrecorded hnone)
          · rintro htrusted ⟨c, hrecorded⟩
            obtain ⟨ledger, hread, hc, -⟩ := huse.shown htrusted hgood hrecorded
            have hsame := huse.at_checkpoint htrusted hgood hmay' hread
            rwa [hc.symm.trans hsame] at hrecorded

end Decide

end CausalOps.ControlPlane.Sqlite
