import CausalOps.ControlPlane.Sqlite.Scheduling
import CausalOps.ControlPlane.Worker

set_option autoImplicit false

/-! What one call of `run_once` can do to the job that it claimed. -/

namespace CausalOps.ControlPlane.Sqlite

section Attempts

variable {s : Settings} {db db' : Database} {id token : String} {now : Time} {reply : Reply}
  {store : Store} {a : Ambient} {call : Call}

def attemptsOf (db : Database) (id : String) : ℕ :=
  ((db.job id).map fun row => row.attemptCount).getD 0

def tries (db : Database) : List (String × ℕ) :=
  db.jobs.map fun row => (row.id, row.attemptCount)

theorem attemptsOf_tries (h : tries db' = tries db) (id : String) :
    attemptsOf db' id = attemptsOf db id := by
  have hread : ∀ db : Database,
      (db.job id).map (fun row => (row.id, row.attemptCount)) =
        Rows.lookup Prod.fst id (tries db) := by
    intro db
    have hview : ∀ row : JobRow, (row.id, row.attemptCount).1 = row.key := fun _ => rfl
    exact (Rows.lookup_map hview id).symm
  have hsame : (db'.job id).map (fun row => (row.id, row.attemptCount)) =
      (db.job id).map fun row => (row.id, row.attemptCount) := by
    rw [hread, hread, h]
  have hsecond := congrArg (fun row : Option (String × ℕ) => (row.map Prod.snd).getD 0) hsame
  simpa [attemptsOf, Option.map_map, Function.comp_def] using hsecond

theorem tries_updateJob {set : JobRow → JobRow}
    (hset : ∀ row, (set row).id = row.id ∧ (set row).attemptCount = row.attemptCount) :
    tries (db.updateJob id set) = tries db := by
  simp only [tries, Database.updateJob, Rows.modify, List.map_map]
  refine List.map_congr_left fun row _ => ?_
  simp only [Function.comp_apply]
  split
  · rw [(hset row).1, (hset row).2]
  · rfl

theorem tries_event (o : Occurrence) : tries (db.event id o) = tries db := rfl

theorem renewRunning_tries (hkeys : Keys db)
    (h : renewRunning s now id token db = .ok (reply, db')) : tries db' = tries db := by
  simp only [renewRunning] at h
  split at h
  · cases h
  · rename_i hcount
    obtain ⟨row, hrow, hguard⟩ := (countP_jobs hkeys _).1 (not_not.1 hcount)
    cases h
    simp only [tries, update_jobs hkeys hrow hguard]
    exact tries_updateJob fun _ => ⟨rfl, rfl⟩

theorem markPaused_tries {checkpointId : String}
    (h : markPaused now id checkpointId token db = .ok (reply, db')) : tries db' = tries db := by
  simp only [markPaused] at h
  split at h
  · cases h
  · split at h
    · cases h
    · cases h
      rw [tries_event]
      exact tries_updateJob fun _ => ⟨rfl, rfl⟩

theorem finalize_tries {artifact : String}
    (h : finalize s a id artifact token db = .ok (reply, db')) : tries db' = tries db := by
  simp only [finalize] at h
  split at h
  · cases h
  split at h
  · cases h
  split at h
  · cases h
  split at h
  · cases h
  split at h
  · cases h
  · cases h
    rw [tries_event]
    exact tries_updateJob fun _ => ⟨rfl, rfl⟩

theorem retryRunning_counts (hkeys : Keys db) {errorName : String}
    (h : retryRunning s now id token errorName db = .ok (reply, db')) :
    attemptsOf db' id = attemptsOf db id + 1 ∧
      (reply = .retryable false → ∃ row, db'.job id = some row ∧
        row.failureReason = some ("retry_limit:" ++ errorName) ∧
          s.maxReplayAttempts ≤ row.attemptCount) := by
  simp only [retryRunning] at h
  split at h
  · cases h
  rename_i row hrow
  split at h
  · cases h
  split at h
  · rename_i hlimit
    cases h
    have hjob := updateJob_job hkeys hrow (fun r => { r with
      status := .queued
      claimToken := none
      claimExpiresAt := none
      attemptCount := row.attemptCount + 1
      failureReason := some ("retry_limit:" ++ errorName) }) rfl rfl id
    rw [if_pos rfl] at hjob
    refine ⟨?_, fun _ => ⟨_, hjob, rfl, hlimit⟩⟩
    change ((Database.job _ id).map fun row => row.attemptCount).getD 0 = _
    have hevent : ∀ (base : Database) (o : Occurrence), (base.event id o).job id = base.job id :=
      fun _ _ => rfl
    rw [hevent, hjob, attemptsOf, hrow]
    rfl
  · cases h
    have hjob := updateJob_job hkeys hrow (fun r => { r with
      status := .queued
      claimToken := none
      claimExpiresAt := none
      attemptCount := row.attemptCount + 1
      availableAt := now + s.retryDelay (row.attemptCount + 1) }) rfl rfl id
    rw [if_pos rfl] at hjob
    refine ⟨?_, fun hnone => by cases hnone⟩
    change ((Database.job _ id).map fun row => row.attemptCount).getD 0 = _
    have hevent : ∀ (base : Database) (o : Occurrence), (base.event id o).job id = base.job id :=
      fun _ _ => rfl
    rw [hevent, hjob, attemptsOf, hrow]
    rfl

theorem run_lift (answer : Except Refusal (Reply × Database)) :
    (Program.lift answer : Prog (Reply × Database)).run exec store = (answer, store) := by
  cases answer <;> rfl

theorem step_lifted {answer : Except Refusal (Reply × Database)}
    (hbody : body s a call store.control = .lift answer)
    (h : (step s store (a, call)).1 = .ok reply) :
    answer = .ok (reply, (step s store (a, call)).2.control) := by
  simp only [step, method] at h ⊢
  cases hcheck : precheck call with
  | error e =>
      rw [hcheck] at h
      cases h
  | ok u =>
      simp only [hcheck, run_transaction, hbody, run_lift] at h ⊢
      cases answer with
      | error e => cases h
      | ok result => exact congrArg (fun reply => Except.ok (reply, result.2)) (Except.ok.inj h)

end Attempts

section Claims

variable {s : Settings} {db db' : Database} {id : String} {now : Time} {store store' : Store}
  {a : Ambient} {claim : WorkerClaim}

theorem reclaimInvestigation_blocked (hkeys : Keys db) {row : JobRow}
    (hrow : db.job row.id = some row) :
    ∃ row', (reclaimInvestigation s now db row).job row.id = some row' ∧
      row'.status = .queued ∧ claimable now row' = false := by
  simp only [reclaimInvestigation]
  split
  · have hjob := updateJob_job hkeys hrow (fun r => { r with
      status := .queued
      claimToken := none
      claimExpiresAt := none
      attemptCount := row.attemptCount + 1
      failureReason := some "retry_limit:lease_expired" }) rfl rfl row.id
    rw [if_pos rfl] at hjob
    exact ⟨_, hjob, rfl, rfl⟩
  · have hjob := updateJob_job hkeys hrow (fun r => { r with
      status := .queued
      claimToken := none
      claimExpiresAt := none
      attemptCount := row.attemptCount + 1
      availableAt := now + s.retryDelay (row.attemptCount + 1) }) rfl rfl row.id
    rw [if_pos rfl] at hjob
    refine ⟨_, hjob, rfl, ?_⟩
    have hdelay := s.retryDelay_pos (row.attemptCount + 1)
    have hlate : ¬ now + s.retryDelay (row.attemptCount + 1) ≤ now := by linarith
    simp [claimable, hlate]

theorem reclaimInvestigations_blocked (chosen : List JobRow)
    (hchosen : Rows.Keyed JobRow.key chosen) (db : Database) (hkeys : Keys db)
    (hrows : ∀ row ∈ chosen, db.job row.id = some row ∧ row.status = .running ∧
      expired now row.claimExpiresAt = true) {row : JobRow} (hmem : row ∈ chosen) :
    ∃ row', (chosen.foldl (reclaimInvestigation s now) db).job row.id = some row' ∧
      row'.status = .queued ∧ claimable now row' = false := by
  induction chosen generalizing db with
  | nil => cases hmem
  | cons first rest ih =>
      obtain ⟨hfirst, hrunning, hexpired⟩ := hrows first List.mem_cons_self
      have hnodup : (first.key :: rest.map JobRow.key).Nodup := hchosen
      have hapart : ∀ later ∈ rest, later.id ≠ first.id := fun later hlater heq =>
        (List.nodup_cons.1 hnodup).1 (List.mem_map.2 ⟨later, hlater, heq⟩)
      rw [List.foldl_cons]
      rcases List.mem_cons.1 hmem with rfl | hlater
      · rw [reclaimInvestigations_job_ne rest _ fun later hlater => (hapart later hlater).symm]
        exact reclaimInvestigation_blocked hkeys hfirst
      · have hmove : Move s anyRules db (reclaimInvestigation s now db first) :=
          reclaimInvestigation_move hkeys hfirst hrunning hexpired
        refine ih (List.nodup_cons.1 hnodup).2 _ (hmove.keys hkeys) ?_ hlater
        intro later hlater
        obtain ⟨hjob, hstatus⟩ := hrows later (List.mem_cons_of_mem first hlater)
        exact ⟨(reclaimInvestigation_job_ne (hapart later hlater)).trans hjob, hstatus⟩

theorem reclaimExpiredInvestigations_blocked (hkeys : Keys db) {row : JobRow}
    (hrow : db.job id = some row) (hrunning : row.status = .running)
    (hexpired : expired now row.claimExpiresAt = true) :
    ∃ row', (reclaimExpiredInvestigations s now db).job id = some row' ∧
      row'.status = .queued ∧ claimable now row' = false := by
  rw [← job_id hrow]
  refine reclaimInvestigations_blocked _ (hkeys.jobs.of_sublist List.filter_sublist) db hkeys ?_
    (List.mem_filter.2 ⟨job_mem hrow, by simp [hrunning, hexpired]⟩)
  intro r hr
  simp only [List.mem_filter, Bool.and_eq_true, decide_eq_true_eq] at hr
  exact ⟨hkeys.jobs.lookup_of_mem hr.1, hr.2⟩

theorem reconcileRow_tries {row : JobRow} {st st' : Store}
    (h : (reconcileRow row db).run exec st = (.ok db', st')) : tries db' = tries db := by
  have hqueued : ∀ (base : Database) (c : String) (d : OwnerDecision), tries base = tries db →
      tries (queueDecided base row.id c d) = tries db := by
    intro base c d hbase
    rw [← hbase]
    exact tries_updateJob fun _ => ⟨rfl, rfl⟩
  simp only [reconcileRow] at h
  split at h
  · cases h
  · simp only [Program.run_call, exec] at h
    split at h
    · cases h
    · obtain ⟨rfl, -⟩ := Prod.mk.inj h |>.imp Except.ok.inj id
      rfl
    · split at h
      · cases h
      · split at h
        · cases h
        · split at h
          · obtain ⟨rfl, -⟩ := Prod.mk.inj h |>.imp Except.ok.inj id
            exact hqueued _ _ _ rfl
          · split at h
            · cases h
            · split at h
              · cases h
              · split at h
                · cases h
                · obtain ⟨rfl, -⟩ := Prod.mk.inj h |>.imp Except.ok.inj id
                  exact hqueued db _ _ rfl

theorem reconcileRows_tries (chosen : List JobRow) {db db' : Database} {st st' : Store}
    (h : (reconcileRows chosen db).run exec st = (.ok db', st')) : tries db' = tries db := by
  induction chosen generalizing db st with
  | nil =>
      obtain ⟨rfl, -⟩ := Prod.mk.inj h |>.imp Except.ok.inj id
      rfl
  | cons row rest ih =>
      simp only [reconcileRows, Program.run_bind] at h
      cases hfirst : (reconcileRow row db).run exec st with
      | mk outcome st₁ =>
          rw [hfirst] at h
          cases outcome with
          | error e => cases h
          | ok db₁ => exact (ih h).trans (reconcileRow_tries hfirst)

theorem claimRow_claim {row : JobRow} {reply : Reply}
    (h : (claimRow s a row db).run exec store = (.ok (reply, db'), store')) :
    ∃ decision, reply = .claim (some (workerClaim row decision a.fresh.hex)) := by
  simp only [claimRow] at h
  split at h
  · exact ⟨none, (congrArg Prod.fst (Except.ok.inj (congrArg Prod.fst h))).symm⟩
  split at h
  · cases h
  split at h
  · cases h
  split at h
  · cases h
  simp only [Program.run_bind] at h
  split at h
  · exact ⟨_, (congrArg Prod.fst (Except.ok.inj (congrArg Prod.fst h))).symm⟩
  · cases h

/-- What `claim_next` hands out runs under the fresh token, with the attempts it had before. -/
structure Claimed (a : Ambient) (claim : WorkerClaim) (before after : Database) : Prop where
  token : claim.claimToken = a.fresh.hex
  attempts : attemptsOf after claim.investigationId = attemptsOf before claim.investigationId

theorem claimNext_claimed (hkeys : Keys db)
    (h : (claimNext s a db).run exec store = (.ok (.claim (some claim), db'), store')) :
    Claimed a claim db db' := by
  have hreclaimed : Moves s anyRules db (reclaimExpiredInvestigations s a.now db) :=
    reclaimExpiredInvestigations_moves hkeys
  have hkeys₀ := hreclaimed.keys hkeys
  simp only [claimNext, Program.run_bind] at h
  split at h
  swap
  · cases h
  rename_i db₁ store₁ hreconcile
  obtain ⟨hkeys₁, hdecided⟩ : Keys db₁ ∧ Requeued a.now
      (reclaimExpiredInvestigations s a.now db).jobTable db₁.jobTable :=
    reconcileRows_requeued _ (hkeys₀.jobs.of_sublist List.filter_sublist) _ hkeys₀
      (fun row hrow => by
        simp only [List.mem_filter, decide_eq_true_eq] at hrow
        exact ⟨hkeys₀.jobs.lookup_of_mem hrow.1, hrow.2⟩) hreconcile
  have htries := reconcileRows_tries _ hreconcile
  split at h
  · cases h
  split at h
  · cases h
  split at h
  · cases h
  rename_i row hrow
  obtain ⟨hmem, hclaimable⟩ := List.mem_filter.1 (List.argmin_mem hrow)
  have hlookup : db₁.job row.id = some row := hkeys₁.jobs.lookup_of_mem hmem
  obtain ⟨decision, hclaim⟩ := claimRow_claim h
  obtain rfl := Option.some.inj (Reply.claim.inj hclaim)
  refine ⟨rfl, ?_⟩
  rw [claimRow_ran h]
  change attemptsOf (startClaim s a.now a.fresh.hex row db₁) row.id = attemptsOf db row.id
  have hstarted : attemptsOf (startClaim s a.now a.fresh.hex row db₁) row.id =
      attemptsOf db₁ row.id := by
    rw [attemptsOf, startClaim_job hkeys₁ hlookup, if_pos rfl, attemptsOf, hlookup]
    rfl
  have htable : ∀ db : Database, attemptsOf db row.id =
      ((db.jobTable row.id).map Job.attemptCount).getD 0 := by
    intro db
    rw [attemptsOf, Database.jobTable, Option.map_map]
    rfl
  rw [hstarted, attemptsOf_tries htries]
  rcases requeued_expired hkeys row.id with hsame | ⟨job, job', hjob, hrequeuable, -, -⟩
  · rw [htable, hsame, htable]
  · obtain ⟨old, hold, rfl⟩ := jobTable_eq_some.1 hjob
    rcases hrequeuable with ⟨hrunning, hexpired⟩ | hpaused
    · -- a job whose lease was reclaimed just now is not due
      obtain ⟨late, hlate, hqueued, hblocked⟩ :=
        reclaimExpiredInvestigations_blocked hkeys hold hrunning hexpired
      have hkept := hdecided.keeps (jobTable_eq_some.2 ⟨late, hlate, rfl⟩) (not_requeuable hqueued)
      obtain ⟨found, hfound, hjobs⟩ := jobTable_eq_some.1 hkept
      obtain rfl : row = found := Option.some.inj (hlookup.symm.trans hfound)
      have hsame : claimable a.now row = claimable a.now late := by
        simp only [claimable, hjobs]
      rw [hsame, hblocked] at hclaimable
      cases hclaimable
    · have hkept : (reclaimExpiredInvestigations s a.now db).job row.id = some old :=
        reclaimExpiredInvestigations_job hkeys hold (by simp [hpaused])
      rw [attemptsOf, attemptsOf, hkept, hold]

end Claims

section Superseded

variable {s : Settings} {db db' : Database} {id token : String} {store : Store}

def apartRules (token : String) : Rules :=
  ⟨⟨fun _ _ _ => True, fun issued => issued ≠ token⟩, fun _ _ _ => True⟩

theorem step_moves_apart (hkeys : Keys store.control) (input : Ambient × Call)
    (hapart : input.2 = .claimNext → input.1.fresh.hex ≠ token) :
    Moves s (apartRules token) store.control (step s store input).2.control := by
  obtain ⟨a, call⟩ := input
  have hconforms : Conforms (apartRules token).toConduct store.control a call := by
    cases call with
    | claimNext => exact hapart rfl
    | markPaused => exact fun _ _ _ => trivial
    | _ => trivial
  exact (step_moves_under _ hkeys a call hconforms).1

theorem JobStep.stale {job job' : Job} {o : Option Occurrence}
    (h : JobStep s (apartRules token) db job job' o) (hstale : job.claimToken ≠ some token) :
    job'.claimToken ≠ some token := by
  cases h with
  | started hissued => exact fun hsame => hissued (Option.some.inj hsame)
  | renewed => exact hstale
  | reserved => exact hstale
  | _ => exact nofun

theorem Stale.setJob (hstale : Stale db id token) (hkeys : Keys db) {other : String}
    {row : JobRow} (hrow : db.job other = some row) {job : Job} (hid : job.id = row.id)
    (hjob : row.claimToken ≠ some token → job.claimToken ≠ some token) :
    Stale (db.setJob other job) id token := by
  intro r hr hsame
  rcases (mem_setJob_jobs hkeys hrow).1 hr with rfl | ⟨hold, -⟩
  · exact hjob (hstale row (job_mem hrow) (hid.symm.trans hsame))
  · exact hstale r hold hsame

theorem Stale.move (hstale : Stale db id token) (hkeys : Keys db)
    (h : Move s (apartRules token) db db') : Stale db' id token := by
  cases h with
  | created fresh owner family key habsent hkey =>
      intro r hr hsame
      rcases List.mem_append.1 hr with hold | hnew
      · exact hstale r hold hsame
      · rw [List.mem_singleton.1 hnew]
        exact nofun
  | job hrow hstep =>
      have hset := hstale.setJob hkeys hrow hstep.keeps.1 hstep.stale
      exact fun r hr => hset r (by simpa using hr)
  | @decided other c row d hrow hpaused hcheckpoint hpresent hrecorded hnone =>
      have hmirrored : Stale (insertMirror db other c d) id token := hstale
      have hset := hmirrored.setJob (insertMirror_keys hkeys hnone) hrow
        (rfl : (queuedJob row.toJob).id = row.id) fun h => h
      intro r hr
      rw [queueDecided_jobs (insertMirror_keys hkeys hnone) hrow] at hr
      exact hset r hr
  | @redecided other c row d mirrored hrow hpaused hcheckpoint hpresent hrecorded hmirrored =>
      have hset := hstale.setJob hkeys hrow (rfl : (queuedJob row.toJob).id = row.id) fun h => h
      intro r hr
      rw [queueDecided_jobs hkeys hrow] at hr
      exact hset r hr
  | @finalized other artifact content row path hrow hrunning hpath hblank habsent =>
      have hset := hstale.setJob hkeys hrow
        (rfl : (completedJob s row.toJob artifact content).id = row.id) fun _ => nofun
      exact fun r hr => hset r hr
  | delivery hrow hstep => exact fun r hr => hstale r (by simpa using hr)

theorem Stale.moves (hstale : Stale db id token) (hkeys : Keys db)
    (h : Moves s (apartRules token) db db') : Stale db' id token :=
  (Moves.preserve (fun _ _ hkeys (hstale : Stale _ id token) hmove => hstale.move hkeys hmove)
    h hkeys hstale).2

theorem stale_updateJob {set : JobRow → JobRow}
    (hset : ∀ row, (set row).id = row.id ∧ (set row).claimToken = none) :
    Stale (db.updateJob id set) id token := by
  intro r hr hsame
  simp only [Database.updateJob, Rows.mem_modify] at hr
  obtain ⟨old, hold, rfl⟩ := hr
  by_cases hkey : old.key = id
  · rw [if_pos hkey, (hset old).2]
    exact fun hsome => by cases hsome
  · rw [if_neg hkey] at hsame
    exact absurd hsame hkey

theorem markPaused_releases {now : Time} {checkpointId : String} {reply : Reply}
    (h : markPaused now id checkpointId token db = .ok (reply, db')) : Stale db' id token := by
  simp only [markPaused] at h
  split at h
  · cases h
  · split at h
    · cases h
    · cases h
      exact stale_updateJob fun _ => ⟨rfl, rfl⟩

theorem finalize_releases {a : Ambient} {artifact : String} {reply : Reply}
    (h : finalize s a id artifact token db = .ok (reply, db')) : Stale db' id token := by
  simp only [finalize] at h
  split at h
  · cases h
  split at h
  · cases h
  split at h
  · cases h
  split at h
  · cases h
  split at h
  · cases h
  · cases h
    exact stale_updateJob fun _ => ⟨rfl, rfl⟩

end Superseded

section Calls

variable {s : Settings} {claim : WorkerClaim} {store : Store} {a : Ambient} {call : Call}
  {reply : Reply}

inductive Own (claim : WorkerClaim) : Call → Prop
  | renew : Own claim (.renewRunning claim.investigationId claim.claimToken)
  | ending (outcome : WorkerOutcome) : Own claim (endingCall claim outcome)
  | retry (error : String) :
      Own claim (.retryRunning claim.investigationId claim.claimToken error)

theorem Own.workerClaim (h : Own claim call) :
    call.workerClaim = some (claim.investigationId, claim.claimToken) := by
  cases h with
  | renew => rfl
  | ending outcome => cases outcome <;> rfl
  | retry error => rfl

theorem Own.ne_claimNext (h : Own claim call) : call ≠ .claimNext := by
  rintro rfl
  exact absurd h.workerClaim nofun

/-- What the worker can still add to the attempts of its job. -/
def attemptCost : Call → ℕ
  | .retryRunning _ _ _ => 1
  | _ => 0

theorem step_attempts (hkeys : Keys store.control) (hown : Own claim call) :
    attemptsOf (step s store (a, call)).2.control claim.investigationId ≤
      attemptsOf store.control claim.investigationId + attemptCost call := by
  cases hanswer : (step s store (a, call)).1 with
  | error e =>
      rw [(step_moves hkeys (a, call)).2 e hanswer]
      exact Nat.le_add_right _ _
  | ok reply =>
      cases hown with
      | renew =>
          have hrenewed := renewRunning_tries hkeys (step_lifted rfl hanswer)
          exact (attemptsOf_tries hrenewed _).le
      | ending outcome =>
          cases outcome with
          | paused checkpointId =>
              have hpaused := markPaused_tries (step_lifted rfl hanswer)
              exact (attemptsOf_tries hpaused _).le
          | finalized reportArtifact =>
              have hfinalized := finalize_tries (step_lifted rfl hanswer)
              exact (attemptsOf_tries hfinalized _).le
      | retry error => exact (retryRunning_counts hkeys (step_lifted rfl hanswer)).1.le

theorem ending_releases {outcome : WorkerOutcome}
    (h : (step s store (a, endingCall claim outcome)).1 = .ok reply) :
    Stale (step s store (a, endingCall claim outcome)).2.control
      claim.investigationId claim.claimToken := by
  cases outcome with
  | paused checkpointId => exact markPaused_releases (step_lifted rfl h)
  | finalized reportArtifact => exact finalize_releases (step_lifted rfl h)

end Calls

/-- An issued call that paused or finalized the job. -/
def Issued.Ended (claim : WorkerClaim) (issued : Issued) : Prop :=
  (∃ outcome, issued.call = endingCall claim outcome) ∧ ∃ reply, issued.answer = .ok reply

/-- What the issued calls added to the attempts of a job. -/
def Session.gained (id : String) (session : Session) : ℕ :=
  (session.issued.map fun issued =>
    attemptsOf issued.after.control id - attemptsOf issued.before.control id).sum

/-- No other worker is handed the token of this claim. -/
def Surroundings.Apart (token : String) (meanwhile : List Meanwhile) : Prop :=
  ∀ a, .other (.call a .claimNext) ∈ meanwhile → a.fresh.hex ≠ token

/-- The calls of a session whose first call handed out the claim. -/
structure Guarded (claim : WorkerClaim) (first : Issued) (limit : ℕ) (session : Session) :
    Prop where
  keys : Keys session.store.control
  began : session.issued.head? = some first
  superseded : ∀ issued ∈ session.issued, issued.call ≠ .claimNext →
    Stale issued.before.control claim.investigationId claim.claimToken →
      issued.after = issued.before
  settled : session.issued.Pairwise fun earlier later =>
    earlier.Ended claim → later.after = later.before
  released : ∀ issued ∈ session.issued, issued.Ended claim →
    Stale session.store.control claim.investigationId claim.claimToken
  gained : session.gained claim.investigationId ≤ limit

section Sessions

variable {s : Settings} {claim : WorkerClaim} {first : Issued} {limit : ℕ} {session : Session}
  {call : Call}

theorem Session.issue_cases (s : Settings) (session : Session) (occasion : Occasion)
    (call : Call) :
    ∃ answer after,
      session.issue s occasion call = (answer, { session with
        store := after
        issued := session.issued ++ [⟨call, session.store, answer, after⟩] }) ∧
      ((∃ name, answer = .error name ∧ after = session.store) ∨
        answer = (step s session.store (occasion.ambient, call)).1.mapError refusalName ∧
          after = (step s session.store (occasion.ambient, call)).2) := by
  cases hfault : occasion.fault with
  | some name => exact ⟨_, _, by simp only [Session.issue, hfault], .inl ⟨name, rfl, rfl⟩⟩
  | none => exact ⟨_, _, by simp only [Session.issue, hfault], .inr ⟨rfl, rfl⟩⟩

theorem mapError_ok {answer : Except Refusal Reply} {reply : Reply}
    (h : answer.mapError refusalName = .ok reply) : answer = .ok reply := by
  cases answer with
  | error e => cases h
  | ok found => exact congrArg Except.ok (Except.ok.inj h)

/-- A call about the claim changes nothing once the claim was taken away. -/
theorem Guarded.issue (h : Guarded claim first limit session) (hown : Own claim call)
    (occasion : Occasion) :
    Guarded claim first (limit + attemptCost call) (session.issue s occasion call).2 := by
  obtain ⟨answer, after, hissue, hoccurred⟩ := session.issue_cases s occasion call
  have hkeys : Keys after.control := by
    rcases hoccurred with ⟨-, -, rfl⟩ | ⟨-, rfl⟩
    · exact h.keys
    · exact (step_moves h.keys _).1.keys h.keys
  have hfenced : Stale session.store.control claim.investigationId claim.claimToken →
      after = session.store := by
    intro hstale
    rcases hoccurred with ⟨-, -, rfl⟩ | ⟨-, rfl⟩
    · rfl
    · obtain ⟨e, hrefused⟩ := step_stale (s := s) (a := occasion.ambient) h.keys
        hown.workerClaim hstale
      rw [hrefused]
  have hattempts : attemptsOf after.control claim.investigationId ≤
      attemptsOf session.store.control claim.investigationId + attemptCost call := by
    rcases hoccurred with ⟨-, -, rfl⟩ | ⟨-, rfl⟩
    · exact Nat.le_add_right _ _
    · exact step_attempts h.keys hown
  have hreleased : Issued.Ended claim ⟨call, session.store, answer, after⟩ →
      Stale after.control claim.investigationId claim.claimToken := by
    rintro ⟨⟨outcome, rfl⟩, reply, rfl⟩
    rcases hoccurred with ⟨name, hraised, -⟩ | ⟨hanswer, rfl⟩
    · cases hraised
    · exact ending_releases (mapError_ok hanswer.symm)
  rw [hissue]
  refine ⟨hkeys, ?_, ?_, ?_, ?_, ?_⟩
  · simp [h.began]
  · intro issued hmem hcall
    rcases List.mem_append.1 hmem with hold | hnew
    · exact h.superseded issued hold hcall
    · rw [List.mem_singleton.1 hnew]
      exact hfenced
  · refine List.pairwise_append.2 ⟨h.settled, List.pairwise_singleton _ _, ?_⟩
    intro earlier hearlier later hlater hended
    rw [List.mem_singleton.1 hlater]
    exact hfenced (h.released earlier hearlier hended)
  · intro issued hmem hended
    rcases List.mem_append.1 hmem with hold | hnew
    · have hstale := h.released issued hold hended
      change Stale after.control _ _
      rwa [hfenced hstale]
    · rw [List.mem_singleton.1 hnew] at hended
      exact hreleased hended
  · have hgained := h.gained
    simp only [Session.gained, List.map_append, List.sum_append, List.map_cons, List.map_nil,
      List.sum_cons, List.sum_nil] at hgained ⊢
    omega

theorem Guarded.beat (h : Guarded claim first limit session) (occasion : Occasion) :
    Guarded claim first limit (session.beat s claim occasion) := by
  have hissued := h.issue (s := s) Own.renew occasion
  simp only [Session.beat]
  split
  · exact h
  split
  · rename_i reply next hbeat
    rwa [hbeat] at hissued
  · rename_i name next hbeat
    rw [hbeat] at hissued
    exact ⟨hissued.keys, hissued.began, hissued.superseded, hissued.settled, hissued.released,
      hissued.gained⟩

theorem Guarded.meet (h : Guarded claim first limit session) {meanwhile : Meanwhile}
    (hapart : Surroundings.Apart claim.claimToken [meanwhile]) :
    Guarded claim first limit (session.meet s claim meanwhile) := by
  cases meanwhile with
  | heartbeat occasion => exact h.beat occasion
  | other incident =>
      cases incident with
      | ledger rows => exact ⟨h.keys, h.began, h.superseded, h.settled, h.released, h.gained⟩
      | call a call =>
          refine ⟨(step_moves h.keys _).1.keys h.keys, h.began, h.superseded, h.settled, ?_,
            h.gained⟩
          intro issued hmem hended
          refine (h.released issued hmem hended).moves h.keys (step_moves_apart h.keys _ ?_)
          rintro rfl
          exact hapart a List.mem_cons_self

theorem Guarded.wait (h : Guarded claim first limit session) {meanwhile : List Meanwhile}
    (hapart : Surroundings.Apart claim.claimToken meanwhile) :
    Guarded claim first limit (session.wait s claim meanwhile) := by
  induction meanwhile generalizing session with
  | nil => exact h
  | cons head rest ih =>
      have hfirst : Surroundings.Apart claim.claimToken [head] := fun a hmem =>
        hapart a (List.mem_cons.2 (.inl (List.mem_singleton.1 hmem)))
      exact ih (h.meet hfirst) fun a hmem => hapart a (List.mem_cons_of_mem head hmem)

end Sessions

/-- A session after some more calls, none of which gave the job up. -/
structure Session.Extends (next session : Session) : Prop where
  failed : next.failed = session.failed
  issued : session.issued <+: next.issued

def Session.Exhausted (s : Settings) (claim : WorkerClaim) (session : Session) : Prop :=
  ∃ issued ∈ session.issued, ∃ error row,
    issued.call = .retryRunning claim.investigationId claim.claimToken error ∧
      issued.answer = .ok (.retryable false) ∧
      issued.after.control.job claim.investigationId = some row ∧
      row.failureReason = some ("retry_limit:" ++ error) ∧
      s.maxReplayAttempts ≤ row.attemptCount

def Session.HandedOut (claim : WorkerClaim) (session : Session) : Prop :=
  ∃ first, session.issued.head? = some first ∧ first.answer = .ok (.claim (some claim))

/-- What one call of `run_once` leaves of the job that it claimed. -/
structure Session.KeepsJob (s : Settings) (claim : WorkerClaim) (session : Session) : Prop where
  /-- After the job was paused or finalized, the worker changes nothing. -/
  settled : session.issued.Pairwise fun earlier later =>
    earlier.Ended claim → later.after = later.before
  superseded : ∀ issued ∈ session.issued, issued.call ≠ .claimNext →
    Stale issued.before.control claim.investigationId claim.claimToken →
      issued.after = issued.before
  attempts : session.gained claim.investigationId ≤ 1
  failed : session.failed = true → session.Exhausted s claim

/-- What other workers and the heartbeat do between the claim and the return. -/
def Surroundings.meanwhile (around : Surroundings) : List Meanwhile :=
  around.running ++ around.ending ++ around.notifying ++ around.failing ++ around.leaving

section Once

variable {s : Settings} {claim : WorkerClaim} {first : Issued} {limit : ℕ}
  {session next last : Session} {around : Surroundings}

theorem Session.Extends.refl (session : Session) : session.Extends session :=
  ⟨rfl, List.prefix_refl _⟩

theorem Session.Extends.trans (h : next.Extends session) (h' : last.Extends next) :
    last.Extends session :=
  ⟨h'.failed.trans h.failed, h.issued.trans h'.issued⟩

theorem Session.issue_extends (occasion : Occasion) (call : Call) :
    (session.issue s occasion call).2.Extends session := by
  obtain ⟨answer, after, hissue, -⟩ := session.issue_cases s occasion call
  rw [hissue]
  exact ⟨rfl, List.prefix_append _ _⟩

theorem Session.meet_extends (meanwhile : Meanwhile) :
    (session.meet s claim meanwhile).Extends session := by
  cases meanwhile with
  | other incident => exact ⟨rfl, List.prefix_refl _⟩
  | heartbeat occasion =>
      have hissued := session.issue_extends (s := s) occasion
        (.renewRunning claim.investigationId claim.claimToken)
      simp only [Session.meet, Session.beat]
      split
      · exact .refl session
      split
      · rename_i reply next hbeat
        rwa [hbeat] at hissued
      · rename_i name next hbeat
        rw [hbeat] at hissued
        exact ⟨hissued.failed, hissued.issued⟩

theorem Session.wait_extends (meanwhile : List Meanwhile) :
    (session.wait s claim meanwhile).Extends session := by
  induction meanwhile generalizing session with
  | nil => exact .refl session
  | cons head rest ih => exact (session.meet_extends head).trans ih

theorem Session.Exhausted.extends (h : session.Exhausted s claim) (hnext : next.Extends session) :
    next.Exhausted s claim := by
  obtain ⟨issued, hmem, hrest⟩ := h
  exact ⟨issued, hnext.issued.subset hmem, hrest⟩

theorem Guarded.mono (h : Guarded claim first limit session) {more : ℕ} (hmore : limit ≤ more) :
    Guarded claim first more session :=
  { h with gained := h.gained.trans hmore }

theorem Surroundings.Apart.of_subset {token : String} {some all : List Meanwhile}
    (h : Surroundings.Apart token all) (hsubset : some ⊆ all) :
    Surroundings.Apart token some :=
  fun a hmem => h a (hsubset hmem)

/-- The body of the `try` spends no attempt. -/
theorem Guarded.runClaimed (h : Guarded claim first limit session)
    (hapart : Surroundings.Apart claim.claimToken around.meanwhile) :
    Guarded claim first limit (runClaimed s claim around session).2 := by
  have hran : Guarded claim first limit (session.wait s claim around.running) :=
    h.wait (hapart.of_subset fun _ hmem => by simp [Surroundings.meanwhile, hmem])
  simp only [Sqlite.runClaimed]
  split
  · exact hran
  rename_i outcome _
  split
  · exact hran
  have hready : Guarded claim first limit
      ((session.wait s claim around.running).wait s claim around.ending) :=
    hran.wait (hapart.of_subset fun _ hmem => by simp [Surroundings.meanwhile, hmem])
  have hended := hready.issue (s := s) (Own.ending outcome) around.ended
  have hfree : attemptCost (endingCall claim outcome) = 0 := by cases outcome <;> rfl
  rw [hfree, Nat.add_zero] at hended
  split
  · rename_i name next hissue
    rwa [hissue] at hended
  · rename_i reply next hissue
    rw [hissue] at hended
    have hnotified : Guarded claim first limit (next.wait s claim around.notifying) :=
      hended.wait (hapart.of_subset fun _ hmem => by simp [Surroundings.meanwhile, hmem])
    split
    · exact hnotified
    · exact hnotified

theorem Session.runClaimed_extends :
    (Sqlite.runClaimed s claim around session).2.Extends session := by
  have hran : (session.wait s claim around.running).Extends session := session.wait_extends _
  simp only [Sqlite.runClaimed]
  split
  · exact hran
  rename_i outcome _
  split
  · exact hran
  have hready : ((session.wait s claim around.running).wait s claim around.ending).Extends
      session :=
    hran.trans (Session.wait_extends _)
  have hended := hready.trans (Session.issue_extends (s := s) around.ended
    (endingCall claim outcome))
  split
  · rename_i name next hissue
    rwa [hissue] at hended
  · rename_i reply next hissue
    rw [hissue] at hended
    have hnotified : (next.wait s claim around.notifying).Extends session :=
      hended.trans (Session.wait_extends _)
    split
    · exact hnotified
    · exact hnotified

/-- The handler spends one attempt at most, and gives the job up only when none is left. -/
theorem Guarded.handleFailure (h : Guarded claim first limit session)
    (hapart : Surroundings.Apart claim.claimToken around.meanwhile) (error : String)
    (hfailed : session.failed = false) :
    Guarded claim first (limit + 1) (handleFailure s claim around session error).2 ∧
      ((Sqlite.handleFailure s claim around session error).2.failed = true →
        (Sqlite.handleFailure s claim around session error).2.Exhausted s claim) := by
  have hwaited : Guarded claim first limit (session.wait s claim around.failing) :=
    h.wait (hapart.of_subset fun _ hmem => by simp [Surroundings.meanwhile, hmem])
  have hretried := hwaited.issue (s := s) (Own.retry error) around.retried
  have hpassed : (session.wait s claim around.failing).Extends session := session.wait_extends _
  have hextends := hpassed.trans (Session.issue_extends (s := s) around.retried
    (.retryRunning claim.investigationId claim.claimToken error))
  obtain ⟨answer, after, hissue, hoccurred⟩ :=
    (session.wait s claim around.failing).issue_cases s around.retried
      (.retryRunning claim.investigationId claim.claimToken error)
  rw [hissue] at hretried hextends
  have hunfailed := hextends.failed.trans hfailed
  simp only [Sqlite.handleFailure, hissue]
  split
  · rename_i name next hanswer
    obtain ⟨-, rfl⟩ := Prod.mk.inj hanswer
    exact ⟨hretried, fun htrue => absurd (hunfailed.symm.trans htrue) nofun⟩
  · rename_i next hanswer
    obtain ⟨rfl, rfl⟩ := Prod.mk.inj hanswer
    refine ⟨⟨hretried.keys, hretried.began, hretried.superseded, hretried.settled,
      hretried.released, hretried.gained⟩, fun _ => ?_⟩
    rcases hoccurred with ⟨name, hraised, -⟩ | ⟨hretry, rfl⟩
    · cases hraised
    · obtain ⟨row, hrow, hreason, hlimit⟩ := (retryRunning_counts hwaited.keys
        (step_lifted rfl (mapError_ok hretry.symm))).2 rfl
      exact ⟨_, List.mem_append_right _ List.mem_cons_self, error, row, rfl, rfl, hrow, hreason,
        hlimit⟩
  · rename_i reply next hnot hanswer
    obtain ⟨-, rfl⟩ := Prod.mk.inj hanswer
    exact ⟨hretried, fun htrue => absurd (hunfailed.symm.trans htrue) nofun⟩

theorem Guarded.keepsJob (h : Guarded claim first limit session) (hlimit : limit ≤ 1)
    (hexhausted : session.failed = true → session.Exhausted s claim) :
    session.KeepsJob s claim :=
  ⟨h.settled, h.superseded, h.gained.trans hlimit, hexhausted⟩

theorem Guarded.leaving (h : Guarded claim first limit session)
    (hapart : Surroundings.Apart claim.claimToken around.meanwhile) :
    Guarded claim first limit (session.wait s claim around.leaving) :=
  h.wait (hapart.of_subset fun _ hmem => by simp [Surroundings.meanwhile, hmem])

theorem Guarded.leave (h : Guarded claim first limit session) (hlimit : limit ≤ 1)
    (hapart : Surroundings.Apart claim.claimToken around.meanwhile)
    (hexhausted : session.failed = true → session.Exhausted s claim) :
    (session.wait s claim around.leaving).KeepsJob s claim := by
  have hextends : (session.wait s claim around.leaving).Extends session := session.wait_extends _
  refine (h.leaving hapart).keepsJob hlimit fun htrue => ?_
  exact (hexhausted (hextends.failed.symm.trans htrue)).extends hextends

theorem guarded_start {store : Store} (hkeys : Keys store.control) {occasion : Occasion}
    {next : Session}
    (h : Session.issue s ⟨store, none, [], false⟩ occasion .claimNext =
      (.ok (.claim (some claim)), next)) :
    claim.claimToken = occasion.ambient.fresh.hex ∧ next.failed = false ∧
      ∃ first, first.answer = .ok (.claim (some claim)) ∧ Guarded claim first 0 next := by
  obtain ⟨answer, after, hissue, hoccurred⟩ :=
    Session.issue_cases s ⟨store, none, [], false⟩ occasion .claimNext
  rw [hissue] at h
  obtain ⟨rfl, rfl⟩ := Prod.mk.inj h
  rcases hoccurred with ⟨name, hraised, -⟩ | ⟨hanswer, rfl⟩
  · cases hraised
  have hstep := mapError_ok hanswer.symm
  have hclaimed : Claimed occasion.ambient claim store.control
      (step s store (occasion.ambient, .claimNext)).2.control := by
    simp only [step, method, precheck, run_transaction] at hstep ⊢
    cases hbody : (body s occasion.ambient .claimNext store.control).run exec store with
    | mk outcome store' =>
        rw [hbody] at hstep
        cases outcome with
        | error e => cases hstep
        | ok answer =>
            obtain ⟨reply, db'⟩ := answer
            obtain rfl : reply = .claim (some claim) := Except.ok.inj hstep
            exact claimNext_claimed hkeys hbody
  refine ⟨hclaimed.token, rfl, _, rfl, (step_moves hkeys _).1.keys hkeys, rfl, ?_, ?_, ?_, ?_⟩
  · intro issued hmem hcall
    rw [List.mem_singleton.1 hmem] at hcall
    exact absurd rfl hcall
  · exact List.pairwise_singleton _ _
  · rintro issued hmem ⟨⟨outcome, hcall⟩, -⟩
    rw [List.mem_singleton.1 hmem] at hcall
    exact absurd hcall.symm (Own.ending outcome).ne_claimNext
  · simp [Session.gained, hclaimed.attempts]

theorem not_handedOut {store : Store} {occasion : Occasion} {answer : Except String Reply}
    {next : Session} (h : Session.issue s ⟨store, none, [], false⟩ occasion .claimNext =
      (answer, next)) (hanswer : ∀ claim, answer ≠ .ok (.claim (some claim))) :
    next.failed = false ∧ ∀ claim, ¬ next.HandedOut claim := by
  obtain ⟨found, after, hissue, -⟩ :=
    Session.issue_cases s ⟨store, none, [], false⟩ occasion .claimNext
  rw [hissue] at h
  obtain ⟨rfl, rfl⟩ := Prod.mk.inj h
  refine ⟨rfl, ?_⟩
  rintro claim ⟨first, hfirst, hclaimed⟩
  obtain rfl := Option.some.inj hfirst
  exact hanswer claim hclaimed

theorem runOnce_keepsJob {store : Store}
    (hkeys : Keys (Machine.run (happen s) store around.earlier).2.control)
    (hapart : Surroundings.Apart around.claiming.ambient.fresh.hex around.meanwhile) :
    (∀ claim, (runOnce s store around).2.HandedOut claim →
        (runOnce s store around).2.KeepsJob s claim) ∧
      ((runOnce s store around).2.failed = true →
        ∃ claim, (runOnce s store around).2.HandedOut claim) := by
  simp only [runOnce]
  split
  · refine ⟨?_, nofun⟩
    rintro claim ⟨first, hfirst, -⟩
    cases hfirst
  generalize (Machine.run (happen s) store around.earlier).2 = reached at hkeys
  split
  · rename_i name next hissue
    obtain ⟨hunfailed, hnothing⟩ := not_handedOut hissue fun claim hclaimed => nomatch hclaimed
    exact ⟨fun claim hclaim => absurd hclaim (hnothing claim),
      fun htrue => absurd (hunfailed.symm.trans htrue) nofun⟩
  · rename_i claim next hissue
    obtain ⟨htoken, hunfailed, first, hfirst, hguarded⟩ := guarded_start hkeys hissue
    rw [← htoken] at hapart
    have honly : ∀ {last : Session} {limit : ℕ}, Guarded claim first limit last →
        last.KeepsJob s claim →
          (∀ found, last.HandedOut found → last.KeepsJob s found) ∧
            (last.failed = true → ∃ found, last.HandedOut found) := by
      intro last limit hlast hkeeps
      refine ⟨?_, fun _ => ⟨claim, first, hlast.began, hfirst⟩⟩
      rintro found ⟨head, hhead, hanswer⟩
      obtain rfl : first = head := Option.some.inj (hlast.began.symm.trans hhead)
      obtain rfl : claim = found :=
        Option.some.inj (Reply.claim.inj (Except.ok.inj (hfirst.symm.trans hanswer)))
      exact hkeeps
    have hran := hguarded.runClaimed (s := s) hapart
    have hextends : (runClaimed s claim around next).2.Extends next := Session.runClaimed_extends
    have hstill := hextends.failed.trans hunfailed
    split
    · rename_i ok session₁ hclaimed
      rw [hclaimed] at hran hstill
      exact honly (hran.leaving hapart) (hran.leave (Nat.zero_le 1) hapart
        fun htrue => absurd (hstill.symm.trans htrue) nofun)
    · rename_i error session₁ hclaimed
      rw [hclaimed] at hran hstill
      obtain ⟨hhandled, hexhausted⟩ := hran.handleFailure hapart error hstill
      exact honly (hhandled.leaving hapart) (hhandled.leave le_rfl hapart hexhausted)
  · rename_i reply next hnone hissue
    obtain ⟨hunfailed, hnothing⟩ :=
      not_handedOut hissue fun claim hclaimed => hnone claim (Except.ok.inj hclaimed)
    exact ⟨fun claim hclaim => absurd hclaim (hnothing claim),
      fun htrue => absurd (hunfailed.symm.trans htrue) nofun⟩

end Once

/-- What one call of `run_once` does to the job that it claims, whatever the runner, the
heartbeat, the callbacks and the other workers do meanwhile. -/
theorem run_once_keeps_job (s : Settings) (incidents : List Incident) (around : Surroundings)
    (hapart : Surroundings.Apart around.claiming.ambient.fresh.hex around.meanwhile) :
    let session := (runOnce s (reached s incidents) around).2
    (∀ claim, session.HandedOut claim → session.KeepsJob s claim) ∧
      (session.failed = true → ∃ claim, session.HandedOut claim) := by
  have hkeys := (reached_governed (s := s) incidents).keys
  have hearlier : Keys (Machine.run (happen s) (reached s incidents) around.earlier).2.control :=
    (run_moves around.earlier hkeys).keys hkeys
  exact runOnce_keepsJob hearlier hapart

/-- A runner that pauses, another worker that finds the job running, and a callback that
raises after the pause. -/
def pausedThenRaised : Surroundings where
  reconcile := none
  earlier := [.call (ambient 0 jobA) (.create "owner@example.com" .configurationChange "first")]
  claiming := ⟨ambient 1 tokenC, none⟩
  running := [.heartbeat ⟨ambient 4 tokenE, none⟩, .other (.call (ambient 5 tokenD) .claimNext)]
  outcome := .ok (.paused "checkpoint")
  ending := []
  ended := ⟨ambient 6 tokenE, none⟩
  notifying := []
  notified := some "RuntimeError"
  failing := []
  retried := ⟨ambient 7 tokenE, none⟩
  onFailed := none
  leaving := []

theorem run_once_keeps_job_raising :
    (∀ claim, (runOnce sampleSettings (reached sampleSettings []) pausedThenRaised).2.HandedOut
        claim →
      (runOnce sampleSettings (reached sampleSettings []) pausedThenRaised).2.KeepsJob
        sampleSettings claim) ∧
      ((runOnce sampleSettings (reached sampleSettings []) pausedThenRaised).2.issued.map
        fun issued => issued.answer.isOk) = [true, true, true, false] := by
  have hapart : Surroundings.Apart pausedThenRaised.claiming.ambient.fresh.hex
      pausedThenRaised.meanwhile := by
    intro a hmem
    simp only [Surroundings.meanwhile, pausedThenRaised, List.append_nil, List.mem_cons,
      List.not_mem_nil, or_false, reduceCtorEq, false_or, Meanwhile.other.injEq,
      Incident.call.injEq, and_true] at hmem
    rw [hmem]
    decide +kernel
  exact ⟨(run_once_keeps_job sampleSettings [] pausedThenRaised hapart).1, by decide +kernel⟩

end CausalOps.ControlPlane.Sqlite
