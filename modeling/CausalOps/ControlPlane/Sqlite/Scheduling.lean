import CausalOps.ControlPlane.Scheduling
import CausalOps.ControlPlane.Sqlite.Retries

set_option autoImplicit false

/-! `claim_next` of the SQLite control plane, step by step: leases are reclaimed, decided
jobs are queued, one job is selected and started. -/

namespace CausalOps.ControlPlane.Sqlite

def Database.jobTable (db : Database) : JobTable := fun id => (db.job id).map JobRow.toJob

section Requeued

variable {s : Settings} {now : Time} {db : Database} {id : String}

theorem jobTable_eq_some {job : Job} :
    db.jobTable id = some job ↔ ∃ row, db.job id = some row ∧ row.toJob = job :=
  Option.map_eq_some_iff

theorem requeued_update (hkeys : Keys db) {row : JobRow} (hrow : db.job id = some row)
    (hold : Requeuable now row.toJob) (set : JobRow → JobRow)
    (hrowid : (set row).rowid = row.rowid) (hid : (set row).id = row.id)
    (hqueued : (set row).status = .queued) :
    Requeued now db.jobTable (db.updateJob id set).jobTable := by
  intro other
  have hjob := updateJob_job hkeys hrow set hrowid hid other
  simp only [Database.jobTable, hjob]
  by_cases h : other = id
  · subst h
    exact .inr ⟨row.toJob, (set row).toJob, by simp [hrow], hold, by simp, hqueued⟩
  · exact .inl (by rw [if_neg h])

theorem requeued_reclaim (hkeys : Keys db) {row : JobRow} (hrow : db.job row.id = some row)
    (hrunning : row.status = .running) (hexpired : expired now row.claimExpiresAt = true) :
    Requeued now db.jobTable (reclaimInvestigation s now db row).jobTable := by
  have hold : Requeuable now row.toJob := .inl ⟨hrunning, hexpired⟩
  simp only [reclaimInvestigation]
  split
  · exact requeued_update hkeys hrow hold (fun r => { r with
      status := .queued
      claimToken := none
      claimExpiresAt := none
      attemptCount := row.attemptCount + 1
      failureReason := some "retry_limit:lease_expired" }) rfl rfl rfl
  · exact requeued_update hkeys hrow hold (fun r => { r with
      status := .queued
      claimToken := none
      claimExpiresAt := none
      attemptCount := row.attemptCount + 1
      availableAt := now + s.retryDelay (row.attemptCount + 1) }) rfl rfl rfl

theorem requeued_reclaimed (chosen : List JobRow) (hchosen : Rows.Keyed JobRow.key chosen)
    (db : Database) (hkeys : Keys db)
    (hrows : ∀ row ∈ chosen, db.job row.id = some row ∧ row.status = .running ∧
      expired now row.claimExpiresAt = true) :
    Requeued now db.jobTable (chosen.foldl (reclaimInvestigation s now) db).jobTable := by
  induction chosen generalizing db with
  | nil => exact .refl now _
  | cons row rest ih =>
      obtain ⟨hrow, hrunning, hexpired⟩ := hrows row (by simp)
      have hmove : Move s anyRules db (reclaimInvestigation s now db row) :=
        reclaimInvestigation_move hkeys hrow hrunning hexpired
      have hnodup : (row.key :: rest.map JobRow.key).Nodup := hchosen
      refine (requeued_reclaim hkeys hrow hrunning hexpired).trans
        (ih (List.nodup_cons.1 hnodup).2 _ (hmove.keys hkeys) ?_)
      intro later hlater
      obtain ⟨hjob, hstatus⟩ := hrows later (by simp [hlater])
      have hne : later.id ≠ row.id := fun heq =>
        (List.nodup_cons.1 hnodup).1 (List.mem_map.2 ⟨later, hlater, heq⟩)
      exact ⟨(reclaimInvestigation_job_ne hne).trans hjob, hstatus⟩

theorem requeued_expired (hkeys : Keys db) :
    Requeued now db.jobTable (reclaimExpiredInvestigations s now db).jobTable := by
  refine requeued_reclaimed _ (hkeys.jobs.of_sublist List.filter_sublist) db hkeys ?_
  intro row hrow
  simp only [List.mem_filter, Bool.and_eq_true, decide_eq_true_eq] at hrow
  exact ⟨hkeys.jobs.lookup_of_mem hrow.1, hrow.2⟩

theorem requeued_decided (hkeys : Keys db) {row : JobRow} (hrow : db.job id = some row)
    (hpaused : row.status = .pausedApproval) {c : String} {d : OwnerDecision} :
    Requeued now db.jobTable (queueDecided db id c d).jobTable :=
  requeued_update hkeys hrow (.inr hpaused) (fun r => { r with status := .queued }) rfl rfl rfl

theorem reconcileRow_requeued (hkeys : Keys db) {row : JobRow} (hrow : db.job row.id = some row)
    (hpaused : row.status = .pausedApproval) {st st' : Store} {db' : Database}
    (h : (reconcileRow row db).run exec st = (.ok db', st')) :
    Keys db' ∧ Requeued now db.jobTable db'.jobTable ∧
      ∀ other, other ≠ row.id → db'.job other = db.job other := by
  have hqueued : ∀ (base : Database) (c : String) (d : OwnerDecision), Keys base →
      base.jobs = db.jobs →
      Keys (queueDecided base row.id c d) ∧
        Requeued now db.jobTable (queueDecided base row.id c d).jobTable ∧
        ∀ other, other ≠ row.id → (queueDecided base row.id c d).job other = db.job other := by
    intro base c d hbase hjobs
    have hlookup : ∀ other, base.job other = db.job other := fun other => by
      simp only [Database.job, hjobs]
    have hrow' : base.job row.id = some row := (hlookup row.id).trans hrow
    have htable : base.jobTable = db.jobTable := funext fun other => by
      simp only [Database.jobTable, hlookup]
    refine ⟨⟨hbase.jobs.modify fun _ => rfl, hbase.decisions, hbase.deliveries⟩, ?_, ?_⟩
    · rw [← htable]
      exact requeued_decided hbase hrow' hpaused
    · intro other hne
      rw [queueDecided_job hbase hrow', if_neg hne, hlookup]
  simp only [reconcileRow] at h
  split at h
  · cases h
  · simp only [Program.run_call, exec] at h
    split at h
    · cases h
    · obtain ⟨rfl, -⟩ := Prod.mk.inj h |>.imp Except.ok.inj id
      exact ⟨hkeys, .refl now _, fun _ _ => rfl⟩
    · split at h
      · cases h
      · split at h
        · cases h
        · split at h
          · rename_i hnone
            obtain ⟨rfl, -⟩ := Prod.mk.inj h |>.imp Except.ok.inj id
            exact hqueued _ _ _ (insertMirror_keys hkeys hnone) rfl
          · split at h
            · cases h
            · split at h
              · cases h
              · split at h
                · cases h
                · obtain ⟨rfl, -⟩ := Prod.mk.inj h |>.imp Except.ok.inj id
                  exact hqueued db _ _ hkeys rfl

theorem reconcileRows_requeued (chosen : List JobRow) (hchosen : Rows.Keyed JobRow.key chosen)
    (db : Database) (hkeys : Keys db)
    (hrows : ∀ row ∈ chosen, db.job row.id = some row ∧ row.status = .pausedApproval)
    {st st' : Store} {db' : Database}
    (h : (reconcileRows chosen db).run exec st = (.ok db', st')) :
    Keys db' ∧ Requeued now db.jobTable db'.jobTable := by
  induction chosen generalizing db st with
  | nil =>
      obtain ⟨rfl, -⟩ := Prod.mk.inj h |>.imp Except.ok.inj id
      exact ⟨hkeys, .refl now _⟩
  | cons row rest ih =>
      obtain ⟨hrow, hpaused⟩ := hrows row (by simp)
      have hnodup : (row.key :: rest.map JobRow.key).Nodup := hchosen
      simp only [reconcileRows, Program.run_bind] at h
      cases hfirst : (reconcileRow row db).run exec st with
      | mk outcome st₁ =>
          rw [hfirst] at h
          cases outcome with
          | error e => cases h
          | ok db₁ =>
              obtain ⟨hkeys₁, hrequeued, hothers⟩ :
                  Keys db₁ ∧ Requeued now db.jobTable db₁.jobTable ∧
                    ∀ other, other ≠ row.id → db₁.job other = db.job other :=
                reconcileRow_requeued hkeys hrow hpaused hfirst
              have hrest := ih (List.nodup_cons.1 hnodup).2 db₁ hkeys₁ (fun later hlater => by
                obtain ⟨hjob, hstatus⟩ := hrows later (by simp [hlater])
                have hne : later.id ≠ row.id := fun heq =>
                  (List.nodup_cons.1 hnodup).1 (List.mem_map.2 ⟨later, hlater, heq⟩)
                exact ⟨(hothers later.id hne).trans hjob, hstatus⟩) h
              exact ⟨hrest.1, hrequeued.trans hrest.2⟩

end Requeued

section Selection

variable {s : Settings} {now : Time} {db : Database} {id : String}

theorem selected_of_argmin {row : JobRow}
    (hidle : (db.jobs.any fun row => row.status = .running) = false)
    (hlab : db.jobs.any (deferredScenario now) = false)
    (hrow : (db.jobs.filter (claimable now)).argmin claimOrder = some row) :
    Selected now db.jobTable row.toJob := by
  have hmem : ∀ {id : String} {job : Job}, db.jobTable id = some job →
      ∃ r ∈ db.jobs, r.toJob = job := by
    intro id job hjob
    obtain ⟨r, hr, hsame⟩ := jobTable_eq_some.1 hjob
    exact ⟨r, job_mem hr, hsame⟩
  refine ⟨?_, ?_, ?_⟩
  · intro id job hjob hrunning
    obtain ⟨r, hr, rfl⟩ := hmem hjob
    have hnone := List.any_eq_false.1 hidle r hr
    simp [hrunning] at hnone
  · intro id job hjob hwaits hincident
    obtain ⟨r, hr, rfl⟩ := hmem hjob
    have hnone := List.any_eq_false.1 hlab r hr
    simp only [deferredScenario, hwaits.queued, hwaits.live, Option.isNone_none,
      Option.isSome_iff_ne_none.2 hincident, decide_true, Bool.and_self, Bool.true_and,
      decide_eq_true_eq, not_lt] at hnone
    exact hnone
  · intro hnone id job hjob hwaits hready
    obtain ⟨r, hr, rfl⟩ := hmem hjob
    have hdue : r ∈ db.jobs.filter (claimable now) := by
      simp only [List.mem_filter, claimable, Bool.and_eq_true, decide_eq_true_eq,
        Option.isNone_iff_eq_none]
      exact ⟨hr, ⟨hwaits.queued, hwaits.live⟩, hready⟩
    exact claimOrder_le_of_none (List.le_of_mem_argmin hdue hrow) hnone

theorem claimRow_ran {a : Ambient} {row : JobRow} {st st' : Store} {reply : Reply}
    {db' : Database} (h : (claimRow s a row db).run exec st = (.ok (reply, db'), st')) :
    db' = startClaim s a.now a.fresh.hex row db := by
  simp only [claimRow] at h
  split at h
  · exact (congrArg Prod.snd (Except.ok.inj (congrArg Prod.fst h))).symm
  · split at h
    · cases h
    · split at h
      · cases h
      · split at h
        · cases h
        · simp only [Program.run_bind] at h
          split at h
          · exact (congrArg Prod.snd (Except.ok.inj (congrArg Prod.fst h))).symm
          · cases h

theorem claimNext_exclusive (hkeys : Keys db) {a : Ambient} {st st' : Store} {reply : Reply}
    {db' : Database} (h : (claimNext s a db).run exec st = (.ok (reply, db'), st')) :
    ClaimsExclusively a.now db.jobTable db'.jobTable ∧
      ClaimsExclusively a.now (reclaimExpiredInvestigations s a.now db).jobTable
        db'.jobTable := by
  have hreclaimed : Moves s anyRules db (reclaimExpiredInvestigations s a.now db) :=
    reclaimExpiredInvestigations_moves hkeys
  have hkeys₀ := hreclaimed.keys hkeys
  have hexpired : Requeued a.now db.jobTable
      (reclaimExpiredInvestigations s a.now db).jobTable := requeued_expired hkeys
  simp only [claimNext, Program.run_bind] at h
  split at h
  · rename_i db₁ st₁ hreconcile
    obtain ⟨hkeys₁, hdecided⟩ : Keys db₁ ∧ Requeued a.now
        (reclaimExpiredInvestigations s a.now db).jobTable db₁.jobTable :=
      reconcileRows_requeued _ (hkeys₀.jobs.of_sublist List.filter_sublist) _ hkeys₀
        (fun row hrow => by
          simp only [List.mem_filter, decide_eq_true_eq] at hrow
          exact ⟨hkeys₀.jobs.lookup_of_mem hrow.1, hrow.2⟩) hreconcile
    have hrequeued := hexpired.trans hdecided
    have hnothing : (.ok (.claim none, db₁), st₁) =
        ((.ok (reply, db'), st') : Except Refusal (Reply × Database) × Store) →
        ClaimsExclusively a.now db.jobTable db'.jobTable ∧
          ClaimsExclusively a.now (reclaimExpiredInvestigations s a.now db).jobTable
            db'.jobTable := by
      intro heq
      obtain rfl : db₁ = db' := congrArg Prod.snd (Except.ok.inj (congrArg Prod.fst heq))
      exact ⟨hrequeued.claims_none, hdecided.claims_none⟩
    split at h
    · exact hnothing h
    · rename_i hidle
      split at h
      · exact hnothing h
      · rename_i hlab
        split at h
        · exact hnothing h
        · rename_i row hrow
          have hmem := (List.mem_filter.1 (List.argmin_mem hrow)).1
          have hlookup : db₁.job row.id = some row := hkeys₁.jobs.lookup_of_mem hmem
          have hselected := selected_of_argmin (by simpa using hidle) (by simpa using hlab) hrow
          rw [claimRow_ran h]
          have hfinal : ∀ other, (startClaim s a.now a.fresh.hex row db₁).jobTable other =
              if other = row.id then some { row.toJob with
                status := .running
                claimToken := some a.fresh.hex
                claimExpiresAt := some (a.now + s.claimLeaseSeconds) }
              else db₁.jobTable other := by
            intro other
            simp only [Database.jobTable, startClaim_job hkeys₁ hlookup]
            split <;> rfl
          have hincident : ({ row.toJob with
              status := .running
              claimToken := some a.fresh.hex
              claimExpiresAt := some (a.now + s.claimLeaseSeconds) } : Job).incidentId =
            row.toJob.incidentId := rfl
          exact ⟨hrequeued.claims hselected hincident hfinal,
            hdecided.claims hselected hincident hfinal⟩
  · cases h

/-- One call of `claim_next`, whatever the clock shows: nothing is taken from the jobs that it
found, nor, when it answers, from those it has put back. -/
theorem step_claimNext_exclusive {store : Store} (hkeys : Keys store.control) (a : Ambient) :
    ClaimsExclusively a.now store.control.jobTable
        (step s store (a, .claimNext)).2.control.jobTable ∧
      ∀ reply, (step s store (a, .claimNext)).1 = .ok reply →
        ClaimsExclusively a.now (reclaimExpiredInvestigations s a.now store.control).jobTable
          (step s store (a, .claimNext)).2.control.jobTable := by
  cases hanswer : (step s store (a, .claimNext)).1 with
  | error e =>
      rw [(step_moves hkeys (a, .claimNext)).2 e hanswer]
      refine ⟨(Requeued.refl a.now _).claims_none, ?_⟩
      intro reply hok
      cases hok
  | ok reply =>
      revert hanswer
      simp only [step, method, precheck, body, run_transaction]
      cases hrun : (claimNext s a store.control).run exec store with
      | mk outcome store' =>
          cases outcome with
          | error e => intro h; cases h
          | ok answer =>
              intro _
              obtain ⟨hfound, hleft⟩ := claimNext_exclusive hkeys hrun
              exact ⟨hfound, fun _ _ => hleft⟩

end Selection

end CausalOps.ControlPlane.Sqlite
