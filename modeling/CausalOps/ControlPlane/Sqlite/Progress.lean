import CausalOps.ControlPlane.Sqlite.Retries
import CausalOps.ControlPlane.Sqlite.Scheduling

set_option autoImplicit false

/-! Nothing is stranded: when `claim_next` and `claim_delivery` find nothing to do once the
leases and the backoffs are over, no work is left. -/

namespace CausalOps.ControlPlane.Sqlite

section Bounds

variable {s : Settings} {now bound : Time} {db : Database}

def Live (job : Job) : Prop :=
  job.failureReason = none ∧ (job.status = .queued ∨ job.status = .running)

def DeliveryLive (delivery : Delivery) : Prop :=
  delivery.failureReason = none ∧ (delivery.status = .pending ∨ delivery.status = .sending)

def Due (bound : Time) (db : Database) : Prop := ∀ row ∈ db.jobs, row.availableAt ≤ bound

def DeliveriesDue (bound : Time) (db : Database) : Prop :=
  ∀ row ∈ db.deliveries, row.availableAt ≤ bound

theorem retryDelay_le (s : Settings) (attempt : ℕ) : s.retryDelay attempt ≤ 3600 :=
  min_le_right _ _

theorem exists_bound {ρ : Type} (times : ρ → List Time) (rows : List ρ) :
    ∃ bound, ∀ row ∈ rows, ∀ t ∈ times row, t ≤ bound := by
  induction rows with
  | nil => exact ⟨0, by simp⟩
  | cons row rest ih =>
      obtain ⟨bound, hrest⟩ := ih
      have hrow : ∀ l : List Time, ∃ top, ∀ t ∈ l, t ≤ top := by
        intro l
        induction l with
        | nil => exact ⟨0, by simp⟩
        | cons t l ih =>
            obtain ⟨top, htop⟩ := ih
            refine ⟨max t top, ?_⟩
            rintro u (_ | ⟨_, hu⟩)
            · exact le_max_left _ _
            · exact (htop u hu).trans (le_max_right _ _)
      obtain ⟨top, htop⟩ := hrow (times row)
      refine ⟨max top bound, ?_⟩
      intro r hr t ht
      rcases List.mem_cons.1 hr with rfl | hr
      · exact (htop t ht).trans (le_max_left _ _)
      · exact (hrest r hr t ht).trans (le_max_right _ _)

theorem Due.reclaim (hdue : Due bound db) (hbound : now + 3600 ≤ bound) :
    Due bound (reclaimExpiredInvestigations s now db) := by
  have hone : ∀ (db : Database) (row : JobRow), Due bound db →
      Due bound (reclaimInvestigation s now db row) := by
    intro db row hdue r hr
    simp only [reclaimInvestigation] at hr
    split at hr
    · obtain ⟨old, hold, rfl⟩ := Rows.mem_modify.1 hr
      split <;> exact hdue old hold
    · obtain ⟨old, hold, rfl⟩ := Rows.mem_modify.1 hr
      split
      · have hdelay := retryDelay_le s (row.attemptCount + 1)
        change now + s.retryDelay (row.attemptCount + 1) ≤ bound
        linarith
      · exact hdue old hold
  have hall : ∀ (chosen : List JobRow) (db : Database), Due bound db →
      Due bound (chosen.foldl (reclaimInvestigation s now) db) := by
    intro chosen
    induction chosen with
    | nil => exact fun _ h => h
    | cons row rest ih => exact fun db h => ih _ (hone db row h)
  exact hall _ db hdue

theorem DeliveriesDue.reclaim (hdue : DeliveriesDue bound db) (hbound : now + 3600 ≤ bound) :
    DeliveriesDue bound (reclaimExpiredDeliveries s now db) := by
  have hone : ∀ (db : Database) (row : DeliveryRow), DeliveriesDue bound db →
      DeliveriesDue bound (reclaimDelivery s now db row) := by
    intro db row hdue r hr
    simp only [reclaimDelivery] at hr
    split at hr
    · obtain ⟨old, hold, rfl⟩ := Rows.mem_modify.1 hr
      split <;> exact hdue old hold
    · obtain ⟨old, hold, rfl⟩ := Rows.mem_modify.1 hr
      split
      · have hdelay := retryDelay_le s (row.attemptCount + 1)
        change now + s.retryDelay (row.attemptCount + 1) ≤ bound
        linarith
      · exact hdue old hold
  have hall : ∀ (chosen : List DeliveryRow) (db : Database), DeliveriesDue bound db →
      DeliveriesDue bound (chosen.foldl (reclaimDelivery s now) db) := by
    intro chosen
    induction chosen with
    | nil => exact fun _ h => h
    | cons row rest ih => exact fun db h => ih _ (hone db row h)
  exact hall _ db hdue

theorem reclaimed_queued (chosen : List JobRow) (hchosen : Rows.Keyed JobRow.key chosen)
    (db : Database) (hkeys : Keys db)
    (hrows : ∀ row ∈ chosen, db.job row.id = some row ∧ row.status = .running ∧
      expired now row.claimExpiresAt = true) :
    ∀ row ∈ chosen, ∃ row', (chosen.foldl (reclaimInvestigation s now) db).job row.id =
      some row' ∧ row'.status = .queued := by
  induction chosen generalizing db with
  | nil => simp
  | cons first rest ih =>
      obtain ⟨hrow, hrunning, hexpired⟩ := hrows first (by simp)
      have hmove : Move s anyRules db (reclaimInvestigation s now db first) :=
        reclaimInvestigation_move hkeys hrow hrunning hexpired
      have hnodup : (first.key :: rest.map JobRow.key).Nodup := hchosen
      have hne : ∀ later ∈ rest, later.id ≠ first.id := fun later hlater heq =>
        (List.nodup_cons.1 hnodup).1 (List.mem_map.2 ⟨later, hlater, heq⟩)
      intro row hmem
      rw [List.foldl_cons]
      rcases List.mem_cons.1 hmem with rfl | hmem
      · have hkept := @reclaimInvestigations_job_ne s now row.id rest
          (reclaimInvestigation s now db row) fun later hlater => (hne later hlater).symm
        rw [hkept]
        simp only [reclaimInvestigation]
        split
        · exact ⟨_, (updateJob_job hkeys hrow _ rfl rfl row.id).trans (if_pos rfl), rfl⟩
        · exact ⟨_, (updateJob_job hkeys hrow _ rfl rfl row.id).trans (if_pos rfl), rfl⟩
      · refine ih (List.nodup_cons.1 hnodup).2 _ (hmove.keys hkeys) ?_ row hmem
        intro later hlater
        obtain ⟨hjob, hstatus⟩ := hrows later (by simp [hlater])
        exact ⟨(reclaimInvestigation_job_ne (hne later hlater)).trans hjob, hstatus⟩

theorem none_running (hkeys : Keys db)
    (hover : ∀ row ∈ db.jobs, row.status = .running → expired now row.claimExpiresAt = true) :
    ∀ row ∈ (reclaimExpiredInvestigations s now db).jobs, row.status ≠ .running := by
  intro row hrow hrunning
  have hmoves : Moves s anyRules db (reclaimExpiredInvestigations s now db) :=
    reclaimExpiredInvestigations_moves hkeys
  have hlookup : (reclaimExpiredInvestigations s now db).job row.id = some row :=
    (hmoves.keys hkeys).jobs.lookup_of_mem hrow
  have htable := @requeued_expired s now db hkeys row.id
  simp only [Database.jobTable, hlookup, Option.map_some] at htable
  rcases htable with hsame | ⟨job, job', -, -, hjob', hqueued⟩
  · obtain ⟨old, hold, heq⟩ := Option.map_eq_some_iff.1 hsame.symm
    have hstatus : old.status = .running := (congrArg Job.status heq).trans hrunning
    have hmem := job_mem hold
    obtain ⟨row', hrow', hqueued⟩ := @reclaimed_queued s now
      (db.jobs.filter fun r => r.status = .running && expired now r.claimExpiresAt)
      (hkeys.jobs.of_sublist List.filter_sublist) db hkeys (by
        intro r hr
        simp only [List.mem_filter, Bool.and_eq_true, decide_eq_true_eq] at hr
        exact ⟨hkeys.jobs.lookup_of_mem hr.1, hr.2⟩) old
      (by simp [hmem, hstatus, hover old hmem hstatus])
    rw [job_id hold] at hrow'
    have hrow'' : (reclaimExpiredInvestigations s now db).job row.id = some row' := hrow'
    rw [hlookup] at hrow''
    cases hrow''
    rw [hrunning] at hqueued
    cases hqueued
  · cases hjob'
    rw [hrunning] at hqueued
    cases hqueued

theorem reclaim_of_idle (hidle : ∀ row ∈ db.jobs, row.status ≠ .running) :
    reclaimExpiredInvestigations s now db = db := by
  have hnone : (db.jobs.filter fun row => row.status = .running && expired now row.claimExpiresAt)
      = [] := List.filter_eq_nil_iff.2 fun row hrow => by simp [hidle row hrow]
  simp only [reclaimExpiredInvestigations, hnone, List.foldl_nil]

theorem reclaimDeliveries_of_idle (hidle : ∀ row ∈ db.deliveries, row.status ≠ .sending) :
    reclaimExpiredDeliveries s now db = db := by
  have hnone : (db.deliveries.filter
      fun row => row.status = .sending && expired now row.claimExpiresAt) = [] :=
    List.filter_eq_nil_iff.2 fun row hrow => by simp [hidle row hrow]
  simp only [reclaimExpiredDeliveries, hnone, List.foldl_nil]

end Bounds

section Reconciled

variable {db db' : Database} {st st' : Store}

theorem reconcileRow_times {row : JobRow} (h : (reconcileRow row db).run exec st = (.ok db', st')) :
    db'.jobs.map (fun r => r.availableAt) = db.jobs.map fun r => r.availableAt := by
  have hqueued : ∀ (base : Database) (c : String) (d : OwnerDecision), base.jobs = db.jobs →
      (queueDecided base row.id c d).jobs.map (fun r => r.availableAt) =
        db.jobs.map fun r => r.availableAt := by
    intro base c d hjobs
    simp only [queueDecided, Database.event, Database.updateJob, Rows.modify, hjobs, List.map_map]
    refine List.map_congr_left fun r _ => ?_
    by_cases hid : r.key = row.id <;> simp [hid]
  simp only [reconcileRow] at h
  split at h
  · cases h
  · simp only [Program.run_call, exec] at h
    split at h
    · cases h
    · obtain ⟨rfl, -⟩ := Prod.mk.inj h |>.imp Except.ok.inj id
      rfl
    · split at h
      · cases h
      · split at h
        · cases h
        · split at h
          · obtain ⟨rfl, -⟩ := Prod.mk.inj h |>.imp Except.ok.inj id
            exact hqueued _ _ _ rfl
          · split at h
            · cases h
            · split at h
              · cases h
              · split at h
                · cases h
                · obtain ⟨rfl, -⟩ := Prod.mk.inj h |>.imp Except.ok.inj id
                  exact hqueued db _ _ rfl

theorem reconcileRows_times (rows : List JobRow)
    (h : (reconcileRows rows db).run exec st = (.ok db', st')) :
    db'.jobs.map (fun r => r.availableAt) = db.jobs.map fun r => r.availableAt := by
  induction rows generalizing db st with
  | nil =>
      obtain ⟨rfl, -⟩ := Prod.mk.inj h |>.imp Except.ok.inj id
      rfl
  | cons row rest ih =>
      simp only [reconcileRows, Program.run_bind] at h
      cases hfirst : (reconcileRow row db).run exec st with
      | mk outcome st₁ =>
          rw [hfirst] at h
          cases outcome with
          | error e => cases h
          | ok db₁ => exact (ih h).trans (reconcileRow_times hfirst)

theorem Due.of_times {bound : Time} (hdue : Due bound db)
    (h : db'.jobs.map (fun r => r.availableAt) = db.jobs.map fun r => r.availableAt) :
    Due bound db' := by
  intro row hrow
  have hmem := List.mem_map_of_mem (f := fun r : JobRow => r.availableAt) hrow
  rw [h, List.mem_map] at hmem
  obtain ⟨old, hold, heq⟩ := hmem
  exact heq ▸ hdue old hold

theorem none_running_reconciled {now : Time} (hkeys' : Keys db')
    (hrequeued : Requeued now db.jobTable db'.jobTable)
    (hidle : ∀ row ∈ db.jobs, row.status ≠ .running) :
    ∀ row ∈ db'.jobs, row.status ≠ .running := by
  intro row hrow hrunning
  have hlookup : db'.job row.id = some row := hkeys'.jobs.lookup_of_mem hrow
  have htable := hrequeued row.id
  simp only [Database.jobTable, hlookup, Option.map_some] at htable
  rcases htable with hsame | ⟨job, job', -, -, hjob', hqueued⟩
  · obtain ⟨old, hold, heq⟩ := Option.map_eq_some_iff.1 hsame.symm
    exact hidle old (job_mem hold) ((congrArg Job.status heq).trans hrunning)
  · cases hjob'
    rw [hrunning] at hqueued
    cases hqueued

end Reconciled

section Claims

variable {s : Settings} {store : Store} {a b : Ambient}

theorem claimRow_reply {row : JobRow} {db db' : Database} {st st' : Store} {reply : Reply}
    (h : (claimRow s a row db).run exec st = (.ok (reply, db'), st')) :
    ∃ claim, reply = .claim (some claim) := by
  have hreply : ∀ claim (d d' : Database),
      (Except.ok (Reply.claim (some claim), d) : Except Refusal _) = .ok (reply, d') →
        ∃ claim, reply = .claim (some claim) := by
    intro claim d d' heq
    cases heq
    exact ⟨claim, rfl⟩
  simp only [claimRow] at h
  split at h
  · exact hreply _ _ _ (congrArg Prod.fst h)
  · split at h
    · cases h
    · split at h
      · cases h
      · split at h
        · cases h
        · simp only [Program.run_bind] at h
          split at h
          · exact hreply _ _ _ (congrArg Prod.fst h)
          · cases h

/-- What `claim_next` left when it handed out nothing: jobs that are due no later, none running
when all leases were over, and nothing that could have been claimed. -/
structure Unclaimed (now : Time) (db db' : Database) : Prop where
  due : ∀ bound, Due bound db → now + 3600 ≤ bound → Due bound db'
  kept : (∀ row ∈ db.jobs, row.status ≠ .running) → ∀ bound, Due bound db → Due bound db'
  idle : (∀ row ∈ db.jobs, row.status = .running → expired now row.claimExpiresAt = true) →
    ∀ row ∈ db'.jobs, row.status ≠ .running
  waiting : (∃ row ∈ db'.jobs, row.status = .running) ∨
    (∃ row ∈ db'.jobs, deferredScenario now row = true) ∨
      ∀ row ∈ db'.jobs, claimable now row = false

theorem claimNext_unclaimed (hkeys : Keys store.control)
    (h : (step s store (a, .claimNext)).1 = .ok (.claim none)) :
    Unclaimed a.now store.control (step s store (a, .claimNext)).2.control := by
  simp only [step, method, precheck, body, run_transaction, claimNext, Program.run_bind] at h ⊢
  cases hreconcile : (reconcileDurableDecisions
      (reclaimExpiredInvestigations s a.now store.control)).run exec store with
  | mk outcome st =>
      cases outcome with
      | error e => simp [hreconcile] at h
      | ok db =>
          have hreclaimed : Moves s anyRules store.control
              (reclaimExpiredInvestigations s a.now store.control) :=
            reclaimExpiredInvestigations_moves hkeys
          have hkeys₀ := hreclaimed.keys hkeys
          obtain ⟨hkeys', hrequeued⟩ : Keys db ∧ Requeued a.now
              (reclaimExpiredInvestigations s a.now store.control).jobTable db.jobTable :=
            reconcileRows_requeued _ (hkeys₀.jobs.of_sublist List.filter_sublist) _ hkeys₀
              (fun row hrow => by
                simp only [List.mem_filter, decide_eq_true_eq] at hrow
                exact ⟨hkeys₀.jobs.lookup_of_mem hrow.1, hrow.2⟩) hreconcile
          have hleft : ∀ waiting, Unclaimed a.now store.control db := fun waiting =>
            { due := fun bound hdue hbound =>
                (hdue.reclaim hbound).of_times (reconcileRows_times _ hreconcile)
              kept := fun hidle bound hdue => Due.of_times (by
                rwa [reclaim_of_idle hidle]) (reconcileRows_times _ hreconcile)
              idle := fun hover =>
                none_running_reconciled hkeys' hrequeued (none_running hkeys hover)
              waiting := waiting }
          simp only [hreconcile] at h ⊢
          cases hrunning : db.jobs.any fun row => row.status = .running with
          | true =>
              simp only [if_true, Program.run_ret]
              exact hleft (.inl (by simpa using hrunning))
          | false =>
              simp only [hrunning, Bool.false_eq_true, if_false] at h ⊢
              cases hdeferred : db.jobs.any (deferredScenario a.now) with
              | true =>
                  simp only [if_true, Program.run_ret]
                  exact hleft (.inr (.inl (by simpa using hdeferred)))
              | false =>
                  simp only [hdeferred, Bool.false_eq_true, if_false] at h ⊢
                  cases hselected : (db.jobs.filter (claimable a.now)).argmin claimOrder with
                  | none =>
                      refine hleft (.inr (.inr fun row hrow => ?_))
                      by_contra hclaimable
                      have hmem : row ∈ db.jobs.filter (claimable a.now) :=
                        List.mem_filter.2 ⟨hrow, by simpa using hclaimable⟩
                      rw [List.argmin_eq_none.1 hselected] at hmem
                      cases hmem
                  | some row =>
                      simp only [hselected] at h
                      cases hrun : (claimRow s a row db).run exec st with
                      | mk outcome st' =>
                          rw [hrun] at h
                          cases outcome with
                          | error e => cases h
                          | ok answered =>
                              obtain ⟨reply, db'⟩ := answered
                              obtain ⟨claim, rfl⟩ := claimRow_reply hrun
                              cases h

theorem Unclaimed.none_live {now : Time} {db db' : Database} (h : Unclaimed now db db')
    (hidle : ∀ row ∈ db'.jobs, row.status ≠ .running) (hdue : Due now db') :
    ∀ row ∈ db'.jobs, ¬ Live row.toJob := by
  rcases h.waiting with ⟨row, hrow, hrunning⟩ | ⟨row, hrow, hdeferred⟩ | hwaiting
  · exact absurd hrunning (hidle row hrow)
  · simp only [deferredScenario, Bool.and_eq_true, decide_eq_true_eq] at hdeferred
    exact absurd (hdue row hrow) (not_le.2 hdeferred.2)
  · rintro row hrow ⟨hreason, hqueued | hrunning⟩
    · have hclaimable := hwaiting row hrow
      simp [claimable, hqueued, hreason, hdue row hrow] at hclaimable
    · exact hidle row hrow hrunning

end Claims

section Deliveries

variable {s : Settings} {db db' : Database} {a : Ambient}

def LeasedThread (t : Thread) : Prop :=
  ∀ delivery, t.delivery = some delivery → delivery.status = .sending →
    delivery.claimExpiresAt ≠ none

theorem leased_of_steps {t : Thread} (h : Thread.Steps s .absent t) : LeasedThread t := by
  induction h with
  | refl =>
      intro delivery hdelivery
      cases hdelivery
  | tail hsteps hstep ih =>
      cases hstep with
      | created => exact ih
      | job => exact ih
      | decided => exact ih
      | finalized =>
          intro delivery hdelivery hsending
          cases hdelivery
          cases hsending
      | @delivery old new o hold hchange =>
          intro delivery hdelivery hsending
          cases hdelivery
          cases hchange with
          | leaseFailed => cases hsending
          | leaseExpired => cases hsending
          | claimed => simp
          | delivered => cases hsending
          | renewed => simp
          | released => cases hsending
          | retryFailed => cases hsending
          | retryScheduled => cases hsending

theorem reclaimed_pending (chosen : List DeliveryRow)
    (hchosen : Rows.Keyed DeliveryRow.key chosen) (now : Time) (db : Database) (hkeys : Keys db)
    (hrows : ∀ row ∈ chosen, db.delivery row.jobId = some row ∧ row.status = .sending ∧
      expired now row.claimExpiresAt = true) :
    ∀ id row', (chosen.foldl (reclaimDelivery s now) db).delivery id = some row' →
      row'.status = .pending ∨
        (db.delivery id = some row' ∧ ∀ row ∈ chosen, row.jobId ≠ id) := by
  induction chosen generalizing db with
  | nil => exact fun id row' h => .inr ⟨h, by simp⟩
  | cons first rest ih =>
      obtain ⟨hrow, hsending, hexpired⟩ := hrows first (by simp)
      have hmove : Move s anyRules db (reclaimDelivery s now db first) :=
        reclaimDelivery_move hkeys hrow hsending hexpired
      have hnodup : (first.key :: rest.map DeliveryRow.key).Nodup := hchosen
      have hne : ∀ later ∈ rest, later.jobId ≠ first.jobId := fun later hlater heq =>
        (List.nodup_cons.1 hnodup).1 (List.mem_map.2 ⟨later, hlater, heq⟩)
      intro id row' hrow'
      rw [List.foldl_cons] at hrow'
      rcases ih (List.nodup_cons.1 hnodup).2 _ (hmove.keys hkeys) (fun later hlater => by
        obtain ⟨hdelivery, hstatus⟩ := hrows later (by simp [hlater])
        exact ⟨(reclaimDelivery_delivery_ne (hne later hlater)).trans hdelivery, hstatus⟩)
        id row' hrow' with hpending | ⟨hkept, hothers⟩
      · exact .inl hpending
      · by_cases hid : first.jobId = id
        · subst hid
          left
          simp only [reclaimDelivery] at hkept
          split at hkept
          · rw [updateDelivery_eq_setDelivery hkeys hrow _ rfl] at hkept
            have hself := (@setDelivery_delivery db first.jobId hkeys first hrow { first.toDelivery with
              status := .pending
              claimToken := none
              claimExpiresAt := none
              attemptCount := first.attemptCount + 1
              failureReason := some "retry_limit:lease_expired" } rfl first.jobId).trans
                (if_pos rfl)
            cases hself.symm.trans hkept
            rfl
          · rw [updateDelivery_eq_setDelivery hkeys hrow _ rfl] at hkept
            have hself := (@setDelivery_delivery db first.jobId hkeys first hrow { first.toDelivery with
              status := .pending
              claimToken := none
              claimExpiresAt := none
              attemptCount := first.attemptCount + 1
              availableAt := now + s.retryDelay (first.attemptCount + 1) } rfl
                first.jobId).trans (if_pos rfl)
            cases hself.symm.trans hkept
            rfl
        · refine .inr ⟨(reclaimDelivery_delivery_ne (Ne.symm hid)).symm.trans hkept, ?_⟩
          rintro row (_ | ⟨_, hmem⟩)
          · exact hid
          · exact hothers row hmem

theorem none_sending {now : Time} (hkeys : Keys db)
    (hover : ∀ row ∈ db.deliveries, row.status = .sending →
      expired now row.claimExpiresAt = true) :
    ∀ row ∈ (reclaimExpiredDeliveries s now db).deliveries, row.status ≠ .sending := by
  intro row hrow hsending
  have hmoves : Moves s anyRules db (reclaimExpiredDeliveries s now db) :=
    reclaimExpiredDeliveries_moves hkeys
  have hlookup : (reclaimExpiredDeliveries s now db).delivery row.jobId = some row :=
    (hmoves.keys hkeys).deliveries.lookup_of_mem hrow
  rcases reclaimed_pending (s := s) _ (hkeys.deliveries.of_sublist List.filter_sublist) now db hkeys
    (fun r hr => by
      simp only [List.mem_filter, Bool.and_eq_true, decide_eq_true_eq] at hr
      exact ⟨hkeys.deliveries.lookup_of_mem hr.1, hr.2⟩) row.jobId row hlookup with
    hpending | ⟨hkept, hothers⟩
  · rw [hsending] at hpending
    cases hpending
  · have hmem := delivery_mem hkept
    exact hothers row (by simp [hmem, hsending, hover row hmem hsending]) rfl

/-- `claim_delivery` is always answered, and hands out a delivery that is due. -/
theorem claimDelivery_answers (hgoverned : Governed s db) :
    ∃ claim db', claimDelivery s a db = .ok (.delivery claim, db') ∧
      (claim = none → db' = reclaimExpiredDeliveries s a.now db ∧
        ∀ row ∈ db'.deliveries, deliverable a.now row.toDelivery = false) := by
  have hmoves : Moves s anyRules db (reclaimExpiredDeliveries s a.now db) :=
    reclaimExpiredDeliveries_moves hgoverned.keys
  have hreclaimed := hgoverned.moves hmoves
  simp only [claimDelivery]
  cases hselected : ((joined (reclaimExpiredDeliveries s a.now db)).filter
      fun pair => deliverable a.now pair.1.toDelivery).argmin deliveryOrder with
  | none =>
      refine ⟨none, _, rfl, fun _ => ⟨rfl, fun row hrow => ?_⟩⟩
      obtain ⟨job, hjob, -⟩ := hreclaimed.orderly.delivered row hrow
      have hpair : (row, job) ∈ joined (reclaimExpiredDeliveries s a.now db) := by
        simp only [joined, List.mem_filterMap]
        exact ⟨row, hrow, by rw [hjob]; rfl⟩
      by_contra hdeliverable
      have hmem : (row, job) ∈ (joined (reclaimExpiredDeliveries s a.now db)).filter
          fun pair => deliverable a.now pair.1.toDelivery :=
        List.mem_filter.2 ⟨hpair, by simpa using hdeliverable⟩
      rw [List.argmin_eq_none.1 hselected] at hmem
      cases hmem
  | some pair =>
      obtain ⟨delivery, job⟩ := pair
      have hjoined := (List.mem_filter.1 (List.argmin_mem hselected)).1
      obtain ⟨hdelivery, hjob⟩ := joined_mem hjoined
      obtain ⟨row, hrow, hcompleted⟩ := hreclaimed.orderly.delivered delivery hdelivery
      rw [hjob] at hrow
      cases hrow
      obtain ⟨artifact, content, path, hartifact, -, hcontent, hsha, -⟩ :=
        hreclaimed.orderly.finished job (job_mem hjob) hcompleted
      have hclaim : ∃ claim, deliveryClaim job.toJob delivery.destinationEmail a.fresh.hex =
          .ok claim := by
        simp only [deliveryClaim, hartifact, hcontent, hsha]
        exact ⟨_, rfl⟩
      obtain ⟨claim, hclaim⟩ := hclaim
      simp only [hclaim]
      exact ⟨some claim, _, rfl, fun h => by cases h⟩

end Deliveries

section Progress

variable {s : Settings}

theorem step_claimDelivery {store : Store} (hgoverned : Governed s store.control) (a : Ambient) :
    ∃ claim, (step s store (a, .claimDelivery)).1 = .ok (.delivery claim) ∧
      (claim = none → (step s store (a, .claimDelivery)).2.control =
          reclaimExpiredDeliveries s a.now store.control ∧
        ∀ row ∈ (step s store (a, .claimDelivery)).2.control.deliveries,
          deliverable a.now row.toDelivery = false) := by
  obtain ⟨claim, db', hanswer, hnone⟩ := @claimDelivery_answers s store.control a hgoverned
  refine ⟨claim, ?_⟩
  simp only [step, method, precheck, body, run_transaction, hanswer, Program.lift_ok,
    Program.run_ret]
  exact ⟨trivial, hnone⟩

theorem step_governed {store : Store} (hgoverned : Governed s store.control)
    (input : Ambient × Call) : Governed s (step s store input).2.control :=
  hgoverned.moves (step_moves hgoverned.keys input).1

/-- The leases and backoffs that a store holds are over. -/
structure Over (bound : Time) (db : Database) : Prop where
  due : Due bound db
  leases : ∀ row ∈ db.jobs, row.status = .running → expired bound row.claimExpiresAt = true
  deliveriesDue : DeliveriesDue bound db
  deliveryLeases : ∀ row ∈ db.deliveries, row.status = .sending →
    expired bound row.claimExpiresAt = true

theorem expired_mono {bound now : Time} (hle : bound ≤ now) {expiresAt : Option Time}
    (h : expired bound expiresAt = true) : expired now expiresAt = true := by
  cases expiresAt with
  | none => cases h
  | some t =>
      simp only [expired, decide_eq_true_eq] at h ⊢
      exact h.trans hle

theorem Over.mono {bound now : Time} {db : Database} (h : Over bound db) (hle : bound ≤ now) :
    Over now db :=
  ⟨fun row hrow => (h.due row hrow).trans hle,
    fun row hrow hrunning => expired_mono hle (h.leases row hrow hrunning),
    fun row hrow => (h.deliveriesDue row hrow).trans hle,
    fun row hrow hsending => expired_mono hle (h.deliveryLeases row hrow hsending)⟩

/-- After some time, all leases and backoffs of a reached store are over. -/
theorem exists_over (s : Settings) (incidents : List Incident) :
    ∃ bound, Over bound (reached s incidents).control := by
  have hmoves : Moves s anyRules Store.empty.control (reached s incidents).control :=
    run_moves incidents keys_empty
  have hfenced := (hmoves.preserve (fun _ _ hkeys hfenced hmove => hfenced.move hkeys hmove)
    keys_empty fenced_empty).2
  have hkeys := hmoves.keys keys_empty
  obtain ⟨top, htop⟩ := exists_bound (fun row : JobRow =>
    row.availableAt :: row.claimExpiresAt.toList) (reached s incidents).control.jobs
  obtain ⟨last, hlast⟩ := exists_bound (fun row : DeliveryRow =>
    row.availableAt :: row.claimExpiresAt.toList) (reached s incidents).control.deliveries
  refine ⟨max top last, ?_, ?_, ?_, ?_⟩
  · exact fun row hrow => (htop row hrow _ (by simp)).trans (le_max_left _ _)
  · intro row hrow hrunning
    have hleased := ((hfenced.leased row hrow).1 hrunning).2
    obtain ⟨t, ht⟩ := Option.isSome_iff_exists.1 hleased
    rw [ht]
    have hle : t ≤ top := htop row hrow t (by simp [ht])
    simp [expired, hle]
  · exact fun row hrow => (hlast row hrow _ (by simp)).trans (le_max_right _ _)
  · intro row hrow hsending
    have hsteps := hmoves.thread keys_empty orderly_empty row.jobId
    have hlookup : (reached s incidents).control.delivery row.jobId = some row :=
      hkeys.deliveries.lookup_of_mem hrow
    obtain ⟨t, ht⟩ := Option.ne_none_iff_exists'.1
      (leased_of_steps hsteps row.toDelivery (thread_of_delivery hlookup) hsending)
    rw [ht]
    have hle : t ≤ last := hlast row hrow t (by simp [ht])
    simp [expired, hle]

theorem claims_progress {store store' : Store} {a b : Ambient} (hover : Over a.now store.control)
    (hb : a.now + 3600 ≤ b.now) (hgoverned' : Governed s store'.control)
    (hleft : Unclaimed a.now store.control store'.control)
    (hsecond : (step s store' (b, .claimNext)).1 = .ok (.claim none)) :
    ∀ row ∈ (step s store' (b, .claimNext)).2.control.jobs, ¬ Live row.toJob := by
  have hidle := hleft.idle hover.leases
  have hdue : Due (a.now + 3600) store'.control :=
    hleft.due _ (fun row hrow => (hover.due row hrow).trans
      (le_add_of_nonneg_right (by norm_num))) le_rfl
  have hleft' := claimNext_unclaimed hgoverned'.keys hsecond
  have hidle' := hleft'.idle fun row hrow hrunning => absurd hrunning (hidle row hrow)
  exact hleft'.none_live hidle'
    (hleft'.kept hidle b.now fun row hrow => (hdue row hrow).trans hb)

theorem deliveries_progress {store store' : Store} {a b : Ambient}
    (hover : Over a.now store.control) (hb : a.now + 3600 ≤ b.now)
    (hgoverned : Governed s store.control) (hgoverned' : Governed s store'.control)
    (hcontrol : store'.control = reclaimExpiredDeliveries s a.now store.control)
    (hsecond : (step s store' (b, .claimDelivery)).1 = .ok (.delivery none)) :
    ∀ row ∈ (step s store' (b, .claimDelivery)).2.control.deliveries,
      ¬ DeliveryLive row.toDelivery := by
  obtain ⟨claim, hanswer, hnone⟩ := step_claimDelivery hgoverned' b
  obtain ⟨hcontrol', hwaiting⟩ :=
    hnone (Reply.delivery.inj (Except.ok.inj (hanswer.symm.trans hsecond)))
  have hidle : ∀ row ∈ store'.control.deliveries, row.status ≠ .sending := by
    rw [hcontrol]
    exact none_sending hgoverned.keys hover.deliveryLeases
  have hdue : DeliveriesDue (a.now + 3600) store'.control := by
    rw [hcontrol]
    exact DeliveriesDue.reclaim (fun row hrow => (hover.deliveriesDue row hrow).trans
      (le_add_of_nonneg_right (by norm_num))) le_rfl
  rw [hcontrol', reclaimDeliveries_of_idle hidle] at hwaiting ⊢
  rintro row hrow ⟨hreason, hpending | hsending⟩
  · have hdeliverable := hwaiting row hrow
    simp [deliverable, hpending, hreason, (hdue row hrow).trans hb] at hdeliverable
  · exact hidle row hrow hsending

theorem calls_progress (s : Settings) (incidents : List Incident) :
    ∃ bound, ∀ a b : Ambient, bound ≤ a.now → a.now + 3600 ≤ b.now →
      ((step s (reached s incidents) (a, .claimNext)).1 = .ok (.claim none) →
        (step s (step s (reached s incidents) (a, .claimNext)).2 (b, .claimNext)).1 =
          .ok (.claim none) →
        ∀ row ∈ (step s (step s (reached s incidents) (a, .claimNext)).2
          (b, .claimNext)).2.control.jobs, ¬ Live row.toJob) ∧
      (∃ claim, (step s (reached s incidents) (a, .claimDelivery)).1 = .ok (.delivery claim)) ∧
      (∃ claim, (step s (step s (reached s incidents) (a, .claimDelivery)).2
        (b, .claimDelivery)).1 = .ok (.delivery claim)) ∧
      ((step s (reached s incidents) (a, .claimDelivery)).1 = .ok (.delivery none) →
        (step s (step s (reached s incidents) (a, .claimDelivery)).2 (b, .claimDelivery)).1 =
          .ok (.delivery none) →
        ∀ row ∈ (step s (step s (reached s incidents) (a, .claimDelivery)).2
          (b, .claimDelivery)).2.control.deliveries, ¬ DeliveryLive row.toDelivery) := by
  obtain ⟨bound, hover⟩ := exists_over s incidents
  have hgoverned := @reached_governed s incidents
  refine ⟨bound, fun a b ha hb => ?_⟩
  have hafter := step_governed hgoverned (a, .claimDelivery)
  obtain ⟨claim, hanswer, hnone⟩ := step_claimDelivery hgoverned a
  obtain ⟨claim', hanswer', -⟩ := step_claimDelivery hafter b
  refine ⟨fun hfirst hsecond => ?_, ⟨claim, hanswer⟩, ⟨claim', hanswer'⟩, fun hfirst hsecond => ?_⟩
  · exact claims_progress (hover.mono ha) hb (step_governed hgoverned (a, .claimNext))
      (claimNext_unclaimed hgoverned.keys hfirst) hsecond
  · have hclaim : claim = none := Reply.delivery.inj (Except.ok.inj (hanswer.symm.trans hfirst))
    exact deliveries_progress (hover.mono ha) hb hgoverned hafter (hnone hclaim).1 hsecond

end Progress

section Floats

variable {s : Settings}

/-- Another attempt is due, and `2 ** (attempt - 1)` is too large for a float. -/
def beyondFloat (maxAttempts attemptCount : ℕ) : Bool :=
  attemptCount + 1 < maxAttempts && 1024 < attemptCount + 1

/-- The call comes to a `_retry_delay` that raises `OverflowError`. -/
def overflows (s : Settings) (now : Time) (db : Database) : Call → Bool
  | .claimNext => db.jobs.any fun row => row.status = .running && expired now row.claimExpiresAt &&
      beyondFloat s.maxReplayAttempts row.attemptCount
  | .claimDelivery => db.deliveries.any fun row => row.status = .sending &&
      expired now row.claimExpiresAt && beyondFloat s.maxDeliveryAttempts row.attemptCount
  | .retryRunning id claimToken _ => (db.job id).any fun row => claimHeld claimToken row &&
      beyondFloat s.maxReplayAttempts row.attemptCount
  | .retryDelivery id claimToken _ => (db.delivery id).any fun row =>
      deliveryHeld claimToken row && beyondFloat s.maxDeliveryAttempts row.attemptCount
  | _ => false

/-- A call with its delays in floats: where one overflows there is no answer, and the
transaction is rolled back. -/
def floatStep (s : Settings) (store : Store) (input : Ambient × Call) :
    Option (Except Refusal Reply) × Store :=
  if overflows s input.1.now store.control input.2 then (none, store)
  else (some (step s store input).1, (step s store input).2)

def floatHappen (s : Settings) (store : Store) :
    Incident → Option (Except Refusal Reply) × Store
  | .call a call => floatStep s store (a, call)
  | .ledger rows => (none, { store with ledger := rows })

def floatReached (s : Settings) (incidents : List Incident) : Store :=
  (Machine.run (floatHappen s) Store.empty incidents).2

/-- Limits under which every delay is computed in floats. -/
structure FloatAttempts (s : Settings) : Prop where
  replay : s.maxReplayAttempts ≤ 1025
  delivery : s.maxDeliveryAttempts ≤ 1025

theorem beyondFloat_of_le {maxAttempts : ℕ} (h : maxAttempts ≤ 1025) (attemptCount : ℕ) :
    beyondFloat maxAttempts attemptCount = false := by
  simp only [beyondFloat, Bool.and_eq_false_iff, decide_eq_false_iff_not]
  omega

theorem FloatAttempts.overflows (h : FloatAttempts s) (now : Time) (db : Database) (call : Call) :
    overflows s now db call = false := by
  cases call <;>
    simp [Sqlite.overflows, beyondFloat_of_le h.replay, beyondFloat_of_le h.delivery]

theorem FloatAttempts.step (h : FloatAttempts s) (store : Store) (input : Ambient × Call) :
    floatStep s store input = (some (step s store input).1, (step s store input).2) := by
  rw [floatStep, h.overflows, if_neg Bool.false_ne_true]

theorem FloatAttempts.reached (h : FloatAttempts s) (incidents : List Incident) :
    floatReached s incidents = reached s incidents := by
  have hsame : floatHappen s = happen s := by
    funext store incident
    cases incident with
    | call a call => exact h.step store (a, call)
    | ledger rows => rfl
  rw [floatReached, hsame]
  rfl

/-- A job that was finalized and whose report is being delivered. -/
def deliveringIncidents : List Incident :=
  [.call (ambient 0 jobA) (.create "owner@example.com" .configurationChange "first"),
   .call (ambient 1 tokenC) .claimNext,
   .call (ambient 2 tokenC) (.finalize jobA.hex (jobA.hex ++ "/report.md") tokenC.hex),
   .call (ambient 3 tokenD) .claimDelivery,
   .call (ambient 4 tokenE) (.create "owner@example.com" .resourcePoolSaturation "second")]

end Floats

end CausalOps.ControlPlane.Sqlite
