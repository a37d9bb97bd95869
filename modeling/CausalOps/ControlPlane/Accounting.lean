import CausalOps.ControlPlane.Runs

set_option autoImplicit false

/-! The timelines add up: how often each event was told agrees with the columns of the job and
of its delivery, under both control planes. -/

namespace CausalOps.ControlPlane

section Times

def times (timeline : List TimelineEvent) (name : String) : ℕ :=
  timeline.countP fun event => event.name = name

@[simp] theorem times_nil (name : String) : times [] name = 0 := rfl

@[simp] theorem times_none (timeline : List TimelineEvent) (name : String) :
    times (appended timeline none) name = times timeline name := rfl

@[simp] theorem times_some (timeline : List TimelineEvent) (o : Occurrence) (name : String) :
    times (appended timeline (some o)) name =
      times timeline name + if o.name = name then 1 else 0 := by
  simp [times, appended, List.countP_append, List.countP_cons]

def deliveryEvents : List String :=
  ["report_delivered", "report_delivery_failed", "report_delivery_lease_expired",
    "report_delivery_requeued", "report_delivery_retry_scheduled"]

end Times

section Accounts

/-- The columns of a job are what its timeline counts: each attempt that was spent, each claim
that was handed out, and how each of these ended. -/
structure Job.Accounted (job : Job) (timeline : List TimelineEvent) : Prop where
  queued : times timeline "investigation_queued" = 1
  attempts : job.attemptCount = times timeline "investigation_lease_expired" +
    times timeline "investigation_retry_scheduled" + times timeline "investigation_failed"
  failed : times timeline "investigation_failed" = if job.failed then 1 else 0
  started : times timeline "investigation_started" = job.attemptCount +
    times timeline "investigation_requeued" + times timeline "owner_decision_requested" +
      times timeline "report_finalized" + if job.status = .running then 1 else 0
  requested : times timeline "owner_decision_requested" =
    times timeline "owner_decision_recorded" + if job.status = .pausedApproval then 1 else 0
  finalized : times timeline "report_finalized" = if job.status = .completed then 1 else 0
  reserved : times timeline "scenario_reserved" = if job.incidentId.isSome then 1 else 0

structure Delivery.Accounted (delivery : Delivery) (timeline : List TimelineEvent) : Prop where
  attempts : delivery.attemptCount = times timeline "report_delivery_lease_expired" +
    times timeline "report_delivery_retry_scheduled" + times timeline "report_delivery_failed"
  failed : times timeline "report_delivery_failed" =
    if delivery.failureReason.isSome then 1 else 0
  delivered : times timeline "report_delivered" = if delivery.status = .sent then 1 else 0

structure Thread.Accounted (t : Thread) : Prop where
  job : ∀ job, t.job = some job → job.Accounted t.timeline
  delivery : ∀ delivery, t.delivery = some delivery → delivery.Accounted t.timeline
  undelivered : t.delivery = none → ∀ name ∈ deliveryEvents, times t.timeline name = 0

variable {s : Settings}

theorem Thread.accounted_absent : Thread.Accounted .absent where
  job := fun _ h => by cases h
  delivery := fun _ h => by cases h
  undelivered := fun _ _ _ => rfl

theorem JobChange.quiet {job job' : Job} {o : Occurrence} (h : JobChange s job job' (some o)) :
    o.name ∉ deliveryEvents := by
  obtain ⟨rules, db, h⟩ := h
  cases h <;> simp [deliveryEvents, Occurrence.investigationFailed,
    Occurrence.investigationLeaseExpired, Occurrence.investigationStarted,
    Occurrence.scenarioReserved, Occurrence.ownerDecisionRequested,
    Occurrence.investigationRequeued, Occurrence.investigationRetryScheduled]

theorem quiet_of_deliveryStep {delivery delivery' : Delivery} {o : Occurrence}
    (h : Sqlite.DeliveryStep s delivery delivery' (some o)) : o.name ∈ deliveryEvents := by
  cases h <;> simp [deliveryEvents, Occurrence.reportDelivered, Occurrence.reportDeliveryFailed,
    Occurrence.reportDeliveryLeaseExpired, Occurrence.reportDeliveryRequeued,
    Occurrence.reportDeliveryRetryScheduled]

theorem Job.Accounted.change {job job' : Job} {o : Option Occurrence}
    {timeline : List TimelineEvent} (h : job.Accounted timeline) (hsound : job.Sound s)
    (hchange : JobChange s job job' o) : job'.Accounted (appended timeline o) := by
  obtain ⟨rules, db, hstep⟩ := hchange
  obtain ⟨hqueued, hattempts, hfailed, hstarted, hrequested, hfinalized, hreserved⟩ := h
  cases hstep with
  | leaseFailed hrunning =>
      have hlive := hsound.live (by simp [hrunning])
      constructor <;> simp_all [Job.failed, Occurrence.investigationFailed]
      omega
  | leaseExpired hrunning =>
      have hlive := hsound.live (by simp [hrunning])
      constructor <;> simp_all [Job.failed, Occurrence.investigationLeaseExpired] <;> omega
  | started hissued hqueued hlive =>
      constructor <;> simp_all [Job.failed, Occurrence.investigationStarted]
  | renewed =>
      exact ⟨hqueued, hattempts, hfailed, hstarted, hrequested, hfinalized, hreserved⟩
  | reserved hrunning hnone =>
      have hlive := hsound.live (by simp [hrunning])
      constructor <;> simp_all [Job.failed, Occurrence.scenarioReserved]
  | paused hrunning =>
      have hlive := hsound.live (by simp [hrunning])
      constructor <;> simp_all [Job.failed, Occurrence.ownerDecisionRequested]
      omega
  | requeued hrunning =>
      have hlive := hsound.live (by simp [hrunning])
      constructor <;> simp_all [Job.failed, Occurrence.investigationRequeued]
      omega
  | retryFailed hrunning =>
      have hlive := hsound.live (by simp [hrunning])
      constructor <;> simp_all [Job.failed, Occurrence.investigationFailed]
      omega
  | retryScheduled hrunning =>
      have hlive := hsound.live (by simp [hrunning])
      constructor <;> simp_all [Job.failed, Occurrence.investigationRetryScheduled] <;> omega

theorem Job.Accounted.decided {job : Job} {timeline : List TimelineEvent}
    (h : job.Accounted timeline) (hpaused : job.status = .pausedApproval)
    (hlive : job.failureReason = none) (checkpointId decision : String) :
    (Sqlite.queuedJob job).Accounted
      (appended timeline (some (.ownerDecisionRecorded checkpointId decision))) := by
  obtain ⟨hqueued, hattempts, hfailed, hstarted, hrequested, hfinalized, hreserved⟩ := h
  constructor <;> simp_all [Job.failed, Sqlite.queuedJob, Occurrence.ownerDecisionRecorded]

theorem Job.Accounted.finalizes {job : Job} {timeline : List TimelineEvent}
    (h : job.Accounted timeline) (hrunning : job.status = .running)
    (hlive : job.failureReason = none) (artifact content : String) :
    (Sqlite.completedJob s job artifact content).Accounted
      (appended timeline (some .reportFinalized)) := by
  obtain ⟨hqueued, hattempts, hfailed, hstarted, hrequested, hfinalized, hreserved⟩ := h
  constructor <;> simp_all [Job.failed, Sqlite.completedJob, Occurrence.reportFinalized]

theorem accounted_newDelivery (job : Job) {timeline : List TimelineEvent}
    (h : ∀ name ∈ deliveryEvents, times timeline name = 0) :
    (Sqlite.newDelivery job).Accounted timeline := by
  have hzero : ∀ name, name ∈ deliveryEvents → times timeline name = 0 := h
  refine ⟨?_, ?_, ?_⟩
  · rw [hzero _ (by decide), hzero _ (by decide), hzero _ (by decide)]
    rfl
  · rw [hzero _ (by decide)]
    rfl
  · rw [hzero _ (by decide)]
    rfl

theorem Delivery.Accounted.step {delivery delivery' : Delivery} {o : Option Occurrence}
    {timeline : List TimelineEvent} (h : delivery.Accounted timeline)
    (hsound : delivery.Sound s) (hstep : Sqlite.DeliveryStep s delivery delivery' o) :
    delivery'.Accounted (appended timeline o) := by
  obtain ⟨hattempts, hfailed, hdelivered⟩ := h
  cases hstep with
  | leaseFailed hsending =>
      have hlive := hsound.live (by simp [hsending])
      constructor <;> simp_all [Occurrence.reportDeliveryFailed]
  | leaseExpired hsending =>
      have hlive := hsound.live (by simp [hsending])
      constructor <;> simp_all [Occurrence.reportDeliveryLeaseExpired]
      omega
  | claimed hdeliverable =>
      simp only [Sqlite.deliverable, Bool.and_eq_true, decide_eq_true_eq] at hdeliverable
      constructor <;> simp_all
  | delivered hsending =>
      constructor <;> simp_all [Occurrence.reportDelivered]
  | renewed hsending =>
      constructor <;> simp_all
  | released hsending =>
      constructor <;> simp_all [Occurrence.reportDeliveryRequeued]
  | retryFailed hsending =>
      have hlive := hsound.live (by simp [hsending])
      constructor <;> simp_all [Occurrence.reportDeliveryFailed]
  | retryScheduled hsending =>
      have hlive := hsound.live (by simp [hsending])
      constructor <;> simp_all [Occurrence.reportDeliveryRetryScheduled]
      omega

theorem Job.Accounted.beside {job : Job} {o : Option Occurrence}
    {timeline : List TimelineEvent} (h : job.Accounted timeline)
    (hquiet : ∀ event, o = some event → event.name ∈ deliveryEvents) :
    job.Accounted (appended timeline o) := by
  cases o with
  | none => exact h
  | some event =>
      have hother : ∀ name, name ∉ deliveryEvents →
          times (appended timeline (some event)) name = times timeline name := by
        intro name hname
        have hne : event.name ≠ name := fun heq => hname (heq ▸ hquiet event rfl)
        simp [hne]
      obtain ⟨hqueued, hattempts, hfailed, hstarted, hrequested, hfinalized, hreserved⟩ := h
      constructor <;> simp only [hother, deliveryEvents, List.mem_cons, List.not_mem_nil,
        String.reduceEq, or_false, not_false_eq_true] <;> assumption

theorem Delivery.Accounted.beside {delivery : Delivery} {o : Option Occurrence}
    {timeline : List TimelineEvent} (h : delivery.Accounted timeline)
    (hquiet : ∀ event, o = some event → event.name ∉ deliveryEvents) :
    delivery.Accounted (appended timeline o) := by
  cases o with
  | none => exact h
  | some event =>
      have hother : ∀ name ∈ deliveryEvents,
          times (appended timeline (some event)) name = times timeline name := by
        intro name hname
        have hne : event.name ≠ name := fun heq => hquiet event rfl (heq ▸ hname)
        simp [hne]
      obtain ⟨hattempts, hfailed, hdelivered⟩ := h
      refine ⟨?_, ?_, ?_⟩
      · rw [hother _ (by decide), hother _ (by decide), hother _ (by decide)]
        exact hattempts
      · rw [hother _ (by decide)]
        exact hfailed
      · rw [hother _ (by decide)]
        exact hdelivered

theorem undelivered_beside {timeline : List TimelineEvent} {o : Option Occurrence}
    (h : ∀ name ∈ deliveryEvents, times timeline name = 0)
    (hquiet : ∀ event, o = some event → event.name ∉ deliveryEvents) :
    ∀ name ∈ deliveryEvents, times (appended timeline o) name = 0 := by
  intro name hname
  cases o with
  | none => exact h name hname
  | some event =>
      have hne : event.name ≠ name := fun heq => hquiet event rfl (heq ▸ hname)
      simp [hne, h name hname]

theorem Thread.Step.accounted {t t' : Thread} (h : Thread.Step s t t') (hsound : t.Sound s)
    (haccounted : t.Accounted) : t'.Accounted := by
  cases h with
  | created fresh owner family key hjob =>
      obtain ⟨htimeline, hdelivery⟩ := hsound.absent hjob
      refine ⟨?_, ?_, ?_⟩
      · rintro job hnew
        rw [← Option.some.inj hnew]
        constructor <;> simp [htimeline, Sqlite.newJob, Job.failed, Occurrence.investigationQueued]
      · intro delivery hsome
        rw [hdelivery] at hsome
        cases hsome
      · have hquiet : ∀ event, some Occurrence.investigationQueued = some event →
            event.name ∉ deliveryEvents := by
          rintro event hevent
          rw [← Option.some.inj hevent]
          decide
        exact fun _ => undelivered_beside (haccounted.undelivered hdelivery) hquiet
  | @job job job' o hjob hchange =>
      have hquiet : ∀ event, o = some event → event.name ∉ deliveryEvents := by
        rintro event rfl
        exact hchange.quiet
      refine ⟨?_, fun delivery hdelivery => (haccounted.delivery delivery hdelivery).beside hquiet,
        fun hnone => undelivered_beside (haccounted.undelivered hnone) hquiet⟩
      rintro other hother
      rw [← Option.some.inj hother]
      exact (haccounted.job job hjob).change (hsound.job job hjob) hchange
  | @decided job checkpointId decision hjob hpaused =>
      have hquiet : ∀ event, some (Occurrence.ownerDecisionRecorded checkpointId decision) =
          some event → event.name ∉ deliveryEvents := by
        rintro event hevent
        rw [← Option.some.inj hevent]
        simp [Occurrence.ownerDecisionRecorded, deliveryEvents]
      refine ⟨?_, fun delivery hdelivery => (haccounted.delivery delivery hdelivery).beside hquiet,
        fun hnone => undelivered_beside (haccounted.undelivered hnone) hquiet⟩
      rintro other hother
      rw [← Option.some.inj hother]
      exact (haccounted.job job hjob).decided hpaused
        ((hsound.job job hjob).live (by simp [hpaused])) checkpointId decision
  | @finalized job artifact content hjob hrunning =>
      have hnone : t.delivery = none := by
        by_contra hsome
        have hcompleted := (hsound.delivered job hjob).1 (Option.ne_none_iff_exists'.1 hsome)
        rw [hrunning] at hcompleted
        cases hcompleted
      have hzero : ∀ name ∈ deliveryEvents,
          times (appended t.timeline (some .reportFinalized)) name = 0 := by
        refine undelivered_beside (haccounted.undelivered hnone) ?_
        rintro event hevent
        rw [← Option.some.inj hevent]
        decide
      refine ⟨?_, ?_, ?_⟩
      · rintro other hother
        rw [← Option.some.inj hother]
        exact (haccounted.job job hjob).finalizes hrunning
          ((hsound.job job hjob).live (by simp [hrunning])) artifact content
      · rintro other hother
        rw [← Option.some.inj hother]
        exact accounted_newDelivery job hzero
      · intro hpresent
        cases hpresent
  | @delivery delivery delivery' o hdelivery hchange =>
      have hquiet : ∀ event, o = some event → event.name ∈ deliveryEvents := by
        rintro event rfl
        exact quiet_of_deliveryStep hchange
      refine ⟨fun job hjob => (haccounted.job job hjob).beside hquiet, ?_, ?_⟩
      · rintro other hother
        rw [← Option.some.inj hother]
        exact (haccounted.delivery delivery hdelivery).step (hsound.delivery delivery hdelivery)
          hchange
      · intro hpresent
        cases hpresent

theorem Thread.Steps.accounted {t : Thread} (h : Thread.Steps s .absent t) : t.Accounted := by
  induction h with
  | refl => exact Thread.accounted_absent
  | tail hsteps hstep ih =>
      exact hstep.accounted (Thread.Steps.sound hsteps Thread.sound_absent) ih

/-- The claims that were handed out are bounded by the attempts, the pauses and the requeues. -/
theorem Job.Accounted.claims {job : Job} {timeline : List TimelineEvent}
    (h : job.Accounted timeline) (hsound : job.Sound s) :
    times timeline "investigation_started" ≤ s.maxReplayAttempts +
      times timeline "owner_decision_requested" + times timeline "investigation_requeued" + 1 := by
  have hattempts := hsound.attempts.1
  rw [h.started, h.finalized]
  split_ifs with hrunning hcompleted
  · rw [hrunning] at hcompleted
    cases hcompleted
  all_goals omega

/-- An investigation whose columns and timeline agree, and what this bounds. -/
structure Accounts (s : Settings) (t : Thread) : Prop where
  accounted : t.Accounted
  claims : ∀ job, t.job = some job → times t.timeline "investigation_started" ≤
    s.maxReplayAttempts + times t.timeline "owner_decision_requested" +
      times t.timeline "investigation_requeued" + 1

theorem accounts_of_steps {t : Thread} (h : Thread.Steps s .absent t) : Accounts s t where
  accounted := Thread.Steps.accounted h
  claims := fun job hjob => ((Thread.Steps.accounted h).job job hjob).claims
    ((Thread.Steps.sound h Thread.sound_absent).job job hjob)

end Accounts

section Runs

/-- Under both control planes and any calls, each job and each delivery is accounted for by its
timeline, and no job is claimed more often than its attempts, pauses and requeues allow. -/
theorem timelines_accounted (s : Settings) :
    (∀ incidents id, Accounts s ((Sqlite.reached s incidents).control.thread id)) ∧
      ∀ fs, Firestore.Served s .empty fs → ∀ id, Accounts s (fs.thread id) := by
  constructor
  · intro incidents id
    have hmoves : Sqlite.Moves s Sqlite.anyRules Sqlite.Store.empty.control
        (Sqlite.reached s incidents).control := Sqlite.run_moves incidents Sqlite.keys_empty
    exact accounts_of_steps (hmoves.thread Sqlite.keys_empty Sqlite.orderly_empty id)
  · intro fs hserved id
    exact accounts_of_steps ((hserved.threads Firestore.wellFormed_empty).2 id)

theorem timelines_accounted_delivered :
    (deliveredDatabase.job jobA.hex).map (fun doc => doc.attemptCount) = some 1 ∧
      Accounts sampleSettings (deliveredDatabase.thread jobA.hex) :=
  ⟨by decide +kernel, (timelines_accounted sampleSettings).2 deliveredDatabase
    (served_decided.trans served_delivered) jobA.hex⟩

end Runs

end CausalOps.ControlPlane
