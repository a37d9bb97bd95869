import CausalOps.ControlPlane.Sqlite.Moves

set_option autoImplicit false

/-! One investigation as both control planes keep it: its job, its report delivery and its
timeline. What one change can do to them, what then holds of them, and what later changes
leave as it is. -/

namespace CausalOps.ControlPlane

section Timelines

/-- What a lifecycle event says about its job: the status, and whether it has failed. -/
def lifecycle (name : String) : Option (JobStatus × Bool) :=
  if name = "investigation_queued" then some (.queued, false)
  else if name = "investigation_started" then some (.running, false)
  else if name = "owner_decision_requested" then some (.pausedApproval, false)
  else if name = "owner_decision_recorded" then some (.queued, false)
  else if name = "investigation_requeued" then some (.queued, false)
  else if name = "investigation_retry_scheduled" then some (.queued, false)
  else if name = "investigation_lease_expired" then some (.queued, false)
  else if name = "investigation_failed" then some (.queued, true)
  else if name = "report_finalized" then some (.completed, false)
  else none

/-- What the last lifecycle event of a timeline says. -/
def standing (timeline : List TimelineEvent) : Option (JobStatus × Bool) :=
  (timeline.filterMap fun event => lifecycle event.name).getLast?

def Job.failed (job : Job) : Bool := job.failureReason.isSome

/-- A timeline with one more event, when there is one. -/
def appended (timeline : List TimelineEvent) : Option Occurrence → List TimelineEvent
  | none => timeline
  | some o => timeline ++ [⟨timeline.length, o.name, o.fields⟩]

def Numbered (timeline : List TimelineEvent) : Prop :=
  timeline.map TimelineEvent.ordinal = List.range timeline.length

variable {timeline : List TimelineEvent}

theorem standing_appended (o : Occurrence) :
    standing (appended timeline (some o)) = (lifecycle o.name).or (standing timeline) := by
  simp only [standing, appended, List.filterMap_append, List.getLast?_append]
  cases hname : lifecycle o.name <;> simp [hname]

theorem standing_emitted {o : Option Occurrence}
    (h : ∀ event, o = some event → lifecycle event.name = none) :
    standing (appended timeline o) = standing timeline := by
  cases o with
  | none => rfl
  | some o => rw [standing_appended, h o rfl, Option.none_or]

theorem prefix_appended (o : Option Occurrence) : timeline <+: appended timeline o := by
  cases o with
  | none => exact List.prefix_refl timeline
  | some o => exact List.prefix_append _ _

theorem Numbered.appended (h : Numbered timeline) (o : Option Occurrence) :
    Numbered (appended timeline o) := by
  cases o with
  | none => exact h
  | some o =>
      have hordinals : timeline.map TimelineEvent.ordinal = List.range timeline.length := h
      simp [Numbered, ControlPlane.appended, hordinals, List.range_succ]

end Timelines

section Threads

structure Thread where
  job : Option Job
  delivery : Option Delivery
  timeline : List TimelineEvent

def JobChange (s : Settings) (job job' : Job) (o : Option Occurrence) : Prop :=
  ∃ rules db, Sqlite.JobStep s rules db job job' o

/-- One change of an investigation, its event included. -/
inductive Thread.Step (s : Settings) (t : Thread) : Thread → Prop where
  | created (fresh : Uuid) (ownerEmail : String) (family : ScenarioFamily)
      (idempotencyKey : String) (hjob : t.job = none) :
      Step s t { t with
        job := some (Sqlite.newJob fresh ownerEmail family idempotencyKey)
        timeline := appended t.timeline (some .investigationQueued) }
  | job {job job' : Job} {o : Option Occurrence} (hjob : t.job = some job)
      (hchange : JobChange s job job' o) :
      Step s t { t with job := some job', timeline := appended t.timeline o }
  | decided {job : Job} (checkpointId decision : String) (hjob : t.job = some job)
      (hpaused : job.status = .pausedApproval) :
      Step s t { t with
        job := some (Sqlite.queuedJob job)
        timeline := appended t.timeline (some (.ownerDecisionRecorded checkpointId decision)) }
  | finalized {job : Job} (artifact content : String) (hjob : t.job = some job)
      (hrunning : job.status = .running) :
      Step s t {
        job := some (Sqlite.completedJob s job artifact content)
        delivery := some (Sqlite.newDelivery job)
        timeline := appended t.timeline (some .reportFinalized) }
  | delivery {delivery delivery' : Delivery} {o : Option Occurrence}
      (hdelivery : t.delivery = some delivery)
      (hchange : Sqlite.DeliveryStep s delivery delivery' o) :
      Step s t { t with delivery := some delivery', timeline := appended t.timeline o }

abbrev Thread.Steps (s : Settings) : Thread → Thread → Prop :=
  Relation.ReflTransGen (Thread.Step s)

def Thread.absent : Thread := ⟨none, none, []⟩

end Threads

section Sound

/-- Attempts that have been spent, up to the maximum; at the maximum with a reason. -/
def Spent (maximum attempts : Nat) (reason : Option String) : Prop :=
  attempts ≤ maximum ∧ (reason ≠ none ↔ attempts = maximum)

structure Job.Sound (s : Settings) (job : Job) : Prop where
  attempts : Spent s.maxReplayAttempts job.attemptCount job.failureReason
  failed : job.failureReason ≠ none → job.status = .queued
  unreported : job.status ≠ .completed → job.reportContent = none ∧ job.reportSha256 = none
  reported : job.status = .completed → ∃ content, job.reportContent = some content ∧
    job.reportSha256 = some (s.sha256 content)

structure Delivery.Sound (s : Settings) (delivery : Delivery) : Prop where
  attempts : Spent s.maxDeliveryAttempts delivery.attemptCount delivery.failureReason
  failed : delivery.failureReason ≠ none → delivery.status = .pending

structure Thread.Sound (s : Settings) (t : Thread) : Prop where
  numbered : Numbered t.timeline
  absent : t.job = none → t.timeline = [] ∧ t.delivery = none
  standing : ∀ job, t.job = some job →
    standing t.timeline = some (job.status, job.failed)
  job : ∀ job, t.job = some job → job.Sound s
  delivery : ∀ delivery, t.delivery = some delivery → delivery.Sound s
  delivered : ∀ job, t.job = some job →
    ((∃ delivery, t.delivery = some delivery) ↔ job.status = .completed)
  addressed : ∀ job delivery, t.job = some job → t.delivery = some delivery →
    delivery.destinationEmail = job.owner

variable {s : Settings}

theorem Thread.sound_absent : Thread.Sound s .absent where
  numbered := rfl
  absent := fun _ => ⟨rfl, rfl⟩
  standing := fun _ h => by cases h
  job := fun _ h => by cases h
  delivery := fun _ h => by cases h
  delivered := fun _ h => by cases h
  addressed := fun _ _ h => by cases h

theorem Spent.start {maximum : Nat} (hpos : 0 < maximum) : Spent maximum 0 none :=
  ⟨Nat.zero_le maximum, iff_of_false (fun h => h rfl) (Nat.ne_of_lt hpos)⟩

theorem Spent.next {maximum attempts : Nat} {reason : Option String}
    (hlimit : attempts + 1 < maximum) (h : Spent maximum attempts reason) :
    Spent maximum (attempts + 1) reason := by
  refine ⟨Nat.le_of_lt hlimit, iff_of_false (fun hreason => ?_) (Nat.ne_of_lt hlimit)⟩
  have hspent := h.2.1 hreason
  omega

theorem Spent.last {maximum attempts : Nat} {reason : Option String} {last : String}
    (hlimit : maximum ≤ attempts + 1) (h : Spent maximum attempts reason)
    (hnone : reason = none) : Spent maximum (attempts + 1) (some last) := by
  have hle := h.1
  have hne : attempts ≠ maximum := fun hspent => h.2.2 hspent hnone
  exact ⟨by omega, iff_of_true (by simp) (by omega)⟩

theorem Job.Sound.live {job : Job} (h : job.Sound s) (hstatus : job.status ≠ .queued) :
    job.failureReason = none := by
  by_contra hreason
  exact hstatus (h.failed hreason)

theorem Job.failed_eq_false {job : Job} (h : job.failureReason = none) : job.failed = false := by
  simp [Job.failed, h]

/-- What a job step leaves: a sound job, where its event says, and no report. -/
structure JobChanged (s : Settings) (job job' : Job) (o : Option Occurrence) : Prop where
  sound : job'.Sound s
  unfinished : job.status ≠ .completed ∧ job'.status ≠ .completed
  live : job.failureReason = none
  owner : job'.owner = job.owner
  attempts : job.attemptCount ≤ job'.attemptCount
  event : (∃ event, o = some event ∧ lifecycle event.name = some (job'.status, job'.failed)) ∨
    ((∀ event, o = some event → lifecycle event.name = none) ∧ job'.status = job.status ∧
      job'.failed = job.failed)

theorem JobChange.changed {job job' : Job} {o : Option Occurrence} (h : JobChange s job job' o)
    (hsound : job.Sound s) : JobChanged s job job' o := by
  obtain ⟨rules, db, h⟩ := h
  have hspent := hsound.attempts
  have hopen : job.status ≠ .completed → job.reportContent = none ∧ job.reportSha256 = none :=
    hsound.unreported
  cases h with
  | leaseFailed hrunning hexpired hlimit =>
      have hlive := hsound.live (by simp [hrunning])
      exact ⟨⟨hspent.last hlimit hlive, fun _ => rfl, fun _ => hopen (by simp [hrunning]), nofun⟩,
        ⟨by simp [hrunning], by simp⟩, hlive, rfl, Nat.le_succ _, .inl ⟨_, rfl, rfl⟩⟩
  | leaseExpired hrunning hexpired hlimit =>
      have hlive := hsound.live (by simp [hrunning])
      exact ⟨⟨hspent.next hlimit, fun _ => rfl, fun _ => hopen (by simp [hrunning]), nofun⟩,
        ⟨by simp [hrunning], by simp⟩, hlive, rfl, Nat.le_succ _,
        .inl ⟨_, rfl, by simp [Job.failed, hlive]; rfl⟩⟩
  | started hissued hqueued hlive havailable hidle hlab hfirst =>
      exact ⟨⟨hspent, fun h => absurd hlive h, fun _ => hopen (by simp [hqueued]), nofun⟩,
        ⟨by simp [hqueued], by simp⟩, hlive, rfl, Nat.le_refl _,
        .inl ⟨_, rfl, by simp [Job.failed, hlive]; rfl⟩⟩
  | renewed hrunning hcurrent =>
      have hlive := hsound.live (by simp [hrunning])
      have hstatus : job.status ≠ .completed := by simp [hrunning]
      exact ⟨⟨hspent, fun h => absurd hlive h, fun _ => hopen hstatus,
        fun h => absurd h hstatus⟩, ⟨hstatus, hstatus⟩, hlive, rfl, Nat.le_refl _,
        .inr ⟨nofun, rfl, rfl⟩⟩
  | reserved hrunning hnone =>
      have hlive := hsound.live (by simp [hrunning])
      have hstatus : job.status ≠ .completed := by simp [hrunning]
      refine ⟨⟨hspent, fun h => absurd hlive h, fun _ => hopen hstatus,
        fun h => absurd h hstatus⟩, ⟨hstatus, hstatus⟩, hlive, rfl, Nat.le_refl _,
        .inr ⟨?_, rfl, rfl⟩⟩
      rintro event h
      rw [← Option.some.inj h]
      rfl
  | paused hrunning htoken hpresent hpausable =>
      have hlive := hsound.live (by simp [hrunning])
      exact ⟨⟨hspent, fun h => absurd hlive h, fun _ => hopen (by simp [hrunning]), nofun⟩,
        ⟨by simp [hrunning], by simp⟩, hlive, rfl, Nat.le_refl _,
        .inl ⟨_, rfl, by simp [Job.failed, hlive]; rfl⟩⟩
  | requeued hrunning =>
      have hlive := hsound.live (by simp [hrunning])
      exact ⟨⟨hspent, fun _ => rfl, fun _ => hopen (by simp [hrunning]), nofun⟩,
        ⟨by simp [hrunning], by simp⟩, hlive, rfl, Nat.le_refl _,
        .inl ⟨_, rfl, by simp [Job.failed, hlive]; rfl⟩⟩
  | retryFailed hrunning hlimit =>
      have hlive := hsound.live (by simp [hrunning])
      exact ⟨⟨hspent.last hlimit hlive, fun _ => rfl, fun _ => hopen (by simp [hrunning]), nofun⟩,
        ⟨by simp [hrunning], by simp⟩, hlive, rfl, Nat.le_succ _, .inl ⟨_, rfl, rfl⟩⟩
  | retryScheduled hrunning hlimit =>
      have hlive := hsound.live (by simp [hrunning])
      exact ⟨⟨hspent.next hlimit, fun _ => rfl, fun _ => hopen (by simp [hrunning]), nofun⟩,
        ⟨by simp [hrunning], by simp⟩, hlive, rfl, Nat.le_succ _,
        .inl ⟨_, rfl, by simp [Job.failed, hlive]; rfl⟩⟩

/-- What a delivery step leaves: a sound delivery at the same address, and no lifecycle
event. -/
structure DeliveryChanged (s : Settings) (delivery delivery' : Delivery)
    (o : Option Occurrence) : Prop where
  sound : delivery'.Sound s
  unsent : delivery.status ≠ .sent
  live : delivery.failureReason = none
  address : delivery'.destinationEmail = delivery.destinationEmail
  attempts : delivery.attemptCount ≤ delivery'.attemptCount
  event : ∀ event, o = some event → lifecycle event.name = none

theorem Delivery.Sound.live {delivery : Delivery} (h : delivery.Sound s)
    (hstatus : delivery.status ≠ .pending) : delivery.failureReason = none := by
  by_contra hreason
  exact hstatus (h.failed hreason)

theorem deliveryChanged {delivery delivery' : Delivery} {o : Option Occurrence}
    (h : Sqlite.DeliveryStep s delivery delivery' o) (hsound : delivery.Sound s) :
    DeliveryChanged s delivery delivery' o := by
  have hspent := hsound.attempts
  have hquiet : ∀ {event : Occurrence}, lifecycle event.name = none →
      ∀ other, some event = some other → lifecycle other.name = none := by
    rintro event hnone other h
    rw [← Option.some.inj h]
    exact hnone
  cases h with
  | leaseFailed hsending hexpired hlimit =>
      have hlive := hsound.live (by simp [hsending])
      exact ⟨⟨hspent.last hlimit hlive, fun _ => rfl⟩, by simp [hsending], hlive, rfl,
        Nat.le_succ _, hquiet rfl⟩
  | leaseExpired hsending hexpired hlimit =>
      have hlive := hsound.live (by simp [hsending])
      exact ⟨⟨hspent.next hlimit, fun _ => rfl⟩, by simp [hsending], hlive, rfl,
        Nat.le_succ _, hquiet rfl⟩
  | claimed hdeliverable =>
      simp only [Sqlite.deliverable, Bool.and_eq_true, decide_eq_true_eq,
        Option.isNone_iff_eq_none] at hdeliverable
      obtain ⟨⟨hpending, hlive⟩, -⟩ := hdeliverable
      exact ⟨⟨hspent, fun h => absurd hlive h⟩, by simp [hpending], hlive, rfl,
        Nat.le_refl _, nofun⟩
  | delivered hsending hcurrent =>
      have hlive := hsound.live (by simp [hsending])
      exact ⟨⟨hspent, fun h => absurd hlive h⟩, by simp [hsending], hlive, rfl,
        Nat.le_refl _, hquiet rfl⟩
  | renewed hsending hcurrent =>
      have hlive := hsound.live (by simp [hsending])
      exact ⟨⟨hspent, fun h => absurd hlive h⟩, by simp [hsending], hlive, rfl,
        Nat.le_refl _, nofun⟩
  | released hsending =>
      have hlive := hsound.live (by simp [hsending])
      exact ⟨⟨hspent, fun h => absurd hlive h⟩, by simp [hsending], hlive, rfl,
        Nat.le_refl _, hquiet rfl⟩
  | retryFailed hsending hlimit =>
      have hlive := hsound.live (by simp [hsending])
      exact ⟨⟨hspent.last hlimit hlive, fun _ => rfl⟩, by simp [hsending], hlive, rfl,
        Nat.le_succ _, hquiet rfl⟩
  | retryScheduled hsending hlimit =>
      have hlive := hsound.live (by simp [hsending])
      exact ⟨⟨hspent.next hlimit, fun _ => rfl⟩, by simp [hsending], hlive, rfl,
        Nat.le_succ _, hquiet rfl⟩

theorem Thread.Step.sound {t t' : Thread} (h : Thread.Step s t t') (hsound : t.Sound s) :
    t'.Sound s := by
  cases h with
  | created fresh owner family key hjob =>
      obtain ⟨htimeline, hdelivery⟩ := hsound.absent hjob
      refine ⟨hsound.numbered.appended (some _), nofun, ?_, ?_, ?_, ?_, ?_⟩
      · rintro job h
        rw [← Option.some.inj h, standing_appended]
        rfl
      · rintro job h
        rw [← Option.some.inj h]
        exact ⟨.start s.maxReplayAttempts_pos, fun h => absurd rfl h, fun _ => ⟨rfl, rfl⟩,
          nofun⟩
      · exact hsound.delivery
      · rintro job h
        rw [← Option.some.inj h]
        exact iff_of_false (by simp [hdelivery]) nofun
      · intro job delivery _ h
        simp [hdelivery] at h
  | @job job job' o hjob hchange =>
      have hchanged := hchange.changed (hsound.job job hjob)
      refine ⟨hsound.numbered.appended o, nofun, ?_, ?_, hsound.delivery, ?_, ?_⟩
      · rintro other h
        rw [← Option.some.inj h]
        rcases hchanged.event with ⟨event, rfl, hname⟩ | ⟨hnone, hstatus, hfailed⟩
        · rw [standing_appended, hname, Option.some_or]
        · rw [standing_emitted hnone, hsound.standing job hjob, hstatus, hfailed]
      · rintro other h
        rw [← Option.some.inj h]
        exact hchanged.sound
      · rintro other h
        rw [← Option.some.inj h]
        refine iff_of_false (fun hdelivery => ?_) hchanged.unfinished.2
        exact hchanged.unfinished.1 ((hsound.delivered job hjob).1 hdelivery)
      · rintro other delivery h hdelivery
        rw [← Option.some.inj h, hchanged.owner]
        exact hsound.addressed job delivery hjob hdelivery
  | @decided job checkpointId decision hjob hpaused =>
      have hjobSound := hsound.job job hjob
      have hlive := hjobSound.live (by simp [hpaused])
      refine ⟨hsound.numbered.appended (some _), nofun, ?_, ?_, hsound.delivery, ?_, ?_⟩
      · rintro other h
        have hfailed : (Sqlite.queuedJob job).failed = false := Job.failed_eq_false hlive
        rw [← Option.some.inj h, standing_appended, hfailed]
        rfl
      · rintro other h
        rw [← Option.some.inj h]
        exact ⟨hjobSound.attempts, fun _ => rfl, fun _ => hjobSound.unreported (by simp [hpaused]),
          nofun⟩
      · rintro other h
        rw [← Option.some.inj h]
        refine iff_of_false (fun hdelivery => ?_) nofun
        rw [(hsound.delivered job hjob).1 hdelivery] at hpaused
        cases hpaused
      · rintro other delivery h hdelivery
        rw [← Option.some.inj h]
        exact hsound.addressed job delivery hjob hdelivery
  | @finalized job artifact content hjob hrunning =>
      have hjobSound := hsound.job job hjob
      have hlive := hjobSound.live (by simp [hrunning])
      refine ⟨hsound.numbered.appended (some _), nofun, ?_, ?_, ?_, ?_, ?_⟩
      · rintro other h
        have hfailed : (Sqlite.completedJob s job artifact content).failed = false :=
          Job.failed_eq_false hlive
        rw [← Option.some.inj h, standing_appended, hfailed]
        rfl
      · rintro other h
        rw [← Option.some.inj h]
        exact ⟨hjobSound.attempts, fun h => absurd hlive h, fun h => absurd rfl h,
          fun _ => ⟨content, rfl, rfl⟩⟩
      · rintro other h
        rw [← Option.some.inj h]
        exact ⟨.start s.maxDeliveryAttempts_pos, fun h => absurd rfl h⟩
      · rintro other h
        rw [← Option.some.inj h]
        exact iff_of_true ⟨_, rfl⟩ rfl
      · rintro other delivery h h'
        rw [← Option.some.inj h, ← Option.some.inj h']
        rfl
  | @delivery delivery delivery' o hdelivery hchange =>
      have hchanged := deliveryChanged hchange (hsound.delivery delivery hdelivery)
      have hpresent : t.job ≠ none := by
        intro hnone
        rw [(hsound.absent hnone).2] at hdelivery
        cases hdelivery
      refine ⟨hsound.numbered.appended o, fun h => absurd h hpresent, ?_, hsound.job, ?_, ?_, ?_⟩
      · intro job hjob
        rw [standing_emitted hchanged.event]
        exact hsound.standing job hjob
      · rintro other h
        rw [← Option.some.inj h]
        exact hchanged.sound
      · intro job hjob
        exact iff_of_true ⟨_, rfl⟩ ((hsound.delivered job hjob).1 ⟨delivery, hdelivery⟩)
      · rintro job other hjob h
        rw [← Option.some.inj h, hchanged.address]
        exact hsound.addressed job delivery hjob hdelivery

theorem Thread.Steps.sound {t t' : Thread} (h : Thread.Steps s t t') (hsound : t.Sound s) :
    t'.Sound s := by
  induction h with
  | refl => exact hsound
  | tail _ hstep ih => exact hstep.sound ih

end Sound

section Later

/-- What later changes leave of a job: attempts only grow, a failed or completed job stays
as it is, and a report stays once it is there. -/
structure Job.Later (job job' : Job) : Prop where
  attempts : job.attemptCount ≤ job'.attemptCount
  absorbed : job.failureReason ≠ none ∨ job.status = .completed → job' = job
  reported : ∀ content, job.reportContent = some content →
    job'.reportContent = some content ∧ job'.reportSha256 = job.reportSha256

structure Delivery.Later (delivery delivery' : Delivery) : Prop where
  attempts : delivery.attemptCount ≤ delivery'.attemptCount
  absorbed : delivery.failureReason ≠ none ∨ delivery.status = .sent → delivery' = delivery

structure Thread.Later (t t' : Thread) : Prop where
  job : ∀ job, t.job = some job → ∃ job', t'.job = some job' ∧ job.Later job'
  delivery : ∀ delivery, t.delivery = some delivery →
    ∃ delivery', t'.delivery = some delivery' ∧ delivery.Later delivery'
  timeline : t.timeline <+: t'.timeline

variable {s : Settings}

theorem Job.Later.refl (job : Job) : job.Later job :=
  ⟨Nat.le_refl _, fun _ => rfl, fun _ h => ⟨h, rfl⟩⟩

theorem Delivery.Later.refl (delivery : Delivery) : delivery.Later delivery :=
  ⟨Nat.le_refl _, fun _ => rfl⟩

theorem Thread.Later.refl (t : Thread) : t.Later t :=
  ⟨fun job h => ⟨job, h, .refl job⟩, fun delivery h => ⟨delivery, h, .refl delivery⟩,
    List.prefix_refl _⟩

theorem Job.Later.trans {job job' job'' : Job} (h : job.Later job') (h' : job'.Later job'') :
    job.Later job'' := by
  refine ⟨Nat.le_trans h.attempts h'.attempts, ?_, ?_⟩
  · intro habsorbed
    have hsame := h.absorbed habsorbed
    rw [h'.absorbed (hsame ▸ habsorbed), hsame]
  · intro content hcontent
    obtain ⟨hkept, hdigest⟩ := h.reported content hcontent
    obtain ⟨hkept', hdigest'⟩ := h'.reported content hkept
    exact ⟨hkept', hdigest'.trans hdigest⟩

theorem Delivery.Later.trans {delivery delivery' delivery'' : Delivery}
    (h : delivery.Later delivery') (h' : delivery'.Later delivery'') :
    delivery.Later delivery'' := by
  refine ⟨Nat.le_trans h.attempts h'.attempts, fun habsorbed => ?_⟩
  have hsame := h.absorbed habsorbed
  rw [h'.absorbed (hsame ▸ habsorbed), hsame]

theorem Thread.Later.trans {t t' t'' : Thread} (h : t.Later t') (h' : t'.Later t'') :
    t.Later t'' := by
  refine ⟨?_, ?_, h.timeline.trans h'.timeline⟩
  · intro job hjob
    obtain ⟨job', hjob', hlater⟩ := h.job job hjob
    obtain ⟨job'', hjob'', hlater'⟩ := h'.job job' hjob'
    exact ⟨job'', hjob'', hlater.trans hlater'⟩
  · intro delivery hdelivery
    obtain ⟨delivery', hdelivery', hlater⟩ := h.delivery delivery hdelivery
    obtain ⟨delivery'', hdelivery'', hlater'⟩ := h'.delivery delivery' hdelivery'
    exact ⟨delivery'', hdelivery'', hlater.trans hlater'⟩

theorem Job.Later.open {job job' : Job} (hsound : job.Sound s) (hlive : job.failureReason = none)
    (hopen : job.status ≠ .completed) (hattempts : job.attemptCount ≤ job'.attemptCount) :
    job.Later job' := by
  refine ⟨hattempts, ?_, ?_⟩
  · rintro (h | h)
    · exact absurd hlive h
    · exact absurd h hopen
  · intro content hcontent
    rw [(hsound.unreported hopen).1] at hcontent
    cases hcontent

theorem Thread.Step.later {t t' : Thread} (h : Thread.Step s t t') (hsound : t.Sound s) :
    t.Later t' := by
  have hsame : ∀ {a b : Job}, t.job = some a → t.job = some b → b = a := by
    intro a b ha hb
    rw [ha] at hb
    exact (Option.some.inj hb).symm
  have hdeliveries : ∀ delivery, t.delivery = some delivery →
      ∃ delivery', t.delivery = some delivery' ∧ delivery.Later delivery' :=
    fun delivery hdelivery => ⟨delivery, hdelivery, .refl delivery⟩
  cases h with
  | created fresh owner family key hjob =>
      exact ⟨fun job h => by simp [hjob] at h, hdeliveries, prefix_appended (some _)⟩
  | @job job job' o hjob hchange =>
      have hchanged := hchange.changed (hsound.job job hjob)
      refine ⟨?_, hdeliveries, prefix_appended o⟩
      intro other h
      rw [hsame hjob h]
      exact ⟨job', rfl, .open (hsound.job job hjob) hchanged.live hchanged.unfinished.1
        hchanged.attempts⟩
  | @decided job checkpointId decision hjob hpaused =>
      have hjobSound := hsound.job job hjob
      refine ⟨?_, hdeliveries, prefix_appended (some _)⟩
      intro other h
      rw [hsame hjob h]
      exact ⟨_, rfl, .open hjobSound (hjobSound.live (by simp [hpaused])) (by simp [hpaused])
        (Nat.le_refl _)⟩
  | @finalized job artifact content hjob hrunning =>
      have hjobSound := hsound.job job hjob
      have hundelivered : ∀ delivery, t.delivery ≠ some delivery := fun delivery hdelivery => by
        rw [(hsound.delivered job hjob).1 ⟨delivery, hdelivery⟩] at hrunning
        cases hrunning
      refine ⟨?_, fun delivery h => absurd h (hundelivered delivery), prefix_appended (some _)⟩
      intro other h
      rw [hsame hjob h]
      exact ⟨_, rfl, .open hjobSound (hjobSound.live (by simp [hrunning])) (by simp [hrunning])
        (Nat.le_refl _)⟩
  | @delivery delivery delivery' o hdelivery hchange =>
      have hchanged := deliveryChanged hchange (hsound.delivery delivery hdelivery)
      refine ⟨fun job hjob => ⟨job, hjob, .refl job⟩, ?_, prefix_appended o⟩
      intro other h
      rw [hdelivery] at h
      rw [← Option.some.inj h]
      refine ⟨delivery', rfl, hchanged.attempts, ?_⟩
      rintro (h | h)
      · exact absurd hchanged.live h
      · exact absurd h hchanged.unsent

theorem Thread.Steps.later {t t' : Thread} (h : Thread.Steps s t t') (hsound : t.Sound s) :
    t.Later t' := by
  induction h with
  | refl => exact .refl t
  | tail hsteps hstep ih => exact ih.trans (hstep.later (Thread.Steps.sound hsteps hsound))

end Later

section Told

/-- Where an investigation stands: its status, and whether it has failed. -/
def Thread.standing (t : Thread) : Option (JobStatus × Bool) :=
  t.job.map fun job => (job.status, job.failed)

/-- A change of the standing is told by one lifecycle event, which names the new standing;
what leaves the standing as it is appends no lifecycle event, and one event at most. -/
inductive Thread.Told (t t' : Thread) : Prop where
  | changed (event : TimelineEvent) (hname : lifecycle event.name = t'.standing)
      (hstanding : t'.standing ≠ none ∧ t'.standing ≠ t.standing)
      (htimeline : t'.timeline = t.timeline ++ [event])
  | unchanged (events : List TimelineEvent) (hlength : events.length ≤ 1)
      (hnames : ∀ event ∈ events, lifecycle event.name = none)
      (hstanding : t'.standing = t.standing) (htimeline : t'.timeline = t.timeline ++ events)

variable {s : Settings}

theorem Thread.Told.appended {t t' : Thread} {o : Option Occurrence}
    (hstanding : t'.standing = t.standing)
    (hnames : ∀ event, o = some event → lifecycle event.name = none)
    (htimeline : t'.timeline = ControlPlane.appended t.timeline o) : t.Told t' := by
  cases o with
  | none =>
      refine .unchanged [] (by simp) (by simp) hstanding ?_
      rw [htimeline, List.append_nil]
      rfl
  | some o =>
      refine .unchanged [⟨t.timeline.length, o.name, o.fields⟩] (by simp) ?_ hstanding htimeline
      intro event hevent
      rw [List.mem_singleton.1 hevent]
      exact hnames o rfl

/-- A job step moves the job to another status, or appends no lifecycle event. -/
theorem JobChange.moved {job job' : Job} {o : Option Occurrence} (h : JobChange s job job' o) :
    (∃ event, o = some event ∧ lifecycle event.name ≠ none) → job'.status ≠ job.status := by
  obtain ⟨rules, db, h⟩ := h
  rintro ⟨event, rfl, hname⟩
  cases h with
  | reserved hrunning hnone => exact absurd rfl hname
  | leaseFailed hrunning | leaseExpired hrunning | paused hrunning | requeued hrunning
  | retryFailed hrunning | retryScheduled hrunning => simp [hrunning]
  | started hissued hqueued => simp [hqueued]

theorem Thread.Step.told {t t' : Thread} (h : Thread.Step s t t') (hsound : t.Sound s) :
    t.Told t' := by
  cases h with
  | created fresh owner family key hjob =>
      exact .changed _ rfl ⟨nofun, by simp [Thread.standing, hjob]⟩ rfl
  | @job job job' o hjob hchange =>
      have hbefore : t.standing = some (job.status, job.failed) := by
        simp [Thread.standing, hjob]
      rcases (hchange.changed (hsound.job job hjob)).event with
        ⟨event, rfl, hname⟩ | ⟨hnames, hstatus, hfailed⟩
      · have hmoved := hchange.moved ⟨event, rfl, by simp [hname]⟩
        refine .changed _ hname ⟨nofun, ?_⟩ rfl
        rw [hbefore]
        intro hsame
        exact hmoved (congrArg Prod.fst (Option.some.inj hsame))
      · refine .appended ?_ hnames rfl
        rw [hbefore, ← hstatus, ← hfailed]
        rfl
  | @decided job c decision hjob hpaused =>
      have hlive : job.failed = false := by
        refine Job.failed_eq_false (by_contra fun hreason => ?_)
        rw [(hsound.job job hjob).failed hreason] at hpaused
        cases hpaused
      have hname : lifecycle (Occurrence.ownerDecisionRecorded c decision).name =
          some (.queued, job.failed) := by
        rw [hlive]
        rfl
      refine .changed _ hname ⟨nofun, ?_⟩ rfl
      simp [Thread.standing, hjob, Sqlite.queuedJob, hpaused]
  | @finalized job artifact content hjob hrunning =>
      have hlive : job.failed = false := by
        refine Job.failed_eq_false (by_contra fun hreason => ?_)
        rw [(hsound.job job hjob).failed hreason] at hrunning
        cases hrunning
      have hname : lifecycle Occurrence.reportFinalized.name = some (.completed, job.failed) := by
        rw [hlive]
        rfl
      refine .changed _ hname ⟨nofun, ?_⟩ rfl
      simp [Thread.standing, hjob, Sqlite.completedJob, hrunning]
  | @delivery delivery delivery' o hdelivery hchange =>
      have hchanged := deliveryChanged hchange (hsound.delivery delivery hdelivery)
      exact .appended rfl hchanged.event rfl

theorem Thread.Steps.told {t t' : Thread} (h : Thread.Steps s t t') (hsound : t.Sound s) :
    Relation.ReflTransGen Thread.Told t t' := by
  induction h with
  | refl => exact .refl
  | tail hsteps hstep ih =>
      exact ih.tail (hstep.told (Thread.Steps.sound hsteps hsound))

end Told

section Together

/-- A delivery is as it was, or its lease is a new one. -/
def Delivery.Leased (delivery delivery' : Delivery) : Prop :=
  delivery' = delivery ∨ ∃ token expiresAt,
    delivery' = { delivery with
      status := .sending, claimToken := token, claimExpiresAt := expiresAt }

def Job.unleased (job : Job) : Job := { job with claimExpiresAt := none }

@[simp] theorem Job.unleased_status (job : Job) : job.unleased.status = job.status := rfl
@[simp] theorem Job.unleased_incidentId (job : Job) :
    job.unleased.incidentId = job.incidentId := rfl

theorem Job.status_of_unleased {job job' : Job} (h : job'.unleased = job.unleased) :
    job'.status = job.status := by
  simpa using congrArg Job.status h

/-- What changes without an event: the end of a job's lease, and the lease of a delivery. -/
structure Thread.Quiet (t t' : Thread) : Prop where
  job : t'.job.map Job.unleased = t.job.map Job.unleased
  delivery : t'.delivery = t.delivery ∨ ∃ delivery delivery', t.delivery = some delivery ∧
    t'.delivery = some delivery' ∧ delivery.Leased delivery'

/-- A change and its event are there together or not at all. -/
def Thread.Together (t t' : Thread) : Prop := t'.timeline = t.timeline ↔ t.Quiet t'

variable {s : Settings}

theorem Thread.Together.refl (t : Thread) : t.Together t :=
  iff_of_true rfl ⟨rfl, .inl rfl⟩

theorem appended_ne (timeline : List TimelineEvent) (o : Occurrence) :
    appended timeline (some o) ≠ timeline := by
  intro h
  have hlength := congrArg List.length h
  simp [appended] at hlength

theorem JobChange.loud {job job' : Job} {o : Option Occurrence} (h : JobChange s job job' o) :
    o = none ↔ job'.unleased = job.unleased := by
  obtain ⟨rules, db, h⟩ := h
  have hstatus : ∀ {a b : Job}, a.status ≠ b.status → a.unleased ≠ b.unleased :=
    fun hne heq => hne (Job.status_of_unleased heq)
  cases h with
  | renewed hrunning hcurrent => exact iff_of_true rfl rfl
  | reserved hrunning hnone =>
      refine iff_of_false nofun fun heq => ?_
      have hincident : some (scenarioIncident job.id) = job.incidentId :=
        congrArg Job.incidentId heq
      rw [hnone] at hincident
      cases hincident
  | leaseFailed hrunning | leaseExpired hrunning | paused hrunning | requeued hrunning
  | retryFailed hrunning | retryScheduled hrunning =>
      exact iff_of_false nofun (hstatus (by simp [hrunning]))
  | started hissued hqueued =>
      exact iff_of_false nofun (hstatus (by simp [hqueued]))

theorem deliveryStep_loud {delivery delivery' : Delivery} {o : Option Occurrence}
    (h : Sqlite.DeliveryStep s delivery delivery' o) :
    o = none ↔ delivery.Leased delivery' := by
  have hleft : ∀ {d' : Delivery}, delivery.status = .sending → d'.status ≠ .sending →
      ¬ delivery.Leased d' := by
    rintro d' hsending hne (rfl | ⟨token, expiresAt, rfl⟩)
    · exact hne hsending
    · exact hne rfl
  cases h with
  | claimed hdeliverable => exact iff_of_true rfl (.inr ⟨_, _, rfl⟩)
  | renewed hsending hcurrent =>
      exact iff_of_true rfl (.inr ⟨delivery.claimToken, _, by rw [← hsending]⟩)
  | leaseFailed hsending | leaseExpired hsending | delivered hsending | released hsending
  | retryFailed hsending | retryScheduled hsending =>
      exact iff_of_false nofun (hleft hsending (by simp))

theorem Thread.Step.together {t t' : Thread} (h : Thread.Step s t t') : t.Together t' := by
  have hstatus : ∀ {job job' : Job}, t.job = some job → t'.job = some job' →
      job'.status ≠ job.status → ¬ t.Quiet t' := by
    rintro job job' hjob hjob' hne hquiet
    have hsame := hquiet.job
    rw [hjob, hjob'] at hsame
    exact hne (Job.status_of_unleased (Option.some.inj hsame))
  cases h with
  | created fresh owner family key hjob =>
      refine iff_of_false (appended_ne _ _) fun hquiet => ?_
      have hsame := hquiet.job
      simp [hjob] at hsame
  | @job job job' o hjob hchange =>
      have hloud := hchange.loud
      cases o with
      | none =>
          refine iff_of_true rfl ⟨?_, .inl rfl⟩
          simpa [hjob] using hloud.1 rfl
      | some o =>
          refine iff_of_false (appended_ne _ _) fun hquiet => ?_
          have hsame := hquiet.job
          simp only [hjob, Option.map_some] at hsame
          cases hloud.2 (Option.some.inj hsame)
  | decided c decision hjob hpaused =>
      exact iff_of_false (appended_ne _ _)
        (hstatus hjob rfl (by simp [Sqlite.queuedJob, hpaused]))
  | finalized artifact content hjob hrunning =>
      exact iff_of_false (appended_ne _ _)
        (hstatus hjob rfl (by simp [Sqlite.completedJob, hrunning]))
  | @delivery delivery delivery' o hdelivery hchange =>
      have hloud := deliveryStep_loud hchange
      cases o with
      | none => exact iff_of_true rfl ⟨rfl, .inr ⟨delivery, delivery', hdelivery, rfl, hloud.1 rfl⟩⟩
      | some o =>
          refine iff_of_false (appended_ne _ _) fun hquiet => ?_
          have hleased : delivery.Leased delivery' := by
            rcases hquiet.delivery with hsame | ⟨old, new, hold, hnew, hleased⟩
            · exact .inl (Option.some.inj (hsame.trans hdelivery))
            · obtain rfl : delivery = old := Option.some.inj (hdelivery.symm.trans hold)
              rw [Option.some.inj hnew]
              exact hleased
          cases hloud.2 hleased

end Together

end CausalOps.ControlPlane
