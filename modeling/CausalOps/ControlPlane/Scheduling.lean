import CausalOps.ControlPlane.Threads

set_option autoImplicit false

/-! What `claim_next` may claim: the lab belongs to the job that holds an incident until
that job has ended, and to the job that runs until its lease has. -/

namespace CausalOps.ControlPlane

abbrev JobTable := String → Option Job

structure Waiting (job : Job) : Prop where
  queued : job.status = .queued
  live : job.failureReason = none

/-- A job that `claim_next` may put back into the queue before it selects. -/
def Requeuable (now : Time) (job : Job) : Prop :=
  (job.status = .running ∧ expired now job.claimExpiresAt = true) ∨
    job.status = .pausedApproval

/-- Some jobs have been put back into the queue, the others are as they were. -/
def Requeued (now : Time) (before after : JobTable) : Prop :=
  ∀ id, after id = before id ∨ ∃ job job', before id = some job ∧ Requeuable now job ∧
    after id = some job' ∧ job'.status = .queued

theorem Requeued.refl (now : Time) (jobs : JobTable) : Requeued now jobs jobs :=
  fun _ => .inl rfl

theorem not_requeuable {now : Time} {job : Job} (hqueued : job.status = .queued) :
    ¬ Requeuable now job := by
  rintro (⟨hrunning, -⟩ | hpaused)
  · rw [hqueued] at hrunning
    cases hrunning
  · rw [hqueued] at hpaused
    cases hpaused

theorem Requeued.trans {now : Time} {first second third : JobTable}
    (h : Requeued now first second) (h' : Requeued now second third) :
    Requeued now first third := by
  intro id
  rcases h id with hsame | ⟨job, job', hjob, hold, hjob', hqueued⟩
  · rw [← hsame]
    exact h' id
  · rcases h' id with hsame' | ⟨old, job'', hother, hold', -⟩
    · exact .inr ⟨job, job', hjob, hold, hsame'.trans hjob', hqueued⟩
    · rw [hjob'] at hother
      rw [← Option.some.inj hother] at hold'
      exact absurd hold' (not_requeuable hqueued)

theorem expired_or_unexpired {now : Time} {expiresAt : Option Time}
    (h : unexpired now expiresAt = true) : expired now expiresAt = false := by
  cases expiresAt with
  | none => rfl
  | some expiresAt =>
      simp only [unexpired, expired, decide_eq_true_eq, decide_eq_false_iff_not, not_le] at h ⊢
      exact h

/-- How a job is selected: nothing runs, no incident waits for its retry, and a job without
an incident only when no job that is due has one. -/
structure Selected (now : Time) (jobs : JobTable) (selected : Job) : Prop where
  idle : ∀ id job, jobs id = some job → job.status ≠ .running
  ready : ∀ id job, jobs id = some job → Waiting job → job.incidentId ≠ none →
    job.availableAt ≤ now
  first : selected.incidentId = none → ∀ id job, jobs id = some job → Waiting job →
    job.availableAt ≤ now → job.incidentId = none

/-- The lab is not taken from anyone: a job without an incident is only claimed when no
waiting job holds one, and no job is claimed while a waiting job with an incident is in its
backoff, or while a job runs under a lease that has not ended. -/
structure Exclusive (now : Time) (jobs : JobTable) (claimed : Job) : Prop where
  lab : claimed.incidentId = none → ∀ id job, jobs id = some job → Waiting job →
    job.incidentId = none
  ready : ∀ id job, jobs id = some job → Waiting job → job.incidentId ≠ none →
    job.availableAt ≤ now
  idle : ∀ id job, jobs id = some job → job.status = .running →
    unexpired now job.claimExpiresAt = false

variable {now : Time} {before after : JobTable}

theorem Requeued.keeps (h : Requeued now before after) {id : String} {job : Job}
    (hjob : before id = some job) (hnot : ¬ Requeuable now job) : after id = some job := by
  rcases h id with hsame | ⟨old, job', hold, hrequeuable, -⟩
  · rw [hsame, hjob]
  · rw [hjob] at hold
    rw [← Option.some.inj hold] at hrequeuable
    exact absurd hrequeuable hnot

theorem Requeued.exclusive (h : Requeued now before after) {selected : Job}
    (hselected : Selected now after selected) : Exclusive now before selected := by
  have hwaiting : ∀ {id job}, before id = some job → Waiting job → after id = some job :=
    fun hjob hwaits => h.keeps hjob (not_requeuable hwaits.queued)
  refine ⟨?_, ?_, ?_⟩
  · intro hnone id job hjob hwaits
    by_contra hincident
    have hready := hselected.ready id job (hwaiting hjob hwaits) hwaits hincident
    exact hincident (hselected.first hnone id job (hwaiting hjob hwaits) hwaits hready)
  · exact fun id job hjob hwaits => hselected.ready id job (hwaiting hjob hwaits) hwaits
  · intro id job hjob hrunning
    by_contra hcurrent
    have hunexpired : unexpired now job.claimExpiresAt = true := by simpa using hcurrent
    refine hselected.idle id job (h.keeps hjob ?_) hrunning
    rintro (⟨-, hexpired⟩ | hpaused)
    · rw [expired_or_unexpired hunexpired] at hexpired
      cases hexpired
    · rw [hrunning] at hpaused
      cases hpaused

/-- Every job that `claim_next` sets running was not so before, and leaves the lab to the
others. -/
def ClaimsExclusively (now : Time) (before after : JobTable) : Prop :=
  ∀ id job, after id = some job → job.status = .running → before id ≠ some job →
    Exclusive now before job

theorem Requeued.claims_none (h : Requeued now before after) :
    ClaimsExclusively now before after := by
  intro id job hjob hrunning hchanged
  rcases h id with hsame | ⟨old, job', -, -, hjob', hqueued⟩
  · exact absurd (hsame ▸ hjob) hchanged
  · rw [hjob] at hjob'
    rw [← Option.some.inj hjob', hrunning] at hqueued
    cases hqueued

theorem Requeued.claims {selected started : Job} {final : JobTable} {chosen : String}
    (h : Requeued now before after) (hselected : Selected now after selected)
    (hincident : started.incidentId = selected.incidentId)
    (hfinal : ∀ id, final id = if id = chosen then some started else after id) :
    ClaimsExclusively now before final := by
  intro id job hjob hrunning hchanged
  rw [hfinal] at hjob
  by_cases hid : id = chosen
  · rw [if_pos hid] at hjob
    have hexclusive := h.exclusive hselected
    rw [← Option.some.inj hjob]
    exact ⟨fun hnone => hexclusive.lab (hincident ▸ hnone), hexclusive.ready, hexclusive.idle⟩
  · rw [if_neg hid] at hjob
    exact h.claims_none id job hjob hrunning hchanged

end CausalOps.ControlPlane
