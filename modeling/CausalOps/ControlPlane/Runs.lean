import CausalOps.ControlPlane.Sqlite.Retries
import CausalOps.ControlPlane.Sqlite.Scheduling
import CausalOps.ControlPlane.Firestore.Atomic

set_option autoImplicit false

/-! What holds of whole runs of both control planes: the timelines tell where each
investigation stands, and the lab is claimed by one job at a time. -/

namespace CausalOps.ControlPlane

section Timelines

variable {s : Settings}

/-- The timelines after a run, and what a later run leaves of them. -/
structure TimelinesSound (before after : String → Thread) : Prop where
  numbered : ∀ id, Numbered (after id).timeline
  standing : ∀ id job, (after id).job = some job →
    standing (after id).timeline = some (job.status, job.failed)
  kept : ∀ id, (before id).timeline <+: (after id).timeline
  told : ∀ id, Relation.ReflTransGen Thread.Told (before id) (after id)

theorem timelinesSound_of_steps {before after : String → Thread}
    (hsound : ∀ id, (before id).Sound s) (hsteps : ∀ id, Thread.Steps s (before id) (after id)) :
    TimelinesSound before after := by
  have hafter : ∀ id, (after id).Sound s := fun id =>
    Thread.Steps.sound (hsteps id) (hsound id)
  exact ⟨fun id => (hafter id).numbered, fun id => (hafter id).standing,
    fun id => (Thread.Steps.later (hsteps id) (hsound id)).timeline,
    fun id => Thread.Steps.told (hsteps id) (hsound id)⟩

/-- Under both control planes and any calls, the events of each investigation are numbered
from zero, none is lost or replaced, the last lifecycle event names the status and whether
the job has failed, and each change of these is told when it is made. -/
theorem timelines_sound (s : Settings) :
    (∀ before after : List Sqlite.Incident,
      TimelinesSound (Sqlite.reached s before).control.thread
        (Sqlite.reached s (before ++ after)).control.thread) ∧
      ∀ fs fs' : Firestore.Database, Firestore.Served s .empty fs → Firestore.Served s fs fs' →
        TimelinesSound fs.thread fs'.thread := by
  constructor
  · intro before after
    have hgoverned := @Sqlite.reached_governed s before
    have hmoves : Sqlite.Moves s Sqlite.anyRules (Sqlite.reached s before).control
        (Sqlite.reached s (before ++ after)).control := by
      rw [Sqlite.reached_append]
      exact Sqlite.run_moves after hgoverned.keys
    exact timelinesSound_of_steps hgoverned.threads
      (hmoves.thread hgoverned.keys hgoverned.orderly)
  · intro fs fs' hbefore hafter
    obtain ⟨hformed, hsteps⟩ := hbefore.threads Firestore.wellFormed_empty
    have hsound : ∀ id, (fs.thread id).Sound s := fun id =>
      Thread.Steps.sound (hsteps id) Thread.sound_absent
    exact timelinesSound_of_steps hsound (hafter.threads hformed).2

/-- One investigation: claimed, retried, paused and decided. -/
def decidedCalls : List (Ambient × Call) :=
  [(ambient 0 jobA, .create "owner@example.com" .configurationChange "first"),
   (ambient 0 tokenC, .claimNext),
   (ambient 1 tokenC, .retryRunning jobA.hex tokenC.hex "TimeoutError"),
   (ambient 10 tokenD, .claimNext),
   (ambient 11 tokenD, .markPaused jobA.hex "checkpoint-1" tokenD.hex),
   (ambient 12 tokenD, .decide "owner@example.com" jobA.hex ⟨.accept, none, trivial⟩)]

def deliveredCalls : List (Ambient × Call) :=
  [(ambient 13 tokenE, .claimNext),
   (ambient 14 tokenE, .finalize jobA.hex (jobA.hex ++ "/report.md") tokenE.hex),
   (ambient 15 tokenD, .claimDelivery),
   (ambient 16 tokenD, .markDelivered jobA.hex tokenD.hex)]

def decidedDatabase : Firestore.Database :=
  (Machine.run (Firestore.step sampleSettings Firestore.writtenOrder) .empty decidedCalls).2

def deliveredDatabase : Firestore.Database :=
  (Machine.run (Firestore.step sampleSettings Firestore.writtenOrder) decidedDatabase
    deliveredCalls).2

theorem served_decided : Firestore.Served sampleSettings .empty decidedDatabase :=
  Firestore.Served.run .start decidedCalls
    ⟨rfl, trivial, trivial, trivial, trivial, trivial, trivial⟩

theorem served_delivered : Firestore.Served sampleSettings decidedDatabase deliveredDatabase :=
  Firestore.Served.run .start deliveredCalls ⟨trivial, trivial, trivial, trivial, trivial⟩

theorem timelines_sound_delivered :
    (deliveredDatabase.thread jobA.hex).timeline.map (fun event => event.name) =
        ["investigation_queued", "investigation_started", "investigation_retry_scheduled",
          "investigation_started", "owner_decision_requested", "owner_decision_recorded",
          "investigation_started", "report_finalized", "report_delivered"] ∧
      TimelinesSound decidedDatabase.thread deliveredDatabase.thread :=
  ⟨by decide +kernel, (timelines_sound sampleSettings).2 decidedDatabase deliveredDatabase
    served_decided served_delivered⟩

end Timelines

section Lab

/-- Neither control plane claims a job without an incident while a waiting job has one, nor
any job while such a job is in its backoff or while a job runs under a lease that has not
ended: of the jobs that `claim_next` finds, and of those it leaves once it has put the expired
ones back. For Firestore this includes what calls leave that were cut short. -/
theorem lab_exclusive (s : Settings) :
    (∀ (incidents : List Sqlite.Incident) (a : Ambient),
      ClaimsExclusively a.now (Sqlite.reached s incidents).control.jobTable
          (Sqlite.step s (Sqlite.reached s incidents) (a, .claimNext)).2.control.jobTable ∧
        ∀ reply, (Sqlite.step s (Sqlite.reached s incidents) (a, .claimNext)).1 = .ok reply →
          ClaimsExclusively a.now (Sqlite.reclaimExpiredInvestigations s a.now
              (Sqlite.reached s incidents).control).jobTable
            (Sqlite.step s (Sqlite.reached s incidents) (a, .claimNext)).2.control.jobTable) ∧
      ∀ fs : Firestore.Database, Firestore.Reachable s fs →
        ∀ (streams : Firestore.StreamOrder) (a : Ambient),
          ClaimsExclusively a.now fs.jobTable
              (Firestore.step s streams fs (a, .claimNext)).2.jobTable ∧
            ClaimsExclusively a.now ((Firestore.reclaimExpiredInvestigations s a.now).run
                (Firestore.exec streams) fs).2.jobTable
              (Firestore.step s streams fs (a, .claimNext)).2.jobTable := by
  constructor
  · intro incidents a
    exact Sqlite.step_claimNext_exclusive (Sqlite.reached_governed incidents).keys a
  · intro fs hreachable streams a
    exact (Firestore.course_claimNext hreachable.formed a).2

/-- A job that holds an incident is in its backoff while another waits. -/
def deferredCalls : List (Ambient × Call) :=
  [(ambient 0 jobA, .create "owner@example.com" .configurationChange "first"),
   (ambient 0 jobB, .create "owner@example.com" .configurationChange "second"),
   (ambient 0 tokenC, .claimNext),
   (ambient 0 tokenC, .reserveIncident jobA.hex tokenC.hex),
   (ambient 1 tokenC, .retryRunning jobA.hex tokenC.hex "TimeoutError")]

def deferredDatabase : Firestore.Database :=
  (Machine.run (Firestore.step sampleSettings Firestore.writtenOrder) .empty deferredCalls).2

theorem lab_exclusive_deferred :
    deferredDatabase.jobs.map (fun doc => (doc.incidentId, doc.availableAt)) =
        [(some ("scenario" ++ jobA.hex), 2), (none, 0)] ∧
      ClaimsExclusively 1 deferredDatabase.jobTable
          (Firestore.step sampleSettings Firestore.writtenOrder deferredDatabase
            (ambient 1 tokenD, .claimNext)).2.jobTable ∧
        ClaimsExclusively 1 ((Firestore.reclaimExpiredInvestigations sampleSettings 1).run
            (Firestore.exec Firestore.writtenOrder) deferredDatabase).2.jobTable
          (Firestore.step sampleSettings Firestore.writtenOrder deferredDatabase
            (ambient 1 tokenD, .claimNext)).2.jobTable :=
  have hserved : Firestore.Served sampleSettings .empty deferredDatabase :=
    Firestore.Served.run .start deferredCalls ⟨rfl, rfl, trivial, trivial, trivial, trivial⟩
  ⟨by decide +kernel, (lab_exclusive sampleSettings).2 _ hserved.reachable
    Firestore.writtenOrder (ambient 1 tokenD)⟩

end Lab

end CausalOps.ControlPlane
