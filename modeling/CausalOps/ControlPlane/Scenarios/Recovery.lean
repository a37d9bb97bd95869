import CausalOps.ControlPlane.Api.Requests
import CausalOps.ControlPlane.Scenarios.Kept

set_option autoImplicit false

/-! The worker after a crash: it clears the marker of a scenario that no job needs any more and
goes on to the next job, unless the marker names no incident; then it never takes a job again. -/

namespace CausalOps.ControlPlane.Scenarios

open Sqlite

section Clearing

variable {s : Settings} {site : Lab.Site} {h : Host} {incidentId content : String}
  {contents : String → String} {disk : Lab.Disk} {errand : Errand} {a : Ambient}

theorem run_append (before after : List Event) :
    h.run s site (before ++ after) = (h.run s site before).run s site after :=
  List.foldl_append

theorem run_acts (n : Nat) : h.run s site (List.replicate n (.acts none)) =
    { h with lab := h.lab.run site (List.replicate n (.act 0 none)) } := by
  induction n generalizing h with
  | zero => rfl
  | succ n ih =>
      rw [List.replicate_succ, List.replicate_succ]
      exact ih

/-- What happens to the worker in some surroundings when no operation of its own fails. -/
def Event.Undisturbed (a : Ambient) : Event → Prop
  | .turns other => other = a
  | .acts none | .returns true _ => True
  | _ => False

/-- Undisturbed, the worker can come to such a state. -/
def Leads (s : Settings) (site : Lab.Site) (a : Ambient) (goal : Host → Prop) (h : Host) : Prop :=
  ∃ events, (∀ e ∈ events, e.Undisturbed a) ∧ goal (h.run s site events)

theorem Leads.after {goal : Host → Prop} {events : List Event}
    (hevents : ∀ e ∈ events, e.Undisturbed a)
    (hleads : Leads s site a goal (h.run s site events)) : Leads s site a goal h := by
  obtain ⟨more, hmore, hgoal⟩ := hleads
  refine ⟨events ++ more, ?_, ?_⟩
  · intro e he
    exact (List.mem_append.1 he).elim (hevents e) (hmore e)
  · rw [run_append]
    exact hgoal

/-- The worker is done with its errand, and the marker is gone. -/
def Cleared (errand : Errand) (h : Host) : Prop :=
  h.phase = errand.done ∧ h.lab.disk.marker = none

theorem run_returned {n : Nat} {raised : Bool} {disk' : Lab.Disk} {lock : Option Nat}
    (hat : Lab.At (h.lab.run site (List.replicate n (.act 0 none))) 0
      ⟨incidentId, contents, .ended raised⟩ lock disk') :
    h.run s site (List.replicate n (.acts none) ++ [.returns true ""]) =
      { h with lab := (h.lab.run site (List.replicate n (.act 0 none))).place 0 none }.returned
        site raised true "" := by
  rw [run_append, run_acts]
  change Host.step s site _ (.returns true "") = _
  simp only [Host.step, hat.called]

theorem undisturbed_call (n : Nat) :
    ∀ e ∈ List.replicate n (Event.acts none) ++ [.returns true ""], e.Undisturbed a := by
  intro e he
  rcases List.mem_append.1 he with he | he
  · rw [List.eq_of_mem_replicate he]
    trivial
  · rw [List.mem_singleton.1 he]
    trivial

theorem releasing_clears (hphase : h.phase = .releasing errand incidentId)
    (hat : Lab.At h.lab 0 ⟨incidentId, contents, .releaseLock⟩ none disk)
    (hmarker : disk.marker = some (.text content)) (hname : Text.strip content = incidentId) :
    Leads s site a (Cleared errand) h := by
  have hends := Lab.release_ends site hat hmarker hname
  have hrun := run_returned (s := s) hends
  refine ⟨_, undisturbed_call 4, ?_⟩
  rw [hrun]
  simp only [Host.returned, hphase]
  exact ⟨rfl, congrArg Lab.Disk.marker hends.disk⟩

theorem resetting_clears (hphase : h.phase = .resetting errand incidentId)
    (hat : Lab.At h.lab 0 ⟨incidentId, contents, .resetLock⟩ none disk)
    (hmarker : disk.marker = some (.text content)) (hname : Text.strip content = incidentId)
    (halnum : site.isalnum incidentId = true) : Leads s site a (Cleared errand) h := by
  cases hfiles : disk.runs incidentId with
  | some files =>
      have hends := Lab.reset_ends site hat hmarker hname halnum hfiles
      have hrun := run_returned (s := s) hends
      refine ⟨_, undisturbed_call 6, ?_⟩
      rw [hrun]
      simp only [Host.returned, hphase]
      exact ⟨rfl, congrArg Lab.Disk.marker hends.disk⟩
  | none =>
      -- The run is gone already: `release_scenario` follows the error.
      have hends := Lab.reset_refused site hat hfiles
      have hrun := run_returned (s := s) hends
      have hreleases : h.run s site (List.replicate 3 (.acts none) ++ [.returns true ""]) =
          { h with lab := (h.lab.run site (List.replicate 3 (.act 0 none))).place 0 none }.release
            site errand incidentId := by
        rw [hrun]
        simp only [Host.returned, hphase, if_true]
      refine Leads.after (undisturbed_call 3) ?_
      rw [hreleases]
      have hat : Lab.At (Lab.World.step site ((h.lab.run site
          (List.replicate 3 (.act 0 none))).place 0 none) (.begin 0 .release incidentId id)) 0
          ⟨incidentId, id, .releaseLock⟩ none disk := by
        rw [← hends.disk]
        exact Lab.begin_at site (Lab.place_procs _ _) hends.lock
      exact releasing_clears rfl hat hmarker hname

end Clearing

section Answers

variable {s : Settings} {db : Database} {h : Host} {incidentId : String}

/-- A job that is waiting for a worker or has one holds the incident. -/
def Wanted (db : Database) (incidentId : String) : Prop :=
  ∃ id job, (db.thread id).job = some job ∧ job.incidentId = some incidentId ∧
    job.failureReason = none ∧ (job.status = .queued ∨ job.status = .running)

theorem scenarioStatus_wanted {status : InvestigationStatus} {db' : Database} (hkeys : Keys db)
    (h : scenarioStatus incidentId db = .ok (.scenario (some status), db'))
    (hwanted : status = .queued ∨ status = .running) : Wanted db incidentId := by
  simp only [scenarioStatus] at h
  split at h
  · cases h
  rename_i row hrow
  obtain ⟨hreply, rfl⟩ := Prod.mk.inj (Except.ok.inj h)
  obtain rfl := Option.some.inj (Reply.scenario.inj hreply)
  have hmem := List.mem_of_find?_eq_some hrow
  have hjob : db.job row.id = some row := hkeys.jobs.lookup_of_mem hmem
  refine ⟨row.id, row.toJob, thread_of_job hjob, by simpa using List.find?_some hrow, ?_⟩
  cases hreason : row.failureReason with
  | some reason => simp [Job.view, hreason] at hwanted
  | none =>
      simp only [Job.view, hreason, Option.isSome_none, Bool.false_eq_true, if_false] at hwanted
      refine ⟨rfl, ?_⟩
      cases hstatus : row.status <;> simp_all [JobStatus.investigationStatus]

theorem asked (h : Host) (a : Ambient) (incidentId : String) :
    ∃ status, (h.call s a (.scenarioStatus incidentId)).1 = .ok (.scenario status) ∧
      scenarioStatus incidentId h.store.control = .ok (.scenario status, h.store.control) ∧
        (h.call s a (.scenarioStatus incidentId)).2.store.control = h.store.control := by
  have hstep : step s h.store (a, .scenarioStatus incidentId) = _ :=
    Api.step_lift rfl fun _ => rfl
  have hanswer : ∃ status, scenarioStatus incidentId h.store.control =
      .ok (.scenario status, h.store.control) := by
    simp only [scenarioStatus]
    split
    · exact ⟨none, rfl⟩
    · exact ⟨_, rfl⟩
  obtain ⟨status, hstatus⟩ := hanswer
  rw [hstatus] at hstep
  refine ⟨status, ?_, hstatus, ?_⟩
  · exact congrArg Prod.fst hstep
  · exact congrArg (fun result => result.2.control) hstep

end Answers

section Recovery

variable {s : Settings} {site : Lab.Site} {h : Host} {incidentId : String}

/-- A marker that names an incident, as far as its text goes. -/
def Readable (site : Lab.Site) : Option Lab.Marker → Prop
  | none => True
  | some (.text content) => site.isalnum (Text.strip content) = true
  | some .undecodable => False

/-- The marker names no incident but one that a job needs. -/
def Clean (h : Host) : Prop :=
  h.lab.disk.marker = none ∨ ∃ content, h.lab.disk.marker = some (.text content) ∧
    Wanted h.store.control (Text.strip content)

def Recovered (h : Host) : Prop := h.phase = .claiming ∧ Clean h

/-- The worker is about to begin, and no call of the lab is under way. -/
structure Rested (h : Host) : Prop where
  phase : h.phase = .idle
  procs : h.lab.procs 0 = none
  lock : h.lab.lock = none

theorem asking_recovers (hsound : Sound s h) (hphase : h.phase = .asking incidentId)
    (hprocs : h.lab.procs 0 = none) (hlock : h.lab.lock = none) {content : String}
    (hmarker : h.lab.disk.marker = some (.text content)) (hname : Text.strip content = incidentId)
    (halnum : site.isalnum incidentId = true) (a : Ambient) : Leads s site a Recovered h := by
  have hfirst : ∀ e ∈ [Event.turns a], e.Undisturbed a := by
    intro e he
    rw [List.mem_singleton.1 he]
    rfl
  obtain ⟨status, hanswer, hstatus, hcontrol⟩ := asked (s := s) h a incidentId
  have hturn : h.run s site [.turns a] =
      (h.call s a (.scenarioStatus incidentId)).2.reconciled site incidentId
        (.ok (.scenario status)) := by
    rw [← hanswer]
    simp only [Host.run, List.foldl, Host.step, Host.turn, hphase]
  refine Leads.after hfirst ?_
  rw [hturn]
  have hclears : ∀ {middle : Host}, Leads s site a (Cleared .reconcile) middle →
      Leads s site a Recovered middle := by
    rintro middle ⟨events, hevents, hdone, hcleared⟩
    exact ⟨events, hevents, hdone, .inl hcleared⟩
  have hat : ∀ kind : Lab.Kind, Lab.At (h.lab.step site (.begin 0 kind incidentId id)) 0
      ⟨incidentId, id, kind.phase⟩ none h.lab.disk := fun kind => Lab.begin_at site hprocs hlock
  cases status with
  | none => exact hclears (releasing_clears rfl (hat .release) hmarker hname)
  | some status =>
      cases status with
      | pausedApproval => exact hclears (releasing_clears rfl (hat .release) hmarker hname)
      | failedSafe | completed =>
          exact hclears (resetting_clears rfl (hat .reset) hmarker hname halnum)
      | queued | running =>
          refine ⟨[], by simp, rfl, .inr ⟨content, hmarker, ?_⟩⟩
          change Wanted (h.call s a (.scenarioStatus incidentId)).2.store.control _
          rw [hcontrol, hname]
          exact scenarioStatus_wanted hsound.governed.keys hstatus (by simp)

theorem Rested.recovers (hrested : Rested h) (hsound : Sound s h)
    (hreadable : Readable site h.lab.disk.marker) (a : Ambient) : Leads s site a Recovered h := by
  have hfirst : ∀ e ∈ [Event.turns a, Event.turns a], e.Undisturbed a := by
    intro e he
    simp only [List.mem_cons, List.not_mem_nil, or_false, or_self] at he
    rw [he]
    rfl
  refine Leads.after hfirst ?_
  cases hmarker : h.lab.disk.marker with
  | none =>
      have hrun : h.run s site [.turns a, .turns a] = h.goto .claiming := by
        simp only [Host.run, List.foldl, Host.step, Host.turn, hrested.phase, Host.goto, hmarker]
      rw [hrun]
      exact ⟨[], by simp, rfl, .inl hmarker⟩
  | some marker =>
      cases marker with
      | undecodable =>
          rw [hmarker] at hreadable
          exact hreadable.elim
      | text content =>
          rw [hmarker] at hreadable
          have halnum : site.isalnum (Text.strip content) = true := hreadable
          have hrun : h.run s site [.turns a, .turns a] =
              h.goto (.asking (Text.strip content)) := by
            simp only [Host.run, List.foldl, Host.step, Host.turn, hrested.phase, Host.goto,
              hmarker, halnum, if_true]
          have hnext : Sound s (h.run s site [.turns a, .turns a]) := hsound.run _
          rw [hrun] at hnext ⊢
          exact asking_recovers hnext rfl hrested.procs hrested.lock hmarker rfl halnum a

structure Blocked (site : Lab.Site) (disk : Lab.Disk) (h : Host) : Prop where
  phase : h.phase = .idle ∨ h.phase = .reconciling
  procs : h.lab.procs 0 = none
  disk : h.lab.disk = disk

theorem Blocked.step {disk : Lab.Disk} (hblocked : Blocked site disk h)
    (hunreadable : ¬ Readable site disk.marker) (e : Event) :
    Blocked site disk (h.step s site e) := by
  have hphase := hblocked.phase
  cases e with
  | incident incident => exact ⟨hphase, hblocked.procs, hblocked.disk⟩
  | turns a =>
      rcases hphase with hphase | hphase
      · simp only [Host.step, Host.turn, hphase]
        exact ⟨.inr rfl, hblocked.procs, hblocked.disk⟩
      · simp only [Host.step, Host.turn, hphase]
        rw [hblocked.disk]
        split
        · rename_i hmarker
          rw [hmarker] at hunreadable
          exact absurd trivial hunreadable
        · exact ⟨.inl rfl, hblocked.procs, hblocked.disk⟩
        · rename_i content hmarker
          rw [hmarker] at hunreadable
          have halnum : ¬ site.isalnum (Text.strip content) = true := hunreadable
          rw [if_neg halnum]
          exact ⟨.inl rfl, hblocked.procs, hblocked.disk⟩
  | acts fault =>
      have hsame : h.lab.step site (.act 0 fault) = h.lab := by
        simp only [Lab.World.step, hblocked.procs]
      simp only [Host.step, hsame]
      exact hblocked
  | returns caught errorName =>
      simp only [Host.step, hblocked.procs]
      exact hblocked
  | raises errorName =>
      refine ⟨.inl ?_, hblocked.procs, hblocked.disk⟩
      rcases hphase with hphase | hphase <;> simp [Host.step, Host.goto, hphase, Phase.raised]
  | dies => exact ⟨.inl rfl, Lab.place_procs _ _, hblocked.disk⟩
  | finds finalized =>
      rcases hphase with hphase | hphase <;> cases finalized <;>
        simpa only [Host.step, hphase] using hblocked
  | starts contents | graph outcome =>
      rcases hphase with hphase | hphase <;> simpa only [Host.step, hphase] using hblocked

theorem Blocked.run {disk : Lab.Disk} (hblocked : Blocked site disk h)
    (hunreadable : ¬ Readable site disk.marker) (events : List Event) :
    Blocked site disk (h.run s site events) := by
  induction events generalizing h with
  | nil => exact hblocked
  | cons e rest ih => exact ih (hblocked.step hunreadable e)

end Recovery

section Lock

variable {s : Settings} {site : Lab.Site} {h : Host} {incidentId : String}

theorem enter_lock {kind : Lab.Kind} {contents : String → String} {phase : Phase} :
    (h.enter site kind incidentId contents phase).lab.lock = h.lab.lock := by
  simp only [Host.enter, Lab.World.step]
  split <;> rfl

theorem reconciled_lock (answer : Except Refusal Reply) :
    (h.reconciled site incidentId answer).lab.lock = h.lab.lock := by
  unfold Host.reconciled
  split <;> first | exact enter_lock | rfl

theorem notified_lock (errand : Errand) (answer : Except Refusal Reply) :
    (h.notified site errand answer).lab.lock = h.lab.lock := by
  unfold Host.notified
  split
  · split <;> exact enter_lock
  · rfl
  · rfl

theorem prepare_lock (claim : WorkerClaim) :
    (h.prepare site claim incidentId).lab.lock = h.lab.lock := by
  unfold Host.prepare
  split
  · split
    · rfl
    · split <;> first | rfl | exact enter_lock
  · rfl

theorem returned_lock (raised caught : Bool) (errorName : String) :
    (h.returned site raised caught errorName).lab.lock = h.lab.lock := by
  unfold Host.returned
  split
  all_goals first | rfl | skip
  split <;> first | exact enter_lock | rfl

theorem turn_lock (a : Ambient) : (h.turn s site a).lab.lock = h.lab.lock := by
  have hcall : ∀ {call : Call} {answer : Except Refusal Reply} {after : Host},
      h.call s a call = (answer, after) → after.lab.lock = h.lab.lock := by
    intro call answer after hanswer
    exact congrArg (fun result => result.2.lab.lock) hanswer.symm
  unfold Host.turn
  split
  · rfl
  · split <;> rfl
  · exact reconciled_lock _
  · split <;> (rename_i hanswer; have hlock := hcall hanswer; exact hlock)
  · split <;> (rename_i hanswer; have hlock := hcall hanswer; exact hlock)
  · exact prepare_lock _
  · split
    · rename_i hanswer
      have hlock := hcall hanswer
      split <;> exact hlock
    · rename_i hanswer
      have hlock := hcall hanswer
      exact hlock
  · split
    · rfl
    · exact notified_lock _ _
  · split <;> (rename_i hanswer; have hlock := hcall hanswer; exact hlock)
  · rfl

/-- The lock of the lab is free, or the worker holds it. -/
def Alone (w : Lab.World) : Prop := w.lock = none ∨ w.lock = some 0

theorem Alone.act {w : Lab.World} (halone : Alone w) (fault : Option Lab.Fault) :
    Alone (w.step site (.act 0 fault)) := by
  simp only [Lab.World.step]
  split
  · exact halone
  · split
    · split
      · exact halone
      · exact halone
      · exact .inr rfl
    · split
      · exact .inl rfl
      · exact halone

theorem Alone.step (halone : Alone h.lab) (e : Event) : Alone (h.step s site e).lab := by
  have hsame : ∀ {after : Host}, after.lab.lock = h.lab.lock → Alone after.lab := by
    intro after hlock
    exact halone.imp hlock.trans hlock.trans
  unfold Host.step
  split
  · exact halone
  · exact hsame (turn_lock _)
  · exact halone
  · split <;> exact halone
  · exact hsame enter_lock
  · exact Alone.act halone _
  · split
    · exact hsame (returned_lock _ _ _)
    · exact halone
  · exact halone
  · exact halone
  · rcases halone with hlock | hlock
    · exact .inl (by simp [Lab.World.step, Lab.World.place, hlock])
    · exact .inl (by simp [Lab.World.step, Lab.World.place, hlock])
  · exact halone

theorem Alone.run (halone : Alone h.lab) (events : List Event) :
    Alone (h.run s site events).lab := by
  induction events generalizing h with
  | nil => exact halone
  | cons e rest ih => exact ih (halone.step e)

theorem Alone.rested (halone : Alone h.lab) : Rested (h.step s site .dies) := by
  refine ⟨rfl, Lab.place_procs _ _, ?_⟩
  rcases halone with hlock | hlock <;> simp [Host.step, Lab.World.step, Lab.World.place, hlock]

end Lock

section Restarts

theorem reached_append {s : Settings} {site : Lab.Site} {disk : Lab.Disk}
    (before after : List Event) : reached s site disk (before ++ after) =
      (reached s site disk before).run s site after :=
  run_append before after

/-- Wherever the process has died: when the marker can name an incident, the worker that is started
again comes to the next job if nothing of its own fails, and leaves the marker to none but a job
that needs it. When it cannot, the worker never takes a job again, and the marker stays. -/
theorem restart_recovers (s : Settings) (site : Lab.Site) (disk : Lab.Disk) (before : List Event) :
    (Readable site (reached s site disk (before ++ [Event.dies])).lab.disk.marker → ∀ a : Ambient,
      ∃ events, (∀ e ∈ events, e.Undisturbed a) ∧
        (reached s site disk (before ++ [Event.dies] ++ events)).phase = .claiming ∧
          Clean (reached s site disk (before ++ [Event.dies] ++ events))) ∧
      (¬ Readable site (reached s site disk (before ++ [Event.dies])).lab.disk.marker →
        ∀ after : List Event,
          ((reached s site disk (before ++ [Event.dies] ++ after)).phase = .idle ∨
            (reached s site disk (before ++ [Event.dies] ++ after)).phase = .reconciling) ∧
            (reached s site disk (before ++ [Event.dies] ++ after)).lab.disk =
              (reached s site disk (before ++ [Event.dies])).lab.disk) := by
  have halone : Alone (reached s site disk before).lab := Alone.run (.inl rfl) before
  have hrested : Rested (reached s site disk (before ++ [Event.dies])) := by
    rw [reached_append]
    exact @Alone.rested s site _ halone
  have hsound := reached_sound s site disk (before ++ [Event.dies])
  refine ⟨fun hreadable a => ?_, fun hunreadable after => ?_⟩
  · obtain ⟨events, hevents, hlast⟩ := hrested.recovers hsound hreadable a
    refine ⟨events, hevents, ?_⟩
    rw [reached_append]
    exact hlast
  · have hblocked : Blocked site _ (reached s site disk (before ++ [Event.dies])) :=
      ⟨.inl hrested.phase, hrested.procs, rfl⟩
    have hlast := hblocked.run (s := s) hunreadable after
    rw [reached_append]
    exact ⟨hlast.phase, hlast.disk⟩

/-- The process dies when it has made the marker and written nothing into it. -/
def blankMarker : List Event := recording.take 13

theorem restart_recovers_blank :
    ((reached sampleSettings Lab.sampleSite Lab.emptyDisk
        (blankMarker ++ [Event.dies] ++ recording)).phase = .idle ∨
      (reached sampleSettings Lab.sampleSite Lab.emptyDisk
        (blankMarker ++ [Event.dies] ++ recording)).phase = .reconciling) ∧
      (reached sampleSettings Lab.sampleSite Lab.emptyDisk
        (blankMarker ++ [Event.dies] ++ recording)).lab.disk =
          (reached sampleSettings Lab.sampleSite Lab.emptyDisk
            (blankMarker ++ [Event.dies])).lab.disk := by
  have hblank : (reached sampleSettings Lab.sampleSite Lab.emptyDisk
      (blankMarker ++ [Event.dies])).lab.disk.marker = some (.text "") := by decide +kernel
  have hunreadable : ¬ Readable Lab.sampleSite (reached sampleSettings Lab.sampleSite
      Lab.emptyDisk (blankMarker ++ [Event.dies])).lab.disk.marker := by
    rw [hblank]
    change ¬ Text.isAlnum (Text.strip "") = true
    decide +kernel
  exact (restart_recovers sampleSettings Lab.sampleSite Lab.emptyDisk blankMarker).2 hunreadable
    recording

end Restarts

end CausalOps.ControlPlane.Scenarios
