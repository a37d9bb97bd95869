import CausalOps.ControlPlane.Scenarios
import CausalOps.ControlPlane.Sqlite.Incidents
import CausalOps.Lab.Calls

set_option autoImplicit false

/-! What an investigation has in its run directory is kept until the investigation is over: the
worker resets no other scenario, wherever its process dies. -/

namespace CausalOps.ControlPlane.Scenarios

open Sqlite

section Runs

variable {s : Settings} {site : Lab.Site} {h : Host} {id incidentId : String}

/-- The incident that the worker's call of the lab is about. -/
def Phase.incident : Phase → Option String
  | .releasing _ incidentId | .resetting _ incidentId | .clearing _ incidentId
  | .starting _ incidentId => some incidentId
  | _ => none

/-- The worker makes the run directory of an incident. -/
def Phase.Makes (incidentId : String) : Phase → Prop
  | .clearing _ other | .launching _ other | .starting _ other => other = incidentId
  | _ => False

instance (incidentId : String) : (phase : Phase) → Decidable (phase.Makes incidentId)
  | .clearing _ other | .launching _ other | .starting _ other =>
      inferInstanceAs (Decidable (other = incidentId))
  | .idle | .reconciling | .asking _ | .releasing _ _ | .resetting _ _ | .claiming | .looking _
  | .reserving _ | .preparing _ _ | .investigating _ | .ending _ _ | .notifying _
  | .failing _ _ => inferInstanceAs (Decidable False)

/-- What the worker knows: it resets the scenario of a job that is over. -/
def Phase.Knows (db : Database) : Phase → Prop
  | .resetting _ incidentId => Closed db incidentId
  | .notifying (.finalized claim) | .notifying (.failed claim) => Ended db claim.investigationId
  | _ => True

structure Sound (s : Settings) (h : Host) : Prop where
  governed : Governed s h.store.control
  named : ∀ id, (h.store.control.thread id).Named
  called : (h.lab.procs 0).map Lab.Proc.id = h.phase.incident
  releasing : ∀ errand incidentId, h.phase = .releasing errand incidentId →
    ∀ proc, h.lab.procs 0 = some proc → proc.phase.releases = true
  knows : h.phase.Knows h.store.control

theorem sound_start (s : Settings) (disk : Lab.Disk) : Sound s (.start disk) where
  governed := governed_empty
  named := by
    intro id job hjob
    cases hjob
  called := rfl
  releasing := by
    intro errand incidentId hphase
    cases hphase
  knows := trivial

theorem Phase.Knows.ahead {phase : Phase} {db db' : Database} (hahead : Onward s db db')
    (hgoverned : Governed s db) (h : phase.Knows db) : phase.Knows db' := by
  cases phase with
  | resetting errand incidentId => exact Closed.ahead hahead hgoverned h
  | notifying errand =>
      cases errand with
      | finalized claim | failed claim => exact Ended.ahead hahead hgoverned h
      | reconcile | paused claim => trivial
  | _ => trivial

/-- A step of the worker outside the lab: what others have done counts as well. -/
structure Turned (s : Settings) (h h' : Host) : Prop where
  governed : Governed s h'.store.control
  ahead : Onward s h.store.control h'.store.control
  disk : h'.lab.disk = h.lab.disk
  called : (h'.lab.procs 0).map Lab.Proc.id = h'.phase.incident
  releasing : ∀ errand incidentId, h'.phase = .releasing errand incidentId →
    ∀ proc, h'.lab.procs 0 = some proc → proc.phase.releases = true
  knows : h'.phase.Knows h'.store.control
  /-- A run directory is made only where there is no `incident.json`. -/
  makes : ∀ incidentId, h'.phase.Makes incidentId → h.phase.Makes incidentId ∨
    ∀ files, h.lab.disk.runs incidentId = some files → files "incident.json" = none

theorem Turned.sound {h' : Host} (hturned : Turned s h h') (hsound : Sound s h) : Sound s h' :=
  ⟨hturned.governed, fun id => Thread.Steps.named (hturned.ahead id) (hsound.named id),
    hturned.called, hturned.releasing, hturned.knows⟩

/-- A phase in which the worker calls nothing of the lab and makes no run directory. -/
structure Phase.Free (db : Database) (phase : Phase) : Prop where
  incident : phase.incident = none
  knows : phase.Knows db
  makes : ∀ incidentId, ¬ phase.Makes incidentId

theorem free_done {db : Database} (errand : Errand) : errand.done.Free db := by
  cases errand <;> exact ⟨rfl, trivial, fun _ h => h⟩

theorem free_errand_raised {db : Database} (errand : Errand) (errorName : String) :
    (errand.raised errorName).Free db := by
  cases errand <;> exact ⟨rfl, trivial, fun _ h => h⟩

structure Ready (s : Settings) (h middle : Host) : Prop where
  governed : Governed s middle.store.control
  ahead : Onward s h.store.control middle.store.control
  disk : middle.lab.disk = h.lab.disk
  procs : middle.lab.procs 0 = none

theorem Sound.procs (hsound : Sound s h) (hphase : h.phase.incident = none) :
    h.lab.procs 0 = none := by
  have hcalled := hsound.called
  rw [hphase] at hcalled
  exact Option.map_eq_none_iff.1 hcalled

theorem Sound.ready (hsound : Sound s h) (hphase : h.phase.incident = none) : Ready s h h :=
  ⟨hsound.governed, fun _ => .refl, rfl, hsound.procs hphase⟩

theorem Sound.ready_call (hsound : Sound s h) (hphase : h.phase.incident = none) (a : Ambient)
    (call : Call) : Ready s h (h.call s a call).2 := by
  obtain ⟨hgoverned, hahead⟩ := happen_onward hsound.governed (.call a call)
  exact ⟨hgoverned, hahead, rfl, hsound.procs hphase⟩

theorem Sound.happened (hsound : Sound s h) (incident : Incident) :
    Turned s h { h with store := (happen s h.store incident).2 } := by
  obtain ⟨hgoverned, hahead⟩ := happen_onward hsound.governed incident
  exact ⟨hgoverned, hahead, rfl, hsound.called, hsound.releasing,
    hsound.knows.ahead hahead hsound.governed, fun _ hmakes => .inl hmakes⟩

theorem Sound.still (hsound : Sound s h) : Turned s h h :=
  ⟨hsound.governed, fun _ => .refl, rfl, hsound.called, hsound.releasing, hsound.knows,
    fun _ hmakes => .inl hmakes⟩

theorem Ready.goto {middle : Host} (hready : Ready s h middle) {phase : Phase}
    (hfree : phase.Free middle.store.control) : Turned s h (middle.goto phase) where
  governed := hready.governed
  ahead := hready.ahead
  disk := hready.disk
  called := by
    change (middle.lab.procs 0).map Lab.Proc.id = phase.incident
    rw [hready.procs, hfree.incident]
    rfl
  releasing := by
    intro errand incidentId hphase
    change phase = _ at hphase
    have hincident := hfree.incident
    rw [hphase] at hincident
    cases hincident
  knows := hfree.knows
  makes := fun incidentId hmakes => absurd hmakes (hfree.makes incidentId)

theorem Ready.enter {middle : Host} (hready : Ready s h middle) {kind : Lab.Kind}
    {contents : String → String} {phase : Phase} (hphase : phase.incident = some incidentId)
    (hreleasing : ∀ errand other, phase = .releasing errand other → kind = .release)
    (hknows : phase.Knows middle.store.control)
    (hmakes : ∀ other, phase.Makes other → h.phase.Makes other ∨
      ∀ files, h.lab.disk.runs other = some files → files "incident.json" = none) :
    Turned s h (middle.enter site kind incidentId contents phase) where
  governed := hready.governed
  ahead := hready.ahead
  disk := by
    change (middle.lab.step site (.begin 0 kind incidentId contents)).disk = h.lab.disk
    rw [Lab.begin_disk, hready.disk]
  called := by
    change ((middle.lab.step site (.begin 0 kind incidentId contents)).procs 0).map _ =
      phase.incident
    rw [Lab.begin_procs hready.procs, hphase]
    rfl
  releasing := by
    intro errand other hother proc hproc
    change (middle.lab.step site (.begin 0 kind incidentId contents)).procs 0 = some proc at hproc
    rw [Lab.begin_procs hready.procs] at hproc
    obtain rfl := Option.some.inj hproc
    obtain rfl := hreleasing errand other hother
    rfl
  knows := hknows
  makes := hmakes

theorem Ready.release {middle : Host} (hready : Ready s h middle) (errand : Errand)
    (incidentId : String) : Turned s h (middle.release site errand incidentId) :=
  hready.enter rfl (fun _ _ _ => rfl) trivial fun _ hmakes => hmakes.elim

theorem Ready.reset {middle : Host} (hready : Ready s h middle) (errand : Errand)
    (hclosed : Closed middle.store.control incidentId) :
    Turned s h (middle.reset site errand incidentId) := by
  refine hready.enter rfl ?_ hclosed fun _ hmakes => hmakes.elim
  intro other incident hphase
  cases hphase

end Runs

section Turns

variable {s : Settings} {site : Lab.Site} {h : Host} {incidentId : String}

/-- What the control plane answers to a call of the worker, and has then. -/
theorem answered {a : Ambient} {call : Call} {reply : Reply}
    {answer : Except Refusal (Reply × Database)}
    (hbody : body s a call h.store.control = .lift answer)
    (hanswer : (h.call s a call).1 = .ok reply) :
    answer = .ok (reply, (h.call s a call).2.store.control) :=
  step_lifted hbody hanswer

theorem asking_turned (hsound : Sound s h) (hphase : h.phase = .asking incidentId) (a : Ambient) :
    Turned s h ((h.call s a (.scenarioStatus incidentId)).2.reconciled site incidentId
      (h.call s a (.scenarioStatus incidentId)).1) := by
  have hready := hsound.ready_call (by rw [hphase]; rfl) a (.scenarioStatus incidentId)
  have hclosed : ∀ status, status = .failedSafe ∨ status = .completed →
      (h.call s a (.scenarioStatus incidentId)).1 = .ok (.scenario (some status)) →
        Closed (h.call s a (.scenarioStatus incidentId)).2.store.control incidentId := by
    intro status hended hanswer
    have hsame := answered rfl hanswer
    have hclosed := scenarioStatus_closed hsound.governed.keys hsame hended
    rw [scenarioStatus_same hsame]
    exact hclosed
  cases hanswer : (h.call s a (.scenarioStatus incidentId)).1 with
  | error e => exact hready.goto ⟨rfl, trivial, fun _ h => h⟩
  | ok reply =>
      cases reply with
      | scenario status =>
          cases status with
          | none => exact hready.release .reconcile incidentId
          | some status =>
              cases status with
              | pausedApproval => exact hready.release .reconcile incidentId
              | failedSafe => exact hready.reset .reconcile (hclosed _ (.inl rfl) hanswer)
              | completed => exact hready.reset .reconcile (hclosed _ (.inr rfl) hanswer)
              | queued | running => exact hready.goto ⟨rfl, trivial, fun _ h => h⟩
      | _ => exact hready.goto ⟨rfl, trivial, fun _ h => h⟩

theorem notifying_turned (hsound : Sound s h) {errand : Errand} {claim : WorkerClaim}
    (hphase : h.phase = .notifying errand) (hclaim : errand.claim = some claim) (a : Ambient) :
    Turned s h ((h.call s a (.incidentIdFor claim.investigationId)).2.notified site errand
      (h.call s a (.incidentIdFor claim.investigationId)).1) := by
  have hready := hsound.ready_call (by rw [hphase]; rfl) a (.incidentIdFor claim.investigationId)
  have hknows := hsound.knows
  rw [hphase] at hknows
  have hclosed : ∀ incidentId, Ended h.store.control claim.investigationId →
      (h.call s a (.incidentIdFor claim.investigationId)).1 =
        .ok (.incidentId (some incidentId)) →
        Closed (h.call s a (.incidentIdFor claim.investigationId)).2.store.control incidentId := by
    intro incidentId hended hanswer
    have hsame := answered rfl hanswer
    have hdb := incidentIdFor_moves hsame
    rw [hdb]
    exact hended.closed (incidentIdFor_holds hsame)
  cases hanswer : (h.call s a (.incidentIdFor claim.investigationId)).1 with
  | error e => exact hready.goto (free_errand_raised errand (refusalName e))
  | ok reply =>
      cases reply with
      | incidentId stored =>
          cases stored with
          | none => exact hready.goto (free_done errand)
          | some incidentId =>
              cases errand with
              | reconcile => cases hclaim
              | paused held => exact hready.release _ incidentId
              | finalized held | failed held =>
                  obtain rfl := Option.some.inj hclaim
                  exact hready.reset _ (hclosed incidentId hknows hanswer)
      | _ => exact hready.goto (free_done errand)

theorem prepare_turned (hsound : Sound s h) {claim : WorkerClaim}
    (hphase : h.phase = .preparing claim incidentId) :
    Turned s h (h.prepare site claim incidentId) := by
  have hready := hsound.ready (by rw [hphase]; rfl)
  unfold Host.prepare
  split
  swap
  · exact hready.goto ⟨rfl, trivial, fun _ h => h⟩
  split
  · rename_i hnone
    refine ⟨hready.governed, hready.ahead, rfl, ?_, ?_, trivial, ?_⟩
    · change (h.lab.procs 0).map Lab.Proc.id = none
      rw [hready.procs]
      rfl
    · intro errand other hother
      cases hother
    · rintro other rfl
      right
      intro files hfiles
      rw [hnone] at hfiles
      cases hfiles
  · rename_i files hfiles
    split
    · exact hready.goto ⟨rfl, trivial, fun _ h => h⟩
    · rename_i hmissing
      refine hready.enter rfl ?_ trivial ?_
      · intro errand other hother
        cases hother
      · rintro other rfl
        right
        intro found hfound
        rw [hfiles] at hfound
        obtain rfl := Option.some.inj hfound
        simpa using hmissing

theorem ending_turned (hsound : Sound s h) {claim : WorkerClaim} {outcome : WorkerOutcome}
    (hphase : h.phase = .ending claim outcome) (a : Ambient) :
    Turned s h (h.turn s site a) := by
  have hready := hsound.ready_call (by rw [hphase]; rfl) a (endingCall claim outcome)
  simp only [Host.turn, hphase]
  split
  · rename_i reply after hanswer
    have hafter := congrArg Prod.snd hanswer
    cases outcome with
    | paused checkpointId =>
        rw [hafter] at hready
        exact hready.goto ⟨rfl, trivial, fun _ h => h⟩
    | finalized artifact =>
        have hended := finalize_ended hsound.governed.keys
          (answered rfl (congrArg Prod.fst hanswer))
        rw [hafter] at hready hended
        exact hready.goto ⟨rfl, hended, fun _ h => h⟩
  · rename_i e after hanswer
    have hafter := congrArg Prod.snd hanswer
    rw [hafter] at hready
    exact hready.goto ⟨rfl, trivial, fun _ h => h⟩

theorem failing_turned (hsound : Sound s h) {claim : WorkerClaim} {errorName : String}
    (hphase : h.phase = .failing claim errorName) (a : Ambient) :
    Turned s h (h.turn s site a) := by
  have hready := hsound.ready_call (by rw [hphase]; rfl) a
    (.retryRunning claim.investigationId claim.claimToken errorName)
  simp only [Host.turn, hphase]
  split
  · rename_i after hanswer
    have hlast := congrArg Prod.fst hanswer
    have hafter := congrArg Prod.snd hanswer
    have hended := retryRunning_ended hsound.governed.keys (answered rfl hlast)
    rw [hafter] at hready hended
    exact hready.goto ⟨rfl, hended, fun _ h => h⟩
  · rename_i answer after hother hanswer
    have hafter := congrArg Prod.snd hanswer
    rw [hafter] at hready
    exact hready.goto ⟨rfl, trivial, fun _ h => h⟩

theorem turn_turned (hsound : Sound s h) (a : Ambient) : Turned s h (h.turn s site a) := by
  cases hphase : h.phase with
  | idle =>
      have hready := hsound.ready (by rw [hphase]; rfl)
      simp only [Host.turn, hphase]
      exact hready.goto ⟨rfl, trivial, fun _ h => h⟩
  | reconciling =>
      have hready := hsound.ready (by rw [hphase]; rfl)
      simp only [Host.turn, hphase]
      split
      · exact hready.goto ⟨rfl, trivial, fun _ h => h⟩
      · exact hready.goto ⟨rfl, trivial, fun _ h => h⟩
      · split <;> exact hready.goto ⟨rfl, trivial, fun _ h => h⟩
  | asking incidentId =>
      simp only [Host.turn, hphase]
      exact asking_turned hsound hphase a
  | claiming =>
      have hready := hsound.ready_call (by rw [hphase]; rfl) a .claimNext
      simp only [Host.turn, hphase]
      split <;> rename_i hanswer <;> rw [congrArg Prod.snd hanswer] at hready <;>
        exact hready.goto ⟨rfl, trivial, fun _ h => h⟩
  | reserving claim =>
      have hready := hsound.ready_call (by rw [hphase]; rfl) a
        (.reserveIncident claim.investigationId claim.claimToken)
      simp only [Host.turn, hphase]
      split <;> rename_i hanswer <;> rw [congrArg Prod.snd hanswer] at hready
      · exact hready.goto ⟨rfl, trivial, fun _ h => h⟩
      · have hturned := hsound.happened (.call a
          (.reserveIncident claim.investigationId claim.claimToken))
        change Turned s h (h.call s a _).2 at hturned
        rw [hanswer] at hturned
        exact hturned
      · exact hready.goto ⟨rfl, trivial, fun _ h => h⟩
  | preparing claim incidentId =>
      simp only [Host.turn, hphase]
      exact prepare_turned hsound hphase
  | ending claim outcome => exact ending_turned hsound hphase a
  | notifying errand =>
      simp only [Host.turn, hphase]
      split
      · exact hsound.still
      · rename_i claim hclaim
        exact notifying_turned hsound hphase hclaim a
  | failing claim errorName => exact failing_turned hsound hphase a
  | releasing errand incidentId | resetting errand incidentId | looking claim
  | clearing claim incidentId | launching claim incidentId | starting claim incidentId
  | investigating claim =>
      simp only [Host.turn, hphase]
      exact hsound.still

end Turns

section Events

variable {s : Settings} {site : Lab.Site} {h : Host} {id incidentId : String}

theorem returned_turned (hsound : Sound s h) {proc : Lab.Proc} (hproc : h.lab.procs 0 = some proc)
    (raised caught : Bool) (errorName : String) :
    Turned s h ({ h with lab := h.lab.place 0 none }.returned site raised caught errorName) := by
  have hready : Ready s h { h with lab := h.lab.place 0 none } :=
    ⟨hsound.governed, fun _ => .refl, rfl, Lab.place_procs 0 none⟩
  have hcalled := hsound.called
  rw [hproc] at hcalled
  obtain ⟨store, lab, phase⟩ := h
  cases phase with
  | releasing errand incidentId =>
      cases raised with
      | false => exact hready.goto (free_done errand)
      | true => exact hready.goto (free_errand_raised errand errorName)
  | resetting errand incidentId =>
      cases raised with
      | false => exact hready.goto (free_done errand)
      | true =>
          cases caught with
          | true => exact hready.release errand incidentId
          | false => exact hready.goto (free_errand_raised errand errorName)
  | clearing claim incidentId =>
      cases raised with
      | true => exact hready.goto ⟨rfl, trivial, fun _ h => h⟩
      | false =>
          refine ⟨hready.governed, hready.ahead, rfl, ?_, ?_, trivial, ?_⟩
          · change ((lab.place 0 none).procs 0).map Lab.Proc.id = none
            rw [Lab.place_procs]
            rfl
          · intro errand other hother
            cases hother
          · exact fun _ hmakes => .inl hmakes
  | starting claim incidentId =>
      cases raised <;> exact hready.goto ⟨rfl, trivial, fun _ h => h⟩
  | _ => cases hcalled

theorem raised_turned (hsound : Sound s h) (errorName : String) :
    Turned s h (h.goto (h.phase.raised errorName)) := by
  cases hphase : h.phase with
  | releasing errand incidentId | resetting errand incidentId | clearing claim incidentId
  | starting claim incidentId =>
      have hstill := hsound.still
      obtain ⟨store, lab, phase⟩ := h
      obtain rfl : phase = _ := hphase
      exact hstill
  | notifying errand =>
      exact (hsound.ready (by rw [hphase]; rfl)).goto (free_errand_raised errand errorName)
  | _ =>
      exact (hsound.ready (by rw [hphase]; rfl)).goto ⟨rfl, trivial, fun _ h => h⟩

theorem died_turned (hsound : Sound s h) :
    Turned s h { h with lab := h.lab.step site (.crash 0), phase := .idle } := by
  refine ⟨hsound.governed, fun _ => .refl, rfl, ?_, ?_, trivial, fun _ h => h.elim⟩
  · change ((Lab.World.place _ 0 none).procs 0).map Lab.Proc.id = none
    rw [Lab.place_procs]
    rfl
  · intro errand other hother
    cases hother

/-- Every step but an operation of the lab leaves the lab's files as they are. -/
theorem step_turned (hsound : Sound s h) (e : Event) :
    Turned s h (h.step s site e) ∨ ∃ fault, e = .acts fault := by
  cases e with
  | incident incident => exact .inl (hsound.happened incident)
  | turns a => exact .inl (turn_turned hsound a)
  | acts fault => exact .inr ⟨fault, rfl⟩
  | dies => exact .inl (died_turned hsound)
  | raises errorName => exact .inl (raised_turned hsound errorName)
  | finds finalized =>
      left
      cases hphase : h.phase with
      | looking claim =>
          have hready := hsound.ready (by rw [hphase]; rfl)
          cases finalized with
          | true =>
              simp only [Host.step, hphase]
              exact hready.goto ⟨rfl, trivial, fun _ h => h⟩
          | false =>
              simp only [Host.step, hphase]
              split <;> exact hready.goto ⟨rfl, trivial, fun _ h => h⟩
      | _ =>
          cases finalized <;> simp only [Host.step, hphase] <;> exact hsound.still
  | starts contents =>
      left
      cases hphase : h.phase with
      | launching claim incidentId =>
          have hready := hsound.ready (by rw [hphase]; rfl)
          simp only [Host.step, hphase]
          refine hready.enter rfl ?_ trivial ?_
          · intro errand other hother
            cases hother
          · rintro other rfl
            rw [hphase]
            exact .inl rfl
      | _ =>
          simp only [Host.step, hphase]
          exact hsound.still
  | graph outcome =>
      left
      cases hphase : h.phase with
      | investigating claim =>
          have hready := hsound.ready (by rw [hphase]; rfl)
          simp only [Host.step, hphase]
          exact hready.goto ⟨rfl, trivial, fun _ h => h⟩
      | _ =>
          simp only [Host.step, hphase]
          exact hsound.still
  | returns caught errorName =>
      left
      simp only [Host.step]
      split
      · rename_i raised hproc
        exact returned_turned hsound hproc raised caught errorName
      · exact hsound.still

structure Stepped (s : Settings) (h h' : Host) : Prop where
  sound : Sound s h'
  ahead : Onward s h.store.control h'.store.control
  runs : ∀ incidentId, h'.lab.disk.runs incidentId = h.lab.disk.runs incidentId ∨
    Closed h.store.control incidentId ∨ h.phase.Makes incidentId
  makes : ∀ incidentId, h'.phase.Makes incidentId → h.phase.Makes incidentId ∨
    ∀ files, h.lab.disk.runs incidentId = some files → files "incident.json" = none

/-- An operation of the lab works on the incident that the worker's call is about. -/
theorem acts_stepped (hsound : Sound s h) (fault : Option Lab.Fault) :
    Stepped s h (h.step s site (.acts fault)) := by
  have hstep : h.step s site (.acts fault) =
      { h with lab := h.lab.step site (.act 0 fault) } := by
    simp only [Host.step]
  rw [hstep]
  cases hproc : h.lab.procs 0 with
  | none =>
      have hsame : h.lab.step site (.act 0 fault) = h.lab := by
        simp only [Lab.World.step, hproc]
      rw [hsame]
      exact ⟨hsound, fun _ => .refl, fun _ => .inl rfl, fun _ hmakes => .inl hmakes⟩
  | some proc =>
      have hacted : Lab.Acted h.lab (h.lab.step site (.act 0 fault)) 0 proc := Lab.act_acted hproc
      obtain ⟨phase, hphase, hreleases⟩ := hacted.called
      have hcalled := hsound.called
      rw [hproc] at hcalled
      refine ⟨⟨hsound.governed, hsound.named, ?_, ?_, hsound.knows⟩, fun _ => .refl, ?_,
        fun _ hmakes => .inl hmakes⟩
      · change ((h.lab.step site (.act 0 fault)).procs 0).map Lab.Proc.id = h.phase.incident
        rw [hphase]
        exact hcalled
      · intro errand other hother after hafter
        change (h.lab.step site (.act 0 fault)).procs 0 = some after at hafter
        rw [hphase] at hafter
        obtain rfl := Option.some.inj hafter
        exact hreleases (hsound.releasing errand other hother proc hproc)
      · intro incidentId
        by_cases hid : incidentId = proc.id
        swap
        · exact .inl (hacted.runs incidentId hid)
        -- The call is about this incident: the phase says what it may do.
        change some proc.id = h.phase.incident at hcalled
        rw [← hid] at hcalled
        have hknows := hsound.knows
        cases hwhere : h.phase with
        | releasing errand other =>
            exact .inl (congrFun (hacted.released
              (hsound.releasing errand other hwhere proc hproc)) incidentId)
        | resetting errand other =>
            rw [hwhere] at hcalled hknows
            obtain rfl := Option.some.inj hcalled
            exact .inr (.inl hknows)
        | clearing claim other | starting claim other =>
            rw [hwhere] at hcalled
            exact .inr (.inr (Option.some.inj hcalled).symm)
        | _ =>
            rw [hwhere] at hcalled
            cases hcalled

theorem step_stepped (hsound : Sound s h) (e : Event) : Stepped s h (h.step s site e) := by
  rcases @step_turned s site h hsound e with hturned | ⟨fault, rfl⟩
  · exact ⟨hturned.sound hsound, hturned.ahead,
      fun incidentId => .inl (congrFun (congrArg Lab.Disk.runs hturned.disk) incidentId),
      hturned.makes⟩
  · exact acts_stepped hsound fault

end Events

section Evidence

variable {s : Settings} {site : Lab.Site} {h : Host} {id incidentId : String}
  {files : Lab.RunFiles}

/-- An investigation is over, or has the files of its incident. -/
structure Keeps (h : Host) (id incidentId : String) (files : Lab.RunFiles) : Prop where
  holds : (h.store.control.thread id).Holds incidentId
  kept : Ended h.store.control id ∨
    h.lab.disk.runs incidentId = some files ∧ ¬ h.phase.Makes incidentId

theorem Keeps.step (hkeeps : Keeps h id incidentId files) (hsound : Sound s h)
    (hevidence : (files "incident.json").isSome = true) (e : Event) :
    Keeps (h.step s site e) id incidentId files := by
  have hstepped : Stepped s h (h.step s site e) := step_stepped hsound e
  refine ⟨Thread.Steps.holds (hstepped.ahead id) hkeeps.holds, ?_⟩
  rcases hkeeps.kept with hended | ⟨hfiles, hmakes⟩
  · exact .inl (hended.ahead hstepped.ahead hsound.governed)
  rcases hstepped.runs incidentId with hsame | hclosed | hmaking
  · refine .inr ⟨hsame.trans hfiles, fun hafter => ?_⟩
    rcases hstepped.makes incidentId hafter with hmaking | hbare
    · exact hmakes hmaking
    · rw [hbare files hfiles] at hevidence
      cases hevidence
  · exact .inl ((hclosed.ended hsound.named hkeeps.holds).ahead hstepped.ahead hsound.governed)
  · exact absurd hmaking hmakes

theorem Keeps.run (hkeeps : Keeps h id incidentId files) (hsound : Sound s h)
    (hevidence : (files "incident.json").isSome = true) (events : List Event) :
    Keeps (h.run s site events) id incidentId files := by
  induction events generalizing h with
  | nil => exact hkeeps
  | cons e rest ih =>
      exact ih (hkeeps.step hsound hevidence e) (step_stepped hsound e).sound

theorem Sound.run (hsound : Sound s h) (events : List Event) : Sound s (h.run s site events) := by
  induction events generalizing h with
  | nil => exact hsound
  | cons e rest ih => exact ih (step_stepped hsound e).sound

theorem reached_sound (s : Settings) (site : Lab.Site) (disk : Lab.Disk) (events : List Event) :
    Sound s (reached s site disk events) :=
  (sound_start s disk).run events

/-- When an investigation has its incident and the run directory has its `incident.json`, and the
worker does not make this directory at the moment, then its files stay as they are until the
investigation is over: whatever the worker and other processes do, wherever operations fail and
the process dies, and whichever jobs the worker runs. -/
theorem evidence_kept (s : Settings) (site : Lab.Site) (disk : Lab.Disk)
    (before after : List Event) (id incidentId : String) (files : Lab.RunFiles)
    (hholds : ((reached s site disk before).store.control.thread id).Holds incidentId)
    (hfiles : (reached s site disk before).lab.disk.runs incidentId = some files)
    (hevidence : (files "incident.json").isSome = true)
    (hmakes : ¬ (reached s site disk before).phase.Makes incidentId) :
    ((reached s site disk (before ++ after)).store.control.thread id).Holds incidentId ∧
      (Ended (reached s site disk (before ++ after)).store.control id ∨
        (reached s site disk (before ++ after)).lab.disk.runs incidentId = some files) := by
  have hkeeps : Keeps (reached s site disk before) id incidentId files :=
    ⟨hholds, .inr ⟨hfiles, hmakes⟩⟩
  have hlast : Keeps ((reached s site disk before).run s site after) id incidentId files :=
    hkeeps.run (reached_sound s site disk before) hevidence after
  have hrun : reached s site disk (before ++ after) =
      (reached s site disk before).run s site after := List.foldl_append
  rw [hrun]
  exact ⟨hlast.holds, hlast.kept.imp_right And.left⟩

/-- The worker makes the run directory of a job and comes to its graph. -/
def recording : List Event :=
  [Event.incident
      (.call (ambient 0 jobA) (.create "owner@example.com" .configurationChange "first")),
    Event.turns (ambient 0 tokenC), Event.turns (ambient 0 tokenC),
    Event.turns (ambient 0 tokenC), Event.finds false, Event.turns (ambient 0 tokenC),
    Event.turns (ambient 0 tokenC), Event.starts fun path => path] ++
    List.replicate 18 (Event.acts none) ++ [Event.returns false ""]

/-- The graph pauses, the process dies before the marker is released, and its successor does it. -/
def pausing : List Event :=
  [Event.graph (.paused "checkpoint"), Event.turns (ambient 0 tokenC),
    Event.turns (ambient 0 tokenC), Event.dies, Event.turns (ambient 0 tokenC),
    Event.turns (ambient 0 tokenC), Event.turns (ambient 0 tokenC)] ++
    List.replicate 4 (Event.acts none)

def sampleRun (events : List Event) : Host :=
  reached sampleSettings Lab.sampleSite Lab.emptyDisk events

def recordedFiles : Lab.RunFiles :=
  ((sampleRun recording).lab.disk.runs (scenarioIncident jobA.hex)).getD fun _ => none

theorem evidence_kept_paused :
    (sampleRun (recording ++ pausing)).lab.disk.marker = none ∧
      (sampleRun (recording ++ pausing)).lab.disk.runs (scenarioIncident jobA.hex) =
        some recordedFiles := by
  have hsome : ((sampleRun recording).lab.disk.runs (scenarioIncident jobA.hex)).isSome = true := by
    decide +kernel
  have hfiles : (sampleRun recording).lab.disk.runs (scenarioIncident jobA.hex) =
      some recordedFiles := by
    obtain ⟨files, hfiles⟩ := Option.isSome_iff_exists.1 hsome
    rw [recordedFiles, hfiles]
    rfl
  have hholds : ((sampleRun recording).store.control.thread jobA.hex).Holds
      (scenarioIncident jobA.hex) := by
    have hincident : ((sampleRun recording).store.control.thread jobA.hex).job.bind
        (fun job => job.incidentId) = some (scenarioIncident jobA.hex) := by decide +kernel
    exact Option.bind_eq_some_iff.1 hincident
  have hopen : ¬ Ended (sampleRun (recording ++ pausing)).store.control jobA.hex := by
    have hpaused : ((sampleRun (recording ++ pausing)).store.control.thread jobA.hex).job.map
        (fun job => (job.failureReason, job.status)) = some (none, .pausedApproval) := by
      decide +kernel
    rintro ⟨job, hjob, hfinished⟩
    rw [hjob] at hpaused
    obtain ⟨hreason, hstatus⟩ := Prod.mk.inj (Option.some.inj hpaused)
    rcases hfinished with h | h
    · exact h hreason
    · rw [hstatus] at h
      cases h
  refine ⟨by decide +kernel, ?_⟩
  refine (evidence_kept sampleSettings Lab.sampleSite Lab.emptyDisk recording pausing jobA.hex
    (scenarioIncident jobA.hex) recordedFiles hholds hfiles (by decide +kernel)
    (by decide +kernel)).2.resolve_left hopen

end Evidence

end CausalOps.ControlPlane.Scenarios
