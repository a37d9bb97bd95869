import CausalOps.ControlPlane.Worker
import CausalOps.Lab.Scenario

set_option autoImplicit false

/-! The hosted worker around the lab: `run_once` with the callbacks of `ReplayGraphJobRunner`,
which start, release and reset the scenario of a job. Its process may die between any two
operations and be started again, while other processes call the control plane. -/

namespace CausalOps.ControlPlane.Scenarios

open Sqlite

section Host

/-- For what a scenario is released or reset: `reconcile_scenarios`, or a callback. -/
inductive Errand where
  | reconcile
  | paused (claim : WorkerClaim)
  | finalized (claim : WorkerClaim)
  | failed (claim : WorkerClaim)

inductive Phase where
  | idle
  | reconciling
  | asking (incidentId : String)
  | releasing (errand : Errand) (incidentId : String)
  | resetting (errand : Errand) (incidentId : String)
  | claiming
  /-- `_has_finalized_artifact`. -/
  | looking (claim : WorkerClaim)
  | reserving (claim : WorkerClaim)
  | preparing (claim : WorkerClaim) (incidentId : String)
  /-- `run` resets a partial run. -/
  | clearing (claim : WorkerClaim) (incidentId : String)
  | launching (claim : WorkerClaim) (incidentId : String)
  | starting (claim : WorkerClaim) (incidentId : String)
  | investigating (claim : WorkerClaim)
  | ending (claim : WorkerClaim) (outcome : WorkerOutcome)
  | notifying (errand : Errand)
  | failing (claim : WorkerClaim) (errorName : String)

/-- The databases, the lab with the call that the worker makes there, and the worker. -/
structure Host where
  store : Store
  lab : Lab.World
  phase : Phase

def Host.start (disk : Lab.Disk) : Host := ⟨.empty, .start disk, .idle⟩

def Host.goto (h : Host) (phase : Phase) : Host := { h with phase := phase }

def Host.enter (site : Lab.Site) (h : Host) (kind : Lab.Kind) (incidentId : String)
    (contents : String → String) (phase : Phase) : Host :=
  { h with lab := h.lab.step site (.begin 0 kind incidentId contents), phase := phase }

def Host.release (site : Lab.Site) (h : Host) (errand : Errand) (incidentId : String) : Host :=
  h.enter site .release incidentId id (.releasing errand incidentId)

def Host.reset (site : Lab.Site) (h : Host) (errand : Errand) (incidentId : String) : Host :=
  h.enter site .reset incidentId id (.resetting errand incidentId)

end Host

section Steps

def Errand.done : Errand → Phase
  | .reconcile => .claiming
  | _ => .idle

/-- Where an exception leads: a callback of `on_failed` runs in the handler. -/
def Errand.raised (errorName : String) : Errand → Phase
  | .paused claim | .finalized claim => .failing claim errorName
  | .reconcile | .failed _ => .idle

def Errand.claim : Errand → Option WorkerClaim
  | .reconcile => none
  | .paused claim | .finalized claim | .failed claim => some claim

/-- Where an exception leads that is not raised in a call of the lab. -/
def Phase.raised (errorName : String) : Phase → Phase
  | .looking claim | .reserving claim | .preparing claim _ | .launching claim _
  | .investigating claim | .ending claim _ => .failing claim errorName
  | .notifying errand => errand.raised errorName
  | .idle | .reconciling | .asking _ | .claiming | .failing _ _ => .idle
  | phase => phase

/-- What follows a call of the lab. `reset_scenario` of a callback is followed by
`release_scenario` after a `LabError` or an `OSError`. -/
def Host.returned (site : Lab.Site) (h : Host) (raised caught : Bool) (errorName : String) :
    Host :=
  match h.phase, raised with
  | .releasing errand _, false | .resetting errand _, false => h.goto errand.done
  | .releasing errand _, true => h.goto (errand.raised errorName)
  | .resetting errand incidentId, true =>
      if caught then h.release site errand incidentId else h.goto (errand.raised errorName)
  | .clearing claim incidentId, false => h.goto (.launching claim incidentId)
  | .starting claim _, false => h.goto (.investigating claim)
  | .clearing claim _, true | .starting claim _, true => h.goto (.failing claim errorName)
  | _, _ => h

def Host.call (s : Settings) (h : Host) (a : Ambient) (call : Call) :
    Except Refusal Reply × Host :=
  ((step s h.store (a, call)).1, { h with store := (step s h.store (a, call)).2 })

/-- `reconcile_scenarios`, when it has asked for the status of the marked incident. -/
def Host.reconciled (site : Lab.Site) (h : Host) (incidentId : String) :
    Except Refusal Reply → Host
  | .ok (.scenario none) | .ok (.scenario (some .pausedApproval)) =>
      h.release site .reconcile incidentId
  | .ok (.scenario (some .failedSafe)) | .ok (.scenario (some .completed)) =>
      h.reset site .reconcile incidentId
  | .ok _ => h.goto .claiming
  | .error _ => h.goto .idle

/-- A callback, when it has asked for the incident of its job. -/
def Host.notified (site : Lab.Site) (h : Host) (errand : Errand) :
    Except Refusal Reply → Host
  | .ok (.incidentId (some incidentId)) =>
      match errand with
      | .paused _ => h.release site errand incidentId
      | _ => h.reset site errand incidentId
  | .ok _ => h.goto errand.done
  | .error e => h.goto (errand.raised (refusalName e))

/-- `run` with an incident: its run directory is used when `incident.json` is there. -/
def Host.prepare (site : Lab.Site) (h : Host) (claim : WorkerClaim) (incidentId : String) :
    Host :=
  if site.isalnum incidentId then
    match h.lab.disk.runs incidentId with
    | none => h.goto (.launching claim incidentId)
    | some files =>
        if (files "incident.json").isSome then h.goto (.investigating claim)
        else h.enter site .reset incidentId id (.clearing claim incidentId)
  else h.goto (.failing claim "LabError")

/-- The worker's next step outside the lab and the graph. -/
def Host.turn (s : Settings) (site : Lab.Site) (h : Host) (a : Ambient) : Host :=
  match h.phase with
  | .idle => h.goto .reconciling
  | .reconciling =>
      match h.lab.disk.marker with
      | none => h.goto .claiming
      | some .undecodable => h.goto .idle
      | some (.text content) =>
          h.goto (if site.isalnum (Text.strip content) then .asking (Text.strip content) else .idle)
  | .asking incidentId =>
      let (answer, h) := h.call s a (.scenarioStatus incidentId)
      h.reconciled site incidentId answer
  | .claiming =>
      match h.call s a .claimNext with
      | (.ok (.claim (some claim)), h) => h.goto (.looking claim)
      | (_, h) => h.goto .idle
  | .reserving claim =>
      match h.call s a (.reserveIncident claim.investigationId claim.claimToken) with
      | (.ok (.incident incidentId), h) => h.goto (.preparing claim incidentId)
      | (.ok _, h) => h
      | (.error e, h) => h.goto (.failing claim (refusalName e))
  | .preparing claim incidentId => h.prepare site claim incidentId
  | .ending claim outcome =>
      match h.call s a (endingCall claim outcome) with
      | (.ok _, h) =>
          match outcome with
          | .paused _ => h.goto (.notifying (.paused claim))
          | .finalized _ => h.goto (.notifying (.finalized claim))
      | (.error e, h) => h.goto (.failing claim (refusalName e))
  | .notifying errand =>
      match errand.claim with
      | none => h
      | some claim =>
          let (answer, h) := h.call s a (.incidentIdFor claim.investigationId)
          h.notified site errand answer
  | .failing claim errorName =>
      match h.call s a (.retryRunning claim.investigationId claim.claimToken errorName) with
      | (.ok (.retryable false), h) => h.goto (.notifying (.failed claim))
      | (_, h) => h.goto .idle
  | _ => h

/-- What can happen: other processes call the control plane and the ledger; the worker takes its
next step, finds out whether there is a report already, starts a scenario, makes an operation of
its call of the lab, returns from it, and comes to the end of the graph; an exception is raised,
the heartbeat's included; and the process dies. -/
inductive Event where
  | incident (incident : Incident)
  | turns (a : Ambient)
  | finds (finalized : Bool)
  | starts (contents : String → String)
  | acts (fault : Option Lab.Fault)
  | returns (caught : Bool) (errorName : String)
  | graph (outcome : WorkerOutcome)
  | raises (errorName : String)
  | dies

def Host.step (s : Settings) (site : Lab.Site) (h : Host) (event : Event) : Host :=
  match event, h.phase with
  | .incident incident, _ => { h with store := (happen s h.store incident).2 }
  | .turns a, _ => h.turn s site a
  | .finds true, .looking claim =>
      h.goto (.ending claim (.finalized (claim.investigationId ++ "/report.md")))
  | .finds false, .looking claim =>
      match claim.incidentId with
      | none => h.goto (.reserving claim)
      | some incidentId => h.goto (.preparing claim incidentId)
  | .starts contents, .launching claim incidentId =>
      h.enter site .start incidentId contents (.starting claim incidentId)
  | .acts fault, _ => { h with lab := h.lab.step site (.act 0 fault) }
  | .returns caught errorName, _ =>
      match h.lab.procs 0 with
      | some ⟨_, _, .ended raised⟩ =>
          { h with lab := h.lab.place 0 none }.returned site raised caught errorName
      | _ => h
  | .graph outcome, .investigating claim => h.goto (.ending claim outcome)
  | .raises errorName, phase => h.goto (phase.raised errorName)
  | .dies, _ => { h with lab := h.lab.step site (.crash 0), phase := .idle }
  | _, _ => h

def Host.run (s : Settings) (site : Lab.Site) (h : Host) (events : List Event) : Host :=
  events.foldl (Host.step s site) h

def reached (s : Settings) (site : Lab.Site) (disk : Lab.Disk) (events : List Event) : Host :=
  (Host.start disk).run s site events

end Steps

end CausalOps.ControlPlane.Scenarios
