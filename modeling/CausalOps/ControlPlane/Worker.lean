import CausalOps.ControlPlane.Sqlite.Retries

set_option autoImplicit false

/-! The worker that runs one claimed job: the runner, its heartbeat, the callbacks, and the
handlers around them, while other workers call the same control plane. -/

namespace CausalOps.ControlPlane.Sqlite

/-- `type(error).__name__` of what the control plane raises. -/
def refusalName : Refusal → String
  | .notFound _ => "ControlPlaneNotFoundError"
  | .conflict _ => "ControlPlaneConflictError"
  | .integrity _ => "ControlPlaneIntegrityError"
  | .value _ => "ValueError"
  | .sqlite _ => "IntegrityError"

inductive WorkerOutcome where
  | paused (checkpointId : String)
  | finalized (reportArtifact : String)

/-- When the worker calls the control plane, and the exception, if one strikes first. -/
structure Occasion where
  ambient : Ambient
  fault : Option String

/-- What happens while the worker's own thread is busy: something else to the databases, or
a beat of the heartbeat. -/
inductive Meanwhile where
  | other (incident : Incident)
  | heartbeat (occasion : Occasion)

/-- What one call of `run_once` meets: exceptions are given by the names of their classes. -/
structure Surroundings where
  reconcile : Option String
  earlier : List Incident
  claiming : Occasion
  running : List Meanwhile
  outcome : Except String WorkerOutcome
  ending : List Meanwhile
  ended : Occasion
  notifying : List Meanwhile
  notified : Option String
  failing : List Meanwhile
  retried : Occasion
  onFailed : Option String
  leaving : List Meanwhile

structure Issued where
  call : Call
  before : Store
  answer : Except String Reply
  after : Store

structure Session where
  store : Store
  heartbeatFailure : Option String
  issued : List Issued
  failed : Bool

namespace Session

def issue (s : Settings) (session : Session) (occasion : Occasion) (call : Call) :
    Except String Reply × Session :=
  match occasion.fault with
  | some name =>
      (.error name, { session with
        issued := session.issued ++ [⟨call, session.store, .error name, session.store⟩] })
  | none =>
      let (answer, after) := step s session.store (occasion.ambient, call)
      let answer := answer.mapError refusalName
      (answer, { session with
        store := after
        issued := session.issued ++ [⟨call, session.store, answer, after⟩] })

/-- `renew_lease`: the heartbeat ends with its first failure. -/
def beat (s : Settings) (claim : WorkerClaim) (session : Session) (occasion : Occasion) :
    Session :=
  if session.heartbeatFailure.isSome then session
  else
    match session.issue s occasion (.renewRunning claim.investigationId claim.claimToken) with
    | (.ok _, next) => next
    | (.error name, next) => { next with heartbeatFailure := some name }

def meet (s : Settings) (claim : WorkerClaim) (session : Session) : Meanwhile → Session
  | .other incident => { session with store := (happen s session.store incident).2 }
  | .heartbeat occasion => session.beat s claim occasion

def wait (s : Settings) (claim : WorkerClaim) (session : Session) (meanwhile : List Meanwhile) :
    Session :=
  meanwhile.foldl (meet s claim) session

end Session

/-- `mark_paused` or `finalize`, as the runner's outcome says. -/
def endingCall (claim : WorkerClaim) : WorkerOutcome → Call
  | .paused checkpointId => .markPaused claim.investigationId checkpointId claim.claimToken
  | .finalized reportArtifact =>
      .finalize claim.investigationId reportArtifact claim.claimToken

/-- The body of the `try`: the runner, the heartbeat's failure, the end of the job, and the
callback of this end. -/
def runClaimed (s : Settings) (claim : WorkerClaim) (around : Surroundings) (session : Session) :
    Except String Unit × Session :=
  let session := session.wait s claim around.running
  match around.outcome with
  | .error name => (.error name, session)
  | .ok outcome =>
      match session.heartbeatFailure with
      | some name => (.error name, session)
      | none =>
          let session := session.wait s claim around.ending
          match session.issue s around.ended (endingCall claim outcome) with
          | (.error name, session) => (.error name, session)
          | (.ok _, session) =>
              let session := session.wait s claim around.notifying
              match around.notified with
              | some name => (.error name, session)
              | none => (.ok (), session)

/-- The `except Exception`: a bounded retry, and `on_failed` when none is left. A conflict is
passed over, and the error raised again. -/
def handleFailure (s : Settings) (claim : WorkerClaim) (around : Surroundings) (session : Session)
    (error : String) : String × Session :=
  let session := session.wait s claim around.failing
  match session.issue s around.retried
      (.retryRunning claim.investigationId claim.claimToken error) with
  | (.error name, session) =>
      (if name = "ControlPlaneConflictError" then error else name, session)
  | (.ok (.retryable false), session) =>
      let raised := match around.onFailed with
        | none => error
        | some name => if name = "ControlPlaneConflictError" then error else name
      (raised, { session with failed := true })
  | (.ok _, session) => (error, session)

def runOnce (s : Settings) (store : Store) (around : Surroundings) : Except String Bool × Session :=
  match around.reconcile with
  | some name => (.error name, ⟨store, none, [], false⟩)
  | none =>
      let session : Session := ⟨(Machine.run (happen s) store around.earlier).2, none, [], false⟩
      match session.issue s around.claiming .claimNext with
      | (.error name, session) => (.error name, session)
      | (.ok (.claim (some claim)), session) =>
          match runClaimed s claim around session with
          | (.ok _, session) => (.ok true, session.wait s claim around.leaving)
          | (.error error, session) =>
              let (raised, session) := handleFailure s claim around session error
              (.error raised, session.wait s claim around.leaving)
      | (.ok _, session) => (.ok false, session)

end CausalOps.ControlPlane.Sqlite
