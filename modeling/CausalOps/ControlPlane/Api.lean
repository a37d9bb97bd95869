import CausalOps.ControlPlane.Sqlite.Retries

set_option autoImplicit false

/-! The HTTP boundary of the control plane: who a request speaks for, what each endpoint calls,
and the status codes of what the control plane raises. -/

namespace CausalOps.ControlPlane.Api

section Identity

/-- What `GoogleIdentityVerifier` reads of the claims of a token: the email when it is a string,
and whether `email_verified` is `True`. -/
structure Claims where
  email : Option String
  emailVerified : Bool

/-- `GoogleIdentityVerifier.verify`; every error is a `ValueError`. -/
def verify (validator : String → Option Claims) (bearerToken : String) : Except String String :=
  match validator bearerToken with
  | none => .error "Google ID token is invalid"
  | some claims =>
      match claims.email with
      | none => .error "Google ID token has no email claim"
      | some email =>
          if Text.strip email = "" then .error "Google ID token has no email claim"
          else if !claims.emailVerified then .error "Google ID token email is not verified"
          else .ok email

end Identity

section Boundary

/-- What `create_app` is given. `validator` is the verification of a Google ID token for the
client id, by the time of the request, and `casefold` is `str.casefold`. -/
structure App where
  allowedOwners : List String
  validator : Time → String → Option Claims
  casefold : String → String

def App.normalizedOwners (app : App) : List String :=
  (app.allowedOwners.filter fun owner => Text.strip owner ≠ "").map fun owner =>
    app.casefold (Text.strip owner)

/-- `authorization.startswith("Bearer ")` and what `removeprefix` leaves. -/
def bearer (authorization : String) : Option String :=
  if "Bearer ".toList <+: authorization.toList then
    some (String.ofList (authorization.toList.drop 7))
  else none

/-- `owner`: the caller's normalized email, or the status code of the refusal. -/
def App.owner (app : App) (now : Time) (authorization : Option String) : Except ℕ String :=
  match authorization.bind bearer with
  | none => .error 401
  | some rest =>
      let token := Text.strip rest
      if token = "" then .error 401
      else
        match verify (app.validator now) token with
        | .error _ => .error 401
        | .ok email =>
            let verifiedOwner := app.casefold (Text.strip email)
            if verifiedOwner = "" || verifiedOwner ∉ app.normalizedOwners then .error 403
            else .ok verifiedOwner

def idempotencyKey (raw : Option String) : Except ℕ String :=
  match raw with
  | none => .error 400
  | some key => if Text.strip key = "" then .error 400 else .ok (Text.strip key)

def parseFamily (text : String) : Option ScenarioFamily :=
  if text = "configuration_change" then some .configurationChange
  else if text = "downstream_timeout_retry_amplification" then
    some .downstreamTimeoutRetryAmplification
  else if text = "resource_pool_saturation" then some .resourcePoolSaturation
  else if text = "ambiguous_telemetry" then some .ambiguousTelemetry
  else none

inductive Endpoint where
  | create (scenarioFamily : String) (idempotencyKey : Option String)
  | getStatus (investigationId : String)
  | getEvents (investigationId : String)
  | decide (investigationId decision : String) (rejectionNote : Option String)
  | getReport (investigationId : String)

structure Request where
  authorization : Option String
  endpoint : Endpoint

inductive Response where
  | ok (body : Reply)
  | error (status : ℕ)
  deriving DecidableEq

/-- The control-plane call of a request, or the status code of its refusal: the body is
validated first, then the caller, then the idempotency key. -/
def App.call (app : App) (now : Time) (request : Request) : Except ℕ Call :=
  match request.endpoint with
  | .create scenarioFamily key =>
      match parseFamily scenarioFamily with
      | none => .error 422
      | some family => do
          let owner ← app.owner now request.authorization
          return .create owner family (← idempotencyKey key)
  | .getStatus id => do return .status (← app.owner now request.authorization) id
  | .getEvents id => do return .events (← app.owner now request.authorization) id
  | .decide id decision note =>
      match OwnerDecision.validate decision note with
      | none => .error 422
      | some d => do return .decide (← app.owner now request.authorization) id d
  | .getReport id => do return .report (← app.owner now request.authorization) id

/-- The status code of what the control plane raises; an error that the endpoint does not
catch is a 500. -/
def Endpoint.statusCode : Endpoint → Refusal → ℕ
  | .create _ _, _ => 500
  | _, .notFound _ => 404
  | .decide _ _ _, .conflict _ => 409
  | .getReport _, .conflict _ => 409
  | _, _ => 500

/-- One request to the API in front of the SQLite control plane. -/
def App.respond (app : App) (s : Settings) (store : Sqlite.Store) (a : Ambient)
    (request : Request) : Response × Sqlite.Store :=
  match app.call a.now request with
  | .error status => (.error status, store)
  | .ok call =>
      match Sqlite.step s store (a, call) with
      | (.ok reply, store') => (.ok reply, store')
      | (.error e, store') => (.error (request.endpoint.statusCode e), store')

end Boundary

end CausalOps.ControlPlane.Api
