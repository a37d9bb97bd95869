import Mathlib.Data.Rat.Defs
import Mathlib.Algebra.Order.Field.Rat
import Mathlib.Tactic.NormNum
import Mathlib.Tactic.Linarith
import CausalOps.Library.Text

set_option autoImplicit false

/-! What both control planes exchange with their callers: requests, answers,
refusals, and the columns of a stored job, delivery and timeline event. -/

namespace CausalOps.ControlPlane

/-- A reading of the clock, in seconds. Exact numbers stand for the floats. -/
abbrev Time := ℚ

inductive ScenarioFamily where
  | configurationChange
  | downstreamTimeoutRetryAmplification
  | resourcePoolSaturation
  | ambiguousTelemetry
  deriving DecidableEq, Repr

inductive ReplaySeed where
  | development
  deriving DecidableEq, Repr

/-- The status column of `replay_jobs`, within its CHECK constraint. -/
inductive JobStatus where
  | queued
  | running
  | pausedApproval
  | completed
  deriving DecidableEq, Repr

inductive InvestigationStatus where
  | queued
  | running
  | pausedApproval
  | completed
  | failedSafe
  deriving DecidableEq, Repr

def JobStatus.investigationStatus : JobStatus → InvestigationStatus
  | .queued => .queued
  | .running => .running
  | .pausedApproval => .pausedApproval
  | .completed => .completed

inductive DeliveryStatus where
  | pending
  | sending
  | sent
  deriving DecidableEq, Repr

/-- What an operation raises: the class of the exception and its message. -/
inductive Refusal where
  | notFound (message : String)
  | conflict (message : String)
  | integrity (message : String)
  | value (message : String)
  | sqlite (message : String)
  deriving DecidableEq, Repr

section OwnerDecision

inductive Verdict where
  | accept
  | reject
  deriving DecidableEq, Repr

def Verdict.text : Verdict → String
  | .accept => "accept"
  | .reject => "reject"

def Verdict.parse (s : String) : Option Verdict :=
  if s = "accept" then some .accept
  else if s = "reject" then some .reject
  else none

@[simp] theorem Verdict.parse_text (v : Verdict) : Verdict.parse v.text = some v := by
  cases v <;> decide

theorem Verdict.text_of_parse {text : String} {v : Verdict} (h : Verdict.parse text = some v) :
    v.text = text := by
  simp only [parse] at h
  split at h
  · rename_i hsame
    cases h
    exact hsame.symm
  · split at h
    · rename_i hsame
      cases h
      exact hsame.symm
    · cases h

/-- A rejection carries a stripped, non-empty note of at most 300 characters, an
acceptance carries none. -/
def Paired : Verdict → Option String → Prop
  | .accept, none => True
  | .accept, some _ => False
  | .reject, none => False
  | .reject, some note => note ≠ "" ∧ Text.strip note = note ∧ note.length ≤ 300

instance : (verdict : Verdict) → (note : Option String) → Decidable (Paired verdict note)
  | .accept, none => isTrue trivial
  | .accept, some _ => isFalse id
  | .reject, none => isFalse id
  | .reject, some note =>
      inferInstanceAs (Decidable (note ≠ "" ∧ Text.strip note = note ∧ note.length ≤ 300))

structure OwnerDecision where
  decision : Verdict
  rejectionNote : Option String
  paired : Paired decision rejectionNote
  deriving DecidableEq

/-- `_normalize_note`: surrounding whitespace goes, and a blank note is no note. -/
def normalizeNote : Option String → Option String
  | none => none
  | some note => if Text.strip note = "" then none else some (Text.strip note)

/-- `OwnerDecision(decision=…, rejection_note=…)`; `none` is a validation error. -/
def OwnerDecision.validate (decision : String) (note : Option String) :
    Option OwnerDecision :=
  match Verdict.parse decision with
  | none => none
  | some verdict =>
      if h : Paired verdict (normalizeNote note) then
        some ⟨verdict, normalizeNote note, h⟩
      else none

theorem normalizeNote_of_paired {verdict : Verdict} {note : Option String}
    (h : Paired verdict note) : normalizeNote note = note := by
  cases note with
  | none => rfl
  | some text =>
      cases verdict with
      | accept => exact h.elim
      | reject =>
          obtain ⟨hne, hstrip, -⟩ := h
          simp [normalizeNote, hstrip, hne]

/-- Reading a stored decision back validates to the decision that was stored. -/
@[simp] theorem OwnerDecision.validate_columns (d : OwnerDecision) :
    OwnerDecision.validate d.decision.text d.rejectionNote = some d := by
  obtain ⟨verdict, note, h⟩ := d
  simp [validate, normalizeNote_of_paired h, h]

end OwnerDecision

section Identifiers

def isHexDigit (c : Char) : Bool :=
  ('0' ≤ c && c ≤ '9') || ('a' ≤ c && c ≤ 'f')

/-- A value of `uuid4().hex`. -/
structure Uuid where
  hex : String
  wellFormed : hex.length = 32 ∧ hex.toList.all isHexDigit = true
  deriving DecidableEq

theorem isAlphanum_of_isHexDigit {c : Char} (h : isHexDigit c = true) :
    c.isAlphanum = true := by
  simp only [isHexDigit, Bool.or_eq_true, Bool.and_eq_true, decide_eq_true_eq] at h
  simp only [Char.isAlphanum, Char.isAlpha, Char.isUpper, Char.isLower, Char.isDigit,
    Bool.or_eq_true, Bool.and_eq_true, decide_eq_true_eq]
  rcases h with ⟨hlow, hhigh⟩ | ⟨hlow, hhigh⟩
  · exact Or.inr ⟨hlow, hhigh⟩
  · have hlast : c ≤ 'z' := Char.le_trans hhigh (show 'f' ≤ 'z' by decide)
    exact Or.inl (Or.inr ⟨hlow, hlast⟩)

theorem Uuid.all_isAlphanum (id : Uuid) : id.hex.toList.all Char.isAlphanum = true := by
  have h := id.wellFormed.2
  simp only [List.all_eq_true] at h ⊢
  exact fun c hc => isAlphanum_of_isHexDigit (h c hc)

/-- The incident id that `reserve_incident` allocates for a job. -/
def scenarioIncident (investigationId : String) : String := "scenario" ++ investigationId

theorem isAlnum_scenarioIncident (id : Uuid) :
    Text.isAlnum (scenarioIncident id.hex) = true :=
  Text.isAlnum_append (by decide +kernel) id.all_isAlphanum

theorem scenarioIncident_inj {a b : String} (h : scenarioIncident a = scenarioIncident b) :
    a = b := by
  have hlist := congrArg String.toList h
  simp only [scenarioIncident, String.toList_append, List.append_cancel_left_eq] at hlist
  exact String.toList_inj.1 hlist

end Identifiers

section Settings

/-- The constructor arguments of a control plane, with the checks its `__init__`
makes. `sha256` is `hashlib.sha256(…).hexdigest()` on the encoded text. -/
structure Settings where
  claimLeaseSeconds : Time
  retryBaseSeconds : Time
  maxReplayAttempts : Nat
  maxDeliveryAttempts : Nat
  sha256 : String → String
  claimLeaseSeconds_pos : 0 < claimLeaseSeconds
  retryBaseSeconds_pos : 0 < retryBaseSeconds
  maxReplayAttempts_pos : 0 < maxReplayAttempts
  maxDeliveryAttempts_pos : 0 < maxDeliveryAttempts

/-- `_retry_delay` in exact numbers; on floats it raises for late attempts
(`Sqlite.beyondFloat`). -/
def Settings.retryDelay (s : Settings) (attempt : Nat) : Time :=
  min (s.retryBaseSeconds * 2 ^ (attempt - 1)) 3600

theorem Settings.retryDelay_pos (s : Settings) (attempt : Nat) :
    0 < s.retryDelay attempt := by
  have hpow : (0 : ℚ) < 2 ^ (attempt - 1) := pow_pos (by norm_num) _
  exact lt_min (mul_pos s.retryBaseSeconds_pos hpow) (by norm_num)

end Settings

section Timeline

inductive FieldValue where
  | flag (value : Bool)
  | count (value : Nat)
  | time (value : Time)
  | text (value : String)
  deriving DecidableEq, Repr

/-- The `fields` object of an event, its keys in sorted order. -/
abbrev Fields := List (String × FieldValue)

structure TimelineEvent where
  ordinal : Nat
  name : String
  fields : Fields
  deriving DecidableEq, Repr

structure Occurrence where
  name : String
  fields : Fields
  deriving DecidableEq, Repr

namespace Occurrence

def investigationQueued : Occurrence :=
  ⟨"investigation_queued", [("replay_only", .flag true)]⟩
def investigationStarted : Occurrence := ⟨"investigation_started", []⟩
def investigationFailed (attempt : Nat) : Occurrence :=
  ⟨"investigation_failed", [("attempt_count", .count attempt)]⟩
def investigationLeaseExpired (attempt : Nat) (retryAt : Time) : Occurrence :=
  ⟨"investigation_lease_expired",
    [("attempt_count", .count attempt), ("retry_at", .time retryAt)]⟩
def investigationRetryScheduled (attempt : Nat) (retryAt : Time) : Occurrence :=
  ⟨"investigation_retry_scheduled",
    [("attempt_count", .count attempt), ("retry_at", .time retryAt)]⟩
def investigationRequeued : Occurrence := ⟨"investigation_requeued", []⟩
def scenarioReserved (incidentId : String) : Occurrence :=
  ⟨"scenario_reserved", [("incident_id", .text incidentId)]⟩
def ownerDecisionRequested (checkpointId : String) : Occurrence :=
  ⟨"owner_decision_requested", [("checkpoint_id", .text checkpointId)]⟩
def ownerDecisionRecorded (checkpointId decision : String) : Occurrence :=
  ⟨"owner_decision_recorded",
    [("checkpoint_id", .text checkpointId), ("decision", .text decision)]⟩
def reportFinalized : Occurrence := ⟨"report_finalized", []⟩
def reportDelivered : Occurrence := ⟨"report_delivered", []⟩
def reportDeliveryFailed (attempt : Nat) : Occurrence :=
  ⟨"report_delivery_failed", [("attempt_count", .count attempt)]⟩
def reportDeliveryLeaseExpired (attempt : Nat) (retryAt : Time) : Occurrence :=
  ⟨"report_delivery_lease_expired",
    [("attempt_count", .count attempt), ("retry_at", .time retryAt)]⟩
def reportDeliveryRequeued : Occurrence := ⟨"report_delivery_requeued", []⟩
def reportDeliveryRetryScheduled (attempt : Nat) (retryAt : Time) : Occurrence :=
  ⟨"report_delivery_retry_scheduled",
    [("attempt_count", .count attempt), ("retry_at", .time retryAt)]⟩

end Occurrence

end Timeline

section Records

structure Job where
  id : String
  owner : String
  status : JobStatus
  scenarioFamily : ScenarioFamily
  seed : ReplaySeed
  idempotencyKey : Option String
  checkpointId : Option String
  incidentId : Option String
  reportArtifact : Option String
  reportContent : Option String
  reportSha256 : Option String
  attemptCount : Nat
  availableAt : Time
  failureReason : Option String
  claimToken : Option String
  claimExpiresAt : Option Time
  deriving DecidableEq, Repr

/-- The columns of a report delivery that both stores keep. -/
structure Delivery where
  jobId : String
  destinationEmail : String
  status : DeliveryStatus
  claimToken : Option String
  claimExpiresAt : Option Time
  attemptCount : Nat
  availableAt : Time
  failureReason : Option String
  deriving DecidableEq, Repr

structure DecisionColumns where
  checkpointId : String
  decision : String
  rejectionNote : Option String
  deriving DecidableEq, Repr

def DecisionColumns.of (checkpointId : String) (d : OwnerDecision) : DecisionColumns :=
  ⟨checkpointId, d.decision.text, d.rejectionNote⟩

/-- Whether a lease end is set and has been reached. -/
def expired (now : Time) : Option Time → Bool
  | none => false
  | some expiresAt => expiresAt ≤ now

/-- Whether a lease end is set and still lies ahead. -/
def unexpired (now : Time) : Option Time → Bool
  | none => false
  | some expiresAt => now < expiresAt

end Records

section Answers

structure InvestigationView where
  investigationId : String
  status : InvestigationStatus
  deriving DecidableEq, Repr

/-- `_view`: a job with a failure reason is shown as FAILED_SAFE. -/
def Job.view (job : Job) : InvestigationView where
  investigationId := job.id
  status :=
    if job.failureReason.isSome then .failedSafe else job.status.investigationStatus

structure WorkerClaim where
  scenarioFamily : ScenarioFamily
  seed : ReplaySeed
  investigationId : String
  ownerEmail : String
  checkpointId : Option String
  incidentId : Option String
  ownerDecision : Option OwnerDecision
  claimToken : String
  deriving DecidableEq

structure DeliveryClaim where
  investigationId : String
  status : InvestigationStatus
  reportArtifact : String
  reportContent : String
  reportSha256 : String
  destinationEmail : String
  deliveryId : String
  claimToken : String
  deriving DecidableEq

inductive Reply where
  | done
  | view (view : InvestigationView)
  | claim (claim : Option WorkerClaim)
  | incident (incidentId : String)
  | incidentId (incidentId : Option String)
  | scenario (status : Option InvestigationStatus)
  | retryable (again : Bool)
  | delivery (claim : Option DeliveryClaim)
  | timeline (events : List TimelineEvent)
  | report (content : String)
  deriving DecidableEq

end Answers

section Calls

/-- One call of a control-plane method with its arguments. -/
inductive Call where
  | create (ownerEmail : String) (family : ScenarioFamily) (idempotencyKey : String)
  | status (ownerEmail investigationId : String)
  | events (ownerEmail investigationId : String)
  | decide (ownerEmail investigationId : String) (decision : OwnerDecision)
  | report (ownerEmail investigationId : String)
  | renewRunning (investigationId claimToken : String)
  | reserveIncident (investigationId claimToken : String)
  | scenarioStatus (incidentId : String)
  | incidentIdFor (investigationId : String)
  | claimNext
  | markPaused (investigationId checkpointId claimToken : String)
  | requeueRunning (investigationId claimToken : String)
  | retryRunning (investigationId claimToken errorName : String)
  | finalize (investigationId reportArtifact claimToken : String)
  | claimDelivery
  | markDelivered (investigationId claimToken : String)
  | renewDelivery (investigationId claimToken : String)
  | releaseDelivery (investigationId claimToken : String)
  | retryDelivery (investigationId claimToken errorName : String)

/-- The worker operations and the claim they present: investigation and token. -/
def Call.workerClaim : Call → Option (String × String)
  | .renewRunning id token => some (id, token)
  | .reserveIncident id token => some (id, token)
  | .markPaused id _ token => some (id, token)
  | .finalize id _ token => some (id, token)
  | .retryRunning id token _ => some (id, token)
  | .requeueRunning id token => some (id, token)
  | _ => none

/-- What a call takes from its surroundings: the clock, `uuid4().hex`, `utc_now()`
and what reading the investigation's `report.md` gives (the text, or the message
of the `ValueError`). -/
structure Ambient where
  now : Time
  fresh : Uuid
  utcNow : Time
  reportFile : Except String String

end Calls

section Samples

/-- Settings, identifiers and surroundings of the sample runs. -/
def sampleSettings : Settings where
  claimLeaseSeconds := 10
  retryBaseSeconds := 1
  maxReplayAttempts := 3
  maxDeliveryAttempts := 3
  sha256 := id
  claimLeaseSeconds_pos := by norm_num
  retryBaseSeconds_pos := by norm_num
  maxReplayAttempts_pos := by norm_num
  maxDeliveryAttempts_pos := by norm_num

def jobA : Uuid := ⟨"aaaaaaaaaaaaaaaaaaaaaaaaaaaaaaaa", by decide +kernel⟩
def jobB : Uuid := ⟨"bbbbbbbbbbbbbbbbbbbbbbbbbbbbbbbb", by decide +kernel⟩
def tokenC : Uuid := ⟨"cccccccccccccccccccccccccccccccc", by decide +kernel⟩
def tokenD : Uuid := ⟨"dddddddddddddddddddddddddddddddd", by decide +kernel⟩
def tokenE : Uuid := ⟨"eeeeeeeeeeeeeeeeeeeeeeeeeeeeeeee", by decide +kernel⟩
def tokenF : Uuid := ⟨"ffffffffffffffffffffffffffffffff", by decide +kernel⟩

def ambient (now : Time) (fresh : Uuid) : Ambient := ⟨now, fresh, now, .ok "finding"⟩

end Samples

end CausalOps.ControlPlane
