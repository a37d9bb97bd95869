import Mathlib.Data.Finset.Insert
import Mathlib.Data.Int.Order.Basic
import CausalOps.Investigation.Domain

set_option autoImplicit false

/-! Deterministic authorization of a proposed check, and the window a check is
really given. -/

namespace CausalOps.Investigation

/-- The digests of the program: of texts, of payloads, and of a tool's arguments. -/
structure Hashing where
  digestText : String → String
  contentHash : Json.Dict → String
  fingerprint : ToolArguments → String

structure PolicyDecision where
  result : PolicyResult
  fingerprint : String
  reasonCode : Option ReasonCode
  message : String
  reasoned : result = .denied ↔ reasonCode.isSome = true

def deny (mark : String) (reasonCode : ReasonCode) (message : String) : PolicyDecision where
  result := .denied
  fingerprint := mark
  reasonCode := some reasonCode
  message := message
  reasoned := by simp

def allow (mark : String) : PolicyDecision where
  result := .allowed
  fingerprint := mark
  reasonCode := none
  message := ""
  reasoned := by simp

section Authorize

/-- The checks that service, window and row limit must pass. -/
def authorizeScoped (mark : String) (scope : IncidentScope) (budgets : Budgets)
    (service : String) (windowStart windowEnd : Option Time) (rowLimit : Option ℤ) :
    PolicyDecision :=
  if !scope.services.contains service then
    deny mark .unknownService "that service is out of scope"
  else
    match windowStart, windowEnd with
    | some start, some stop =>
        if start < scope.startedAt ∨ stop > scope.endedAt then
          deny mark .outsideIncidentWindow "that window leaves the incident"
        else if stop ≤ start then
          deny mark .outsideIncidentWindow "that window ends before it starts"
        else
          match rowLimit with
          | some limit =>
              if limit > budgets.logRows then
                deny mark .resultLimitExceeded ("row_limit " ++ toString limit ++
                  " is above the budget of " ++ toString budgets.logRows ++
                  "; propose row_limit " ++ toString budgets.logRows ++ " or less")
              else allow mark
          | none => allow mark
    | _, _ =>
        deny mark .unresolvedWindow
          "a direct caller must resolve the window before calling authorize"

def authorize (hashing : Hashing) (arguments : ToolArguments) (scope : IncidentScope)
    (seenFingerprints : Finset String) (budgets : Budgets) (toolsRemaining : ℤ) :
    PolicyDecision :=
  let mark := hashing.fingerprint arguments
  if toolsRemaining ≤ 0 then deny mark .budgetExhausted "no diagnostic check budget left"
  else if mark ∈ seenFingerprints then
    deny mark .duplicateProposal "this check was proposed already"
  else
    match arguments with
    | .getTopology a =>
        if a.incidentId ≠ scope.incidentId then
          deny mark .crossIncidentRequest "that is another incident"
        else allow mark
    | .searchRunbooks a =>
        if (a.limit : ℤ) > budgets.runbookPassages then
          deny mark .resultLimitExceeded ("limit " ++ toString (a.limit : ℤ) ++
            " is above the budget of " ++ toString budgets.runbookPassages ++
            "; propose limit " ++ toString budgets.runbookPassages ++ " or less")
        else allow mark
    | .queryMetric a =>
        authorizeScoped mark scope budgets a.service a.windowStart a.windowEnd none
    | .queryLogs a =>
        authorizeScoped mark scope budgets a.service a.windowStart a.windowEnd
          (some (a.rowLimit : ℤ))
    | .listRecentChanges a =>
        authorizeScoped mark scope budgets a.service a.windowStart a.windowEnd none

/-- An omitted bound is the incident's, and a given one is narrowed into it. -/
def resolveEffectiveWindow (arguments : ToolArguments) (scope : IncidentScope) :
    ToolArguments :=
  let start (bound : Option Time) : Option Time :=
    some (max (bound.getD scope.startedAt) scope.startedAt)
  let stop (bound : Option Time) : Option Time :=
    some (min (bound.getD scope.endedAt) scope.endedAt)
  match arguments with
  | .queryMetric a => .queryMetric
      { a with windowStart := start a.windowStart, windowEnd := stop a.windowEnd }
  | .queryLogs a => .queryLogs
      { a with windowStart := start a.windowStart, windowEnd := stop a.windowEnd }
  | .listRecentChanges a => .listRecentChanges
      { a with windowStart := start a.windowStart, windowEnd := stop a.windowEnd }
  | .getTopology a => .getTopology a
  | .searchRunbooks a => .searchRunbooks a

@[simp] theorem resolveEffectiveWindow_tool (arguments : ToolArguments) (scope : IncidentScope) :
    (resolveEffectiveWindow arguments scope).tool = arguments.tool := by
  cases arguments <;> rfl

@[simp] theorem deny_result {mark message : String} {reason : ReasonCode} :
    (deny mark reason message).result = .denied := rfl

@[simp] theorem allow_result {mark : String} : (allow mark).result = .allowed := rfl

structure Scoped (scope : IncidentScope) (service : String) (windowStart windowEnd : Option Time) :
    Prop where
  service : service ∈ scope.services
  window : ∃ start stop, windowStart = some start ∧ windowEnd = some stop ∧
    scope.startedAt ≤ start ∧ start < stop ∧ stop ≤ scope.endedAt

def Permitted (scope : IncidentScope) (budgets : Budgets) : ToolArguments → Prop
  | .queryMetric a => Scoped scope a.service a.windowStart a.windowEnd
  | .queryLogs a =>
      Scoped scope a.service a.windowStart a.windowEnd ∧ (a.rowLimit : ℤ) ≤ budgets.logRows
  | .listRecentChanges a => Scoped scope a.service a.windowStart a.windowEnd
  | .getTopology a => a.incidentId = scope.incidentId
  | .searchRunbooks a => (a.limit : ℤ) ≤ budgets.runbookPassages

theorem authorizeScoped_allowed {mark : String} {scope : IncidentScope} {budgets : Budgets}
    {service : String} {windowStart windowEnd : Option Time} {rowLimit : Option ℤ}
    (h : (authorizeScoped mark scope budgets service windowStart windowEnd rowLimit).result =
      .allowed) :
    Scoped scope service windowStart windowEnd ∧ ∀ limit ∈ rowLimit, limit ≤ budgets.logRows := by
  simp only [authorizeScoped] at h
  split at h
  · cases h
  · rename_i hservice
    split at h
    · rename_i start stop
      split at h
      · cases h
      · rename_i hwithin
        split at h
        · cases h
        · rename_i hordered
          obtain ⟨hstart, hstop⟩ := not_or.1 hwithin
          refine ⟨⟨by simpa using hservice, start, stop, rfl, rfl, Int.not_lt.1 hstart,
            Int.not_le.1 hordered, Int.not_lt.1 hstop⟩, ?_⟩
          intro limit hlimit
          obtain rfl := Option.mem_def.1 hlimit
          by_contra hover
          simp [not_le.1 hover] at h
    · cases h

theorem authorize_allowed {hashing : Hashing} {arguments : ToolArguments} {scope : IncidentScope}
    {seen : Finset String} {budgets : Budgets} {toolsRemaining : ℤ}
    (h : (authorize hashing arguments scope seen budgets toolsRemaining).result = .allowed) :
    0 < toolsRemaining ∧ hashing.fingerprint arguments ∉ seen ∧
      Permitted scope budgets arguments := by
  simp only [authorize] at h
  split at h
  · cases h
  · rename_i hslots
    split at h
    · cases h
    · rename_i hfresh
      refine ⟨not_le.1 hslots, hfresh, ?_⟩
      cases arguments with
      | getTopology a =>
          by_contra hother
          simp only [Permitted] at hother
          simp [hother] at h
      | searchRunbooks a =>
          by_contra hover
          simp only [Permitted, not_le] at hover
          simp [hover] at h
      | queryMetric a => exact (authorizeScoped_allowed h).1
      | queryLogs a =>
          obtain ⟨hscoped, hlimit⟩ := authorizeScoped_allowed h
          exact ⟨hscoped, hlimit _ rfl⟩
      | listRecentChanges a => exact (authorizeScoped_allowed h).1

theorem authorizeScoped_fingerprint (mark : String) (scope : IncidentScope) (budgets : Budgets)
    (service : String) (windowStart windowEnd : Option Time) (rowLimit : Option ℤ) :
    (authorizeScoped mark scope budgets service windowStart windowEnd rowLimit).fingerprint =
      mark := by
  simp only [authorizeScoped]
  repeat' split
  all_goals rfl

@[simp] theorem authorize_fingerprint (hashing : Hashing) (arguments : ToolArguments)
    (scope : IncidentScope) (seen : Finset String) (budgets : Budgets) (toolsRemaining : ℤ) :
    (authorize hashing arguments scope seen budgets toolsRemaining).fingerprint =
      hashing.fingerprint arguments := by
  simp only [authorize]
  split
  · rfl
  split
  · rfl
  cases arguments with
  | getTopology a =>
      dsimp only
      split <;> rfl
  | searchRunbooks a =>
      dsimp only
      split <;> rfl
  | queryMetric a => exact authorizeScoped_fingerprint _ _ _ _ _ _ _
  | queryLogs a => exact authorizeScoped_fingerprint _ _ _ _ _ _ _
  | listRecentChanges a => exact authorizeScoped_fingerprint _ _ _ _ _ _ _

end Authorize

end CausalOps.Investigation
