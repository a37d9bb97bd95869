import CausalOps.Library.Compact
import CausalOps.Investigation.Graph.Growth
import CausalOps.Investigation.ToolCalls.RoundTrip

set_option autoImplicit false

/-! When a proposal is denied as a duplicate: exactly when an earlier one of the run asked for
the same check. -/

namespace CausalOps.Investigation

section Instants

/-- A datetime with its zone: what the clock on the wall shows, and how far that is from UTC. -/
structure AwareDatetime where
  wall : Time
  offset : ℤ

def AwareDatetime.instant (moment : AwareDatetime) : Time := moment.wall - moment.offset

def toUtc (moment : AwareDatetime) : AwareDatetime := ⟨moment.wall - moment.offset, 0⟩

/-- `UtcDatetime`: an aware datetime, normalized. -/
def ReadsUtc (pydantic : Pydantic) (aware : Json → Except String AwareDatetime) : Prop :=
  ∀ value, pydantic.dateTime value = (aware value).map fun moment => (toUtc moment).wall

structure SameInstant (aware : Json → Except String AwareDatetime) (value other : Json) : Prop where
  given : value ≠ .null
  givenToo : other ≠ .null
  same : ∃ moment moment', aware value = .ok moment ∧ aware other = .ok moment' ∧
    moment.instant = moment'.instant

def windowKeys : List String := ["window_start", "window_end"]

/-- One entry, or the same bound of the window spelled in another way. -/
def SameEntry (aware : Json → Except String AwareDatetime) (entry other : String × Json) : Prop :=
  entry.1 = other.1 ∧
    (entry.2 = other.2 ∨ entry.1 ∈ windowKeys ∧ SameInstant aware entry.2 other.2)

/-- The same arguments, but for the spelling of the window. -/
abbrev Respelled (aware : Json → Except String AwareDatetime) (entries others : Json.Dict) :
    Prop :=
  List.Forall₂ (SameEntry aware) entries others

variable {pydantic : Pydantic} {aware : Json → Except String AwareDatetime}
  {entries others : Json.Dict}

theorem readWindow_same (hutc : ReadsUtc pydantic aware) {value other : Json}
    (h : SameInstant aware value other) : readWindow pydantic value = readWindow pydantic other := by
  obtain ⟨moment, moment', hvalue, hother, hsame⟩ := h.same
  have hread : ∀ {value : Json} {moment : AwareDatetime}, value ≠ .null →
      aware value = .ok moment → readWindow pydantic value = .ok (some moment.instant) := by
    intro value moment hgiven haware
    have hdate : pydantic.dateTime value = .ok moment.instant := by
      rw [hutc, haware]
      rfl
    unfold readWindow
    split
    · exact absurd rfl hgiven
    · rw [hdate]
      rfl
  rw [hread h.given hvalue, hread h.givenToo hother, hsame]

theorem readField_respelled {α : Type} {loc : List String} {key : String} {fallback : Option α}
    {read : Json → Except String α} (h : Respelled aware entries others)
    (hread : ∀ value other, SameInstant aware value other → key ∈ windowKeys →
      read value = read other) :
    readField loc entries key fallback read = readField loc others key fallback read := by
  induction h with
  | nil => rfl
  | @cons entry other entries others hsame _ ih =>
      obtain ⟨hkey, hvalue⟩ := hsame
      simp only [readField, Json.get_cons, ← hkey] at ih ⊢
      by_cases hfirst : entry.1 = key
      · simp only [if_pos hfirst]
        rcases hvalue with hequal | ⟨hwindow, hinstant⟩
        · rw [hequal]
        · rw [hread _ _ hinstant (hfirst ▸ hwindow)]
      · simp only [if_neg hfirst]
        exact ih

theorem get_respelled {key : String} (h : Respelled aware entries others)
    (hkey : key ∉ windowKeys) : Json.get entries key = Json.get others key := by
  induction h with
  | nil => rfl
  | @cons entry other entries others hsame _ ih =>
      obtain ⟨hsameKey, hvalue⟩ := hsame
      rw [Json.get_cons, Json.get_cons, ← hsameKey]
      by_cases hfirst : entry.1 = key
      · rw [if_pos hfirst, if_pos hfirst, hvalue.resolve_right fun hwindow =>
          hkey (hfirst ▸ hwindow.1)]
      · rw [if_neg hfirst, if_neg hfirst, ih]

theorem extraIssues_respelled {loc known : List String} (h : Respelled aware entries others) :
    extraIssues loc known entries = extraIssues loc known others := by
  induction h with
  | nil => rfl
  | @cons entry other entries others hsame _ ih =>
      simp only [extraIssues] at ih ⊢
      rw [List.filter_cons, List.filter_cons, ← hsame.1]
      split
      · rw [List.map_cons, List.map_cons, ih, ← hsame.1]
      · exact ih

theorem validateArguments_respelled (hutc : ReadsUtc pydantic aware)
    (h : Respelled aware entries others) (loc : List String) :
    validateArguments pydantic loc entries = validateArguments pydantic loc others := by
  have hwindow : ∀ (loc : List String) (key : String),
      readField loc entries key (some none) (readWindow pydantic) =
        readField loc others key (some none) (readWindow pydantic) := fun loc key =>
    readField_respelled h fun _ _ hsame _ => readWindow_same hutc hsame
  have hother : ∀ {α : Type} (loc : List String) (key : String) (read : Json → Except String α),
      key ∉ windowKeys → readField loc entries key none read = readField loc others key none read :=
    fun loc key read hkey => readField_respelled h fun _ _ _ hmem => absurd hmem hkey
  have hextra : ∀ loc known : List String,
      extraIssues loc known entries = extraIssues loc known others :=
    fun loc known => extraIssues_respelled h
  have hmetric : ∀ loc, validateMetric pydantic loc entries = validateMetric pydantic loc others := by
    intro loc
    simp only [validateMetric, hwindow, hextra, hother loc "template" readMetricTemplate (by decide),
      hother loc "service" readString (by decide)]
  have hlogs : ∀ loc, validateLogs pydantic loc entries = validateLogs pydantic loc others := by
    intro loc
    simp only [validateLogs, hwindow, hextra, hother loc "log_filter" readLogFilter (by decide),
      hother loc "service" readString (by decide),
      hother loc "row_limit" (readBounded pydantic 1 200) (by decide)]
  have hchanges : ∀ loc,
      validateChanges pydantic loc entries = validateChanges pydantic loc others := by
    intro loc
    simp only [validateChanges, hwindow, hextra, hother loc "service" readString (by decide)]
  have htopology : ∀ loc, validateTopology loc entries = validateTopology loc others := by
    intro loc
    simp only [validateTopology, hextra, hother loc "incident_id" readString (by decide)]
  have hsearch : ∀ loc,
      validateSearch pydantic loc entries = validateSearch pydantic loc others := by
    intro loc
    simp only [validateSearch, hextra, hother loc "topic" readTopic (by decide),
      hother loc "limit" (readBounded pydantic 1 20) (by decide)]
  have htool : Json.get entries "tool" = Json.get others "tool" := get_respelled h (by decide)
  simp only [validateArguments, htool, hmetric, hlogs, hchanges, htopology, hsearch]

end Instants

section Windows

variable {scope : IncidentScope}

/-- The bounds of a window that is resolved: an omitted bound is the scope's. -/
def SameWindow (scope : IncidentScope) (start stop start' stop' : Option Time) : Prop :=
  max (start.getD scope.startedAt) scope.startedAt =
      max (start'.getD scope.startedAt) scope.startedAt ∧
    min (stop.getD scope.endedAt) scope.endedAt = min (stop'.getD scope.endedAt) scope.endedAt

/-- Two requests for one check: the same tool with the same arguments, and the same instants
once the window is resolved. -/
def SameCheck (scope : IncidentScope) : ToolArguments → ToolArguments → Prop
  | .queryMetric a, .queryMetric b => a.template = b.template ∧ a.service = b.service ∧
      SameWindow scope a.windowStart a.windowEnd b.windowStart b.windowEnd
  | .queryLogs a, .queryLogs b => a.logFilter = b.logFilter ∧ a.service = b.service ∧
      SameWindow scope a.windowStart a.windowEnd b.windowStart b.windowEnd ∧
        a.rowLimit = b.rowLimit
  | .listRecentChanges a, .listRecentChanges b => a.service = b.service ∧
      SameWindow scope a.windowStart a.windowEnd b.windowStart b.windowEnd
  | .getTopology a, .getTopology b => a.incidentId = b.incidentId
  | .searchRunbooks a, .searchRunbooks b => a.topic = b.topic ∧ a.limit = b.limit
  | _, _ => False

theorem resolve_eq_iff {a b : ToolArguments} :
    resolveEffectiveWindow a scope = resolveEffectiveWindow b scope ↔ SameCheck scope a b := by
  rcases a with ⟨_, _, _, _⟩ | ⟨_, _, _, _, _⟩ | ⟨_, _, _⟩ | ⟨⟨_⟩⟩ | ⟨_, _⟩ <;>
    rcases b with ⟨_, _, _, _⟩ | ⟨_, _, _, _, _⟩ | ⟨_, _, _⟩ | ⟨⟨_⟩⟩ | ⟨_, _⟩ <;>
      simp [resolveEffectiveWindow, SameCheck, SameWindow, and_assoc]

def windowOf : ToolArguments → Option (Option Time × Option Time)
  | .queryMetric a => some (a.windowStart, a.windowEnd)
  | .queryLogs a => some (a.windowStart, a.windowEnd)
  | .listRecentChanges a => some (a.windowStart, a.windowEnd)
  | .getTopology _ | .searchRunbooks _ => none

theorem resolve_idem (arguments : ToolArguments) (scope : IncidentScope) :
    resolveEffectiveWindow (resolveEffectiveWindow arguments scope) scope =
      resolveEffectiveWindow arguments scope := by
  cases arguments <;> simp [resolveEffectiveWindow]

theorem resolve_within (arguments : ToolArguments) (scope : IncidentScope)
    {window : Option Time × Option Time}
    (h : windowOf (resolveEffectiveWindow arguments scope) = some window) :
    ∃ start stop, window = (some start, some stop) ∧ scope.startedAt ≤ start ∧
      stop ≤ scope.endedAt := by
  cases arguments with
  | getTopology a => cases h
  | searchRunbooks a => cases h
  | _ =>
      obtain rfl := Option.some.inj h
      exact ⟨_, _, rfl, le_max_right _ _, min_le_right _ _⟩

end Windows

section Fingerprints

/-- `fingerprint`: the digest of `model_dump_json`. -/
def fingerprintOf (sha256 : String → String) (pydantic : Pydantic) (arguments : ToolArguments) :
    String :=
  sha256 (String.ofList (Compact.object (dumpArguments pydantic arguments)))

variable {pydantic : Pydantic}

theorem dumpArguments_flat (arguments : ToolArguments) :
    Compact.Flat (dumpArguments pydantic arguments) := by
  have hwindow : ∀ bound : Option Time, Compact.Scalar (dumpWindow pydantic bound) := by
    intro bound
    cases bound <;> trivial
  have hint : ∀ n : ℤ, Compact.Scalar (.int n) := fun _ => trivial
  have htext : ∀ text : String, Compact.Scalar (.str text) := fun _ => trivial
  cases arguments <;> simp [Compact.Flat, dumpArguments, hwindow, hint, htext]

theorem fingerprintOf_injective {sha256 : String → String} (hsha256 : Function.Injective sha256)
    (hfaithful : pydantic.Faithful) : Function.Injective (fingerprintOf sha256 pydantic) := by
  intro a b heq
  have hne : ∀ arguments, dumpArguments pydantic arguments ≠ [] := by
    intro arguments
    cases arguments <;> simp [dumpArguments]
  have htext := String.ofList_injective (hsha256 heq)
  have hdump := Compact.object_injective (dumpArguments_flat a) (dumpArguments_flat b) (hne a)
    (hne b) htext
  have hread := validateArguments_dump hfaithful [] a
  rw [hdump, validateArguments_dump hfaithful [] b] at hread
  exact (Except.ok.inj hread).symm

end Fingerprints

section Remembered

variable {setting : Setting} {thread : Thread} {state state' : GraphState} {turn : Turn}

/-- The proposal that a superstep dispatched: it came to the wrapper, and what the node made of
it was committed. -/
def dispatchedIn (setting : Setting) (entry : Entry) : Option ToolProposal :=
  match entry.node, (dispatchTool setting entry.before entry.turn).left, entry.turn.fault with
  | .dispatchTool, .updated _, none =>
      if struckAt entry.turn.outside .lookup then none else entry.before.pendingProposal
  | _, _, _ => none

/-- The proposals that a thread has dispatched so far. -/
def proposalsOf (setting : Setting) (thread : Thread) : List ToolProposal :=
  thread.journal.filterMap (dispatchedIn setting)

def markOf (setting : Setting) (proposal : ToolProposal) : String :=
  setting.hashing.fingerprint (resolveEffectiveWindow proposal.arguments setting.incident.scope)

/-- A thread remembers what it has dispatched, and nothing else. -/
def Remembers (setting : Setting) (thread : Thread) : Prop :=
  ∀ mark, mark ∈ thread.state.seenFingerprints ↔
    ∃ proposal ∈ proposalsOf setting thread, markOf setting proposal = mark

theorem dispatch_seen (hashing : Hashing) (proposal : ToolProposal) (scope : IncidentScope)
    (seen : Finset String) (budgets : Budgets) (ledger : ReservationLedger) (outside : Outside) :
    (dispatch hashing proposal scope seen budgets ledger outside).seen =
      insert (hashing.fingerprint (resolveEffectiveWindow proposal.arguments scope)) seen := by
  simp only [dispatch, authorize_fingerprint]
  split
  · rfl
  split
  · split <;> rfl
  · split <;> rfl

theorem dispatchedLeft_seen {proposal : ToolProposal} {outside : Outside} {dispatched : Dispatched}
    (h : dispatchedLeft state proposal outside dispatched = .updated state') :
    state'.seenFingerprints = dispatched.seen := by
  simp only [dispatchedLeft] at h
  split at h
  · cases h
  · rw [← Left.updated.inj h]
    rfl
  · split at h
    · rw [← Left.updated.inj h]
      rfl
    · rw [← Left.updated.inj h]
      rfl

/-- What the dispatching node commits remembers the proposal that came to the wrapper. -/
theorem dispatchTool_seen (h : (dispatchTool setting state turn).left = .updated state') :
    ∃ proposal, state.pendingProposal = some proposal ∧ state'.seenFingerprints =
      if struckAt turn.outside .lookup then state.seenFingerprints
      else insert (markOf setting proposal) state.seenFingerprints := by
  unfold dispatchTool at h
  split at h
  · cases h
  rename_i proposal hpending
  split at h
  · cases h
  split at h
  · cases h
  refine ⟨proposal, hpending, ?_⟩
  split at h
  · rename_i hstruck
    rw [if_pos hstruck, ← Left.updated.inj h]
    rfl
  · rename_i hstruck
    rw [if_neg hstruck, dispatchedLeft_seen h, dispatch_seen]
    rfl

theorem Remembers.same {next : Thread} {entry : Entry} (h : Remembers setting thread)
    (hjournal : next.journal = thread.journal ++ [entry])
    (hseen : next.state.seenFingerprints = thread.state.seenFingerprints)
    (hentry : dispatchedIn setting entry = none) : Remembers setting next := by
  intro mark
  rw [hseen, h mark, proposalsOf, proposalsOf, hjournal]
  simp [hentry]

theorem Remembers.added {next : Thread} {entry : Entry} {proposal : ToolProposal}
    (h : Remembers setting thread) (hjournal : next.journal = thread.journal ++ [entry])
    (hseen : next.state.seenFingerprints =
      insert (markOf setting proposal) thread.state.seenFingerprints)
    (hentry : dispatchedIn setting entry = some proposal) : Remembers setting next := by
  intro mark
  rw [hseen, Finset.mem_insert, h mark, proposalsOf, proposalsOf, hjournal]
  simp only [List.filterMap_append, List.filterMap_cons, List.filterMap_nil, hentry,
    List.mem_append, List.mem_singleton]
  constructor
  · rintro (rfl | ⟨earlier, hmem, hmark⟩)
    · exact ⟨proposal, Or.inr rfl, rfl⟩
    · exact ⟨earlier, Or.inl hmem, hmark⟩
  · rintro ⟨earlier, hmem | rfl, hmark⟩
    · exact Or.inr ⟨earlier, hmem, hmark⟩
    · exact Or.inl hmark.symm

theorem Remembers.committed {node : Node} {next : Thread} (h : Remembers setting thread)
    (hleft : (perform setting node thread.state thread.resumes turn).left = .updated state')
    (hfault : turn.fault = none)
    (hjournal : next.journal = journalOf setting thread node turn) (hstate : next.state = state') :
    Remembers setting next := by
  by_cases hnode : node = .dispatchTool
  · subst hnode
    have hdispatch : (dispatchTool setting thread.state turn).left = .updated state' := hleft
    obtain ⟨proposal, hpending, hseen⟩ := dispatchTool_seen hdispatch
    by_cases hstruck : struckAt turn.outside .lookup = true
    · rw [if_pos hstruck] at hseen
      refine h.same hjournal (by rw [hstate, hseen]) ?_
      simp [dispatchedIn, entryOf, hdispatch, hfault, hstruck]
    · rw [if_neg hstruck] at hseen
      refine h.added hjournal (by rw [hstate, hseen]) ?_
      simp [dispatchedIn, entryOf, hdispatch, hfault, hstruck, hpending]
  · refine h.same hjournal (by rw [hstate, (perform_keeps hnode hleft).seen]) ?_
    cases node with
    | dispatchTool => exact absurd rfl hnode
    | _ => rfl

theorem Remembers.uncommitted {node : Node} {next : Thread} (h : Remembers setting thread)
    (hleft : turn.fault ≠ none ∨
      ∀ state, (perform setting node thread.state thread.resumes turn).left ≠ .updated state)
    (hjournal : next.journal = journalOf setting thread node turn)
    (hstate : next.state = thread.state) : Remembers setting next := by
  refine h.same hjournal (by rw [hstate]) ?_
  cases node with
  | dispatchTool =>
      simp only [dispatchedIn, entryOf]
      split
      · rename_i state _ hupdated hfault
        rcases hleft with hleft | hleft
        · exact absurd hfault hleft
        · exact absurd hupdated (hleft state)
      · rfl
  | _ => rfl

theorem superstep_remembers (h : Remembers setting thread) (turn : Turn) :
    Remembers setting (superstep setting thread turn) := by
  by_cases hrunning : ∃ node, thread.position = .running node
  swap
  · rw [superstep_still fun node hnode => hrunning ⟨node, hnode⟩]
    exact h
  obtain ⟨node, hnode⟩ := hrunning
  simp only [superstep, hnode]
  cases hleft : (perform setting node thread.state thread.resumes turn).left with
  | escaped escape => exact h.uncommitted (Or.inr (by simp [hleft])) rfl rfl
  | paused payload =>
      simp only [land]
      split
      · exact h.uncommitted (Or.inr (by simp [hleft])) rfl rfl
      · exact h.uncommitted (Or.inr (by simp [hleft])) rfl rfl
  | updated state =>
      simp only [land]
      split
      · rename_i name hfault
        exact h.uncommitted (Or.inl (by simp [hfault])) rfl rfl
      · rename_i hfault
        split
        · rename_i escape hroute
          cases node with
          | dispatchTool => cases hroute
          | _ => exact h.same rfl rfl rfl
        · exact h.committed hleft hfault rfl rfl
        · exact h.committed hleft hfault rfl rfl

theorem remembers_after (investigationId runId : String) (startedAt : Time) (acts : List Act) :
    Remembers setting (after setting (Thread.start setting investigationId runId startedAt)
      acts) := by
  refine Machine.run_invariant (fun thread a h _ => ?_) acts _ ?_
    (admits_unconditional (Thread.start setting investigationId runId startedAt) acts)
  · cases a with
    | step turn => exact superstep_remembers h turn
    | resume value =>
        simp only [act, resumeThread]
        split
        · exact h
        · exact h
    | recover =>
        simp only [act, recoverThread]
        split
        · exact h
        · exact h
  · intro mark
    simp [Thread.start, createdState, proposalsOf]

end Remembered

section Denied

def Denies (decision : PolicyDecision) (reason : ReasonCode) : Prop :=
  decision.result = .denied ∧ decision.reasonCode = some reason

theorem authorizeScoped_reason {mark : String} {scope : IncidentScope} {budgets : Budgets}
    {service : String} {windowStart windowEnd : Option Time} {rowLimit : Option ℤ} :
    (authorizeScoped mark scope budgets service windowStart windowEnd rowLimit).reasonCode ≠
      some .duplicateProposal := by
  simp only [authorizeScoped]
  repeat' split
  all_goals simp [deny, allow]

/-- With a slot left, a proposal is a duplicate exactly when its mark was seen. -/
theorem authorize_duplicate {hashing : Hashing} {arguments : ToolArguments}
    {scope : IncidentScope} {seen : Finset String} {budgets : Budgets} {toolsRemaining : ℤ}
    (hslot : 0 < toolsRemaining) :
    Denies (authorize hashing arguments scope seen budgets toolsRemaining) .duplicateProposal ↔
      hashing.fingerprint arguments ∈ seen := by
  have hleft : ¬ toolsRemaining ≤ 0 := not_le.2 hslot
  by_cases hseen : hashing.fingerprint arguments ∈ seen
  · simp [authorize, hleft, hseen, Denies, deny]
  · refine iff_of_false ?_ hseen
    rintro ⟨-, hreason⟩
    simp only [authorize, if_neg hleft, if_neg hseen] at hreason
    cases arguments with
    | getTopology a =>
        dsimp only at hreason
        split at hreason <;> simp [deny, allow] at hreason
    | searchRunbooks a =>
        dsimp only at hreason
        split at hreason <;> simp [deny, allow] at hreason
    | queryMetric a => exact authorizeScoped_reason hreason
    | queryLogs a => exact authorizeScoped_reason hreason
    | listRecentChanges a => exact authorizeScoped_reason hreason

/-- In every run, a proposal for whose tool a slot is left is denied as a duplicate if and only
if the run has dispatched a proposal for the same check. Resolving a window twice is resolving it
once, a resolved window is within the scope, and arguments are read alike however their window is
spelled. -/
theorem duplicates_exact (setting : Setting) (sha256 : String → String)
    (aware : Json → Except String AwareDatetime) (hsha256 : Function.Injective sha256)
    (hfaithful : setting.pydantic.Faithful) (hutc : ReadsUtc setting.pydantic aware)
    (hmarks : setting.hashing.fingerprint = fingerprintOf sha256 setting.pydantic)
    (investigationId runId : String) (startedAt : Time) (acts : List Act) :
    let thread := after setting (Thread.start setting investigationId runId startedAt) acts
    (∀ (proposal : ToolProposal) (ledger : ReservationLedger),
      0 < ledger.slotsLeftFor proposal.tool →
        (Denies (decisionOf setting.hashing proposal setting.incident.scope
            thread.state.seenFingerprints setting.budgets ledger) .duplicateProposal ↔
          ∃ earlier ∈ proposalsOf setting thread,
            SameCheck setting.incident.scope earlier.arguments proposal.arguments)) ∧
    (∀ arguments, resolveEffectiveWindow
        (resolveEffectiveWindow arguments setting.incident.scope) setting.incident.scope =
          resolveEffectiveWindow arguments setting.incident.scope) ∧
    (∀ arguments window,
      windowOf (resolveEffectiveWindow arguments setting.incident.scope) = some window →
        ∃ start stop, window = (some start, some stop) ∧
          setting.incident.scope.startedAt ≤ start ∧ stop ≤ setting.incident.scope.endedAt) ∧
    ∀ entries others loc, Respelled aware entries others →
      validateArguments setting.pydantic loc entries =
        validateArguments setting.pydantic loc others := by
  intro thread
  refine ⟨?_, fun arguments => resolve_idem arguments _, fun arguments window h =>
    resolve_within arguments _ h, fun entries others loc h =>
      validateArguments_respelled hutc h loc⟩
  intro proposal ledger hslot
  have hremembers : Remembers setting thread :=
    remembers_after investigationId runId startedAt acts
  have hinjective := fingerprintOf_injective hsha256 hfaithful
  rw [decisionOf, authorize_duplicate (by rwa [resolveEffectiveWindow_tool]), hremembers]
  refine exists_congr fun earlier => and_congr_right fun _ => ?_
  rw [← resolve_eq_iff, markOf, hmarks]
  exact hinjective.eq_iff

/-- The lab with fingerprints that are texts of the arguments. -/
def labMarked : Setting :=
  { labSetting with
    hashing := { labHashing with fingerprint := fingerprintOf id labPydantic }
    pydantic := labPydantic }

def labAware (value : Json) : Except String AwareDatetime :=
  (labDateTime value).map fun moment => ⟨moment, 0⟩

theorem labAware_utc : ReadsUtc labPydantic labAware := by
  intro value
  change labDateTime value = (labAware value).map fun moment => (toUtc moment).wall
  unfold labAware
  cases labDateTime value with
  | error message => rfl
  | ok moment => simp [toUtc, Except.map]

/-- The search of the lab, proposed again after its backend crashed. -/
theorem duplicates_exact_again :
    Denies (decisionOf labMarked.hashing labSearch labMarked.incident.scope
      (after labMarked (Thread.start labMarked "investigation" "run" 0)
        (List.replicate 2 (.step (searchingTurn (some .settled))))).state.seenFingerprints
      labMarked.budgets (ReservationLedger.empty 6 2)) .duplicateProposal :=
  ((duplicates_exact labMarked id labAware Function.injective_id labPydantic_faithful labAware_utc
    rfl "investigation" "run" 0 (List.replicate 2 (.step (searchingTurn (some .settled))))).1
      labSearch (ReservationLedger.empty 6 2) (by decide)).2
        ⟨labSearch, by decide +kernel, rfl, rfl⟩

end Denied

end CausalOps.Investigation
