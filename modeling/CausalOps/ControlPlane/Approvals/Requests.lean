import CausalOps.ControlPlane.Approvals.Safe
import CausalOps.ControlPlane.Sqlite.Alone

set_option autoImplicit false

/-! What each call and each command promises while others use the ledger, and what it
does to the two databases at each of its operations. -/

namespace CausalOps.ControlPlane.Approvals

open Sqlite
open Program (Sharing)

variable {s : Settings} {pausedAt : String → String} {st t : Store}

section Shared

structure Forward (s : Settings) (pausedAt : String → String) (st st' : Store) : Prop where
  ledger : st.ledger <+: st'.ledger
  safe : Safe s pausedAt st → Safe s pausedAt st'

theorem Forward.refl (st : Store) : Forward s pausedAt st st :=
  ⟨List.prefix_refl _, id⟩

theorem Forward.trans {st' st'' : Store} (h : Forward s pausedAt st st')
    (h' : Forward s pausedAt st' st'') : Forward s pausedAt st st'' :=
  ⟨h.ledger.trans h'.ledger, fun hsafe => h'.safe (h.safe hsafe)⟩

structure Beside (s : Settings) (pausedAt : String → String) (st st' : Store) : Prop
    extends Forward s pausedAt st st' where
  control : st'.control = st.control
  history : st'.history = st.history

theorem Beside.refl (st : Store) : Beside s pausedAt st st :=
  ⟨.refl st, rfl, rfl⟩

theorem Beside.trans {st' st'' : Store} (h : Beside s pausedAt st st')
    (h' : Beside s pausedAt st' st'') : Beside s pausedAt st st'' :=
  ⟨h.toForward.trans h'.toForward, h'.control.trans h.control, h'.history.trans h.history⟩

structure Onward (s : Settings) (pausedAt : String → String) (st st' : Store) : Prop
    extends Forward s pausedAt st st' where
  kept : Kept st.control st'.control

theorem Beside.onward {st' : Store} (h : Beside s pausedAt st st') : Onward s pausedAt st st' :=
  ⟨h.toForward, h.control ▸ .refl st.control⟩

/-- Commands leave the tables to the process that holds the control-plane lock. -/
def sharing (s : Settings) (pausedAt : String → String) : Sharing Slot Store where
  rely
    | .control => Beside s pausedAt
    | .command _ => Forward s pausedAt
  guarantee
    | .control => Onward s pausedAt
    | .command _ => Beside s pausedAt
  rely_refl
    | .control => .refl
    | .command _ => .refl
  rely_trans := by
    rintro (_ | n) st st' st'' h h'
    · exact Beside.trans h h'
    · exact Forward.trans h h'

theorem sharing_rely (i j : Slot) (st st' : Store) (hne : j ≠ i)
    (h : (sharing s pausedAt).guarantee i st st') : (sharing s pausedAt).rely j st st' := by
  cases i with
  | control =>
      cases j with
      | control => exact absurd rfl hne
      | command n => exact (h : Onward s pausedAt st st').toForward
  | command m =>
      cases j with
      | control => exact h
      | command n => exact (h : Beside s pausedAt st st').toForward

theorem sharing_onward {i : Slot} {st st' : Store}
    (h : (sharing s pausedAt).guarantee i st st') : Onward s pausedAt st st' := by
  cases i with
  | control => exact h
  | command n => exact (h : Beside s pausedAt st st').onward

theorem beside_record (id : String) (d : OwnerDecision) (decidedAt : Time) :
    Beside s pausedAt st (exec (.recordDecision id (pausedAt id) d decidedAt) st).2 :=
  ⟨⟨record_grows, fun hsafe => hsafe.record id d decidedAt⟩, rfl, rfl⟩

/-- A safe store, while the transaction runs that began at `st`. -/
abbrev During (s : Settings) (pausedAt : String → String) (st t : Store) : Prop :=
  Safe s pausedAt t ∧ t.control = st.control ∧ t.history = st.history

theorem ledgerUse (st : Store) :
    LedgerUse (sharing s pausedAt) .control (fun st => Recorded st.ledger)
      (fun id c => c = pausedAt id) (During s pausedAt st) True where
  stable hrecorded hrely := Recorded.mono hrecorded (hrely : Beside s pausedAt _ _).ledger
  read := recorded_of_read
  wrote hok := record_recorded hok
  keeps hrecorded := Recorded.mono hrecorded record_grows
  good_rely hgood hrely := by
    have hbeside : Beside s pausedAt _ _ := hrely
    exact ⟨hbeside.safe hgood.1, hbeside.control.trans hgood.2.1,
      hbeside.history.trans hgood.2.2⟩
  good_write := by
    rintro st id c d utcNow hgood rfl
    exact ⟨hgood.1.record id d utcNow, hgood.2⟩
  read_guarantee _ := (Beside.refl _).onward
  write_guarantee := by
    rintro st id c d utcNow - rfl
    exact (beside_record id d utcNow).onward
  free hnot := absurd trivial hnot
  readable := by
    rintro - st hgood id e hread
    rcases hgood.1.genuine.read id with ⟨hnone, -⟩ | ⟨d, row, hsome, -⟩
    · rw [hread] at hnone
      cases hnone
    · rw [hread] at hsome
      cases hsome
  genuine := by
    rintro - st hgood id row hread
    rcases hgood.1.genuine.read id with ⟨hnone, -⟩ | ⟨d, row', hsome, -, hmatches, -⟩
    · rw [hread] at hnone
      cases hnone
    · rw [hread] at hsome
      cases hsome
      exact ⟨d, hmatches⟩
  at_checkpoint := by
    rintro - st hgood id c row rfl hread
    rcases hgood.1.genuine.read id with ⟨hnone, -⟩ | ⟨d, row', hsome, hcheckpoint, -⟩
    · rw [hread] at hnone
      cases hnone
    · rw [hread] at hsome
      cases hsome
      exact hcheckpoint
  shown := by
    rintro - st hgood id c d hrecorded
    rcases hgood.1.genuine.read id with ⟨-, hnone⟩ | ⟨d', row, hread, hcheckpoint, hmatches, hrow⟩
    · exact absurd hrecorded (hnone c d)
    · obtain ⟨hc, rfl⟩ := hgood.1.genuine.unique hrow hrecorded
      exact ⟨row, hread, hcheckpoint.trans hc, hmatches⟩

end Shared

section Promises

/-- What the answer to a call promises. `start` is the store that the call found and
`last` the store in which it is answered. -/
structure CallSettles (a : Ambient) (call : Call) (start : Store)
    (outcome : Except Refusal Reply) (last : Store) : Prop where
  intact : ∀ message, outcome ≠ .error (.integrity message)
  recorded : ∀ owner id d reply, call = .decide owner id d → outcome = .ok reply →
    ∃ c, Recorded last.ledger id c d
  refused : ∀ owner id d row c d', call = .decide owner id d →
    owned start.control owner id = .ok row → Recorded start.ledger id c d' → d' ≠ d →
      ∃ message, outcome = .error (.conflict message)
  repeated : ∀ owner id d row c, call = .decide owner id d →
    owned start.control owner id = .ok row → row.checkpointId ≠ none →
      Recorded start.ledger id c d → ∃ reply, outcome = .ok reply
  carried : ∀ claim c d, outcome = .ok (.claim (some claim)) → claim.checkpointId = some c →
    claim.ownerDecision = some d → Recorded last.ledger claim.investigationId c d
  queued : call = .claimNext → ∀ row ∈ start.control.jobs, row.status = .pausedApproval →
    ∀ c d, Recorded start.ledger row.id c d →
      ∃ row', last.control.job row.id = some row' ∧
        (row'.status = .queued ∨
          row'.status = .running ∧ row'.claimToken = some a.fresh.hex)

structure CommandSettles (pausedAt : String → String) (c : Command) (start : Store)
    (outcome : Except CommandFailure Nat) (last : Store) : Prop where
  recorded : ∀ code, outcome = .ok code →
    Recorded last.ledger c.threadId (pausedAt c.threadId) c.decision
  refused : ∀ checkpointId d, Recorded start.ledger c.threadId checkpointId d →
    d ≠ c.decision → ∃ message, outcome = .error (.store ⟨.conflictingDecision, message⟩)

variable {a : Ambient} {call : Call} {start last : Store} {outcome : Except Refusal Reply}

theorem CallSettles.later (h : CallSettles a call start outcome last) {last' : Store}
    (hcontrol : last'.control = last.control) (hledger : last.ledger <+: last'.ledger) :
    CallSettles a call start outcome last' := by
  refine ⟨h.intact, ?_, h.refused, h.repeated, ?_, ?_⟩
  · intro owner id d reply hcall hok
    obtain ⟨c, hrecorded⟩ := h.recorded owner id d reply hcall hok
    exact ⟨c, hrecorded.mono hledger⟩
  · exact fun claim c d hok hcheckpoint hdecision =>
      (h.carried claim c d hok hcheckpoint hdecision).mono hledger
  · rw [hcontrol]
    exact h.queued

theorem CallSettles.earlier (h : CallSettles a call start outcome last) {start' : Store}
    (hcontrol : start.control = start'.control) (hledger : start'.ledger <+: start.ledger) :
    CallSettles a call start' outcome last := by
  refine ⟨h.intact, h.recorded, ?_, ?_, h.carried, ?_⟩
  · exact fun owner id d row c d' hcall hrow hrecorded =>
      h.refused owner id d row c d' hcall (hcontrol ▸ hrow) (hrecorded.mono hledger)
  · exact fun owner id d row c hcall hrow hcheckpoint hrecorded =>
      h.repeated owner id d row c hcall (hcontrol ▸ hrow) hcheckpoint (hrecorded.mono hledger)
  · exact fun hcall row hrow hpaused c d hrecorded =>
      h.queued hcall row (hcontrol ▸ hrow) hpaused c d (hrecorded.mono hledger)

/-- A call that is neither `decide` nor `claim_next` promises to find intact records. -/
theorem CallSettles.ofIntact (hdecide : ∀ owner id d, call ≠ .decide owner id d)
    (hclaim : call ≠ .claimNext) (hintact : ∀ message, outcome ≠ .error (.integrity message))
    (hplain : ∀ claim, outcome ≠ .ok (.claim claim)) : CallSettles a call start outcome last := by
  refine ⟨hintact, ?_, ?_, ?_, ?_, ?_⟩
  · exact fun owner id d _ hcall => absurd hcall (hdecide owner id d)
  · exact fun owner id d _ _ _ hcall => absurd hcall (hdecide owner id d)
  · exact fun owner id d _ _ hcall => absurd hcall (hdecide owner id d)
  · exact fun claim _ _ hok => absurd hok (hplain _)
  · exact fun hcall => absurd hcall hclaim

end Promises

section Plain

variable {db : Database} {a : Ambient} {call : Call} {id : String}

/-- An answer that is neither a report of broken records nor a worker claim. -/
def Plain : Except Refusal (Reply × Database) → Prop
  | .error (.integrity _) => False
  | .ok (.claim _, _) => False
  | _ => True

theorem owned_error {owner : String} {e : Refusal} (h : owned db owner id = .error e) :
    e = .notFound "investigation not found" := by
  simp only [owned] at h
  split at h
  · cases h
  · exact (Except.error.inj h).symm

theorem isAlnum_incident (horderly : Orderly s db) {row : JobRow} (hrow : row ∈ db.jobs)
    {incident : String} (hincident : row.incidentId = some incident) :
    Text.isAlnum incident = true := by
  obtain ⟨fresh, hfresh⟩ := horderly.identifiers row hrow
  rw [horderly.incidents row hrow incident hincident, hfresh]
  exact isAlnum_scenarioIncident fresh

theorem reportText_plain (horderly : Orderly s db) {row : JobRow} (hrow : db.job id = some row) :
    Plain (reportText s id row.toJob >>= fun content => .ok (.report content, db)) := by
  by_cases hcompleted : row.status = .completed
  · obtain ⟨artifact, content, path, hartifact, hne, hcontent, hdigest, hpath⟩ :=
      horderly.finished row (job_mem hrow) hcompleted
    have hid : row.id = id := job_id hrow
    rw [hid] at hpath
    have htext : reportText s id row.toJob = .ok content := by
      simp [reportText, hcompleted, hartifact, hne, hcontent, hdigest, hpath]
    rw [htext]
    exact trivial
  · have htext : reportText s id row.toJob = .error (.conflict "report is not finalized") := by
      simp [reportText, hcompleted]
    rw [htext]
    exact trivial

theorem answer_plain (hkeys : Keys db) (horderly : Orderly s db)
    (hdecide : ∀ owner id d, call ≠ .decide owner id d) (hclaim : call ≠ .claimNext) :
    Plain (answer s a call db) := by
  have howned : ∀ owner id (answered : JobRow → Except Refusal (Reply × Database)),
      (∀ row, db.job id = some row → Plain (answered row)) →
      Plain (owned db owner id >>= answered) := by
    intro owner id answered hplain
    cases hrow : owned db owner id with
    | error e =>
        rw [owned_error hrow]
        exact trivial
    | ok row => exact hplain row (owned_job hkeys hrow)
  cases call with
  | decide owner id d => exact absurd rfl (hdecide owner id d)
  | claimNext => exact absurd rfl hclaim
  | status owner id => exact howned owner id _ fun _ _ => trivial
  | events owner id => exact howned owner id _ fun _ _ => trivial
  | report owner id => exact howned owner id _ fun row hrow => reportText_plain horderly hrow
  | create owner family key =>
      simp only [answer, create]
      split
      · exact trivial
      · split <;> exact trivial
  | scenarioStatus incident =>
      simp only [answer, scenarioStatus]
      split <;> exact trivial
  | incidentIdFor id =>
      simp only [answer, incidentIdFor]
      split
      · exact trivial
      · rename_i row hrow
        split
        · exact trivial
        · rename_i incident hincident
          rw [if_pos (isAlnum_incident horderly (job_mem hrow) hincident)]
          exact trivial
  | reserveIncident id token =>
      simp only [answer, reserveIncident]
      split
      · exact trivial
      · rename_i row hrow
        split
        · exact trivial
        · split
          · exact trivial
          · rename_i incident hincident
            rw [if_pos (isAlnum_incident horderly (job_mem hrow) hincident)]
            exact trivial
  | renewRunning id token =>
      simp only [answer, renewRunning]
      split <;> exact trivial
  | markPaused id checkpointId token =>
      simp only [answer, markPaused]
      split
      · exact trivial
      · split <;> exact trivial
  | requeueRunning id token =>
      simp only [answer, requeueRunning]
      split <;> exact trivial
  | retryRunning id token errorName =>
      simp only [answer, retryRunning]
      split
      · exact trivial
      · split
        · exact trivial
        · split <;> exact trivial
  | finalize id artifact token =>
      simp only [answer, finalize]
      split
      · exact trivial
      · split
        · exact trivial
        · split
          · exact trivial
          · split
            · rename_i e hreport
              obtain ⟨message, rfl⟩ := readReportSnapshot_error hreport
              exact trivial
            · split <;> exact trivial
  | claimDelivery =>
      simp only [answer, claimDelivery]
      split
      · exact trivial
      · split
        · rename_i e hrefused
          simp only [deliveryClaim] at hrefused
          split at hrefused
          · cases hrefused
          · cases hrefused
            exact trivial
        · exact trivial
  | markDelivered id token =>
      simp only [answer, markDelivered]
      split <;> exact trivial
  | renewDelivery id token =>
      simp only [answer, renewDelivery]
      split <;> exact trivial
  | releaseDelivery id token =>
      simp only [answer, releaseDelivery]
      split <;> exact trivial
  | retryDelivery id token errorName =>
      simp only [answer, retryDelivery]
      split
      · exact trivial
      · split
        · exact trivial
        · split <;> exact trivial

end Plain

section Calls

variable {a : Ambient} {call : Call}

/-- What the body of a call leaves for its commit, `st` being the store in which its
transaction began. -/
structure Concluded (s : Settings) (pausedAt : String → String) (a : Ambient) (call : Call)
    (st : Store) (outcome : Except Refusal (Reply × Database)) (t : Store) : Prop where
  during : During s pausedAt st t
  moves : ∀ reply db', outcome = .ok (reply, db') →
    Moves s ⟨conduct pausedAt st.history, Recorded t.ledger⟩ st.control db'
  handed : ∀ claim db', outcome = .ok (.claim (some claim), db') →
    Handed (Recorded t.ledger) a.fresh.hex db' claim
  settles : CallSettles a call st (outcome.map Prod.fst)
    { t with control := settled st.control outcome }

/-- The outcome of `decide`. -/
theorem decide_concludes {owner id : String} {d : OwnerDecision}
    {outcome : Except Refusal (Reply × Database)}
    (h : DecideOutcome s (fun st => Recorded st.ledger) (conduct pausedAt st.history)
      (During s pausedAt st) True st st.control owner id d outcome t) :
    Concluded s pausedAt a (.decide owner id d) st outcome t := by
  refine ⟨h.sound, fun reply db' hok => (h.moves reply db' hok).1, ?_, ?_⟩
  · intro claim db' hok
    obtain ⟨view, hview⟩ := h.viewed _ _ hok
    cases hview
  · refine ⟨?_, ?_, ?_, ?_, ?_, fun hcall => by cases hcall⟩
    · intro message hintegrity
      cases outcome with
      | ok answered => cases hintegrity
      | error e =>
          obtain rfl : e = .integrity message := Except.error.inj hintegrity
          rcases h.refused trivial _ rfl with howned | ⟨message', hconflict⟩
          · cases owned_error howned
          · cases hconflict
    · rintro owner' id' d' reply hcall hok
      cases hcall
      cases outcome with
      | ok answered => exact (h.moves answered.1 answered.2 rfl).2
      | error e => cases hok
    · rintro owner' id' d' row c other hcall hrow hrecorded hne
      cases hcall
      cases outcome with
      | ok answered =>
          obtain ⟨c', hnew⟩ := (h.moves answered.1 answered.2 rfl).2
          exact absurd (h.sound.1.genuine.unique (h.later _ _ _ hrecorded) hnew).2 hne
      | error e =>
          rcases h.refused trivial e rfl with howned | ⟨message, rfl⟩
          · rw [hrow] at howned
            cases howned
          · exact ⟨message, rfl⟩
    · rintro owner' id' d' row c hcall hrow hcheckpoint hrecorded
      cases hcall
      obtain ⟨answered, rfl⟩ := h.accepted trivial row hrow hcheckpoint ⟨c, hrecorded⟩
      exact ⟨answered.1, rfl⟩
    · intro claim c d' hok
      cases outcome with
      | error e => cases hok
      | ok answered =>
          obtain ⟨view, hview⟩ := h.viewed answered.1 answered.2 rfl
          obtain ⟨reply, db'⟩ := answered
          cases hview
          cases hok

/-- The outcome of `claim_next`. -/
theorem claimNext_concludes {outcome : Except Refusal (Reply × Database)}
    (h : ClaimOutcome s (fun st => Recorded st.ledger) (conduct pausedAt st.history)
      (During s pausedAt st) True st st.control a.fresh.hex outcome t) :
    Concluded s pausedAt a .claimNext st outcome t := by
  cases outcome with
  | error e => exact absurd rfl (h.quiet trivial e)
  | ok answered =>
      obtain ⟨reply, db'⟩ := answered
      refine ⟨h.sound, h.moves, h.handed, ?_, ?_, ?_, ?_, ?_, ?_⟩
      · intro message hintegrity
        cases hintegrity
      · intro owner id d reply hcall
        cases hcall
      · intro owner id d row c d' hcall
        cases hcall
      · intro owner id d row c hcall
        cases hcall
      · intro claim c d hok hcheckpoint hdecision
        cases hok
        obtain ⟨c', hcheckpoint', hrecorded⟩ := (h.handed claim db' rfl).decided d hdecision
        obtain rfl := Option.some.inj (hcheckpoint'.symm.trans hcheckpoint)
        exact hrecorded
      · intro _ row hrow hpaused c d hrecorded
        exact (h.settled trivial reply db' rfl row hrow hpaused ⟨c, d, hrecorded⟩).1

theorem plain_concludes {outcome : Except Refusal (Reply × Database)}
    (hdecide : ∀ owner id d, call ≠ .decide owner id d) (hclaim : call ≠ .claimNext)
    (hplain : Plain outcome)
    (h : BodyOutcome s (fun st => Recorded st.ledger) (conduct pausedAt st.history)
      (During s pausedAt st) st.control outcome t) :
    Concluded s pausedAt a call st outcome t := by
  refine ⟨h.sound, h.moves, ?_, .ofIntact hdecide hclaim ?_ ?_⟩
  · rintro claim db' rfl
    exact hplain.elim
  · intro message hintegrity
    cases outcome with
    | ok answered => cases hintegrity
    | error e =>
        obtain rfl : e = .integrity message := Except.error.inj hintegrity
        exact hplain
  · intro claim hok
    cases outcome with
    | error e => cases hok
    | ok answered =>
        obtain ⟨reply, db'⟩ := answered
        cases hok
        exact hplain

theorem body_concludes (hsafe : Safe s pausedAt st) (hcheck : precheck call = .ok ())
    (hconforms : Conforms (conduct pausedAt st.history) st.control a call) :
    (body s a call st.control).Meets exec (sharing s pausedAt) .control
      (Concluded s pausedAt a call st) st := by
  have huse : LedgerUse (sharing s pausedAt) .control (fun st => Recorded st.ledger)
      (fun id c => c = pausedAt id) (During s pausedAt st) True := ledgerUse st
  have hgood : During s pausedAt st st := ⟨hsafe, rfl, rfl⟩
  have hunique : True → ∀ id c c' d d', Recorded st.ledger id c d → Recorded st.ledger id c' d' →
      c = c' ∧ d = d' := fun _ _ _ _ _ _ => hsafe.genuine.unique
  have hpausable : True → ∀ db id c, (conduct pausedAt st.history).pausable db id c →
      c = pausedAt id ∧ db.decision id = none := fun _ _ _ _ h => h
  have hplain : ∀ (hdecide : ∀ owner id d, call ≠ .decide owner id d)
      (hclaim : call ≠ .claimNext), body s a call st.control = .lift (answer s a call st.control) →
      (body s a call st.control).Meets exec (sharing s pausedAt) .control
        (Concluded s pausedAt a call st) st := by
    intro hdecide hclaim hbody
    have hmoves : (body s a call st.control).Meets exec (sharing s pausedAt) .control
        (BodyOutcome s (fun st => Recorded st.ledger) (conduct pausedAt st.history)
          (During s pausedAt st) st.control) st :=
      body_meets huse hpausable hunique hgood hsafe.keys a (fun _ => hsafe.sane) call hcheck
        hconforms
    have hsame : (body s a call st.control).Meets exec (sharing s pausedAt) .control
        (fun outcome _ => outcome = answer s a call st.control) st := by
      rw [hbody]
      exact lift_meets fun _ _ => rfl
    refine (hmoves.and hsame).mono ?_
    rintro outcome t ⟨hdone, rfl⟩
    exact plain_concludes hdecide hclaim
      (answer_plain hsafe.keys hsafe.orderly hdecide hclaim) hdone
  cases call with
  | decide owner id d =>
      have hdecide : (Sqlite.decide a.utcNow owner id d st.control).Meets exec
          (sharing s pausedAt) .control
          (DecideOutcome s (fun st => Recorded st.ledger) (conduct pausedAt st.history)
            (During s pausedAt st) True st st.control owner id d) st :=
        decide_meets huse hgood hsafe.keys (fun _ => hsafe.sane) hunique
      exact hdecide.mono fun _ _ => decide_concludes
  | claimNext =>
      have hclaim : (claimNext s a st.control).Meets exec (sharing s pausedAt) .control
          (ClaimOutcome s (fun st => Recorded st.ledger) (conduct pausedAt st.history)
            (During s pausedAt st) True st st.control a.fresh.hex) st :=
        claimNext_meets huse hpausable hgood hsafe.keys a (fun _ => hsafe.sane) hconforms
      exact hclaim.mono fun _ _ => claimNext_concludes
  | create | status | events | report | scenarioStatus | incidentIdFor | renewRunning
  | reserveIncident | markPaused | requeueRunning | retryRunning | finalize | claimDelivery
  | markDelivered | renewDelivery | releaseDelivery | retryDelivery =>
      exact hplain (by intros; simp) (by simp) rfl

/-- What holds of a call when it starts: a pause is where the thread is paused and on a
claim that carried no decision, and the token of a new claim is fresh. -/
def CallAllowed (pausedAt : String → String) (history : List Reply) (a : Ambient) : Call → Prop
  | .markPaused id checkpointId token =>
      checkpointId = pausedAt id ∧ ∃ claim ∈ claims history,
        claim.investigationId = id ∧ claim.claimToken = token ∧ claim.ownerDecision = none
  | .claimNext => ∀ claim ∈ claims history, claim.claimToken ≠ a.fresh.hex
  | _ => True

theorem CallAllowed.conforms (hsafe : Safe s pausedAt st)
    (hallowed : CallAllowed pausedAt st.history a call) :
    Conforms (conduct pausedAt st.history) st.control a call := by
  cases call with
  | markPaused id checkpointId token =>
      obtain ⟨hcheckpoint, claim, hclaim, -, htoken, hnone⟩ := hallowed
      intro row hrow hheld
      obtain ⟨hrunning, hrowtoken⟩ := claimHeld_iff.1 hheld
      have hundecided := hsafe.tracked row (job_mem hrow) hrunning claim hclaim
        (hrowtoken.trans (congrArg some htoken.symm)) hnone
      rw [job_id hrow] at hundecided
      exact ⟨hcheckpoint, hundecided⟩
  | claimNext => exact hallowed
  | create | status | events | report | scenarioStatus | incidentIdFor | renewRunning
  | reserveIncident | decide | requeueRunning | retryRunning | finalize | claimDelivery
  | markDelivered | renewDelivery | releaseDelivery | retryDelivery => exact trivial

theorem commit_meets {reply : Reply} {db' : Database}
    (hdone : Concluded s pausedAt a call st (.ok (reply, db')) t) :
    (Program.call (.commit db' reply) fun _ => .ret reply : Prog Reply).Meets exec
      (sharing s pausedAt) .control (CallSettles a call st) t := by
  obtain ⟨hsafe, hcontrol, hhistory⟩ := hdone.during
  intro u hu
  have hthen : Beside s pausedAt t u := hu
  have hsafe' := hthen.safe hsafe
  have hmoves : Moves s ⟨conduct pausedAt u.history, Recorded u.ledger⟩ u.control db' := by
    have hsame : conduct pausedAt u.history = conduct pausedAt st.history := by
      rw [hthen.history, hhistory]
    rw [hthen.control, hcontrol]
    exact Moves.mono (fun _ _ _ hrecorded => Recorded.mono hrecorded hthen.ledger) hsame
      (hdone.moves reply db' rfl)
  have hhanded : ∀ claim, reply = .claim (some claim) →
      Handed (Recorded u.ledger) a.fresh.hex db' claim := by
    rintro claim rfl
    have hold := hdone.handed claim db' rfl
    refine ⟨hold.stamped, hold.running, hold.undecided, fun d hd => ?_⟩
    obtain ⟨c, hcheckpoint, hrecorded⟩ := hold.decided d hd
    exact ⟨c, hcheckpoint, hrecorded.mono hthen.ledger⟩
  have hcommitted : Safe s pausedAt
      { u with control := db', history := u.history ++ [reply] } :=
    (hsafe'.moves hmoves).answered hhanded
  refine ⟨⟨⟨List.prefix_refl _, fun _ => hcommitted⟩, kept_moves hsafe'.keys hmoves⟩, ?_⟩
  intro v hv
  have hlast : Beside s pausedAt _ v := hv
  exact hdone.settles.later hlast.control (hthen.ledger.trans hlast.ledger)

theorem method_meets (hsafe : Safe s pausedAt st)
    (hallowed : CallAllowed pausedAt st.history a call) :
    (method s a call).Meets exec (sharing s pausedAt) .control (CallSettles a call st) st := by
  simp only [method]
  cases hcheck : precheck call with
  | error e =>
      intro t _
      refine .ofIntact ?_ ?_ ?_ fun claim hok => by cases hok
      · rintro owner id d rfl
        cases hcheck
      · rintro rfl
        cases hcheck
      · rintro message hintegrity
        obtain rfl : e = .integrity message := Except.error.inj hintegrity
        cases call with
        | markPaused id checkpointId token =>
            simp only [precheck] at hcheck
            split at hcheck <;> cases hcheck
        | finalize id artifact token =>
            simp only [precheck] at hcheck
            split at hcheck <;> cases hcheck
        | create | status | events | report | scenarioStatus | incidentIdFor | renewRunning
        | reserveIncident | decide | requeueRunning | retryRunning | claimNext | claimDelivery
        | markDelivered | renewDelivery | releaseDelivery | retryDelivery => cases hcheck
  | ok u =>
      intro t ht
      have hbeside : Beside s pausedAt st t := ht
      have hsafe' := hbeside.safe hsafe
      have hconforms : Conforms (conduct pausedAt t.history) t.control a call :=
        CallAllowed.conforms hsafe' (by rw [hbeside.history]; exact hallowed)
      refine ⟨(Beside.refl t).onward, ?_⟩
      have hbody : (body s a call t.control).Meets exec (sharing s pausedAt) .control
          (Concluded s pausedAt a call t) t := body_concludes hsafe' hcheck hconforms
      refine Program.Meets.mono (Program.Meets.bind (hbody.mono ?_) fun answered u => commit_meets)
        fun outcome u hsettles => hsettles.earlier hbeside.control hbeside.ledger
      intro outcome u hdone
      cases outcome with
      | ok answered => exact hdone
      | error e => exact hdone.settles.later hdone.during.2.1 (List.prefix_refl _)

end Calls

section Commands

variable {c : Command} {n : Nat}

/-- A command records its decision where the graph says that the thread is paused. -/
def CommandAllowed (pausedAt : String → String) (c : Command) : Prop :=
  match c.surroundings.snapshot with
  | .ok (some checkpointId) => checkpointId = pausedAt c.threadId
  | _ => True

theorem settles_of_recorded {start last : Store} {outcome : Except CommandFailure Nat}
    (hgenuine : Genuine pausedAt last.ledger) (hledger : start.ledger <+: last.ledger)
    (h : Recorded last.ledger c.threadId (pausedAt c.threadId) c.decision) :
    CommandSettles pausedAt c start outcome last := by
  refine ⟨fun _ _ => h, ?_⟩
  intro checkpointId d hrecorded hne
  exact absurd (hgenuine.unique (hrecorded.mono hledger) h).2 hne

theorem command_lift {outcome : Except CommandFailure Nat}
    {post : Except CommandFailure Nat → Store → Prop}
    (h : ∀ t, Forward s pausedAt st t → post outcome t) :
    (Program.lift outcome : Program Op Op.Res CommandFailure Nat).Meets exec
      (sharing s pausedAt) (.command n) post st := by
  cases outcome with
  | ok code => exact h
  | error e => exact h

theorem command_meets (hsafe : Safe s pausedAt st) (hallowed : CommandAllowed pausedAt c) :
    (runDecisionCommand c).Meets exec (sharing s pausedAt) (.command n)
      (CommandSettles pausedAt c st) st := by
  intro t ht
  have hforward : Forward s pausedAt st t := ht
  have hsafe' := hforward.safe hsafe
  refine ⟨Beside.refl t, ?_⟩
  simp only [exec]
  rcases hsafe'.genuine.read c.threadId with
    ⟨hread, hnone⟩ | ⟨d, row, hread, hcheckpoint, hmatches, hrecorded⟩
  · -- Nothing is recorded yet, so no decision was recorded when the command started.
    have hnew : ∀ {outcome : Except CommandFailure Nat} {u : Store},
        (∀ code, outcome = .ok code →
          Recorded u.ledger c.threadId (pausedAt c.threadId) c.decision) →
        CommandSettles pausedAt c st outcome u := by
      intro outcome u hok
      refine ⟨hok, fun checkpointId d hold => ?_⟩
      exact absurd (hold.mono hforward.ledger) (hnone checkpointId d)
    rw [hread]
    simp only
    split
    · exact fun u _ => hnew fun code hok => by cases hok
    · exact fun u _ => hnew fun code hok => by cases hok
    · rename_i checkpointId hsnapshot
      simp only [CommandAllowed, hsnapshot] at hallowed
      subst hallowed
      intro u hu
      have hthen : Forward s pausedAt t u := hu
      refine ⟨beside_record _ _ _, ?_⟩
      beta_reduce
      split
      · exact fun v _ => hnew fun code hok => by cases hok
      · rename_i hok
        refine command_lift fun v hv => hnew fun _ _ => ?_
        exact Recorded.mono (record_recorded hok) hv.ledger
  · rw [hread]
    simp only
    split
    · rename_i hdiffers
      have hne : d ≠ c.decision := by
        rintro rfl
        simp [hmatches] at hdiffers
      intro u hu
      refine ⟨fun code hok => (by cases hok), fun checkpointId d' hold hne' => ⟨_, rfl⟩⟩
    · rename_i hsame
      have hown : row.matches c.decision = true := by simpa using hsame
      obtain rfl : d = c.decision := by
        have hvalid := validate_of_matches hmatches
        rw [validate_of_matches hown] at hvalid
        exact (Option.some.inj hvalid).symm
      have hsettled : ∀ {outcome : Except CommandFailure Nat} {u : Store},
          Forward s pausedAt t u → CommandSettles pausedAt c st outcome u := by
        intro outcome u hthen
        exact settles_of_recorded (hthen.safe hsafe').genuine
          (hforward.ledger.trans hthen.ledger) (hrecorded.mono hthen.ledger)
      split
      · exact command_lift fun u hu => hsettled hu
      · split
        · exact fun u hu => hsettled hu
        · exact command_lift fun u hu => hsettled hu

end Commands

end CausalOps.ControlPlane.Approvals
