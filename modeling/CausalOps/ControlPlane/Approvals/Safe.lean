import CausalOps.ControlPlane.Approvals
import CausalOps.ControlPlane.Sqlite.Kept

set_option autoImplicit false

/-! What holds between the decision ledger, the tables and the claims handed out, for
threads that pause at one checkpoint each. -/

namespace CausalOps.ControlPlane.Approvals

open Sqlite

section Ledger

def Recorded (ledger : Ledger) (threadId checkpointId : String) (d : OwnerDecision) : Prop :=
  ∃ row ∈ ledger, row.threadId = threadId ∧ row.checkpointId = checkpointId ∧
    OwnerDecision.validate row.decision row.rejectionNote = some d

/-- Every row was written from a decision, at the checkpoint where its thread is
paused, and a thread has one row at most. -/
structure Genuine (pausedAt : String → String) (ledger : Ledger) : Prop where
  written : ∀ row ∈ ledger, ∃ d decidedAt,
    row = LedgerRow.of row.threadId (pausedAt row.threadId) d decidedAt
  single : Rows.Keyed LedgerRow.threadId ledger

variable {pausedAt : String → String} {ledger ledger' : Ledger} {id c c' : String}
  {d d' : OwnerDecision} {decidedAt : Time}

theorem Recorded.mono (h : Recorded ledger id c d) (hheads : ledger <+: ledger') :
    Recorded ledger' id c d := by
  obtain ⟨row, hrow, hcolumns⟩ := h
  exact ⟨row, hheads.subset hrow, hcolumns⟩

theorem genuine_empty : Genuine pausedAt [] :=
  ⟨by simp, Rows.keyed_nil _⟩

theorem Genuine.row (hgenuine : Genuine pausedAt ledger) (h : Recorded ledger id c d) :
    c = pausedAt id ∧ ∃ decidedAt, LedgerRow.of id c d decidedAt ∈ ledger := by
  obtain ⟨row, hrow, rfl, rfl, hvalid⟩ := h
  obtain ⟨d', decidedAt, hof⟩ := hgenuine.written row hrow
  have hcheckpoint : row.checkpointId = pausedAt row.threadId :=
    congrArg LedgerRow.checkpointId hof
  have hdecision : row.decision = d'.decision.text := congrArg LedgerRow.decision hof
  have hnote : row.rejectionNote = d'.rejectionNote := congrArg LedgerRow.rejectionNote hof
  rw [hdecision, hnote, OwnerDecision.validate_columns] at hvalid
  obtain rfl := Option.some.inj hvalid
  refine ⟨hcheckpoint, decidedAt, ?_⟩
  rw [hcheckpoint, ← hof]
  exact hrow

theorem Genuine.unique (hgenuine : Genuine pausedAt ledger) (h : Recorded ledger id c d)
    (h' : Recorded ledger id c' d') : c = c' ∧ d = d' := by
  obtain ⟨hc, -⟩ := hgenuine.row h
  obtain ⟨hc', -⟩ := hgenuine.row h'
  obtain ⟨row, hrow, hthread, -, hvalid⟩ := h
  obtain ⟨row', hrow', hthread', -, hvalid'⟩ := h'
  have hsame : row = row' :=
    hgenuine.single.eq_of_key_eq hrow hrow' (hthread.trans hthread'.symm)
  subst hsame
  exact ⟨hc.trans hc'.symm, Option.some.inj (hvalid.symm.trans hvalid')⟩

theorem Genuine.read (hgenuine : Genuine pausedAt ledger) (id : String) :
    (readDecisionForThread ledger id = .ok none ∧ ∀ c d, ¬ Recorded ledger id c d) ∨
      ∃ d row, readDecisionForThread ledger id = .ok (some row) ∧
        row.checkpointId = pausedAt id ∧ row.matches d = true ∧
          Recorded ledger id (pausedAt id) d := by
  cases hnewest : newestRow ledger id with
  | none =>
      refine Or.inl ⟨by simp [readDecisionForThread, hnewest], ?_⟩
      rintro c d ⟨row, hrow, hthread, -⟩
      exact newestRow_eq_none.1 hnewest row hrow hthread
  | some row =>
      obtain ⟨hrow, rfl⟩ := newestRow_mem hnewest
      obtain ⟨d, decidedAt, hof⟩ := hgenuine.written row hrow
      have hcheckpoint : row.checkpointId = pausedAt row.threadId :=
        congrArg LedgerRow.checkpointId hof
      have hdecision : row.decision = d.decision.text := congrArg LedgerRow.decision hof
      have hnote : row.rejectionNote = d.rejectionNote := congrArg LedgerRow.rejectionNote hof
      refine Or.inr ⟨d, ⟨row.threadId, pausedAt row.threadId, d.decision, d.rejectionNote,
        decidedAt, rowPaired_of_paired d.paired⟩, ?_, rfl, matches_iff.2 ⟨rfl, rfl⟩, ?_⟩
      · have hvalid := DecisionRow.validate_of row.threadId (pausedAt row.threadId) d decidedAt
        rw [← hof] at hvalid
        simp only [readDecisionForThread, hnewest, hvalid]
      · refine ⟨row, hrow, rfl, hcheckpoint, ?_⟩
        rw [hdecision, hnote, OwnerDecision.validate_columns]

theorem recorded_of_read {row : DecisionRow}
    (hread : readDecisionForThread ledger id = .ok (some row))
    (hvalid : OwnerDecision.validate row.decision.text row.rejectionNote = some d) :
    Recorded ledger id row.checkpointId d := by
  simp only [readDecisionForThread] at hread
  split at hread
  · cases hread
  · rename_i newest hnewest
    obtain ⟨hmem, hthread⟩ := newestRow_mem hnewest
    split at hread
    · rename_i decision hdecision
      cases hread
      simp only [DecisionRow.validate] at hdecision
      split at hdecision
      · cases hdecision
      · rename_i verdict hverdict
        split at hdecision
        · cases hdecision
          refine ⟨newest, hmem, hthread, rfl, ?_⟩
          rwa [← Verdict.text_of_parse hverdict]
        · cases hdecision
    · cases hread

theorem record_grows :
    ledger <+: (recordDecisionBeforeResume ledger id c d decidedAt).2 := by
  simp only [recordDecisionBeforeResume]
  split
  · exact List.prefix_refl ledger
  · exact List.prefix_append ledger _

theorem record_recorded (hok : (recordDecisionBeforeResume ledger id c d decidedAt).1 = .ok ()) :
    Recorded (recordDecisionBeforeResume ledger id c d decidedAt).2 id c d := by
  simp only [recordDecisionBeforeResume] at hok ⊢
  split at hok
  · cases hok
  · rename_i hfree
    rw [if_neg hfree]
    exact ⟨LedgerRow.of id c d decidedAt, by simp, rfl, rfl, OwnerDecision.validate_columns d⟩

theorem Genuine.record (hgenuine : Genuine pausedAt ledger) :
    Genuine pausedAt (recordDecisionBeforeResume ledger id (pausedAt id) d decidedAt).2 := by
  simp only [recordDecisionBeforeResume]
  split
  · exact hgenuine
  · rename_i hfree
    simp only [List.any_eq_true, Bool.and_eq_true, decide_eq_true_eq, not_exists, not_and] at hfree
    have hnew : ∀ row ∈ ledger, row.threadId ≠ id := by
      intro row hrow hthread
      obtain ⟨d', decidedAt', hof⟩ := hgenuine.written row hrow
      have hcheckpoint : row.checkpointId = pausedAt row.threadId :=
        congrArg LedgerRow.checkpointId hof
      exact hfree row hrow hthread (hthread ▸ hcheckpoint)
    refine ⟨?_, hgenuine.single.append hnew⟩
    intro row hrow
    rcases List.mem_append.1 hrow with hrow | hrow
    · exact hgenuine.written row hrow
    · obtain rfl := List.mem_singleton.1 hrow
      exact ⟨d, decidedAt, rfl⟩

end Ledger

section Safe

/-- What holds of both databases and of the claims handed out, at every moment. -/
structure Safe (s : Settings) (pausedAt : String → String) (st : Store) : Prop where
  keys : Keys st.control
  fenced : Fenced st.control
  orderly : Orderly s st.control
  sane : Sane (Recorded st.ledger) (fun id c => c = pausedAt id) st.control
  genuine : Genuine pausedAt st.ledger
  tracked : Tracked st.history st.control
  carried : ∀ claim ∈ claims st.history, ∀ d, claim.ownerDecision = some d →
    ∃ c, claim.checkpointId = some c ∧ Recorded st.ledger claim.investigationId c d
  announced : Announced st.control

/-- Workers pause a job where its thread is paused and only while it has no decision;
the token of a new claim was not handed out before. -/
def conduct (pausedAt : String → String) (history : List Reply) : Conduct where
  pausable db id c := c = pausedAt id ∧ db.decision id = none
  issued token := ∀ claim ∈ claims history, claim.claimToken ≠ token

variable {s : Settings} {pausedAt : String → String} {st : Store}

theorem safe_empty : Safe s pausedAt .empty := by
  refine ⟨keys_empty, fenced_empty, orderly_empty, sane_empty, genuine_empty, ?_, ?_,
    announced_empty⟩
  · intro row hrow
    cases hrow
  · intro claim hclaim
    cases hclaim

theorem Safe.record (hsafe : Safe s pausedAt st) (id : String) (d : OwnerDecision)
    (decidedAt : Time) :
    Safe s pausedAt (exec (.recordDecision id (pausedAt id) d decidedAt) st).2 := by
  have hheads : st.ledger <+:
      (recordDecisionBeforeResume st.ledger id (pausedAt id) d decidedAt).2 := record_grows
  refine ⟨hsafe.keys, hsafe.fenced, hsafe.orderly, ?_, hsafe.genuine.record, hsafe.tracked, ?_,
    hsafe.announced⟩
  · exact hsafe.sane.mono fun _ _ _ hrecorded => hrecorded.mono hheads
  · intro claim hclaim d' hdecision
    obtain ⟨c, hcheckpoint, hrecorded⟩ := hsafe.carried claim hclaim d' hdecision
    exact ⟨c, hcheckpoint, hrecorded.mono hheads⟩

/-- What the moves of one call keep, before its answer joins the history. -/
theorem Safe.moves (hsafe : Safe s pausedAt st) {db : Database}
    (hmoves : Moves s ⟨conduct pausedAt st.history, Recorded st.ledger⟩ st.control db) :
    Safe s pausedAt { st with control := db } := by
  have hkept : ∀ db db', Keys db →
      (Fenced db ∧ Orderly s db ∧ Sane (Recorded st.ledger) (fun id c => c = pausedAt id) db ∧
        Tracked st.history db ∧ Announced db) →
      Move s ⟨conduct pausedAt st.history, Recorded st.ledger⟩ db db' →
      Fenced db' ∧ Orderly s db' ∧ Sane (Recorded st.ledger) (fun id c => c = pausedAt id) db' ∧
        Tracked st.history db' ∧ Announced db' := by
    rintro db db' hkeys ⟨hfenced, horderly, hsane, htracked, hannounced⟩ hmove
    have hpaused : ∀ row ∈ db.jobs, row.status = .pausedApproval → db.decision row.id = none :=
      fun row hrow hwaiting => (hsane.paused row hrow hwaiting).2
    exact ⟨hfenced.move hkeys hmove, horderly.move hkeys hmove,
      Sane.move (fun _ _ _ h => h) hkeys hsane hmove,
      htracked.move hkeys (fun _ h => h) hmove, hannounced.move hpaused hmove⟩
  obtain ⟨hkeys, hfenced, horderly, hsane, htracked, hannounced⟩ :=
    Moves.preserve hkept hmoves hsafe.keys
      ⟨hsafe.fenced, hsafe.orderly, hsafe.sane, hsafe.tracked, hsafe.announced⟩
  exact ⟨hkeys, hfenced, horderly, hsane, hsafe.genuine, htracked, hsafe.carried, hannounced⟩

theorem mem_claims_snoc {history : List Reply} {reply : Reply} {claim : WorkerClaim} :
    claim ∈ claims (history ++ [reply]) ↔
      claim ∈ claims history ∨ reply = .claim (some claim) := by
  simp only [claims, List.filterMap_append, List.mem_append]
  refine or_congr_right ?_
  cases reply with
  | claim found => simp [eq_comm]
  | done | view | incident | incidentId | scenario | retryable | delivery | timeline | report =>
      simp

theorem Safe.answered (hsafe : Safe s pausedAt st) {reply : Reply} {token : String}
    (hhanded : ∀ claim, reply = .claim (some claim) →
      Handed (Recorded st.ledger) token st.control claim) :
    Safe s pausedAt { st with history := st.history ++ [reply] } := by
  refine ⟨hsafe.keys, hsafe.fenced, hsafe.orderly, hsafe.sane, hsafe.genuine, ?_, ?_,
    hsafe.announced⟩
  · intro row hrow hrunning claim hclaim htoken hnone
    rcases mem_claims_snoc.1 hclaim with hold | hnew
    · exact hsafe.tracked row hrow hrunning claim hold htoken hnone
    · have hclaimed := hhanded claim hnew
      obtain ⟨handed, hjob, hstatus, -⟩ := hclaimed.running
      -- Only one job runs, so the row is the one that was handed over.
      have hsame : row = handed :=
        hsafe.fenced.single row hrow handed (job_mem hjob) hrunning hstatus
      rw [hsame, job_id hjob]
      exact hclaimed.undecided hnone
  · intro claim hclaim d hdecision
    rcases mem_claims_snoc.1 hclaim with hold | hnew
    · exact hsafe.carried claim hold d hdecision
    · exact (hhanded claim hnew).decided d hdecision

theorem Safe.claim (hsafe : Safe s pausedAt st) {claim : WorkerClaim}
    (hclaim : claim ∈ claims st.history) {c : String} {d : OwnerDecision}
    (hcheckpoint : claim.checkpointId = some c) (hdecision : claim.ownerDecision = some d) :
    Recorded st.ledger claim.investigationId c d := by
  obtain ⟨c', hcheckpoint', hrecorded⟩ := hsafe.carried claim hclaim d hdecision
  obtain rfl := Option.some.inj (hcheckpoint'.symm.trans hcheckpoint)
  exact hrecorded

end Safe

end CausalOps.ControlPlane.Approvals
