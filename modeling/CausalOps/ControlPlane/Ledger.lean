import Mathlib.Data.List.MinMax
import CausalOps.ControlPlane.Types

set_option autoImplicit false

/-! The `owner_decisions` table of the checkpoint database, and the reference that
a job keeps to its finished report. -/

namespace CausalOps.ControlPlane

section OwnerDecisions

inductive CheckpointStoreReasonCode where
  | threadNotFound
  | noPendingInterrupt
  | conflictingDecision
  | invalidRejectionNote
  | reservationNotSettleable
  | ceilingBelowReservationBuffer
  | ceilingMalformed
  | storeUnavailable
  deriving DecidableEq, Repr

structure CheckpointStoreError where
  reasonCode : CheckpointStoreReasonCode
  message : String
  deriving DecidableEq, Repr

/-- A row of `owner_decisions`, as raw columns. -/
structure LedgerRow where
  threadId : String
  checkpointId : String
  decision : String
  rejectionNote : Option String
  decidedAt : Time
  deriving DecidableEq, Repr

/-- The table; its primary key is `(thread_id, checkpoint_id)`. -/
abbrev Ledger := List LedgerRow

/-- The pairing that `DecisionRow` checks again on a row read back. -/
def RowPaired : Verdict → Option String → Prop
  | .accept, none => True
  | .accept, some _ => False
  | .reject, none => False
  | .reject, some note => Text.strip note ≠ ""

instance : (verdict : Verdict) → (note : Option String) → Decidable (RowPaired verdict note)
  | .accept, none => isTrue trivial
  | .accept, some _ => isFalse id
  | .reject, none => isFalse id
  | .reject, some note => inferInstanceAs (Decidable (Text.strip note ≠ ""))

structure DecisionRow where
  threadId : String
  checkpointId : String
  decision : Verdict
  rejectionNote : Option String
  decidedAt : Time
  paired : RowPaired decision rejectionNote
  deriving DecidableEq

def DecisionRow.validate (row : LedgerRow) : Option DecisionRow :=
  match Verdict.parse row.decision with
  | none => none
  | some verdict =>
      if h : RowPaired verdict row.rejectionNote then
        some ⟨row.threadId, row.checkpointId, verdict, row.rejectionNote, row.decidedAt, h⟩
      else none

def DecisionRow.matches (row : DecisionRow) (d : OwnerDecision) : Bool :=
  row.decision = d.decision && row.rejectionNote = d.rejectionNote

theorem rowPaired_of_paired {verdict : Verdict} {note : Option String}
    (h : Paired verdict note) : RowPaired verdict note := by
  cases verdict with
  | accept => cases note <;> exact h
  | reject =>
      cases note with
      | none => exact h
      | some text =>
          obtain ⟨hne, hstrip, -⟩ := h
          exact fun hblank => hne (hstrip.symm.trans hblank)

/-- `ORDER BY decided_at DESC LIMIT 1` among the rows of the thread. -/
def newestRow (ledger : Ledger) (threadId : String) : Option LedgerRow :=
  (ledger.filter fun row => row.threadId = threadId).argmax LedgerRow.decidedAt

def readDecisionForThread (ledger : Ledger) (threadId : String) :
    Except CheckpointStoreError (Option DecisionRow) :=
  match newestRow ledger threadId with
  | none => .ok none
  | some row =>
      match DecisionRow.validate row with
      | some decision => .ok (some decision)
      | none => .error ⟨.storeUnavailable,
          "owner_decisions holds an unreadable row for " ++ threadId⟩

def LedgerRow.of (threadId checkpointId : String) (d : OwnerDecision) (decidedAt : Time) :
    LedgerRow :=
  ⟨threadId, checkpointId, d.decision.text, d.rejectionNote, decidedAt⟩

theorem DecisionRow.validate_of (threadId checkpointId : String) (d : OwnerDecision)
    (decidedAt : Time) :
    DecisionRow.validate (LedgerRow.of threadId checkpointId d decidedAt) =
      some ⟨threadId, checkpointId, d.decision, d.rejectionNote, decidedAt,
        rowPaired_of_paired d.paired⟩ := by
  simp [DecisionRow.validate, LedgerRow.of, rowPaired_of_paired d.paired]

/-- One `INSERT`, refused when the primary key is taken. -/
def recordDecisionBeforeResume (ledger : Ledger) (threadId checkpointId : String)
    (d : OwnerDecision) (decidedAt : Time) : Except CheckpointStoreError Unit × Ledger :=
  if ledger.any fun row => row.threadId = threadId && row.checkpointId = checkpointId then
    (.error ⟨.conflictingDecision,
      threadId ++ " already has a recorded decision for checkpoint " ++ checkpointId⟩, ledger)
  else (.ok (), ledger ++ [LedgerRow.of threadId checkpointId d decidedAt])

theorem newestRow_mem {ledger : Ledger} {threadId : String} {row : LedgerRow}
    (h : newestRow ledger threadId = some row) : row ∈ ledger ∧ row.threadId = threadId := by
  have hmem := List.argmax_mem h
  simpa using hmem

theorem newestRow_eq_none {ledger : Ledger} {threadId : String} :
    newestRow ledger threadId = none ↔ ∀ row ∈ ledger, row.threadId ≠ threadId := by
  simp [newestRow, List.argmax_eq_none]

end OwnerDecisions

section ReportReference

/-- A `PurePosixPath`: its root and its parts. -/
structure PurePath where
  root : String
  parts : List (List Char)
  deriving DecidableEq, Repr

def splitSlash : List Char → List (List Char)
  | [] => [[]]
  | c :: rest =>
      if c = '/' then [] :: splitSlash rest
      else
        match splitSlash rest with
        | [] => [[c]]
        | part :: parts => (c :: part) :: parts

def pathRoot : List Char → String
  | '/' :: '/' :: '/' :: _ => "/"
  | '/' :: '/' :: _ => "//"
  | '/' :: _ => "/"
  | _ => ""

/-- `Path(text)`: empty parts and single dots are dropped. -/
def PurePath.parse (text : String) : PurePath where
  root := pathRoot text.toList
  parts := (splitSlash text.toList).filter fun part => part ≠ [] && part ≠ ['.']

/-- `path / name` for a plain file name. -/
def PurePath.child (path : PurePath) (name : String) : PurePath :=
  { path with parts := path.parts ++ [name.toList] }

def validateReportReference (investigationId reportArtifact : String) :
    Except String PurePath :=
  let relativePath := PurePath.parse reportArtifact
  let expectedPath := (PurePath.parse investigationId).child "report.md"
  if relativePath ≠ expectedPath then
    .error "report_artifact must be the investigation's own report.md"
  else if relativePath.root ≠ "" || relativePath.parts.contains ['.', '.'] then
    .error "report_artifact must stay beneath the artifact root"
  else .ok relativePath

/-- `read_report_snapshot`, the descriptor walk itself given by the surroundings. -/
def readReportSnapshot (reportFile : Except String String)
    (investigationId reportArtifact : String) : Except Refusal String :=
  match validateReportReference investigationId reportArtifact with
  | .error message => .error (.value message)
  | .ok _ => reportFile.mapError .value

theorem readReportSnapshot_ok {reportFile : Except String String}
    {investigationId reportArtifact content : String}
    (h : readReportSnapshot reportFile investigationId reportArtifact = .ok content) :
    ∃ path, validateReportReference investigationId reportArtifact = .ok path := by
  cases hpath : validateReportReference investigationId reportArtifact with
  | ok path => exact ⟨path, rfl⟩
  | error message => simp [readReportSnapshot, hpath] at h

theorem readReportSnapshot_error {reportFile : Except String String}
    {investigationId reportArtifact : String} {e : Refusal}
    (h : readReportSnapshot reportFile investigationId reportArtifact = .error e) :
    ∃ message, e = .value message := by
  cases hpath : validateReportReference investigationId reportArtifact with
  | error message =>
      simp only [readReportSnapshot, hpath, Except.error.injEq] at h
      exact ⟨message, h.symm⟩
  | ok path =>
      cases reportFile with
      | ok content => simp [readReportSnapshot, hpath, Except.mapError] at h
      | error message =>
          simp only [readReportSnapshot, hpath, Except.mapError, Except.error.injEq] at h
          exact ⟨message, h.symm⟩

end ReportReference

end CausalOps.ControlPlane
