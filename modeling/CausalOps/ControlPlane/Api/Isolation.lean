import CausalOps.Library.Noninterference
import CausalOps.ControlPlane.Api

set_option autoImplicit false

/-! Owners are isolated from each other: what one owner is answered does not depend on the
requests of the others. -/

namespace CausalOps.ControlPlane.Api

open Sqlite

section Slices

structure Slice where
  thread : Thread
  decision : Option MirrorRow
  ledger : List LedgerRow

def ledgerOf (ledger : Ledger) (id : String) : List LedgerRow :=
  ledger.filter fun row => row.threadId = id

def slice (store : Store) (id : String) : Slice :=
  ⟨store.control.thread id, store.control.decision id, ledgerOf store.ledger id⟩

def Unused (store : Store) (id : String) : Prop := slice store id = ⟨.absent, none, []⟩

/-- The jobs of an owner, in the order of their rows. -/
def ownedJobs (db : Database) (owner : String) : List Job :=
  (db.jobs.filter fun row => row.owner = owner).map JobRow.toJob

theorem mem_ownedJobs {db : Database} {owner : String} {job : Job} :
    job ∈ ownedJobs db owner ↔ ∃ row ∈ db.jobs, row.owner = owner ∧ row.toJob = job := by
  simp [ownedJobs, and_assoc]

/-- `_owned`, seen through the jobs of the owner. -/
theorem owned_map (db : Database) (owner id : String) :
    (owned db owner id).map JobRow.toJob =
      match (ownedJobs db owner).find? fun job => job.id = id with
      | some job => .ok job
      | none => .error (.notFound "investigation not found") := by
  have hfind : (ownedJobs db owner).find? (fun job => decide (job.id = id)) =
      (db.jobs.find? fun row => row.id = id && row.owner = owner).map JobRow.toJob := by
    rw [ownedJobs, List.find?_map, List.find?_filter]
    congr 2
    funext row
    simp [Bool.and_comm]
  rw [hfind, owned]
  cases db.jobs.find? fun row => row.id = id && row.owner = owner <;> rfl

theorem slice_congr {store after : Store} (hcontrol : after.control = store.control)
    (hledger : after.ledger = store.ledger) (id : String) : slice after id = slice store id := by
  simp [slice, hcontrol, hledger]

theorem not_unused_of_job {store : Store} {id : String} {job : Job}
    (h : (store.control.thread id).job = some job) : ¬ Unused store id := by
  intro hunused
  have hthread := congrArg Slice.thread hunused
  change store.control.thread id = Thread.absent at hthread
  rw [hthread] at h
  cases h

end Slices

section Agreement

variable {s : Settings} {owner id : String} {store store' after after' : Store}

/-- As far as an owner can tell, two stores are the same. The second may lack what others
have stored in the first. -/
structure Agree (s : Settings) (owner : String) (store store' : Store) : Prop where
  governed : Governed s store.control
  governed' : Governed s store'.control
  jobs : ownedJobs store.control owner = ownedJobs store'.control owner
  slices : ∀ job ∈ ownedJobs store.control owner, slice store job.id = slice store' job.id
  unused : ∀ id, Unused store id → Unused store' id

/-- A call changed one investigation and nothing else. -/
structure Touches (id : String) (store after : Store) : Prop where
  others : ∀ other, other ≠ id → slice after other = slice store other
  used : ¬ Unused after id
  jobs : ∀ owner, ownedJobs after.control owner =
    (ownedJobs store.control owner).map fun job =>
      if job.id = id then ((after.control.thread id).job.getD job) else job

theorem Agree.refl (h : Governed s store.control) : Agree s owner store store :=
  ⟨h, h, rfl, fun _ _ => rfl, fun _ hunused => hunused⟩

theorem Agree.kept (h : Agree s owner store store') (hcontrol : after.control = store.control)
    (hledger : after.ledger = store.ledger) : Agree s owner after store' where
  governed := hcontrol ▸ h.governed
  governed' := h.governed'
  jobs := hcontrol ▸ h.jobs
  slices job hjob := (slice_congr hcontrol hledger _).trans (h.slices job (hcontrol ▸ hjob))
  unused id hunused := h.unused id ((slice_congr hcontrol hledger id).symm.trans hunused)

theorem Agree.kept' (h : Agree s owner store store')
    (hcontrol : after'.control = store'.control) (hledger : after'.ledger = store'.ledger) :
    Agree s owner store after' where
  governed := h.governed
  governed' := hcontrol ▸ h.governed'
  jobs := hcontrol ▸ h.jobs
  slices job hjob := (h.slices job hjob).trans (slice_congr hcontrol hledger _).symm
  unused id hunused := (slice_congr hcontrol hledger id).trans (h.unused id hunused)

theorem Touches.unused (h : Touches id store after) {other : String}
    (hunused : Unused after other) : other ≠ id ∧ Unused store other := by
  have hne : other ≠ id := by
    rintro rfl
    exact h.used hunused
  exact ⟨hne, (h.others other hne).symm.trans hunused⟩

theorem thread_job_id {db : Database} {job : Job} (h : (db.thread id).job = some job) :
    job.id = id := by
  simp only [Database.thread, Option.map_eq_some_iff] at h
  obtain ⟨row, hrow, rfl⟩ := h
  exact job_id hrow

theorem Touches.mem_jobs (h : Touches id store after) {job : Job}
    (hjob : job ∈ ownedJobs after.control owner) :
    ∃ old ∈ ownedJobs store.control owner, old.id = job.id := by
  rw [h.jobs, List.mem_map] at hjob
  obtain ⟨old, hold, rfl⟩ := hjob
  refine ⟨old, hold, ?_⟩
  split
  · rename_i hid
    cases hnew : (after.control.thread id).job with
    | none => rfl
    | some new => rw [Option.getD_some, thread_job_id hnew, hid]
  · rfl

theorem Agree.touched (h : Agree s owner store store') (htouch : Touches id store after)
    (hgoverned : Governed s after.control)
    (hothers : ∀ job ∈ ownedJobs store.control owner, job.id ≠ id) :
    Agree s owner after store' := by
  have hjobs : ownedJobs after.control owner = ownedJobs store.control owner := by
    rw [htouch.jobs]
    conv_rhs => rw [← List.map_id (ownedJobs store.control owner)]
    exact List.map_congr_left fun job hjob => if_neg (hothers job hjob)
  refine ⟨hgoverned, h.governed', hjobs.trans h.jobs, ?_, ?_⟩
  · intro job hjob
    rw [hjobs] at hjob
    exact (htouch.others _ (hothers job hjob)).trans (h.slices job hjob)
  · exact fun other hunused => h.unused other (htouch.unused hunused).2

theorem Agree.touched_both (h : Agree s owner store store') (htouch : Touches id store after)
    (htouch' : Touches id store' after') (hgoverned : Governed s after.control)
    (hgoverned' : Governed s after'.control) (hslice : slice after id = slice after' id) :
    Agree s owner after after' := by
  have hthread : after.control.thread id = after'.control.thread id :=
    congrArg Slice.thread hslice
  refine ⟨hgoverned, hgoverned', ?_, ?_, ?_⟩
  · rw [htouch.jobs, htouch'.jobs, h.jobs, hthread]
  · intro job hjob
    by_cases hid : job.id = id
    · rw [hid]
      exact hslice
    · obtain ⟨old, hold, hsame⟩ := htouch.mem_jobs hjob
      rw [htouch.others _ hid, htouch'.others _ hid, ← hsame]
      exact h.slices old hold
  · intro other hunused
    obtain ⟨hne, hbefore⟩ := htouch.unused hunused
    exact (htouch'.others other hne).trans (h.unused other hbefore)

end Agreement

section Ledger

variable {α : Type} {id : String}

/-- A program that only uses the ledger, and only for one thread. -/
def UsesThread (id : String) : Prog α → Prop
  | .ret _ => True
  | .raise _ => True
  | .call (.readDecision threadId) next => threadId = id ∧ ∀ r, UsesThread id (next r)
  | .call (.recordDecision threadId _ _ _) next => threadId = id ∧ ∀ r, UsesThread id (next r)
  | .call .begin _ => False
  | .call (.commit _ _) _ => False

theorem newestRow_ledgerOf (ledger : Ledger) (id : String) :
    newestRow ledger id = (ledgerOf ledger id).argmax LedgerRow.decidedAt := rfl

theorem readDecision_congr {ledger ledger' : Ledger}
    (h : ledgerOf ledger id = ledgerOf ledger' id) :
    readDecisionForThread ledger id = readDecisionForThread ledger' id := by
  simp only [readDecisionForThread, newestRow_ledgerOf, h]

theorem recordDecision_congr {ledger ledger' : Ledger} {checkpointId : String}
    {d : OwnerDecision} {decidedAt : Time} (h : ledgerOf ledger id = ledgerOf ledger' id) :
    (recordDecisionBeforeResume ledger id checkpointId d decidedAt).1 =
        (recordDecisionBeforeResume ledger' id checkpointId d decidedAt).1 ∧
      ledgerOf (recordDecisionBeforeResume ledger id checkpointId d decidedAt).2 id =
        ledgerOf (recordDecisionBeforeResume ledger' id checkpointId d decidedAt).2 id := by
  have hany : ∀ rows : Ledger,
      (rows.any fun row => row.threadId = id && row.checkpointId = checkpointId) =
        (ledgerOf rows id).any fun row => row.checkpointId = checkpointId := by
    intro rows
    simp [ledgerOf, List.any_filter]
  have hsame : (ledger.any fun row => row.threadId = id && row.checkpointId = checkpointId) =
      ledger'.any fun row => row.threadId = id && row.checkpointId = checkpointId := by
    rw [hany, hany, h]
  simp only [recordDecisionBeforeResume, hsame]
  split
  · exact ⟨rfl, h⟩
  · refine ⟨rfl, ?_⟩
    simp only [ledgerOf, List.filter_append] at h ⊢
    rw [h]

theorem recordDecision_others {ledger : Ledger} {checkpointId other : String}
    {d : OwnerDecision} {decidedAt : Time} (hne : other ≠ id) :
    ledgerOf (recordDecisionBeforeResume ledger id checkpointId d decidedAt).2 other =
      ledgerOf ledger other := by
  simp only [recordDecisionBeforeResume]
  split
  · rfl
  · simp [ledgerOf, LedgerRow.of, hne.symm]

/-- What such a program returns and writes follows from the rows of its thread. -/
theorem UsesThread.run {p : Prog α} (h : UsesThread id p) (store store' : Store)
    (hledger : ledgerOf store.ledger id = ledgerOf store'.ledger id) :
    ∃ outcome ledger ledger',
      p.run exec store = (outcome, { store with ledger := ledger }) ∧
        p.run exec store' = (outcome, { store' with ledger := ledger' }) ∧
          ledgerOf ledger id = ledgerOf ledger' id ∧
            (∀ other, other ≠ id → ledgerOf ledger other = ledgerOf store.ledger other) ∧
              ∀ other, other ≠ id → ledgerOf ledger' other = ledgerOf store'.ledger other := by
  induction p generalizing store store' with
  | ret a =>
      exact ⟨.ok a, store.ledger, store'.ledger, rfl, rfl, hledger, fun _ _ => rfl,
        fun _ _ => rfl⟩
  | raise e =>
      exact ⟨.error e, store.ledger, store'.ledger, rfl, rfl, hledger, fun _ _ => rfl,
        fun _ _ => rfl⟩
  | call op next ih =>
      cases op with
      | begin => exact h.elim
      | commit db reply => exact h.elim
      | readDecision threadId =>
          obtain ⟨rfl, hnext⟩ := h
          simp only [Program.run_call, exec]
          rw [readDecision_congr hledger]
          exact ih _ (hnext _) store store' hledger
      | recordDecision threadId checkpointId d decidedAt =>
          obtain ⟨rfl, hnext⟩ := h
          obtain ⟨hresult, hrows⟩ := @recordDecision_congr threadId store.ledger store'.ledger
            checkpointId d decidedAt hledger
          simp only [Program.run_call, exec]
          rw [hresult]
          obtain ⟨outcome, ledger, ledger', hrun, hrun', hsame, hothers, hothers'⟩ :=
            ih _ (hnext _)
              { store with ledger :=
                (recordDecisionBeforeResume store.ledger threadId checkpointId d decidedAt).2 }
              { store' with ledger :=
                (recordDecisionBeforeResume store'.ledger threadId checkpointId d decidedAt).2 }
              hrows
          exact ⟨outcome, ledger, ledger', hrun, hrun', hsame,
            fun other hne => (hothers other hne).trans (recordDecision_others hne),
            fun other hne => (hothers' other hne).trans (recordDecision_others hne)⟩

theorem UsesThread.bind {β : Type} {p : Prog α} (h : UsesThread id p) {f : α → Prog β}
    (hnext : ∀ a, UsesThread id (f a)) : UsesThread id (p >>= f) := by
  induction p with
  | ret a => exact hnext a
  | raise e => trivial
  | call op next ih =>
      cases op with
      | begin => exact h.elim
      | commit db reply => exact h.elim
      | readDecision threadId => exact ⟨h.1, fun r => ih r (h.2 r)⟩
      | recordDecision threadId checkpointId d decidedAt => exact ⟨h.1, fun r => ih r (h.2 r)⟩

theorem ensureLedgerDecision_usesThread (utcNow : Time) (checkpointId : String)
    (d : OwnerDecision) : UsesThread id (ensureLedgerDecision utcNow id checkpointId d) := by
  refine ⟨rfl, ?_⟩
  rintro (e | (_ | existing))
  · trivial
  · refine ⟨rfl, ?_⟩
    rintro (e | -)
    · refine ⟨rfl, ?_⟩
      rintro (e | (_ | existing))
      · trivial
      · trivial
      · dsimp only
        split <;> trivial
    · trivial
  · dsimp only
    split
    · trivial
    · split <;> trivial

end Ledger

end CausalOps.ControlPlane.Api
