import CausalOps.ControlPlane.Sqlite.Alone
import CausalOps.ControlPlane.Firestore

set_option autoImplicit false

/-! Rows and the documents that mirror them. A document counts its job or delivery from
zero where the rowid counts from one; the order in which the events of different jobs
were written is not kept. -/

namespace CausalOps.ControlPlane.Mirror

open Sqlite (Keys)

def jobDoc (row : Sqlite.JobRow) : Firestore.JobDoc := ⟨row.toJob, row.rowid - 1⟩
def deliveryDoc (row : Sqlite.DeliveryRow) : Firestore.DeliveryDoc :=
  ⟨row.toDelivery, row.rowid - 1⟩
def decisionDoc (row : Sqlite.MirrorRow) : Firestore.DecisionDoc :=
  ⟨row.toDecisionColumns, row.jobId⟩

theorem jobDoc_key (row : Sqlite.JobRow) :
    Firestore.JobDoc.key (jobDoc row) = row.key := rfl

theorem deliveryDoc_key (row : Sqlite.DeliveryRow) :
    Firestore.DeliveryDoc.key (deliveryDoc row) = row.key := rfl

section Queries

variable {now : Time}

@[simp] theorem jobDoc_toJob (row : Sqlite.JobRow) : (jobDoc row).toJob = row.toJob := rfl
@[simp] theorem deliveryDoc_toDelivery (row : Sqlite.DeliveryRow) :
    (deliveryDoc row).toDelivery = row.toDelivery := rfl
@[simp] theorem selects_owner (owner : String) (row : Sqlite.JobRow) :
    (Firestore.JobQuery.owner owner).selects (jobDoc row) = decide (row.owner = owner) := rfl
@[simp] theorem selects_status (wanted : JobStatus) (row : Sqlite.JobRow) :
    (Firestore.JobQuery.status wanted).selects (jobDoc row) = decide (row.status = wanted) := rfl
@[simp] theorem selects_incident (incident : String) (row : Sqlite.JobRow) :
    (Firestore.JobQuery.incident incident).selects (jobDoc row) =
      decide (row.incidentId = some incident) := rfl
@[simp] theorem selects_delivery (wanted : DeliveryStatus) (row : Sqlite.DeliveryRow) :
    (Firestore.DeliveryQuery.status wanted).selects (deliveryDoc row) =
      decide (row.status = wanted) := rfl
@[simp] theorem deferred_jobDoc (row : Sqlite.JobRow) :
    Firestore.deferredScenario now (jobDoc row) =
      (row.incidentId.isSome && decide (now < row.availableAt)) := rfl

end Queries

/-- The two stores hold the same jobs, decisions, deliveries and timelines. -/
structure Coupled (db : Sqlite.Database) (fs : Firestore.Database) : Prop where
  jobs : fs.jobs = db.jobs.map jobDoc
  decisions : fs.decisions = db.decisions.map decisionDoc
  deliveries : fs.deliveries = db.deliveries.map deliveryDoc
  timelines : ∀ id, fs.timeline id = db.timeline id

theorem coupled_empty : Coupled .empty .empty := ⟨rfl, rfl, rfl, fun _ => rfl⟩

section Coupled

variable {db : Sqlite.Database} {fs : Firestore.Database} {id : String}

theorem Coupled.job (hcoupled : Coupled db fs) (id : String) :
    fs.job id = (db.job id).map jobDoc := by
  rw [Firestore.Database.job, hcoupled.jobs]
  exact Rows.lookup_map (fun _ => rfl) id

theorem Coupled.decision (hcoupled : Coupled db fs) (id : String) :
    fs.decision id = (db.decision id).map decisionDoc := by
  rw [Firestore.Database.decision, hcoupled.decisions]
  exact Rows.lookup_map (fun _ => rfl) id

theorem Coupled.delivery (hcoupled : Coupled db fs) (id : String) :
    fs.delivery id = (db.delivery id).map deliveryDoc := by
  rw [Firestore.Database.delivery, hcoupled.deliveries]
  exact Rows.lookup_map (fun _ => rfl) id

theorem Coupled.setJob (hkeys : Keys db) (hcoupled : Coupled db fs) {row : Sqlite.JobRow}
    (hrow : db.job id = some row) {job : Job} (hid : job.id = row.id) :
    Coupled (db.setJob id job) (fs.write (.job ⟨job, row.rowid - 1⟩)) := by
  refine ⟨?_, hcoupled.decisions, hcoupled.deliveries, hcoupled.timelines⟩
  have hkeyed : Rows.Keyed Firestore.JobDoc.key fs.jobs := by
    rw [hcoupled.jobs]
    exact hkeys.jobs.map fun _ => rfl
  have hdoc : Rows.lookup Firestore.JobDoc.key id fs.jobs = some (jobDoc row) := by
    have hfound := hcoupled.job id
    rw [hrow] at hfound
    exact hfound
  have hput := Rows.put_of_lookup hkeyed hdoc (fun doc => { doc with toJob := job })
    (hid.trans (Sqlite.job_id hrow))
  have hchange : ∀ r : Sqlite.JobRow, r.key = id →
      jobDoc { r with toJob := job } = { jobDoc r with toJob := job } := fun _ _ => rfl
  have hmap : (db.setJob id job).jobs.map jobDoc =
      Rows.modify Firestore.JobDoc.key id (fun doc => { doc with toJob := job })
        (db.jobs.map jobDoc) :=
    Rows.map_modify jobDoc_key hchange
  rw [hmap, ← hcoupled.jobs]
  exact hput

theorem Coupled.setDelivery (hkeys : Keys db) (hcoupled : Coupled db fs)
    {row : Sqlite.DeliveryRow} (hrow : db.delivery id = some row) {delivery : Delivery}
    (hid : delivery.jobId = row.jobId) :
    Coupled (db.setDelivery id delivery) (fs.write (.delivery ⟨delivery, row.rowid - 1⟩)) := by
  refine ⟨hcoupled.jobs, hcoupled.decisions, ?_, hcoupled.timelines⟩
  have hkeyed : Rows.Keyed Firestore.DeliveryDoc.key fs.deliveries := by
    rw [hcoupled.deliveries]
    exact hkeys.deliveries.map fun _ => rfl
  have hdoc : Rows.lookup Firestore.DeliveryDoc.key id fs.deliveries =
      some (deliveryDoc row) := by
    have hfound := hcoupled.delivery id
    rw [hrow] at hfound
    exact hfound
  have hput := Rows.put_of_lookup hkeyed hdoc (fun doc => { doc with toDelivery := delivery })
    (hid.trans (Sqlite.delivery_jobId hrow))
  have hchange : ∀ r : Sqlite.DeliveryRow, r.key = id →
      deliveryDoc { r with toDelivery := delivery } =
        { deliveryDoc r with toDelivery := delivery } := fun _ _ => rfl
  have hmap : (db.setDelivery id delivery).deliveries.map deliveryDoc =
      Rows.modify Firestore.DeliveryDoc.key id (fun doc => { doc with toDelivery := delivery })
        (db.deliveries.map deliveryDoc) :=
    Rows.map_modify deliveryDoc_key hchange
  rw [hmap, ← hcoupled.deliveries]
  exact hput

/-- Ordinals without gaps: the number of events is the number of the next one. -/
theorem Coupled.event (hcoupled : Coupled db fs) (o : Occurrence)
    (hordinals : (db.timeline id).map TimelineEvent.ordinal =
      List.range (db.timeline id).length) :
    Coupled (db.event id o) (fs.record id o) := by
  have habsent : Rows.lookup Firestore.EventDoc.key
      (Firestore.EventDoc.key (fs.nextEvent id o)) fs.events = none := by
    refine Rows.lookup_eq_none.2 fun doc hdoc hkey => ?_
    obtain ⟨hjob, hordinal⟩ : doc.jobId = id ∧ doc.ordinal = (fs.timeline id).length :=
      Prod.mk.inj hkey
    have hmem : doc.toTimelineEvent ∈ fs.timeline id :=
      List.mem_map.2 ⟨doc, List.mem_filter.2 ⟨hdoc, by simpa using hjob⟩, rfl⟩
    rw [hcoupled.timelines] at hmem hordinal
    have hrange : doc.ordinal ∈ (db.timeline id).map TimelineEvent.ordinal :=
      List.mem_map.2 ⟨_, hmem, rfl⟩
    rw [hordinals, List.mem_range, hordinal] at hrange
    exact Nat.lt_irrefl _ hrange
  have hevents : (fs.record id o).events = fs.events ++ [fs.nextEvent id o] :=
    Rows.put_of_absent habsent
  refine ⟨hcoupled.jobs, hcoupled.decisions, hcoupled.deliveries, fun other => ?_⟩
  have htimeline : (fs.record id o).timeline other =
      if id = other then fs.timeline other ++ [⟨(fs.timeline id).length, o.name, o.fields⟩]
      else fs.timeline other := by
    simp only [Firestore.Database.timeline, hevents, Firestore.Database.nextEvent]
    by_cases h : id = other <;> simp [h]
  rw [htimeline, Sqlite.timeline_event, hcoupled.timelines, hcoupled.timelines]
  by_cases h : id = other
  · subst h
    simp [Sqlite.nextOrdinal_eq hordinals]
  · simp [h]

theorem Coupled.insertJob (hcoupled : Coupled db fs) {job : Job}
    (hrowids : db.jobs.map Sqlite.JobRow.rowid = List.range' 1 db.jobs.length)
    (habsent : db.job job.id = none) :
    Coupled (db.insertJob job) (fs.write (.job ⟨job, fs.jobs.length⟩)) := by
  refine ⟨?_, hcoupled.decisions, hcoupled.deliveries, hcoupled.timelines⟩
  have hfresh : Rows.lookup Firestore.JobDoc.key job.id fs.jobs = none := by
    have hnone := hcoupled.job job.id
    rw [habsent] at hnone
    exact hnone
  have hrowid : Sqlite.nextRowid (db.jobs.map Sqlite.JobRow.rowid) = db.jobs.length + 1 := by
    have hcount : db.jobs.map Sqlite.JobRow.rowid =
        List.range' 1 (db.jobs.map Sqlite.JobRow.rowid).length := by
      simpa using hrowids
    simpa using Sqlite.nextRowid_eq hcount
  refine (Rows.put_of_absent hfresh).trans ?_
  simp [hcoupled.jobs, Sqlite.Database.insertJob, jobDoc, hrowid]

theorem Coupled.insertDelivery (hcoupled : Coupled db fs) {delivery : Delivery}
    (hrowids : db.deliveries.map Sqlite.DeliveryRow.rowid =
      List.range' 1 db.deliveries.length)
    (habsent : db.delivery delivery.jobId = none) :
    Coupled (db.insertDelivery delivery)
      (fs.write (.delivery ⟨delivery, fs.deliveries.length⟩)) := by
  refine ⟨hcoupled.jobs, hcoupled.decisions, ?_, hcoupled.timelines⟩
  have hfresh : Rows.lookup Firestore.DeliveryDoc.key delivery.jobId fs.deliveries = none := by
    have hnone := hcoupled.delivery delivery.jobId
    rw [habsent] at hnone
    exact hnone
  have hrowid : Sqlite.nextRowid (db.deliveries.map Sqlite.DeliveryRow.rowid) =
      db.deliveries.length + 1 := by
    have hcount : db.deliveries.map Sqlite.DeliveryRow.rowid =
        List.range' 1 (db.deliveries.map Sqlite.DeliveryRow.rowid).length := by
      simpa using hrowids
    simpa using Sqlite.nextRowid_eq hcount
  refine (Rows.put_of_absent hfresh).trans ?_
  simp [hcoupled.deliveries, Sqlite.Database.insertDelivery, deliveryDoc, hrowid]

theorem Coupled.insertMirror (hcoupled : Coupled db fs) {c : String} {d : OwnerDecision}
    (habsent : db.decision id = none) :
    Coupled (Sqlite.insertMirror db id c d) (fs.write (.decision ⟨.of c d, id⟩)) := by
  refine ⟨hcoupled.jobs, ?_, hcoupled.deliveries, hcoupled.timelines⟩
  have hfresh : Rows.lookup Firestore.DecisionDoc.key id fs.decisions = none := by
    have hnone := hcoupled.decision id
    rw [habsent] at hnone
    exact hnone
  refine (Rows.put_of_absent hfresh).trans ?_
  simp [hcoupled.decisions, Sqlite.insertMirror, decisionDoc]

end Coupled

end CausalOps.ControlPlane.Mirror
