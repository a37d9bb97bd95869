import CausalOps.ControlPlane.Threads
import CausalOps.ControlPlane.Sqlite.Records

set_option autoImplicit false

/-! The SQLite control plane seen one investigation at a time: every move is a step of one
investigation and leaves the others as they are. Attempts are bounded over whole runs. -/

namespace CausalOps.ControlPlane.Sqlite

def Database.thread (db : Database) (id : String) : Thread where
  job := (db.job id).map JobRow.toJob
  delivery := (db.delivery id).map DeliveryRow.toDelivery
  timeline := db.timeline id

section Moves

variable {s : Settings} {rules : Rules} {db db' : Database} {id : String}

theorem thread_of_job {row : JobRow} (hrow : db.job id = some row) :
    (db.thread id).job = some row.toJob := by
  simp [Database.thread, hrow]

theorem thread_of_delivery {row : DeliveryRow} (hrow : db.delivery id = some row) :
    (db.thread id).delivery = some row.toDelivery := by
  simp [Database.thread, hrow]

/-- Under ordinals without gaps, an event goes to the end of its timeline. -/
theorem timeline_emit (hnumbered : ∀ id, Numbered (db.timeline id)) (o : Option Occurrence)
    (other : String) :
    (db.emit id o).timeline other =
      if id = other then appended (db.timeline other) o else db.timeline other := by
  cases o with
  | none => simp [Database.emit, appended]
  | some o => rw [Database.emit, timeline_event, nextOrdinal_eq (hnumbered other)]; rfl

theorem thread_setJob (hkeys : Keys db) {row : JobRow} (hrow : db.job id = some row) {job : Job}
    (hid : job.id = row.id) (other : String) :
    (db.setJob id job).thread other =
      if other = id then { db.thread other with job := some job } else db.thread other := by
  have hjob := @setJob_job db id hkeys row hrow job hid other
  have htimeline : (db.setJob id job).timeline other = db.timeline other := rfl
  have hdelivery : (db.setJob id job).delivery other = db.delivery other := rfl
  simp only [Database.thread, hjob, htimeline, hdelivery]
  split <;> rfl

theorem thread_setDelivery (hkeys : Keys db) {row : DeliveryRow}
    (hrow : db.delivery id = some row) {delivery : Delivery} (hid : delivery.jobId = row.jobId)
    (other : String) :
    (db.setDelivery id delivery).thread other =
      if other = id then { db.thread other with delivery := some delivery }
      else db.thread other := by
  have hdelivery := @setDelivery_delivery db id hkeys row hrow delivery hid other
  have htimeline : (db.setDelivery id delivery).timeline other = db.timeline other := rfl
  have hjob : (db.setDelivery id delivery).job other = db.job other := rfl
  simp only [Database.thread, hjob, htimeline, hdelivery]
  split <;> rfl

theorem thread_emit (hnumbered : ∀ id, Numbered (db.timeline id)) (o : Option Occurrence)
    (other : String) :
    (db.emit id o).thread other =
      if other = id then { db.thread other with timeline := appended (db.timeline other) o }
      else db.thread other := by
  have hjob : (db.emit id o).job other = db.job other := job_of_event other
  have hdelivery : (db.emit id o).delivery other = db.delivery other := by
    cases o <;> rfl
  simp only [Database.thread, hjob, hdelivery, timeline_emit hnumbered]
  by_cases h : other = id
  · simp [h]
  · have hne : ¬ id = other := fun heq => h heq.symm
    rw [if_neg h, if_neg hne]

theorem thread_event (hnumbered : ∀ id, Numbered (db.timeline id)) (o : Occurrence)
    (other : String) :
    (db.event id o).thread other =
      if other = id then
        { db.thread other with timeline := appended (db.timeline other) (some o) }
      else db.thread other :=
  thread_emit hnumbered (some o) other

theorem thread_insertJob (habsent : db.job id = none) {job : Job} (hid : job.id = id)
    (other : String) :
    (db.insertJob job).thread other =
      if other = id then { db.thread other with job := some job } else db.thread other := by
  have htimeline : (db.insertJob job).timeline other = db.timeline other := rfl
  have hdelivery : (db.insertJob job).delivery other = db.delivery other := rfl
  have hjob : (db.insertJob job).job other =
      (db.job other).or (if job.id = other then some ⟨job, _⟩ else none) := Rows.lookup_append
  simp only [Database.thread, htimeline, hdelivery, hjob]
  by_cases h : other = id
  · subst h
    simp [habsent, hid]
  · have hne : ¬ job.id = other := fun heq => h (heq.symm.trans hid)
    simp [h, hne]

theorem thread_insertDelivery (habsent : db.delivery id = none) {delivery : Delivery}
    (hid : delivery.jobId = id) (other : String) :
    (db.insertDelivery delivery).thread other =
      if other = id then { db.thread other with delivery := some delivery }
      else db.thread other := by
  have htimeline : (db.insertDelivery delivery).timeline other = db.timeline other := rfl
  have hjob : (db.insertDelivery delivery).job other = db.job other := rfl
  have hdelivery : (db.insertDelivery delivery).delivery other =
      (db.delivery other).or (if delivery.jobId = other then some ⟨delivery, _⟩ else none) :=
    Rows.lookup_append
  simp only [Database.thread, htimeline, hdelivery, hjob]
  by_cases h : other = id
  · subst h
    simp [habsent, hid]
  · have hne : ¬ delivery.jobId = other := fun heq => h (heq.symm.trans hid)
    simp [h, hne]

theorem thread_queueDecided (hkeys : Keys db) (hnumbered : ∀ id, Numbered (db.timeline id))
    {row : JobRow} (hrow : db.job id = some row) (c : String) (d : OwnerDecision)
    (other : String) :
    (queueDecided db id c d).thread other =
      if other = id then { db.thread other with
        job := some (queuedJob row.toJob)
        timeline := appended (db.timeline other)
          (some (.ownerDecisionRecorded c d.decision.text)) }
      else db.thread other := by
  have hset : (db.updateJob id fun row => { row with status := .queued }) =
      db.setJob id (queuedJob row.toJob) :=
    updateJob_eq_setJob hkeys hrow (fun r => { r with status := .queued }) rfl
  have hid : (queuedJob row.toJob).id = row.id := rfl
  rw [queueDecided, hset, thread_event, thread_setJob hkeys hrow hid]
  · split <;> rfl
  · exact hnumbered

/-- Every move is a step of one investigation, and leaves the others as they are. -/
theorem Move.thread (hkeys : Keys db) (hnumbered : ∀ id, Numbered (db.timeline id))
    (h : Move s rules db db') (id : String) :
    db'.thread id = db.thread id ∨ Thread.Step s (db.thread id) (db'.thread id) := by
  cases h with
  | created fresh owner family key habsent hkey =>
      have hid : (newJob fresh owner family key).id = fresh.hex := rfl
      have hinserted : ∀ other, Numbered
          ((db.insertJob (newJob fresh owner family key)).timeline other) := hnumbered
      rw [thread_event hinserted, thread_insertJob habsent hid]
      by_cases h : id = fresh.hex
      · refine .inr ?_
        rw [if_pos h, if_pos h]
        exact .created fresh owner family key (by rw [h]; simp [Database.thread, habsent])
      · exact .inl (by rw [if_neg h, if_neg h])
  | @job other row job o hrow hstep =>
      have hset : ∀ third, Numbered ((db.setJob other job).timeline third) := hnumbered
      rw [thread_emit hset, thread_setJob hkeys hrow hstep.keeps.1]
      by_cases h : id = other
      · subst h
        rw [if_pos rfl, if_pos rfl]
        exact .inr (.job (thread_of_job hrow) ⟨rules, db, hstep⟩)
      · exact .inl (by rw [if_neg h, if_neg h])
  | @decided other c row d hrow hpaused hcheckpoint hpresent hrecorded hnone =>
      have hrow' : (insertMirror db other c d).job other = some row := hrow
      have hset : ∀ third, Numbered ((insertMirror db other c d).timeline third) := hnumbered
      rw [thread_queueDecided (insertMirror_keys hkeys hnone) hset hrow']
      by_cases h : id = other
      · subst h
        rw [if_pos rfl]
        exact .inr (.decided c d.decision.text (thread_of_job hrow) hpaused)
      · exact .inl (by rw [if_neg h]; rfl)
  | @redecided other c row d mirrored hrow hpaused hcheckpoint hpresent hrecorded hmirrored =>
      rw [thread_queueDecided hkeys hnumbered hrow]
      by_cases h : id = other
      · subst h
        rw [if_pos rfl]
        exact .inr (.decided c d.decision.text (thread_of_job hrow) hpaused)
      · exact .inl (by rw [if_neg h])
  | @finalized other artifact content row path hrow hrunning hpath hblank habsent =>
      have hid : (completedJob s row.toJob artifact content).id = row.id := rfl
      have hset : ∀ third, Numbered (((db.setJob other
          (completedJob s row.toJob artifact content)).insertDelivery
            (newDelivery row.toJob)).timeline third) := hnumbered
      have hnone : (db.setJob other (completedJob s row.toJob artifact content)).delivery other =
          none := habsent
      rw [thread_event hset, thread_insertDelivery hnone (job_id hrow),
        thread_setJob hkeys hrow hid]
      by_cases h : id = other
      · subst h
        rw [if_pos rfl, if_pos rfl, if_pos rfl]
        exact .inr (.finalized artifact content (thread_of_job hrow) hrunning)
      · exact .inl (by rw [if_neg h, if_neg h, if_neg h])
  | @delivery other row delivery o hrow hstep =>
      have hset : ∀ third, Numbered ((db.setDelivery other delivery).timeline third) := hnumbered
      rw [thread_emit hset, thread_setDelivery hkeys hrow hstep.keeps.1]
      by_cases h : id = other
      · subst h
        rw [if_pos rfl, if_pos rfl]
        exact .inr (.delivery (thread_of_delivery hrow) hstep)
      · exact .inl (by rw [if_neg h, if_neg h])

theorem Moves.thread (hkeys : Keys db) (horderly : Orderly s db) (h : Moves s rules db db')
    (id : String) : Thread.Steps s (db.thread id) (db'.thread id) := by
  induction h with
  | refl => exact .refl
  | tail hmoves hmove ih =>
      obtain ⟨hkeys', horderly'⟩ := Moves.preserve
        (fun _ _ hkeys horderly hmove => horderly.move hkeys hmove) hmoves hkeys horderly
      rcases hmove.thread hkeys' horderly'.ordinals id with hsame | hstep
      · rw [hsame]
        exact ih
      · exact ih.tail hstep

end Moves

end CausalOps.ControlPlane.Sqlite
