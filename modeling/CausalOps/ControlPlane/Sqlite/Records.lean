import CausalOps.ControlPlane.Sqlite.Fencing

set_option autoImplicit false

/-! The records that the SQLite control plane builds up: rowids and ordinals without
gaps, one job for each idempotency key, incident ids, finished reports, and deliveries
of completed jobs. -/

namespace CausalOps.ControlPlane.Sqlite

def Finished (s : Settings) (job : Job) : Prop :=
  ∃ artifact content path, job.reportArtifact = some artifact ∧ artifact ≠ "" ∧
    job.reportContent = some content ∧ job.reportSha256 = some (s.sha256 content) ∧
      validateReportReference job.id artifact = .ok path

structure Orderly (s : Settings) (db : Database) : Prop where
  rowids : db.jobs.map JobRow.rowid = List.range' 1 db.jobs.length
  deliveryRowids : db.deliveries.map DeliveryRow.rowid = List.range' 1 db.deliveries.length
  ordinals : ∀ id, (db.timeline id).map TimelineEvent.ordinal =
    List.range (db.timeline id).length
  requests : ∀ a ∈ db.jobs, ∀ b ∈ db.jobs, a.owner = b.owner →
    a.idempotencyKey = b.idempotencyKey → a = b
  identifiers : ∀ row ∈ db.jobs, ∃ fresh : Uuid, row.id = fresh.hex
  incidents : ∀ row ∈ db.jobs, ∀ incident, row.incidentId = some incident →
    incident = scenarioIncident row.id
  finished : ∀ row ∈ db.jobs, row.status = .completed → Finished s row.toJob
  delivered : ∀ d ∈ db.deliveries, ∃ row, db.job d.jobId = some row ∧
    row.status = .completed

section Lemmas

variable {s : Settings} {rules : Rules} {db db' : Database} {id : String}

theorem orderly_empty : Orderly s .empty :=
  ⟨rfl, rfl, fun _ => rfl, by simp [Database.empty], by simp [Database.empty],
    by simp [Database.empty], by simp [Database.empty], by simp [Database.empty]⟩

theorem lt_nextRowid {rowids : List Nat} {rowid : Nat} (h : rowid ∈ rowids) :
    rowid < nextRowid rowids := by
  induction rowids with
  | nil => cases h
  | cons first rest ih =>
      have hfold : nextRowid (first :: rest) = max first (rest.foldr max 0) + 1 := rfl
      rcases List.mem_cons.1 h with rfl | h
      · omega
      · have hrest := ih h
        simp only [nextRowid] at hrest
        omega

theorem nextRowid_le {rowids : List Nat} {bound : Nat} (hbound : 0 < bound)
    (h : ∀ rowid ∈ rowids, rowid < bound) : nextRowid rowids ≤ bound := by
  induction rowids with
  | nil => exact hbound
  | cons first rest ih =>
      have hfirst := h first (by simp)
      have hrest := ih fun rowid hmem => h rowid (List.mem_cons_of_mem first hmem)
      simp only [nextRowid, List.foldr_cons] at hrest ⊢
      omega

theorem nextRowid_eq {rowids : List Nat} (h : rowids = List.range' 1 rowids.length) :
    nextRowid rowids = rowids.length + 1 := by
  have hmem : ∀ rowid, rowid ∈ rowids ↔ 1 ≤ rowid ∧ rowid < 1 + rowids.length := by
    intro rowid
    conv_lhs => rw [h]
    exact List.mem_range'_1
  refine le_antisymm ?_ ?_
  · refine nextRowid_le (Nat.succ_pos _) fun rowid hrowid => ?_
    have := (hmem rowid).1 hrowid
    omega
  · by_cases hempty : rowids.length = 0
    · simp only [nextRowid]
      omega
    · have hlast := lt_nextRowid ((hmem rowids.length).2 (by omega))
      omega

theorem rowids_snoc {rowids : List Nat} (h : rowids = List.range' 1 rowids.length) :
    rowids ++ [nextRowid rowids] = List.range' 1 (rowids.length + 1) := by
  rw [List.range'_1_concat, ← h, nextRowid_eq h, Nat.add_comm]

theorem lt_nextOrdinal {rows : List TimelineEvent} {row : TimelineEvent} (h : row ∈ rows) :
    row.ordinal < nextOrdinal rows := by
  induction rows with
  | nil => cases h
  | cons first rest ih =>
      have hfold : nextOrdinal (first :: rest) = max (first.ordinal + 1) (nextOrdinal rest) := rfl
      rcases List.mem_cons.1 h with rfl | h
      · omega
      · have hrest := ih h
        omega

theorem nextOrdinal_le {rows : List TimelineEvent} {bound : Nat}
    (h : ∀ row ∈ rows, row.ordinal < bound) : nextOrdinal rows ≤ bound := by
  induction rows with
  | nil => exact Nat.zero_le bound
  | cons first rest ih =>
      have hfirst := h first (by simp)
      have hrest := ih fun row hmem => h row (List.mem_cons_of_mem first hmem)
      exact max_le hfirst hrest

theorem nextOrdinal_eq {rows : List TimelineEvent}
    (h : rows.map TimelineEvent.ordinal = List.range rows.length) :
    nextOrdinal rows = rows.length := by
  refine le_antisymm (nextOrdinal_le fun row hrow => ?_) ?_
  · have hmem := List.mem_map_of_mem (f := TimelineEvent.ordinal) hrow
    rw [h] at hmem
    exact List.mem_range.1 hmem
  · by_cases hempty : rows.length = 0
    · omega
    · have hlast : rows.length - 1 ∈ rows.map TimelineEvent.ordinal := by
        rw [h]
        exact List.mem_range.2 (by omega)
      obtain ⟨row, hrow, hordinal⟩ := List.mem_map.1 hlast
      have hlt := lt_nextOrdinal hrow
      omega

theorem timeline_event (o : Occurrence) (other : String) :
    (db.event id o).timeline other =
      if id = other then
        db.timeline other ++ [⟨nextOrdinal (db.timeline other), o.name, o.fields⟩]
      else db.timeline other := by
  by_cases h : id = other
  · subst h
    simp [Database.timeline, Database.event]
  · simp [Database.timeline, Database.event, h]

end Lemmas

section Orderly

variable {s : Settings} {rules : Rules} {db db' : Database} {id : String}

theorem Orderly.event (horderly : Orderly s db) (o : Occurrence) :
    Orderly s (db.event id o) := by
  refine { horderly with ordinals := fun other => ?_ }
  rw [timeline_event]
  by_cases h : id = other
  · have hordinals := horderly.ordinals other
    simp [h, hordinals, nextOrdinal_eq hordinals, List.range_succ]
  · simpa [h] using horderly.ordinals other

theorem Orderly.emit (horderly : Orderly s db) (o : Option Occurrence) :
    Orderly s (db.emit id o) := by
  cases o with
  | none => exact horderly
  | some o => exact horderly.event o

theorem rowids_setJob (job : Job) :
    (db.setJob id job).jobs.map JobRow.rowid = db.jobs.map JobRow.rowid := by
  simp only [Database.setJob, Database.updateJob, Rows.modify, List.map_map]
  refine List.map_congr_left fun row _ => ?_
  by_cases h : row.key = id <;> simp [h]

theorem length_setJob (job : Job) : (db.setJob id job).jobs.length = db.jobs.length :=
  Rows.modify_length

theorem rowids_setDelivery (delivery : Delivery) :
    (db.setDelivery id delivery).deliveries.map DeliveryRow.rowid =
      db.deliveries.map DeliveryRow.rowid := by
  simp only [Database.setDelivery, Database.updateDelivery, Rows.modify, List.map_map]
  refine List.map_congr_left fun row _ => ?_
  by_cases h : row.key = id <;> simp [h]

theorem JobStep.keeps_records {job job' : Job} {o : Option Occurrence}
    (h : JobStep s rules db job job' o) :
    (job'.incidentId = job.incidentId ∨ job'.incidentId = some (scenarioIncident job.id)) ∧
      job.status ≠ .completed ∧ job'.status ≠ .completed := by
  cases h with
  | leaseFailed hrunning => exact ⟨.inl rfl, by simp [hrunning], by simp⟩
  | leaseExpired hrunning => exact ⟨.inl rfl, by simp [hrunning], by simp⟩
  | started hissued hqueued => exact ⟨.inl rfl, by simp [hqueued], by simp⟩
  | renewed hrunning => exact ⟨.inl rfl, by simp [hrunning], by simp [hrunning]⟩
  | reserved hrunning => exact ⟨.inr rfl, by simp [hrunning], by simp [hrunning]⟩
  | paused hrunning => exact ⟨.inl rfl, by simp [hrunning], by simp⟩
  | requeued hrunning => exact ⟨.inl rfl, by simp [hrunning], by simp⟩
  | retryFailed hrunning => exact ⟨.inl rfl, by simp [hrunning], by simp⟩
  | retryScheduled hrunning => exact ⟨.inl rfl, by simp [hrunning], by simp⟩

/-- New columns for a job that is not completed, with its request and its id. -/
theorem Orderly.setJob (hkeys : Keys db) (horderly : Orderly s db) {row : JobRow}
    (hrow : db.job id = some row) {job : Job} (hid : job.id = row.id)
    (howner : job.owner = row.owner) (hkey : job.idempotencyKey = row.idempotencyKey)
    (hincident : job.incidentId = row.incidentId ∨
      job.incidentId = some (scenarioIncident row.id))
    (hopen : row.status ≠ .completed) (hfinished : job.status = .completed → Finished s job) :
    Orderly s (db.setJob id job) := by
  have hmem := job_mem hrow
  have hrows := @mem_setJob_jobs db id hkeys row hrow job
  refine ⟨?_, horderly.deliveryRowids, horderly.ordinals, ?_, ?_, ?_, ?_, ?_⟩
  · rw [rowids_setJob, length_setJob]
    exact horderly.rowids
  · intro a ha b hb hsame hrequest
    rcases hrows.1 ha with rfl | ⟨ha, hane⟩
    · rcases hrows.1 hb with rfl | ⟨hb, hbne⟩
      · rfl
      · have heq := horderly.requests row hmem b hb (howner.symm.trans hsame)
          (hkey.symm.trans hrequest)
        exact absurd (heq ▸ job_id hrow) hbne
    · rcases hrows.1 hb with rfl | ⟨hb, hbne⟩
      · have heq := horderly.requests a ha row hmem (hsame.trans howner) (hrequest.trans hkey)
        exact absurd (heq.symm ▸ job_id hrow) hane
      · exact horderly.requests a ha b hb hsame hrequest
  · intro r hr
    rcases hrows.1 hr with rfl | ⟨hr, -⟩
    · obtain ⟨fresh, hfresh⟩ := horderly.identifiers row hmem
      exact ⟨fresh, hid.trans hfresh⟩
    · exact horderly.identifiers r hr
  · intro r hr incident hr_incident
    rcases hrows.1 hr with rfl | ⟨hr, -⟩
    · change incident = scenarioIncident job.id
      rw [hid]
      rcases hincident with hold | hnew
      · exact horderly.incidents row hmem incident (hold.symm.trans hr_incident)
      · exact Option.some.inj (hr_incident.symm.trans hnew)
    · exact horderly.incidents r hr incident hr_incident
  · intro r hr hcompleted
    rcases hrows.1 hr with rfl | ⟨hr, -⟩
    · exact hfinished hcompleted
    · exact horderly.finished r hr hcompleted
  · intro d hd
    obtain ⟨r, hr, hcompleted⟩ := horderly.delivered d hd
    have hne : d.jobId ≠ id := by
      intro heq
      rw [heq, hrow] at hr
      cases hr
      exact hopen hcompleted
    refine ⟨r, ?_, hcompleted⟩
    rw [setJob_job hkeys hrow hid, if_neg hne]
    exact hr

theorem Orderly.queued (hkeys : Keys db) (horderly : Orderly s db) {row : JobRow}
    (hrow : db.job id = some row) (hpaused : row.status = .pausedApproval)
    (c : String) (d : OwnerDecision) : Orderly s (queueDecided db id c d) := by
  have hset := updateJob_eq_setJob hkeys hrow (fun r => { r with status := .queued }) rfl
  have hopen : row.status ≠ .completed := by simp [hpaused]
  have hqueued : Orderly s (db.setJob id (queuedJob row.toJob)) :=
    horderly.setJob hkeys hrow rfl rfl rfl (.inl rfl) hopen (by simp [queuedJob])
  rw [queueDecided, hset]
  exact hqueued.event _

theorem Orderly.move (hkeys : Keys db) (horderly : Orderly s db)
    (h : Move s rules db db') : Orderly s db' := by
  cases h with
  | created fresh owner family key habsent hkey =>
      refine Orderly.event ?_ _
      refine ⟨?_, horderly.deliveryRowids, horderly.ordinals, ?_, ?_, ?_, ?_, ?_⟩
      · have hcount : db.jobs.map JobRow.rowid =
            List.range' 1 (db.jobs.map JobRow.rowid).length := by
          simpa using horderly.rowids
        have hrowids := rowids_snoc hcount
        simpa [Database.insertJob] using hrowids
      · intro a ha b hb hsame hrequest
        rcases List.mem_append.1 ha with ha | ha
        · rcases List.mem_append.1 hb with hb | hb
          · exact horderly.requests a ha b hb hsame hrequest
          · obtain rfl := List.mem_singleton.1 hb
            exact absurd ⟨hsame, hrequest⟩ (hkey a ha)
        · obtain rfl := List.mem_singleton.1 ha
          rcases List.mem_append.1 hb with hb | hb
          · exact absurd ⟨hsame.symm, hrequest.symm⟩ (hkey b hb)
          · obtain rfl := List.mem_singleton.1 hb
            rfl
      · intro r hr
        rcases List.mem_append.1 hr with hr | hr
        · exact horderly.identifiers r hr
        · obtain rfl := List.mem_singleton.1 hr
          exact ⟨fresh, rfl⟩
      · intro r hr incident hincident
        rcases List.mem_append.1 hr with hr | hr
        · exact horderly.incidents r hr incident hincident
        · obtain rfl := List.mem_singleton.1 hr
          cases hincident
      · intro r hr hcompleted
        rcases List.mem_append.1 hr with hr | hr
        · exact horderly.finished r hr hcompleted
        · obtain rfl := List.mem_singleton.1 hr
          cases hcompleted
      · intro d hd
        obtain ⟨r, hr, hcompleted⟩ := horderly.delivered d hd
        refine ⟨r, ?_, hcompleted⟩
        have hlookup : Rows.lookup JobRow.key d.jobId db.jobs = some r := hr
        simp [Database.job, Database.insertJob, Rows.lookup_append, hlookup]
  | @job id row job o hrow hstep =>
      obtain ⟨hid, howner, hkey⟩ := hstep.keeps
      obtain ⟨hincident, hopen, hopen'⟩ := hstep.keeps_records
      have hset := horderly.setJob hkeys hrow hid howner hkey hincident hopen
        fun hcompleted => absurd hcompleted hopen'
      exact hset.emit o
  | @decided id c row d hrow hpaused hcheckpoint hpresent hrecorded hnone =>
      have hmirrored : Orderly s (insertMirror db id c d) := { horderly with }
      exact hmirrored.queued (insertMirror_keys hkeys hnone) hrow hpaused c d
  | redecided hrow hpaused hcheckpoint hpresent hrecorded hmirrored =>
      exact horderly.queued hkeys hrow hpaused _ _
  | @finalized id artifact content row path hrow hrunning hpath hblank habsent =>
      have hopen : row.status ≠ .completed := by simp [hrunning]
      have hne : artifact ≠ "" := by
        rintro rfl
        exact hblank (by decide)
      have hfinished : Finished s (completedJob s row.toJob artifact content) :=
        ⟨artifact, content, path, rfl, hne, rfl, rfl, by
          have hid : row.id = id := job_id hrow
          simpa [completedJob, hid] using hpath⟩
      have hset : Orderly s (db.setJob id (completedJob s row.toJob artifact content)) :=
        horderly.setJob hkeys hrow rfl rfl rfl (.inl rfl) hopen fun _ => hfinished
      refine Orderly.event ?_ _
      refine { hset with deliveryRowids := ?_, delivered := ?_ }
      · have hcount : db.deliveries.map DeliveryRow.rowid =
            List.range' 1 (db.deliveries.map DeliveryRow.rowid).length := by
          simpa using horderly.deliveryRowids
        have hrowids := rowids_snoc hcount
        simpa [Database.insertDelivery] using hrowids
      · intro d hd
        rcases List.mem_append.1 hd with hd | hd
        · exact hset.delivered d hd
        · obtain rfl := List.mem_singleton.1 hd
          refine ⟨{ row with toJob := completedJob s row.toJob artifact content }, ?_, rfl⟩
          change (db.setJob id (completedJob s row.toJob artifact content)).job row.id = _
          have hid : (completedJob s row.toJob artifact content).id = row.id := rfl
          rw [setJob_job hkeys hrow hid, if_pos (job_id hrow)]
  | @delivery id row delivery o hrow hstep =>
      refine Orderly.emit ?_ o
      refine { horderly with deliveryRowids := ?_, delivered := ?_ }
      · rw [rowids_setDelivery]
        simpa [Database.setDelivery, Database.updateDelivery] using horderly.deliveryRowids
      · intro d hd
        rcases (mem_setDelivery hkeys hrow).1 hd with rfl | ⟨hd, -⟩
        · change ∃ r, db.job delivery.jobId = some r ∧ _
          rw [hstep.keeps.1]
          exact horderly.delivered row (delivery_mem hrow)
        · exact horderly.delivered d hd

end Orderly

end CausalOps.ControlPlane.Sqlite
