import CausalOps.ControlPlane.Worker.Once

set_option autoImplicit false

/-! The reports of the jobs: `finalize` alone stores one, and stores what it has read. -/

namespace CausalOps.ControlPlane.Sqlite

section Reports

variable {s : Settings} {db db' : Database} {id token : String} {now : Time} {reply : Reply}
  {store store' : Store} {a : Ambient} {call : Call}

def reports (db : Database) : List (String × Option String) :=
  db.jobs.map fun row => (row.id, row.reportContent)

/-- A change of a job that leaves its report alone. -/
def Unreported (set : JobRow → JobRow) : Prop :=
  ∀ row, (set row).id = row.id ∧ (set row).reportContent = row.reportContent

theorem reports_update {condition : JobRow → Bool} {set : JobRow → JobRow} (h : Unreported set)
    (rows : List JobRow) :
    (Rows.update condition set rows).map (fun row => (row.id, row.reportContent)) =
      rows.map fun row => (row.id, row.reportContent) := by
  simp only [Rows.update, List.map_map]
  refine List.map_congr_left fun row _ => ?_
  simp only [Function.comp_apply]
  split
  · rw [(h row).1, (h row).2]
  · rfl

theorem reports_updateJob {set : JobRow → JobRow} (h : Unreported set) (id : String) :
    reports (db.updateJob id set) = reports db := by
  simp only [reports, Database.updateJob, Rows.modify, List.map_map]
  refine List.map_congr_left fun row _ => ?_
  simp only [Function.comp_apply]
  split
  · rw [(h row).1, (h row).2]
  · rfl

@[simp] theorem reports_event (id : String) (o : Occurrence) :
    reports (db.event id o) = reports db := rfl

theorem reports_foldl {α : Type} {change : Database → α → Database}
    (h : ∀ db item, reports (change db item) = reports db) (items : List α) (db : Database) :
    reports (items.foldl change db) = reports db := by
  induction items generalizing db with
  | nil => rfl
  | cons item rest ih => exact (ih _).trans (h db item)

theorem reserveIncident_reports (h : reserveIncident now id token db = .ok (reply, db')) :
    reports db' = reports db := by
  simp only [reserveIncident] at h
  split at h
  · cases h
  split at h
  · cases h
  split at h
  · cases h
    refine reports_updateJob ?_ id
    exact fun _ => ⟨rfl, rfl⟩
  · split at h
    · cases h
      rfl
    · cases h

theorem renewRunning_reports (h : renewRunning s now id token db = .ok (reply, db')) :
    reports db' = reports db := by
  simp only [renewRunning] at h
  split at h
  · cases h
  · cases h
    refine reports_update ?_ db.jobs
    exact fun _ => ⟨rfl, rfl⟩

theorem markPaused_reports {checkpointId : String}
    (h : markPaused now id checkpointId token db = .ok (reply, db')) :
    reports db' = reports db := by
  simp only [markPaused] at h
  split at h
  · cases h
  split at h
  · cases h
  · cases h
    refine reports_updateJob ?_ id
    exact fun _ => ⟨rfl, rfl⟩

theorem requeueRunning_reports (h : requeueRunning id token db = .ok (reply, db')) :
    reports db' = reports db := by
  simp only [requeueRunning] at h
  split at h
  · cases h
  · cases h
    refine reports_update ?_ db.jobs
    exact fun _ => ⟨rfl, rfl⟩

theorem retryRunning_reports {errorName : String}
    (h : retryRunning s now id token errorName db = .ok (reply, db')) :
    reports db' = reports db := by
  simp only [retryRunning] at h
  split at h
  · cases h
  split at h
  · cases h
  split at h
  · cases h
    refine reports_updateJob ?_ id
    exact fun _ => ⟨rfl, rfl⟩
  · cases h
    refine reports_updateJob ?_ id
    exact fun _ => ⟨rfl, rfl⟩

theorem reclaimExpiredInvestigations_reports :
    reports (reclaimExpiredInvestigations s now db) = reports db := by
  refine reports_foldl (fun db row => ?_) _ db
  simp only [reclaimInvestigation]
  split
  · refine reports_updateJob ?_ _
    exact fun _ => ⟨rfl, rfl⟩
  · refine reports_updateJob ?_ _
    exact fun _ => ⟨rfl, rfl⟩

theorem queueDecided_reports (id checkpointId : String) (d : OwnerDecision) :
    reports (queueDecided db id checkpointId d) = reports db := by
  refine reports_updateJob ?_ id
  exact fun _ => ⟨rfl, rfl⟩

theorem reconcileRow_reports {row : JobRow}
    (h : (reconcileRow row db).run exec store = (.ok db', store')) :
    reports db' = reports db := by
  simp only [reconcileRow] at h
  split at h
  · cases h
  · simp only [Program.run_call, exec] at h
    split at h
    · cases h
    · obtain rfl := Except.ok.inj (Prod.mk.inj h).1
      rfl
    · split at h
      · cases h
      · split at h
        · cases h
        · split at h
          · obtain rfl := Except.ok.inj (Prod.mk.inj h).1
            exact queueDecided_reports _ _ _
          · split at h
            · cases h
            · split at h
              · cases h
              · split at h
                · cases h
                · obtain rfl := Except.ok.inj (Prod.mk.inj h).1
                  exact queueDecided_reports _ _ _

theorem reconcileRows_reports (chosen : List JobRow)
    (h : (reconcileRows chosen db).run exec store = (.ok db', store')) :
    reports db' = reports db := by
  induction chosen generalizing db store with
  | nil =>
      obtain rfl := Except.ok.inj (Prod.mk.inj h).1
      rfl
  | cons row rest ih =>
      simp only [reconcileRows, Program.run_bind] at h
      cases hfirst : (reconcileRow row db).run exec store with
      | mk outcome next =>
          rw [hfirst] at h
          cases outcome with
          | error e => cases h
          | ok middle => exact (ih h).trans (reconcileRow_reports hfirst)

theorem claimRow_reports {row : JobRow}
    (h : (claimRow s a row db).run exec store = (.ok (reply, db'), store')) :
    reports db' = reports db := by
  have hstarted : reports (startClaim s a.now a.fresh.hex row db) = reports db := by
    refine reports_updateJob ?_ row.id
    exact fun _ => ⟨rfl, rfl⟩
  simp only [claimRow] at h
  split at h
  · have hreply := Except.ok.inj (Prod.mk.inj h).1
    rw [← (Prod.mk.inj hreply).2]
    exact hstarted
  split at h
  · cases h
  split at h
  · cases h
  split at h
  · cases h
  simp only [Program.run_bind] at h
  split at h
  · have hreply := Except.ok.inj (Prod.mk.inj h).1
    rw [← (Prod.mk.inj hreply).2]
    exact hstarted
  · cases h

theorem claimNext_reports
    (h : (claimNext s a db).run exec store = (.ok (reply, db'), store')) :
    reports db' = reports db := by
  simp only [claimNext, Program.run_bind] at h
  split at h
  swap
  · cases h
  rename_i middle next hreconcile
  have hmiddle : reports middle = reports db :=
    (reconcileRows_reports _ hreconcile).trans reclaimExpiredInvestigations_reports
  split at h
  · have hreply := Except.ok.inj (Prod.mk.inj h).1
    rw [← (Prod.mk.inj hreply).2]
    exact hmiddle
  split at h
  · have hreply := Except.ok.inj (Prod.mk.inj h).1
    rw [← (Prod.mk.inj hreply).2]
    exact hmiddle
  split at h
  · have hreply := Except.ok.inj (Prod.mk.inj h).1
    rw [← (Prod.mk.inj hreply).2]
    exact hmiddle
  · exact (claimRow_reports h).trans hmiddle

theorem decide_reports {owner : String} {d : OwnerDecision}
    (h : (Sqlite.decide now owner id d db).run exec store = (.ok (reply, db'), store')) :
    reports db' = reports db := by
  simp only [Sqlite.decide] at h
  split at h
  · cases h
  split at h
  · split at h
    · cases h
    split at h
    · cases h
    split at h
    · cases h
    split at h
    · cases h
    · simp only [Program.run_bind] at h
      split at h
      · have hreply := Except.ok.inj (Prod.mk.inj h).1
        rw [← (Prod.mk.inj hreply).2]
      · cases h
  · split at h
    · cases h
    split at h
    · cases h
    · simp only [Program.run_bind] at h
      split at h
      · have hreply := Except.ok.inj (Prod.mk.inj h).1
        rw [← (Prod.mk.inj hreply).2]
        exact queueDecided_reports _ _ _
      · cases h

theorem create_reports {owner key : String} {family : ScenarioFamily} {fresh : Uuid}
    (h : create fresh owner family key db = .ok (reply, db')) :
    reports db' = reports db ∨ reports db' = reports db ++ [(fresh.hex, none)] := by
  simp only [create] at h
  split at h
  · cases h
    exact .inl rfl
  split at h
  · cases h
  · cases h
    exact .inr List.map_append

theorem finalize_reports {artifact : String}
    (h : finalize s a id artifact token db = .ok (reply, db')) :
    ∃ content, a.reportFile = .ok content ∧ reports db' = (reports db).map fun entry =>
      if entry.1 = id then (id, some content) else entry := by
  simp only [finalize] at h
  split at h
  · cases h
  split at h
  · cases h
  split at h
  · cases h
  split at h
  · cases h
  rename_i content hread
  split at h
  · cases h
  cases h
  refine ⟨content, ?_, ?_⟩
  · obtain ⟨path, hpath⟩ := readReportSnapshot_ok hread
    rw [readReportSnapshot, hpath] at hread
    cases hfile : a.reportFile with
    | error message =>
        rw [hfile] at hread
        cases hread
    | ok text =>
        rw [hfile] at hread
        cases hread
        rfl
  · change List.map _ (Rows.modify _ _ _ _) = _
    simp only [reports, Rows.modify, List.map_map]
    refine List.map_congr_left fun row _ => ?_
    simp only [Function.comp_apply]
    by_cases hrow : row.key = id
    · have hid : row.id = id := hrow
      rw [if_pos hrow, if_pos hid, ← hid]
    · have hid : row.id ≠ id := hrow
      rw [if_neg hrow, if_neg hid]

theorem status_same {owner : String} (h : status owner id db = .ok (reply, db')) : db' = db := by
  simp only [status, bind, Except.bind] at h
  split at h
  · cases h
  · cases h
    rfl

theorem events_same {owner : String} (h : events owner id db = .ok (reply, db')) : db' = db := by
  simp only [events, bind, Except.bind] at h
  split at h
  · cases h
  · cases h
    rfl

theorem report_same {owner : String} (h : report s owner id db = .ok (reply, db')) : db' = db := by
  simp only [report, bind, Except.bind] at h
  split at h
  · cases h
  split at h
  · cases h
  · cases h
    rfl

theorem scenarioStatus_same {incident : String}
    (h : scenarioStatus incident db = .ok (reply, db')) : db' = db := by
  simp only [scenarioStatus] at h
  split at h
  · cases h
    rfl
  · cases h
    rfl

theorem reclaimExpiredDeliveries_jobs : (reclaimExpiredDeliveries s now db).jobs = db.jobs := by
  simp only [reclaimExpiredDeliveries]
  generalize db.deliveries.filter _ = chosen
  induction chosen generalizing db with
  | nil => rfl
  | cons row rest ih =>
      rw [List.foldl_cons, ih]
      simp only [reclaimDelivery]
      split <;> rfl

theorem claimDelivery_reports (h : claimDelivery s a db = .ok (reply, db')) :
    reports db' = reports db := by
  have hjobs : ∀ after : Database, after.jobs = (reclaimExpiredDeliveries s a.now db).jobs →
      reports after = reports db := by
    intro after hafter
    rw [reports, hafter, reclaimExpiredDeliveries_jobs]
    rfl
  simp only [claimDelivery] at h
  split at h
  · cases h
    exact hjobs _ rfl
  split at h
  · cases h
  · cases h
    exact hjobs _ rfl

theorem markDelivered_jobs (h : markDelivered now id token db = .ok (reply, db')) :
    db'.jobs = db.jobs := by
  simp only [markDelivered] at h
  split at h
  · cases h
  · cases h
    rfl

theorem renewDelivery_jobs (h : renewDelivery s now id token db = .ok (reply, db')) :
    db'.jobs = db.jobs := by
  simp only [renewDelivery] at h
  split at h
  · cases h
  · cases h
    rfl

theorem releaseDelivery_jobs (h : releaseDelivery id token db = .ok (reply, db')) :
    db'.jobs = db.jobs := by
  simp only [releaseDelivery] at h
  split at h
  · cases h
  · cases h
    rfl

theorem retryDelivery_jobs {errorName : String}
    (h : retryDelivery s now id token errorName db = .ok (reply, db')) :
    db'.jobs = db.jobs := by
  simp only [retryDelivery] at h
  split at h
  · cases h
  split at h
  · cases h
  split at h
  · cases h
    rfl
  · cases h
    rfl

theorem step_committed (h : (step s store (a, call)).1 = .ok reply) :
    ∃ middle, (body s a call store.control).run exec store =
      (.ok (reply, (step s store (a, call)).2.control), middle) := by
  simp only [step, method] at h ⊢
  cases hcheck : precheck call with
  | error e =>
      rw [hcheck] at h
      cases h
  | ok u =>
      simp only [hcheck, run_transaction] at h ⊢
      cases hrun : (body s a call store.control).run exec store with
      | mk outcome middle =>
          rw [hrun] at h
          cases outcome with
          | error e => cases h
          | ok result =>
              refine ⟨middle, ?_⟩
              exact congrArg (fun reply => (Except.ok (reply, result.2), middle)) (Except.ok.inj h)

/-- What a call does to the reports: a new job has none, and `finalize` stores what it read. -/
theorem step_reports (hkeys : Keys store.control) (a : Ambient) (call : Call) :
    reports (step s store (a, call)).2.control = reports store.control ∨
      reports (step s store (a, call)).2.control =
        reports store.control ++ [(a.fresh.hex, none)] ∨
      ∃ id artifact token content, call = .finalize id artifact token ∧
        a.reportFile = .ok content ∧
          reports (step s store (a, call)).2.control = (reports store.control).map fun entry =>
            if entry.1 = id then (id, some content) else entry := by
  cases hanswer : (step s store (a, call)).1 with
  | error e => exact .inl (congrArg reports ((step_moves hkeys (a, call)).2 e hanswer))
  | ok reply =>
      obtain ⟨middle, hbody⟩ := step_committed hanswer
      generalize (step s store (a, call)).2.control = after at hbody ⊢
      cases call with
      | create owner family key =>
          rw [body, run_lift] at hbody
          exact (create_reports (Prod.mk.inj hbody).1).imp_right .inl
      | status owner id =>
          rw [body, run_lift] at hbody
          exact .inl (congrArg reports (status_same (Prod.mk.inj hbody).1))
      | events owner id =>
          rw [body, run_lift] at hbody
          exact .inl (congrArg reports (events_same (Prod.mk.inj hbody).1))
      | decide owner id d => exact .inl (decide_reports hbody)
      | report owner id =>
          rw [body, run_lift] at hbody
          exact .inl (congrArg reports (report_same (Prod.mk.inj hbody).1))
      | renewRunning id token =>
          rw [body, run_lift] at hbody
          exact .inl (renewRunning_reports (Prod.mk.inj hbody).1)
      | reserveIncident id token =>
          rw [body, run_lift] at hbody
          exact .inl (reserveIncident_reports (Prod.mk.inj hbody).1)
      | scenarioStatus incident =>
          rw [body, run_lift] at hbody
          exact .inl (congrArg reports (scenarioStatus_same (Prod.mk.inj hbody).1))
      | incidentIdFor id =>
          rw [body, run_lift] at hbody
          exact .inl (congrArg reports (incidentIdFor_moves (Prod.mk.inj hbody).1))
      | claimNext => exact .inl (claimNext_reports hbody)
      | markPaused id checkpointId token =>
          rw [body, run_lift] at hbody
          exact .inl (markPaused_reports (Prod.mk.inj hbody).1)
      | requeueRunning id token =>
          rw [body, run_lift] at hbody
          exact .inl (requeueRunning_reports (Prod.mk.inj hbody).1)
      | retryRunning id token errorName =>
          rw [body, run_lift] at hbody
          exact .inl (retryRunning_reports (Prod.mk.inj hbody).1)
      | finalize id artifact token =>
          rw [body, run_lift] at hbody
          obtain ⟨content, hread, hreports⟩ := finalize_reports (Prod.mk.inj hbody).1
          exact .inr (.inr ⟨id, artifact, token, content, rfl, hread, hreports⟩)
      | claimDelivery =>
          rw [body, run_lift] at hbody
          exact .inl (claimDelivery_reports (Prod.mk.inj hbody).1)
      | markDelivered id token =>
          rw [body, run_lift] at hbody
          exact .inl (congrArg (List.map _) (markDelivered_jobs (Prod.mk.inj hbody).1))
      | renewDelivery id token =>
          rw [body, run_lift] at hbody
          exact .inl (congrArg (List.map _) (renewDelivery_jobs (Prod.mk.inj hbody).1))
      | releaseDelivery id token =>
          rw [body, run_lift] at hbody
          exact .inl (congrArg (List.map _) (releaseDelivery_jobs (Prod.mk.inj hbody).1))
      | retryDelivery id token errorName =>
          rw [body, run_lift] at hbody
          exact .inl (congrArg (List.map _) (retryDelivery_jobs (Prod.mk.inj hbody).1))

end Reports

end CausalOps.ControlPlane.Sqlite
