import CausalOps.ControlPlane.Api.Isolation

set_option autoImplicit false

/-! The endpoints one by one: what each reads and writes is what the stores hold of the
investigation it names. -/

namespace CausalOps.ControlPlane.Api

open Sqlite

section Touches

variable {s : Settings} {db : Database} {store store' after : Store} {id owner : String}

theorem ownedJobs_setJob (hkeys : Keys db) {row : JobRow} (hrow : db.job id = some row)
    {job : Job} (howner : job.owner = row.owner) :
    ownedJobs (db.setJob id job) owner =
      (ownedJobs db owner).map fun old => if old.id = id then job else old := by
  have hkept : ∀ r ∈ db.jobs,
      decide ((if r.key = id then ({ r with toJob := job } : JobRow) else r).owner = owner) =
        decide (r.owner = owner) := by
    intro r hr
    by_cases hid : r.key = id
    · have heq : r = row :=
        hkeys.jobs.eq_of_key_eq hr (job_mem hrow) (hid.trans (job_id hrow).symm)
      subst heq
      simp [hid, howner]
    · simp [hid]
  simp only [ownedJobs, Database.setJob, Database.updateJob, Rows.modify, List.filter_map,
    List.map_map]
  rw [List.filter_congr (q := fun r => decide (r.owner = owner)) hkept]
  refine List.map_congr_left fun r _ => ?_
  by_cases hid : r.id = id
  · simp [JobRow.key, hid]
  · simp [JobRow.key, hid]

/-- The jobs of the owners, when the job of one id is replaced and keeps its owner. -/
theorem ownedJobs_replaced (hkeys : Keys db) {row : JobRow} (hrow : db.job id = some row)
    {job : Job} {db' : Database} (hjobs : db'.jobs = (db.setJob id job).jobs)
    (hid : job.id = row.id) (howner : job.owner = row.owner) (owner : String) :
    ownedJobs db' owner = (ownedJobs db owner).map fun old =>
      if old.id = id then ((db'.thread id).job.getD old) else old := by
  have hjob : db'.job id = some { row with toJob := job } := by
    have hlookup : db'.job id = (db.setJob id job).job id := by
      simp only [Database.job, hjobs]
    rw [hlookup, setJob_job hkeys hrow hid, if_pos rfl]
  have howned : ownedJobs db' owner = ownedJobs (db.setJob id job) owner := by
    simp only [ownedJobs, hjobs]
  rw [howned, ownedJobs_setJob hkeys hrow howner]
  refine List.map_congr_left fun old _ => ?_
  rw [thread_of_job hjob, Option.getD_some]

theorem ownedJobs_same (hkeys : Keys db) (owner : String) :
    ownedJobs db owner = (ownedJobs db owner).map fun old =>
      if old.id = id then ((db.thread id).job.getD old) else old := by
  conv_lhs => rw [← List.map_id (ownedJobs db owner)]
  refine List.map_congr_left fun old hold => ?_
  obtain ⟨row, hrow, -, rfl⟩ := mem_ownedJobs.1 hold
  by_cases hid : row.id = id
  · subst hid
    have hlookup : db.job row.id = some row := hkeys.jobs.lookup_of_mem hrow
    rw [if_pos rfl, thread_of_job hlookup]
    rfl
  · rw [if_neg hid]
    rfl

theorem touches_ledger (hkeys : Keys store.control) {row : JobRow}
    (hrow : store.control.job id = some row) (hcontrol : after.control = store.control)
    (hledger : ∀ other, other ≠ id → ledgerOf after.ledger other = ledgerOf store.ledger other) :
    Touches id store after where
  others other hne := by simp only [slice, hcontrol, hledger other hne]
  used := not_unused_of_job (hcontrol ▸ thread_of_job hrow)
  jobs owner := by
    rw [hcontrol]
    exact ownedJobs_same hkeys owner

end Touches

section Reads

variable {s : Settings} {store store' : Store} {owner id : String} {a : Ambient}

theorem step_lift {call : Call} {f : Database → Except Refusal (Reply × Database)}
    (hcheck : precheck call = .ok ()) (hbody : ∀ db, body s a call db = .lift (f db)) :
    step s store (a, call) =
      match f store.control with
      | .ok (reply, db') =>
          (.ok reply, { store with control := db', history := store.history ++ [reply] })
      | .error e => (.error e, store) := by
  simp only [step, method, hcheck, run_transaction, hbody]
  cases f store.control with
  | error e => rfl
  | ok answered => rfl

theorem step_read {call : Call} {f : Database → Except Refusal (Reply × Database)}
    (hcheck : precheck call = .ok ()) (hbody : ∀ db, body s a call db = .lift (f db))
    (hkept : ∀ db reply db', f db = .ok (reply, db') → db' = db) (store : Store) :
    (step s store (a, call)).1 = (f store.control).map Prod.fst ∧
      (step s store (a, call)).2.control = store.control ∧
        (step s store (a, call)).2.ledger = store.ledger := by
  rw [step_lift hcheck hbody]
  cases hanswer : f store.control with
  | error e => exact ⟨rfl, rfl, rfl⟩
  | ok answered =>
      obtain ⟨reply, db'⟩ := answered
      exact ⟨rfl, hkept _ _ _ hanswer, rfl⟩

/-- Both stores know the same of an investigation that the owner may read. -/
theorem Agree.owned (h : Agree s owner store store') (id : String) :
    (owned store.control owner id).map JobRow.toJob =
        (owned store'.control owner id).map JobRow.toJob ∧
      ∀ row, owned store.control owner id = .ok row → slice store id = slice store' id := by
  refine ⟨by rw [owned_map, owned_map, h.jobs], ?_⟩
  intro row hrow
  obtain ⟨hmem, hid, howner⟩ := owned_ok hrow
  have hslice := h.slices row.toJob (mem_ownedJobs.2 ⟨row, hmem, howner, rfl⟩)
  rw [← hid]
  exact hslice

theorem Agree.read (h : Agree s owner store store') {call : Call}
    {f : Database → Except Refusal (Reply × Database)}
    (hcheck : precheck call = .ok ()) (hbody : ∀ db, body s a call db = .lift (f db))
    (hkept : ∀ db reply db', f db = .ok (reply, db') → db' = db)
    (hsame : (f store.control).map Prod.fst = (f store'.control).map Prod.fst) :
    (step s store (a, call)).1 = (step s store' (a, call)).1 ∧
      Agree s owner (step s store (a, call)).2 (step s store' (a, call)).2 := by
  obtain ⟨hanswer, hcontrol, hledger⟩ := step_read hcheck hbody hkept store
  obtain ⟨hanswer', hcontrol', hledger'⟩ := step_read hcheck hbody hkept store'
  exact ⟨by rw [hanswer, hanswer', hsame],
    (h.kept hcontrol hledger).kept' hcontrol' hledger'⟩

theorem Agree.status (h : Agree s owner store store') (a : Ambient) (id : String) :
    (step s store (a, .status owner id)).1 = (step s store' (a, .status owner id)).1 ∧
      Agree s owner (step s store (a, .status owner id)).2
        (step s store' (a, .status owner id)).2 := by
  refine h.read rfl (fun _ => rfl) (fun _ _ _ hanswer => status_moves hanswer) ?_
  have hview : ∀ db, (Sqlite.status owner id db).map Prod.fst =
      ((Sqlite.owned db owner id).map JobRow.toJob).map fun job => Reply.view job.view := by
    intro db
    simp only [Sqlite.status]
    cases Sqlite.owned db owner id <;> rfl
  rw [hview, hview, (h.owned id).1]

theorem Agree.events (h : Agree s owner store store') (a : Ambient) (id : String) :
    (step s store (a, .events owner id)).1 = (step s store' (a, .events owner id)).1 ∧
      Agree s owner (step s store (a, .events owner id)).2
        (step s store' (a, .events owner id)).2 := by
  refine h.read rfl (fun _ => rfl) (fun _ _ _ hanswer => events_moves hanswer) ?_
  obtain ⟨hjob, hslice⟩ := h.owned id
  simp only [Sqlite.events]
  cases hrow : Sqlite.owned store.control owner id with
  | error e =>
      cases hrow' : Sqlite.owned store'.control owner id with
      | error e' =>
          rw [hrow, hrow'] at hjob
          cases hjob
          rfl
      | ok row' =>
          rw [hrow, hrow'] at hjob
          cases hjob
  | ok row =>
      cases hrow' : Sqlite.owned store'.control owner id with
      | error e' =>
          rw [hrow, hrow'] at hjob
          cases hjob
      | ok row' =>
          have htimeline : store.control.timeline id = store'.control.timeline id :=
            congrArg (fun sl => sl.thread.timeline) (hslice row hrow)
          exact congrArg (fun events => Except.ok (Reply.timeline (byOrdinal events))) htimeline

theorem Agree.report (h : Agree s owner store store') (a : Ambient) (id : String) :
    (step s store (a, .report owner id)).1 = (step s store' (a, .report owner id)).1 ∧
      Agree s owner (step s store (a, .report owner id)).2
        (step s store' (a, .report owner id)).2 := by
  refine h.read rfl (fun _ => rfl) (fun _ _ _ hanswer => report_moves hanswer) ?_
  have hcontent : ∀ db, (Sqlite.report s owner id db).map Prod.fst =
      ((Sqlite.owned db owner id).map JobRow.toJob).bind fun job =>
        (reportText s id job).map Reply.report := by
    intro db
    simp only [Sqlite.report]
    cases Sqlite.owned db owner id with
    | error e => rfl
    | ok row =>
        change Except.map Prod.fst (reportText s id row.toJob >>= _) = _
        cases hreport : reportText s id row.toJob with
        | error e => simp [hreport, Except.map, Except.bind, bind]
        | ok content => simp [hreport, Except.map, Except.bind, bind, pure, Except.pure]
  rw [hcontent, hcontent, (h.owned id).1]

end Reads

section Decide

variable {s : Settings} {store store' : Store} {owner id : String} {a : Ambient}

/-- One call on two stores that hold the same of an investigation: the same answer, and the
same left of the investigation, with nothing else touched. -/
structure Tandem (id : String) (store store' : Store) (result result' : Except Refusal Reply × Store) :
    Prop where
  answer : result.1 = result'.1
  touches : Touches id store result.2
  touches' : Touches id store' result'.2
  slice : slice result.2 id = slice result'.2 id

theorem Tandem.agree {call : Call} (h : Agree s owner store store')
    (htandem : Tandem id store store' (step s store (a, call)) (step s store' (a, call))) :
    (step s store (a, call)).1 = (step s store' (a, call)).1 ∧
      Agree s owner (step s store (a, call)).2 (step s store' (a, call)).2 :=
  ⟨htandem.answer, h.touched_both htandem.touches htandem.touches'
    (h.governed.moves (step_moves h.governed.keys (a, call)).1)
    (h.governed'.moves (step_moves h.governed'.keys (a, call)).1) htandem.slice⟩

/-- A program on the ledger for one thread, and then tables that are changed for it alone. -/
theorem tandem_ledger {call : Call} (p : Prog Unit) (reply : Reply) (db db' : Database)
    (hcheck : precheck call = .ok ())
    (hbody : body s a call store.control = p >>= fun _ => .ret (reply, db))
    (hbody' : body s a call store'.control = p >>= fun _ => .ret (reply, db'))
    (hp : UsesThread id p) (hkeys : Keys store.control) (hkeys' : Keys store'.control)
    {row row' : JobRow} (hrow : store.control.job id = some row)
    (hrow' : store'.control.job id = some row') (hslice : slice store id = slice store' id)
    (hdb : ∀ l, (∀ other, other ≠ id → ledgerOf l other = ledgerOf store.ledger other) →
      Touches id store { store with control := db, ledger := l })
    (hdb' : ∀ l, (∀ other, other ≠ id → ledgerOf l other = ledgerOf store'.ledger other) →
      Touches id store' { store' with control := db', ledger := l })
    (hthread : db.thread id = db'.thread id) (hdecision : db.decision id = db'.decision id) :
    Tandem id store store' (step s store (a, call)) (step s store' (a, call)) := by
  obtain ⟨outcome, ledger, ledger', hrun, hrun', hsame, hothers, hothers'⟩ :=
    hp.run store store' (congrArg Slice.ledger hslice)
  simp only [step, method, hcheck, run_transaction, hbody, hbody', Program.run_bind, hrun, hrun']
  cases outcome with
  | error e =>
      refine ⟨rfl, touches_ledger hkeys hrow rfl hothers, touches_ledger hkeys' hrow' rfl hothers',
        ?_⟩
      have hthreads := congrArg Slice.thread hslice
      have hdecisions := congrArg Slice.decision hslice
      simp only [slice, Slice.mk.injEq] at hthreads hdecisions ⊢
      exact ⟨hthreads, hdecisions, hsame⟩
  | ok u =>
      have htouch := hdb ledger hothers
      have htouch' := hdb' ledger' hothers'
      refine ⟨rfl, ⟨?_, htouch.used, htouch.jobs⟩, ⟨?_, htouch'.used, htouch'.jobs⟩, ?_⟩
      · exact htouch.others
      · exact htouch'.others
      · simp only [slice, Slice.mk.injEq]
        exact ⟨hthread, hdecision, hsame⟩

theorem tandem_raise {call : Call} {e : Refusal} (hcheck : precheck call = .ok ())
    (hbody : body s a call store.control = .raise e)
    (hbody' : body s a call store'.control = .raise e) (hkeys : Keys store.control)
    (hkeys' : Keys store'.control) {row row' : JobRow} (hrow : store.control.job id = some row)
    (hrow' : store'.control.job id = some row') (hslice : slice store id = slice store' id) :
    Tandem id store store' (step s store (a, call)) (step s store' (a, call)) := by
  simp only [step, method, hcheck, run_transaction, hbody, hbody', Program.run_raise]
  exact ⟨rfl, touches_ledger hkeys hrow rfl fun _ _ => rfl,
    touches_ledger hkeys' hrow' rfl fun _ _ => rfl, hslice⟩

theorem queued_touches (hgoverned : Governed s store.control) {row : JobRow}
    (hrow : store.control.job id = some row) (hnone : store.control.decision id = none)
    (c : String) (d : OwnerDecision) (l : Ledger)
    (hothers : ∀ other, other ≠ id → ledgerOf l other = ledgerOf store.ledger other) :
    Touches id store
      { store with
        control := queueDecided (insertMirror store.control id c d) id c d, ledger := l } := by
  have hkeys : Keys (insertMirror store.control id c d) :=
    insertMirror_keys hgoverned.keys hnone
  have hrow' : (insertMirror store.control id c d).job id = some row := hrow
  have hnumbered : ∀ other, Numbered ((insertMirror store.control id c d).timeline other) :=
    hgoverned.orderly.ordinals
  have hthread := thread_queueDecided hkeys hnumbered hrow' c d
  have hdecision := @insertMirror_decision store.control id c d
  constructor
  · intro other hne
    have hmirror : (queueDecided (insertMirror store.control id c d) id c d).decision other =
        store.control.decision other := by
      have hkept : (queueDecided (insertMirror store.control id c d) id c d).decision other =
          (insertMirror store.control id c d).decision other := rfl
      rw [hkept, hdecision, if_neg (Ne.symm hne), Option.or_none]
    simp only [slice, hthread other, if_neg hne, hmirror, hothers other hne]
    rfl
  · have hjob : ((queueDecided (insertMirror store.control id c d) id c d).thread id).job =
        some (queuedJob row.toJob) := by
      rw [hthread id, if_pos rfl]
    exact not_unused_of_job hjob
  · have hjobs := @queueDecided_jobs _ id hkeys row hrow' c d
    exact ownedJobs_replaced hgoverned.keys hrow hjobs rfl rfl

theorem decide_tandem (hgoverned : Governed s store.control)
    (hgoverned' : Governed s store'.control) {row row' : JobRow}
    (howned : owned store.control owner id = .ok row)
    (howned' : owned store'.control owner id = .ok row') (hjob : row.toJob = row'.toJob)
    (hslice : slice store id = slice store' id) (d : OwnerDecision) :
    Tandem id store store' (step s store (a, .decide owner id d))
      (step s store' (a, .decide owner id d)) := by
  have hrow := owned_job hgoverned.keys howned
  have hrow' := owned_job hgoverned'.keys howned'
  have hdecision : store.control.decision id = store'.control.decision id :=
    congrArg Slice.decision hslice
  have hthread : store.control.thread id = store'.control.thread id :=
    congrArg Slice.thread hslice
  have hcheckpoint : row.checkpointId = row'.checkpointId := congrArg Job.checkpointId hjob
  have hstatus : row.status = row'.status := congrArg Job.status hjob
  have hview : row.view = row'.view := congrArg Job.view hjob
  have hraise : ∀ e, body s a (.decide owner id d) store.control = .raise e →
      body s a (.decide owner id d) store'.control = .raise e →
        Tandem id store store' (step s store (a, .decide owner id d))
          (step s store' (a, .decide owner id d)) := fun e hbody hbody' =>
    tandem_raise rfl hbody hbody' hgoverned.keys hgoverned'.keys hrow hrow' hslice
  cases hprior : store.control.decision id with
  | some prior =>
      have hprior' := hdecision.symm.trans hprior
      cases hmirrored : decisionFromRow prior with
      | error e =>
          exact hraise e (by simp [body, Sqlite.decide, howned, hprior, hmirrored])
            (by simp [body, Sqlite.decide, howned', hprior', hmirrored])
      | ok mirrored =>
          cases hpresent : presentCheckpoint row.checkpointId with
          | none =>
              have hpresent' := hcheckpoint ▸ hpresent
              exact hraise _
                (by simp [body, Sqlite.decide, howned, hprior, hmirrored, hpresent]; rfl)
                (by simp [body, Sqlite.decide, howned', hprior', hmirrored, hpresent'])
          | some c =>
              have hpresent' := hcheckpoint ▸ hpresent
              by_cases hsame : prior.checkpointId = c
              · by_cases hd : mirrored = d
                · refine tandem_ledger (ensureLedgerDecision a.utcNow id c mirrored)
                    (.view row.view) store.control store'.control rfl ?_ ?_ (ensureLedgerDecision_usesThread _ _ _) hgoverned.keys
                    hgoverned'.keys hrow hrow' hslice
                    (fun l hl => touches_ledger hgoverned.keys hrow rfl hl)
                    (fun l hl => touches_ledger hgoverned'.keys hrow' rfl hl) hthread hdecision
                  · simp [body, Sqlite.decide, howned, hprior, hmirrored, hpresent, hsame, hd]
                  · simp [body, Sqlite.decide, howned', hprior', hmirrored, hpresent', hsame, hd,
                      hview]
                · exact hraise _
                    (by simp [body, Sqlite.decide, howned, hprior, hmirrored, hpresent, hsame,
                          hd]; rfl)
                    (by simp [body, Sqlite.decide, howned', hprior', hmirrored, hpresent', hsame,
                          hd])
              · exact hraise _
                  (by simp [body, Sqlite.decide, howned, hprior, hmirrored, hpresent, hsame]; rfl)
                  (by simp [body, Sqlite.decide, howned', hprior', hmirrored, hpresent', hsame])
  | none =>
      have hprior' := hdecision.symm.trans hprior
      by_cases hpaused : row.status = .pausedApproval
      · have hpaused' := hstatus ▸ hpaused
        cases hpresent : presentCheckpoint row.checkpointId with
        | none =>
            have hpresent' := hcheckpoint ▸ hpresent
            exact hraise _
              (by simp [body, Sqlite.decide, howned, hprior, hpaused, hpresent]; rfl)
              (by simp [body, Sqlite.decide, howned', hprior', hpaused', hpresent'])
        | some c =>
            have hpresent' := hcheckpoint ▸ hpresent
            refine tandem_ledger (ensureLedgerDecision a.utcNow id c d) (.view ⟨id, .queued⟩)
              (queueDecided (insertMirror store.control id c d) id c d)
              (queueDecided (insertMirror store'.control id c d) id c d) rfl
              (by simp [body, Sqlite.decide, howned, hprior, hpaused, hpresent])
              (by simp [body, Sqlite.decide, howned', hprior', hpaused', hpresent'])
              (ensureLedgerDecision_usesThread _ _ _) hgoverned.keys hgoverned'.keys hrow hrow'
              hslice (queued_touches hgoverned hrow hprior c d)
              (queued_touches hgoverned' hrow' hprior' c d) ?_ ?_
            · have hnumbered := hgoverned.orderly.ordinals
              have hnumbered' := hgoverned'.orderly.ordinals
              rw [thread_queueDecided (insertMirror_keys hgoverned.keys hprior) hnumbered hrow,
                thread_queueDecided (insertMirror_keys hgoverned'.keys hprior') hnumbered' hrow',
                if_pos rfl, if_pos rfl, hjob]
              change ({ store.control.thread id with
                job := _, timeline := appended (store.control.thread id).timeline _ } : Thread) = _
              rw [hthread]
              rfl
            · have hkept : ∀ db : Database,
                  (queueDecided (insertMirror db id c d) id c d).decision id =
                    (insertMirror db id c d).decision id := fun _ => rfl
              rw [hkept, hkept, insertMirror_decision, insertMirror_decision, hdecision]
      · have hpaused' := hstatus ▸ hpaused
        exact hraise _ (by simp [body, Sqlite.decide, howned, hprior, hpaused]; rfl)
          (by simp [body, Sqlite.decide, howned', hprior', hpaused'])

end Decide

section Create

variable {s : Settings} {store store' after : Store} {owner other : String} {a : Ambient}
  {family : ScenarioFamily} {key : String}

/-- A job was inserted under an id that nothing was stored under. -/
structure Creates (fresh : Uuid) (owner : String) (family : ScenarioFamily) (key : String)
    (store after : Store) : Prop where
  slices : ∀ id, slice after id =
    if id = fresh.hex then
      ⟨⟨some (newJob fresh owner family key), none, appended [] (some .investigationQueued)⟩,
        none, []⟩
    else slice store id
  jobs : ∀ o, ownedJobs after.control o =
    ownedJobs store.control o ++ if owner = o then [newJob fresh owner family key] else []

theorem find_request (db : Database) (owner key : String) :
    (db.jobs.find? fun row => row.owner = owner && row.idempotencyKey = some key).map
        JobRow.toJob =
      (ownedJobs db owner).find? fun job => job.idempotencyKey = some key := by
  rw [ownedJobs, List.find?_map, List.find?_filter]
  congr 2
  funext row
  simp

theorem unused_job {id : String} (hunused : Unused store id) : store.control.job id = none := by
  have hjob := congrArg (fun sl => sl.thread.job) hunused
  change (store.control.job id).map JobRow.toJob = none at hjob
  exact Option.map_eq_none_iff.1 hjob

/-- `create`, with an id that nothing is stored under. -/
theorem create_cases (owner : String) (family : ScenarioFamily) (key : String)
    (hgoverned : Governed s store.control) (hunused : Unused store a.fresh.hex) :
    (∃ job, (ownedJobs store.control owner).find? (fun job => job.idempotencyKey = some key) =
        some job ∧
      (step s store (a, .create owner family key)).1 = .ok (.view job.view) ∧
      (step s store (a, .create owner family key)).2.control = store.control ∧
        (step s store (a, .create owner family key)).2.ledger = store.ledger) ∨
    ((ownedJobs store.control owner).find? (fun job => job.idempotencyKey = some key) = none ∧
      (step s store (a, .create owner family key)).1 = .ok (.view ⟨a.fresh.hex, .queued⟩) ∧
      Creates a.fresh owner family key store (step s store (a, .create owner family key)).2) := by
  have hfound := find_request store.control owner key
  rw [step_lift (f := Sqlite.create a.fresh owner family key) rfl fun _ => rfl]
  cases hfind : store.control.jobs.find? fun row =>
      row.owner = owner && row.idempotencyKey = some key with
  | some existing =>
      rw [hfind] at hfound
      refine .inl ⟨existing.toJob, hfound.symm, ?_⟩
      simp [Sqlite.create, hfind]
  | none =>
      rw [hfind] at hfound
      have habsent := unused_job hunused
      refine .inr ⟨hfound.symm, ?_⟩
      simp only [Sqlite.create, hfind, habsent, Option.isSome_none, Bool.false_eq_true, if_false]
      refine ⟨trivial, ?_, ?_⟩
      · intro id
        have hinserted : ∀ third, Numbered ((store.control.insertJob
            (newJob a.fresh owner family key)).timeline third) := hgoverned.orderly.ordinals
        have hdecision : ((store.control.insertJob (newJob a.fresh owner family key)).event
            a.fresh.hex .investigationQueued).decision id = store.control.decision id := rfl
        have hnew : (newJob a.fresh owner family key).id = a.fresh.hex := rfl
        simp only [slice, thread_event hinserted, thread_insertJob habsent hnew, hdecision]
        by_cases hid : id = a.fresh.hex
        · subst hid
          have hthread := congrArg Slice.thread hunused
          have hnone := congrArg Slice.decision hunused
          have hrows := congrArg Slice.ledger hunused
          simp only [slice] at hthread hnone hrows
          have htimeline : (store.control.insertJob (newJob a.fresh owner family key)).timeline
              a.fresh.hex = (store.control.thread a.fresh.hex).timeline := rfl
          simp only [if_true, htimeline, hthread, hnone, hrows]
          rfl
        · simp only [if_neg hid]
      · intro o
        simp only [ownedJobs, Database.insertJob, Database.event, List.filter_append,
          List.map_append]
        congr 1
        by_cases ho : owner = o
        · simp [newJob, ho]
        · simp [newJob, ho]

theorem Creates.unused {fresh : Uuid} (h : Creates fresh owner family key store after)
    {id : String} (hunused : Unused after id) : id ≠ fresh.hex ∧ Unused store id := by
  have hslice := h.slices id
  by_cases hid : id = fresh.hex
  · rw [if_pos hid, hunused] at hslice
    cases congrArg (fun sl => sl.thread.job) hslice
  · rw [if_neg hid] at hslice
    exact ⟨hid, hslice.symm.trans hunused⟩

theorem unused_ownedJobs {id : String} (hunused : Unused store id) (hkeys : Keys store.control) :
    ∀ job ∈ ownedJobs store.control other, job.id ≠ id := by
  rintro job hjob rfl
  obtain ⟨row, hrow, -, rfl⟩ := mem_ownedJobs.1 hjob
  have hlookup : store.control.job row.id = some row := hkeys.jobs.lookup_of_mem hrow
  exact not_unused_of_job (thread_of_job hlookup) hunused

theorem Agree.create (h : Agree s owner store store') (hunused : Unused store a.fresh.hex) :
    (step s store (a, .create owner family key)).1 =
        (step s store' (a, .create owner family key)).1 ∧
      Agree s owner (step s store (a, .create owner family key)).2
        (step s store' (a, .create owner family key)).2 := by
  have hunused' := h.unused _ hunused
  have hafter := h.governed.moves (step_moves h.governed.keys (a, .create owner family key)).1
  have hafter' := h.governed'.moves (step_moves h.governed'.keys (a, .create owner family key)).1
  rcases create_cases owner family key h.governed hunused with
    ⟨job, hfind, hanswer, hcontrol, hledger⟩ | ⟨hfind, hanswer, hcreates⟩
  · rcases create_cases owner family key h.governed' hunused' with
      ⟨job', hfind', hanswer', hcontrol', hledger'⟩ | ⟨hfind', -, -⟩
    · rw [← h.jobs, hfind] at hfind'
      cases hfind'
      exact ⟨hanswer.trans hanswer'.symm, (h.kept hcontrol hledger).kept' hcontrol' hledger'⟩
    · rw [← h.jobs, hfind] at hfind'
      cases hfind'
  · rcases create_cases owner family key h.governed' hunused' with
      ⟨job', hfind', -, -, -⟩ | ⟨hfind', hanswer', hcreates'⟩
    · rw [← h.jobs, hfind] at hfind'
      cases hfind'
    · refine ⟨hanswer.trans hanswer'.symm, hafter, hafter', ?_, ?_, ?_⟩
      · rw [hcreates.jobs, hcreates'.jobs, h.jobs]
      · intro job hjob
        rw [hcreates.slices, hcreates'.slices]
        by_cases hid : job.id = a.fresh.hex
        · rw [if_pos hid, if_pos hid]
        · rw [if_neg hid, if_neg hid]
          rw [hcreates.jobs, if_pos rfl] at hjob
          rcases List.mem_append.1 hjob with hold | hnew
          · exact h.slices job hold
          · rw [List.mem_singleton.1 hnew] at hid
            exact absurd rfl hid
      · intro id hunused
        obtain ⟨hne, hbefore⟩ := hcreates.unused hunused
        exact (hcreates'.slices id).trans ((if_neg hne).trans (h.unused id hbefore))

theorem Agree.create_other (h : Agree s owner store store') (hne : other ≠ owner)
    (hunused : Unused store a.fresh.hex) :
    Agree s owner (step s store (a, .create other family key)).2 store' := by
  have hafter := h.governed.moves (step_moves h.governed.keys (a, .create other family key)).1
  rcases create_cases other family key h.governed hunused with
    ⟨job, -, -, hcontrol, hledger⟩ | ⟨-, -, hcreates⟩
  · exact h.kept hcontrol hledger
  · have hjobs := hcreates.jobs owner
    rw [if_neg hne, List.append_nil] at hjobs
    refine ⟨hafter, h.governed', hjobs.trans h.jobs, ?_, ?_⟩
    · intro job hjob
      rw [hjobs] at hjob
      rw [hcreates.slices, if_neg (unused_ownedJobs hunused h.governed.keys job hjob)]
      exact h.slices job hjob
    · exact fun id hunused => h.unused id (hcreates.unused hunused).2

end Create

end CausalOps.ControlPlane.Api
