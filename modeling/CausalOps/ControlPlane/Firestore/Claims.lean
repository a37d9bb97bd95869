import CausalOps.ControlPlane.Scheduling
import CausalOps.ControlPlane.Firestore.Courses

set_option autoImplicit false

/-! The stages of the Firestore methods that hand out jobs and deliveries: first the leases
that have ended, document by document, then the one that is selected. -/

namespace CausalOps.ControlPlane.Firestore

section Loop

variable {s : Settings} {streams : StreamOrder} {δ : Type}

/-- What one turn of a reclaim loop does to a document whose lease has ended. -/
structure Turn (s : Settings) (streams : StreamOrder) (action : Prog Unit)
    (related : Database → Database → Prop) (fs : Database) (stage : Stage) : Prop where
  valid : stage.Valid s fs
  event : stage.event ≠ none
  performs : Performs streams action fs [stage] (.ok ())
  half : stage.half fs ∈ action.states (exec streams) fs
  related : related fs (stage.whole fs)

/-- A loop over the documents of a stream, of which some are active: one stage for each of
these. -/
theorem performs_forEach (action : δ → Prog Unit) (active : δ → Bool)
    (current : Database → δ → Prop) (related : Database → Database → Prop)
    (hrefl : ∀ fs, related fs fs)
    (htrans : ∀ {a b c}, related a b → related b c → related a c)
    (hidle : ∀ d, active d = false → action d = .ret ())
    (docs : List δ)
    (hturn : ∀ fs d rest, (d :: rest) <:+ docs → WellFormed fs → current fs d →
      active d = true → (∀ later ∈ rest, current fs later) →
      ∃ stage, Turn s streams (action d) related fs stage ∧
        ∀ later ∈ rest, current (stage.whole fs) later) :
    ∀ (rest : List δ) (fs : Database), rest <:+ docs → WellFormed fs →
      (∀ d ∈ rest, current fs d) →
      ∃ stages, Chain s fs stages ∧ Performs streams (forEach action rest) fs stages (.ok ()) ∧
        related fs (applied fs stages) ∧
        ((∀ d ∈ rest, active d = false) → stages = []) ∧
        ((∃ d ∈ rest, active d = true) → ∃ stage more, stages = stage :: more ∧
          stage.event ≠ none ∧
          stage.half fs ∈ (forEach action rest).states (exec streams) fs) := by
  intro rest
  induction rest with
  | nil =>
      intro fs _ _ _
      refine ⟨[], trivial, performs_ret (), hrefl fs, fun _ => rfl, ?_⟩
      rintro ⟨d, hd, -⟩
      cases hd
  | cons d rest ih =>
      intro fs hsuffix hformed hcurrent
      have hrest : rest <:+ docs := (List.suffix_cons d rest).trans hsuffix
      cases hactive : active d with
      | false =>
          obtain ⟨stages, hchain, hperforms, hrelated, hnone, hsome⟩ :=
            ih fs hrest hformed fun later hlater => hcurrent later (by simp [hlater])
          have hsame : forEach action (d :: rest) = forEach action rest := by
            simp only [forEach, hidle d hactive, Program.ret_bind]
          refine ⟨stages, hchain, hsame ▸ hperforms, hrelated, ?_, ?_⟩
          · exact fun h => hnone fun later hlater => h later (by simp [hlater])
          · rintro ⟨other, hother, hisactive⟩
            rw [hsame]
            refine hsome ⟨other, ?_, hisactive⟩
            rcases List.mem_cons.1 hother with rfl | hother
            · rw [hactive] at hisactive
              cases hisactive
            · exact hother
      | true =>
          obtain ⟨stage, hdone, hlater⟩ := hturn fs d rest hsuffix hformed (hcurrent d (by simp))
            hactive fun later hlater => hcurrent later (by simp [hlater])
          obtain ⟨stages, hchain, hperforms, hrelated, -, -⟩ :=
            ih (stage.whole fs) hrest hdone.valid.whole_formed hlater
          refine ⟨stage :: stages, ⟨hdone.valid, hchain⟩, ?_, ?_, ?_, ?_⟩
          · exact hdone.performs.bind hperforms
          · exact htrans hdone.related hrelated
          · intro h
            rw [h d (by simp)] at hactive
            cases hactive
          · exact fun _ => ⟨stage, stages, rfl, hdone.event,
              Program.mem_states_bind.2 (.inl hdone.half)⟩

end Loop

section Reclaim

variable {s : Settings} {streams : StreamOrder} {fs : Database} {now : Time}

def Database.jobTable (fs : Database) : JobTable := fun id => (fs.job id).map JobDoc.toJob

theorem jobTable_eq_some {id : String} {job : Job} :
    fs.jobTable id = some job ↔ ∃ doc, fs.job id = some doc ∧ doc.toJob = job :=
  Option.map_eq_some_iff

theorem mem_of_job {id : String} {doc : JobDoc} (h : fs.job id = some doc) : doc ∈ fs.jobs :=
  Rows.lookup_mem h

theorem whole_job (stage : Stage) (other : String) :
    (stage.whole fs).job other = (stage.half fs).job other := by
  cases hevent : stage.event with
  | none => simp only [Stage.whole, hevent]
  | some o => simp only [Stage.whole, hevent]; rfl

theorem whole_delivery (stage : Stage) (other : String) :
    (stage.whole fs).delivery other = (stage.half fs).delivery other := by
  cases hevent : stage.event with
  | none => simp only [Stage.whole, hevent]
  | some o => simp only [Stage.whole, hevent]; rfl

theorem write_job (doc : JobDoc) (other : String) :
    (fs.write (.job doc)).job other = if doc.id = other then some doc else fs.job other :=
  Rows.lookup_put doc other

theorem write_delivery (doc : DeliveryDoc) (other : String) :
    (fs.write (.delivery doc)).delivery other =
      if doc.jobId = other then some doc else fs.delivery other :=
  Rows.lookup_put doc other

theorem requeued_stage {doc doc' : JobDoc} {id : String} {o : Option Occurrence}
    (hdoc : fs.job id = some doc) (hold : Requeuable now doc.toJob) (hid : doc'.id = id)
    (hqueued : doc'.status = .queued) :
    Requeued now fs.jobTable (Stage.whole ⟨[.job doc'], id, o⟩ fs).jobTable := by
  intro other
  simp only [Database.jobTable, whole_job, Stage.half, List.foldl, write_job]
  by_cases h : other = id
  · subst h
    exact .inr ⟨doc.toJob, doc'.toJob, by simp [hdoc], hold, by simp [hid], hqueued⟩
  · exact .inl (by rw [if_neg fun heq => h (heq.symm.trans hid)])

def RunningDoc (fs : Database) (doc : JobDoc) : Prop :=
  fs.job doc.id = some doc ∧ doc.status = .running

theorem reclaim_turn (hformed : WellFormed fs) {doc : JobDoc} (hdoc : RunningDoc fs doc)
    (hexpired : expired now doc.claimExpiresAt = true) :
    ∃ stage, Turn s streams (reclaimInvestigation s now doc)
        (fun fs fs' => Requeued now fs.jobTable fs'.jobTable) fs stage ∧
      ∀ later, later.id ≠ doc.id → RunningDoc fs later → RunningDoc (stage.whole fs) later := by
  obtain ⟨hstored, hrunning⟩ := hdoc
  have hothers : ∀ (doc' : JobDoc) (o : Option Occurrence), doc'.id = doc.id →
      ∀ later : JobDoc, later.id ≠ doc.id → RunningDoc fs later →
        RunningDoc (Stage.whole ⟨[.job doc'], doc.id, o⟩ fs) later := by
    rintro doc' o hid later hne ⟨hlater, hstatus⟩
    refine ⟨?_, hstatus⟩
    simp only [whole_job, Stage.half, List.foldl, write_job]
    rw [if_neg fun heq => hne (heq.symm.trans hid), hlater]
  have hold : Requeuable now doc.toJob := .inl ⟨hrunning, hexpired⟩
  simp only [reclaimInvestigation, hexpired, Bool.not_true, Bool.false_eq_true, if_false]
  split
  · rename_i hlimit
    exact ⟨_, ⟨jobStage hformed hstored (by rfl) (jobChange (.leaseFailed hrunning hexpired hlimit)),
      by simp, performs_split _ _ _, half_mem_split _ _,
      requeued_stage hstored hold rfl rfl⟩, hothers _ _ rfl⟩
  · rename_i hlimit
    exact ⟨_, ⟨jobStage hformed hstored (by rfl)
      (jobChange (.leaseExpired hrunning hexpired (not_le.1 hlimit))),
      by simp, performs_split _ _ _, half_mem_split _ _,
      requeued_stage hstored hold rfl rfl⟩, hothers _ _ rfl⟩

theorem keyed_order {α κ : Type} {key : α → κ} {docs : List α} (streams : StreamOrder)
    (h : Rows.Keyed key docs) : Rows.Keyed key (streams.order docs) := by
  have hperm := (streams.perm docs).map key
  exact hperm.nodup_iff.2 h

/-- The documents of a stream have different keys, so a later one is not an earlier one. -/
theorem ne_of_suffix {α κ : Type} {key : α → κ} {docs rest : List α} {d later : α}
    (h : Rows.Keyed key docs) (hsuffix : (d :: rest) <:+ docs) (hlater : later ∈ rest) :
    key later ≠ key d := by
  have hnodup : (key d :: rest.map key).Nodup := (h.of_sublist hsuffix.sublist : Rows.Keyed key _)
  exact fun heq => (List.nodup_cons.1 hnodup).1 (List.mem_map.2 ⟨later, hlater, heq⟩)

/-- What `_reclaim_expired_investigations` performs. -/
theorem performs_reclaimExpired (hformed : WellFormed fs) :
    ∃ stages, Chain s fs stages ∧
      Performs streams (reclaimExpiredInvestigations s now) fs stages (.ok ()) ∧
      Requeued now fs.jobTable (applied fs stages).jobTable ∧
      ((∀ doc ∈ fs.jobs, doc.status = .running → expired now doc.claimExpiresAt = false) →
        stages = []) ∧
      ((∃ doc ∈ fs.jobs, doc.status = .running ∧ expired now doc.claimExpiresAt = true) →
        ∃ stage more, stages = stage :: more ∧ stage.event ≠ none ∧
          stage.half fs ∈ (reclaimExpiredInvestigations s now).states (exec streams) fs) := by
  have hkeyed : Rows.Keyed JobDoc.key (streams.order (fs.jobs.filter
      (JobQuery.status .running).selects)) :=
    keyed_order streams (hformed.jobs.of_sublist List.filter_sublist)
  have hmem : ∀ doc, doc ∈ streams.order (fs.jobs.filter (JobQuery.status .running).selects) ↔
      doc ∈ fs.jobs ∧ doc.status = .running := by
    intro doc
    simp [JobQuery.selects]
  obtain ⟨stages, hchain, hperforms, hrequeued, hnone, hsome⟩ :=
    performs_forEach (s := s) (reclaimInvestigation s now)
      (fun doc => expired now doc.claimExpiresAt) RunningDoc
      (fun fs fs' => Requeued now fs.jobTable fs'.jobTable) (fun _ => .refl now _)
      (fun h h' => h.trans h')
      (fun doc hidle => by simp only [reclaimInvestigation, hidle, Bool.not_false, if_true])
      (streams.order (fs.jobs.filter (JobQuery.status .running).selects))
      (fun fs doc rest hsuffix hformed hdoc hactive hlater => by
        obtain ⟨stage, hturn, hothers⟩ := @reclaim_turn s streams fs now hformed doc hdoc hactive
        refine ⟨stage, hturn, fun later hmem => hothers later ?_ (hlater later hmem)⟩
        exact (ne_of_suffix hkeyed hsuffix hmem : later.key ≠ doc.key))
      _ fs (List.suffix_refl _) hformed
      (fun doc hdoc => ⟨hformed.jobs.lookup_of_mem ((hmem doc).1 hdoc).1, ((hmem doc).1 hdoc).2⟩)
  refine ⟨stages, hchain, hperforms.read (exec_streamJobs _), hrequeued, ?_, ?_⟩
  · exact fun h => hnone fun doc hdoc => h doc ((hmem doc).1 hdoc).1 ((hmem doc).1 hdoc).2
  · rintro ⟨doc, hdoc, hrunning, hexpired⟩
    obtain ⟨stage, more, hstages, hevent, hhalf⟩ :=
      hsome ⟨doc, (hmem doc).2 ⟨hdoc, hrunning⟩, hexpired⟩
    exact ⟨stage, more, hstages, hevent, List.mem_cons_of_mem _ hhalf⟩

end Reclaim

section ClaimNext

variable {s : Settings} {streams : StreamOrder} {fs : Database} {now : Time}

/-- A RUNNING job, a backoff of the lab, or no job that is due. -/
def NothingClaimable (now : Time) (fs : Database) : Prop :=
  (∃ doc ∈ fs.jobs, doc.status = .running) ∨
    (∃ doc ∈ fs.jobs, Waiting doc.toJob ∧ deferredScenario now doc = true) ∨
    ∀ doc ∈ fs.jobs, Waiting doc.toJob → now < doc.availableAt

/-- The part of `claim_next` that follows the reclaim. -/
def selectDoc (s : Settings) (a : Ambient) : Prog Reply :=
  .call (.streamJobs (.status .running)) fun running =>
    if !running.isEmpty then .ret (.claim none)
    else
      .call (.streamJobs (.status .queued)) fun docs =>
        let queued := docs.filter fun data => data.failureReason.isNone
        if queued.any (deferredScenario a.now) then .ret (.claim none)
        else
          match (queued.filter fun data => data.availableAt ≤ a.now).argmin claimOrder with
          | none => .ret (.claim none)
          | some row => claimDoc s a row

theorem claimNext_eq (a : Ambient) :
    claimNext s a = reclaimExpiredInvestigations s a.now >>= fun _ => selectDoc s a := rfl

def startedDoc (s : Settings) (a : Ambient) (row : JobDoc) : JobDoc :=
  { row with
    status := .running
    claimToken := some a.fresh.hex
    claimExpiresAt := some (a.now + s.claimLeaseSeconds) }

def startStage (s : Settings) (a : Ambient) (row : JobDoc) : Stage :=
  ⟨[.job (startedDoc s a row)], row.id, some .investigationStarted⟩

theorem exists_read {α : Type} {stages : List Stage} {op : Op} {next : op.Res → Prog α}
    {answer : op.Res} (hread : exec streams op fs = (answer, fs))
    (h : ∃ outcome, Performs streams (next answer) fs stages outcome) :
    ∃ outcome, Performs streams (.call op next) fs stages outcome := by
  obtain ⟨outcome, h⟩ := h
  exact ⟨outcome, .read hread h⟩

theorem exists_split {writes : List Write} {id : String} {o : Occurrence} {next : Unit → Prog Reply}
    (h : ∃ outcome, Performs streams (next ()) (Stage.whole ⟨writes, id, some o⟩ fs) [] outcome) :
    ∃ outcome, Performs streams (commit writes >>= fun _ => event id o >>= next) fs
      [⟨writes, id, some o⟩] outcome := by
  obtain ⟨outcome, hrest⟩ := h
  exact ⟨outcome, Performs.split hrest⟩

theorem performs_claimDoc (a : Ambient) (row : JobDoc) :
    ∃ outcome, Performs streams (claimDoc s a row) fs [startStage s a row] outcome := by
  refine exists_split ?_
  change ∃ outcome, Performs streams _ ((startStage s a row).whole fs) [] outcome
  cases hdecision : ((startStage s a row).whole fs).decision row.id with
  | none =>
      have hread : exec streams (.getDecision row.id) ((startStage s a row).whole fs) =
          (none, (startStage s a row).whole fs) :=
        exec_getDecision.trans (by rw [hdecision])
      exact exists_read hread ⟨_, performs_ret _⟩
  | some decisionData =>
      have hread : exec streams (.getDecision row.id) ((startStage s a row).whole fs) =
          (some decisionData, (startStage s a row).whole fs) :=
        exec_getDecision.trans (by rw [hdecision])
      refine exists_read hread ?_
      cases hvalid : OwnerDecision.validate decisionData.decision decisionData.rejectionNote with
      | none =>
          simp only [hvalid]
          exact ⟨_, performs_raise _⟩
      | some ownerDecision =>
          cases hcheckpoint : presentCheckpoint row.checkpointId with
          | none =>
              simp only [hvalid]
              exact ⟨_, performs_raise _⟩
          | some checkpointId =>
              by_cases hsame : decisionData.checkpointId ≠ checkpointId
              · simp only [hvalid, if_pos hsame]
                exact ⟨_, performs_raise _⟩
              · simp only [hvalid, if_neg hsame]
                exact ⟨_, performs_ret _⟩

theorem claimOrder_le_of_none {row other : JobDoc} (h : claimOrder row ≤ claimOrder other)
    (hnone : row.incidentId = none) : other.incidentId = none := by
  cases hother : other.incidentId with
  | none => rfl
  | some incident =>
      exfalso
      simp only [claimOrder, hnone, hother, Option.isSome_none, Option.isSome_some,
        Bool.false_eq_true, if_false, if_true] at h
      have hle := Prod.Lex.toLex_le_toLex.1 h
      simp at hle

theorem started_table (a : Ambient) (row : JobDoc) (other : String) :
    (applied fs [startStage s a row]).jobTable other =
      if other = row.id then some (startedDoc s a row).toJob else fs.jobTable other := by
  simp only [Database.jobTable, applied, List.foldl, whole_job, startStage, Stage.half, write_job]
  have hid : (startedDoc s a row).id = row.id := rfl
  rw [hid]
  by_cases h : other = row.id
  · rw [if_pos h, if_pos h.symm]
    rfl
  · rw [if_neg h, if_neg fun heq : row.id = other => h heq.symm]

/-- How the selection goes: nothing is claimable, or the job that is selected is started. -/
inductive Selection (s : Settings) (streams : StreamOrder) (a : Ambient) (fs : Database) : Prop
  | nothing (hnothing : NothingClaimable a.now fs)
      (hperforms : ∃ outcome, Performs streams (selectDoc s a) fs [] outcome)
  | started {row : JobDoc} (hclaimable : ¬ NothingClaimable a.now fs)
      (hdoc : fs.job row.id = some row)
      (hselected : Selected a.now fs.jobTable row.toJob)
      (hvalid : (startStage s a row).Valid s fs)
      (hperforms : ∃ outcome, Performs streams (selectDoc s a) fs [startStage s a row] outcome)
      (hhalf : (startStage s a row).half fs ∈ (selectDoc s a).states (exec streams) fs)

theorem selection (hformed : WellFormed fs) (a : Ambient) : Selection s streams a fs := by
  have hstatus : ∀ (status : JobStatus) (doc : JobDoc),
      doc ∈ streams.order (fs.jobs.filter (JobQuery.status status).selects) ↔
        doc ∈ fs.jobs ∧ doc.status = status := by
    intro status doc
    simp [JobQuery.selects]
  have hwaiting : ∀ doc : JobDoc,
      doc ∈ (streams.order (fs.jobs.filter (JobQuery.status .queued).selects)).filter
        (fun data => data.failureReason.isNone) ↔ doc ∈ fs.jobs ∧ Waiting doc.toJob := by
    intro doc
    rw [List.mem_filter, hstatus, Option.isNone_iff_eq_none]
    exact ⟨fun h => ⟨h.1.1, h.1.2, h.2⟩, fun h => ⟨⟨h.1, h.2.queued⟩, h.2.live⟩⟩
  have hfirst : exec streams (.streamJobs (.status .running)) fs =
      (streams.order (fs.jobs.filter (JobQuery.status .running).selects), fs) :=
    exec_streamJobs _
  have hsecond : exec streams (.streamJobs (.status .queued)) fs =
      (streams.order (fs.jobs.filter (JobQuery.status .queued).selects), fs) :=
    exec_streamJobs _
  by_cases hrunning : ∃ doc ∈ fs.jobs, doc.status = .running
  · refine .nothing (.inl hrunning) (exists_read hfirst ?_)
    obtain ⟨doc, hdoc, hstatusRunning⟩ := hrunning
    have hmem := (hstatus .running doc).2 ⟨hdoc, hstatusRunning⟩
    have hnonempty : (streams.order (fs.jobs.filter
        (JobQuery.status .running).selects)).isEmpty = false := by
      rw [List.isEmpty_eq_false_iff]
      exact List.ne_nil_of_mem hmem
    simp only [hnonempty, Bool.not_false, if_true]
    exact ⟨_, performs_ret _⟩
  · have hempty : (streams.order (fs.jobs.filter
        (JobQuery.status .running).selects)).isEmpty = true := by
      rw [List.isEmpty_iff, List.eq_nil_iff_forall_not_mem]
      exact fun doc hdoc => hrunning ⟨doc, (hstatus .running doc).1 hdoc⟩
    by_cases hdeferred : ∃ doc ∈ fs.jobs, Waiting doc.toJob ∧ deferredScenario a.now doc = true
    · refine .nothing (.inr (.inl hdeferred)) (exists_read hfirst ?_)
      simp only [hempty, Bool.not_true, Bool.false_eq_true, if_false]
      refine exists_read hsecond ?_
      obtain ⟨doc, hdoc, hwaits, hdefers⟩ := hdeferred
      rw [if_pos (List.any_eq_true.2 ⟨doc, (hwaiting doc).2 ⟨hdoc, hwaits⟩, hdefers⟩)]
      exact ⟨_, performs_ret _⟩
    · have hnone : ¬ ((streams.order (fs.jobs.filter (JobQuery.status .queued).selects)).filter
          (fun data => data.failureReason.isNone)).any (deferredScenario a.now) = true := by
        rw [List.any_eq_true]
        rintro ⟨doc, hdoc, hdefers⟩
        exact hdeferred ⟨doc, ((hwaiting doc).1 hdoc).1, ((hwaiting doc).1 hdoc).2, hdefers⟩
      cases hargmin : (((streams.order (fs.jobs.filter (JobQuery.status .queued).selects)).filter
          (fun data => data.failureReason.isNone)).filter
            fun data => data.availableAt ≤ a.now).argmin claimOrder with
      | none =>
          have hnil := List.argmin_eq_none.1 hargmin
          refine .nothing (.inr (.inr fun doc hdoc hwaits => ?_)) (exists_read hfirst ?_)
          · by_contra hdue
            have hmem : doc ∈ ((streams.order (fs.jobs.filter
                (JobQuery.status .queued).selects)).filter
                  (fun data => data.failureReason.isNone)).filter
                    fun data => data.availableAt ≤ a.now :=
              List.mem_filter.2 ⟨(hwaiting doc).2 ⟨hdoc, hwaits⟩,
                decide_eq_true (not_lt.1 hdue)⟩
            rw [hnil] at hmem
            cases hmem
          · simp only [hempty, Bool.not_true, Bool.false_eq_true, if_false]
            refine exists_read hsecond ?_
            simp only [if_neg hnone, hargmin]
            exact ⟨_, performs_ret _⟩
      | some row =>
          obtain ⟨hmem, hdue⟩ := List.mem_filter.1 (List.argmin_mem hargmin)
          obtain ⟨hstored, hwaits⟩ := (hwaiting row).1 hmem
          have havailable : row.availableAt ≤ a.now := of_decide_eq_true hdue
          have hdoc : fs.job row.id = some row := hformed.jobs.lookup_of_mem hstored
          have hstart : JobChange s row.toJob (startedDoc s a row).toJob
              (some .investigationStarted) :=
            jobChange (.started trivial hwaits.queued hwaits.live havailable
              (by simp [Sqlite.Database.empty]) (by simp [Sqlite.Database.empty])
              (by simp [Sqlite.Database.empty]))
          have hvalid : (startStage s a row).Valid s fs :=
            jobStage hformed hdoc (by rfl) hstart
          have hselect : ∃ outcome,
              Performs streams (selectDoc s a) fs [startStage s a row] outcome := by
            refine exists_read hfirst ?_
            simp only [hempty, Bool.not_true, Bool.false_eq_true, if_false]
            refine exists_read hsecond ?_
            simp only [if_neg hnone, hargmin]
            exact performs_claimDoc a row
          have hjobs : ∀ {id : String} {job : Job}, fs.jobTable id = some job →
              ∃ doc ∈ fs.jobs, doc.toJob = job := by
            intro id job hjob
            obtain ⟨doc, hdoc, hsame⟩ := jobTable_eq_some.1 hjob
            exact ⟨doc, mem_of_job hdoc, hsame⟩
          refine .started ?_ hdoc ?_ hvalid hselect ?_
          · rintro (h | h | h)
            · exact hrunning h
            · exact hdeferred h
            · exact absurd (h row hstored hwaits) (not_lt.2 havailable)
          · refine ⟨?_, ?_, ?_⟩
            · intro id job hjob hisrunning
              obtain ⟨doc, hmem, rfl⟩ := hjobs hjob
              exact hrunning ⟨doc, hmem, hisrunning⟩
            · intro id job hjob hwaits hincident
              obtain ⟨doc, hmem, rfl⟩ := hjobs hjob
              by_contra hlater
              refine hdeferred ⟨doc, hmem, hwaits, ?_⟩
              simp [deferredScenario, Option.isSome_iff_ne_none.2 hincident, not_le.1 hlater]
            · intro hincident id job hjob hwaits hready
              obtain ⟨doc, hmem, rfl⟩ := hjobs hjob
              exact claimOrder_le_of_none (List.le_of_mem_argmin (List.mem_filter.2
                ⟨(hwaiting doc).2 ⟨hmem, hwaits⟩, decide_eq_true hready⟩) hargmin) hincident
          · have hstates : (selectDoc s a).states (exec streams) fs =
                fs :: fs :: (claimDoc s a row).states (exec streams) fs := by
              simp only [selectDoc, Program.states_call, hfirst, hempty, Bool.not_true,
                Bool.false_eq_true, if_false, hsecond, if_neg hnone, hargmin]
            rw [hstates]
            exact List.mem_cons_of_mem _ (List.mem_cons_of_mem _ (half_mem_split _ _))

/-- No lease has ended, and nothing can be claimed. -/
def NothingDue (now : Time) (fs : Database) : Prop :=
  (∀ doc ∈ fs.jobs, doc.status = .running → expired now doc.claimExpiresAt = false) ∧
    NothingClaimable now fs

/-- What `claim_next` performs, and what it claims. -/
theorem course_claimNext (hformed : WellFormed fs) (a : Ambient) :
    Course s streams (claimNext s a) fs (NothingDue a.now fs) ∧
      ClaimsExclusively a.now fs.jobTable
        ((claimNext s a).run (exec streams) fs).2.jobTable ∧
      ClaimsExclusively a.now
        ((reclaimExpiredInvestigations s a.now).run (exec streams) fs).2.jobTable
        ((claimNext s a).run (exec streams) fs).2.jobTable := by
  obtain ⟨stages, hchain, hperforms, hrequeued, hnone, hsome⟩ :=
    @performs_reclaimExpired s streams fs a.now hformed
  have hformed' := hchain.formed hformed
  have hreclaimed := hperforms.run
  rw [claimNext_eq]
  by_cases hexpired : ∃ doc ∈ fs.jobs, doc.status = .running ∧
      expired a.now doc.claimExpiresAt = true
  · -- The first lease that has ended can be cut short.
    obtain ⟨stage, more, rfl, hevent, hhalf⟩ := hsome hexpired
    have htorn : ¬ NothingDue a.now fs := by
      obtain ⟨doc, hdoc, hrunning, hends⟩ := hexpired
      intro h
      rw [h.1 doc hdoc hrunning] at hends
      cases hends
    have hcut : stage.half fs ∈ (reclaimExpiredInvestigations s a.now >>= fun _ =>
        selectDoc s a).states (exec streams) fs := Program.mem_states_bind.2 (.inl hhalf)
    rcases @selection s streams (applied fs (stage :: more)) hformed' a with
      ⟨-, outcome, hselect⟩ | @⟨row, -, hdoc, hselected, hvalid, ⟨outcome, hselect⟩, -⟩
    · have hall := hperforms.bind (f := fun _ => selectDoc s a) hselect
      rw [List.append_nil] at hall
      refine ⟨.torn htorn hchain hevent hall hcut, ?_⟩
      rw [hall.run, hreclaimed]
      exact ⟨hrequeued.claims_none, (Requeued.refl a.now _).claims_none⟩
    · have hall := hperforms.bind (f := fun _ => selectDoc s a) hselect
      have hchain' : Chain s fs (stage :: (more ++ [startStage s a row])) :=
        hchain.append ⟨hvalid, trivial⟩
      refine ⟨.torn htorn hchain' hevent hall hcut, ?_⟩
      rw [hall.run, hreclaimed, applied_append]
      have hincident : (startedDoc s a row).toJob.incidentId = row.toJob.incidentId := rfl
      exact ⟨hrequeued.claims hselected hincident (started_table a row),
        (Requeued.refl a.now _).claims hselected hincident (started_table a row)⟩
  · have hquiet : ∀ doc ∈ fs.jobs, doc.status = .running →
        expired a.now doc.claimExpiresAt = false := fun doc hdoc hrunning => by
      by_contra hends
      exact hexpired ⟨doc, hdoc, hrunning, by simpa using hends⟩
    obtain rfl := hnone hquiet
    rcases @selection s streams fs hformed a with
      ⟨hnothing, outcome, hselect⟩ |
      @⟨row, hclaimable, hdoc, hselected, hvalid, ⟨outcome, hselect⟩, hhalf⟩
    · have hall := hperforms.bind (f := fun _ => selectDoc s a) hselect
      refine ⟨.still ⟨hquiet, hnothing⟩ hall, ?_⟩
      rw [hall.run, hreclaimed]
      exact ⟨(Requeued.refl a.now _).claims_none, (Requeued.refl a.now _).claims_none⟩
    · have hall : Performs streams (reclaimExpiredInvestigations s a.now >>= fun _ =>
          selectDoc s a) fs [startStage s a row] outcome :=
        hperforms.bind (f := fun _ => selectDoc s a) hselect
      have hchain' : Chain s fs [startStage s a row] := ⟨hvalid, trivial⟩
      refine ⟨.torn (fun h => hclaimable h.2) hchain' nofun hall ?_, ?_⟩
      · exact Program.mem_states_bind.2 (.inr ⟨(), fs, hperforms.run, hhalf⟩)
      · rw [hall.run, hreclaimed]
        have hincident : (startedDoc s a row).toJob.incidentId = row.toJob.incidentId := rfl
        have hclaims := (Requeued.refl a.now _).claims hselected hincident (started_table a row)
        exact ⟨hclaims, hclaims⟩

end ClaimNext

end CausalOps.ControlPlane.Firestore
