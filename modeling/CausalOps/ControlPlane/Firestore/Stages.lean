import CausalOps.ControlPlane.Threads
import CausalOps.ControlPlane.Firestore

set_option autoImplicit false

/-! What the methods of the Firestore control plane write, stage by stage: a stage changes
one investigation and appends its event, in one batch or in two commits. -/

namespace CausalOps.ControlPlane.Firestore

def Database.thread (fs : Database) (id : String) : Thread where
  job := (fs.job id).map JobDoc.toJob
  delivery := (fs.delivery id).map DeliveryDoc.toDelivery
  timeline := fs.timeline id

/-- One document for each id, and timelines without gaps. -/
structure WellFormed (fs : Database) : Prop where
  jobs : Rows.Keyed JobDoc.key fs.jobs
  deliveries : Rows.Keyed DeliveryDoc.key fs.deliveries
  numbered : ∀ id, Numbered (fs.timeline id)

theorem wellFormed_empty : WellFormed .empty :=
  ⟨by simp [Database.empty], by simp [Database.empty], fun _ => rfl⟩

section Writes

variable {fs : Database} {id : String}

theorem thread_of_job {doc : JobDoc} (hdoc : fs.job id = some doc) :
    (fs.thread id).job = some doc.toJob := by
  simp [Database.thread, hdoc]

theorem thread_of_delivery {doc : DeliveryDoc} (hdoc : fs.delivery id = some doc) :
    (fs.thread id).delivery = some doc.toDelivery := by
  simp [Database.thread, hdoc]

theorem job_id {doc : JobDoc} (hdoc : fs.job id = some doc) : doc.id = id :=
  (Rows.lookup_key hdoc : doc.key = id)

theorem delivery_jobId {doc : DeliveryDoc} (hdoc : fs.delivery id = some doc) :
    doc.jobId = id :=
  (Rows.lookup_key hdoc : doc.key = id)

theorem thread_write_job (fs : Database) (doc : JobDoc) (other : String) :
    (fs.write (.job doc)).thread other =
      if doc.id = other then { fs.thread other with job := some doc.toJob }
      else fs.thread other := by
  have hjob : (fs.write (.job doc)).job other =
      if doc.id = other then some doc else fs.job other := Rows.lookup_put doc other
  have hdelivery : (fs.write (.job doc)).delivery other = fs.delivery other := rfl
  have htimeline : (fs.write (.job doc)).timeline other = fs.timeline other := rfl
  simp only [Database.thread, hjob, hdelivery, htimeline]
  split <;> rfl

theorem thread_write_delivery (fs : Database) (doc : DeliveryDoc) (other : String) :
    (fs.write (.delivery doc)).thread other =
      if doc.jobId = other then { fs.thread other with delivery := some doc.toDelivery }
      else fs.thread other := by
  have hdelivery : (fs.write (.delivery doc)).delivery other =
      if doc.jobId = other then some doc else fs.delivery other := Rows.lookup_put doc other
  have hjob : (fs.write (.delivery doc)).job other = fs.job other := rfl
  have htimeline : (fs.write (.delivery doc)).timeline other = fs.timeline other := rfl
  simp only [Database.thread, hjob, hdelivery, htimeline]
  split <;> rfl

theorem record_events (hnumbered : Numbered (fs.timeline id)) (o : Occurrence) :
    (fs.record id o).events = fs.events ++ [fs.nextEvent id o] := by
  refine Rows.put_of_absent (Rows.lookup_eq_none.2 fun doc hdoc hkey => ?_)
  obtain ⟨hjob, hordinal⟩ : doc.jobId = id ∧ doc.ordinal = (fs.timeline id).length :=
    Prod.mk.inj hkey
  have hmem : doc.toTimelineEvent ∈ fs.timeline id :=
    List.mem_map.2 ⟨doc, List.mem_filter.2 ⟨hdoc, by simpa using hjob⟩, rfl⟩
  have hrange : doc.ordinal ∈ (fs.timeline id).map TimelineEvent.ordinal :=
    List.mem_map.2 ⟨_, hmem, rfl⟩
  have hordinals : (fs.timeline id).map TimelineEvent.ordinal =
      List.range (fs.timeline id).length := hnumbered
  rw [hordinals, List.mem_range, hordinal] at hrange
  exact Nat.lt_irrefl _ hrange

theorem timeline_record (hnumbered : Numbered (fs.timeline id)) (o : Occurrence)
    (other : String) :
    (fs.record id o).timeline other =
      if id = other then appended (fs.timeline other) (some o) else fs.timeline other := by
  simp only [Database.timeline, record_events hnumbered o, Database.nextEvent, appended]
  by_cases h : id = other <;> simp [h]

end Writes

section Stages

/-- A stage: documents, and the event of one investigation, if it has one. -/
structure Stage where
  writes : List Write
  id : String
  event : Option Occurrence

def Stage.half (stage : Stage) (fs : Database) : Database := stage.writes.foldl Database.write fs

def Stage.whole (stage : Stage) (fs : Database) : Database :=
  match stage.event with
  | none => stage.half fs
  | some o => (stage.half fs).record stage.id o

/-- The documents of a stage are those of one investigation, and with the event they make
one step of it. -/
structure Stage.Valid (s : Settings) (stage : Stage) (fs : Database) : Prop where
  formed : WellFormed (stage.half fs)
  events : (stage.half fs).events = fs.events
  others : ∀ other, other ≠ stage.id → (stage.half fs).thread other = fs.thread other
  step : Thread.Step s (fs.thread stage.id)
    { (stage.half fs).thread stage.id with
      timeline := appended (fs.timeline stage.id) stage.event }

def Chain (s : Settings) : Database → List Stage → Prop
  | _, [] => True
  | fs, stage :: rest => stage.Valid s fs ∧ Chain s (stage.whole fs) rest

def applied (fs : Database) (stages : List Stage) : Database :=
  stages.foldl (fun fs stage => stage.whole fs) fs

variable {s : Settings} {fs : Database} {stage : Stage}

theorem Stage.Valid.timeline (h : stage.Valid s fs) (id : String) :
    (stage.half fs).timeline id = fs.timeline id := by
  simp only [Database.timeline, h.events]

theorem Stage.Valid.whole_thread (h : stage.Valid s fs) (id : String) :
    (stage.whole fs).thread id =
      if id = stage.id then { (stage.half fs).thread stage.id with
        timeline := appended (fs.timeline stage.id) stage.event }
      else fs.thread id := by
  have hhalf := h.timeline stage.id
  by_cases hid : id = stage.id
  · subst hid
    rw [if_pos rfl]
    cases hevent : stage.event with
    | none =>
        simp only [Stage.whole, hevent, appended]
        rw [← hhalf]
        rfl
    | some o =>
        simp only [Stage.whole, hevent]
        have htimeline := timeline_record (h.formed.numbered stage.id) o stage.id
        rw [if_pos rfl, hhalf] at htimeline
        rw [← htimeline]
        rfl
  · rw [if_neg hid, ← h.others id hid]
    cases hevent : stage.event with
    | none => simp only [Stage.whole, hevent]
    | some o =>
        simp only [Stage.whole, hevent]
        have htimeline := timeline_record (h.formed.numbered stage.id) o id
        rw [if_neg fun heq => hid heq.symm] at htimeline
        simp only [Database.thread, htimeline]
        rfl

theorem Stage.Valid.whole_formed (h : stage.Valid s fs) : WellFormed (stage.whole fs) := by
  refine ⟨?_, ?_, fun id => ?_⟩
  · cases hevent : stage.event <;> simp only [Stage.whole, hevent] <;> exact h.formed.jobs
  · cases hevent : stage.event <;> simp only [Stage.whole, hevent] <;> exact h.formed.deliveries
  · have hthread := congrArg Thread.timeline (h.whole_thread id)
    have htimeline : (stage.whole fs).timeline id = _ := hthread
    rw [htimeline]
    have hnumbered : ∀ other, Numbered (fs.timeline other) := fun other =>
      h.timeline other ▸ h.formed.numbered other
    split
    · exact (hnumbered stage.id).appended _
    · exact hnumbered id

/-- A valid stage makes a step of its investigation and leaves the others as they are. -/
theorem Stage.Valid.thread (h : stage.Valid s fs) (id : String) :
    (stage.whole fs).thread id = fs.thread id ∨
      Thread.Step s (fs.thread id) ((stage.whole fs).thread id) := by
  rw [h.whole_thread id]
  by_cases hid : id = stage.id
  · rw [if_pos hid, hid]
    exact .inr h.step
  · exact .inl (if_neg hid)

theorem Chain.append {stages more : List Stage} (h : Chain s fs stages)
    (h' : Chain s (applied fs stages) more) : Chain s fs (stages ++ more) := by
  induction stages generalizing fs with
  | nil => exact h'
  | cons stage rest ih => exact ⟨h.1, ih h.2 h'⟩

theorem Chain.formed {stages : List Stage} (h : Chain s fs stages) (hformed : WellFormed fs) :
    WellFormed (applied fs stages) := by
  induction stages generalizing fs with
  | nil => exact hformed
  | cons stage rest ih => exact ih h.2 h.1.whole_formed

theorem Chain.thread {stages : List Stage} (h : Chain s fs stages) (id : String) :
    Thread.Steps s (fs.thread id) ((applied fs stages).thread id) := by
  induction stages generalizing fs with
  | nil => exact .refl
  | cons stage rest ih =>
      have hrest : Thread.Steps s ((stage.whole fs).thread id) _ := ih h.2
      rcases h.1.thread id with hsame | hstep
      · rw [← hsame]
        exact hrest
      · exact .head hstep hrest

end Stages

section Documents

variable {s : Settings} {fs : Database} {id : String}

theorem jobStage (hformed : WellFormed fs) {doc : JobDoc} (hdoc : fs.job id = some doc)
    {job : Job} {o : Option Occurrence} (hid : job.id = doc.id)
    (hchange : JobChange s doc.toJob job o) :
    Stage.Valid s ⟨[.job { doc with toJob := job }], id, o⟩ fs := by
  have hkey := job_id hdoc
  have hwritten := thread_write_job fs { doc with toJob := job }
  refine ⟨⟨hformed.jobs.put _, hformed.deliveries, hformed.numbered⟩, rfl, ?_, ?_⟩
  · intro other hne
    exact (hwritten other).trans (if_neg fun heq => hne (heq.symm.trans (hid.trans hkey)))
  · have hself := (hwritten id).trans (if_pos (hid.trans hkey))
    dsimp only [Stage.half, List.foldl]
    rw [hself]
    exact .job (thread_of_job hdoc) hchange

theorem deliveryStage (hformed : WellFormed fs) {doc : DeliveryDoc}
    (hdoc : fs.delivery id = some doc) {delivery : Delivery} {o : Option Occurrence}
    (hid : delivery.jobId = doc.jobId)
    (hchange : Sqlite.DeliveryStep s doc.toDelivery delivery o) :
    Stage.Valid s ⟨[.delivery { doc with toDelivery := delivery }], id, o⟩ fs := by
  have hkey := delivery_jobId hdoc
  have hwritten := thread_write_delivery fs { doc with toDelivery := delivery }
  refine ⟨⟨hformed.jobs, hformed.deliveries.put _, hformed.numbered⟩, rfl, ?_, ?_⟩
  · intro other hne
    exact (hwritten other).trans (if_neg fun heq => hne (heq.symm.trans (hid.trans hkey)))
  · have hself := (hwritten id).trans (if_pos (hid.trans hkey))
    dsimp only [Stage.half, List.foldl]
    rw [hself]
    exact .delivery (thread_of_delivery hdoc) hchange

theorem createdStage (hformed : WellFormed fs) (fresh : Uuid) (owner : String)
    (family : ScenarioFamily) (key : String) (sequence : Nat)
    (habsent : fs.job fresh.hex = none) :
    Stage.Valid s ⟨[.job (newJob fresh owner family key sequence)], fresh.hex,
      some .investigationQueued⟩ fs := by
  have hwritten := thread_write_job fs (newJob fresh owner family key sequence)
  refine ⟨⟨hformed.jobs.put _, hformed.deliveries, hformed.numbered⟩, rfl, ?_, ?_⟩
  · intro other hne
    exact (hwritten other).trans (if_neg fun heq => hne heq.symm)
  · have hself := (hwritten fresh.hex).trans (if_pos rfl)
    dsimp only [Stage.half, List.foldl]
    rw [hself]
    exact .created fresh owner family key (by simp [Database.thread, habsent])

theorem decidedStage (hformed : WellFormed fs) {doc : JobDoc} (hdoc : fs.job id = some doc)
    (hpaused : doc.status = .pausedApproval) (c : String) (d : OwnerDecision) :
    Stage.Valid s ⟨[.decision ⟨.of c d, id⟩, .job { doc with status := .queued }], id,
      some (.ownerDecisionRecorded c d.decision.text)⟩ fs := by
  have hkey := job_id hdoc
  have hwritten := thread_write_job (fs.write (.decision ⟨.of c d, id⟩))
    { doc with status := .queued }
  refine ⟨⟨hformed.jobs.put _, hformed.deliveries, hformed.numbered⟩, rfl, ?_, ?_⟩
  · intro other hne
    exact (hwritten other).trans (if_neg fun heq => hne (heq.symm.trans hkey))
  · have hself := (hwritten id).trans (if_pos hkey)
    dsimp only [Stage.half, List.foldl]
    rw [hself]
    exact .decided c d.decision.text (thread_of_job hdoc) hpaused

theorem finalizedStage (hformed : WellFormed fs) {doc : JobDoc} (hdoc : fs.job id = some doc)
    (hrunning : doc.status = .running) (artifact content : String) (sequence : Nat) :
    Stage.Valid s ⟨[.job { doc with
        status := .completed
        reportArtifact := some artifact
        reportContent := some content
        reportSha256 := some (s.sha256 content)
        claimToken := none
        claimExpiresAt := none },
      .delivery (newDelivery id doc.owner sequence)], id, some .reportFinalized⟩ fs := by
  have hkey := job_id hdoc
  have hjob := thread_write_job fs { doc with
    status := .completed
    reportArtifact := some artifact
    reportContent := some content
    reportSha256 := some (s.sha256 content)
    claimToken := none
    claimExpiresAt := none }
  have hdelivery := thread_write_delivery (fs.write (.job { doc with
    status := .completed
    reportArtifact := some artifact
    reportContent := some content
    reportSha256 := some (s.sha256 content)
    claimToken := none
    claimExpiresAt := none })) (newDelivery id doc.owner sequence)
  refine ⟨⟨hformed.jobs.put _, hformed.deliveries.put _, hformed.numbered⟩, rfl, ?_, ?_⟩
  · intro other hne
    exact ((hdelivery other).trans (if_neg fun heq => hne heq.symm)).trans
      ((hjob other).trans (if_neg fun heq => hne (heq.symm.trans hkey)))
  · have hself := (hdelivery id).trans (if_pos rfl)
    rw [hjob id, if_pos hkey] at hself
    have hsame : (newDelivery id doc.owner sequence).toDelivery =
        Sqlite.newDelivery doc.toJob := by
      simp only [newDelivery, Sqlite.newDelivery, hkey]
    rw [hsame] at hself
    dsimp only [Stage.half, List.foldl]
    rw [hself]
    exact .finalized artifact content (thread_of_job hdoc) hrunning

end Documents

end CausalOps.ControlPlane.Firestore
