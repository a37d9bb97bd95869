import CausalOps.ControlPlane.Sqlite.Fencing
import CausalOps.ControlPlane.Firestore.Stages

set_option autoImplicit false

/-! The stages of every method of the Firestore control plane, from any collections: none,
one in a single commit, or some in two commits each. -/

namespace CausalOps.ControlPlane.Firestore

section Performs

/-- The databases that stages pass through, each in two commits at most. -/
def passed : Database → List Stage → List Database
  | fs, [] => [fs]
  | fs, stage :: rest => fs :: stage.half fs :: passed (stage.whole fs) rest

/-- A program performs some stages, one after another, and then ends so. -/
structure Performs {α : Type} (streams : StreamOrder) (p : Prog α) (fs : Database)
    (stages : List Stage) (outcome : Except Refusal α) : Prop where
  run : p.run (exec streams) fs = (outcome, applied fs stages)
  states : ∀ t ∈ p.states (exec streams) fs, t ∈ passed fs stages

variable {α β : Type} {streams : StreamOrder} {fs : Database} {stages rest : List Stage}

theorem applied_append :
    applied fs (stages ++ rest) = applied (applied fs stages) rest :=
  List.foldl_append

theorem mem_passed_self : fs ∈ passed fs stages := by
  cases stages <;> simp [passed]

theorem mem_passed_append {t : Database} :
    t ∈ passed fs (stages ++ rest) ↔
      t ∈ passed fs stages ∨ t ∈ passed (applied fs stages) rest := by
  induction stages generalizing fs with
  | nil =>
      refine ⟨.inr, ?_⟩
      rintro (h | h)
      · rw [List.mem_singleton.1 h]
        exact mem_passed_self
      · exact h
  | cons stage more ih =>
      have hrest := @ih (stage.whole fs)
      simp only [List.cons_append, passed, List.mem_cons, hrest, or_assoc]
      rfl

theorem performs_ret (a : α) : Performs streams (.ret a) fs [] (.ok a) :=
  ⟨rfl, fun _ h => h⟩

theorem performs_raise (e : Refusal) :
    Performs streams (.raise e : Prog α) fs [] (.error e) :=
  ⟨rfl, fun _ h => h⟩

theorem Performs.read {op : Op} {next : op.Res → Prog α} {outcome : Except Refusal α}
    {answer : op.Res} (hread : exec streams op fs = (answer, fs))
    (h : Performs streams (next answer) fs stages outcome) :
    Performs streams (.call op next) fs stages outcome := by
  refine ⟨?_, fun t ht => ?_⟩
  · rw [Program.run_call, hread]
    exact h.run
  · rw [Program.states_call, hread] at ht
    rcases List.mem_cons.1 ht with rfl | ht
    · exact mem_passed_self
    · exact h.states t ht

theorem Performs.bind {p : Prog α} {f : α → Prog β} {a : α} {outcome : Except Refusal β}
    (h : Performs streams p fs stages (.ok a))
    (h' : Performs streams (f a) (applied fs stages) rest outcome) :
    Performs streams (p >>= f) fs (stages ++ rest) outcome := by
  refine ⟨?_, fun t ht => ?_⟩
  · rw [Program.run_bind, h.run, applied_append]
    exact h'.run
  · rcases Program.mem_states_bind.1 ht with ht | ⟨a', fs', hrun, ht⟩
    · exact mem_passed_append.2 (.inl (h.states t ht))
    · rw [h.run] at hrun
      cases hrun
      exact mem_passed_append.2 (.inr (h'.states t ht))

theorem performs_split (writes : List Write) (id : String) (o : Occurrence) :
    Performs streams (commit writes >>= fun _ => event id o) fs [⟨writes, id, some o⟩]
      (.ok ()) := by
  refine ⟨?_, fun t ht => ?_⟩
  · simp [Program.run_bind, applied, Stage.whole, Stage.half]
  · simp only [commit, event, stageEvent, Program.call_bind, Program.ret_bind,
      Program.states_call, Program.states_ret, List.mem_cons, List.not_mem_nil, or_false] at ht
    simp only [passed, List.mem_cons, List.not_mem_nil, or_false]
    rcases ht with rfl | rfl | rfl | rfl
    · exact .inl rfl
    · exact .inr (.inl rfl)
    · exact .inr (.inl rfl)
    · refine .inr (.inr ?_)
      simp [Stage.whole, Stage.half, Database.record, Database.nextEvent]

theorem half_mem_split (writes : List Write) (next : Unit → Prog α) :
    writes.foldl Database.write fs ∈
      (commit writes >>= next).states (exec streams) fs :=
  List.mem_cons_of_mem _ (Program.mem_states_self _ _)

theorem Performs.split {writes : List Write} {id : String} {o : Occurrence}
    {next : Unit → Prog α} {outcome : Except Refusal α}
    (h : Performs streams (next ()) (Stage.whole ⟨writes, id, some o⟩ fs) rest outcome) :
    Performs streams (commit writes >>= fun _ => event id o >>= next) fs
      (⟨writes, id, some o⟩ :: rest) outcome := by
  have hassoc : (commit writes >>= fun _ => event id o >>= next) =
      ((commit writes >>= fun _ => event id o) >>= next) := rfl
  rw [hassoc]
  exact (performs_split writes id o).bind h

theorem performs_commit (writes : List Write) (id : String) :
    Performs streams (commit writes) fs [⟨writes, id, none⟩] (.ok ()) := by
  refine ⟨rfl, fun t ht => ?_⟩
  simp only [commit, Program.states_call, Program.states_ret, List.mem_cons,
    List.not_mem_nil, or_false] at ht
  simp only [passed, List.mem_cons, List.not_mem_nil, or_false]
  rcases ht with rfl | rfl
  · exact .inl rfl
  · exact .inr (.inl rfl)

theorem performs_batch {writes : List Write} {id : String} {o : Occurrence}
    (hevents : (writes.foldl Database.write fs).events = fs.events) :
    Performs streams (stageEvent id o >>= fun staged => commit (writes ++ [staged])) fs
        [⟨writes, id, some o⟩] (.ok ()) ∧
      ∀ t ∈ (stageEvent id o >>= fun staged => commit (writes ++ [staged])).states
        (exec streams) fs, t = fs ∨ t = Stage.whole ⟨writes, id, some o⟩ fs := by
  have hnext : (writes.foldl Database.write fs).nextEvent id o = fs.nextEvent id o := by
    simp only [Database.nextEvent, Database.timeline, hevents]
  have hwhole : (writes ++ [Write.event (fs.nextEvent id o)]).foldl Database.write fs =
      Stage.whole ⟨writes, id, some o⟩ fs := by
    simp only [List.foldl_append, List.foldl_cons, List.foldl_nil, Stage.whole, Stage.half,
      Database.record, hnext]
  have hstates : ∀ t ∈ (stageEvent id o >>= fun staged =>
      commit (writes ++ [staged])).states (exec streams) fs,
      t = fs ∨ t = Stage.whole ⟨writes, id, some o⟩ fs := by
    intro t ht
    simp only [commit, stageEvent, Program.call_bind, Program.ret_bind, Program.states_call,
      Program.states_ret, List.mem_cons, List.not_mem_nil, or_false] at ht
    rcases ht with rfl | rfl | rfl
    · exact .inl rfl
    · exact .inl rfl
    · refine .inr ?_
      rw [← hwhole]
      simp [Database.nextEvent]
  refine ⟨⟨?_, fun t ht => ?_⟩, hstates⟩
  · rw [Program.run_bind, run_stageEvent]
    dsimp only
    rw [run_commit, hwhole]
    rfl
  · simp only [passed, List.mem_cons, List.not_mem_nil, or_false]
    rcases hstates t ht with rfl | rfl
    · exact .inl rfl
    · exact .inr (.inr rfl)

end Performs

section Course

/-- How a method goes: it writes nothing, one stage in a single commit, or it can be cut
short inside a stage, or it refuses after a commit. `untorn` says which. -/
inductive Course (s : Settings) (streams : StreamOrder) (p : Prog Reply) (fs : Database)
    (untorn : Prop) : Prop where
  | still {outcome : Except Refusal Reply} (huntorn : untorn)
      (hperforms : Performs streams p fs [] outcome)
  | batch {stage : Stage} {reply : Reply} (huntorn : untorn) (hvalid : stage.Valid s fs)
      (hperforms : Performs streams p fs [stage] (.ok reply))
      (hstates : ∀ t ∈ p.states (exec streams) fs, t = fs ∨ t = stage.whole fs)
  | torn {stage : Stage} {rest : List Stage} {outcome : Except Refusal Reply} (htorn : ¬ untorn)
      (hchain : Chain s fs (stage :: rest)) (hevent : stage.event ≠ none)
      (hperforms : Performs streams p fs (stage :: rest) outcome)
      (hhalf : stage.half fs ∈ p.states (exec streams) fs)
  | refused {stage : Stage} {e : Refusal} (htorn : ¬ untorn) (hvalid : stage.Valid s fs)
      (hperforms : Performs streams p fs [stage] (.error e))
      (hchanged : (stage.whole fs).delivery stage.id ≠ fs.delivery stage.id)

variable {s : Settings} {streams : StreamOrder} {p : Prog Reply} {fs : Database}
  {untorn : Prop}

theorem Course.performs (h : Course s streams p fs untorn) :
    ∃ stages outcome, Chain s fs stages ∧ Performs streams p fs stages outcome := by
  cases h with
  | still huntorn hperforms => exact ⟨[], _, trivial, hperforms⟩
  | @batch stage reply huntorn hvalid hperforms hstates =>
      exact ⟨[stage], _, ⟨hvalid, trivial⟩, hperforms⟩
  | torn htorn hchain hevent hperforms hhalf => exact ⟨_, _, hchain, hperforms⟩
  | @refused stage e htorn hvalid hperforms hchanged =>
      exact ⟨[stage], _, ⟨hvalid, trivial⟩, hperforms⟩

theorem Course.iff {untorn' : Prop} (h : Course s streams p fs untorn)
    (hiff : untorn ↔ untorn') : Course s streams p fs untorn' := by
  rw [← propext hiff]
  exact h

theorem Course.read {op : Op} {next : op.Res → Prog Reply} {answer : op.Res}
    (hread : exec streams op fs = (answer, fs)) (h : Course s streams (next answer) fs untorn) :
    Course s streams (.call op next) fs untorn := by
  have hstates : (Program.call op next : Prog Reply).states (exec streams) fs =
      fs :: (next answer).states (exec streams) fs := by
    rw [Program.states_call, hread]
  cases h with
  | still huntorn hperforms => exact .still huntorn (hperforms.read hread)
  | batch huntorn hvalid hperforms hpassed =>
      refine .batch huntorn hvalid (hperforms.read hread) fun t ht => ?_
      rw [hstates] at ht
      rcases List.mem_cons.1 ht with rfl | ht
      · exact .inl rfl
      · exact hpassed t ht
  | torn htorn hchain hevent hperforms hhalf =>
      refine .torn htorn hchain hevent (hperforms.read hread) ?_
      rw [hstates]
      exact List.mem_cons_of_mem _ hhalf
  | refused htorn hvalid hperforms hchanged =>
      exact .refused htorn hvalid (hperforms.read hread) hchanged

theorem Course.after {α : Type} {p : Prog α} {f : α → Prog Reply} {a : α}
    (hperforms : Performs streams p fs [] (.ok a)) (h : Course s streams (f a) fs untorn) :
    Course s streams (p >>= f) fs untorn := by
  have hstates : ∀ t, t ∈ (p >>= f).states (exec streams) fs ↔
      t ∈ p.states (exec streams) fs ∨ t ∈ (f a).states (exec streams) fs := by
    intro t
    refine ⟨fun ht => ?_, fun ht => ?_⟩
    · rcases Program.mem_states_bind.1 ht with ht | ⟨a', fs', hrun, ht⟩
      · exact .inl ht
      · rw [hperforms.run] at hrun
        cases hrun
        exact .inr ht
    · exact Program.mem_states_bind.2 (ht.imp_right fun ht => ⟨a, fs, hperforms.run, ht⟩)
  cases h with
  | still huntorn hnext => exact .still huntorn (hperforms.bind hnext)
  | batch huntorn hvalid hnext hpassed =>
      refine .batch huntorn hvalid (hperforms.bind hnext) fun t ht => ?_
      rcases (hstates t).1 ht with ht | ht
      · exact .inl (List.mem_singleton.1 (hperforms.states t ht))
      · exact hpassed t ht
  | torn htorn hchain hevent hnext hhalf =>
      exact .torn htorn hchain hevent (hperforms.bind hnext) ((hstates _).2 (.inr hhalf))
  | refused htorn hvalid hnext hchanged =>
      exact .refused htorn hvalid (hperforms.bind hnext) hchanged

theorem Course.raise (huntorn : untorn) (e : Refusal) : Course s streams (.raise e) fs untorn :=
  .still huntorn (performs_raise e)

theorem Course.ret (huntorn : untorn) (reply : Reply) :
    Course s streams (.ret reply) fs untorn :=
  .still huntorn (performs_ret reply)

theorem Course.ofBatch {writes : List Write} {id : String} {o : Occurrence} {reply : Reply}
    (huntorn : untorn) (hvalid : Stage.Valid s ⟨writes, id, some o⟩ fs) :
    Course s streams (stageEvent id o >>= fun staged =>
      commit (writes ++ [staged]) >>= fun _ => .ret reply) fs untorn := by
  have hassoc : (stageEvent id o >>= fun staged =>
      commit (writes ++ [staged]) >>= fun _ => (.ret reply : Prog Reply)) =
      ((stageEvent id o >>= fun staged => commit (writes ++ [staged])) >>= fun _ =>
        .ret reply) := rfl
  obtain ⟨hperforms, hpassed⟩ := @performs_batch streams fs writes id o hvalid.events
  rw [hassoc]
  refine .batch huntorn hvalid (hperforms.bind (performs_ret reply)) fun t ht => ?_
  rcases Program.mem_states_bind.1 ht with ht | ⟨a, fs', hrun, ht⟩
  · exact hpassed t ht
  · rw [hperforms.run] at hrun
    cases hrun
    exact .inr (List.mem_singleton.1 ht)

theorem Course.ofCommit {writes : List Write} {id : String} {reply : Reply} (huntorn : untorn)
    (hvalid : Stage.Valid s ⟨writes, id, none⟩ fs) :
    Course s streams (commit writes >>= fun _ => .ret reply) fs untorn := by
  refine .batch huntorn hvalid ((performs_commit writes id).bind (performs_ret reply)) ?_
  intro t ht
  rcases List.mem_cons.1 ht with rfl | ht
  · exact .inl rfl
  · exact .inr (List.mem_singleton.1 ht)

theorem Course.ofSplit {writes : List Write} {id : String} {o : Occurrence} {reply : Reply}
    (htorn : ¬ untorn) (hvalid : Stage.Valid s ⟨writes, id, some o⟩ fs) :
    Course s streams (commit writes >>= fun _ => event id o >>= fun _ => .ret reply) fs
      untorn := by
  have hchain : Chain s fs [⟨writes, id, some o⟩] := ⟨hvalid, trivial⟩
  exact .torn htorn hchain nofun (Performs.split (performs_ret reply))
    (half_mem_split writes _)

end Course

section Owner

variable {s : Settings} {streams : StreamOrder} {fs : Database} {id : String}

theorem course_create (hformed : WellFormed fs) {fresh : Uuid} {owner key : String}
    {family : ScenarioFamily} (habsent : fs.job fresh.hex = none) :
    Course s streams (create fresh owner family key) fs True := by
  unfold create
  refine .read (exec_streamJobs _) ?_
  split
  · exact .ret trivial _
  · refine .read (exec_streamJobs _) ?_
    exact .ofBatch trivial (createdStage hformed fresh owner family key _ habsent)

theorem course_owned {owner : String} {next : JobDoc → Prog Reply} {untorn : Prop}
    (huntorn : untorn)
    (hnext : ∀ doc, fs.job id = some doc → Course s streams (next doc) fs untorn) :
    Course s streams (owned id owner >>= next) fs untorn := by
  unfold owned
  refine .read exec_getJob ?_
  cases hdoc : fs.job id with
  | none => exact .raise huntorn _
  | some doc =>
      dsimp only
      split
      · exact .raise huntorn _
      · exact hnext doc hdoc

theorem course_status {owner : String} : Course s streams (status owner id) fs True :=
  course_owned trivial fun _ _ => .ret trivial _

theorem course_events {owner : String} : Course s streams (events owner id) fs True :=
  course_owned trivial fun _ _ => .read exec_streamEvents (.ret trivial _)

theorem course_report {owner : String} : Course s streams (report s owner id) fs True := by
  refine course_owned trivial fun doc _ => ?_
  cases reportText s id doc.toJob with
  | ok content => exact .ret trivial _
  | error e => exact .raise trivial _

theorem course_decide (hformed : WellFormed fs) {owner : String} {d : OwnerDecision} :
    Course s streams (Firestore.decide owner id d) fs True := by
  refine course_owned trivial fun doc hdoc => ?_
  refine .read exec_getDecision ?_
  cases fs.decision id with
  | some prior =>
      dsimp only
      split
      · exact .raise trivial _
      · split
        · exact .raise trivial _
        · split
          · exact .raise trivial _
          · split
            · exact .raise trivial _
            · exact .ret trivial _
  | none =>
      dsimp only
      split
      · exact .raise trivial _
      · rename_i hpaused
        split
        · exact .raise trivial _
        · exact .ofBatch trivial (decidedStage hformed hdoc (not_not.1 hpaused) _ d)

theorem course_scenarioStatus {incident : String} :
    Course s streams (scenarioStatus incident) fs True := by
  unfold scenarioStatus
  refine .read (exec_streamJobs _) ?_
  split <;> exact .ret trivial _

theorem course_incidentIdFor : Course s streams (incidentIdFor id) fs True := by
  unfold incidentIdFor
  refine .read exec_getJob ?_
  split
  · exact .raise trivial _
  · split
    · exact .ret trivial _
    · split
      · exact .ret trivial _
      · exact .raise trivial _

end Owner

section Worker

variable {s : Settings} {streams : StreamOrder} {fs : Database} {id token : String} {now : Time}

theorem claimOver_eq_false {data : JobDoc} (h : claimOver now token data = false) :
    data.status = .running ∧ data.claimToken = some token ∧
      unexpired now data.claimExpiresAt = true := by
  simp only [claimOver, Bool.or_eq_false_iff, decide_eq_false_iff_not, not_not] at h
  obtain ⟨⟨hrunning, htoken⟩, hexpiry⟩ := h
  refine ⟨hrunning, htoken, ?_⟩
  cases hend : data.claimExpiresAt with
  | none => simp [hend] at hexpiry
  | some expiresAt => simpa [hend, unexpired] using hexpiry

theorem claimLost_eq_false {data : JobDoc} (h : claimLost token data = false) :
    data.status = .running ∧ data.claimToken = some token := by
  simpa [claimLost] using h

theorem jobChange {job job' : Job} {o : Option Occurrence}
    (h : Sqlite.JobStep s Sqlite.anyRules .empty job job' o) : JobChange s job job' o :=
  ⟨_, _, h⟩

theorem course_renewRunning (hformed : WellFormed fs) :
    Course s streams (renewRunning s now id token) fs True := by
  unfold renewRunning
  refine .read exec_getJob ?_
  cases hdoc : fs.job id with
  | none => exact .raise trivial _
  | some data =>
      dsimp only
      split
      · exact .raise trivial _
      · rename_i hover
        obtain ⟨hrunning, -, hcurrent⟩ := claimOver_eq_false (by simpa using hover)
        exact .ofCommit trivial
          (jobStage hformed hdoc rfl (jobChange (.renewed hrunning hcurrent)))

def NothingReserved (now : Time) (id token : String) (fs : Database) : Prop :=
  ∀ data, fs.job id = some data → claimOver now token data = false → data.incidentId ≠ none

theorem course_reserveIncident (hformed : WellFormed fs) :
    Course s streams (reserveIncident now id token) fs (NothingReserved now id token fs) := by
  unfold reserveIncident
  refine .read exec_getJob ?_
  cases hdoc : fs.job id with
  | none => exact .raise (fun data h => by simp [hdoc] at h) _
  | some data =>
      have hsame : ∀ other, fs.job id = some other → data = other := fun other h =>
        Option.some.inj (hdoc.symm.trans h)
      dsimp only
      split
      · rename_i hover
        refine .raise (fun other h hcurrent => ?_) _
        rw [← hsame other h, hover] at hcurrent
        cases hcurrent
      · rename_i hover
        have hcurrent : claimOver now token data = false := by simpa using hover
        obtain ⟨hrunning, -, -⟩ := claimOver_eq_false hcurrent
        have hkey := job_id hdoc
        split
        · rename_i hnone
          refine .ofSplit (fun h => h data hdoc hcurrent hnone) ?_
          have hreserve : JobChange s data.toJob
              { data.toJob with incidentId := some (scenarioIncident data.id) }
              (some (.scenarioReserved (scenarioIncident data.id))) :=
            jobChange (.reserved hrunning hnone)
          rw [hkey] at hreserve
          exact jobStage hformed hdoc (by rfl) hreserve
        · rename_i stored hstored
          have hreserved : NothingReserved now id token fs := fun other h _ => by
            rw [← hsame other h, hstored]
            simp
          split
          · exact .ret hreserved _
          · exact .raise hreserved _

theorem course_markPaused (hformed : WellFormed fs) {checkpointId : String}
    (hpresent : Text.strip checkpointId ≠ "") :
    Course s streams (markPaused now id checkpointId token) fs True := by
  unfold markPaused
  refine .read exec_getJob ?_
  cases hdoc : fs.job id with
  | none => exact .raise trivial _
  | some data =>
      dsimp only
      split
      · exact .raise trivial _
      · rename_i hover
        obtain ⟨hrunning, htoken, -⟩ := claimOver_eq_false (by simpa using hover)
        have hpause : JobChange s data.toJob { data.toJob with
            status := .pausedApproval
            checkpointId := some checkpointId
            claimToken := none
            claimExpiresAt := none } (some (.ownerDecisionRequested checkpointId)) :=
          jobChange (.paused hrunning htoken hpresent trivial)
        exact .ofBatch trivial (jobStage hformed hdoc (by rfl) hpause)

def NoneHeld (id token : String) (fs : Database) : Prop :=
  ∀ data, fs.job id = some data → claimLost token data = true

theorem course_requeueRunning (hformed : WellFormed fs) :
    Course s streams (requeueRunning id token) fs (NoneHeld id token fs) := by
  unfold requeueRunning
  refine .read exec_getJob ?_
  cases hdoc : fs.job id with
  | none => exact .raise (fun data h => by simp [hdoc] at h) _
  | some data =>
      dsimp only
      split
      · rename_i hlost
        refine .raise (fun other h => ?_) _
        rw [← Option.some.inj (hdoc.symm.trans h)]
        exact hlost
      · rename_i hlost
        obtain ⟨hrunning, -⟩ := claimLost_eq_false (by simpa using hlost)
        exact .ofSplit (fun h => hlost (h data hdoc))
          (jobStage hformed hdoc rfl (jobChange (.requeued hrunning)))

theorem course_retryRunning (hformed : WellFormed fs) {errorName : String} :
    Course s streams (retryRunning s now id token errorName) fs (NoneHeld id token fs) := by
  unfold retryRunning
  refine .read exec_getJob ?_
  cases hdoc : fs.job id with
  | none => exact .raise (fun data h => by simp [hdoc] at h) _
  | some data =>
      dsimp only
      split
      · rename_i hlost
        refine .raise (fun other h => ?_) _
        rw [← Option.some.inj (hdoc.symm.trans h)]
        exact hlost
      · rename_i hlost
        obtain ⟨hrunning, -⟩ := claimLost_eq_false (by simpa using hlost)
        split
        · rename_i hlimit
          exact .ofSplit (fun h => hlost (h data hdoc))
            (jobStage hformed hdoc rfl (jobChange (.retryFailed hrunning hlimit)))
        · rename_i hlimit
          exact .ofSplit (fun h => hlost (h data hdoc)) (jobStage hformed hdoc rfl
            (jobChange (.retryScheduled hrunning (not_le.1 hlimit))))

theorem course_finalize (hformed : WellFormed fs) {a : Ambient} {artifact : String} :
    Course s streams (finalize s a id artifact token) fs True := by
  unfold finalize
  refine .read exec_getJob ?_
  cases hdoc : fs.job id with
  | none => exact .raise trivial _
  | some data =>
      dsimp only
      split
      · exact .raise trivial _
      · split
        · exact .raise trivial _
        · rename_i hover
          obtain ⟨hrunning, -, -⟩ := claimOver_eq_false (by simpa using hover)
          cases readReportSnapshot a.reportFile id artifact with
          | error e => exact .raise trivial _
          | ok content =>
              refine .read (exec_streamDeliveries _) ?_
              exact .ofBatch trivial (finalizedStage hformed hdoc hrunning artifact content _)

end Worker

end CausalOps.ControlPlane.Firestore
