import CausalOps.Library.Machine
import CausalOps.ControlPlane.Sqlite.ClaimNext

set_option autoImplicit false

/-! At most one job runs, a job runs exactly while it is leased, and a worker that has
lost its lease can change nothing. -/

namespace CausalOps.ControlPlane.Sqlite

open Program (Sharing)

section Body

variable {ι : Type} {s : Settings} {sharing : Sharing ι Store} {i : ι}
  {recorded : Store → String → String → OwnerDecision → Prop} {may : String → String → Prop}
  {good : Store → Prop} {trusted : Prop} {conduct : Conduct}
  {db : Database} {st : Store}

theorem lift_meets {post : Except Refusal (Reply × Database) → Store → Prop}
    {answer : Except Refusal (Reply × Database)}
    (h : ∀ t, sharing.rely i st t → post answer t) :
    (Program.lift answer : Prog (Reply × Database)).Meets exec sharing i post st := by
  cases answer with
  | ok answer => exact h
  | error e => exact h

/-- A call keeps to what the workers do: where they pause, and which token they get. -/
def Conforms (conduct : Conduct) (db : Database) (a : Ambient) : Call → Prop
  | .markPaused id checkpointId token => ∀ row, db.job id = some row →
      claimHeld token row = true → conduct.pausable db id checkpointId
  | .claimNext => conduct.issued a.fresh.hex
  | _ => True

/-- What the body of a method leaves behind: a good store, and moves if it returns. -/
structure BodyOutcome (s : Settings)
    (recorded : Store → String → String → OwnerDecision → Prop)
    (conduct : Conduct) (good : Store → Prop) (db : Database)
    (outcome : Except Refusal (Reply × Database)) (t : Store) : Prop where
  sound : good t
  moves : ∀ reply db', outcome = .ok (reply, db') →
    Moves s (rulesAt recorded conduct t) db db'

theorem lift_body (huse : LedgerUse sharing i recorded may good trusted) (hgood : good st)
    {answer : Except Refusal (Reply × Database)}
    (hmoves : ∀ rules : Rules, rules.toConduct = conduct → ∀ reply db',
      answer = .ok (reply, db') → Moves s rules db db') :
    (Program.lift answer : Prog (Reply × Database)).Meets exec sharing i
      (BodyOutcome s recorded conduct good db) st :=
  lift_meets fun _ ht => ⟨huse.good_rely hgood ht, hmoves _ rfl⟩

/-- The body of every method that returns has made moves, and only moves. -/
theorem body_meets (huse : LedgerUse sharing i recorded may good trusted)
    (hpausable : trusted → ∀ db id c, conduct.pausable db id c → may id c ∧ db.decision id = none)
    (hunique : trusted → ∀ id c c' d d', recorded st id c d → recorded st id c' d' →
      c = c' ∧ d = d')
    (hgood : good st) (hkeys : Keys db) (a : Ambient)
    (hsane : trusted → Sane (recorded st) may db) (call : Call)
    (hcheck : precheck call = .ok ()) (hconforms : Conforms conduct db a call) :
    (body s a call db).Meets exec sharing i (BodyOutcome s recorded conduct good db) st := by
  have hunchanged : ∀ (answer : Except Refusal (Reply × Database)),
      (∀ reply db', answer = .ok (reply, db') → db' = db) →
      (Program.lift answer : Prog (Reply × Database)).Meets exec sharing i
        (BodyOutcome s recorded conduct good db) st := by
    intro answer hsame
    refine lift_body huse hgood fun rules _ reply db' hok => ?_
    rw [hsame reply db' hok]
  cases call with
  | create owner family key => exact lift_body huse hgood fun _ _ _ _ => create_moves
  | status owner id => exact hunchanged _ fun _ _ => status_moves
  | events owner id => exact hunchanged _ fun _ _ => events_moves
  | report owner id => exact hunchanged _ fun _ _ => report_moves
  | scenarioStatus incident => exact hunchanged _ fun _ _ => scenarioStatus_moves
  | incidentIdFor id => exact hunchanged _ fun _ _ => incidentIdFor_moves
  | decide owner id d =>
      have hdecide : (Sqlite.decide a.utcNow owner id d db).Meets exec sharing i
          (DecideOutcome s recorded conduct good trusted st db owner id d) st :=
        decide_meets huse hgood hkeys hsane hunique
      exact hdecide.mono fun _ _ hdone =>
        ⟨hdone.sound, fun reply db' hok => (hdone.moves reply db' hok).1⟩
  | claimNext =>
      have hclaim : (claimNext s a db).Meets exec sharing i
          (ClaimOutcome s recorded conduct good trusted st db a.fresh.hex) st :=
        claimNext_meets huse hpausable hgood hkeys a hsane hconforms
      exact hclaim.mono fun _ _ hdone => ⟨hdone.sound, hdone.moves⟩
  | renewRunning id token =>
      exact lift_body huse hgood fun _ _ _ _ => renewRunning_moves hkeys
  | reserveIncident id token =>
      exact lift_body huse hgood fun _ _ _ _ => reserveIncident_moves hkeys
  | markPaused id checkpointId token =>
      have hpresent : Text.strip checkpointId ≠ "" := by
        intro hblank
        simp [precheck, hblank] at hcheck
      refine lift_body huse hgood fun rules hrules _ _ => markPaused_moves hkeys hpresent ?_
      rw [hrules]
      exact hconforms
  | requeueRunning id token =>
      exact lift_body huse hgood fun _ _ _ _ => requeueRunning_moves hkeys
  | retryRunning id token errorName =>
      exact lift_body huse hgood fun _ _ _ _ => retryRunning_moves hkeys
  | finalize id artifact token =>
      have hblank : Text.strip artifact ≠ "" := by
        intro hblank
        simp [precheck, hblank] at hcheck
      exact lift_body huse hgood fun _ _ _ _ => finalize_moves hkeys hblank
  | claimDelivery => exact lift_body huse hgood fun _ _ _ _ => claimDelivery_moves hkeys
  | markDelivered id token =>
      exact lift_body huse hgood fun _ _ _ _ => markDelivered_moves hkeys
  | renewDelivery id token =>
      exact lift_body huse hgood fun _ _ _ _ => renewDelivery_moves hkeys
  | releaseDelivery id token =>
      exact lift_body huse hgood fun _ _ _ _ => releaseDelivery_moves hkeys
  | retryDelivery id token errorName =>
      exact lift_body huse hgood fun _ _ _ _ => retryDelivery_moves hkeys

end Body

section Sequential

variable {s : Settings} {store : Store}

/-- The ledger may hold anything; the tables belong to the transaction. -/
def ledgerOnly : Sharing Unit Store where
  rely := fun _ st st' => st'.control = st.control ∧ st'.history = st.history
  guarantee := fun _ _ _ => True
  rely_refl := fun _ _ => ⟨rfl, rfl⟩
  rely_trans := fun h h' => ⟨h'.1.trans h.1, h'.2.trans h.2⟩

/-- Rules that restrict neither decisions nor pauses. -/
def anyRules : Rules := ⟨⟨fun _ _ _ => True, fun _ => True⟩, fun _ _ _ => True⟩

theorem ledgerOnly_use (store : Store) :
    LedgerUse ledgerOnly () (fun _ _ _ _ => True) (fun _ _ => True)
      (fun t => t.control = store.control ∧ t.history = store.history) False where
  stable := fun _ _ => trivial
  read := fun _ _ => trivial
  wrote := fun _ => trivial
  keeps := fun _ => trivial
  good_rely := fun hgood hrely => ⟨hrely.1.trans hgood.1, hrely.2.trans hgood.2⟩
  good_write := fun hgood _ => hgood
  read_guarantee := fun _ => trivial
  write_guarantee := fun _ _ => trivial
  free := fun _ _ _ => trivial
  readable := nofun
  genuine := nofun
  at_checkpoint := nofun
  shown := nofun

theorem run_transaction (body : Database → Prog (Reply × Database)) :
    (transaction body).run exec store =
      match (body store.control).run exec store with
      | (.ok (reply, db'), store') =>
          (.ok reply, { store' with control := db', history := store'.history ++ [reply] })
      | (.error e, store') => (.error e, store') := by
  simp only [transaction, Program.run_call, exec, Program.run_bind]
  cases (body store.control).run exec store with
  | mk outcome store' => cases outcome <;> rfl

/-- One call makes moves on the tables when it returns, and leaves them alone when it
raises. -/
theorem step_moves_under (conduct : Conduct) (hkeys : Keys store.control) (a : Ambient)
    (call : Call) (hconforms : Conforms conduct store.control a call) :
    Moves s ⟨conduct, fun _ _ _ => True⟩ store.control (step s store (a, call)).2.control ∧
      (∀ e, (step s store (a, call)).1 = .error e →
        (step s store (a, call)).2.control = store.control) := by
  simp only [step, method]
  cases hcheck : precheck call with
  | error e => exact ⟨.refl, fun _ _ => rfl⟩
  | ok u =>
      have hbody : (body s a call store.control).Meets exec ledgerOnly ()
          (BodyOutcome s (fun _ _ _ _ => True) conduct
            (fun t => t.control = store.control ∧ t.history = store.history) store.control)
          store :=
        body_meets (ledgerOnly_use store) nofun nofun ⟨rfl, rfl⟩ hkeys a nofun call hcheck
          hconforms
      have hdone := hbody.run
      rw [run_transaction]
      revert hdone
      cases (body s a call store.control).run exec store with
      | mk outcome store' =>
          intro hdone
          cases outcome with
          | error e =>
              refine ⟨?_, fun _ _ => hdone.sound.1⟩
              rw [hdone.sound.1]
          | ok answer =>
              refine ⟨hdone.moves answer.1 answer.2 rfl, ?_⟩
              intro e he
              cases he

theorem step_moves (hkeys : Keys store.control) (input : Ambient × Call) :
    Moves s anyRules store.control (step s store input).2.control ∧
      (∀ e, (step s store input).1 = .error e →
        (step s store input).2.control = store.control) := by
  obtain ⟨a, call⟩ := input
  refine step_moves_under anyRules.toConduct hkeys a call ?_
  cases call <;> simp [Conforms, anyRules]

end Sequential

section Invariant

variable {s : Settings} {rules : Rules} {db db' : Database}

/-- The lease of a job: it is RUNNING exactly while a token and an end are set. -/
def Leased (job : Job) : Prop :=
  job.status = .running ↔ job.claimToken.isSome = true ∧ job.claimExpiresAt.isSome = true

structure Fenced (db : Database) : Prop where
  single : ∀ a ∈ db.jobs, ∀ b ∈ db.jobs, a.status = .running → b.status = .running → a = b
  leased : ∀ row ∈ db.jobs, Leased row.toJob

theorem fenced_empty : Fenced .empty :=
  ⟨by simp [Database.empty], by simp [Database.empty]⟩

/-- A job step keeps the lease in order, and only starts a job when none is running. -/
theorem JobStep.leased {job job' : Job} {o : Option Occurrence}
    (h : JobStep s rules db job job' o) (hleased : Leased job) :
    Leased job' ∧ (job'.status = .running → job.status = .running ∨
      ∀ row ∈ db.jobs, row.status ≠ .running) := by
  cases h with
  | started hissued hqueued hlive havailable hidle hlab hfirst =>
      exact ⟨by simp [Leased], fun _ => Or.inr hidle⟩
  | renewed hrunning hcurrent =>
      refine ⟨?_, fun _ => Or.inl hrunning⟩
      simpa [Leased, hrunning] using (hleased.1 hrunning).1
  | reserved hrunning hnone => exact ⟨hleased, fun _ => Or.inl hrunning⟩
  | leaseFailed => exact ⟨by simp [Leased], by simp⟩
  | leaseExpired => exact ⟨by simp [Leased], by simp⟩
  | paused => exact ⟨by simp [Leased], by simp⟩
  | requeued => exact ⟨by simp [Leased], by simp⟩
  | retryFailed => exact ⟨by simp [Leased], by simp⟩
  | retryScheduled => exact ⟨by simp [Leased], by simp⟩

theorem Fenced.setJob (hkeys : Keys db) (hfenced : Fenced db) {id : String} {row : JobRow}
    (hrow : db.job id = some row) {job : Job} (hleased : Leased job)
    (hstart : job.status = .running → row.status = .running ∨
      ∀ r ∈ db.jobs, r.status ≠ .running) : Fenced (db.setJob id job) := by
  have hmem := job_mem hrow
  -- Another running row beside the new one contradicts what was running before.
  have hother : ∀ b ∈ db.jobs, b.id ≠ id → b.status = .running → job.status ≠ .running := by
    intro b hb hne hb_running hrunning
    rcases hstart hrunning with hold | hnone
    · exact hne ((congrArg (fun r : JobRow => r.id)
        (hfenced.single b hb row hmem hb_running hold)).trans (job_id hrow))
    · exact hnone b hb hb_running
  refine ⟨?_, ?_⟩
  · intro a ha b hb harunning hbrunning
    rcases (mem_setJob_jobs hkeys hrow).1 ha with rfl | ⟨ha, hane⟩
    · rcases (mem_setJob_jobs hkeys hrow).1 hb with rfl | ⟨hb, hbne⟩
      · rfl
      · exact absurd harunning (hother b hb hbne hbrunning)
    · rcases (mem_setJob_jobs hkeys hrow).1 hb with rfl | ⟨hb, hbne⟩
      · exact absurd hbrunning (hother a ha hane harunning)
      · exact hfenced.single a ha b hb harunning hbrunning
  · intro r hr
    rcases (mem_setJob_jobs hkeys hrow).1 hr with rfl | ⟨hr, -⟩
    · exact hleased
    · exact hfenced.leased r hr

theorem Fenced.queued (hkeys : Keys db) (hfenced : Fenced db) {id c : String}
    {row : JobRow} {d : OwnerDecision} (hrow : db.job id = some row)
    (hpaused : row.status = .pausedApproval) : Fenced (queueDecided db id c d) := by
  have hold := hfenced.leased row (job_mem hrow)
  have hleased : Leased (queuedJob row.toJob) := by
    simp only [Leased, hpaused, queuedJob, reduceCtorEq, false_iff] at hold ⊢
    exact hold
  have hset := hfenced.setJob hkeys hrow hleased (by simp [queuedJob])
  have hjobs : (queueDecided db id c d).jobs = (db.setJob id (queuedJob row.toJob)).jobs :=
    queueDecided_jobs hkeys hrow
  refine ⟨?_, ?_⟩
  · rw [hjobs]
    exact hset.single
  · rw [hjobs]
    exact hset.leased

theorem Fenced.move (hkeys : Keys db) (hfenced : Fenced db) (h : Move s rules db db') :
    Fenced db' := by
  cases h with
  | created fresh owner family key habsent hkey =>
      refine ⟨?_, ?_⟩
      · intro a ha b hb harunning hbrunning
        rcases List.mem_append.1 ha with ha | ha
        · rcases List.mem_append.1 hb with hb | hb
          · exact hfenced.single a ha b hb harunning hbrunning
          · obtain rfl := List.mem_singleton.1 hb
            cases hbrunning
        · obtain rfl := List.mem_singleton.1 ha
          cases harunning
      · intro r hr
        rcases List.mem_append.1 hr with hr | hr
        · exact hfenced.leased r hr
        · obtain rfl := List.mem_singleton.1 hr
          simp [Leased, newJob]
  | job hrow hstep =>
      obtain ⟨hleased, hstart⟩ := hstep.leased (hfenced.leased _ (job_mem hrow))
      have hset := hfenced.setJob hkeys hrow hleased hstart
      exact ⟨by simpa using hset.single, by simpa using hset.leased⟩
  | @decided id c row d hrow hpaused hcheckpoint hpresent hrecorded hnone =>
      have hmirrored : Fenced (insertMirror db id c d) := ⟨hfenced.single, hfenced.leased⟩
      exact hmirrored.queued (insertMirror_keys hkeys hnone) hrow hpaused
  | redecided hrow hpaused hcheckpoint hpresent hrecorded hmirrored =>
      exact hfenced.queued hkeys hrow hpaused
  | @finalized id artifact content row path hrow hrunning hpath hblank habsent =>
      have hset : Fenced (db.setJob id (completedJob s row.toJob artifact content)) :=
        hfenced.setJob hkeys hrow (by simp [Leased, completedJob]) (by simp [completedJob])
      exact ⟨hset.single, hset.leased⟩
  | delivery hrow hstep =>
      exact ⟨by simpa using hfenced.single, by simpa using hfenced.leased⟩

end Invariant

section Fencing

variable {s : Settings} {store : Store}

/-- The token is not the one that the job holds now. -/
def Stale (db : Database) (id token : String) : Prop :=
  ∀ row ∈ db.jobs, row.id = id → row.claimToken ≠ some token

theorem Stale.claimHeld {db : Database} {id token : String} (hstale : Stale db id token)
    {row : JobRow} (hrow : db.job id = some row) : claimHeld token row = false := by
  have htoken := hstale row (job_mem hrow) (job_id hrow)
  simp [Sqlite.claimHeld, htoken]

theorem Stale.claimCurrent {db : Database} {id token : String} (hstale : Stale db id token)
    {now : Time} {row : JobRow} (hrow : db.job id = some row) :
    claimCurrent now token row = false := by
  have htoken := hstale row (job_mem hrow) (job_id hrow)
  simp [Sqlite.claimCurrent, htoken]

theorem countP_of_refused {db : Database} {id : String} (hkeys : Keys db)
    {guard : JobRow → Bool} (hguard : ∀ row, db.job id = some row → guard row = false) :
    db.jobs.countP (fun row => decide (row.key = id) && guard row) ≠ 1 := by
  intro hcount
  obtain ⟨row, hrow, htrue⟩ := (countP_jobs hkeys guard).1 hcount
  rw [hguard row hrow] at htrue
  cases htrue

/-- A worker operation with a stale token raises before it writes anything. -/
theorem body_stale {a : Ambient} {call : Call} {id token : String} {db : Database}
    (hkeys : Keys db) (hworker : call.workerClaim = some (id, token))
    (hstale : Stale db id token) : ∃ e, body s a call db = .raise e := by
  cases call with
  | renewRunning id' token' =>
      obtain ⟨rfl, rfl⟩ : id' = id ∧ token' = token := by simpa [Call.workerClaim] using hworker
      have hcount := countP_of_refused hkeys
        fun row hrow => (hstale.claimCurrent hrow : claimCurrent a.now token' row = false)
      exact ⟨_, by simp only [body, renewRunning, if_pos hcount]; rfl⟩
  | requeueRunning id' token' =>
      obtain ⟨rfl, rfl⟩ : id' = id ∧ token' = token := by simpa [Call.workerClaim] using hworker
      have hcount := countP_of_refused hkeys fun row hrow => hstale.claimHeld hrow
      exact ⟨_, by simp only [body, requeueRunning, if_pos hcount]; rfl⟩
  | reserveIncident id' token' =>
      obtain ⟨rfl, rfl⟩ : id' = id ∧ token' = token := by simpa [Call.workerClaim] using hworker
      cases hrow : db.job id' with
      | none => exact ⟨_, by simp only [body, reserveIncident, hrow]; rfl⟩
      | some row =>
          exact ⟨_, by
            simp only [body, reserveIncident, hrow, hstale.claimCurrent hrow]; rfl⟩
  | markPaused id' checkpointId token' =>
      obtain ⟨rfl, rfl⟩ : id' = id ∧ token' = token := by simpa [Call.workerClaim] using hworker
      cases hrow : db.job id' with
      | none => exact ⟨_, by simp only [body, markPaused, hrow]; rfl⟩
      | some row =>
          exact ⟨_, by simp only [body, markPaused, hrow, hstale.claimCurrent hrow]; rfl⟩
  | retryRunning id' token' errorName =>
      obtain ⟨rfl, rfl⟩ : id' = id ∧ token' = token := by simpa [Call.workerClaim] using hworker
      cases hrow : db.job id' with
      | none => exact ⟨_, by simp only [body, retryRunning, hrow]; rfl⟩
      | some row =>
          exact ⟨_, by simp only [body, retryRunning, hrow, hstale.claimHeld hrow]; rfl⟩
  | finalize id' artifact token' =>
      obtain ⟨rfl, rfl⟩ : id' = id ∧ token' = token := by simpa [Call.workerClaim] using hworker
      cases hrow : db.job id' with
      | none => exact ⟨_, by simp only [body, finalize, hrow]; rfl⟩
      | some row =>
          by_cases hcompleted : row.status = .completed
          · exact ⟨_, by simp only [body, finalize, hrow, if_pos hcompleted]; rfl⟩
          · exact ⟨_, by
              simp only [body, finalize, hrow, if_neg hcompleted,
                hstale.claimCurrent hrow]
              rfl⟩
  | create => cases hworker
  | status => cases hworker
  | events => cases hworker
  | decide => cases hworker
  | report => cases hworker
  | scenarioStatus => cases hworker
  | incidentIdFor => cases hworker
  | claimNext => cases hworker
  | claimDelivery => cases hworker
  | markDelivered => cases hworker
  | renewDelivery => cases hworker
  | releaseDelivery => cases hworker
  | retryDelivery => cases hworker

theorem step_stale (hkeys : Keys store.control) {a : Ambient} {call : Call}
    {id token : String} (hworker : call.workerClaim = some (id, token))
    (hstale : Stale store.control id token) :
    ∃ e, step s store (a, call) = (.error e, store) := by
  simp only [step, method]
  cases hcheck : precheck call with
  | error e => exact ⟨e, rfl⟩
  | ok u =>
      obtain ⟨e, hbody⟩ : ∃ e, body s a call store.control = .raise e :=
        body_stale hkeys hworker hstale
      exact ⟨e, by simp [run_transaction, hbody]⟩

theorem filter_length_le_one {α : Type} {l : List α} (hnodup : l.Nodup) {p : α → Bool}
    (hsame : ∀ a ∈ l, ∀ b ∈ l, p a = true → p b = true → a = b) :
    (l.filter p).length ≤ 1 := by
  have hfiltered := hnodup.filter p
  have hmem : ∀ a ∈ l.filter p, a ∈ l ∧ p a = true := fun a => List.mem_filter.1
  cases hlist : l.filter p with
  | nil => simp
  | cons a rest =>
      cases rest with
      | nil => simp
      | cons b rest =>
          rw [hlist] at hfiltered hmem
          obtain ⟨ha, hpa⟩ := hmem a (by simp)
          obtain ⟨hb, hpb⟩ := hmem b (by simp)
          have hne : a ≠ b := by
            have hnot := (List.nodup_cons.1 hfiltered).1
            exact fun heq => hnot (by simp [heq])
          exact absurd (hsame a ha b hb hpa hpb) hne

/-- What can happen to the two databases: a call of a control-plane method, or any
change of the ledger by another program. -/
inductive Incident where
  | call (a : Ambient) (call : Call)
  | ledger (rows : Ledger)

def happen (s : Settings) (store : Store) : Incident → Option (Except Refusal Reply) × Store
  | .call a call => ((step s store (a, call)).1, (step s store (a, call)).2)
  | .ledger rows => (none, { store with ledger := rows })

theorem happen_fenced (store : Store) (incident : Incident)
    (h : Keys store.control ∧ Fenced store.control) :
    Keys (happen s store incident).2.control ∧ Fenced (happen s store incident).2.control := by
  cases incident with
  | ledger rows => exact h
  | call a call =>
      have hmoves : Moves s anyRules store.control (step s store (a, call)).2.control :=
        (step_moves h.1 (a, call)).1
      exact hmoves.preserve (fun _ _ hkeys hfenced hmove => hfenced.move hkeys hmove) h.1 h.2

/-- Fencing, in every state that any sequence of incidents reaches. -/
theorem fencing (s : Settings) (incidents : List Incident) :
    let store := (Machine.run (happen s) Store.empty incidents).2
    (store.control.jobs.filter fun row => row.status = .running).length ≤ 1 ∧
      (∀ row ∈ store.control.jobs,
        row.status = .running ↔ row.claimToken ≠ none ∧ row.claimExpiresAt ≠ none) ∧
      ∀ (a : Ambient) (call : Call) (id token : String),
        call.workerClaim = some (id, token) → Stale store.control id token →
          ∃ e, step s store (a, call) = (.error e, store) := by
  intro store
  have hadmits : Machine.Admits (happen s) (fun _ _ => True) Store.empty incidents :=
    Machine.admits_of_forall incidents Store.empty fun _ _ _ => trivial
  obtain ⟨hkeys, hfenced⟩ : Keys store.control ∧ Fenced store.control :=
    Machine.run_invariant (fun st incident h _ => happen_fenced st incident h) incidents Store.empty
      ⟨keys_empty, fenced_empty⟩ hadmits
  refine ⟨?_, ?_, ?_⟩
  · refine filter_length_le_one hkeys.jobs.of_map ?_
    intro a ha b hb harunning hbrunning
    exact hfenced.single a ha b hb (by simpa using harunning) (by simpa using hbrunning)
  · intro row hrow
    have hleased := hfenced.leased row hrow
    simpa [Leased, Option.isSome_iff_ne_none] using hleased
  · exact fun a call id token hworker hstale => step_stale hkeys hworker hstale

end Fencing

end CausalOps.ControlPlane.Sqlite
