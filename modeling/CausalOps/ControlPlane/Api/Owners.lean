import CausalOps.ControlPlane.Api.Calls

set_option autoImplicit false

/-! Whole runs of the API and of the workers on what they have claimed: the answers of one owner
are those of a run without the others. -/

namespace CausalOps.ControlPlane.Api

open Sqlite

def addressee : Call → Option String
  | .renewRunning id _ => some id
  | .reserveIncident id _ => some id
  | .markPaused id _ _ => some id
  | .requeueRunning id _ => some id
  | .retryRunning id _ _ => some id
  | .finalize id _ _ => some id
  | .markDelivered id _ => some id
  | .renewDelivery id _ => some id
  | .releaseDelivery id _ => some id
  | .retryDelivery id _ _ => some id
  | _ => none

section Calls

variable {s : Settings} {store store' : Store} {owner id : String} {a : Ambient} {call : Call}

theorem addressee_actsOn (a : Ambient) (haddressee : addressee call = some id) :
    ∃ method, ActsOn s id method ∧ ∀ db, body s a call db = .lift (method db) := by
  cases call <;> cases haddressee
  case renewRunning => exact ⟨_, renewRunning_actsOn, fun _ => rfl⟩
  case reserveIncident => exact ⟨_, reserveIncident_actsOn, fun _ => rfl⟩
  case markPaused => exact ⟨_, markPaused_actsOn, fun _ => rfl⟩
  case requeueRunning => exact ⟨_, requeueRunning_actsOn, fun _ => rfl⟩
  case retryRunning => exact ⟨_, retryRunning_actsOn, fun _ => rfl⟩
  case finalize => exact ⟨_, finalize_actsOn, fun _ => rfl⟩
  case markDelivered => exact ⟨_, markDelivered_actsOn, fun _ => rfl⟩
  case renewDelivery => exact ⟨_, renewDelivery_actsOn, fun _ => rfl⟩
  case releaseDelivery => exact ⟨_, releaseDelivery_actsOn, fun _ => rfl⟩
  case retryDelivery => exact ⟨_, retryDelivery_actsOn, fun _ => rfl⟩

theorem Acted.touches {db : Database} {history : List Reply} (h : Acted id store.control db) :
    Touches id store { store with control := db, history := history } where
  others other hne := by
    have hdecision : db.decision other = store.control.decision other := by
      simp only [Database.decision, h.decisions]
    simp only [slice, h.others other hne, hdecision]
  used := by
    obtain ⟨job, hjob⟩ := h.job
    exact not_unused_of_job hjob
  jobs := h.jobs

/-- A worker call refused before it opens a connection, or one on stores that hold the same of
the investigation: the same answer, and nothing else touched. -/
theorem addressed_tandem (haddressee : addressee call = some id)
    (hgoverned : Governed s store.control) (hgoverned' : Governed s store'.control)
    (hslice : slice store id = slice store' id) :
    (step s store (a, call)).1 = (step s store' (a, call)).1 ∧
      (((step s store (a, call)).2 = store ∧ (step s store' (a, call)).2 = store') ∨
        Tandem id store store' (step s store (a, call)) (step s store' (a, call))) := by
  cases hcheck : precheck call with
  | error e =>
      simp only [step, method, hcheck, Program.run_raise]
      exact ⟨trivial, .inl ⟨trivial, trivial⟩⟩
  | ok u =>
      obtain ⟨method, hacts, hbody⟩ := addressee_actsOn (s := s) a haddressee
      rw [step_lift hcheck hbody, step_lift hcheck hbody]
      rcases hacts _ _ hgoverned hgoverned' (congrArg Slice.thread hslice) with
        ⟨e, herror, herror'⟩ | ⟨reply, after, after', hok, hok', hacted, hacted', hthread⟩
      · rw [herror, herror']
        exact ⟨rfl, .inl ⟨rfl, rfl⟩⟩
      · rw [hok, hok']
        have hdecision : after.decision id = after'.decision id := by
          have hsame := congrArg Slice.decision hslice
          simp only [slice, Database.decision] at hsame
          simp only [Database.decision, hacted.decisions, hacted'.decisions, hsame]
        have hledger : ledgerOf store.ledger id = ledgerOf store'.ledger id :=
          congrArg Slice.ledger hslice
        refine ⟨rfl, .inr ⟨rfl, hacted.touches, hacted'.touches, ?_⟩⟩
        simp only [slice, hthread, hdecision, hledger]

theorem mem_ownedJobs_of_thread {job : Job} (hjob : (store.control.thread id).job = some job) :
    job ∈ ownedJobs store.control job.owner := by
  simp only [Database.thread, Option.map_eq_some_iff] at hjob
  obtain ⟨row, hrow, rfl⟩ := hjob
  exact mem_ownedJobs.2 ⟨row, job_mem hrow, rfl, rfl⟩

theorem ownedJobs_thread (hkeys : Keys store.control) {job : Job}
    (hjob : job ∈ ownedJobs store.control owner) :
    (store.control.thread job.id).job = some job ∧ job.owner = owner := by
  obtain ⟨row, hrow, howner, rfl⟩ := mem_ownedJobs.1 hjob
  have hlookup : store.control.job row.id = some row := hkeys.jobs.lookup_of_mem hrow
  exact ⟨thread_of_job hlookup, howner⟩

theorem Agree.addressed (h : Agree s owner store store') (haddressee : addressee call = some id)
    {job : Job} (hjob : (store.control.thread id).job = some job) (howner : job.owner = owner) :
    (step s store (a, call)).1 = (step s store' (a, call)).1 ∧
      Agree s owner (step s store (a, call)).2 (step s store' (a, call)).2 := by
  have hid : job.id = id := thread_job_id hjob
  have hslice : slice store id = slice store' id := by
    have hmem := mem_ownedJobs_of_thread hjob
    rw [howner] at hmem
    exact hid ▸ h.slices job hmem
  obtain ⟨hanswer, ⟨hsame, hsame'⟩ | htandem⟩ :=
    addressed_tandem (a := a) haddressee h.governed h.governed' hslice
  · rw [hsame, hsame']
    exact ⟨hanswer, h⟩
  · exact htandem.agree h

theorem Agree.addressed_other (h : Agree s owner store store')
    (haddressee : addressee call = some id)
    (hothers : ∀ job, (store.control.thread id).job = some job → job.owner ≠ owner) :
    Agree s owner (step s store (a, call)).2 store' := by
  obtain ⟨-, ⟨hsame, -⟩ | htandem⟩ :=
    addressed_tandem (a := a) haddressee h.governed h.governed rfl
  · rw [hsame]
    exact h
  · refine h.touched htandem.touches (h.governed.moves (step_moves h.governed.keys (a, call)).1) ?_
    rintro job hjob rfl
    obtain ⟨hthread, howner⟩ := ownedJobs_thread h.governed.keys hjob
    exact hothers job hthread howner

end Calls

section Requests

variable {s : Settings} {store store' : Store} {owner other id : String} {a : Ambient}

inductive SpeaksFor (owner : String) : Call → Prop where
  | create (family : ScenarioFamily) (key : String) : SpeaksFor owner (.create owner family key)
  | status (id : String) : SpeaksFor owner (.status owner id)
  | events (id : String) : SpeaksFor owner (.events owner id)
  | decide (id : String) (d : OwnerDecision) : SpeaksFor owner (.decide owner id d)
  | report (id : String) : SpeaksFor owner (.report owner id)

/-- A new investigation gets an id that nothing is stored under. -/
def Fresh (store : Store) (a : Ambient) : Call → Prop
  | .create _ _ _ => Unused store a.fresh.hex
  | _ => True

theorem owned_error {db db' : Database}
    (hjob : (owned db owner id).map JobRow.toJob = (owned db' owner id).map JobRow.toJob)
    {e : Refusal} (h : owned db owner id = .error e) : owned db' owner id = .error e := by
  rw [h] at hjob
  cases hrow : owned db' owner id with
  | error e' =>
      rw [hrow] at hjob
      cases hjob
      rfl
  | ok row =>
      rw [hrow] at hjob
      cases hjob

theorem step_decide_refused {e : Refusal} {d : OwnerDecision}
    (h : owned store.control owner id = .error e) :
    step s store (a, .decide owner id d) = (.error e, store) := by
  simp only [step, method, precheck, run_transaction, body, Sqlite.decide, h, Program.run_raise]

theorem Agree.decide (h : Agree s owner store store') (d : OwnerDecision) :
    (step s store (a, .decide owner id d)).1 = (step s store' (a, .decide owner id d)).1 ∧
      Agree s owner (step s store (a, .decide owner id d)).2
        (step s store' (a, .decide owner id d)).2 := by
  obtain ⟨hjob, hslice⟩ := h.owned id
  cases hrow : Sqlite.owned store.control owner id with
  | error e =>
      rw [step_decide_refused hrow, step_decide_refused (owned_error hjob hrow)]
      exact ⟨rfl, h⟩
  | ok row =>
      cases hrow' : Sqlite.owned store'.control owner id with
      | error e' =>
          rw [owned_error hjob.symm hrow'] at hrow
          cases hrow
      | ok row' =>
          rw [hrow, hrow'] at hjob
          exact (decide_tandem h.governed h.governed' hrow hrow' (Except.ok.inj hjob)
            (hslice row hrow) d).agree h

theorem Agree.speaks {call : Call} (h : Agree s owner store store')
    (hspeaks : SpeaksFor owner call) (hfresh : Fresh store a call) :
    (step s store (a, call)).1 = (step s store' (a, call)).1 ∧
      Agree s owner (step s store (a, call)).2 (step s store' (a, call)).2 := by
  cases hspeaks with
  | create family key => exact h.create hfresh
  | status id => exact h.status a id
  | events id => exact h.events a id
  | decide id d => exact h.decide d
  | report id => exact h.report a id

theorem Agree.speaks_other {call : Call} (h : Agree s owner store store')
    (hspeaks : SpeaksFor other call) (hne : other ≠ owner) (hfresh : Fresh store a call) :
    Agree s owner (step s store (a, call)).2 store' := by
  cases hspeaks with
  | create family key => exact h.create_other hne hfresh
  | status id =>
      obtain ⟨-, hcontrol, hledger⟩ := @step_read s a (.status other id) _ rfl (fun _ => rfl)
        (fun _ _ _ hanswer => status_moves hanswer) store
      exact h.kept hcontrol hledger
  | events id =>
      obtain ⟨-, hcontrol, hledger⟩ := @step_read s a (.events other id) _ rfl (fun _ => rfl)
        (fun _ _ _ hanswer => events_moves hanswer) store
      exact h.kept hcontrol hledger
  | report id =>
      obtain ⟨-, hcontrol, hledger⟩ := @step_read s a (.report other id) _ rfl (fun _ => rfl)
        (fun _ _ _ hanswer => report_moves hanswer) store
      exact h.kept hcontrol hledger
  | decide id d =>
      cases hrow : Sqlite.owned store.control other id with
      | error e =>
          rw [step_decide_refused hrow]
          exact h
      | ok row =>
          have htandem := decide_tandem (a := a) h.governed h.governed hrow hrow rfl rfl d
          refine h.touched htandem.touches (h.governed.moves (step_moves h.governed.keys _).1) ?_
          rintro job hjob rfl
          obtain ⟨hthread, howner⟩ := ownedJobs_thread h.governed.keys hjob
          rw [thread_of_job (owned_job h.governed.keys hrow)] at hthread
          cases hthread
          exact hne ((owned_ok hrow).2.2.symm.trans howner)

end Requests

section Runs

variable {s : Settings} {app : App} {owner : String}

/-- A request to the API, or a worker's call on an investigation that it names. -/
inductive Input where
  | http (a : Ambient) (request : Request)
  | worker (a : Ambient) (call : Call)

inductive Answer where
  | http (response : Response)
  | worker (result : Except Refusal Reply)

def App.serve (app : App) (s : Settings) (store : Store) : Input → Answer × Store
  | .http a request =>
      let (response, store') := app.respond s store a request
      (.http response, store')
  | .worker a call =>
      let (result, store') := step s store (a, call)
      (.worker result, store')

/-- An input on behalf of an owner: a request that carries its token, or a call on an
investigation of its own. -/
def App.onBehalf (app : App) (owner : String) (store : Store) : Input → Bool
  | .http a request => app.owner a.now request.authorization = .ok owner
  | .worker _ call =>
      ((addressee call).bind fun id => (store.control.thread id).job).any fun job =>
        job.owner = owner

/-- New investigations get unused ids, and workers only make calls that name an
investigation. -/
def App.Admissible (app : App) (store : Store) : Input → Prop
  | .http a request => ∀ call, app.call a.now request = .ok call → Fresh store a call
  | .worker _ call => (addressee call).isSome = true

theorem App.call_speaks {now : Time} {request : Request} {call : Call}
    (h : app.call now request = .ok call) :
    ∃ who, app.owner now request.authorization = .ok who ∧ SpeaksFor who call := by
  obtain ⟨authorization, endpoint⟩ := request
  cases howner : app.owner now authorization with
  | error status =>
      cases endpoint <;> simp only [App.call, howner, bind, Except.bind] at h
      · split at h <;> cases h
      · cases h
      · cases h
      · split at h <;> cases h
      · cases h
  | ok who =>
      refine ⟨who, rfl, ?_⟩
      cases endpoint <;> simp only [App.call, howner, bind, Except.bind, pure, Except.pure] at h
      · split at h
        · cases h
        · split at h
          · cases h
          · cases h
            exact .create _ _
      · cases h
        exact .status _
      · cases h
        exact .events _
      · split at h
        · cases h
        · cases h
          exact .decide _ _
      · cases h
        exact .report _

theorem App.respond_of_call (s : Settings) (store : Store) (a : Ambient) {request : Request}
    {call : Call}
    (h : app.call a.now request = .ok call) :
    (app.respond s store a request).2 = (step s store (a, call)).2 ∧
      (app.respond s store a request).1 = match (step s store (a, call)).1 with
        | .ok reply => .ok reply
        | .error e => .error (request.endpoint.statusCode e) := by
  simp only [App.respond, h]
  cases step s store (a, call) with
  | mk outcome store' => cases outcome <;> exact ⟨rfl, rfl⟩

theorem App.unwinding (app : App) (s : Settings) (owner : String) :
    Machine.Unwinding (app.serve s) (app.onBehalf owner) app.Admissible (Agree s owner) where
  consistent := by
    intro store store' input h hadmissible hmine
    cases input with
    | http a request =>
        simp only [App.onBehalf, decide_eq_true_eq] at hmine
        cases hcall : app.call a.now request with
        | error status =>
            simp only [App.serve, App.respond, hcall]
            exact ⟨trivial, h⟩
        | ok call =>
            obtain ⟨who, hwho, hspeaks⟩ := App.call_speaks hcall
            cases hwho.symm.trans hmine
            obtain ⟨hanswer, hagree⟩ := h.speaks hspeaks (hadmissible call hcall)
            obtain ⟨hstore, hresponse⟩ := App.respond_of_call s store a hcall
            obtain ⟨hstore', hresponse'⟩ :=
              App.respond_of_call s store' a hcall
            simp only [App.serve, hstore, hstore', hresponse, hresponse', hanswer]
            exact ⟨trivial, hagree⟩
    | worker a call =>
        obtain ⟨id, haddressee⟩ := Option.isSome_iff_exists.1 hadmissible
        simp only [App.onBehalf, haddressee, Option.bind_some, Option.any_eq_true,
          decide_eq_true_eq] at hmine
        obtain ⟨job, hjob, howner⟩ := hmine
        obtain ⟨hanswer, hagree⟩ := h.addressed (a := a) haddressee hjob howner
        simp only [App.serve, hanswer]
        exact ⟨trivial, hagree⟩
  respects := by
    intro store store' input h hadmissible hmine
    cases input with
    | http a request =>
        simp only [App.onBehalf, decide_eq_false_iff_not] at hmine
        cases hcall : app.call a.now request with
        | error status =>
            simp only [App.serve, App.respond, hcall]
            exact h
        | ok call =>
            obtain ⟨who, hwho, hspeaks⟩ := App.call_speaks hcall
            have hne : who ≠ owner := by
              rintro rfl
              exact hmine hwho
            have hstore := (App.respond_of_call s store a hcall).1
            simp only [App.serve, hstore]
            exact h.speaks_other hspeaks hne (hadmissible call hcall)
    | worker a call =>
        obtain ⟨id, haddressee⟩ := Option.isSome_iff_exists.1 hadmissible
        simp only [App.onBehalf, haddressee, Option.bind_some] at hmine
        refine h.addressed_other haddressee fun job hjob howner => ?_
        rw [hjob] at hmine
        simp [howner] at hmine

/-- From any state that the SQLite control plane reaches, and for any requests of any owners and
any calls of workers that name an investigation: the answers on behalf of an owner are the
answers of the run in which nothing else was ever issued. -/
theorem owners_isolated (app : App) (s : Settings) (incidents : List Incident) (owner : String)
    (inputs : List Input)
    (hinputs : Machine.Admits (app.serve s) app.Admissible (reached s incidents) inputs) :
    Machine.observed (app.serve s) (app.onBehalf owner) (reached s incidents) inputs =
      (Machine.run (app.serve s) (reached s incidents)
        (Machine.purged (app.serve s) (app.onBehalf owner) (reached s incidents) inputs)).1 :=
  ((app.unwinding s owner).run inputs _ _ (.refl (reached_governed incidents)) hinputs).1

def sampleApp : App where
  allowedOwners := ["alice@example.com", "bob@example.com"]
  validator _ token := some ⟨some (token ++ "@example.com"), true⟩
  casefold := id

def bobThenAlice : List Input :=
  [.http (ambient 0 jobB) ⟨some "Bearer bob", .create "configuration_change" (some "first")⟩,
   .http (ambient 1 jobA) ⟨some "Bearer alice", .getStatus jobB.hex⟩]

theorem owners_isolated_bobThenAlice :
    Machine.observed (sampleApp.serve sampleSettings) (sampleApp.onBehalf "alice@example.com")
        (reached sampleSettings []) bobThenAlice =
      (Machine.run (sampleApp.serve sampleSettings) (reached sampleSettings [])
        (Machine.purged (sampleApp.serve sampleSettings) (sampleApp.onBehalf "alice@example.com")
          (reached sampleSettings []) bobThenAlice)).1 := by
  refine owners_isolated sampleApp sampleSettings [] "alice@example.com" bobThenAlice ⟨?_, ?_, trivial⟩
  · intro call hcall
    obtain ⟨who, -, hspeaks⟩ := App.call_speaks hcall
    cases hspeaks with
    | create family key => exact rfl
    | status id => trivial
    | events id => trivial
    | decide id d => trivial
    | report id => trivial
  · intro call hcall
    simp only [App.call, bind, Except.bind, pure, Except.pure] at hcall
    split at hcall
    · cases hcall
    · cases hcall
      trivial

end Runs

end CausalOps.ControlPlane.Api
