import CausalOps.Library.Machine
import CausalOps.ControlPlane.Firestore

set_option autoImplicit false

/-! Several API processes on one Firestore database. Each answers one `create` or
`decide` at a time, under its own lock; nothing keeps two processes apart between a
read and the commit that follows it. -/

namespace CausalOps.ControlPlane.Firestore

open Program (Sharing Pool Act Handover)

section Requests

inductive Request where
  | create (fresh : Uuid) (ownerEmail : String) (family : ScenarioFamily)
      (idempotencyKey : String)
  | decide (ownerEmail investigationId : String) (d : OwnerDecision)

def serve : Request → Prog Reply
  | .create fresh owner family key => create fresh owner family key
  | .decide owner id d => Firestore.decide owner id d

def Request.creates : Request → Option String
  | .create fresh _ _ _ => some fresh.hex
  | .decide _ _ _ => none

def Holds (job : Job) (ownerEmail idempotencyKey : String) : Prop :=
  job.owner = ownerEmail ∧ job.idempotencyKey = some idempotencyKey

/-- Requests that cannot both be granted: different decisions on one job, and creations
for one owner and key. -/
def Contests : Request → Request → Prop
  | .decide _ id d, .decide _ id' d' => id = id' ∧ d ≠ d'
  | .create _ owner _ key, .create _ owner' _ key' => owner = owner' ∧ key = key'
  | _, _ => False

instance : (r r' : Request) → Decidable (Contests r r')
  | .decide _ id d, .decide _ id' d' => inferInstanceAs (Decidable (id = id' ∧ d ≠ d'))
  | .create _ owner _ key, .create _ owner' _ key' =>
      inferInstanceAs (Decidable (owner = owner' ∧ key = key'))
  | .decide _ _ _, .create _ _ _ _ => isFalse id
  | .create _ _ _ _, .decide _ _ _ => isFalse id

end Requests

section Sharing

variable {db db' : Database} {r r' : Request}

/-- A job document under each id, and one job for each owner and key. -/
structure Consistent (db : Database) : Prop where
  keyed : Rows.Keyed JobDoc.key db.jobs
  requests : ∀ owner key id id' doc doc', db.job id = some doc → Holds doc.toJob owner key →
    db.job id' = some doc' → Holds doc'.toJob owner key → id = id'

theorem consistent_of_jobs (hkeyed : Rows.Keyed JobDoc.key db.jobs)
    (hrequests : ∀ doc ∈ db.jobs, ∀ doc' ∈ db.jobs, doc.owner = doc'.owner →
      doc.idempotencyKey = doc'.idempotencyKey → doc.id = doc'.id) : Consistent db := by
  refine ⟨hkeyed, ?_⟩
  intro owner key id id' doc doc' hdoc hholds hdoc' hholds'
  have hid : doc.id = id := (Rows.lookup_key hdoc : doc.key = id)
  have hid' : doc'.id = id' := (Rows.lookup_key hdoc' : doc'.key = id')
  rw [← hid, ← hid']
  exact hrequests doc (Rows.lookup_mem hdoc) doc' (Rows.lookup_mem hdoc')
    (hholds.1.trans hholds'.1.symm) (hholds.2.trans hholds'.2.symm)

/-- Nothing recorded is lost: decisions stay, and jobs stay with their owner and key. -/
structure Grows (db db' : Database) : Prop where
  consistent : Consistent db → Consistent db'
  decisions : ∀ id prior d, db.decision id = some prior →
    OwnerDecision.validate prior.decision prior.rejectionNote = some d →
      ∃ prior', db'.decision id = some prior' ∧
        OwnerDecision.validate prior'.decision prior'.rejectionNote = some d
  jobs : ∀ id doc, db.job id = some doc → ∃ doc', db'.job id = some doc' ∧
    doc'.owner = doc.owner ∧ doc'.idempotencyKey = doc.idempotencyKey

theorem Grows.refl (db : Database) : Grows db db :=
  ⟨id, fun _ prior _ hprior hvalid => ⟨prior, hprior, hvalid⟩,
    fun _ doc h => ⟨doc, h, rfl, rfl⟩⟩

theorem Grows.trans {db'' : Database} (h : Grows db db') (h' : Grows db' db'') :
    Grows db db'' := by
  refine ⟨fun hconsistent => h'.consistent (h.consistent hconsistent), ?_, ?_⟩
  · intro id prior d hprior hvalid
    obtain ⟨prior', hprior', hvalid'⟩ := h.decisions id prior d hprior hvalid
    exact h'.decisions id prior' d hprior' hvalid'
  · intro id doc hdoc
    obtain ⟨doc', hdoc', howner, hkey⟩ := h.jobs id doc hdoc
    obtain ⟨doc'', hdoc'', howner', hkey'⟩ := h'.jobs id doc' hdoc'
    exact ⟨doc'', hdoc'', howner'.trans howner, hkey'.trans hkey⟩

/-- What a request does to the database: it may record its decision, and a job that is new
is its own. -/
structure Touches (r : Request) (db db' : Database) : Prop extends Grows db db' where
  created : ∀ id doc, db'.job id = some doc → db.job id = none →
    ∃ fresh owner family key, r = .create fresh owner family key ∧ id = fresh.hex ∧
      Holds doc.toJob owner key
  decided : ∀ id prior, db'.decision id = some prior → db.decision id = some prior ∨
    ∃ owner d, r = .decide owner id d ∧
      OwnerDecision.validate prior.decision prior.rejectionNote = some d

theorem Touches.refl (r : Request) (db : Database) : Touches r db db := by
  refine ⟨.refl db, ?_, fun _ _ h => Or.inl h⟩
  intro id doc hdoc hnone
  rw [hnone] at hdoc
  cases hdoc

/-- What a request relies on: nobody else uses the id of its new job. -/
structure Undisturbed (r : Request) (db db' : Database) : Prop extends Grows db db' where
  unused : ∀ id, r.creates = some id → db.job id = none → db'.job id = none

theorem Undisturbed.refl (r : Request) (db : Database) : Undisturbed r db db :=
  ⟨.refl db, fun _ _ h => h⟩

theorem Undisturbed.trans {db'' : Database} (h : Undisturbed r db db')
    (h' : Undisturbed r db' db'') : Undisturbed r db db'' :=
  ⟨h.toGrows.trans h'.toGrows,
    fun id hcreates hnone => h'.unused id hcreates (h.unused id hcreates hnone)⟩

theorem Touches.undisturbed (h : Touches r db db')
    (hdistinct : ∀ id, r.creates = some id → r'.creates ≠ some id) : Undisturbed r' db db' := by
  refine ⟨h.toGrows, ?_⟩
  intro id hcreates hnone
  cases hdoc : db'.job id with
  | none => rfl
  | some doc =>
      obtain ⟨fresh, owner, family, key, rfl, rfl, -⟩ := h.created id doc hdoc hnone
      exact absurd hcreates (hdistinct fresh.hex rfl)

/-- A request that contests this one has been granted. -/
def Stale : Request → Database → Prop
  | .decide _ id d, db => ∃ prior, db.decision id = some prior ∧
      OwnerDecision.validate prior.decision prior.rejectionNote ≠ some d
  | .create _ owner _ key, db => ∃ id doc, db.job id = some doc ∧ Holds doc.toJob owner key

theorem Touches.stale (h : Touches r db db') (hfree : ¬ Contests r r') (hstale : Stale r' db') :
    Stale r' db := by
  cases r' with
  | decide owner' id d' =>
      obtain ⟨prior, hprior, hother⟩ := hstale
      rcases h.decided id prior hprior with hbefore | ⟨owner, d, rfl, hvalid⟩
      · exact ⟨prior, hbefore, hother⟩
      · refine absurd ⟨rfl, ?_⟩ hfree
        rintro rfl
        exact hother hvalid
  | create fresh' owner' family' key' =>
      obtain ⟨id, doc, hdoc, hholds⟩ := hstale
      cases hbefore : db.job id with
      | none =>
          obtain ⟨fresh, owner, family, key, rfl, -, hown⟩ := h.created id doc hdoc hbefore
          have hkey : some key = some key' := hown.2.symm.trans hholds.2
          exact absurd ⟨hown.1.symm.trans hholds.1, Option.some.inj hkey⟩ hfree
      | some doc' =>
          obtain ⟨doc'', hdoc'', howner, hkey⟩ := h.jobs id doc' hbefore
          rw [hdoc] at hdoc''
          obtain rfl := Option.some.inj hdoc''
          exact ⟨id, doc', hbefore, howner.symm.trans hholds.1, hkey.symm.trans hholds.2⟩

/-- A request that is not stale does to the database what it should. -/
def sharing : Sharing Request Database where
  rely := Undisturbed
  guarantee := fun request db db' => ¬ Stale request db → Touches request db db'
  rely_refl := Undisturbed.refl
  rely_trans := Undisturbed.trans

end Sharing

section Commits

variable {db : Database} {id : String}

theorem job_put (doc : JobDoc) (id : String) :
    (db.write (.job doc)).job id = if doc.id = id then some doc else db.job id :=
  Rows.lookup_put doc id

theorem decision_put (doc : DecisionDoc) (id : String) :
    (db.write (.decision doc)).decision id =
      if doc.jobId = id then some doc else db.decision id :=
  Rows.lookup_put doc id

/-- Writing a document of the same owner and key back keeps the database consistent. -/
theorem Consistent.rewrite (h : Consistent db) {doc doc' : JobDoc} (hdoc : db.job id = some doc)
    (hid : doc'.id = id) (howner : doc'.owner = doc.owner)
    (hkey : doc'.idempotencyKey = doc.idempotencyKey) :
    Consistent (db.write (.job doc')) := by
  have hback : ∀ other found, (db.write (.job doc')).job other = some found →
      ∃ found', db.job other = some found' ∧ found'.owner = found.owner ∧
        found'.idempotencyKey = found.idempotencyKey := by
    intro other found hfound
    rw [job_put, hid] at hfound
    by_cases hother : id = other
    · rw [if_pos hother] at hfound
      obtain rfl := Option.some.inj hfound
      exact ⟨doc, hother ▸ hdoc, howner.symm, hkey.symm⟩
    · rw [if_neg hother] at hfound
      exact ⟨found, hfound, rfl, rfl⟩
  refine ⟨h.keyed.put doc', ?_⟩
  intro owner key a b x y hx hxholds hy hyholds
  obtain ⟨x', hx', hxowner, hxkey⟩ := hback a x hx
  obtain ⟨y', hy', hyowner, hykey⟩ := hback b y hy
  exact h.requests owner key a b x' y' hx' ⟨hxowner.trans hxholds.1, hxkey.trans hxholds.2⟩ hy'
    ⟨hyowner.trans hyholds.1, hykey.trans hyholds.2⟩

theorem Consistent.insert (h : Consistent db) {doc : JobDoc} {owner key : String}
    (hholds : Holds doc.toJob owner key)
    (hunheld : ∀ id doc, db.job id = some doc → ¬ Holds doc.toJob owner key) :
    Consistent (db.write (.job doc)) := by
  refine ⟨h.keyed.put doc, ?_⟩
  intro owner' key' a b x y hx hxholds hy hyholds
  rw [job_put] at hx hy
  have hclash : ∀ other found, db.job other = some found → Holds found.toJob owner' key' →
      ¬ Holds doc.toJob owner' key' := by
    intro other found hfound hfoundholds hdocholds
    refine hunheld other found hfound ⟨?_, ?_⟩
    · exact hfoundholds.1.trans (hdocholds.1.symm.trans hholds.1)
    · exact hfoundholds.2.trans (hdocholds.2.symm.trans hholds.2)
  by_cases ha : doc.id = a
  · rw [if_pos ha] at hx
    obtain rfl := Option.some.inj hx
    by_cases hb : doc.id = b
    · exact ha.symm.trans hb
    · rw [if_neg hb] at hy
      exact absurd hxholds (hclash b y hy hyholds)
  · rw [if_neg ha] at hx
    by_cases hb : doc.id = b
    · rw [if_pos hb] at hy
      obtain rfl := Option.some.inj hy
      exact absurd hyholds (hclash a x hx hxholds)
    · rw [if_neg hb] at hy
      exact h.requests owner' key' a b x y hx hxholds hy hyholds

/-- The commit of `create`. -/
theorem touches_create {fresh : Uuid} {owner key : String} {family : ScenarioFamily}
    (sequence : Nat) (staged : EventDoc) (habsent : db.job fresh.hex = none)
    (hfree : ¬ Stale (.create fresh owner family key) db) :
    Touches (.create fresh owner family key) db
      ((db.write (.job (newJob fresh owner family key sequence))).write (.event staged)) := by
  have hunheld : ∀ id doc, db.job id = some doc → ¬ Holds doc.toJob owner key :=
    fun id doc hdoc hholds => hfree ⟨id, doc, hdoc, hholds⟩
  have hjob : ∀ id, ((db.write (.job (newJob fresh owner family key sequence))).write
      (.event staged)).job id =
        if fresh.hex = id then some (newJob fresh owner family key sequence) else db.job id :=
    fun id => job_put _ id
  have hholds : Holds (newJob fresh owner family key sequence).toJob owner key := ⟨rfl, rfl⟩
  refine ⟨⟨?_, fun _ prior _ hprior hvalid => ⟨prior, hprior, hvalid⟩, ?_⟩, ?_,
    fun _ _ hprior => Or.inl hprior⟩
  · intro hconsistent
    have hinserted := hconsistent.insert hholds hunheld
    exact ⟨hinserted.keyed, hinserted.requests⟩
  · intro id doc hdoc
    refine ⟨doc, ?_, rfl, rfl⟩
    have hne : fresh.hex ≠ id := by
      rintro rfl
      rw [habsent] at hdoc
      cases hdoc
    rw [hjob, if_neg hne]
    exact hdoc
  · intro id doc hdoc hnone
    rw [hjob] at hdoc
    by_cases hid : fresh.hex = id
    · rw [if_pos hid] at hdoc
      obtain rfl := Option.some.inj hdoc
      exact ⟨fresh, owner, family, key, rfl, hid.symm, hholds⟩
    · rw [if_neg hid, hnone] at hdoc
      cases hdoc

/-- The commit of `decide`, which writes back the job that it read. -/
theorem touches_decide {owner c : String} {d : OwnerDecision} {job stored : JobDoc}
    (staged : EventDoc) (hid : job.id = id) (hstored : db.job id = some stored)
    (howner : stored.owner = job.owner) (hkey : stored.idempotencyKey = job.idempotencyKey)
    (hfree : ¬ Stale (.decide owner id d) db) :
    Touches (.decide owner id d) db
      (((db.write (.decision ⟨.of c d, id⟩)).write (.job { job with status := .queued })).write
        (.event staged)) := by
  subst hid
  have hjobs : ∀ other, (((db.write (.decision ⟨.of c d, job.id⟩)).write
      (.job { job with status := .queued })).write (.event staged)).job other =
        if job.id = other then some { job with status := .queued } else db.job other :=
    fun other => job_put _ other
  have hdecisions : ∀ other, (((db.write (.decision ⟨.of c d, job.id⟩)).write
      (.job { job with status := .queued })).write (.event staged)).decision other =
        if job.id = other then some ⟨.of c d, job.id⟩ else db.decision other :=
    fun other => decision_put _ other
  have hvalidated : OwnerDecision.validate (DecisionColumns.of c d).decision
      (DecisionColumns.of c d).rejectionNote = some d := OwnerDecision.validate_columns d
  refine ⟨⟨?_, ?_, ?_⟩, ?_, ?_⟩
  · intro hconsistent
    have hmirrored : Consistent (db.write (.decision ⟨.of c d, job.id⟩)) :=
      ⟨hconsistent.keyed, hconsistent.requests⟩
    have hfound : (db.write (.decision ⟨.of c d, job.id⟩)).job job.id = some stored := hstored
    have hset : Consistent ((db.write (.decision ⟨.of c d, job.id⟩)).write
        (.job { job with status := .queued })) :=
      hmirrored.rewrite hfound rfl howner.symm hkey.symm
    exact ⟨hset.keyed, hset.requests⟩
  · intro other prior d' hprior hvalid
    rw [hdecisions]
    by_cases hother : job.id = other
    · subst hother
      have hsame : d' = d := by
        by_contra hne
        refine hfree ⟨prior, hprior, ?_⟩
        rw [hvalid]
        exact fun heq => hne (Option.some.inj heq)
      subst hsame
      exact ⟨_, if_pos rfl, hvalidated⟩
    · exact ⟨prior, by rw [if_neg hother]; exact hprior, hvalid⟩
  · intro other doc hdoc
    rw [hjobs]
    by_cases hother : job.id = other
    · subst hother
      rw [hstored] at hdoc
      obtain rfl := Option.some.inj hdoc
      exact ⟨_, if_pos rfl, howner.symm, hkey.symm⟩
    · exact ⟨doc, by rw [if_neg hother]; exact hdoc, rfl, rfl⟩
  · intro other doc hdoc hnone
    rw [hjobs] at hdoc
    by_cases hother : job.id = other
    · subst hother
      rw [hstored] at hnone
      cases hnone
    · rw [if_neg hother, hnone] at hdoc
      cases hdoc
  · intro other prior hprior
    rw [hdecisions] at hprior
    by_cases hother : job.id = other
    · subst hother
      rw [if_pos rfl] at hprior
      obtain rfl := Option.some.inj hprior
      exact Or.inr ⟨owner, d, rfl, hvalidated⟩
    · rw [if_neg hother] at hprior
      exact Or.inl hprior

end Commits

section Promises

variable {streams : StreamOrder} {db : Database}

/-- What an acknowledged request may rely on: its decision is the one stored, or the
job that was returned is the one of its owner and key. -/
def Acknowledged (request : Request) (outcome : Except Refusal Reply) (db : Database) : Prop :=
  match request, outcome with
  | .decide _ id d, .ok _ => ∃ prior, db.decision id = some prior ∧
      OwnerDecision.validate prior.decision prior.rejectionNote = some d
  | .create _ owner _ key, .ok reply => ∃ view doc, reply = .view view ∧
      db.job view.investigationId = some doc ∧ Holds doc.toJob owner key
  | _, .error _ => True

theorem Acknowledged.grows {request : Request} {outcome : Except Refusal Reply} {db' : Database}
    (h : Acknowledged request outcome db) (hgrows : Grows db db') :
    Acknowledged request outcome db' := by
  cases outcome with
  | error e => cases request <;> exact trivial
  | ok reply =>
      cases request with
      | decide owner id d =>
          obtain ⟨prior, hprior, hvalid⟩ := h
          exact hgrows.decisions id prior d hprior hvalid
      | create fresh owner family key =>
          obtain ⟨view, doc, hview, hdoc, hholds⟩ := h
          obtain ⟨doc', hdoc', howner, hkey⟩ := hgrows.jobs _ doc hdoc
          exact ⟨view, doc', hview, hdoc', howner.trans hholds.1, hkey.trans hholds.2⟩

theorem raises {r : Request} {e : Refusal} :
    (Program.raise e : Prog Reply).Meets (exec streams) sharing r (Acknowledged r) db := by
  intro t _
  cases r <;> exact trivial

theorem returns {r : Request} {reply : Reply} (h : Acknowledged r (.ok reply) db) :
    (Program.ret reply : Prog Reply).Meets (exec streams) sharing r (Acknowledged r) db :=
  fun _ ht => h.grows ht.toGrows

theorem decide_meets {owner id : String} {d : OwnerDecision} :
    (Firestore.decide owner id d).Meets (exec streams) sharing (.decide owner id d)
      (Acknowledged (.decide owner id d)) db := by
  intro t _
  refine ⟨fun _ => Touches.refl _ t, ?_⟩
  simp only [exec_getJob]
  cases hjob : t.job id with
  | none => exact raises
  | some job =>
      simp only
      split
      · exact raises
      · intro u hu
        have hread : Undisturbed (.decide owner id d) t u := hu
        refine ⟨fun _ => Touches.refl _ u, ?_⟩
        simp only [exec_getDecision]
        cases hprior : u.decision id with
        | some prior =>
            simp only
            split
            · exact raises
            · rename_i priorDecision hvalid
              split
              · exact raises
              · split
                · exact raises
                · split
                  · exact raises
                  · rename_i hsame
                    exact returns ⟨prior, hprior, (not_not.1 hsame) ▸ hvalid⟩
        | none =>
            simp only
            split
            · exact raises
            · split
              · exact raises
              · rename_i c _
                intro v hv
                refine ⟨fun _ => Touches.refl _ v, ?_⟩
                intro w hw
                have hthen : Undisturbed (.decide owner id d) t w :=
                  hread.trans (Undisturbed.trans hv hw)
                obtain ⟨stored, hstored, howner, hkey⟩ := hthen.jobs id job hjob
                have hid : job.id = id := (Rows.lookup_key hjob : job.key = id)
                refine ⟨touches_decide _ hid hstored howner hkey, ?_⟩
                exact returns ⟨⟨.of c d, id⟩, (decision_put _ id).trans (if_pos rfl),
                  OwnerDecision.validate_columns d⟩

theorem create_meets {fresh : Uuid} {owner key : String} {family : ScenarioFamily}
    (hconsistent : Consistent db) (habsent : db.job fresh.hex = none) :
    (create fresh owner family key).Meets (exec streams) sharing
      (.create fresh owner family key) (Acknowledged (.create fresh owner family key)) db := by
  intro t ht
  have hstart : Undisturbed (.create fresh owner family key) db t := ht
  have hkeyed := (hstart.consistent hconsistent).keyed
  refine ⟨fun _ => Touches.refl _ t, ?_⟩
  simp only [exec_streamJobs]
  cases hfound : (streams.order (t.jobs.filter (JobQuery.owner owner).selects)).find?
      fun data => data.idempotencyKey = some key with
  | some data =>
      have hmem := List.mem_of_find?_eq_some hfound
      have hkey : data.idempotencyKey = some key := by
        simpa using List.find?_some hfound
      simp only [mem_order, List.mem_filter, JobQuery.selects, decide_eq_true_eq] at hmem
      refine returns ⟨data.view, data, rfl, ?_, hmem.2, hkey⟩
      exact hkeyed.lookup_of_mem hmem.1
  | none =>
      intro u hu
      refine ⟨fun _ => Touches.refl _ u, ?_⟩
      intro v hv
      refine ⟨fun _ => Touches.refl _ v, ?_⟩
      intro w hw
      have hthen : Undisturbed (.create fresh owner family key) db w :=
        hstart.trans ((Undisturbed.trans hu hv).trans hw)
      refine ⟨touches_create _ _ (hthen.unused fresh.hex rfl habsent), ?_⟩
      exact returns ⟨⟨fresh.hex, .queued⟩, _, rfl, (job_put _ fresh.hex).trans (if_pos rfl),
        rfl, rfl⟩

end Promises

section Reads

variable {streams : StreamOrder} {db db' : Database} {r : Request} {p : Prog Reply}

/-- The reads that a request makes of the job and of what it may be refused for; those that
follow them count events and jobs. -/
def rereads : Op → Bool
  | .getJob _ | .getDecision _ | .streamJobs (.owner _) => true
  | _ => false

def commits : Prog Reply → Bool
  | .call (.commit _) _ => true
  | _ => false

/-- A request that has made its reads and has not committed. -/
def pending : Prog Reply → Bool
  | .call op _ => !rereads op
  | _ => false

/-- The program commits only when its request is not stale, if nothing makes it so between
its reads and its commit. -/
def Informed (streams : StreamOrder) (r : Request) : Prog Reply → Database → Prop
  | .ret _, _ => True
  | .raise _, _ => True
  | .call op next, db => ∀ t, (rereads op = true ∨ (Stale r t → Stale r db)) →
      (commits (.call op next) = true → ¬ Stale r t) ∧
        Informed streams r (next (exec streams op t).1) (exec streams op t).2

theorem Informed.weaken (h : Informed streams r p db)
    (hstale : pending p = true → Stale r db' → Stale r db) : Informed streams r p db' := by
  cases p with
  | ret a => exact trivial
  | raise e => exact trivial
  | call op next =>
      intro t ht
      refine h t ?_
      cases hreads : rereads op with
      | true => exact Or.inl rfl
      | false =>
          have hpending : pending (.call op next) = true := by simp [pending, hreads]
          rw [hreads] at ht
          rcases ht with hfalse | ht
          · cases hfalse
          · exact Or.inr fun hlater => hstale hpending (ht hlater)

theorem Informed.advance {op : Op} {next : op.Res → Prog Reply}
    (h : Informed streams r (.call op next) db) :
    (commits (.call op next) = true → ¬ Stale r db) ∧
      Informed streams r (next (exec streams op db).1) (exec streams op db).2 :=
  h db (Or.inr id)

theorem decide_informed {owner id : String} {d : OwnerDecision} :
    Informed streams (.decide owner id d) (Firestore.decide owner id d) db := by
  intro t _
  refine ⟨(fun hcommits => by cases hcommits), ?_⟩
  simp only [exec_getJob]
  cases t.job id with
  | none => exact trivial
  | some job =>
      simp only
      split
      · exact trivial
      · intro u _
        refine ⟨(fun hcommits => by cases hcommits), ?_⟩
        simp only [exec_getDecision]
        cases hprior : u.decision id with
        | some prior =>
            simp only
            split
            · exact trivial
            · split
              · exact trivial
              · split
                · exact trivial
                · split <;> exact trivial
        | none =>
            have hfree : ¬ Stale (.decide owner id d) u := by
              rintro ⟨prior, hfound, -⟩
              rw [hprior] at hfound
              cases hfound
            simp only
            split
            · exact trivial
            · split
              · exact trivial
              · intro v hv
                have hread : Stale (.decide owner id d) v → Stale (.decide owner id d) u :=
                  hv.resolve_left Bool.false_ne_true
                refine ⟨(fun hcommits => by cases hcommits), ?_⟩
                intro w hw
                have hthen : Stale (.decide owner id d) w → Stale (.decide owner id d) v :=
                  hw.resolve_left Bool.false_ne_true
                exact ⟨fun _ hstale => hfree (hread (hthen hstale)), trivial⟩

theorem create_informed {fresh : Uuid} {owner key : String} {family : ScenarioFamily} :
    Informed streams (.create fresh owner family key) (create fresh owner family key) db := by
  intro t _
  refine ⟨(fun hcommits => by cases hcommits), ?_⟩
  simp only [exec_streamJobs]
  cases hfound : (streams.order (t.jobs.filter (JobQuery.owner owner).selects)).find?
      fun data => data.idempotencyKey = some key with
  | some data => exact trivial
  | none =>
      have hfree : ¬ Stale (.create fresh owner family key) t := by
        rintro ⟨id, doc, hdoc, hholds⟩
        have hnot := List.find?_eq_none.1 hfound doc
        simp only [mem_order, List.mem_filter, JobQuery.selects, decide_eq_true_eq] at hnot
        exact hnot ⟨Rows.lookup_mem hdoc, hholds.1⟩ hholds.2
      intro u hu
      have hcount : Stale (.create fresh owner family key) u →
          Stale (.create fresh owner family key) t := hu.resolve_left Bool.false_ne_true
      refine ⟨(fun hcommits => by cases hcommits), ?_⟩
      intro v hv
      have hevents : Stale (.create fresh owner family key) v →
          Stale (.create fresh owner family key) u := hv.resolve_left Bool.false_ne_true
      refine ⟨(fun hcommits => by cases hcommits), ?_⟩
      intro w hw
      have hthen : Stale (.create fresh owner family key) w →
          Stale (.create fresh owner family key) v := hw.resolve_left Bool.false_ne_true
      exact ⟨fun _ hstale => hfree (hcount (hevents (hthen hstale))), trivial⟩

theorem serve_informed (r : Request) : Informed streams r (serve r) db := by
  cases r with
  | create fresh owner family key => exact create_informed
  | decide owner id d => exact decide_informed

theorem exec_reads {op : Op} {next : op.Res → Prog Reply}
    (hreads : commits (.call op next) = false) : (exec streams op db).2 = db := by
  cases op with
  | commit writes => cases hreads
  | _ => rfl

end Reads

section Runs

variable {ι : Type} [DecidableEq ι] {streams : StreamOrder}

abbrev Processes (ι : Type) := Pool ι Request Op Op.Res Refusal Reply Database

/-- One act of the processes that share the database. -/
def processStep (streams : StreamOrder) (processes : Processes ι) (act : Act ι Request) :
    Option (Handover ι Request Refusal Reply Database) × Processes ι :=
  processes.step (exec streams) serve act

/-- The processes, with the slots whose request has been overtaken: since its reads, another
process has committed a request that contests it. -/
structure Watched (ι : Type) where
  processes : Processes ι
  overtaken : ι → Bool

def Watched.idle (db : Database) : Watched ι := ⟨Pool.idle db, fun _ => false⟩

/-- The act commits a request that contests another one, which has made its reads. -/
def overtakes (processes : Processes ι) : Act ι Request → ι → Bool
  | .advance i, j =>
      match processes.slot i, processes.slot j with
      | some session, some session' => i ≠ j && commits session.program &&
          pending session'.program && Contests session.request session'.request
      | _, _ => false
  | _, _ => false

/-- An act of the processes, and who has been overtaken after it. -/
def watchStep (streams : StreamOrder) (watched : Watched ι) (act : Act ι Request) :
    Option (Handover ι Request Refusal Reply Database) × Watched ι :=
  let (answer, processes) := processStep streams watched.processes act
  (answer, ⟨processes, fun j => (processes.slot j).isSome &&
    (watched.overtaken j || overtakes watched.processes act j)⟩)

/-- No request commits after it was overtaken, and the id of a new job is fresh. -/
def Allowed (watched : Watched ι) : Act ι Request → Prop
  | .start _ request => ∀ id ∈ request.creates, watched.processes.shared.job id = none ∧
      ∀ j, ∀ session ∈ watched.processes.slot j, session.request.creates ≠ some id
  | .advance i => ∀ session ∈ watched.processes.slot i, commits session.program →
      watched.overtaken i = false
  | .crash _ => True

/-- Each request in progress will be acknowledged as it should, and commits on what it
read unless it is overtaken. -/
structure Undisputed (streams : StreamOrder) (watched : Watched ι) : Prop where
  sound : watched.processes.Sound (exec streams) sharing (fun _ request => request)
    (fun request _ => Acknowledged request) Consistent
  distinct : ∀ i j session session' id, j ≠ i → watched.processes.slot i = some session →
    watched.processes.slot j = some session' → session.request.creates = some id →
      session'.request.creates ≠ some id
  informed : ∀ i session, watched.processes.slot i = some session →
    watched.overtaken i = false →
      Informed streams session.request session.program watched.processes.shared

omit [DecidableEq ι] in
theorem undisputed_idle {db : Database} (hconsistent : Consistent db) :
    Undisputed streams (Watched.idle db : Watched ι) := by
  refine ⟨Program.Pool.sound_idle hconsistent, ?_, ?_⟩
  · intro i j session session' id _ hsession
    cases hsession
  · intro i session hsession
    cases hsession

variable {watched : Watched ι} {act : Act ι Request}

/-- An act leaves the database, or is a commit that does what its request should. -/
theorem Undisputed.shared_step (h : Undisputed streams watched) (hallowed : Allowed watched act) :
    (processStep streams watched.processes act).2.shared = watched.processes.shared ∨
      ∃ i session, act = .advance i ∧ watched.processes.slot i = some session ∧
        commits session.program = true ∧
        Touches session.request watched.processes.shared
          (processStep streams watched.processes act).2.shared := by
  cases act with
  | start i request =>
      simp only [processStep, Program.Pool.step]
      cases watched.processes.slot i <;> exact Or.inl rfl
  | crash i => exact Or.inl rfl
  | advance i =>
      simp only [processStep, Program.Pool.step]
      cases hslot : watched.processes.slot i with
      | none => exact Or.inl rfl
      | some session =>
          have hmeets := h.sound.2 i session hslot
          have hfree := h.informed i session hslot
          have hact := hallowed session hslot
          obtain ⟨request, start, p⟩ := session
          cases p with
          | ret a => exact Or.inl rfl
          | raise e => exact Or.inl rfl
          | call op next =>
              cases hcommits : commits (.call op next) with
              | false => exact Or.inl (exec_reads hcommits)
              | true =>
                  have hstale := (hfree (hact hcommits)).advance.1 hcommits
                  exact Or.inr ⟨i, _, rfl, hslot, hcommits, hmeets.advance.1 hstale⟩

theorem Undisputed.grows (h : Undisputed streams watched) (hallowed : Allowed watched act) :
    Grows watched.processes.shared (processStep streams watched.processes act).2.shared := by
  rcases h.shared_step hallowed with hsame | ⟨i, session, -, -, -, htouches⟩
  · rw [hsame]
    exact .refl _
  · exact htouches.toGrows

theorem Undisputed.distinct_step (h : Undisputed streams watched)
    (hallowed : Allowed watched act) {i j : ι} {id : String}
    {session session' : Program.Session Request Op Op.Res Refusal Reply Database} (hne : j ≠ i)
    (hi : (processStep streams watched.processes act).2.slot i = some session)
    (hj : (processStep streams watched.processes act).2.slot j = some session')
    (hcreates : session.request.creates = some id) : session'.request.creates ≠ some id := by
  rcases Program.Pool.slot_step hi with ⟨before, hbefore, hsame⟩ | ⟨hstart, -⟩
  · rcases Program.Pool.slot_step hj with ⟨before', hbefore', hsame'⟩ | ⟨hstart', -⟩
    · rw [← hsame']
      exact h.distinct i j before before' id hne hbefore hbefore' (hsame ▸ hcreates)
    · subst hstart'
      intro hcreates'
      exact (hallowed id hcreates').2 i before hbefore (hsame ▸ hcreates)
  · subst hstart
    rcases Program.Pool.slot_step hj with ⟨before', hbefore', hsame'⟩ | ⟨hstart', -⟩
    · rw [← hsame']
      exact (hallowed id hcreates).2 j before' hbefore'
    · injection hstart' with hsame
      exact absurd hsame.symm hne

theorem Undisputed.informed_other (h : Undisputed streams watched)
    (hallowed : Allowed watched act) {j : ι}
    {session : Program.Session Request Op Op.Res Refusal Reply Database} (hact : act ≠ .advance j)
    (hslot : watched.processes.slot j = some session)
    (hbefore : (processStep streams watched.processes act).2.slot j = some session)
    (hovertaken : (watchStep streams watched act).2.overtaken j = false) :
    Informed streams session.request session.program
      (processStep streams watched.processes act).2.shared := by
  have hflag : (((processStep streams watched.processes act).2.slot j).isSome &&
      (watched.overtaken j || overtakes watched.processes act j)) = false := hovertaken
  rw [hbefore, Option.isSome_some, Bool.true_and, Bool.or_eq_false_iff] at hflag
  refine (h.informed j session hslot hflag.1).weaken ?_
  intro hpending hstale
  rcases h.shared_step hallowed with hsame | ⟨i, session', rfl, hslot', hcommits, htouches⟩
  · rwa [hsame] at hstale
  · refine htouches.stale ?_ hstale
    intro hcontests
    have hne : i ≠ j := fun heq => hact (heq ▸ rfl)
    have hovertakes : overtakes watched.processes (.advance i) j = true := by
      simp [overtakes, hslot, hslot', hne, hcommits, hpending, hcontests]
    rw [hflag.2] at hovertakes
    cases hovertakes

theorem Undisputed.informed_step (h : Undisputed streams watched)
    (hallowed : Allowed watched act) (j : ι)
    (session : Program.Session Request Op Op.Res Refusal Reply Database)
    (hslot : (processStep streams watched.processes act).2.slot j = some session)
    (hovertaken : (watchStep streams watched act).2.overtaken j = false) :
    Informed streams session.request session.program
      (processStep streams watched.processes act).2.shared := by
  by_cases hact : act = .advance j
  · subst hact
    have hflag : (((processStep streams watched.processes (.advance j)).2.slot j).isSome &&
        (watched.overtaken j || overtakes watched.processes (.advance j) j)) = false :=
      hovertaken
    rw [hslot, Option.isSome_some, Bool.true_and, Bool.or_eq_false_iff] at hflag
    simp only [processStep, Program.Pool.step] at hslot ⊢
    cases hbefore : watched.processes.slot j with
    | none =>
        rw [hbefore] at hslot
        cases hslot.symm.trans hbefore
    | some before =>
        have hinformed := h.informed j before hbefore hflag.1
        rw [hbefore] at hslot
        obtain ⟨request, start, p⟩ := before
        cases p with
        | ret a => simp at hslot
        | raise e => simp at hslot
        | call op next =>
            simp only [Function.update_self, Option.some.injEq] at hslot
            subst hslot
            exact hinformed.advance.2
  · rcases Program.Pool.slot_kept hact hslot with hbefore | ⟨request, rfl, rfl⟩
    · exact h.informed_other hallowed hact hbefore hslot hovertaken
    · exact serve_informed request

theorem Undisputed.step (h : Undisputed streams watched) (hallowed : Allowed watched act) :
    Undisputed streams (watchStep streams watched act).2 ∧
      ∀ handover, (watchStep streams watched act).1 = some handover →
        Acknowledged handover.request handover.outcome watched.processes.shared := by
  have hshared := h.shared_step hallowed
  have hsound : (processStep streams watched.processes act).2.Sound (exec streams) sharing
      (fun _ request => request) (fun request _ => Acknowledged request) Consistent ∧
      ∀ handover, (processStep streams watched.processes act).1 = some handover →
        Acknowledged handover.request handover.outcome watched.processes.shared := by
    refine Program.Pool.Sound.step_of_rely h.sound act ?_ ?_ ?_
    · exact (h.grows hallowed).consistent h.sound.1
    · rintro i j session' rfl hne hslot'
      rcases hshared with hsame | ⟨i', session, hact, hslot, -, htouches⟩
      · change Undisturbed _ _ (processStep streams watched.processes (.advance i)).2.shared
        rw [hsame]
        exact .refl _ _
      · cases hact
        exact htouches.undisturbed fun id =>
          h.distinct i j session session' id hne hslot hslot'
    · rintro i request rfl -
      cases request with
      | decide owner id d => exact decide_meets
      | create fresh owner family key =>
          exact create_meets h.sound.1 (hallowed fresh.hex rfl).1
  exact ⟨⟨hsound.1, fun _ _ _ _ _ hne hi hj hcreates => h.distinct_step hallowed hne hi hj hcreates,
    h.informed_step hallowed⟩, hsound.2⟩

/-- Whatever an act handed over is acknowledged as it should, now. -/
def Upheld (answer : Option (Handover ι Request Refusal Reply Database))
    (watched : Watched ι) : Prop :=
  ∀ handover, answer = some handover →
    Acknowledged handover.request handover.outcome watched.processes.shared

theorem watched_run (acts : List (Act ι Request)) (watched : Watched ι) :
    Machine.run (processStep streams) watched.processes acts =
      ((Machine.run (watchStep streams) watched acts).1,
        (Machine.run (watchStep streams) watched acts).2.processes) := by
  induction acts generalizing watched with
  | nil => rfl
  | cons act rest ih =>
      have hrest : Machine.run (processStep streams) (processStep streams watched.processes act).2
          rest = ((Machine.run (watchStep streams) (watchStep streams watched act).2 rest).1,
            (Machine.run (watchStep streams) (watchStep streams watched act).2 rest).2.processes) :=
        ih (watchStep streams watched act).2
      rw [Machine.run_cons, Machine.run_cons, hrest]
      rfl

/-- In such a run the store stays consistent, and every answer that was handed over is still
borne out by the last store. -/
theorem acknowledged_run (streams : StreamOrder) {db : Database} (hdb : Consistent db)
    (acts : List (Act ι Request))
    (hallowed : Machine.Admits (watchStep streams) Allowed (Watched.idle db) acts) :
    let run := Machine.run (processStep streams) (Pool.idle db) acts
    Consistent run.2.shared ∧ ∀ handover, some handover ∈ run.1 →
      Acknowledged handover.request handover.outcome run.2.shared := by
  intro run
  have hrun : run = ((Machine.run (watchStep streams) (Watched.idle db) acts).1,
      (Machine.run (watchStep streams) (Watched.idle db) acts).2.processes) :=
    watched_run acts (Watched.idle db)
  have hstep : ∀ (watched : Watched ι) (act : Act ι Request),
      Undisputed streams watched → Allowed watched act →
      Undisputed streams (watchStep streams watched act).2 ∧
        Upheld (watchStep streams watched act).1 (watchStep streams watched act).2 ∧
        ∀ answer, Upheld answer watched →
          Upheld answer (watchStep streams watched act).2 := by
    intro watched act h hact
    obtain ⟨hnext, hanswer⟩ := h.step hact
    exact ⟨hnext, fun handover hhanded => (hanswer handover hhanded).grows (h.grows hact),
      fun answer hkept handover hhanded => (hkept handover hhanded).grows (h.grows hact)⟩
  have hlast : Undisputed streams (Machine.run (watchStep streams) (Watched.idle db) acts).2 :=
    Machine.run_invariant (fun watched act h hact => (hstep watched act h hact).1) acts _
      (undisputed_idle hdb) hallowed
  rw [hrun]
  refine ⟨hlast.sound.1, fun handover hmem => ?_⟩
  exact (Machine.run_answers hstep acts _ (undisputed_idle hdb) hallowed).2
    (some handover) hmem handover rfl

/-- When no request commits after another process has, since its reads, committed a different
decision on its job or a job for its owner and key, the acknowledged decision of a job is
the stored one, two acknowledged decisions agree, and an owner and key have the one job
that was returned. -/
theorem undisputed_requests (streams : StreamOrder) (db : Database) (hdb : Consistent db)
    (acts : List (Act ι Request))
    (hallowed : Machine.Admits (watchStep streams) Allowed (Watched.idle db) acts) :
    let run := Machine.run (processStep streams) (Pool.idle db) acts
    (∀ handover, some handover ∈ run.1 → ∀ owner id d reply,
      handover.request = .decide owner id d → handover.outcome = .ok reply →
        ∃ prior, run.2.shared.decision id = some prior ∧
          OwnerDecision.validate prior.decision prior.rejectionNote = some d) ∧
      (∀ handover handover', some handover ∈ run.1 → some handover' ∈ run.1 →
        ∀ owner owner' id d d' reply reply',
          handover.request = .decide owner id d → handover.outcome = .ok reply →
          handover'.request = .decide owner' id d' → handover'.outcome = .ok reply' → d = d') ∧
      ∀ handover, some handover ∈ run.1 → ∀ fresh owner family key reply,
        handover.request = .create fresh owner family key → handover.outcome = .ok reply →
          ∃ view, reply = .view view ∧ ∀ id,
            (∃ doc, run.2.shared.job id = some doc ∧ Holds doc.toJob owner key) ↔
              id = view.investigationId := by
  intro run
  obtain ⟨hconsistent, hanswers⟩ := acknowledged_run streams hdb acts hallowed
  have hstored : ∀ handover, some handover ∈ run.1 → ∀ owner id d reply,
      handover.request = .decide owner id d → handover.outcome = .ok reply →
        ∃ prior, run.2.shared.decision id = some prior ∧
          OwnerDecision.validate prior.decision prior.rejectionNote = some d := by
    intro handover hmem owner id d reply hrequest houtcome
    have hacknowledged := hanswers handover hmem
    rw [hrequest, houtcome] at hacknowledged
    exact hacknowledged
  refine ⟨hstored, ?_, ?_⟩
  · intro handover handover' hmem hmem' owner owner' id d d' reply reply' hr ho hr' ho'
    obtain ⟨prior, hprior, hvalid⟩ := hstored handover hmem owner id d reply hr ho
    obtain ⟨prior', hprior', hvalid'⟩ := hstored handover' hmem' owner' id d' reply' hr' ho'
    rw [hprior] at hprior'
    obtain rfl := Option.some.inj hprior'
    exact Option.some.inj (hvalid.symm.trans hvalid')
  · intro handover hmem fresh owner family key reply hrequest houtcome
    have hacknowledged := hanswers handover hmem
    rw [hrequest, houtcome] at hacknowledged
    obtain ⟨view, doc, rfl, hdoc, hholds⟩ := hacknowledged
    refine ⟨view, rfl, fun id => ⟨?_, ?_⟩⟩
    · rintro ⟨doc', hdoc', hholds'⟩
      exact hconsistent.requests owner key id view.investigationId doc' doc hdoc' hholds' hdoc
        hholds
    · rintro rfl
      exact ⟨doc, hdoc, hholds⟩

end Runs

section Samples

inductive Process where
  | first
  | second
  deriving DecidableEq

instance {property : Process → Prop} [DecidablePred property] :
    Decidable (∀ process, property process) :=
  decidable_of_iff (property .first ∧ property .second)
    ⟨fun h process => by cases process <;> [exact h.1; exact h.2], fun h => ⟨h _, h _⟩⟩

instance (watched : Watched Process) : (act : Act Process Request) →
    Decidable (Allowed watched act)
  | .start i request => by
      unfold Allowed
      infer_instance
  | .advance i => by
      unfold Allowed
      infer_instance
  | .crash _ => isTrue trivial

/-- The acts of one process that performs so many operations and ends there. -/
def advances (process : Process) (operations : Nat) : List (Act Process Request) :=
  List.replicate operations (.advance process)

def pausedDatabase : Database :=
  (Machine.run (Firestore.step sampleSettings writtenOrder) Database.empty
    [(ambient 0 jobA, .create "owner@example.com" .configurationChange "first"),
     (ambient 0 tokenC, .claimNext),
     (ambient 1 tokenC, .markPaused jobA.hex "checkpoint-1" tokenC.hex)]).2

def approval : Request := .decide "owner@example.com" jobA.hex ⟨.accept, none, trivial⟩
def refusal : Request :=
  .decide "owner@example.com" jobA.hex ⟨.reject, some "too risky", by decide +kernel⟩
def creation (key : String) (fresh : Uuid) : Request :=
  .create fresh "owner@example.com" .configurationChange key

def outcomes (answers : List (Option (Handover Process Request Refusal Reply Database))) :
    List (Process × Except Refusal Reply) :=
  answers.filterMap fun answer => answer.map fun handover => (handover.slot, handover.outcome)

/-- One decision made twice at once, a refusal after it, a creation that reads after another
has committed, and one that is overtaken and dies before its commit. -/
def interleaved : List (Act Process Request) :=
  [.start .first approval, .start .second approval] ++
  advances .first 3 ++ advances .second 3 ++ advances .first 2 ++ advances .second 2 ++
  [.start .second refusal] ++ advances .second 3 ++
  [.start .first (creation "second" tokenD), .start .second (creation "second" tokenE)] ++
  advances .first 5 ++ advances .second 2 ++
  [.start .first (creation "third" tokenE), .start .second (creation "third" tokenC)] ++
  advances .second 3 ++ advances .first 5 ++ [.crash .second]

theorem undisputed_requests_interleaved :
    let run := Machine.run (processStep writtenOrder) (Pool.idle pausedDatabase) interleaved
    outcomes run.1 =
        [(.first, .ok (.view ⟨jobA.hex, .queued⟩)),
         (.second, .ok (.view ⟨jobA.hex, .queued⟩)),
         (.second, .error (.conflict "a different owner decision is recorded")),
         (.first, .ok (.view ⟨tokenD.hex, .queued⟩)),
         (.second, .ok (.view ⟨tokenD.hex, .queued⟩)),
         (.first, .ok (.view ⟨tokenE.hex, .queued⟩))] ∧
      ∀ handover, some handover ∈ run.1 → ∀ owner id d reply,
        handover.request = .decide owner id d → handover.outcome = .ok reply →
          ∃ prior, run.2.shared.decision id = some prior ∧
            OwnerDecision.validate prior.decision prior.rejectionNote = some d := by
  have hconsistent : Consistent pausedDatabase :=
    consistent_of_jobs (by decide +kernel) (by decide +kernel)
  have hallowed : Machine.Admits (watchStep writtenOrder) Allowed (Watched.idle pausedDatabase)
      interleaved := by
    decide +kernel
  exact ⟨by decide +kernel,
    (undisputed_requests writtenOrder pausedDatabase hconsistent interleaved hallowed).1⟩

def contested : List (Act Process Request) :=
  [.start .first approval, .start .second refusal] ++
  advances .first 3 ++ advances .second 3 ++ advances .first 2 ++ advances .second 2 ++
  [.start .first (creation "second" tokenD), .start .second (creation "second" tokenE)] ++
  advances .first 3 ++ advances .second 3 ++ advances .first 2 ++ advances .second 2

/-- Then both decisions are acknowledged, the second one is stored, and the one request
to create a job makes two. -/
theorem contested_requests :
    let run := Machine.run (processStep writtenOrder) (Pool.idle pausedDatabase) contested
    outcomes run.1 =
        [(.first, .ok (.view ⟨jobA.hex, .queued⟩)),
         (.second, .ok (.view ⟨jobA.hex, .queued⟩)),
         (.first, .ok (.view ⟨tokenD.hex, .queued⟩)),
         (.second, .ok (.view ⟨tokenE.hex, .queued⟩))] ∧
      run.2.shared.decisions.map (fun prior => prior.decision) = ["reject"] ∧
      (run.2.shared.jobs.filter fun doc => doc.owner = "owner@example.com" &&
        doc.idempotencyKey = some "second").map (fun doc => doc.id) =
          [tokenD.hex, tokenE.hex] := by
  decide +kernel

end Samples

end CausalOps.ControlPlane.Firestore
