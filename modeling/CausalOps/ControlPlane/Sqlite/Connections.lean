import CausalOps.ControlPlane.Sqlite.Retries

set_option autoImplicit false

/-! Two `create` calls for one owner and key, from two connections, statement by statement.
The connection opens its transaction at the first INSERT, so nothing holds the check of the
existing row and the insert together. -/

namespace CausalOps.ControlPlane.Sqlite

section Connections

inductive Caller where
  | first
  | second
  deriving DecidableEq, Repr

def Caller.other : Caller → Caller
  | .first => .second
  | .second => .first

/-- The statement that a call executes next: both SELECTs, both INSERTs and the COMMIT. -/
inductive Phase where
  | existing
  | insertJob
  | ordinal
  | insertEvent (ordinal : Nat)
  | commit
  | returned (outcome : Except Refusal Reply)

/-- What has been committed, what the connection that holds the write lock sees, and where
both calls are. -/
structure Connections where
  committed : Database
  writing : Option (Caller × Database)
  phase : Caller → Phase

/-- What both calls are given; each draws its own id and may ask for its own family. -/
structure Requests where
  ownerEmail : String
  idempotencyKey : String
  fresh : Caller → Uuid
  family : Caller → ScenarioFamily

def Connections.idle (db : Database) : Connections := ⟨db, none, fun _ => .existing⟩

def Connections.goto (c : Connections) (caller : Caller) (phase : Phase) : Connections :=
  { c with phase := fun other => if other = caller then phase else c.phase other }

/-- `WHERE owner = ? AND idempotency_key = ?`. -/
def Requests.selects (r : Requests) (row : JobRow) : Bool :=
  row.owner = r.ownerEmail && row.idempotencyKey = some r.idempotencyKey

def Requests.job (r : Requests) (caller : Caller) : Job :=
  newJob (r.fresh caller) r.ownerEmail (r.family caller) r.idempotencyKey

/-- `INSERT INTO replay_jobs`, under its primary key and its unique index. -/
def Requests.insert (r : Requests) (caller : Caller) (db : Database) :
    Except Refusal Database :=
  if db.jobs.any r.selects then
    .error (.sqlite
      "UNIQUE constraint failed: replay_jobs.owner, replay_jobs.idempotency_key")
  else if (db.job (r.fresh caller).hex).isSome then
    .error (.sqlite "UNIQUE constraint failed: replay_jobs.id")
  else .ok (db.insertJob (r.job caller))

/-- The next statement of one call. An INSERT waits while the other connection writes; when
it raises, the connection rolls back and the call raises. -/
def Requests.step (r : Requests) (c : Connections) (caller : Caller) : Connections :=
  match c.phase caller with
  | .existing =>
      match c.committed.jobs.find? r.selects with
      | some existing => c.goto caller (.returned (.ok (.view existing.view)))
      | none => c.goto caller .insertJob
  | .insertJob =>
      match c.writing with
      | some _ => c
      | none =>
          match r.insert caller c.committed with
          | .error e => c.goto caller (.returned (.error e))
          | .ok db => Connections.goto { c with writing := some (caller, db) } caller .ordinal
  | .ordinal =>
      match c.writing with
      | some (_, db) =>
          c.goto caller (.insertEvent (nextOrdinal (db.timeline (r.fresh caller).hex)))
      | none => c
  | .insertEvent ordinal =>
      match c.writing with
      | some (writer, db) =>
          Connections.goto { c with writing := some (writer, { db with events := db.events ++
            [⟨⟨ordinal, Occurrence.investigationQueued.name,
              Occurrence.investigationQueued.fields⟩, (r.fresh caller).hex⟩] }) } caller .commit
      | none => c
  | .commit =>
      match c.writing with
      | some (_, db) =>
          Connections.goto { c with committed := db, writing := none } caller
            (.returned (.ok (.view ⟨(r.fresh caller).hex, .queued⟩)))
      | none => c
  | .returned _ => c

/-- An interleaving: which call executes its next statement. -/
def Requests.run (r : Requests) (c : Connections) (schedule : List Caller) : Connections :=
  schedule.foldl r.step c

def Connections.Over (c : Connections) : Prop :=
  ∀ caller, ∃ outcome, c.phase caller = .returned outcome

/-- Neither call raised, both returned the view of one row, and it is the only one of its
owner and key. -/
def Requests.Replayed (r : Requests) (c : Connections) : Prop :=
  ∃ row, c.committed.jobs.filter r.selects = [row] ∧
    ∀ caller, c.phase caller = .returned (.ok (.view row.view))

end Connections

section Steps

variable {r : Requests} {c : Connections} {caller : Caller} {db : Database}

@[simp] theorem goto_committed (phase : Phase) : (c.goto caller phase).committed = c.committed :=
  rfl

@[simp] theorem goto_writing (phase : Phase) : (c.goto caller phase).writing = c.writing := rfl

@[simp] theorem goto_self (phase : Phase) : (c.goto caller phase).phase caller = phase :=
  if_pos rfl

@[simp] theorem goto_other (phase : Phase) :
    (c.goto caller phase).phase caller.other = c.phase caller.other :=
  if_neg (by cases caller <;> decide)

@[simp] theorem other_other : caller.other.other = caller := by cases caller <;> rfl

theorem eq_or_other (a b : Caller) : a = b ∨ a = b.other := by
  cases a <;> cases b <;> simp [Caller.other]

structure Unheld (r : Requests) (db : Database) : Prop where
  requests : ∀ row ∈ db.jobs, r.selects row = false
  fresh : ∀ caller, db.job (r.fresh caller).hex = none

theorem Unheld.insert (h : Unheld r db) :
    r.insert caller db = .ok (db.insertJob (r.job caller)) := by
  have hany : db.jobs.any r.selects = false := by
    rw [List.any_eq_false]
    exact fun row hrow => by simp [h.requests row hrow]
  simp [Requests.insert, hany, h.fresh caller]

theorem Unheld.find (h : Unheld r db) : db.jobs.find? r.selects = none := by
  rw [List.find?_eq_none]
  exact fun row hrow => by simp [h.requests row hrow]

theorem selects_job (rowid : Nat) : r.selects ⟨r.job caller, rowid⟩ = true := by
  simp [Requests.selects, Requests.job, newJob]

def Held (r : Requests) (db : Database) : Prop := db.jobs.any r.selects = true

theorem held_insertJob : Held r (db.insertJob (r.job caller)) := by
  rw [Held, List.any_eq_true]
  exact ⟨_, List.mem_append_right _ (List.mem_singleton.2 rfl), selects_job _⟩

theorem Held.insert (h : Held r db) : ∃ e, r.insert caller db = .error e := by
  have hany : db.jobs.any r.selects = true := h
  exact ⟨_, by simp only [Requests.insert, hany, if_true]; rfl⟩

theorem insert_ok {db' : Database} (h : r.insert caller db = .ok db') :
    db' = db.insertJob (r.job caller) := by
  simp only [Requests.insert] at h
  split at h
  · cases h
  · split at h
    · cases h
    · exact (Except.ok.inj h).symm

end Steps

section Race

variable {r : Requests} {c : Connections} {caller : Caller} {db : Database}

/-- How far the call that is ahead has come, while the other one has yet to insert a row that
it believes to be missing. -/
inductive Ahead (r : Requests) (c : Connections) (caller : Caller) : Prop where
  | unlocked (hphase : c.phase caller = .insertJob) (hwriting : c.writing = none)
  | inserted {db : Database} (hphase : c.phase caller = .ordinal)
      (hwriting : c.writing = some (caller, db)) (hheld : Held r db)
  | numbered {db : Database} {ordinal : Nat} (hphase : c.phase caller = .insertEvent ordinal)
      (hwriting : c.writing = some (caller, db)) (hheld : Held r db)
  | recorded {db : Database} (hphase : c.phase caller = .commit)
      (hwriting : c.writing = some (caller, db)) (hheld : Held r db)
  | committed {outcome : Except Refusal Reply} (hphase : c.phase caller = .returned outcome)
      (hwriting : c.writing = none) (hheld : Held r c.committed)

/-- One of the calls has raised, or will: both have seen that there is no such job. -/
def Doomed (r : Requests) (c : Connections) : Prop :=
  (∃ caller e, c.phase caller = .returned (.error e)) ∨
    ∃ caller, c.phase caller.other = .insertJob ∧ Ahead r c caller

theorem returned_step {outcome : Except Refusal Reply} {other : Caller}
    (h : c.phase caller = .returned outcome) :
    (r.step c other).phase caller = .returned outcome := by
  rcases eq_or_other other caller with rfl | rfl
  · simp only [Requests.step, h]
  · have hgoto : ∀ (c' : Connections) (phase : Phase), c'.phase = c.phase →
        (c'.goto caller.other phase).phase caller = .returned outcome := by
      intro c' phase hsame
      have hother := @goto_other c' caller.other phase
      rw [other_other] at hother
      rw [hother, hsame, h]
    unfold Requests.step
    cases c.phase caller.other with
    | existing =>
        dsimp only
        split
        · exact hgoto c _ rfl
        · exact hgoto c _ rfl
    | insertJob =>
        dsimp only
        split
        · exact h
        · split
          · exact hgoto c _ rfl
          · exact hgoto _ _ rfl
    | ordinal | insertEvent ordinal | commit =>
        dsimp only
        split
        · exact hgoto _ _ rfl
        · exact h
    | returned outcome' => exact h

theorem Ahead.advance (h : Ahead r c caller) (hwaits : c.phase caller.other = .insertJob) :
    Doomed r (r.step c caller) := by
  cases h with
  | unlocked hphase hwriting =>
      simp only [Requests.step, hphase, hwriting]
      cases hinsert : r.insert caller c.committed with
      | error e => exact .inl ⟨caller, e, goto_self _⟩
      | ok db =>
          refine .inr ⟨caller, (goto_other _).trans hwaits, .inserted (goto_self _) rfl ?_⟩
          rw [insert_ok hinsert]
          exact held_insertJob
  | inserted hphase hwriting hheld =>
      simp only [Requests.step, hphase, hwriting]
      exact .inr ⟨caller, (goto_other _).trans hwaits, .numbered (goto_self _) hwriting hheld⟩
  | numbered hphase hwriting hheld =>
      simp only [Requests.step, hphase, hwriting]
      exact .inr ⟨caller, (goto_other _).trans hwaits, .recorded (goto_self _) rfl hheld⟩
  | recorded hphase hwriting hheld =>
      simp only [Requests.step, hphase, hwriting]
      exact .inr ⟨caller, (goto_other _).trans hwaits, .committed (goto_self _) rfl hheld⟩
  | committed hphase hwriting hheld =>
      have hsame : r.step c caller = c := by simp only [Requests.step, hphase]
      rw [hsame]
      exact .inr ⟨caller, hwaits, .committed hphase hwriting hheld⟩

theorem Ahead.blocks (h : Ahead r c caller) (hwaits : c.phase caller.other = .insertJob) :
    Doomed r (r.step c caller.other) := by
  have hblocked : ∀ {db : Database}, c.writing = some (caller, db) →
      r.step c caller.other = c := fun hwriting => by
    simp only [Requests.step, hwaits, hwriting]
  cases h with
  | unlocked hphase hwriting =>
      simp only [Requests.step, hwaits, hwriting]
      cases hinsert : r.insert caller.other c.committed with
      | error e => exact .inl ⟨caller.other, e, goto_self _⟩
      | ok db =>
          -- The other call is ahead now.
          refine .inr ⟨caller.other, (goto_other _).trans ?_, .inserted (goto_self _) rfl ?_⟩
          · rw [other_other]
            exact hphase
          · rw [insert_ok hinsert]
            exact held_insertJob
  | inserted hphase hwriting hheld =>
      rw [hblocked hwriting]
      exact .inr ⟨caller, hwaits, .inserted hphase hwriting hheld⟩
  | numbered hphase hwriting hheld =>
      rw [hblocked hwriting]
      exact .inr ⟨caller, hwaits, .numbered hphase hwriting hheld⟩
  | recorded hphase hwriting hheld =>
      rw [hblocked hwriting]
      exact .inr ⟨caller, hwaits, .recorded hphase hwriting hheld⟩
  | committed hphase hwriting hheld =>
      obtain ⟨e, hinsert⟩ := @Held.insert r caller.other c.committed hheld
      simp only [Requests.step, hwaits, hwriting, hinsert]
      exact .inl ⟨caller.other, e, goto_self _⟩

theorem Doomed.step (h : Doomed r c) (next : Caller) : Doomed r (r.step c next) := by
  rcases h with ⟨caller, e, hraised⟩ | ⟨caller, hwaits, hahead⟩
  · exact .inl ⟨caller, e, returned_step hraised⟩
  · -- The call that is ahead goes on, or the other one runs into it.
    rcases eq_or_other next caller with rfl | rfl
    · exact hahead.advance hwaits
    · exact hahead.blocks hwaits

theorem Doomed.run (h : Doomed r c) (schedule : List Caller) : Doomed r (r.run c schedule) := by
  induction schedule generalizing c with
  | nil => exact h
  | cons next rest ih => exact ih (h.step next)

theorem Doomed.not_replayed (h : Doomed r c) : ¬ r.Replayed c := by
  rintro ⟨row, -, hreturned⟩
  rcases h with ⟨caller, e, hraised⟩ | ⟨caller, hwaits, -⟩
  · rw [hreturned] at hraised
    cases hraised
  · rw [hreturned] at hwaits
    cases hwaits

end Race

section Alone

variable {r : Requests} {c : Connections} {caller : Caller} {db : Database}

theorem Ahead.goto (h : Ahead r c caller) (phase : Phase) :
    Ahead r (c.goto caller.other phase) caller := by
  have hsame : (c.goto caller.other phase).phase caller = c.phase caller := by
    have hother := @goto_other c caller.other phase
    rwa [other_other] at hother
  cases h with
  | unlocked hphase hwriting => exact .unlocked (hsame.trans hphase) hwriting
  | inserted hphase hwriting hheld => exact .inserted (hsame.trans hphase) hwriting hheld
  | numbered hphase hwriting hheld => exact .numbered (hsame.trans hphase) hwriting hheld
  | recorded hphase hwriting hheld => exact .recorded (hsame.trans hphase) hwriting hheld
  | committed hphase hwriting hheld => exact .committed (hsame.trans hphase) hwriting hheld

/-- The tables, the writer and the phases of both calls. -/
structure At (c : Connections) (caller : Caller) (db : Database)
    (writing : Option (Caller × Database)) (own other : Phase) : Prop where
  committed : c.committed = db
  writing : c.writing = writing
  own : c.phase caller = own
  other : c.phase caller.other = other

/-- The job with its first event, as the writer sees it before it commits. -/
def Requests.created (r : Requests) (caller : Caller) (db : Database) : Database :=
  (db.insertJob (r.job caller)).event (r.fresh caller).hex .investigationQueued

/-- The statements of a call that has the database for itself, one after another. -/
theorem alone_states (h : Unheld r db) (caller : Caller) :
    (∀ k, 1 ≤ k → k ≤ 4 → ∃ writing own,
      At (r.run (.idle db) (List.replicate k caller)) caller db writing own .existing ∧
        Ahead r (r.run (.idle db) (List.replicate k caller)) caller) ∧
      At (r.run (.idle db) (List.replicate 5 caller)) caller (r.created caller db) none
        (.returned (.ok (.view ⟨(r.fresh caller).hex, .queued⟩))) .existing := by
  let inserted := db.insertJob (r.job caller)
  let ordinal := nextOrdinal (inserted.timeline (r.fresh caller).hex)
  have hheld : Held r inserted := held_insertJob
  have h₁ : At (r.run (.idle db) [caller]) caller db none .insertJob .existing := by
    have hstep : r.step (.idle db) caller = (Connections.idle db).goto caller .insertJob := by
      simp only [Requests.step, Connections.idle, h.find]
    simp only [Requests.run, List.foldl, hstep]
    exact ⟨rfl, rfl, goto_self _, goto_other _⟩
  have h₂ : At (r.run (.idle db) [caller, caller]) caller db (some (caller, inserted)) .ordinal
      .existing := by
    have hstep : r.run (.idle db) [caller, caller] =
        r.step (r.run (.idle db) [caller]) caller := rfl
    rw [hstep]
    simp only [Requests.step, h₁.own, h₁.writing, h₁.committed, h.insert]
    exact ⟨rfl, rfl, goto_self _, (goto_other _).trans h₁.other⟩
  have h₃ : At (r.run (.idle db) [caller, caller, caller]) caller db (some (caller, inserted))
      (.insertEvent ordinal) .existing := by
    have hstep : r.run (.idle db) [caller, caller, caller] =
        r.step (r.run (.idle db) [caller, caller]) caller := rfl
    rw [hstep]
    simp only [Requests.step, h₂.own, h₂.writing]
    exact ⟨h₂.committed, h₂.writing, goto_self _, (goto_other _).trans h₂.other⟩
  have h₄ : At (r.run (.idle db) [caller, caller, caller, caller]) caller db
      (some (caller, r.created caller db)) .commit .existing := by
    have hstep : r.run (.idle db) [caller, caller, caller, caller] =
        r.step (r.run (.idle db) [caller, caller, caller]) caller := rfl
    rw [hstep]
    simp only [Requests.step, h₃.own, h₃.writing]
    exact ⟨h₃.committed, rfl, goto_self _, (goto_other _).trans h₃.other⟩
  have h₅ : At (r.run (.idle db) [caller, caller, caller, caller, caller]) caller
      (r.created caller db) none
        (.returned (.ok (.view ⟨(r.fresh caller).hex, .queued⟩))) .existing := by
    have hstep : r.run (.idle db) [caller, caller, caller, caller, caller] =
        r.step (r.run (.idle db) [caller, caller, caller, caller]) caller := rfl
    rw [hstep]
    simp only [Requests.step, h₄.own, h₄.writing]
    exact ⟨rfl, rfl, goto_self _, (goto_other _).trans h₄.other⟩
  refine ⟨fun k hfirst hlast => ?_, h₅⟩
  obtain rfl | rfl | rfl | rfl : k = 1 ∨ k = 2 ∨ k = 3 ∨ k = 4 := by omega
  · exact ⟨_, _, h₁, .unlocked h₁.own h₁.writing⟩
  · exact ⟨_, _, h₂, .inserted h₂.own h₂.writing hheld⟩
  · exact ⟨_, _, h₃, .numbered h₃.own h₃.writing hheld⟩
  · exact ⟨_, _, h₄, .recorded h₄.own h₄.writing hheld⟩

/-- What they commit is what `create` does as one step. -/
theorem create_alone (h : Unheld r db) (caller : Caller) :
    create (r.fresh caller) r.ownerEmail (r.family caller) r.idempotencyKey db =
      .ok (.view ⟨(r.fresh caller).hex, .queued⟩, r.created caller db) := by
  have hfind : db.jobs.find? (fun row =>
      row.owner = r.ownerEmail && row.idempotencyKey = some r.idempotencyKey) = none := h.find
  simp only [create, hfind, h.fresh caller, Option.isSome_none, Bool.false_eq_true, if_false]
  rfl

theorem doomed_of_early (h : Unheld r db) {k : Nat} (hfirst : 1 ≤ k) (hlast : k ≤ 4) :
    Doomed r (r.run (.idle db) (List.replicate k caller ++ [caller.other])) := by
  obtain ⟨writing, own, hat, hahead⟩ := (alone_states h caller).1 k hfirst hlast
  have hstep : r.run (.idle db) (List.replicate k caller ++ [caller.other]) =
      (r.run (.idle db) (List.replicate k caller)).goto caller.other .insertJob := by
    simp only [Requests.run, List.foldl_append, List.foldl]
    have hother : (List.foldl r.step (.idle db) (List.replicate k caller)).phase caller.other =
        .existing := hat.other
    have hcommitted : (List.foldl r.step (.idle db) (List.replicate k caller)).committed = db :=
      hat.committed
    simp only [Requests.step, hother, hcommitted, h.find]
  rw [hstep]
  exact .inr ⟨caller, goto_self _, hahead.goto _⟩

/-- A row of the owner and key is committed, nobody writes, and each call has returned its
view or has yet to look for it. -/
structure Settled (r : Requests) (db : Database) (row : JobRow) (c : Connections) : Prop where
  committed : c.committed = db
  writing : c.writing = none
  found : db.jobs.find? r.selects = some row
  phases : ∀ caller, c.phase caller = .existing ∨
    c.phase caller = .returned (.ok (.view row.view))

theorem Settled.step {row : JobRow} (h : Settled r db row c) (next : Caller) :
    Settled r db row (r.step c next) := by
  rcases h.phases next with hphase | hphase
  · have hstep : r.step c next = c.goto next (.returned (.ok (.view row.view))) := by
      simp only [Requests.step, hphase, h.committed, h.found]
    rw [hstep]
    refine ⟨h.committed, h.writing, h.found, fun caller => ?_⟩
    rcases eq_or_other caller next with rfl | rfl
    · exact .inr (goto_self _)
    · rw [goto_other]
      exact h.phases _
  · have hstep : r.step c next = c := by simp only [Requests.step, hphase]
    rw [hstep]
    exact h

theorem Settled.run {row : JobRow} (h : Settled r db row c) (schedule : List Caller) :
    Settled r db row (r.run c schedule) := by
  induction schedule generalizing c with
  | nil => exact h
  | cons next rest ih => exact ih (h.step next)

theorem Settled.replayed {row : JobRow} (h : Settled r db row c) (hover : c.Over)
    (honly : db.jobs.filter r.selects = [row]) : r.Replayed c := by
  refine ⟨row, by rw [h.committed, honly], fun caller => ?_⟩
  rcases h.phases caller with hphase | hphase
  · obtain ⟨outcome, hreturned⟩ := hover caller
    rw [hphase] at hreturned
    cases hreturned
  · exact hphase

end Alone

section Race

variable {r : Requests} {caller : Caller} {db : Database}

/-- A schedule goes on with one call for `n` statements, ends before, or turns to the other. -/
theorem begins (n : Nat) (caller : Caller) (schedule : List Caller) :
    List.replicate n caller <+: schedule ∨
      (∃ k, k < n ∧ schedule = List.replicate k caller) ∨
      ∃ k rest, k < n ∧ schedule = List.replicate k caller ++ caller.other :: rest := by
  induction n generalizing schedule with
  | zero => exact .inl (List.nil_prefix)
  | succ n ih =>
      cases schedule with
      | nil => exact .inr (.inl ⟨0, Nat.succ_pos n, rfl⟩)
      | cons next rest =>
          rcases eq_or_other next caller with rfl | rfl
          · rcases ih rest with hfirst | ⟨k, hk, rfl⟩ | ⟨k, more, hk, rfl⟩
            · exact .inl (by simpa [List.replicate_succ, List.cons_prefix_cons] using hfirst)
            · exact .inr (.inl ⟨k + 1, Nat.succ_lt_succ hk, by simp [List.replicate_succ]⟩)
            · exact .inr (.inr ⟨k + 1, more, Nat.succ_lt_succ hk, by simp [List.replicate_succ]⟩)
          · exact .inr (.inr ⟨0, rest, Nat.succ_pos n, rfl⟩)

theorem replayed_of_prefix (h : Unheld r db) {schedule : List Caller}
    (hfirst : List.replicate 5 caller <+: schedule)
    (hover : (r.run (.idle db) schedule).Over) : r.Replayed (r.run (.idle db) schedule) := by
  obtain ⟨rest, rfl⟩ := hfirst
  have hat := (alone_states h caller).2
  have hnew : (r.created caller db).jobs.filter r.selects =
      [⟨r.job caller, nextRowid (db.jobs.map JobRow.rowid)⟩] := by
    have hnone : db.jobs.filter r.selects = [] :=
      List.filter_eq_nil_iff.2 fun row hrow => by simp [h.requests row hrow]
    simp only [Requests.created, Database.event, Database.insertJob, List.filter_append, hnone,
      List.nil_append]
    exact List.filter_eq_self.2 fun row hrow => by
      rw [List.mem_singleton.1 hrow]
      exact selects_job _
  have hfound : (r.created caller db).jobs.find? r.selects =
      some ⟨r.job caller, nextRowid (db.jobs.map JobRow.rowid)⟩ := by
    rw [← List.head?_filter, hnew]
    rfl
  have hsettled : Settled r (r.created caller db)
      ⟨r.job caller, nextRowid (db.jobs.map JobRow.rowid)⟩
      (r.run (.idle db) (List.replicate 5 caller)) := by
    refine ⟨hat.committed, hat.writing, hfound, fun other => ?_⟩
    rcases eq_or_other other caller with rfl | rfl
    · exact .inr hat.own
    · exact .inl hat.other
  have hrun : r.run (.idle db) (List.replicate 5 caller ++ rest) =
      r.run (r.run (.idle db) (List.replicate 5 caller)) rest := by
    simp only [Requests.run, List.foldl_append]
  rw [hrun] at hover ⊢
  exact (hsettled.run rest).replayed hover hnew

theorem doomed_of_race (h : Unheld r db) {schedule : List Caller}
    (hrace : ∀ caller, ¬ List.replicate 5 caller <+: schedule)
    (hover : (r.run (.idle db) schedule).Over) : Doomed r (r.run (.idle db) schedule) := by
  cases schedule with
  | nil =>
      obtain ⟨outcome, hreturned⟩ := hover .first
      cases hreturned
  | cons caller rest =>
      rcases begins 5 caller (caller :: rest) with hfirst | ⟨k, hk, hall⟩ | ⟨k, more, hk, hall⟩
      · exact absurd hfirst (hrace caller)
      · -- The other call never begins.
        have hpositive : 1 ≤ k := by
          cases k with
          | zero => cases hall
          | succ k => exact Nat.succ_pos k
        obtain ⟨writing, own, hat, -⟩ := (alone_states h caller).1 k hpositive (by omega)
        obtain ⟨outcome, hreturned⟩ := hover caller.other
        rw [hall, hat.other] at hreturned
        cases hreturned
      · have hpositive : 1 ≤ k := by
          cases k with
          | zero =>
              have hhead : caller = caller.other := (List.cons.inj hall).1
              cases caller <;> cases hhead
          | succ k => exact Nat.succ_pos k
        have hrun : r.run (.idle db) (caller :: rest) =
            r.run (r.run (.idle db) (List.replicate k caller ++ [caller.other])) more := by
          rw [hall]
          simp only [Requests.run, List.foldl_append, List.foldl]
        rw [hrun]
        exact (doomed_of_early h hpositive (by omega)).run more

theorem settled_of_held {s : Settings} (horderly : Orderly s db) (hkeys : Keys db)
    (h : Held r db) : ∃ row, db.jobs.filter r.selects = [row] ∧ Settled r db row (.idle db) := by
  obtain ⟨row, hrow, hselects⟩ := List.any_eq_true.1 h
  have hmem : row ∈ db.jobs.filter r.selects := List.mem_filter.2 ⟨hrow, hselects⟩
  have hall : ∀ other ∈ db.jobs.filter r.selects, other = row := by
    intro other hother
    obtain ⟨hstored, hother⟩ := List.mem_filter.1 hother
    simp only [Requests.selects, Bool.and_eq_true, decide_eq_true_eq] at hselects hother
    exact horderly.requests other hstored row hrow (hother.1.trans hselects.1.symm)
      (hother.2.trans hselects.2.symm)
  have hnodup : (db.jobs.filter r.selects).Nodup :=
    (List.Nodup.of_map JobRow.key hkeys.jobs).sublist List.filter_sublist
  have hsingle : db.jobs.filter r.selects = [row] := by
    cases hrows : db.jobs.filter r.selects with
    | nil =>
        rw [hrows] at hmem
        cases hmem
    | cons head rest =>
        rw [hrows] at hall hnodup
        obtain rfl := hall head (by simp)
        cases rest with
        | nil => rfl
        | cons next more =>
            obtain rfl := hall next (by simp)
            simp at hnodup
  refine ⟨row, hsingle, rfl, rfl, ?_, fun _ => .inl rfl⟩
  rw [← List.head?_filter, hsingle]
  rfl

/-- Two `create` calls for one owner and key replay one investigation exactly when the
investigation is there already, or all of one call comes before the other. -/
theorem create_race_iff (s : Settings) (incidents : List Incident) (r : Requests)
    (schedule : List Caller)
    (hfresh : ∀ caller, (reached s incidents).control.job (r.fresh caller).hex = none)
    (hover : (r.run (.idle (reached s incidents).control) schedule).Over) :
    r.Replayed (r.run (.idle (reached s incidents).control) schedule) ↔
      Held r (reached s incidents).control ∨
        ∃ caller, List.replicate 5 caller <+: schedule := by
  have hgoverned := @reached_governed s incidents
  by_cases hheld : Held r (reached s incidents).control
  · obtain ⟨row, honly, hsettled⟩ := settled_of_held hgoverned.orderly hgoverned.keys hheld
    exact iff_of_true ((hsettled.run schedule).replayed hover honly) (.inl hheld)
  · have hunheld : Unheld r (reached s incidents).control := by
      refine ⟨fun row hrow => ?_, hfresh⟩
      by_contra hselects
      exact hheld (List.any_eq_true.2 ⟨row, hrow, by simpa using hselects⟩)
    constructor
    · intro hreplayed
      refine .inr (by_contra fun hrace => ?_)
      rw [not_exists] at hrace
      exact (doomed_of_race hunheld hrace hover).not_replayed hreplayed
    · rintro (h | ⟨caller, hfirst⟩)
      · exact absurd h hheld
      · exact replayed_of_prefix hunheld hfirst hover

def sameKey : Requests where
  ownerEmail := "owner@example.com"
  idempotencyKey := "first"
  fresh := fun caller => match caller with
    | .first => jobA
    | .second => jobB
  family := fun _ => .configurationChange

theorem create_race_iff_apart :
    let schedule : List Caller := [.first, .first, .first, .first, .first, .second]
    sameKey.Replayed (sameKey.run (.idle (reached sampleSettings []).control) schedule) ↔
      Held sameKey (reached sampleSettings []).control ∨
        ∃ caller, List.replicate 5 caller <+: schedule := by
  refine create_race_iff sampleSettings [] sameKey _ (fun caller => by cases caller <;> rfl) ?_
  intro caller
  cases caller <;> exact ⟨_, rfl⟩

/-- Both calls look for the row before either inserts it: the second INSERT raises. -/
theorem create_raises :
    let after := sameKey.run (.idle (reached sampleSettings []).control)
      [.first, .second, .first, .first, .first, .first, .second]
    after.Over ∧ ¬ sameKey.Replayed after ∧
      after.phase .second = .returned (.error (.sqlite
        "UNIQUE constraint failed: replay_jobs.owner, replay_jobs.idempotency_key")) := by
  have hsecond : (sameKey.run (.idle (reached sampleSettings []).control)
      [.first, .second, .first, .first, .first, .first, .second]).phase .second =
      .returned (.error (.sqlite
        "UNIQUE constraint failed: replay_jobs.owner, replay_jobs.idempotency_key")) := rfl
  refine ⟨fun caller => ?_, ?_, hsecond⟩
  · cases caller
    · exact ⟨_, rfl⟩
    · exact ⟨_, hsecond⟩
  · rintro ⟨row, -, hreturned⟩
    have hok := hreturned .second
    rw [hsecond] at hok
    cases hok

end Race

end CausalOps.ControlPlane.Sqlite
