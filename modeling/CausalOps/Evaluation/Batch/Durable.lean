import CausalOps.Evaluation.Batch

set_option autoImplicit false

/-! What holds of a batch at every moment, also when an operation has raised or the process has
died: the records on disk, their order, the scenarios, and the costs. -/

namespace CausalOps.Evaluation

open CausalOps.Cost (CostLedgerRow runCostTotals applicationWideSpendUsd)
open CausalOps.Investigation

section Invariants

def Started.point (scenario : Started) : String × String := (scenario.family, scenario.seed)

def Started.acts (scenario : Started) : List LabAct :=
  [.started scenario, .reset scenario.incident]

def Started.runs (scenario : Started) : List Run :=
  [⟨scenario.incident, scenario.seed, .noToolBaseline⟩,
    ⟨scenario.incident, scenario.seed, .toolEnabled⟩]

/-- The runs of the same scenario before those of this arm. -/
def Arm.before : Arm → ℕ
  | .noToolBaseline => 0
  | .toolEnabled => 1

def Batch.runs (b : Batch) : List Run := b.records.map Scored.run

/-- The scenarios that are done with, when none is started. -/
structure Between (todo : List (String × String)) (lab : List LabAct) (runs : List Run)
    (done : List Started) : Prop where
  planned : done.map Started.point ++ todo = plan
  lab : lab = done.flatMap Started.acts
  runs : runs = done.flatMap Started.runs

/-- The scenarios that are done with, when one more is started and `scored` of its runs are
recorded. -/
structure Within (todo : List (String × String)) (current : Started) (lab : List LabAct)
    (runs : List Run) (scored : ℕ) (done : List Started) : Prop where
  planned : done.map Started.point ++ todo = plan
  next : todo.head? = some current.point
  lab : lab = done.flatMap Started.acts ++ [.started current]
  runs : runs = done.flatMap Started.runs ++ current.runs.take scored

/-- The lab was asked, and runs are recorded, for the first pairs of the plan in their order:
for all but the last of them wholly. -/
inductive Accounted (lab : List LabAct) (runs : List Run) : Prop
  | whole (done : List Started) (hplan : done.map Started.point <+: plan)
      (hlab : lab = done.flatMap Started.acts) (hruns : runs = done.flatMap Started.runs)
  | part (done : List Started) (last : Started) (asked scored : ℕ)
      (hplan : done.map Started.point ++ [last.point] <+: plan)
      (hlab : lab = done.flatMap Started.acts ++ last.acts.take asked)
      (hruns : runs = done.flatMap Started.runs ++ last.runs.take scored)

/-- Every scenario that was started has been reset. -/
def Batch.Restored (b : Batch) : Prop := ∃ starts : List Started, b.lab = starts.flatMap Started.acts

def Batch.Standing (b : Batch) : Phase → Prop
  | .opening | .starting => ∃ done, Between b.todo b.lab b.runs done
  | .loading => ∃ done, Within b.todo b.current b.lab b.runs 0 done
  | .building arm | .running arm | .filing arm _ | .closing arm _ =>
      ∃ done, Within b.todo b.current b.lab b.runs arm.before done
  | .saving arm _ _ => ∃ done, Within b.todo b.current b.lab b.runs (arm.before + 1) done
  | .resetting none => ∃ done, Within b.todo b.current b.lab b.runs 2 done
  | .resetting (some _) => ∃ done scored, Within b.todo b.current b.lab b.runs scored done
  | .summarizing | .savingSummary _ _ | .ended (.ok _) =>
      ∃ done, Between b.todo b.lab b.runs done ∧ b.todo = []
  | .ended (.error _) => Accounted b.lab b.runs ∧ b.Restored
  | .dead => Accounted b.lab b.runs

def Clear (records : List Scored) : Prop := ∀ scored ∈ records, scored.abort = none

def Failure.IsUnsaved (failure : Failure) : Prop := ∃ name, failure = .unsaved name

def Batch.saves (b : Batch) (setup : Setup) (records : List Scored) : Prop :=
  b.files "records.jsonl" = some (setup.text records)

/-- What the file holds, and which records it may lack. -/
def Batch.Kept (b : Batch) (setup : Setup) : Phase → Prop
  | .saving _ job inner =>
      (∃ fresh, job = setup.recordsJob b.records fresh) ∧
        job.Stands (some (setup.text b.records.dropLast)) b.files inner ∧
        inner.Errs Failure.IsUnsaved ∧ Clear b.records.dropLast
  | .savingSummary _ inner =>
      inner.Errs Failure.IsUnsaved ∧ b.saves setup b.records ∧ Clear b.records
  | .closing _ (.error e) => (∃ name, e = .raised name) ∧ b.saves setup b.records ∧ Clear b.records
  | .resetting (some (.aborted reason)) | .ended (.error (.aborted reason)) =>
      b.saves setup b.records ∧ Clear b.records.dropLast ∧
        b.records.getLast?.bind Scored.abort = some reason
  | .resetting (some (.unsaved _)) | .ended (.error (.unsaved _)) | .dead =>
      (b.saves setup b.records ∨ b.saves setup b.records.dropLast) ∧ Clear b.records.dropLast
  | _ => b.saves setup b.records ∧ Clear b.records

/-- The summary is that of both arms of every pair of the plan. -/
def Batch.Summed (b : Batch) (summary : PairedEvaluationSummary) : Prop :=
  (∃ done : List Started, done.map Started.point = plan ∧ b.runs = done.flatMap Started.runs) ∧
    summarizePairedEvaluation (b.records.map fun scored => scored.record.toEvaluationRecord) =
      .ok summary

def Batch.Summarized (b : Batch) (setup : Setup) : Phase → Prop
  | .savingSummary job inner =>
      ∃ summary fresh, b.Summed summary ∧ job = setup.summaryJob summary fresh ∧
        job.Stands none b.files inner
  | .ended (.ok _) =>
      ∃ summary, b.Summed summary ∧ b.files "summary.json" = some (setup.summaryJson summary)
  | .ended (.error _) | .dead =>
      b.files "summary.json" = none ∨
        ∃ summary, b.Summed summary ∧ b.files "summary.json" = some (setup.summaryJson summary)
  | _ => b.files "summary.json" = none

def Phase.pending : Phase → List String
  | .filing _ run => [run.runId]
  | .closing _ (.ok scored) => [scored.runId]
  | _ => []

/-- A record shows what its run has cost, and is labelled with its run. -/
structure Scored.Agrees (setup : Setup) (ledger : List CostLedgerRow) (scored : Scored) :
    Prop where
  reserved : scored.record.reservedUsd = (runCostTotals ledger scored.runId).reservedUsd
  actual : scored.record.actualUsd =
    if (runCostTotals ledger scored.runId).fullySettled then
      some (runCostTotals ledger scored.runId).actualUsd
    else none
  key : scored.record.runKey = runKey setup scored.run.incident scored.modelName scored.run.arm
  seed : scored.record.seedName = scored.run.seed

/-- The record that a run returns, before it is one of the records. -/
def Batch.Returns (b : Batch) (setup : Setup) : Phase → Prop
  | .closing arm (.ok scored) =>
      scored.Agrees setup b.ledger ∧ scored.run = ⟨b.current.incident, b.current.seed, arm⟩
  | _ => True

/-- What is recorded of the runs, whatever comes next. -/
structure Batch.Books (setup : Setup) (b : Batch) : Prop where
  keyed : Rows.Keyed CostLedgerRow.key b.ledger
  distinct : (b.records.map Scored.runId).Nodup
  closed : ∀ scored ∈ b.records, scored.runId ∈ b.closed
  agrees : ∀ scored ∈ b.records, scored.Agrees setup b.ledger

structure Batch.Sound (setup : Setup) (b : Batch) : Prop where
  books : b.Books setup
  standing : b.Standing b.phase
  kept : b.Kept setup b.phase
  summarized : b.Summarized setup b.phase
  pending : ∀ runId ∈ b.phase.pending, runId ∈ b.closed ∧ runId ∉ b.records.map Scored.runId
  returns : b.Returns setup b.phase

end Invariants

section Labels

variable {setup : Setup}

theorem Arm.mode_plain (arm : Arm) : ∀ c ∈ arm.mode.toList.reverse, c ≠ '/' := by
  cases arm with
  | noToolBaseline => simp [Arm.mode, modeNoToolBaseline]
  | toolEnabled => simp [Arm.mode, modeToolEnabled]

theorem armOf_runKey {record : EvaluationRecord} {incident modelName : String} {arm : Arm}
    (h : record.runKey = runKey setup incident modelName arm) : armOf record = arm.mode := by
  have hkey : record.runKey.toList.reverse = arm.mode.toList.reverse ++ '/' ::
      (incident ++ "/" ++ modelName ++ "/et" ++
        toString setup.budgets.executedTools).toList.reverse := by
    simp [h, runKey]
  rw [armOf, hkey, List.takeWhile_append_of_pos (by simpa using arm.mode_plain)]
  simp

theorem unrecognized_of_agrees {ledger : List CostLedgerRow} {scored : Scored}
    (h : scored.Agrees setup ledger) :
    unrecognized scored.record.toEvaluationRecord = false := by
  have harm := armOf_runKey h.key
  cases hmode : scored.run.arm with
  | noToolBaseline => simp [unrecognized, harm, hmode, Arm.mode]
  | toolEnabled => simp [unrecognized, harm, hmode, Arm.mode]

theorem summarized_of_agrees {ledger : List CostLedgerRow} {records : List Scored}
    (h : ∀ scored ∈ records, scored.Agrees setup ledger) :
    ∃ summary, summarizePairedEvaluation (records.map fun scored =>
      scored.record.toEvaluationRecord) = .ok summary := by
  have hcount : (records.map fun scored => scored.record.toEvaluationRecord).countP
      unrecognized = 0 := by
    rw [List.countP_eq_zero]
    intro record hrecord
    obtain ⟨scored, hscored, rfl⟩ := List.mem_map.1 hrecord
    simp [unrecognized_of_agrees (h scored hscored)]
  simp only [summarizePairedEvaluation, hcount, ne_eq, not_true_eq_false, if_false]
  exact ⟨_, rfl⟩

end Labels

section Files

variable {setup : Setup} {b : Batch}

theorem temporaryName_ne {name other : String} (fresh : ControlPlane.Uuid)
    (h : other.length < 32) : other ≠ temporaryName name fresh := by
  intro heq
  have hlength := congrArg String.length heq
  simp only [temporaryName, String.length_append, fresh.wellFormed.1] at hlength
  omega

theorem fault_unsaved (fate : Fate) : ∀ f ∈ fate.fault, Failure.IsUnsaved f.error := by
  intro f hf
  obtain ⟨name, -, rfl⟩ := Option.map_eq_some_iff.1 hf
  exact ⟨name, rfl⟩

end Files

section Accounting

variable {todo : List (String × String)} {current : Started} {lab : List LabAct}
  {runs : List Run} {done : List Started} {scored : ℕ}

theorem Between.accounted (h : Between todo lab runs done) : Accounted lab runs :=
  .whole done ⟨todo, h.planned⟩ h.lab h.runs

theorem Within.part (h : Within todo current lab runs scored done) (asked : ℕ) :
    Accounted (done.flatMap Started.acts ++ current.acts.take asked) runs := by
  obtain ⟨rest, hrest⟩ := List.head?_eq_some_iff.1 h.next
  refine .part done current asked scored ⟨rest, ?_⟩ rfl h.runs
  rw [List.append_assoc, List.singleton_append, ← hrest, h.planned]

theorem Within.accounted (h : Within todo current lab runs scored done) : Accounted lab runs := by
  have hpart := h.part 1
  rwa [Started.acts, List.take_succ_cons, List.take_zero, ← h.lab] at hpart

theorem Within.reset (h : Within todo current lab runs scored done) :
    lab ++ [.reset current.incident] = (done ++ [current]).flatMap Started.acts := by
  simp [h.lab, Started.acts]

theorem Within.reset_accounted (h : Within todo current lab runs scored done) :
    Accounted (lab ++ [.reset current.incident]) runs := by
  have hpart := h.part 2
  have hlab : lab ++ [.reset current.incident] =
      done.flatMap Started.acts ++ current.acts.take 2 := by
    simp [h.lab, Started.acts]
  rwa [← hlab] at hpart

theorem Within.after (h : Within todo current lab runs 2 done) :
    Between todo.tail (lab ++ [.reset current.incident]) runs (done ++ [current]) where
  planned := by
    obtain ⟨rest, hrest⟩ := List.head?_eq_some_iff.1 h.next
    rw [hrest, List.tail_cons, List.map_append, List.append_assoc, List.map_singleton,
      List.singleton_append, ← hrest, h.planned]
  lab := h.reset
  runs := by simp [h.runs, Started.runs]

theorem Between.restored {b : Batch} (h : Between b.todo b.lab b.runs done) : b.Restored :=
  ⟨done, h.lab⟩

end Accounting

section Phases

variable {setup : Setup} {b : Batch} {fate : Fate}

theorem Batch.Books.goto (h : b.Books setup) (phase : Phase) : (b.goto phase).Books setup :=
  ⟨h.keyed, h.distinct, h.closed, h.agrees⟩

theorem Batch.Books.resets (h : b.Books setup) : b.resets.Books setup :=
  ⟨h.keyed, h.distinct, h.closed, h.agrees⟩

theorem Batch.Books.sound (h : b.Books setup) {phase : Phase} (hphase : b.phase = phase)
    (hstanding : b.Standing phase) (hkept : b.Kept setup phase)
    (hsummarized : b.Summarized setup phase) (hpending : phase.pending = [])
    (hreturns : b.Returns setup phase) : b.Sound setup := by
  subst hphase
  refine ⟨h, hstanding, hkept, hsummarized, ?_, hreturns⟩
  rw [hpending]
  simp

theorem Batch.Sound.at (h : b.Sound setup) {phase : Phase} (hphase : b.phase = phase) :
    b.Standing phase ∧ b.Kept setup phase ∧ b.Summarized setup phase ∧ b.Returns setup phase := by
  subst hphase
  exact ⟨h.standing, h.kept, h.summarized, h.returns⟩

/-- The records are on disk, none of them stops the batch, and there is no summary. -/
structure Batch.Level (setup : Setup) (b : Batch) : Prop where
  saves : b.saves setup b.records
  clear : Clear b.records
  unsummarized : b.files "summary.json" = none

theorem sound_raised (h : b.Books setup) (hlevel : b.Level setup)
    (hwithin : ∃ done scored, Within b.todo b.current b.lab b.runs scored done) (name : String) :
    (b.goto (.resetting (some (.raised name)))).Sound setup :=
  (h.goto _).sound rfl hwithin ⟨hlevel.saves, hlevel.clear⟩ hlevel.unsummarized rfl trivial

theorem sound_next (h : b.Books setup) (hlevel : b.Level setup)
    (hbetween : ∃ done, Between b.todo b.lab b.runs done) : b.next.Sound setup := by
  unfold Batch.next
  cases htodo : b.todo with
  | nil =>
      obtain ⟨done, hdone⟩ := hbetween
      exact (h.goto _).sound rfl ⟨done, hdone, htodo⟩ ⟨hlevel.saves, hlevel.clear⟩
        hlevel.unsummarized rfl trivial
  | cons point rest =>
      exact (h.goto _).sound rfl hbetween ⟨hlevel.saves, hlevel.clear⟩ hlevel.unsummarized rfl
        trivial

theorem sound_stopped (h : b.Books setup) (hlevel : b.Level setup)
    (hbetween : ∃ done, Between b.todo b.lab b.runs done) {failure : Failure}
    (hfailure : (∃ name, failure = .raised name) ∨ ∃ e, failure = .preflight e) :
    (b.goto (.ended (.error failure))).Sound setup := by
  obtain ⟨done, hdone⟩ := hbetween
  obtain ⟨name, rfl⟩ | ⟨e, rfl⟩ := hfailure
  · exact (h.goto _).sound rfl ⟨hdone.accounted, hdone.restored⟩ ⟨hlevel.saves, hlevel.clear⟩
      (.inl hlevel.unsummarized) rfl trivial
  · exact (h.goto _).sound rfl ⟨hdone.accounted, hdone.restored⟩ ⟨hlevel.saves, hlevel.clear⟩
      (.inl hlevel.unsummarized) rfl trivial

theorem sound_opening (h : b.Sound setup) (hphase : b.phase = .opening) :
    (b.act setup fate).Sound setup := by
  obtain ⟨hbetween, ⟨hsaves, hclear⟩, hunsummarized, -⟩ := h.at hphase
  have hlevel : b.Level setup := ⟨hsaves, hclear, hunsummarized⟩
  simp only [Batch.act, hphase]
  cases fate.error with
  | some name => exact sound_stopped h.books hlevel hbetween (.inl ⟨name, rfl⟩)
  | none =>
      dsimp only
      cases Cost.checkPreflightCost setup.reading setup.tools b.ledger setup.budgets
          setup.ceilingUsd with
      | error e => exact sound_stopped h.books hlevel hbetween (.inr ⟨e, rfl⟩)
      | ok fits => exact sound_next h.books hlevel hbetween

theorem sound_starting (h : b.Sound setup) (hphase : b.phase = .starting) :
    (b.act setup fate).Sound setup := by
  obtain ⟨hbetween, ⟨hsaves, hclear⟩, hunsummarized, -⟩ := h.at hphase
  have hlevel : b.Level setup := ⟨hsaves, hclear, hunsummarized⟩
  simp only [Batch.act, hphase]
  cases fate.error with
  | some name => exact sound_stopped h.books hlevel hbetween (.inl ⟨name, rfl⟩)
  | none =>
      obtain ⟨done, hdone⟩ := hbetween
      cases htodo : b.todo with
      | nil =>
          exact (h.books.goto _).sound rfl ⟨done, hdone, htodo⟩ ⟨hsaves, hclear⟩ hunsummarized rfl
            trivial
      | cons point rest =>
          obtain ⟨family, seed⟩ := point
          refine Batch.Books.sound 
            ⟨h.books.keyed, h.books.distinct, h.books.closed, h.books.agrees⟩ rfl
            ⟨done, ?_⟩ ⟨hsaves, hclear⟩ hunsummarized rfl trivial
          have hplanned := hdone.planned
          rw [htodo] at hplanned
          exact { planned := hplanned
                  next := by simp [Started.point]
                  lab := by simp [hdone.lab]
                  runs := hdone.runs.trans (by simp) }

theorem sound_loading (h : b.Sound setup) (hphase : b.phase = .loading) :
    (b.act setup fate).Sound setup := by
  obtain ⟨⟨done, hwithin⟩, ⟨hsaves, hclear⟩, hunsummarized, -⟩ := h.at hphase
  have hlevel : b.Level setup := ⟨hsaves, hclear, hunsummarized⟩
  simp only [Batch.act, hphase]
  cases fate.error with
  | some name => exact sound_raised h.books hlevel ⟨done, 0, hwithin⟩ name
  | none =>
      exact Batch.Books.sound 
        ⟨h.books.keyed, h.books.distinct, h.books.closed, h.books.agrees⟩ rfl
        ⟨done, hwithin⟩ ⟨hsaves, hclear⟩ hunsummarized rfl trivial

theorem sound_building {arm : Arm} (h : b.Sound setup) (hphase : b.phase = .building arm) :
    (b.act setup fate).Sound setup := by
  obtain ⟨⟨done, hwithin⟩, ⟨hsaves, hclear⟩, hunsummarized, -⟩ := h.at hphase
  have hlevel : b.Level setup := ⟨hsaves, hclear, hunsummarized⟩
  simp only [Batch.act, hphase]
  cases fate.error with
  | some name => exact sound_raised h.books hlevel ⟨done, _, hwithin⟩ name
  | none =>
      exact (h.books.goto _).sound rfl ⟨done, hwithin⟩ ⟨hsaves, hclear⟩ hunsummarized rfl trivial

theorem sound_closing_error {closed : List String} (h : b.Books setup) (hlevel : b.Level setup)
    {arm : Arm} (hwithin : ∃ done, Within b.todo b.current b.lab b.runs arm.before done)
    (name : String) (hclosed : ∀ runId ∈ b.closed, runId ∈ closed) :
    ({ b with phase := .closing arm (.error (.raised name)), closed := closed } : Batch).Sound
      setup :=
  Batch.Books.sound ⟨h.keyed, h.distinct, fun scored hscored => hclosed _ (h.closed scored hscored),
    h.agrees⟩ rfl hwithin ⟨⟨name, rfl⟩, hlevel.saves, hlevel.clear⟩ hlevel.unsummarized rfl trivial

theorem sound_running {arm : Arm} (h : b.Sound setup) (hphase : b.phase = .running arm)
    (hfresh : ∀ runId ∈ runIdFromEvents fate.events, runId ∉ b.closed) :
    (b.act setup fate).Sound setup := by
  obtain ⟨hwithin, ⟨hsaves, hclear⟩, hunsummarized, -⟩ := h.at hphase
  have hlevel : b.Level setup := ⟨hsaves, hclear, hunsummarized⟩
  have happend : ∀ ids, ∀ runId ∈ b.closed, runId ∈ b.closed ++ ids :=
    fun ids runId hmem => List.mem_append_left ids hmem
  simp only [Batch.act, hphase]
  cases fate.error with
  | some name => exact sound_closing_error h.books hlevel hwithin name (happend _)
  | none =>
      simp only [Batch.returned]
      cases fate.settled with
      | escalated paused =>
          exact sound_closing_error h.books hlevel hwithin "RuntimeError" (happend _)
      | finished result =>
          cases hrun : runIdFromEvents fate.events with
          | none =>
              exact sound_closing_error h.books hlevel hwithin "RuntimeError" (fun _ hmem => hmem)
          | some runId =>
              have hnew : runId ∉ b.closed := hfresh runId (by rw [hrun]; rfl)
              refine ⟨⟨h.books.keyed, h.books.distinct,
                fun scored hscored => happend _ _ (h.books.closed scored hscored),
                h.books.agrees⟩, hwithin, ⟨hsaves, hclear⟩, hunsummarized, ?_, trivial⟩
              intro other hother
              obtain rfl := List.mem_singleton.1 hother
              refine ⟨List.mem_append_right _ (List.mem_singleton.2 rfl), ?_⟩
              intro hmem
              obtain ⟨scored, hscored, hid⟩ := List.mem_map.1 hmem
              exact hnew (hid ▸ h.books.closed scored hscored)

theorem sound_filing {arm : Arm} {run : Finished} (h : b.Sound setup)
    (hphase : b.phase = .filing arm run) : (b.act setup fate).Sound setup := by
  obtain ⟨hwithin, ⟨hsaves, hclear⟩, hunsummarized, -⟩ := h.at hphase
  have hlevel : b.Level setup := ⟨hsaves, hclear, hunsummarized⟩
  have hpending := h.pending
  rw [hphase] at hpending
  simp only [Batch.act, hphase]
  cases fate.error with
  | some name => exact sound_closing_error h.books hlevel hwithin name (fun _ hmem => hmem)
  | none =>
      exact ⟨h.books.goto _, hwithin, ⟨hsaves, hclear⟩, hunsummarized, hpending,
        ⟨rfl, rfl, rfl, rfl⟩, rfl⟩

theorem take_runs (current : Started) (arm : Arm) :
    current.runs.take arm.before ++ [⟨current.incident, current.seed, arm⟩] =
      current.runs.take (arm.before + 1) := by
  cases arm with
  | noToolBaseline => rfl
  | toolEnabled => rfl

theorem sound_recorded {arm : Arm} {scored : Scored} (h : b.Sound setup)
    (hphase : b.phase = .closing arm (.ok scored)) (fresh : ControlPlane.Uuid) :
    ({ b with records := b.records ++ [scored]
              phase := .saving arm (setup.recordsJob (b.records ++ [scored]) fresh)
                .writing } : Batch).Sound setup := by
  obtain ⟨⟨done, hwithin⟩, ⟨hsaves, hclear⟩, hunsummarized, hagrees, hrun⟩ := h.at hphase
  have hpending := h.pending
  rw [hphase] at hpending
  obtain ⟨hclosed, hnew⟩ := hpending scored.runId (List.mem_singleton.2 rfl)
  refine Batch.Books.sound ⟨h.books.keyed, ?_, ?_, ?_⟩ rfl ⟨done, ?_⟩
    ⟨⟨fresh, rfl⟩, ?_, trivial, ?_⟩ hunsummarized rfl trivial
  · rw [List.map_append, List.map_singleton, List.nodup_append]
    refine ⟨h.books.distinct, List.nodup_singleton _, ?_⟩
    intro runId hmem other hother heq
    rw [List.mem_singleton.1 hother] at heq
    exact hnew (heq ▸ hmem)
  · intro other hother
    rcases List.mem_append.1 hother with hold | hlast
    · exact h.books.closed other hold
    · rw [List.mem_singleton.1 hlast]
      exact hclosed
  · intro other hother
    rcases List.mem_append.1 hother with hold | hlast
    · exact h.books.agrees other hold
    · rw [List.mem_singleton.1 hlast]
      exact hagrees
  · have hruns : b.runs ++ [scored.run] =
        done.flatMap Started.runs ++ b.current.runs.take (arm.before + 1) := by
      rw [hwithin.runs, hrun, List.append_assoc, take_runs]
    exact { planned := hwithin.planned
            next := hwithin.next
            lab := hwithin.lab
            runs := by simpa [Batch.runs] using hruns }
  · have hdrop : (b.records ++ [scored]).dropLast = b.records := List.dropLast_concat
    exact hsaves.trans (by rw [hdrop])
  · simpa using hclear

theorem sound_closing {arm : Arm} {result : Except Failure Scored} (h : b.Sound setup)
    (hphase : b.phase = .closing arm result) : (b.act setup fate).Sound setup := by
  cases result with
  | error e =>
      obtain ⟨⟨done, hwithin⟩, ⟨⟨raised, rfl⟩, hsaves, hclear⟩, hunsummarized, -⟩ := h.at hphase
      have hlevel : b.Level setup := ⟨hsaves, hclear, hunsummarized⟩
      simp only [Batch.act, hphase]
      cases fate.error with
      | some name => exact sound_raised h.books hlevel ⟨done, _, hwithin⟩ name
      | none => exact sound_raised h.books hlevel ⟨done, _, hwithin⟩ raised
  | ok scored =>
      obtain ⟨⟨done, hwithin⟩, ⟨hsaves, hclear⟩, hunsummarized, -⟩ := h.at hphase
      have hlevel : b.Level setup := ⟨hsaves, hclear, hunsummarized⟩
      simp only [Batch.act, hphase]
      cases fate.error with
      | some name => exact sound_raised h.books hlevel ⟨done, _, hwithin⟩ name
      | none => exact sound_recorded h hphase fate.fresh

theorem Clear.dropLast {records : List Scored} (h : Clear records) : Clear records.dropLast :=
  fun scored hscored => h scored (List.mem_of_mem_dropLast hscored)

theorem clear_of_getLast {records : List Scored} (h : Clear records.dropLast)
    (hlast : records.getLast?.bind Scored.abort = none) : Clear records := by
  intro scored hscored
  rcases List.eq_nil_or_concat records with rfl | ⟨before, last, rfl⟩
  · cases hscored
  · rw [List.concat_eq_append] at h hlast hscored
    rw [List.dropLast_concat] at h
    rw [List.getLast?_concat, Option.bind_some] at hlast
    rcases List.mem_append.1 hscored with hold | hnew
    · exact h scored hold
    · rw [List.mem_singleton.1 hnew]
      exact hlast

theorem sound_saved {arm : Arm} {job : Job} (h : b.Sound setup)
    (hphase : b.phase = .saving arm job .replaced) : (b.saved arm).Sound setup := by
  obtain ⟨⟨done, hwithin⟩, ⟨⟨fresh, rfl⟩, hstands, -, hclear⟩, hunsummarized, -⟩ := h.at hphase
  have hsaves : b.saves setup b.records := hstands
  simp only [Batch.saved]
  cases hlast : b.records.getLast?.bind Scored.abort with
  | some reason =>
      exact (h.books.goto _).sound rfl ⟨done, _, hwithin⟩ ⟨hsaves, hclear, hlast⟩ hunsummarized
        rfl trivial
  | none =>
      have hall := clear_of_getLast hclear hlast
      cases arm with
      | noToolBaseline =>
          exact (h.books.goto _).sound rfl ⟨done, hwithin⟩ ⟨hsaves, hall⟩ hunsummarized rfl trivial
      | toolEnabled =>
          exact (h.books.goto _).sound rfl ⟨done, hwithin⟩ ⟨hsaves, hall⟩ hunsummarized rfl trivial

theorem sound_save {arm : Arm} {job : Job} {inner : Replacing.Phase Failure} (h : b.Sound setup)
    (hphase : b.phase = .saving arm job inner) :
    ({ b with files := (job.act (.unsaved "FileNotFoundError") b.files inner fate.fault).2
              phase := .saving arm job
                (job.act (.unsaved "FileNotFoundError") b.files inner fate.fault).1 } :
      Batch).Sound setup := by
  obtain ⟨hwithin, ⟨⟨fresh, rfl⟩, hstands, herrs, hclear⟩, hunsummarized, -⟩ := h.at hphase
  have hne : "records.jsonl" ≠ temporaryName "records.jsonl" fresh :=
    temporaryName_ne fresh (by decide)
  have hother : "summary.json" ≠ temporaryName "records.jsonl" fresh :=
    temporaryName_ne fresh (by decide)
  refine Batch.Books.sound ⟨h.books.keyed, h.books.distinct, h.books.closed, h.books.agrees⟩ rfl
    hwithin ⟨⟨fresh, rfl⟩, hstands.act hne fate.fault, ?_, hclear⟩ ?_ rfl trivial
  · exact herrs.act ⟨_, rfl⟩ (fault_unsaved fate)
  · have hapart : "summary.json" ≠ "records.jsonl" := by decide
    exact (Replacing.Job.act_other hapart hother fate.fault).trans hunsummarized

theorem sound_saving {arm : Arm} {job : Job} {inner : Replacing.Phase Failure} (h : b.Sound setup)
    (hphase : b.phase = .saving arm job inner) : (b.act setup fate).Sound setup := by
  cases inner with
  | replaced =>
      simp only [Batch.act, hphase]
      exact sound_saved h hphase
  | raised e =>
      obtain ⟨⟨done, hwithin⟩, ⟨⟨fresh, rfl⟩, hstands, ⟨name, rfl⟩, hclear⟩, hunsummarized, -⟩ :=
        h.at hphase
      simp only [Batch.act, hphase]
      exact (h.books.goto _).sound rfl ⟨done, _, hwithin⟩ ⟨.inr hstands, hclear⟩ hunsummarized rfl
        trivial
  | writing =>
      simp only [Batch.act, hphase]
      exact sound_save h hphase
  | placing =>
      simp only [Batch.act, hphase]
      exact sound_save h hphase
  | unlinking e =>
      simp only [Batch.act, hphase]
      exact sound_save h hphase

theorem sound_resetting {failed : Option Failure} (h : b.Sound setup)
    (hphase : b.phase = .resetting failed) : (b.act setup fate).Sound setup := by
  cases failed with
  | some e =>
      obtain ⟨⟨done, scored, hwithin⟩, hkept, hunsummarized, -⟩ := h.at hphase
      simp only [Batch.act, hphase]
      -- The failure of the pass stays the failure of the batch, whatever the reset does.
      cases e with
      | preflight e | aborted reason | unsaved name | raised name =>
          exact (h.books.resets.goto _).sound rfl ⟨hwithin.reset_accounted, _, hwithin.reset⟩ hkept
            (.inl hunsummarized) rfl trivial
  | none =>
      obtain ⟨⟨done, hwithin⟩, ⟨hsaves, hclear⟩, hunsummarized, -⟩ := h.at hphase
      simp only [Batch.act, hphase]
      cases fate.error with
      | some name =>
          exact (h.books.resets.goto _).sound rfl ⟨hwithin.reset_accounted, _, hwithin.reset⟩
            ⟨hsaves, hclear⟩ (.inl hunsummarized) rfl trivial
      | none =>
          exact sound_next ⟨h.books.keyed, h.books.distinct, h.books.closed, h.books.agrees⟩
            ⟨hsaves, hclear, hunsummarized⟩ ⟨_, hwithin.after⟩

theorem sound_summarizing (h : b.Sound setup) (hphase : b.phase = .summarizing) :
    (b.act setup fate).Sound setup := by
  obtain ⟨⟨done, hdone, htodo⟩, ⟨hsaves, hclear⟩, hunsummarized, -⟩ := h.at hphase
  obtain ⟨summary, hsummary⟩ := summarized_of_agrees h.books.agrees
  have hplanned := hdone.planned
  rw [htodo, List.append_nil] at hplanned
  simp only [Batch.act, hphase, hsummary]
  exact (h.books.goto _).sound rfl ⟨done, hdone, htodo⟩ ⟨trivial, hsaves, hclear⟩
    ⟨summary, fate.fresh, ⟨⟨done, hplanned, hdone.runs⟩, hsummary⟩, rfl, hunsummarized⟩ rfl trivial

theorem sound_saveSummary {job : Job} {inner : Replacing.Phase Failure} (h : b.Sound setup)
    (hphase : b.phase = .savingSummary job inner) :
    ({ b with files := (job.act (.unsaved "FileNotFoundError") b.files inner fate.fault).2
              phase := .savingSummary job
                (job.act (.unsaved "FileNotFoundError") b.files inner fate.fault).1 } :
      Batch).Sound setup := by
  obtain ⟨hstanding, ⟨herrs, hsaves, hclear⟩, ⟨summary, fresh, hsummed, rfl, hstands⟩, -⟩ :=
    h.at hphase
  have hne : "summary.json" ≠ temporaryName "summary.json" fresh :=
    temporaryName_ne fresh (by decide)
  have hother : "records.jsonl" ≠ temporaryName "summary.json" fresh :=
    temporaryName_ne fresh (by decide)
  refine Batch.Books.sound ⟨h.books.keyed, h.books.distinct, h.books.closed, h.books.agrees⟩ rfl
    hstanding ⟨?_, ?_, hclear⟩
    ⟨summary, fresh, hsummed, rfl, hstands.act hne fate.fault⟩ rfl trivial
  · exact herrs.act ⟨_, rfl⟩ (fault_unsaved fate)
  · have hapart : "records.jsonl" ≠ "summary.json" := by decide
    exact (Replacing.Job.act_other hapart hother fate.fault).trans hsaves

theorem sound_savingSummary {job : Job} {inner : Replacing.Phase Failure} (h : b.Sound setup)
    (hphase : b.phase = .savingSummary job inner) : (b.act setup fate).Sound setup := by
  cases inner with
  | replaced =>
      obtain ⟨hstanding, ⟨-, hsaves, hclear⟩, ⟨summary, fresh, hsummed, rfl, hstands⟩, -⟩ :=
        h.at hphase
      simp only [Batch.act, hphase]
      exact (h.books.goto _).sound rfl hstanding ⟨hsaves, hclear⟩ ⟨summary, hsummed, hstands⟩ rfl
        trivial
  | raised e =>
      obtain ⟨⟨done, hdone, -⟩, ⟨⟨name, rfl⟩, hsaves, hclear⟩, ⟨summary, fresh, -, rfl, hstands⟩,
        -⟩ := h.at hphase
      simp only [Batch.act, hphase]
      exact (h.books.goto _).sound rfl ⟨hdone.accounted, hdone.restored⟩
        ⟨.inl hsaves, hclear.dropLast⟩ (.inl hstands) rfl trivial
  | writing =>
      simp only [Batch.act, hphase]
      exact sound_saveSummary h hphase
  | placing =>
      simp only [Batch.act, hphase]
      exact sound_saveSummary h hphase
  | unlinking e =>
      simp only [Batch.act, hphase]
      exact sound_saveSummary h hphase

theorem Batch.Sound.act (h : b.Sound setup) (hadmissible : b.Admissible (.acts fate)) :
    (b.act setup fate).Sound setup := by
  cases hphase : b.phase with
  | opening => exact sound_opening h hphase
  | starting => exact sound_starting h hphase
  | loading => exact sound_loading h hphase
  | building arm => exact sound_building h hphase
  | running arm => exact sound_running h hphase hadmissible
  | filing arm run => exact sound_filing h hphase
  | closing arm result => exact sound_closing h hphase
  | saving arm job inner => exact sound_saving h hphase
  | resetting failed => exact sound_resetting h hphase
  | summarizing => exact sound_summarizing h hphase
  | savingSummary job inner => exact sound_savingSummary h hphase
  | ended result => simpa only [Batch.act, hphase] using h
  | dead => simpa only [Batch.act, hphase] using h

end Phases

section Runs

variable {setup : Setup} {b : Batch}

theorem standing_accounted {phase : Phase} (h : b.Standing phase) : Accounted b.lab b.runs := by
  cases phase with
  | opening | starting =>
      obtain ⟨done, hdone⟩ := h
      exact hdone.accounted
  | loading | building arm | running arm | filing arm run | closing arm result
  | saving arm job inner =>
      obtain ⟨done, hdone⟩ := h
      exact hdone.accounted
  | resetting failed =>
      cases failed with
      | none =>
          obtain ⟨done, hdone⟩ := h
          exact hdone.accounted
      | some e =>
          obtain ⟨done, scored, hdone⟩ := h
          exact hdone.accounted
  | summarizing | savingSummary job inner =>
      obtain ⟨done, hdone, -⟩ := h
      exact hdone.accounted
  | ended result =>
      cases result with
      | ok value =>
          obtain ⟨done, hdone, -⟩ := h
          exact hdone.accounted
      | error e => exact h.1
  | dead => exact h

/-- The file lacks the newest record while that is being saved, or when the save has failed. -/
def Phase.unsaved : Phase → Bool
  | .saving _ _ _ | .resetting (some (.unsaved _)) | .ended (.error (.unsaved _)) | .dead => true
  | _ => false

theorem kept_saved {phase : Phase} (h : b.Kept setup phase) :
    (b.saves setup b.records ∨ phase.unsaved = true ∧ b.saves setup b.records.dropLast) ∧
      Clear b.records.dropLast := by
  cases phase with
  | opening | starting | loading | building arm | running arm | filing arm run | summarizing =>
      exact ⟨.inl h.1, h.2.dropLast⟩
  | closing arm result =>
      cases result with
      | error e => exact ⟨.inl h.2.1, h.2.2.dropLast⟩
      | ok scored => exact ⟨.inl h.1, h.2.dropLast⟩
  | saving arm job inner =>
      obtain ⟨⟨fresh, rfl⟩, hstands, -, hclear⟩ := h
      refine ⟨?_, hclear⟩
      cases inner with
      | replaced => exact .inl hstands
      | placing => exact .inr ⟨rfl, hstands.1⟩
      | writing | unlinking e | raised e => exact .inr ⟨rfl, hstands⟩
  | resetting failed =>
      cases failed with
      | none => exact ⟨.inl h.1, h.2.dropLast⟩
      | some e =>
          cases e with
          | aborted reason => exact ⟨.inl h.1, h.2.1⟩
          | unsaved name => exact ⟨h.1.imp_right fun hsaves => ⟨rfl, hsaves⟩, h.2⟩
          | preflight e | raised name => exact ⟨.inl h.1, h.2.dropLast⟩
  | savingSummary job inner => exact ⟨.inl h.2.1, h.2.2.dropLast⟩
  | ended result =>
      cases result with
      | ok value => exact ⟨.inl h.1, h.2.dropLast⟩
      | error e =>
          cases e with
          | aborted reason => exact ⟨.inl h.1, h.2.1⟩
          | unsaved name => exact ⟨h.1.imp_right fun hsaves => ⟨rfl, hsaves⟩, h.2⟩
          | preflight e | raised name => exact ⟨.inl h.1, h.2.dropLast⟩
  | dead => exact ⟨h.1.imp_right fun hsaves => ⟨rfl, hsaves⟩, h.2⟩

theorem summarized_whole {phase : Phase} (h : b.Summarized setup phase) :
    b.files "summary.json" = none ∨
      ∃ summary, b.Summed summary ∧ b.files "summary.json" = some (setup.summaryJson summary) := by
  cases phase with
  | savingSummary job inner =>
      obtain ⟨summary, fresh, hsummed, rfl, hstands⟩ := h
      cases inner with
      | replaced => exact .inr ⟨summary, hsummed, hstands⟩
      | placing => exact .inl hstands.1
      | writing | unlinking e | raised e => exact .inl hstands
  | ended result =>
      cases result with
      | ok value => exact .inr h
      | error e => exact h
  | dead => exact h
  | opening | starting | loading | building arm | running arm | filing arm run
  | closing arm result | saving arm job inner | resetting failed | summarizing => exact .inl h

theorem Batch.Sound.dies (h : b.Sound setup) : (b.goto .dead).Sound setup := by
  obtain ⟨hsaved, hclear⟩ := kept_saved h.kept
  exact (h.books.goto _).sound rfl (standing_accounted h.standing)
    ⟨hsaved.imp_right And.right, hclear⟩ (summarized_whole h.summarized) rfl trivial

theorem Scored.Agrees.callStep {ledger : List CostLedgerRow} {scored : Scored}
    (h : scored.Agrees setup ledger) (hkeyed : Rows.Keyed CostLedgerRow.key ledger)
    (ceilingUsd : Option ℚ) (call : Cost.Call) (hother : call.key.runId ≠ scored.runId) :
    scored.Agrees setup (Cost.callStep ceilingUsd ledger call).2 := by
  have htotals := Cost.runCostTotals_callStep ceilingUsd hkeyed call hother
  exact ⟨by rw [htotals]; exact h.reserved, by rw [htotals]; exact h.actual, h.key, h.seed⟩

theorem Batch.Sound.calls (h : b.Sound setup) (ceilingUsd : Option ℚ) (call : Cost.Call)
    (hother : call.key.runId ∉ b.closed) :
    ({ b with ledger := (Cost.callStep ceilingUsd b.ledger call).2 } : Batch).Sound setup := by
  have hstep : ∀ scored : Scored, scored.Agrees setup b.ledger → scored.runId ∈ b.closed →
      scored.Agrees setup (Cost.callStep ceilingUsd b.ledger call).2 :=
    fun scored hagrees hclosed => hagrees.callStep h.books.keyed ceilingUsd call
      fun heq => hother (heq ▸ hclosed)
  refine ⟨⟨Cost.keyed_step _ h.books.keyed call, h.books.distinct, h.books.closed,
    fun scored hscored => hstep scored (h.books.agrees scored hscored)
      (h.books.closed scored hscored)⟩, h.standing, h.kept, h.summarized, h.pending, ?_⟩
  have hreturns := h.returns
  have hpending := h.pending
  revert hreturns hpending
  cases b.phase with
  | closing arm result =>
      cases result with
      | error e => exact fun _ _ => trivial
      | ok scored =>
          intro hreturns hpending
          exact ⟨hstep scored hreturns.1 (hpending _ (List.mem_singleton.2 rfl)).1, hreturns.2⟩
  | opening | starting | loading | building arm | running arm | filing arm run
  | saving arm job inner | resetting failed | summarizing | savingSummary job inner
  | ended result | dead => exact fun _ _ => trivial

theorem Batch.Sound.step (h : b.Sound setup) {event : Event} (hadmissible : b.Admissible event) :
    (b.step setup event).2.Sound setup := by
  cases event with
  | acts fate => exact h.act hadmissible
  | calls ceilingUsd call => exact h.calls ceilingUsd call hadmissible
  | dies =>
      simp only [Batch.step]
      split
      · exact h
      · exact h.dies

theorem sound_start (setup : Setup) (ledger : StoredLedger) :
    (Batch.start ledger).Sound setup :=
  Batch.Books.sound ⟨ledger.2, List.nodup_nil, by simp [Batch.start], by simp [Batch.start]⟩
    rfl ⟨[], rfl, rfl, rfl⟩ ⟨rfl, by simp [Clear, Batch.start]⟩ rfl rfl trivial

end Runs

section Spent

variable {setup : Setup} {b : Batch}

theorem actual_le {ledger : List CostLedgerRow} {scored : Scored}
    (h : scored.Agrees setup ledger) :
    scored.record.actualUsd.getD 0 ≤ (runCostTotals ledger scored.runId).actualUsd := by
  rw [h.actual]
  split
  · exact le_refl _
  · simp only [runCostTotals, Cost.actual_eq_sum]
    exact List.sum_nonneg (by simpa using fun row _ => Cost.actual_nonneg row)

theorem Batch.Books.spent (h : b.Books setup) :
    (b.records.map fun scored => scored.record.reservedUsd).sum ≤
        applicationWideSpendUsd b.ledger ∧
      (b.records.map fun scored => scored.record.actualUsd.getD 0).sum ≤
        applicationWideSpendUsd b.ledger := by
  obtain ⟨hreserved, hactual⟩ := Cost.runs_le_spend h.distinct b.ledger
  rw [List.map_map] at hreserved hactual
  constructor
  · refine le_trans (le_of_eq ?_) hreserved
    exact congrArg List.sum (List.map_congr_left fun scored hscored =>
      (h.agrees scored hscored).reserved)
  · refine le_trans ?_ hactual
    exact List.sum_le_sum fun scored hscored => actual_le (h.agrees scored hscored)

end Spent

section Durable

structure Batch.Durable (setup : Setup) (b : Batch) : Prop where
  accounted : Accounted b.lab b.runs
  restored : ∀ result, b.phase = .ended result → b.Restored
  saved : b.saves setup b.records ∨ b.phase.unsaved = true ∧ b.saves setup b.records.dropLast
  halted : Clear b.records.dropLast
  aborted : ∀ reason, b.phase = .ended (.error (.aborted reason)) →
    b.saves setup b.records ∧ b.records.getLast?.bind Scored.abort = some reason
  agrees : ∀ scored ∈ b.records, scored.Agrees setup b.ledger
  spent : (b.records.map fun scored => scored.record.reservedUsd).sum ≤
      applicationWideSpendUsd b.ledger ∧
    (b.records.map fun scored => scored.record.actualUsd.getD 0).sum ≤
      applicationWideSpendUsd b.ledger
  summary : b.files "summary.json" = none ∨
    ∃ summary, b.Summed summary ∧ b.files "summary.json" = some (setup.summaryJson summary)
  returned : b.phase = .ended (.ok ()) → b.saves setup b.records ∧ Clear b.records ∧
    ∃ summary, b.Summed summary ∧ b.files "summary.json" = some (setup.summaryJson summary)

theorem Batch.Sound.durable {setup : Setup} {b : Batch} (h : b.Sound setup) :
    b.Durable setup where
  accounted := standing_accounted h.standing
  restored := by
    intro result hphase
    have hstanding := (h.at hphase).1
    cases result with
    | error e => exact hstanding.2
    | ok value =>
        obtain ⟨done, hdone, -⟩ := hstanding
        exact hdone.restored
  saved := (kept_saved h.kept).1
  halted := (kept_saved h.kept).2
  aborted := by
    intro reason hphase
    obtain ⟨hsaves, -, hlast⟩ := (h.at hphase).2.1
    exact ⟨hsaves, hlast⟩
  agrees := h.books.agrees
  spent := h.books.spent
  summary := summarized_whole h.summarized
  returned := by
    intro hphase
    obtain ⟨-, ⟨hsaves, hclear⟩, hsummarized, -⟩ := h.at hphase
    exact ⟨hsaves, hclear, hsummarized⟩

/-- Whatever raises, and whenever the process dies: the records are those of the first runs of
the plan, in its order; all of them are on disk but possibly the newest, which is missing only
while it is being saved or when that has failed; every scenario but the last is reset before the
next is started; nothing follows a record that stops the batch; what the records show is what
the ledger shows of their runs; and a summary is that of the whole plan. -/
theorem batch_durable (setup : Setup) (ledger : StoredLedger) (events : List Event)
    (hadmits : Machine.Admits (Batch.step setup) Batch.Admissible (Batch.start ledger) events) :
    (Machine.run (Batch.step setup) (Batch.start ledger) events).2.Durable setup := by
  have hstep : ∀ (b : Batch) (event : Event), b.Sound setup → b.Admissible event →
      (b.step setup event).2.Sound setup := fun _ _ h hadmissible => h.step hadmissible
  exact (Machine.run_invariant hstep events _ (sound_start setup ledger) hadmits).durable

instance (b : Batch) (event : Event) : Decidable (b.Admissible event) :=
  match event with
  | .acts fate => inferInstanceAs (Decidable (∀ runId ∈ runIdFromEvents fate.events, _))
  | .dies => isTrue trivial
  | .calls _ call => inferInstanceAs (Decidable (call.key.runId ∉ b.closed))

def sampleSetup : Setup where
  reading := Cost.labReading
  tools := ⟨"", "", le_refl _⟩
  budgets := Cost.resolveBudgets 2
  ceilingUsd := 100
  json := fun record => record.runKey
  summaryJson := fun _ => ""

def emptyLedger : StoredLedger := ⟨[], Rows.keyed_nil _⟩

def expiredReport : InvestigationReport where
  investigationId := "inv"
  incidentId := "inc"
  disposition := .failedSafe
  rootCause := .undetermined
  assessment := none
  reasonCode := some .wallClockExpired
  budgets := Cost.resolveBudgets 2
  versions := currentVersions
  startedAt := 0
  finishedAt := 0
  latencyMs := 0
  modelCallsUsed := 0
  repairsUsed := 0
  toolsExecuted := 0
  invalidResponses := 0
  usage := none
  finalContextDigest := ""
  evidenceIds := []
  receiptIds := []
  retrievalMode := .disabled
  runbookPassageIds := []
  limitations := []
  escalation := none
  coherent := by decide

def sampleFate : Fate where
  error := none
  written := none
  incident := "inc"
  expected := ⟨.undetermined, .insufficientEvidence, []⟩
  settled := .finished ⟨expiredReport, [], []⟩
  events := []
  modelName := "model"
  fresh := ControlPlane.tokenC

/-- Another run reserves; the first run of the batch expires, its record is saved, and the
batch resets the scenario and aborts. -/
def expiring : List Event :=
  [.acts sampleFate, .acts sampleFate, .acts sampleFate, .acts sampleFate,
    .calls (some 5) (.record ⟨"elsewhere", "investigate", 1, "digest"⟩ (some 1) 0),
    .acts { sampleFate with events := [⟨1, .created, .investigationStarted "inc" "run"⟩] },
    .calls (some 5) (.record ⟨"elsewhere", "investigate", 2, "digest"⟩ (some 1) 0),
    .acts sampleFate, .acts sampleFate, .acts sampleFate, .acts sampleFate, .acts sampleFate,
    .acts sampleFate]

theorem expiring_admitted :
    Machine.Admits (Batch.step sampleSetup) Batch.Admissible (Batch.start emptyLedger) expiring := by
  decide +kernel

theorem batch_durable_expiring :
    Machine.Admits (Batch.step sampleSetup) Batch.Admissible (Batch.start emptyLedger) expiring ∧
      (Machine.run (Batch.step sampleSetup) (Batch.start emptyLedger) expiring).2.Durable sampleSetup :=
  ⟨expiring_admitted, batch_durable sampleSetup emptyLedger expiring expiring_admitted⟩

def Phase.abortedFor : Phase → Option ReasonCode
  | .ended (.error (.aborted reason)) => some reason
  | _ => none

example : (Machine.run (Batch.step sampleSetup) (Batch.start emptyLedger) expiring).2.phase.abortedFor =
    some .wallClockExpired := by
  decide +kernel

end Durable

end CausalOps.Evaluation
