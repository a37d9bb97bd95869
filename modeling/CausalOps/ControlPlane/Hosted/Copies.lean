import CausalOps.ControlPlane.Hosted
import CausalOps.ControlPlane.Sqlite.Progress

set_option autoImplicit false

/-! The copies of a report: the published directory, the bucket, the control plane's snapshot and
what is handed out of it agree, wherever the process has died. -/

namespace CausalOps.ControlPlane.Hosted

open Sqlite
open Results (Artifacts Files FileOp FinalizeError Root artifactNames)

section Staging

variable {artifacts : Artifacts} {root : Root} {op : FileOp} {rest : List FileOp}
  {handle : Option ℕ}

/-- The files that an attempt has been given, whatever else is beside them. -/
def Holds (artifacts : Artifacts) (files : Files) : Prop :=
  ∀ name ∈ artifactNames, files name = artifacts.files name

/-- The operations succeed in the staging directory and leave the artifacts in it. -/
def Leaves (artifacts : Artifacts) (ident : ℕ) : List FileOp → Option ℕ → Files → Prop
  | [.rename], _, files => Holds artifacts files
  | .opens name _ :: rest, _, files =>
      Leaves artifacts ident rest (some ident) (Results.Files.put files name "")
  | .writes name content _ :: rest, handle, files =>
      handle = some ident ∧ Leaves artifacts ident rest none (Results.Files.put files name content)
  | .replace source name :: rest, handle, files =>
      ∃ content, files source = some content ∧ Leaves artifacts ident rest handle
        (Results.Files.put (Results.Files.remove files source) name content)
  | _, _, _ => False

inductive Stages (artifacts : Artifacts) (root : Root) : List FileOp → Option ℕ → Prop
  | waiting : Stages artifacts root artifacts.operations none
  | checked (hfree : root.target = none) : Stages artifacts root (.mkdir :: artifacts.staged) none
  | staging {rest : List FileOp} {handle : Option ℕ} {dir : Results.Dir}
      (hfree : root.target = none) (hstaging : root.staging = some dir)
      (hrest : Leaves artifacts dir.ident rest handle dir.files) :
      Stages artifacts root rest handle

/-- The staging leaves the artifacts, whatever an earlier attempt has left there. -/
theorem leaves_staged (artifacts : Artifacts) (ident : ℕ) (files : Files) :
    Leaves artifacts ident artifacts.staged none files := by
  have hevents := Results.temporaryName_not_mem "events.jsonl" artifacts.eventsFresh
  have hevidence := Results.temporaryName_not_mem "evidence.jsonl" artifacts.evidenceFresh
  have hreceipts := Results.temporaryName_not_mem "receipts.jsonl" artifacts.receiptsFresh
  simp only [artifactNames, List.mem_cons, List.not_mem_nil, or_false, not_or]
    at hevents hevidence hreceipts
  simp only [Artifacts.staged, Results.writeText, Results.writeJsonl, List.cons_append,
    List.nil_append, Leaves, true_and]
  refine ⟨artifacts.events, by simp [Results.Files.put], artifacts.evidence,
    by simp [Results.Files.put], artifacts.receipts, by simp [Results.Files.put], ?_⟩
  intro name hmem
  -- None of the temporary names is that of an artifact.
  simp only [artifactNames, List.mem_cons, List.not_mem_nil, or_false] at hmem
  rcases hmem with rfl | rfl | rfl | rfl | rfl <;>
    simp_all [Results.Files.put, Results.Files.remove, Artifacts.files, eq_comm]

/-- One operation of the staging: it is refused when there are results already, and else it goes
on or publishes the artifacts. -/
inductive Staged (artifacts : Artifacts) (root : Root) (rest : List FileOp) :
    Except FinalizeError (Root × Option ℕ) → Prop
  | refused {dir : Results.Dir} (htarget : root.target = some dir) :
      Staged artifacts root rest (.error .alreadyFinalized)
  | goes {after : Root} {handle : Option ℕ} (hbefore : root.target = none)
      (hfree : after.target = none) (hmore : rest.isEmpty = false)
      (hstages : Stages artifacts after rest handle) : Staged artifacts root rest (.ok (after, handle))
  | published {after : Root} {handle : Option ℕ} {dir : Results.Dir} (hbefore : root.target = none)
      (hdone : rest.isEmpty = true) (htarget : after.target = some dir)
      (hholds : Holds artifacts dir.files) : Staged artifacts root rest (.ok (after, handle))

theorem leaves_more {ident : ℕ} {files : Files} (h : Leaves artifacts ident rest handle files) :
    rest.isEmpty = false := by
  cases rest with
  | nil => cases h
  | cons op rest => rfl

theorem staged_leaves {dir : Results.Dir} (hfree : root.target = none)
    (hstaging : root.staging = some dir)
    (h : Leaves artifacts dir.ident (op :: rest) handle dir.files) :
    Staged artifacts root rest (op.exec root handle) := by
  cases op with
  | check | mkdir => cases h
  | opens name unlinks =>
      simp only [Leaves] at h
      simp only [FileOp.exec, hstaging]
      exact .goes hfree hfree (leaves_more h) (.staging hfree rfl h)
  | writes name content unlinks =>
      obtain ⟨rfl, hrest⟩ := h
      have htarget : (root.writeAt dir.ident name content).target = none := by
        simp [Root.writeAt, hfree]
      have hwritten : (root.writeAt dir.ident name content).staging =
          some (dir.put name content) := by simp [Root.writeAt, hstaging]
      exact .goes hfree htarget (leaves_more hrest) (.staging htarget hwritten hrest)
  | replace source name =>
      obtain ⟨content, hsource, hrest⟩ := h
      simp only [FileOp.exec, hstaging, hsource]
      exact .goes hfree hfree (leaves_more hrest) (.staging hfree rfl hrest)
  | rename =>
      cases rest with
      | cons op rest => cases h
      | nil =>
          simp only [FileOp.exec, hstaging, hfree]
          exact .published hfree rfl rfl h

theorem stages_step (h : Stages artifacts root (op :: rest) handle) :
    Staged artifacts root rest (op.exec root handle) := by
  generalize hall : op :: rest = all at h
  cases h with
  | waiting =>
      cases hall
      cases htarget : root.target with
      | some dir =>
          simp only [FileOp.exec, htarget, Option.isSome_some, if_true]
          exact .refused htarget
      | none =>
          simp only [FileOp.exec, htarget, Option.isSome_none, Bool.false_eq_true, if_false]
          exact .goes htarget htarget rfl (.checked htarget)
  | checked hfree =>
      cases hall
      cases hstaging : root.staging with
      | some dir =>
          simp only [FileOp.exec, hstaging]
          exact .goes hfree hfree rfl (.staging hfree hstaging (leaves_staged _ _ _))
      | none =>
          simp only [FileOp.exec, hstaging]
          exact .goes hfree hfree rfl (.staging hfree rfl (leaves_staged _ _ _))
  | staging hfree hstaging hrest =>
      subst hall
      exact staged_leaves hfree hstaging hrest

end Staging

section Paths

/-- Two texts that agree have the same part after the last slash, and the same before it. -/
theorem split_last {before before' name name' : List Char} (h : '/' ∉ name) (h' : '/' ∉ name')
    (heq : before ++ '/' :: name = before' ++ '/' :: name') : before = before' ∧ name = name' := by
  have htake : ∀ (before : List Char) {name : List Char}, '/' ∉ name →
      (before ++ '/' :: name).reverse.takeWhile (fun c => decide (c ≠ '/')) = name.reverse := by
    intro before name hname
    have hother : ∀ c ∈ name.reverse, decide (c ≠ '/') = true := by
      intro c hc
      simp only [decide_eq_true_eq]
      rintro rfl
      exact hname (List.mem_reverse.1 hc)
    rw [List.reverse_append, List.reverse_cons, List.append_assoc,
      List.takeWhile_append_of_pos hother]
    simp
  have hnames : name = name' := by
    rw [← List.reverse_inj, ← htake before h, heq, htake before' h']
  subst hnames
  exact ⟨List.append_cancel_right heq, rfl⟩

theorem objectPath_injective {id id' name name' : String} (h : name ∈ artifactNames)
    (h' : name' ∈ artifactNames) (heq : objectPath id name = objectPath id' name') :
    id = id' ∧ name = name' := by
  have hplain : ∀ name ∈ artifactNames, '/' ∉ name.toList := by decide
  have htext := congrArg String.toList heq
  simp only [objectPath, String.toList_append, List.append_assoc] at htext
  obtain ⟨hid, hname⟩ := split_last (hplain name h) (hplain name' h')
    (List.append_cancel_left htext)
  exact ⟨String.toList_inj.1 hid, String.toList_inj.1 hname⟩

theorem upload_other {bucket : String → Option String} {path content other : String}
    (h : other ≠ path) : upload bucket path content other = bucket other := if_neg h

theorem upload_self (bucket : String → Option String) (path content : String) :
    upload bucket path content path = (bucket path).or (some content) := if_pos rfl

end Paths

section Kept

variable {s : Settings} {uploads : Bool} {h : Host} {attempt : Attempt}

/-- What is known of an attempt: its artifacts came from a run of the graph, and what it is to
upload is what is read of the published. -/
def Standing (h : Host) (attempt : Attempt) : Prop :=
  match attempt.phase with
  | .staging rest handle => ∃ artifacts,
      (attempt.claim.investigationId, GraphRun.finished artifacts) ∈ h.graphs ∧
        Stages artifacts (h.results attempt.claim.investigationId) rest handle
  | .uploading rest => ∀ entry ∈ rest, entry.1 ∈ artifactNames ∧
      h.copy attempt.claim.investigationId entry.1 = some entry.2
  | _ => True

structure Host.Kept (s : Settings) (h : Host) : Prop where
  governed : Governed s h.store.control
  published : ∀ id dir, (h.results id).target = some dir →
    ∃ artifacts, (id, GraphRun.finished artifacts) ∈ h.graphs ∧ Holds artifacts dir.files
  uploaded : ∀ id, ∀ name ∈ artifactNames, ∀ content,
    h.bucket (objectPath id name) = some content → h.copy id name = some content
  recorded : ∀ entry ∈ reports h.store.control, ∀ content, entry.2 = some content →
    h.text entry.1 "report.md" = some content
  standing : ∀ attempt, h.attempt = some attempt → Standing h attempt

/-- What is published and what is uploaded stays as it is, and so do the runs of the graph. -/
structure Later (h after : Host) : Prop where
  results : ∀ id dir, (h.results id).target = some dir → (after.results id).target = some dir
  bucket : ∀ path content, h.bucket path = some content → after.bucket path = some content
  graphs : h.graphs <+: after.graphs

theorem Later.refl (h : Host) : Later h h :=
  ⟨fun _ _ htarget => htarget, fun _ _ hbucket => hbucket, List.prefix_refl _⟩

theorem Later.trans {middle after : Host} (hfirst : Later h middle) (hsecond : Later middle after) :
    Later h after :=
  ⟨fun id dir htarget => hsecond.results id dir (hfirst.results id dir htarget),
    fun path content hbucket => hsecond.bucket path content (hfirst.bucket path content hbucket),
    hfirst.graphs.trans hsecond.graphs⟩

@[simp] theorem setResults_self (h : Host) (id : String) (root : Root) :
    (h.setResults id root).results id = root := if_pos rfl

theorem Later.text {after : Host} (hlater : Later h after) {id name content : String}
    (htext : h.text id name = some content) : after.text id name = some content := by
  obtain ⟨dir, htarget, hfile⟩ := Option.bind_eq_some_iff.1 htext
  exact Option.bind_eq_some_iff.2 ⟨dir, hlater.results id dir htarget, hfile⟩

theorem Later.copy {after : Host} (hlater : Later h after) {id name content : String}
    (hcopy : h.copy id name = some content) : after.copy id name = some content := by
  obtain ⟨text, htext, rfl⟩ := Option.map_eq_some_iff.1 hcopy
  exact Option.map_eq_some_iff.2 ⟨text, hlater.text htext, rfl⟩

structure Carried (s : Settings) (h after : Host) : Prop where
  kept : after.Kept s
  later : Later h after

theorem host_start_kept (s : Settings) : Host.start.Kept s where
  governed := governed_empty
  published := by
    intro id dir htarget
    cases htarget
  uploaded := by
    intro id name hname content hobject
    cases hobject
  recorded := by
    intro entry hentry
    cases hentry
  standing := by
    intro attempt hattempt
    cases hattempt

theorem Host.Kept.attempting (hkept : h.Kept s) {next : Option Attempt}
    (hstanding : ∀ attempt, next = some attempt → Standing h attempt) :
    { h with attempt := next }.Kept s :=
  ⟨hkept.governed, hkept.published, hkept.uploaded, hkept.recorded, hstanding⟩

theorem Carried.attempting {after : Host} (hcarried : Carried s h after) {next : Option Attempt}
    (hstanding : ∀ attempt, next = some attempt → Standing after attempt) :
    Carried s h { after with attempt := next } :=
  ⟨hcarried.kept.attempting hstanding,
    ⟨hcarried.later.results, hcarried.later.bucket, hcarried.later.graphs⟩⟩

theorem Carried.goto {after : Host} (hcarried : Carried s h after) (attempt : Attempt)
    {phase : Phase} (hstanding : Standing after { attempt with phase := phase }) :
    Carried s h (after.goto attempt phase) :=
  hcarried.attempting fun next hnext => by
    cases hnext
    exact hstanding

theorem Carried.idle {after : Host} (hcarried : Carried s h after) :
    Carried s h { after with attempt := none } :=
  hcarried.attempting fun _ hattempt => by cases hattempt

theorem Host.Kept.carried (hkept : h.Kept s) : Carried s h h := ⟨hkept, .refl h⟩

theorem Host.Kept.restaged (hkept : h.Kept s) {id : String} {root : Root}
    (htarget : root.target = (h.results id).target) :
    Carried s h { h.setResults id root with attempt := none } := by
  have hresults : ∀ other, ((h.setResults id root).results other).target =
      (h.results other).target := by
    intro other
    by_cases hother : other = id
    · subst hother
      rw [← htarget]
      exact congrArg Root.target (if_pos rfl)
    · exact congrArg Root.target (if_neg hother)
  have htext : ∀ other name, (h.setResults id root).text other name = h.text other name := by
    intro other name
    rw [Host.text, hresults other]
    rfl
  refine ⟨⟨hkept.governed, ?_, ?_, ?_, ?_⟩, ⟨?_, ?_, List.prefix_refl _⟩⟩
  · intro other dir hother
    exact hkept.published other dir ((hresults other).symm.trans hother)
  · intro other name hname content hobject
    exact (congrArg (Option.map readText) (htext other name)).trans
      (hkept.uploaded other name hname content hobject)
  · intro entry hentry content hcontent
    exact (htext entry.1 _).trans (hkept.recorded entry hentry content hcontent)
  · intro attempt hattempt
    cases hattempt
  · exact fun other dir hother => (hresults other).trans hother
  · exact fun path content hobject => hobject

theorem Host.Kept.publish (hkept : h.Kept s) {id : String} {root : Root} {dir : Results.Dir}
    {artifacts : Artifacts} (hfree : (h.results id).target = none)
    (htarget : root.target = some dir) (hholds : Holds artifacts dir.files)
    (hgraph : (id, GraphRun.finished artifacts) ∈ h.graphs) :
    Carried s h { h.setResults id root with attempt := none } := by
  have hself : (h.setResults id root).results id = root := if_pos rfl
  have hother : ∀ other, other ≠ id → (h.setResults id root).results other = h.results other :=
    fun other hne => if_neg hne
  have hresults : ∀ other dir, (h.results other).target = some dir →
      ((h.setResults id root).results other).target = some dir := by
    intro other found hfound
    have hne : other ≠ id := by
      rintro rfl
      rw [hfree] at hfound
      cases hfound
    rw [hother other hne]
    exact hfound
  have hlater : Later h (h.setResults id root) :=
    ⟨hresults, fun _ _ hobject => hobject, List.prefix_refl _⟩
  refine ⟨⟨hkept.governed, ?_, ?_, ?_, ?_⟩, ⟨hlater.results, hlater.bucket, hlater.graphs⟩⟩
  · intro other found hfound
    by_cases hsame : other = id
    · subst hsame
      replace hfound : root.target = some found := by
        rw [← hself]
        exact hfound
      rw [htarget] at hfound
      cases hfound
      exact ⟨artifacts, hgraph, hholds⟩
    · refine hkept.published other found ?_
      rw [← hother other hsame]
      exact hfound
  · intro other name hname content hobject
    exact hlater.copy (hkept.uploaded other name hname content hobject)
  · intro entry hentry content hcontent
    exact hlater.text (hkept.recorded entry hentry content hcontent)
  · intro attempt hattempt
    cases hattempt

theorem Host.Kept.uploading (hkept : h.Kept s) {id name content : String}
    (hname : name ∈ artifactNames) (hcopy : h.copy id name = some content) :
    Carried s h
      { h with bucket := upload h.bucket (objectPath id name) content, attempt := none } := by
  refine ⟨⟨hkept.governed, hkept.published, ?_, hkept.recorded, ?_⟩,
    ⟨fun _ _ htarget => htarget, ?_, List.prefix_refl _⟩⟩
  · intro other found hfound text hobject
    replace hobject : upload h.bucket (objectPath id name) content (objectPath other found) =
      some text := hobject
    by_cases hpath : objectPath other found = objectPath id name
    · obtain ⟨rfl, rfl⟩ := objectPath_injective hfound hname hpath
      rw [upload_self] at hobject
      cases hbucket : h.bucket (objectPath other found) with
      | none =>
          rw [hbucket] at hobject
          cases hobject
          exact hcopy
      | some stored =>
          rw [hbucket] at hobject
          cases hobject
          exact hkept.uploaded other found hfound _ hbucket
    · rw [upload_other hpath] at hobject
      exact hkept.uploaded other found hfound text hobject
  · intro attempt hattempt
    cases hattempt
  · intro path stored hstored
    by_cases hpath : path = objectPath id name
    · subst hpath
      exact (upload_self _ _ _).trans (by rw [hstored]; rfl)
    · exact (upload_other hpath).trans hstored

theorem Host.Kept.call (hkept : h.Kept s) (a : Ambient) (call : Call) :
    Carried s h (h.call s a call).2 := by
  refine ⟨⟨step_governed hkept.governed _, hkept.published, hkept.uploaded, ?_, hkept.standing⟩,
    ⟨fun _ _ htarget => htarget, fun _ _ hobject => hobject, List.prefix_refl _⟩⟩
  intro entry hentry content hcontent
  rcases step_reports hkept.governed.keys (h.ambient a call) call with
    hsame | hnew | ⟨id, artifact, token, read, rfl, hread, hwritten⟩
  · exact hkept.recorded entry (hsame ▸ hentry) content hcontent
  · rcases List.mem_append.1 (hnew ▸ hentry) with hold | hfresh
    · exact hkept.recorded entry hold content hcontent
    · rw [List.mem_singleton.1 hfresh] at hcontent
      cases hcontent
  · obtain ⟨old, hold, rfl⟩ := List.mem_map.1 (hwritten ▸ hentry)
    have hfile : h.text id "report.md" = some read := by
      replace hread : h.reportFile id a.reportFile = .ok read := hread
      simp only [Host.reportFile] at hread
      split at hread
      · cases hread
      · rename_i htext
        cases hread
        exact htext
      · cases hread
    split at hcontent
    · rename_i hid
      rw [if_pos hid]
      cases hcontent
      exact hfile
    · rename_i hid
      rw [if_neg hid]
      exact hkept.recorded old hold content hcontent

theorem collect_mem {id : String} {entries : List (String × String)}
    (hcollect : h.collect id = some entries) :
    ∀ entry ∈ entries, entry.1 ∈ artifactNames ∧ h.copy id entry.1 = some entry.2 := by
  rw [Host.collect] at hcollect
  generalize artifactNames = names at hcollect ⊢
  induction names generalizing entries with
  | nil =>
      cases hcollect
      intro entry hentry
      cases hentry
  | cons name rest ih =>
      rw [List.mapM_cons] at hcollect
      obtain ⟨first, hfirst, hcollect⟩ := Option.bind_eq_some_iff.1 hcollect
      obtain ⟨others, hothers, hcollect⟩ := Option.bind_eq_some_iff.1 hcollect
      cases hcollect
      intro entry hentry
      rcases List.mem_cons.1 hentry with rfl | hrest
      · obtain ⟨content, hcontent, rfl⟩ := Option.map_eq_some_iff.1 hfirst
        exact ⟨List.mem_cons_self, hcontent⟩
      · obtain ⟨hname, hcopy⟩ := ih hothers entry hrest
        exact ⟨List.mem_cons_of_mem _ hname, hcopy⟩

theorem Host.Kept.act (hkept : h.Kept s) (hattempt : h.attempt = some attempt) :
    Carried s h (h.act uploads attempt) := by
  have hstanding := hkept.standing attempt hattempt
  obtain ⟨claim, phase⟩ := attempt
  cases phase with
  | looking =>
      refine hkept.carried.goto _ ?_
      split <;> trivial
  | investigating => exact hkept.carried
  | staging rest handle =>
      obtain ⟨artifacts, hgraph, hstages⟩ := hstanding
      cases rest with
      | nil => exact hkept.carried.goto _ trivial
      | cons op rest =>
          have hstaged := stages_step hstages
          simp only [Host.act]
          cases hexec : op.exec (h.results claim.investigationId) handle with
          | error e =>
              refine (hkept.restaged ?_).goto _ trivial
              cases op.temporary <;> rfl
          | ok result =>
              rw [hexec] at hstaged
              cases hstaged with
              | goes hbefore hfree hmore hstages =>
                  simp only [hmore, Bool.false_eq_true, if_false]
                  refine (hkept.restaged (hfree.trans hbefore.symm)).goto _ ?_
                  refine ⟨artifacts, hgraph, ?_⟩
                  change Stages artifacts ((h.setResults _ _).results _) _ _
                  rw [setResults_self]
                  exact hstages
              | published hbefore hdone htarget hholds =>
                  simp only [hdone, if_true]
                  exact (hkept.publish hbefore htarget hholds hgraph).goto _ trivial
  | collecting =>
      simp only [Host.act]
      split
      · split
        · exact hkept.carried.goto _ trivial
        · rename_i entries hcollect
          refine hkept.carried.goto _ ?_
          exact collect_mem hcollect
      · exact hkept.carried.goto _ trivial
  | uploading rest =>
      cases rest with
      | nil => exact hkept.carried.goto _ trivial
      | cons entry rest =>
          obtain ⟨hname, hcopy⟩ := hstanding entry List.mem_cons_self
          refine (hkept.uploading hname hcopy).goto _ ?_
          exact fun other hother => hstanding other (List.mem_cons_of_mem _ hother)
  | ending outcome => exact hkept.carried

theorem Host.Kept.partly (hkept : h.Kept s) (hattempt : h.attempt = some attempt) (left : Files)
    (reached : Bool) : Carried s h { h.partly attempt left reached with attempt := none } := by
  have hstanding := hkept.standing attempt hattempt
  obtain ⟨claim, phase⟩ := attempt
  cases phase with
  | staging rest handle => exact hkept.restaged rfl
  | uploading rest =>
      cases rest with
      | nil => exact hkept.carried.idle
      | cons entry rest =>
          obtain ⟨hname, hcopy⟩ := hstanding entry List.mem_cons_self
          cases reached with
          | false => exact hkept.carried.idle
          | true => exact hkept.uploading hname hcopy
  | looking => exact hkept.carried.idle
  | investigating => exact hkept.carried.idle
  | collecting => exact hkept.carried.idle
  | ending outcome => exact hkept.carried.idle

theorem Host.Kept.finish (hkept : h.Kept s) (attempt : Attempt) (run : GraphRun) :
    Carried s h (h.finish attempt run) := by
  have hgrown : Carried s h { h with
      graphs := h.graphs ++ [(attempt.claim.investigationId, run)], attempt := none } := by
    refine ⟨⟨hkept.governed, ?_, hkept.uploaded, hkept.recorded, ?_⟩,
      ⟨fun _ _ htarget => htarget, fun _ _ hobject => hobject, List.prefix_append _ _⟩⟩
    · intro id dir htarget
      obtain ⟨artifacts, hgraph, hholds⟩ := hkept.published id dir htarget
      exact ⟨artifacts, List.mem_append_left _ hgraph, hholds⟩
    · intro attempt hattempt
      cases hattempt
  cases run with
  | raised errorName => exact hgrown.goto attempt trivial
  | paused checkpointId => exact hgrown.goto attempt trivial
  | finished artifacts =>
      refine hgrown.goto attempt ⟨artifacts, ?_, .waiting⟩
      exact List.mem_append_right _ (List.mem_singleton.2 rfl)

theorem Host.Kept.report (hkept : h.Kept s) (attempt : Attempt)
    (outcome : Except String WorkerOutcome) (a : Ambient) :
    Carried s h (h.report s attempt outcome a) := by
  cases outcome with
  | error errorName => exact (hkept.call a _).idle
  | ok outcome =>
      have hcalled := hkept.call a (endingCall attempt.claim outcome)
      simp only [Host.report]
      split
      · rename_i after hcall
        rw [hcall] at hcalled
        exact hcalled.idle
      · rename_i e after hcall
        rw [hcall] at hcalled
        exact hcalled.goto attempt trivial

theorem Host.Kept.claims (hkept : h.Kept s) (a : Ambient) (hattempt : h.attempt = none) :
    Carried s h (h.step s uploads (.claims a)) := by
  have hcalled := hkept.call a .claimNext
  simp only [Host.step, hattempt]
  split
  · rename_i claim after hcall
    rw [hcall] at hcalled
    exact hcalled.attempting fun next hnext => by
      cases hnext
      trivial
  · rename_i after hcall
    rw [hcall] at hcalled
    exact hcalled

theorem Host.Kept.step (hkept : h.Kept s) (uploads : Bool) (event : Event) :
    Carried s h (h.step s uploads event) := by
  cases event with
  | incident incident =>
      cases incident with
      | call a call => exact hkept.call a call
      | ledger rows =>
          exact ⟨⟨hkept.governed, hkept.published, hkept.uploaded, hkept.recorded, hkept.standing⟩,
            ⟨fun _ _ htarget => htarget, fun _ _ hobject => hobject, List.prefix_refl _⟩⟩
  | claims a =>
      cases hattempt : h.attempt with
      | none => exact hkept.claims a hattempt
      | some attempt =>
          simp only [Host.step, hattempt]
          exact hkept.carried
  | acts =>
      cases hattempt : h.attempt with
      | none =>
          simp only [Host.step, hattempt]
          exact hkept.carried
      | some attempt =>
          simp only [Host.step, hattempt]
          exact hkept.act hattempt
  | graph run =>
      cases hattempt : h.attempt with
      | none =>
          simp only [Host.step, hattempt]
          exact hkept.carried
      | some attempt =>
          simp only [Host.step, hattempt]
          split
          · exact hkept.finish attempt run
          · exact hkept.carried
  | calls a =>
      cases hattempt : h.attempt with
      | none =>
          simp only [Host.step, hattempt]
          exact hkept.carried
      | some attempt =>
          simp only [Host.step, hattempt]
          split
          · exact hkept.report attempt _ a
          · exact hkept.carried
  | blinks =>
      cases hattempt : h.attempt with
      | none =>
          simp only [Host.step, hattempt]
          exact hkept.carried
      | some attempt =>
          simp only [Host.step, hattempt]
          split
          · exact hkept.carried.goto attempt trivial
          · exact hkept.carried
  | fails errorName left reached =>
      cases hattempt : h.attempt with
      | none =>
          simp only [Host.step, hattempt]
          exact hkept.carried
      | some attempt =>
          simp only [Host.step, hattempt]
          split
          · exact hkept.carried
          · exact hkept.carried.idle
          · exact (hkept.partly hattempt left reached).goto attempt trivial
  | dies left reached =>
      cases hattempt : h.attempt with
      | none =>
          simp only [Host.step, hattempt]
          exact hkept.carried
      | some attempt =>
          simp only [Host.step, hattempt]
          exact hkept.partly hattempt left reached

theorem Host.Kept.run (hkept : h.Kept s) (uploads : Bool) (events : List Event) :
    Carried s h (h.run s uploads events) := by
  induction events generalizing h with
  | nil => exact hkept.carried
  | cons event rest ih =>
      have hstep := hkept.step uploads event
      have hrest := ih hstep.kept
      exact ⟨hrest.kept, hstep.later.trans hrest.later⟩

end Kept

section Copies

variable {s : Settings} {uploads : Bool} {h : Host}

/-- Every copy of a report is what is published, and that came from a run of the graph. The
object of an artifact is its text with the newlines that `read_text` gives it. -/
structure Host.Agrees (s : Settings) (h : Host) : Prop where
  published : ∀ id dir, (h.results id).target = some dir →
    ∃ artifacts, (id, GraphRun.finished artifacts) ∈ h.graphs ∧ Holds artifacts dir.files
  uploaded : ∀ id, ∀ name ∈ artifactNames, ∀ content,
    h.bucket (objectPath id name) = some content → ∃ text, h.text id name = some text ∧
      content = readText text ∧ ('\r' ∉ text.toList → content = text)
  recorded : ∀ row ∈ h.store.control.jobs, ∀ content, row.reportContent = some content →
    h.text row.id "report.md" = some content
  shown : ∀ a owner id content, (h.call s a (.report owner id)).1 = .ok (.report content) →
    h.text id "report.md" = some content
  delivered : ∀ a claim, (h.call s a .claimDelivery).1 = .ok (.delivery (some claim)) →
    h.text claim.deliveryId "report.md" = some claim.reportContent

theorem Host.Kept.recorded_row (hkept : h.Kept s) {row : JobRow} (hrow : row ∈ h.store.control.jobs)
    {content : String} (hcontent : row.reportContent = some content) :
    h.text row.id "report.md" = some content :=
  hkept.recorded (row.id, row.reportContent) (List.mem_map_of_mem hrow) content hcontent

theorem report_stored {db db' : Database} {owner id content : String}
    (hreport : Sqlite.report s owner id db = .ok (.report content, db')) :
    ∃ row ∈ db.jobs, row.id = id ∧ row.reportContent = some content := by
  simp only [Sqlite.report, bind, Except.bind] at hreport
  split at hreport
  · cases hreport
  rename_i row howned
  obtain ⟨hmem, hid, -⟩ := owned_ok howned
  split at hreport
  · cases hreport
  rename_i text htext
  cases hreport
  refine ⟨row, hmem, hid, ?_⟩
  simp only [reportText] at htext
  split at htext
  · cases htext
  split at htext
  · cases htext
  split at htext
  · cases htext
  split at htext
  · rename_i stored digest hstored hdigest
    split at htext
    · cases htext
    split at htext
    · cases htext
    · cases htext
      exact hstored
  · cases htext

theorem Host.Kept.agrees (hkept : h.Kept s) : h.Agrees s where
  published := hkept.published
  uploaded := by
    intro id name hname content hobject
    obtain ⟨text, htext, rfl⟩ :=
      Option.map_eq_some_iff.1 (hkept.uploaded id name hname content hobject)
    exact ⟨text, htext, rfl, readText_of_plain⟩
  recorded := fun row hrow content hcontent => hkept.recorded_row hrow hcontent
  shown := by
    intro a owner id content hanswer
    obtain ⟨middle, hbody⟩ := step_committed hanswer
    rw [body, run_lift] at hbody
    obtain ⟨row, hmem, rfl, hcontent⟩ := report_stored (Prod.mk.inj hbody).1
    exact hkept.recorded_row hmem hcontent
  delivered := by
    intro a claim hanswer
    have hcalled := hkept.call a .claimDelivery
    have hhanded : claim ∈ Outbox.handedOut s h.store (.call a .claimDelivery) := by
      simp only [Outbox.handedOut]
      replace hanswer : (Sqlite.step s h.store (a, .claimDelivery)).1 =
        Except.ok (.delivery (some claim)) := hanswer
      rw [hanswer]
      exact List.mem_singleton.2 rfl
    obtain ⟨job, hrecorded⟩ := Outbox.handedOut_recorded hkept.governed _ hhanded
    obtain ⟨row, hrow, rfl⟩ := Option.map_eq_some_iff.1 hrecorded.stored
    have htext := hcalled.kept.recorded_row (job_mem hrow) hrecorded.content
    rw [job_id hrow] at htext
    exact htext

end Copies

section Once

variable {s : Settings} {uploads : Bool} {h : Host} {attempt : Attempt}

/-- An attempt that runs the graph, or stages what came of it, has found no results. -/
def Clear (h : Host) (attempt : Attempt) : Prop :=
  match attempt.phase with
  | .investigating | .staging _ _ => (h.results attempt.claim.investigationId).target = none
  | _ => True

def Host.Unpublished (h : Host) : Prop := ∀ attempt, h.attempt = some attempt → Clear h attempt

theorem unpublished_goto {phase : Phase} (hclear : Clear h { attempt with phase := phase }) :
    (h.goto attempt phase).Unpublished := by
  intro next hnext
  cases hnext
  exact hclear

theorem unpublished_idle (h : Host) : { h with attempt := none }.Unpublished := by
  intro next hnext
  cases hnext

theorem Host.Kept.unread (hkept : h.Kept s) {id : String} (hnone : h.text id "report.md" = none) :
    (h.results id).target = none := by
  cases htarget : (h.results id).target with
  | none => rfl
  | some dir =>
      obtain ⟨artifacts, -, hholds⟩ := hkept.published id dir htarget
      have hfile : dir.files "report.md" = some artifacts.reportMarkdown := by
        rw [hholds "report.md" (by decide)]
        rfl
      rw [Host.text, htarget, Option.bind_some, hfile] at hnone
      cases hnone

theorem act_unpublished (hkept : h.Kept s) (hattempt : h.attempt = some attempt)
    (hfree : h.Unpublished) : (h.act uploads attempt).Unpublished := by
  have hstanding := hkept.standing attempt hattempt
  obtain ⟨claim, phase⟩ := attempt
  cases phase with
  | looking =>
      refine unpublished_goto ?_
      split
      · trivial
      · rename_i hnone
        exact hkept.unread (Option.not_isSome_iff_eq_none.1 hnone)
  | staging rest handle =>
      obtain ⟨artifacts, hgraph, hstages⟩ := hstanding
      cases rest with
      | nil => exact unpublished_goto trivial
      | cons op rest =>
          have hstaged := stages_step hstages
          simp only [Host.act]
          cases hexec : op.exec (h.results claim.investigationId) handle with
          | error e => exact unpublished_goto trivial
          | ok result =>
              rw [hexec] at hstaged
              cases hstaged with
              | goes hbefore hafter hmore hstages =>
                  simp only [hmore, Bool.false_eq_true, if_false]
                  refine unpublished_goto ?_
                  change ((h.setResults _ _).results _).target = none
                  rw [setResults_self]
                  exact hafter
              | published hbefore hdone htarget hholds =>
                  simp only [hdone, if_true]
                  exact unpublished_goto trivial
  | collecting =>
      simp only [Host.act]
      split
      · split <;> exact unpublished_goto trivial
      · exact unpublished_goto trivial
  | uploading rest =>
      cases rest with
      | nil => exact unpublished_goto trivial
      | cons entry rest => exact unpublished_goto trivial
  | investigating => exact hfree
  | ending outcome => exact hfree

theorem report_unpublished (attempt : Attempt) (outcome : Except String WorkerOutcome)
    (a : Ambient) : (h.report s attempt outcome a).Unpublished := by
  cases outcome with
  | error errorName => exact unpublished_idle _
  | ok outcome =>
      simp only [Host.report]
      split
      · exact unpublished_idle _
      · exact unpublished_goto trivial

theorem step_unpublished (uploads : Bool) (hkept : h.Kept s) (hfree : h.Unpublished) {event : Event}
    (hblinks : event ≠ .blinks) : (h.step s uploads event).Unpublished := by
  cases hattempt : h.attempt with
  | none =>
      cases event with
      | incident incident => cases incident <;> exact hfree
      | claims a =>
          simp only [Host.step, hattempt]
          split
          · intro next hnext
            cases hnext
            trivial
          · rename_i after _ hcall
            have hsame : after = (h.call s a .claimNext).2 := by rw [hcall]
            rw [hsame]
            exact hfree
      | _ =>
          simp only [Host.step, hattempt]
          exact hfree
  | some attempt =>
      cases event with
      | incident incident => cases incident <;> exact hfree
      | claims a =>
          simp only [Host.step, hattempt]
          exact hfree
      | acts =>
          simp only [Host.step, hattempt]
          exact act_unpublished hkept hattempt hfree
      | graph run =>
          simp only [Host.step, hattempt]
          split
          · rename_i hphase
            have hclear := hfree attempt hattempt
            rw [Clear, hphase] at hclear
            cases run with
            | raised errorName => exact unpublished_goto trivial
            | paused checkpointId => exact unpublished_goto trivial
            | finished artifacts => exact unpublished_goto hclear
          · exact hfree
      | calls a =>
          simp only [Host.step, hattempt]
          split
          · exact report_unpublished attempt _ a
          · exact hfree
      | blinks => exact absurd rfl hblinks
      | fails errorName left reached =>
          simp only [Host.step, hattempt]
          split
          · exact hfree
          · exact unpublished_idle _
          · exact unpublished_goto trivial
      | dies left reached =>
          simp only [Host.step, hattempt]
          exact unpublished_idle _

theorem act_graphs (h : Host) (attempt : Attempt) :
    (h.act uploads attempt).graphs = h.graphs := by
  obtain ⟨claim, phase⟩ := attempt
  cases phase with
  | staging rest handle =>
      cases rest with
      | nil => rfl
      | cons op rest =>
          simp only [Host.act]
          split <;> rfl
  | collecting =>
      simp only [Host.act]
      split
      · split <;> rfl
      · rfl
  | uploading rest => cases rest <;> rfl
  | looking => rfl
  | investigating => rfl
  | ending outcome => rfl

theorem partly_graphs (h : Host) (attempt : Attempt) (left : Files) (reached : Bool) :
    (h.partly attempt left reached).graphs = h.graphs := by
  obtain ⟨claim, phase⟩ := attempt
  cases phase with
  | uploading rest =>
      cases rest with
      | nil => rfl
      | cons entry rest => cases reached <;> rfl
  | looking => rfl
  | investigating => rfl
  | staging rest handle => rfl
  | collecting => rfl
  | ending outcome => rfl

theorem report_graphs (h : Host) (attempt : Attempt) (outcome : Except String WorkerOutcome)
    (a : Ambient) : (h.report s attempt outcome a).graphs = h.graphs := by
  cases outcome with
  | error errorName => rfl
  | ok outcome =>
      have hcalled : (h.call s a (endingCall attempt.claim outcome)).2.graphs = h.graphs := rfl
      simp only [Host.report]
      split
      · rename_i after hcall
        rw [hcall] at hcalled
        exact hcalled
      · rename_i e after hcall
        rw [hcall] at hcalled
        exact hcalled

theorem step_graphs (s : Settings) (uploads : Bool) (h : Host) (event : Event) :
    (h.step s uploads event).graphs = h.graphs ∨ ∃ run attempt, event = .graph run ∧
      h.attempt = some attempt ∧ attempt.phase = .investigating ∧
        (h.step s uploads event).graphs = h.graphs ++ [(attempt.claim.investigationId, run)] := by
  cases hattempt : h.attempt with
  | none =>
      cases event with
      | incident incident => cases incident <;> exact .inl rfl
      | claims a =>
          have hcalled : (h.call s a .claimNext).2.graphs = h.graphs := rfl
          simp only [Host.step, hattempt]
          split
          · rename_i claim after hcall
            rw [hcall] at hcalled
            exact .inl hcalled
          · rename_i after _ hcall
            rw [hcall] at hcalled
            exact .inl hcalled
      | _ =>
          simp only [Host.step, hattempt]
          exact .inl trivial
  | some attempt =>
      cases event with
      | incident incident => cases incident <;> exact .inl rfl
      | claims a =>
          simp only [Host.step, hattempt]
          exact .inl trivial
      | acts =>
          simp only [Host.step, hattempt]
          exact .inl (act_graphs h attempt)
      | graph run =>
          simp only [Host.step, hattempt]
          split
          · rename_i hphase
            refine .inr ⟨run, attempt, rfl, rfl, hphase, ?_⟩
            cases run <;> rfl
          · exact .inl rfl
      | calls a =>
          simp only [Host.step, hattempt]
          split
          · exact .inl (report_graphs h attempt _ a)
          · exact .inl rfl
      | blinks =>
          simp only [Host.step, hattempt]
          split <;> exact .inl rfl
      | fails errorName left reached =>
          simp only [Host.step, hattempt]
          split
          · exact .inl rfl
          · exact .inl rfl
          · exact .inl (partly_graphs h attempt left reached)
      | dies left reached =>
          simp only [Host.step, hattempt]
          exact .inl (partly_graphs h attempt left reached)

def Host.runsOf (h : Host) (id : String) : List (String × GraphRun) :=
  h.graphs.filter fun entry => entry.1 = id

theorem run_unpublished (hkept : h.Kept s) (hfree : h.Unpublished) {events : List Event}
    (hblinks : .blinks ∉ events) : (h.run s uploads events).Unpublished := by
  induction events generalizing h with
  | nil => exact hfree
  | cons event rest ih =>
      simp only [List.mem_cons, not_or] at hblinks
      obtain ⟨hevent, hrest⟩ := hblinks
      have hfree' := step_unpublished uploads hkept hfree (Ne.symm hevent)
      exact ih (hkept.step uploads event).kept hfree' hrest

/-- Once its results are published, the graph is not run again for an investigation. -/
theorem run_once (hkept : h.Kept s) (hfree : h.Unpublished) {id : String}
    (hpublished : (h.results id).target ≠ none) {events : List Event}
    (hblinks : .blinks ∉ events) : (h.run s uploads events).runsOf id = h.runsOf id := by
  induction events generalizing h with
  | nil => rfl
  | cons event rest ih =>
      simp only [List.mem_cons, not_or] at hblinks
      obtain ⟨hevent, hrest⟩ := hblinks
      have hcarried := hkept.step uploads event
      have hafter : ((h.step s uploads event).results id).target ≠ none := by
        obtain ⟨dir, htarget⟩ := Option.ne_none_iff_exists'.1 hpublished
        rw [hcarried.later.results id dir htarget]
        exact Option.some_ne_none dir
      have hsame : (h.step s uploads event).runsOf id = h.runsOf id := by
        rcases step_graphs s uploads h event with
          hsame | ⟨run, attempt, -, hattempt, hphase, hgrown⟩
        · exact congrArg (List.filter _) hsame
        · have hclear := hfree attempt hattempt
          rw [Clear, hphase] at hclear
          have hother : attempt.claim.investigationId ≠ id := by
            rintro rfl
            exact hpublished hclear
          rw [Host.runsOf, hgrown, List.filter_append]
          simp [hother, Host.runsOf]
      have hfree' := step_unpublished uploads hkept hfree (Ne.symm hevent)
      exact (ih hcarried.kept hfree' hafter hrest).trans hsame

/-- Whatever happens on a host and wherever its process dies: every copy of a report is the one
that is published (an object with newlines read as `\n`), what is published and uploaded stays,
and the graph is not run again for it. -/
theorem copies_agree (s : Settings) (uploads : Bool) (events more : List Event) :
    (Host.start.run s uploads events).Agrees s ∧
      Later (Host.start.run s uploads events) (Host.start.run s uploads (events ++ more)) ∧
      (.blinks ∉ events ++ more → ∀ id,
        ((Host.start.run s uploads events).results id).target ≠ none →
          (Host.start.run s uploads (events ++ more)).runsOf id =
            (Host.start.run s uploads events).runsOf id) := by
  have hcarried := (host_start_kept s).run uploads events
  have hrun : Host.start.run s uploads (events ++ more) =
      (Host.start.run s uploads events).run s uploads more := List.foldl_append
  refine ⟨hcarried.kept.agrees, ?_, ?_⟩
  · rw [hrun]
    exact (hcarried.kept.run uploads more).later
  · intro hblinks id hpublished
    simp only [List.mem_append, not_or] at hblinks
    obtain ⟨hevents, hmore⟩ := hblinks
    have hfree : Host.start.Unpublished := by
      intro attempt hattempt
      cases hattempt
    rw [hrun]
    exact run_once hcarried.kept (run_unpublished (host_start_kept s) hfree hevents) hpublished hmore

end Once

end CausalOps.ControlPlane.Hosted
