import CausalOps.ControlPlane.Types
import CausalOps.Library.Machine

set_option autoImplicit false

/-! `finalize_investigation`, file operation by file operation: five artifacts are staged in a
directory that is named by the investigation alone, which is then renamed into place. -/

namespace CausalOps.Results

section Directory

abbrev Files := String → Option String

def Files.put (files : Files) (name content : String) : Files :=
  fun other => if other = name then some content else files other

def Files.remove (files : Files) (name : String) : Files :=
  fun other => if other = name then none else files other

/-- A directory keeps its identity when it is renamed, and open files stay in it. -/
structure Dir where
  ident : Nat
  files : Files

def Dir.put (dir : Dir) (name content : String) : Dir :=
  { dir with files := dir.files.put name content }

def Dir.remove (dir : Dir) (name : String) : Dir :=
  { dir with files := dir.files.remove name }

/-- `results/investigations/<id>`, its staging directory, and how many directories have been
made. -/
structure Root where
  target : Option Dir
  staging : Option Dir
  made : Nat

/-- A write through an open file, wherever its directory is by now. -/
def Root.writeAt (r : Root) (ident : Nat) (name content : String) : Root :=
  let write (dir : Dir) : Dir := if dir.ident = ident then dir.put name content else dir
  { r with target := r.target.map write, staging := r.staging.map write }

/-- `unlink(missing_ok=True)` below the staging path. -/
def Root.unlink (r : Root) (name : String) : Root :=
  { r with staging := r.staging.map (Dir.remove · name) }

inductive FinalizeError where
  | alreadyFinalized
  | os
  deriving DecidableEq, Repr

/-- The file operations of `finalize_investigation`. An `opens` truncates; `unlinks` says that
the file is the temporary one of a `write_jsonl`. -/
inductive FileOp where
  | check
  | mkdir
  | opens (name : String) (unlinks : Bool)
  | writes (name content : String) (unlinks : Bool)
  | replace (source name : String)
  | rename
  deriving DecidableEq, Repr

/-- What the `except` clause around the operation unlinks. -/
def FileOp.temporary : FileOp → Option String
  | .opens name true => some name
  | .writes name _ true => some name
  | .replace source _ => some source
  | _ => none

/-- One operation, with the directory of the file that is open. -/
def FileOp.exec (op : FileOp) (r : Root) (handle : Option Nat) :
    Except FinalizeError (Root × Option Nat) :=
  match op with
  | .check => if r.target.isSome then .error .alreadyFinalized else .ok (r, handle)
  | .mkdir =>
      match r.staging with
      | some _ => .ok (r, handle)
      | none =>
          .ok ({ r with staging := some ⟨r.made, fun _ => none⟩, made := r.made + 1 }, handle)
  | .opens name _ =>
      match r.staging with
      | none => .error .os
      | some dir => .ok ({ r with staging := some (dir.put name "") }, some dir.ident)
  | .writes name content _ =>
      match handle with
      | none => .error .os
      | some ident => .ok (r.writeAt ident name content, none)
  | .replace source name =>
      match r.staging with
      | none => .error .os
      | some dir =>
          match dir.files source with
          | none => .error .os
          | some content =>
              .ok ({ r with staging := some ((dir.remove source).put name content) }, handle)
  | .rename =>
      match r.staging, r.target with
      | none, _ => .error .os
      | some dir, none => .ok ({ r with target := some dir, staging := none }, handle)
      -- A directory replaces an empty directory only, and a target has files.
      | some _, some _ => .error .os

end Directory

open ControlPlane (Uuid)

section Calls

/-- What one call writes, and the ids that its three `write_jsonl` calls draw. -/
structure Artifacts where
  reportJson : String
  reportMarkdown : String
  events : String
  evidence : String
  receipts : String
  eventsFresh : Uuid
  evidenceFresh : Uuid
  receiptsFresh : Uuid

def temporaryName (name : String) (fresh : Uuid) : String := name ++ ".tmp-" ++ fresh.hex

def writeText (name content : String) (unlinks : Bool) : List FileOp :=
  [.opens name unlinks, .writes name content unlinks]

def writeJsonl (name content : String) (fresh : Uuid) : List FileOp :=
  writeText (temporaryName name fresh) content true ++
    [.replace (temporaryName name fresh) name]

/-- `finalize_investigation` after its check and its `mkdir`. -/
def Artifacts.staged (a : Artifacts) : List FileOp :=
  writeText "report.json" a.reportJson false ++
    writeText "report.md" a.reportMarkdown false ++
    writeJsonl "events.jsonl" a.events a.eventsFresh ++
    writeJsonl "evidence.jsonl" a.evidence a.evidenceFresh ++
    writeJsonl "receipts.jsonl" a.receipts a.receiptsFresh ++ [.rename]

def Artifacts.operations (a : Artifacts) : List FileOp := .check :: .mkdir :: a.staged

/-- The five artifacts of a call, and nothing else. -/
def Artifacts.files (a : Artifacts) : Files := fun name =>
  if name = "report.json" then some a.reportJson
  else if name = "report.md" then some a.reportMarkdown
  else if name = "events.jsonl" then some a.events
  else if name = "evidence.jsonl" then some a.evidence
  else if name = "receipts.jsonl" then some a.receipts
  else none

inductive Progress where
  | running (rest : List FileOp) (handle : Option Nat)
  | unlinking (name : String) (e : FinalizeError)
  | placed
  | raised (e : FinalizeError)
  | crashed

/-- Calls of `finalize_investigation` for one investigation, by number. -/
structure Calls where
  root : Root
  progress : Nat → Progress

def Calls.start (artifacts : Nat → Artifacts) (root : Root) : Calls :=
  ⟨root, fun call => .running (artifacts call).operations none⟩

def Calls.goto (c : Calls) (call : Nat) (root : Root) (progress : Progress) : Calls :=
  ⟨root, fun other => if other = call then progress else c.progress other⟩

/-- A call makes its next file operation, or its process dies where it is. -/
inductive CallEvent where
  | acts (call : Nat)
  | crashes (call : Nat)

def Calls.step (c : Calls) : CallEvent → Calls
  | .acts call =>
      match c.progress call with
      | .running (op :: rest) handle =>
          match op.exec c.root handle with
          | .ok (root, handle) =>
              c.goto call root (if rest.isEmpty then .placed else .running rest handle)
          | .error e =>
              match op.temporary with
              | some name => c.goto call c.root (.unlinking name e)
              | none => c.goto call c.root (.raised e)
      | .unlinking name e => c.goto call (c.root.unlink name) (.raised e)
      | _ => c
  | .crashes call =>
      match c.progress call with
      | .running _ _ | .unlinking _ _ => c.goto call c.root .crashed
      | _ => c

def Calls.answer (c : Calls) (event : CallEvent) : Unit × Calls := ((), c.step event)

def Calls.run (c : Calls) (events : List CallEvent) : Calls :=
  (Machine.run Calls.answer c events).2

end Calls

section Sound

/-- The target is absent or holds one call's artifacts, and a call that has ended has placed
its own or raised `RESULT_ALREADY_FINALIZED`. -/
structure Calls.Sound (artifacts : Nat → Artifacts) (c : Calls) : Prop where
  target : c.root.target = none ∨ ∃ call dir, c.root.target = some dir ∧
    c.progress call = .placed ∧ dir.files = (artifacts call).files
  placed : ∀ call, c.progress call = .placed →
    ∃ dir, c.root.target = some dir ∧ dir.files = (artifacts call).files
  raised : ∀ call e, c.progress call = .raised e → e = .alreadyFinalized

def Progress.inside : Progress → Bool
  | .running (.check :: _) _ => false
  | .running _ _ | .unlinking _ _ => true
  | _ => false

def Calls.Alone (c : Calls) (call : Nat) : Prop :=
  ∀ other, other ≠ call → (c.progress other).inside = false

def artifactNames : List String :=
  ["report.json", "report.md", "events.jsonl", "evidence.jsonl", "receipts.jsonl"]

def Root.Tidy (r : Root) : Prop :=
  ∀ dir, r.staging = some dir → ∀ name, dir.files name ≠ none → name ∈ artifactNames

/-- A call goes beyond its check only while no other one is beyond its own, and enters a
staging directory only when that has no temporary file in it. -/
def Calls.Orderly (c : Calls) : CallEvent → Prop
  | .acts call =>
      match c.progress call with
      | .running (.check :: _) _ => True
      | .running (.mkdir :: _) _ => c.Alone call ∧ c.root.Tidy
      | .running _ _ => c.Alone call
      | _ => True
  | .crashes _ => True

/-- The operations succeed in the staging directory and leave a call's artifacts in it. -/
def Finishes (a : Artifacts) (ident : Nat) : List FileOp → Option Nat → Files → Prop
  | [.rename], _, files => files = a.files
  | .opens name _ :: rest, _, files => Finishes a ident rest (some ident) (files.put name "")
  | .writes name content _ :: rest, handle, files =>
      handle = some ident ∧ Finishes a ident rest none (files.put name content)
  | .replace source name :: rest, handle, files =>
      ∃ content, files source = some content ∧
        Finishes a ident rest handle ((files.remove source).put name content)
  | _, _, _ => False

inductive Stands (a : Artifacts) (root : Root) : List FileOp → Option Nat → Prop
  | waiting : Stands a root a.operations none
  | checked (hfree : root.target = none) : Stands a root (.mkdir :: a.staged) none
  | staging {rest : List FileOp} {handle : Option Nat} {dir : Dir}
      (hfree : root.target = none) (hstaging : root.staging = some dir)
      (hrest : Finishes a dir.ident rest handle dir.files) : Stands a root rest handle

structure Calls.Kept (artifacts : Nat → Artifacts) (c : Calls) : Prop where
  sound : c.Sound artifacts
  running : ∀ call rest handle, c.progress call = .running rest handle →
    Stands (artifacts call) c.root rest handle
  unlinking : ∀ call name e, c.progress call ≠ .unlinking name e

section Staging

variable {a : Artifacts}

theorem temporaryName_ne_of_length {name other : String} (fresh : Uuid)
    (h : other.length < 32) : temporaryName name fresh ≠ other := by
  intro heq
  have hlength := congrArg String.length heq
  simp only [temporaryName, String.length_append, fresh.wellFormed.1] at hlength
  omega

theorem temporaryName_not_mem (name : String) (fresh : Uuid) :
    temporaryName name fresh ∉ artifactNames := by
  intro hmem
  have hshort : ∀ other ∈ artifactNames, other.length < 32 := by decide
  exact temporaryName_ne_of_length fresh (hshort _ hmem) rfl

/-- From a tidy directory the staging leaves the artifacts, whatever was in the files. -/
theorem finishes_staged {ident : Nat} {files : Files}
    (htidy : ∀ name, files name ≠ none → name ∈ artifactNames) :
    Finishes a ident a.staged none files := by
  have hevents := temporaryName_not_mem "events.jsonl" a.eventsFresh
  have hevidence := temporaryName_not_mem "evidence.jsonl" a.evidenceFresh
  have hreceipts := temporaryName_not_mem "receipts.jsonl" a.receiptsFresh
  simp only [artifactNames, List.mem_cons, List.not_mem_nil, or_false, not_or]
    at hevents hevidence hreceipts
  simp only [Artifacts.staged, writeText, writeJsonl, List.cons_append, List.nil_append,
    Finishes, true_and]
  refine ⟨a.events, by simp [Files.put], a.evidence, by simp [Files.put], a.receipts,
    by simp [Files.put], ?_⟩
  funext name
  by_cases hmem : name ∈ artifactNames
  · -- None of the temporary names is that of an artifact.
    simp only [artifactNames, List.mem_cons, List.not_mem_nil, or_false] at hmem
    rcases hmem with rfl | rfl | rfl | rfl | rfl <;>
      simp_all [Files.put, Files.remove, Artifacts.files, eq_comm]
  · have hnone : files name = none := not_not.1 (mt (htidy name) hmem)
    simp only [artifactNames, List.mem_cons, List.not_mem_nil, or_false, not_or] at hmem
    simp only [Artifacts.files, hmem, if_false, Files.put, Files.remove, hnone]
    split <;> simp_all

end Staging

section Step

variable {artifacts : Nat → Artifacts} {c : Calls} {call : Nat}

@[simp] theorem goto_self (root : Root) (p : Progress) :
    (c.goto call root p).progress call = p := if_pos rfl

theorem goto_other {other : Nat} (h : other ≠ call) (root : Root) (p : Progress) :
    (c.goto call root p).progress other = c.progress other := if_neg h

@[simp] theorem goto_root (root : Root) (p : Progress) : (c.goto call root p).root = root := rfl

theorem Finishes.inside {a : Artifacts} {ident : Nat} {rest : List FileOp} {handle : Option Nat}
    {files : Files} (h : Finishes a ident rest handle files) :
    (Progress.running rest handle).inside = true := by
  cases rest with
  | nil => cases h
  | cons op rest => cases op <;> first | rfl | cases h

/-- While a call is alone beyond its check, the others have not made theirs. -/
theorem Calls.Kept.others_stand (h : c.Kept artifacts) (halone : c.Alone call) {other : Nat}
    (hother : other ≠ call) {rest : List FileOp} {handle : Option Nat}
    (hrunning : c.progress other = .running rest handle) (root : Root) :
    Stands (artifacts other) root rest handle := by
  have houtside := halone other hother
  rw [hrunning] at houtside
  cases h.running other rest handle hrunning with
  | waiting => exact .waiting
  | checked hfree => cases houtside
  | staging hfree hstaging hrest =>
      rw [hrest.inside] at houtside
      cases houtside

theorem Calls.Kept.not_placed (h : c.Kept artifacts) (hfree : c.root.target = none)
    (other : Nat) : c.progress other ≠ .placed := by
  intro hplaced
  obtain ⟨dir, htarget, _⟩ := h.sound.placed other hplaced
  rw [hfree] at htarget
  cases htarget

theorem goto_cases {root : Root} {p q : Progress} {other : Nat}
    (h : (c.goto call root p).progress other = q) :
    other = call ∧ p = q ∨ other ≠ call ∧ c.progress other = q := by
  by_cases heq : other = call
  · subst heq
    rw [goto_self] at h
    exact .inl ⟨rfl, h⟩
  · rw [goto_other heq] at h
    exact .inr ⟨heq, h⟩

theorem Calls.Kept.stop (h : c.Kept artifacts) {rest : List FileOp} {handle : Option Nat}
    (hrunning : c.progress call = .running rest handle) {p : Progress}
    (hp : p = .crashed ∨ p = .raised .alreadyFinalized) :
    (c.goto call c.root p).Kept artifacts := by
  refine ⟨⟨?_, ?_, ?_⟩, ?_, ?_⟩
  · rcases h.sound.target with hfree | ⟨placer, dir, htarget, hplaced, hfiles⟩
    · exact .inl hfree
    · refine .inr ⟨placer, dir, htarget, ?_, hfiles⟩
      rw [goto_other (by rintro rfl; rw [hrunning] at hplaced; cases hplaced)]
      exact hplaced
  · intro other hplaced
    obtain ⟨_, rfl⟩ | ⟨_, hplaced⟩ := goto_cases hplaced
    · rcases hp with hp | hp <;> cases hp
    · exact h.sound.placed other hplaced
  · intro other e hraised
    obtain ⟨_, rfl⟩ | ⟨_, hraised⟩ := goto_cases hraised
    · rcases hp with hp | hp <;> cases hp
      rfl
    · exact h.sound.raised other e hraised
  · intro other rest handle hother
    obtain ⟨_, rfl⟩ | ⟨_, hother⟩ := goto_cases hother
    · rcases hp with hp | hp <;> cases hp
    · exact h.running other rest handle hother
  · intro other name e hother
    obtain ⟨_, rfl⟩ | ⟨_, hother⟩ := goto_cases hother
    · rcases hp with hp | hp <;> cases hp
    · exact h.unlinking other name e hother

theorem Calls.Kept.go (h : c.Kept artifacts) (hfree : c.root.target = none) {root : Root}
    (hothers : ∀ other rest handle, other ≠ call → c.progress other = .running rest handle →
      Stands (artifacts other) root rest handle)
    (hroot : root.target = none) {rest : List FileOp} {handle : Option Nat}
    (hstands : Stands (artifacts call) root rest handle) :
    (c.goto call root (.running rest handle)).Kept artifacts := by
  refine ⟨⟨.inl hroot, ?_, ?_⟩, ?_, ?_⟩
  · intro other hplaced
    obtain ⟨_, hp⟩ | ⟨_, hplaced⟩ := goto_cases hplaced
    · cases hp
    · exact absurd hplaced (h.not_placed hfree other)
  · intro other e hraised
    obtain ⟨_, hp⟩ | ⟨_, hraised⟩ := goto_cases hraised
    · cases hp
    · exact h.sound.raised other e hraised
  · intro other rest' handle' hrunning
    obtain ⟨rfl, hp⟩ | ⟨hne, hrunning⟩ := goto_cases hrunning
    · cases hp
      exact hstands
    · exact hothers other rest' handle' hne hrunning
  · intro other name e hunlinking
    obtain ⟨_, hp⟩ | ⟨_, hunlinking⟩ := goto_cases hunlinking
    · cases hp
    · exact h.unlinking other name e hunlinking

theorem Calls.Kept.place (h : c.Kept artifacts) (hfree : c.root.target = none)
    (hwait : c.Alone call) {root : Root} {dir : Dir} (hroot : root.target = some dir)
    (hfiles : dir.files = (artifacts call).files) :
    (c.goto call root .placed).Kept artifacts := by
  refine ⟨⟨.inr ⟨call, dir, hroot, goto_self root _, hfiles⟩, ?_, ?_⟩, ?_, ?_⟩
  · intro other hplaced
    obtain ⟨rfl, _⟩ | ⟨_, hplaced⟩ := goto_cases hplaced
    · exact ⟨dir, hroot, hfiles⟩
    · exact absurd hplaced (h.not_placed hfree other)
  · intro other e hraised
    obtain ⟨_, hp⟩ | ⟨_, hraised⟩ := goto_cases hraised
    · cases hp
    · exact h.sound.raised other e hraised
  · intro other rest handle hrunning
    obtain ⟨_, hp⟩ | ⟨hne, hrunning⟩ := goto_cases hrunning
    · cases hp
    · exact h.others_stand hwait hne hrunning root
  · intro other name e hunlinking
    obtain ⟨_, hp⟩ | ⟨_, hunlinking⟩ := goto_cases hunlinking
    · cases hp
    · exact h.unlinking other name e hunlinking

theorem Calls.Kept.stage (h : c.Kept artifacts) (hwait : c.Alone call) {op : FileOp}
    {rest : List FileOp} {handle : Option Nat} {dir : Dir}
    (hrunning : c.progress call = .running (op :: rest) handle)
    (hfree : c.root.target = none) (hstaging : c.root.staging = some dir)
    (hrest : Finishes (artifacts call) dir.ident (op :: rest) handle dir.files) :
    (c.step (.acts call)).Kept artifacts := by
  have hmore : ∀ {ident : Nat} {handle : Option Nat} {files : Files},
      Finishes (artifacts call) ident rest handle files → rest.isEmpty = false := by
    intro ident handle files hfinishes
    cases rest with
    | nil => cases hfinishes
    | cons op rest => rfl
  have hothers : ∀ (root : Root) other rest handle, other ≠ call →
      c.progress other = .running rest handle → Stands (artifacts other) root rest handle :=
    fun root other rest handle hne hother => h.others_stand hwait hne hother root
  cases op with
  | check | mkdir => cases hrest
  | opens name unlinks =>
      simp only [Finishes] at hrest
      simp only [Calls.step, hrunning, FileOp.exec, hstaging, hmore hrest, Bool.false_eq_true,
        if_false]
      refine h.go hfree (hothers _) ?_ (.staging ?_ rfl hrest)
      · exact hfree
      · exact hfree
  | writes name content unlinks =>
      obtain ⟨rfl, hrest⟩ := hrest
      have htarget : (c.root.writeAt dir.ident name content).target = none := by
        simp [Root.writeAt, hfree]
      have hwritten : (c.root.writeAt dir.ident name content).staging =
          some (dir.put name content) := by simp [Root.writeAt, hstaging]
      simp only [Calls.step, hrunning, FileOp.exec, hmore hrest, Bool.false_eq_true, if_false]
      exact h.go hfree (hothers _) htarget (.staging htarget hwritten hrest)
  | replace source name =>
      obtain ⟨content, hsource, hrest⟩ := hrest
      simp only [Calls.step, hrunning, FileOp.exec, hstaging, hsource, hmore hrest,
        Bool.false_eq_true, if_false]
      refine h.go hfree (hothers _) ?_ (.staging ?_ rfl hrest)
      · exact hfree
      · exact hfree
  | rename =>
      cases rest with
      | cons op rest => cases hrest
      | nil =>
          simp only [Calls.step, hrunning, FileOp.exec, hstaging, hfree, List.isEmpty_nil, if_true]
          exact h.place hfree hwait rfl hrest

theorem Calls.Kept.enter (h : c.Kept artifacts) (hwait : c.Alone call) (htidy : c.root.Tidy)
    (hrunning : c.progress call = .running (.mkdir :: (artifacts call).staged) none)
    (hfree : c.root.target = none) : (c.step (.acts call)).Kept artifacts := by
  have hothers : ∀ (root : Root) other rest handle, other ≠ call →
      c.progress other = .running rest handle → Stands (artifacts other) root rest handle :=
    fun root other rest handle hne hother => h.others_stand hwait hne hother root
  have hmore : (artifacts call).staged.isEmpty = false := rfl
  cases hstaging : c.root.staging with
  | some dir =>
      simp only [Calls.step, hrunning, FileOp.exec, hstaging, hmore, Bool.false_eq_true, if_false]
      exact h.go hfree (hothers _) hfree
        (.staging hfree hstaging (finishes_staged (htidy dir hstaging)))
  | none =>
      simp only [Calls.step, hrunning, FileOp.exec, hstaging, hmore, Bool.false_eq_true, if_false]
      refine h.go hfree (hothers _) ?_ (.staging ?_ rfl (finishes_staged ?_))
      · exact hfree
      · exact hfree
      · exact fun name hname => absurd rfl hname

theorem Calls.Kept.step (h : c.Kept artifacts) (event : CallEvent) (hok : c.Orderly event) :
    (c.step event).Kept artifacts := by
  cases event with
  | crashes call =>
      simp only [Calls.step]
      cases hp : c.progress call with
      | running rest handle => exact h.stop hp (.inl rfl)
      | unlinking name e => exact absurd hp (h.unlinking call name e)
      | placed | raised e | crashed => exact h
  | acts call =>
      cases hp : c.progress call with
      | unlinking name e => exact absurd hp (h.unlinking call name e)
      | placed | raised e | crashed => simpa only [Calls.step, hp] using h
      | running rest handle =>
          have hstands := h.running call rest handle hp
          cases hstands with
          | waiting =>
              cases hfree : c.root.target with
              | some dir =>
                  simp only [Calls.step, hp, Artifacts.operations, FileOp.exec, hfree,
                    Option.isSome_some, if_true, FileOp.temporary]
                  exact h.stop hp (.inr rfl)
              | none =>
                  simp only [Calls.step, hp, Artifacts.operations, FileOp.exec, hfree,
                    Option.isSome_none, Bool.false_eq_true, if_false, List.isEmpty_cons]
                  exact h.go hfree (fun other rest handle _ => h.running other rest handle) hfree
                    (.checked hfree)
          | checked hfree =>
              simp only [Calls.Orderly, hp] at hok
              exact h.enter hok.1 hok.2 hp hfree
          | staging hfree hstaging hrest =>
              cases rest with
              | nil => cases hrest
              | cons op rest =>
                  have hwait : c.Alone call := by
                    simp only [Calls.Orderly, hp] at hok
                    cases op with
                    | check | mkdir => cases hrest
                    | opens | writes | replace | rename => exact hok
                  exact h.stage hwait hp hfree hstaging hrest

end Step

end Sound

section Finalize

theorem Calls.start_kept (artifacts : Nat → Artifacts) {root : Root} (habsent : root.target = none) :
    (Calls.start artifacts root).Kept artifacts where
  sound := ⟨.inl habsent, fun _ h => (by cases h), fun _ _ h => (by cases h)⟩
  running := by
    intro call rest handle hrunning
    cases hrunning
    exact .waiting
  unlinking := by
    intro call name e hunlinking
    cases hunlinking

/-- Whatever an earlier call has left in the staging directory, an orderly run keeps the
target absent or whole. -/
theorem finalize_atomic (artifacts : Nat → Artifacts) (root : Root)
    (habsent : root.target = none) (events : List CallEvent)
    (horderly : Machine.Admits Calls.answer Calls.Orderly (Calls.start artifacts root) events) :
    ((Calls.start artifacts root).run events).Sound artifacts := by
  have hstep : ∀ (c : Calls) event, c.Kept artifacts → c.Orderly event →
      (c.answer event).2.Kept artifacts := fun c event h hok => h.step event hok
  exact (Machine.run_invariant hstep events _ (Calls.start_kept artifacts habsent) horderly).sound

def noResults : Root := ⟨none, none, 0⟩

def settledTwice (call : Nat) : Artifacts where
  reportJson := if call = 0 then "first" else "second"
  reportMarkdown := ""
  events := ""
  evidence := ""
  receipts := ""
  eventsFresh := ControlPlane.jobA
  evidenceFresh := ControlPlane.jobA
  receiptsFresh := ControlPlane.jobA

/-- A retry enters the staging directory that a call left when it died. -/
theorem finalize_atomic_retry :
    ((Calls.start settledTwice noResults).run
      [.acts 0, .acts 0, .acts 0, .acts 1, .crashes 0, .acts 1, .acts 1]).Sound settledTwice := by
  refine finalize_atomic settledTwice noResults rfl _
    ⟨trivial, ⟨?_, ?_⟩, ?_, trivial, trivial, ⟨?_, ?_⟩, ?_, trivial⟩
  · rintro (_ | other) hother
    · exact absurd rfl hother
    · rfl
  · rintro dir hstaging
    cases hstaging
  · rintro (_ | other) hother
    · exact absurd rfl hother
    · rfl
  · rintro (_ | _ | other) hother
    · rfl
    · exact absurd rfl hother
    · rfl
  · rintro dir hstaging name hname
    cases hstaging
    by_cases hreport : name = "report.json"
    · simp [artifactNames, hreport]
    · exact absurd (if_neg hreport) hname
  · rintro (_ | _ | other) hother
    · rfl
    · exact absurd rfl hother
    · rfl

/-- Both calls find no target; the one that is late loses the directory under it. -/
def lateRename : List CallEvent :=
  [.acts 0, .acts 1] ++ List.replicate 15 (.acts 0) ++ List.replicate 15 (.acts 1)

theorem finalize_interleaved :
    ¬ ∀ events, ((Calls.start settledTwice noResults).run events).Sound settledTwice := by
  intro h
  have hraised : ((Calls.start settledTwice noResults).run lateRename).progress 1 =
      .raised .os := rfl
  cases (h lateRename).raised 1 .os hraised

end Finalize

end CausalOps.Results
