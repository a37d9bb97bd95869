import CausalOps.Lab.Exclusive

set_option autoImplicit false

/-! What a start that raises leaves behind: its cleanup is meant for what the call itself has
made, and removes the run directory of its id also when that was there before. -/

namespace CausalOps.Lab

section Attempt

variable {site : Site} {disk : Disk} {id : String} {contents : String → String}

/-- One call of `start_scenario` that nobody disturbs; any of its operations may raise. -/
def attempt (site : Site) (disk : Disk) (id : String) (contents : String → String)
    (faults : List (Option Fault)) : World :=
  (World.start disk).run site (.begin 0 .start id contents :: faults.map (.act 0))

def Raised (w : World) : Prop := ∃ proc, w.procs 0 = some proc ∧ proc.phase = .ended true

def Stale (site : Site) (disk : Disk) (marker : Marker) : Prop :=
  ∃ content, marker = .text content ∧ Text.strip content ≠ "" ∧
    site.isDir disk (Text.strip content) = false

/-- The run directories are as they were, and so is the marker, unless it was stale. -/
structure Framed (site : Site) (before after : Disk) : Prop where
  runs : ∀ name files, before.runs name = some files → after.runs name = some files
  marker : ∀ marker, before.marker = some marker →
    after.marker = some marker ∨ Stale site before marker

theorem Framed.refl (disk : Disk) : Framed site disk disk :=
  ⟨fun _ _ h => h, fun _ h => .inl h⟩

end Attempt

section Careful

variable {site : Site} {before : Disk} {id : String} {w : World}

/-- The marker may go: there was none, or a stale one. -/
def Excused (site : Site) (before : Disk) : Prop :=
  ∀ marker, before.marker = some marker → Stale site before marker

/-- Where a start may be, by what it has seen of the marker. -/
def Guarded (site : Site) (before : Disk) : Phase → Prop
  | .startCheck active => Excused site before ∨
      ∃ content, before.marker = some (.text content) ∧ Text.strip content = active
  | .startUnlink | .startCreate | .startWrite | .startUndo | .startLeave | .startBody _
  | .cleanUnlink => Excused site before
  | .resetLock | .resetCheck | .resetRead | .resetUnlink | .resetRemove
  | .releaseLock | .releaseRead | .releaseUnlink => False
  | _ => True

structure Careful (site : Site) (before : Disk) (id : String) (w : World) : Prop where
  others : ∀ name, name ≠ id → w.disk.runs name = before.runs name
  marker : w.disk.marker = before.marker ∨ Excused site before
  proc : ∃ proc, w.procs 0 = some proc ∧ proc.id = id ∧ Guarded site before proc.phase

theorem isDir_mono {disk disk' : Disk} {active : String}
    (hruns : ∀ name, (disk.runs name).isSome = true → (disk'.runs name).isSome = true)
    (h : site.isDir disk' active = false) : site.isDir disk active = false := by
  rw [Bool.eq_false_iff] at h ⊢
  refine fun hdir => h ?_
  unfold Site.isDir at hdir ⊢
  split
  · rename_i halnum
    rw [if_pos halnum] at hdir
    exact hruns active hdir
  · rename_i halnum
    rw [if_neg halnum] at hdir
    exact site.elsewhere_mono disk.runs disk'.runs hruns active hdir

theorem excused_of_none {disk : Disk} (h : disk.marker = none)
    (hmarker : disk.marker = before.marker ∨ Excused site before) : Excused site before := by
  rcases hmarker with hsame | hexcused
  · intro marker hbefore
    rw [← hsame, h] at hbefore
    cases hbefore
  · exact hexcused

/-- What was read is the marker of before the call, so a check that passes finds it stale. -/
theorem excused_of_check {disk : Disk} {active : String}
    (hmono : ∀ name, (before.runs name).isSome = true → (disk.runs name).isSome = true)
    (hnamed : active ≠ "") (hgone : site.isDir disk active = false)
    (h : Guarded site before (.startCheck active)) : Excused site before := by
  rcases h with hexcused | ⟨content, hcontent, hactive⟩
  · exact hexcused
  · intro marker hbefore
    rw [hcontent] at hbefore
    rw [← Option.some.inj hbefore]
    exact ⟨content, rfl, hactive ▸ hnamed, hactive ▸ isDir_mono hmono hgone⟩

theorem excused_of_own {disk : Disk} {content : String} (halnum : site.isalnum id = true)
    (hnone : before.runs id = none) (hcontent : disk.marker = some (.text content))
    (hown : Text.strip content = id) (hmarker : disk.marker = before.marker ∨ Excused site before) :
    Excused site before := by
  rcases hmarker with hsame | hexcused
  · intro marker hbefore
    rw [← hsame, hcontent] at hbefore
    rw [← Option.some.inj hbefore]
    refine ⟨content, rfl, ?_, ?_⟩
    · rw [hown]
      exact site.isalnum_ne _ halnum
    · rw [hown, Site.isDir, if_pos halnum, hnone]
      rfl
  · exact hexcused

theorem marks_excused {phase : Phase} (h : Guarded site before phase)
    (hmarks : phase.marks = true) : Excused site before := by
  cases phase <;> simp_all [Guarded, Phase.marks]

theorem act_guarded {proc : Proc} {disk : Disk} (fault : Option Fault)
    (halnum : site.isalnum proc.id = true) (hnone : before.runs proc.id = none)
    (hothers : ∀ name, name ≠ proc.id → disk.runs name = before.runs name)
    (hmarker : disk.marker = before.marker ∨ Excused site before)
    (h : Guarded site before proc.phase) :
    Guarded site before (site.act proc disk fault).1 := by
  have hmono : ∀ name, (before.runs name).isSome = true → (disk.runs name).isSome = true := by
    intro name hname
    by_cases hid : name = proc.id
    · rw [hid, hnone] at hname
      cases hname
    · rw [hothers name hid]
      exact hname
  cases fault with
  | some fault =>
      cases hphase : proc.phase with
      | startBody rest =>
          rw [hphase] at h
          cases rest <;> simp [Site.act, hphase, Guarded]
      | startWrite =>
          rw [hphase] at h
          simp only [Site.act, hphase]
          exact h
      | startCheck active | leave raised | ended raised => simp [Site.act, hphase, Guarded]
      | _ => simp_all [Site.act, Guarded]
  | none =>
      cases hphase : proc.phase with
      | startLoad | startMkdir =>
          simp only [Site.act, hphase]
          split <;> exact trivial
      | startRead =>
          simp only [Site.act, hphase]
          split
          · rename_i hfree
            exact excused_of_none hfree hmarker
          · rename_i content hcontent
            rcases hmarker with hsame | hexcused
            · exact .inr ⟨content, hsame ▸ hcontent, rfl⟩
            · exact .inl hexcused
          · exact trivial
      | startCheck active =>
          rw [hphase] at h
          simp only [Site.act, hphase]
          split
          · exact trivial
          · rename_i hopen
            simp only [Bool.or_eq_true, decide_eq_true_eq, not_or, Bool.not_eq_true] at hopen
            exact excused_of_check hmono hopen.1 hopen.2 h
      | startUnlink | startWrite =>
          rw [hphase] at h
          simp only [Site.act, hphase]
          exact h
      | startCreate =>
          rw [hphase] at h
          simp only [Site.act, hphase]
          split
          · exact h
          · exact trivial
      | startBody rest =>
          rw [hphase] at h
          cases rest with
          | nil => simp [Site.act, hphase, Guarded]
          | cons step rest =>
              simp only [Site.act, hphase]
              cases step with
              | directory =>
                  simp only [Site.bodyStep]
                  split <;> exact h
              | writeExisting path document =>
                  simp only [Site.bodyStep]
                  split
                  · exact trivial
                  · exact h
              | write path document | work => exact h
      | cleanRead =>
          simp only [Site.act, hphase]
          split
          · exact trivial
          · rename_i content hcontent
            split
            · rename_i hown
              exact excused_of_own halnum hnone hcontent (by simpa [Marker.names] using hown)
                hmarker
            · exact trivial
          · exact trivial
      | resetCheck | resetRead | resetUnlink | resetRemove | resetLock | releaseLock
      | releaseRead | releaseUnlink =>
          rw [hphase] at h
          exact h.elim
      | startLeave =>
          rw [hphase] at h
          simp only [Site.act, hphase]
          exact h
      | startLock | startUndo | raisedLeave | cleanLock | cleanUnlink | cleanRemove
      | leave raised | ended raised => simp [Site.act, hphase, Guarded]

theorem careful_place {disk : Disk} {lock : Option Nat} {proc : Proc}
    (hothers : ∀ name, name ≠ id → disk.runs name = before.runs name)
    (hmarker : disk.marker = before.marker ∨ Excused site before) (hid : proc.id = id)
    (hguard : Guarded site before proc.phase) :
    Careful site before id (World.place { w with lock := lock, disk := disk } 0 (some proc)) :=
  ⟨hothers, hmarker, proc, by simp [World.place], hid, hguard⟩

theorem Careful.step (h : Careful site before id w) (halnum : site.isalnum id = true)
    (hnone : before.runs id = none) (fault : Option Fault) :
    Careful site before id (w.step site (.act 0 fault)) := by
  obtain ⟨proc, hproc, rfl, hguard⟩ := h.proc
  simp only [World.step, hproc]
  cases hlocking : proc.phase.locking with
  | some phases =>
      obtain ⟨entered, failed⟩ := phases
      have hphases : Guarded site before entered ∧ Guarded site before failed := by
        revert hlocking hguard
        cases proc.phase <;> simp [Phase.locking, Guarded] <;> rintro rfl rfl <;> simp
      dsimp only
      split
      · exact careful_place h.others h.marker rfl hphases.2
      · exact h
      · exact careful_place h.others h.marker rfl hphases.1
  | none =>
      cases hleaving : proc.phase.leaving with
      | some phases =>
          obtain ⟨left, failed⟩ := phases
          have hphases : Guarded site before left ∧ Guarded site before failed := by
            revert hleaving hguard
            cases proc.phase <;> simp [Phase.leaving, Guarded] <;>
              (intros; subst_vars; simp_all)
          refine careful_place h.others h.marker rfl ?_
          dsimp only
          split
          · exact hphases.2
          · exact hphases.1
      | none =>
          refine careful_place ?_ ?_ rfl
            (act_guarded fault halnum hnone h.others h.marker hguard)
          · intro name hname
            exact (act_runs hname).trans (h.others name hname)
          · cases hmarks : proc.phase.marks with
            | true => exact .inr (marks_excused hguard hmarks)
            | false =>
                have hsame : (site.act proc w.disk fault).2.marker = w.disk.marker :=
                  act_marker hmarks
                rcases h.marker with hbefore | hexcused
                · exact .inl (hsame.trans hbefore)
                · exact .inr hexcused

theorem Careful.run (h : Careful site before id w) (halnum : site.isalnum id = true)
    (hnone : before.runs id = none) (faults : List (Option Fault)) :
    Careful site before id (w.run site (faults.map (.act 0))) := by
  induction faults generalizing w with
  | nil => exact h
  | cons fault rest ih => exact ih (h.step halnum hnone fault)

theorem Careful.framed (h : Careful site before id w) (hnone : before.runs id = none) :
    Framed site before w.disk := by
  constructor
  · intro name files hfiles
    by_cases hid : name = id
    · rw [hid, hnone] at hfiles
      cases hfiles
    · rw [h.others name hid]
      exact hfiles
  · intro marker hbefore
    rcases h.marker with hsame | hexcused
    · exact .inl (hsame.trans hbefore)
    · exact .inr (hexcused marker hbefore)

end Careful

section Blocked

variable {site : Site} {before : Disk} {id : String} {w : World}

def Waits (site : Site) (id : String) : Phase → Prop
  | .startLoad | .ended true => True
  | .startLock | .startMkdir | .raisedLeave | .cleanLock | .cleanRead | .leave true =>
      site.isalnum id = true
  | _ => False

/-- The id is refused, or its directory is there and the cleanup cannot read the marker. -/
def Hindered (site : Site) (before : Disk) (id : String) : Prop :=
  site.isalnum id = false ∨
    (∃ files, before.runs id = some files) ∧ before.marker = some .undecodable

structure Blocked (site : Site) (before : Disk) (id : String) (w : World) : Prop where
  disk : w.disk = before
  proc : ∃ proc, w.procs 0 = some proc ∧ proc.id = id ∧ Waits site id proc.phase

theorem Hindered.stored (h : Hindered site before id) (halnum : site.isalnum id = true) :
    (∃ files, before.runs id = some files) ∧ before.marker = some .undecodable := by
  rcases h with hrefused | hstored
  · rw [hrefused] at halnum
    cases halnum
  · exact hstored

theorem act_waits {proc : Proc} (fault : Option Fault) (hhindered : Hindered site before proc.id)
    (h : Waits site proc.id proc.phase) :
    (site.act proc before fault).2 = before ∧
      Waits site proc.id (site.act proc before fault).1 := by
  cases hphase : proc.phase with
  | startLoad =>
      cases fault with
      | some fault => simp [Site.act, hphase, Waits]
      | none =>
          simp only [Site.act, hphase]
          refine ⟨trivial, ?_⟩
          split
          · assumption
          · exact trivial
  | startMkdir =>
      rw [hphase] at h
      obtain ⟨⟨files, hfiles⟩, -⟩ := hhindered.stored h
      cases fault with
      | some fault =>
          simp only [Site.act, hphase]
          exact ⟨trivial, h⟩
      | none =>
          simp only [Site.act, hphase, hfiles]
          exact ⟨trivial, h⟩
  | cleanRead =>
      rw [hphase] at h
      obtain ⟨-, hmarker⟩ := hhindered.stored h
      cases fault with
      | some fault =>
          simp only [Site.act, hphase]
          exact ⟨trivial, h⟩
      | none =>
          simp only [Site.act, hphase, hmarker]
          exact ⟨trivial, h⟩
  | ended raised =>
      rw [hphase] at h
      cases fault <;> simp only [Site.act, hphase] <;> exact ⟨trivial, h⟩
  | startLock | raisedLeave | cleanLock | leave raised =>
      rw [hphase] at h
      cases fault <;> simp only [Site.act, hphase] <;> exact ⟨trivial, h⟩
  | _ =>
      rw [hphase] at h
      exact h.elim

theorem blocked_place {lock : Option Nat} {proc : Proc} {disk : Disk} (hdisk : disk = before)
    (hid : proc.id = id) (hwaits : Waits site id proc.phase) :
    Blocked site before id (World.place { w with lock := lock, disk := disk } 0 (some proc)) :=
  ⟨hdisk, proc, by simp [World.place], hid, hwaits⟩

theorem Blocked.step (h : Blocked site before id w) (hhindered : Hindered site before id)
    (fault : Option Fault) : Blocked site before id (w.step site (.act 0 fault)) := by
  obtain ⟨proc, hproc, rfl, hwaits⟩ := h.proc
  simp only [World.step, hproc]
  cases hlocking : proc.phase.locking with
  | some phases =>
      obtain ⟨entered, failed⟩ := phases
      have hphases : Waits site proc.id entered ∧ Waits site proc.id failed := by
        revert hlocking hwaits
        cases proc.phase <;> simp [Phase.locking, Waits] <;> rintro halnum rfl rfl <;>
          simp [halnum]
      dsimp only
      split
      · exact blocked_place h.disk rfl hphases.2
      · exact h
      · exact blocked_place h.disk rfl hphases.1
  | none =>
      cases hleaving : proc.phase.leaving with
      | some phases =>
          obtain ⟨left, failed⟩ := phases
          have hphases : Waits site proc.id left ∧ Waits site proc.id failed := by
            revert hleaving hwaits
            cases hphase : proc.phase with
            | raisedLeave =>
                simp only [Phase.leaving, Waits, Option.some.injEq, Prod.mk.injEq, and_imp]
                rintro halnum rfl rfl
                exact ⟨halnum, halnum⟩
            | leave raised =>
                cases raised <;> simp only [Phase.leaving, Waits, Option.some.injEq,
                  Prod.mk.injEq, and_imp, false_imp_iff]
                rintro - rfl rfl
                exact ⟨trivial, trivial⟩
            | _ => simp [Phase.leaving, Waits]
          refine blocked_place h.disk rfl ?_
          dsimp only
          split
          · exact hphases.2
          · exact hphases.1
      | none =>
          have hacts := act_waits fault hhindered hwaits
          rw [← h.disk] at hacts
          exact blocked_place (hacts.1.trans h.disk) rfl hacts.2

theorem Blocked.run (h : Blocked site before id w) (hhindered : Hindered site before id)
    (faults : List (Option Fault)) :
    Blocked site before id (w.run site (faults.map (.act 0))) := by
  induction faults generalizing w with
  | nil => exact h
  | cons fault rest ih => exact ih (h.step hhindered fault)

end Blocked

section Removed

variable {site : Site} {disk disk' : Disk} {lock : Option Nat} {proc : Proc}

def World.solo (disk : Disk) (lock : Option Nat) (proc : Proc) : World :=
  ⟨disk, lock, fun other => if other = 0 then some proc else none⟩

theorem solo_place (next : Proc) (lock' : Option Nat) :
    World.place { World.solo disk lock proc with lock := lock', disk := disk' } 0 (some next) =
      World.solo disk' lock' next := by
  simp only [World.place, World.solo]
  congr 1
  funext other
  split <;> rfl

theorem solo_enters {entered failed : Phase}
    (h : proc.phase.locking = some (entered, failed)) :
    (World.solo disk none proc).step site (.act 0 none) =
      World.solo disk (some 0) { proc with phase := entered } := by
  have hstep : (World.solo disk none proc).step site (.act 0 none) =
      World.place { World.solo disk none proc with lock := some 0, disk := disk } 0
        (some { proc with phase := entered }) := by
    simp only [World.step, World.solo, if_true, h]
  rw [hstep]
  exact solo_place _ _

theorem solo_leaves {left failed : Phase} (hlocking : proc.phase.locking = none)
    (h : proc.phase.leaving = some (left, failed)) :
    (World.solo disk lock proc).step site (.act 0 none) =
      World.solo disk none { proc with phase := left } := by
  have hstep : (World.solo disk lock proc).step site (.act 0 none) =
      World.place { World.solo disk lock proc with lock := none, disk := disk } 0
        (some { proc with phase := left }) := by
    simp [World.step, World.solo, hlocking, h]
  rw [hstep]
  exact solo_place _ _

theorem solo_acts {phase : Phase} (hlocking : proc.phase.locking = none)
    (hleaving : proc.phase.leaving = none) (h : site.act proc disk none = (phase, disk')) :
    (World.solo disk lock proc).step site (.act 0 none) =
      World.solo disk' lock { proc with phase := phase } := by
  have hstep : (World.solo disk lock proc).step site (.act 0 none) =
      World.place { World.solo disk lock proc with lock := lock, disk := disk' } 0
        (some { proc with phase := phase }) := by
    simp [World.step, World.solo, hlocking, hleaving, h]
  rw [hstep]
  exact solo_place _ _

variable {id : String} {contents : String → String}

theorem clean_removes (disk : Disk) :
    (World.solo disk (some 0) ⟨id, contents, .cleanRemove⟩).run site
      [.act 0 none, .act 0 none] =
        World.solo (disk.setRun id none) none ⟨id, contents, .ended true⟩ := by
  have hremoved : (World.solo disk (some 0) ⟨id, contents, .cleanRemove⟩).step site
      (.act 0 none) =
        World.solo (disk.setRun id none) (some 0) ⟨id, contents, .leave true⟩ :=
    solo_acts rfl rfl rfl
  have hleft : (World.solo (disk.setRun id none) (some 0) ⟨id, contents, .leave true⟩).step site
      (.act 0 none) = World.solo (disk.setRun id none) none ⟨id, contents, .ended true⟩ :=
    solo_leaves rfl rfl
  simp only [World.run, List.foldl, hremoved, hleft]

theorem start_cleans (halnum : site.isalnum id = true) {files : RunFiles}
    (hfiles : disk.runs id = some files) :
    attempt site disk id contents [none, none, none, none, none] =
      World.solo disk (some 0) ⟨id, contents, .cleanRead⟩ := by
  have hbegun : (World.start disk).step site (.begin 0 .start id contents) =
      World.solo disk none ⟨id, contents, .startLoad⟩ := rfl
  have hloaded : (World.solo disk none ⟨id, contents, .startLoad⟩).step site (.act 0 none) =
      World.solo disk none ⟨id, contents, .startLock⟩ :=
    solo_acts rfl rfl (by simp [Site.act, halnum])
  have hlocked : (World.solo disk none ⟨id, contents, .startLock⟩).step site (.act 0 none) =
      World.solo disk (some 0) ⟨id, contents, .startMkdir⟩ := solo_enters rfl
  have hraised : (World.solo disk (some 0) ⟨id, contents, .startMkdir⟩).step site
      (.act 0 none) = World.solo disk (some 0) ⟨id, contents, .raisedLeave⟩ :=
    solo_acts rfl rfl (by simp [Site.act, hfiles])
  have hleft : (World.solo disk (some 0) ⟨id, contents, .raisedLeave⟩).step site
      (.act 0 none) = World.solo disk none ⟨id, contents, .cleanLock⟩ := solo_leaves rfl rfl
  have hcleans : (World.solo disk none ⟨id, contents, .cleanLock⟩).step site (.act 0 none) =
      World.solo disk (some 0) ⟨id, contents, .cleanRead⟩ := solo_enters rfl
  simp only [attempt, World.run, List.map, List.foldl, hbegun, hloaded, hlocked, hraised, hleft,
    hcleans]

theorem attempt_append (first rest : List (Option Fault)) :
    attempt site disk id contents (first ++ rest) =
      (attempt site disk id contents first).run site (rest.map (.act 0)) := by
  simp only [attempt, World.run, List.map_append, List.foldl_cons, List.foldl_append]

theorem start_removes (halnum : site.isalnum id = true) {files : RunFiles}
    (hfiles : disk.runs id = some files) (hreadable : disk.marker ≠ some .undecodable) :
    ∃ faults, Raised (attempt site disk id contents faults) ∧
      (attempt site disk id contents faults).disk.runs id = none := by
  have hend : ∀ (disk' : Disk) (more : List (Option Fault)),
      (World.solo disk (some 0) ⟨id, contents, .cleanRead⟩).run site (more.map (.act 0)) =
        World.solo disk' (some 0) ⟨id, contents, .cleanRemove⟩ →
      ∃ faults, Raised (attempt site disk id contents faults) ∧
        (attempt site disk id contents faults).disk.runs id = none := by
    intro disk' more hmore
    have hall : attempt site disk id contents
        (([none, none, none, none, none] ++ more) ++ [none, none]) =
          World.solo (disk'.setRun id none) none ⟨id, contents, .ended true⟩ := by
      rw [attempt_append, attempt_append, start_cleans halnum hfiles, hmore]
      exact clean_removes disk'
    refine ⟨([none, none, none, none, none] ++ more) ++ [none, none], ?_, ?_⟩
    · rw [hall]
      exact ⟨_, rfl, rfl⟩
    · rw [hall]
      exact setRun_self none
  have hread : ∀ (phase : Phase), site.act ⟨id, contents, .cleanRead⟩ disk none = (phase, disk) →
      (World.solo disk (some 0) ⟨id, contents, .cleanRead⟩).step site (.act 0 none) =
        World.solo disk (some 0) ⟨id, contents, phase⟩ := fun phase h => solo_acts rfl rfl h
  cases hmarker : disk.marker with
  | none =>
      exact hend disk [none] (hread .cleanRemove (by simp [Site.act, hmarker]))
  | some marker =>
      cases marker with
      | undecodable => exact absurd hmarker hreadable
      | text content =>
          by_cases hown : Marker.names content id
          · have hunlinked : (World.solo disk (some 0) ⟨id, contents, .cleanUnlink⟩).step site
                (.act 0 none) =
                  World.solo (disk.setMarker none) (some 0) ⟨id, contents, .cleanRemove⟩ :=
              solo_acts rfl rfl rfl
            refine hend (disk.setMarker none) [none, none] ?_
            simp only [World.run, List.map, List.foldl,
              hread .cleanUnlink (by simp [Site.act, hmarker, hown]), hunlinked]
          · exact hend disk [none] (hread .cleanRemove (by simp [Site.act, hmarker, hown]))

end Removed

section Failed

variable {site : Site} {disk : Disk} {id : String} {contents : String → String}

/-- A start that raises leaves directories and marker as they were, however it comes to
raise, exactly when its id is refused, has no run directory yet, or the cleanup cannot read
the marker. -/
theorem failed_start_iff (site : Site) (disk : Disk) (id : String)
    (contents : String → String) :
    (∀ faults, Raised (attempt site disk id contents faults) →
      Framed site disk (attempt site disk id contents faults).disk) ↔
        site.isalnum id = false ∨ disk.runs id = none ∨ disk.marker = some .undecodable := by
  have hbegun : (World.start disk).step site (.begin 0 .start id contents) =
      World.solo disk none ⟨id, contents, .startLoad⟩ := rfl
  have hattempt : ∀ faults, attempt site disk id contents faults =
      (World.solo disk none ⟨id, contents, .startLoad⟩).run site (faults.map (.act 0)) := by
    intro faults
    simp only [attempt, World.run, List.foldl_cons, hbegun]
  constructor
  · intro hframed
    by_contra hcondition
    simp only [not_or, Bool.not_eq_false] at hcondition
    obtain ⟨halnum, hstored, hreadable⟩ := hcondition
    obtain ⟨files, hfiles⟩ := Option.ne_none_iff_exists'.1 hstored
    obtain ⟨faults, hraised, hgone⟩ := @start_removes site disk id contents halnum files hfiles
      hreadable
    have hkept := (hframed faults hraised).runs id files hfiles
    rw [hgone] at hkept
    cases hkept
  · intro hcondition faults _
    rw [hattempt]
    by_cases hhindered : Hindered site disk id
    · have hblocked : Blocked site disk id (World.solo disk none ⟨id, contents, .startLoad⟩) :=
        ⟨rfl, _, rfl, rfl, trivial⟩
      rw [(hblocked.run hhindered faults).disk]
      exact .refl disk
    · have hnone : disk.runs id = none := by
        by_contra hstored
        obtain ⟨files, hfiles⟩ := Option.ne_none_iff_exists'.1 hstored
        rcases hcondition with hrefused | hnone | hmarker
        · exact hhindered (.inl hrefused)
        · exact hstored hnone
        · exact hhindered (.inr ⟨⟨files, hfiles⟩, hmarker⟩)
      have halnum : site.isalnum id = true := by
        by_contra hrefused
        exact hhindered (.inl (by simpa using hrefused))
      have hcareful : Careful site disk id (World.solo disk none ⟨id, contents, .startLoad⟩) :=
        ⟨fun _ _ => rfl, .inl rfl, _, rfl, rfl, trivial⟩
      exact (hcareful.run halnum hnone faults).framed hnone

def activeDisk : Disk :=
  ⟨fun name => if name = "a1" then some fun _ => some "recorded" else none, some (.text "a1")⟩

/-- Starting it again raises, and removes its run directory and its marker. -/
theorem start_again_removes :
    let faults : List (Option Fault) := List.replicate 9 none
    let after := attempt sampleSite activeDisk "a1" (fun _ => "") faults
    Raised after ∧ after.disk.runs "a1" = none ∧ after.disk.marker = none ∧
      ¬ Framed sampleSite activeDisk after.disk := by
  have hmarker : (attempt sampleSite activeDisk "a1" (fun _ => "")
      (List.replicate 9 none)).disk.marker = none := rfl
  have hruns : (attempt sampleSite activeDisk "a1" (fun _ => "")
      (List.replicate 9 none)).disk.runs "a1" = none := rfl
  refine ⟨⟨_, rfl, rfl⟩, hruns, hmarker, fun hframed => ?_⟩
  have hkept := hframed.runs "a1" (fun _ => some "recorded") rfl
  rw [hruns] at hkept
  cases hkept

end Failed

end CausalOps.Lab
