import CausalOps.Lab.Scenario

set_option autoImplicit false

/-! Who holds the lab: from the claim of an incident on, its marker and its run directory
stay until one of its own calls removes the marker. -/

namespace CausalOps.Lab

section Acts

variable {site : Site} {proc : Proc} {disk : Disk} {fault : Option Fault} {name : String}

@[simp] theorem setRun_marker (files : Option RunFiles) :
    (disk.setRun name files).marker = disk.marker := rfl

@[simp] theorem setRun_self (files : Option RunFiles) :
    (disk.setRun name files).runs name = files := if_pos rfl

theorem setRun_ne {other : String} (h : other ≠ name) (files : Option RunFiles) :
    (disk.setRun name files).runs other = disk.runs other := if_neg h

@[simp] theorem setMarker_runs (marker : Option Marker) :
    (disk.setMarker marker).runs = disk.runs := rfl

@[simp] theorem setMarker_marker (marker : Option Marker) :
    (disk.setMarker marker).marker = marker := rfl

theorem act_runs {other : String} (h : other ≠ proc.id) :
    (site.act proc disk fault).2.runs other = disk.runs other := by
  have hset : ∀ files, (disk.setRun proc.id files).runs other = disk.runs other :=
    fun files => setRun_ne h files
  have hpartly : ∀ fault, (disk.removePartly proc.id fault).runs other = disk.runs other := by
    intro fault
    unfold Disk.removePartly
    split
    · rfl
    · exact hset _
  have hwritten : ∀ fault, (disk.writePartly proc.id fault).runs other = disk.runs other := by
    intro fault
    unfold Disk.writePartly
    split
    · split
      · rfl
      · exact hset _
    · exact hset _
  have hbody : ∀ step rest, (Site.bodyStep proc step rest disk).2.runs other =
      disk.runs other := by
    intro step rest
    cases step with
    | directory => simp only [Site.bodyStep]; split <;> simp [hset]
    | write path document => exact hset _
    | writeExisting path document =>
        simp only [Site.bodyStep]
        split
        · rfl
        · exact hset _
    | work => rfl
  unfold Site.act
  split <;> (try split) <;> simp [hset, hpartly, hwritten, hbody]

end Acts

section Window

variable {site : Site} {proc : Proc} {disk : Disk} {fault : Option Fault} {id : String}

def Phase.marks : Phase → Bool
  | .startUnlink | .startCreate | .startWrite | .startUndo
  | .cleanUnlink | .resetUnlink | .releaseUnlink => true
  | _ => false

/-- The phases in which a call removes its own marker. -/
def Phase.disowns : Phase → Bool
  | .cleanUnlink | .resetUnlink | .releaseUnlink => true
  | _ => false

/-- The phases in which a call removes its run directory. -/
def Phase.removes : Phase → Bool
  | .cleanRemove | .resetRemove => true
  | _ => false

theorem bodyStep_marker (step : BodyStep) (rest : List BodyStep) :
    (Site.bodyStep proc step rest disk).2.marker = disk.marker := by
  cases step with
  | directory | writeExisting path document => simp only [Site.bodyStep]; split <;> rfl
  | write path document | work => rfl

theorem removePartly_marker (name : String) (fault : Fault) :
    (disk.removePartly name fault).marker = disk.marker := by
  unfold Disk.removePartly
  split <;> rfl

theorem writePartly_marker (name : String) (fault : Fault) :
    (disk.writePartly name fault).marker = disk.marker := by
  unfold Disk.writePartly
  split
  · split <;> rfl
  · rfl

theorem act_marker (h : proc.phase.marks = false) :
    (site.act proc disk fault).2.marker = disk.marker := by
  unfold Site.act
  split <;> (try split) <;>
    simp_all [Phase.marks, bodyStep_marker, removePartly_marker, writePartly_marker]

theorem act_marker_fault {fault : Fault} (h : proc.phase.disowns = true) :
    (site.act proc disk (some fault)).2.marker = disk.marker := by
  cases hphase : proc.phase <;> simp_all [Phase.disowns, Site.act]

theorem writePartly_isSome {name : String} {fault : Fault} (h : (disk.runs id).isSome = true) :
    ((disk.writePartly name fault).runs id).isSome = true := by
  unfold Disk.writePartly
  by_cases hname : id = name
  · subst hname
    split
    · rename_i hnone
      rw [hnone] at h
      cases h
    · simp
  · split
    · split
      · exact h
      · rw [setRun_ne hname]
        exact h
    · rw [setRun_ne hname]
      exact h

theorem setRun_isSome {name : String} {files : RunFiles} (h : (disk.runs id).isSome = true) :
    ((disk.setRun name (some files)).runs id).isSome = true := by
  by_cases hname : id = name
  · subst hname
    simp
  · rw [setRun_ne hname]
    exact h

theorem bodyStep_isSome {step : BodyStep} {rest : List BodyStep}
    (h : (disk.runs id).isSome = true) :
    ((Site.bodyStep proc step rest disk).2.runs id).isSome = true := by
  cases step with
  | directory =>
      simp only [Site.bodyStep]
      split
      · exact h
      · exact setRun_isSome h
  | write path document => exact setRun_isSome h
  | writeExisting path document =>
      simp only [Site.bodyStep]
      split
      · exact h
      · exact setRun_isSome h
  | work => exact h

theorem act_isSome (h : (disk.runs id).isSome = true)
    (hremoves : proc.phase.removes = true → proc.id ≠ id) :
    ((site.act proc disk fault).2.runs id).isSome = true := by
  by_cases hid : id = proc.id
  · have hstays : proc.phase.removes = false := by
      by_contra hremove
      exact hremoves (by simpa using hremove) hid.symm
    unfold Site.act
    split <;> (try split) <;>
      simp_all [Phase.removes, writePartly_isSome, bodyStep_isSome]
  · rw [act_runs hid]
    exact h

/-- Where a call may be while another incident, or its own, holds the lab. -/
def Beside (id : String) (proc : Proc) : Prop :=
  match proc.phase with
  | .startUnlink | .startCreate | .startWrite | .startUndo => False
  | .startCheck active => active = id
  | .cleanRemove | .resetRemove => proc.id ≠ id
  | .cleanUnlink | .resetUnlink | .releaseUnlink => proc.id = id
  | _ => True

end Window

section Held

variable {site : Site} {w : World} {id : String}

/-- The incident holds the lab: its marker and its run directory are there, and no other call
is about to change that. -/
structure Held (id : String) (w : World) : Prop where
  marker : w.disk.marker = some (.text id)
  run : (w.disk.runs id).isSome = true
  beside : ∀ slot proc, w.procs slot = some proc → Beside id proc

theorem bodyStep_beside {proc : Proc} {disk : Disk} (step : BodyStep) (rest : List BodyStep) :
    Beside id { proc with phase := (Site.bodyStep proc step rest disk).1 } := by
  cases step with
  | directory | writeExisting path document => simp only [Site.bodyStep]; split <;> exact trivial
  | write path document | work => exact trivial

theorem act_beside {proc : Proc} {disk : Disk} {fault : Option Fault}
    (halnum : site.isalnum id = true) (hmarker : disk.marker = some (.text id))
    (hrun : (disk.runs id).isSome = true) (hbeside : Beside id proc)
    (howned : proc.phase.disowns = true → fault.isSome = true) :
    Beside id { proc with phase := (site.act proc disk fault).1 } := by
  have hstrip : Text.strip id = id := site.isalnum_strip id halnum
  have hnames : ∀ other, Marker.names id other ↔ id = other := fun other => by
    simp [Marker.names, hstrip]
  cases fault with
  | some fault =>
      cases hphase : proc.phase with
      | startBody rest => cases rest <;> simp [Site.act, hphase, Beside]
      | startWrite => simp [Beside, hphase] at hbeside
      | startCheck active => simp [Site.act, hphase, Beside]
      | leave raised | ended raised => simp [Site.act, hphase, Beside]
      | _ => simp_all [Site.act, Beside]
  | none =>
      cases hphase : proc.phase with
      | startLoad =>
          simp only [Site.act, hphase]
          split <;> exact trivial
      | startMkdir =>
          simp only [Site.act, hphase]
          split <;> exact trivial
      | startRead =>
          simp only [Site.act, hphase, hmarker]
          exact hstrip
      | startCheck active =>
          have hactive : active = id := by simpa [Beside, hphase] using hbeside
          have hdir : site.isDir disk active = true := by
            rw [hactive, Site.isDir, if_pos halnum]
            exact hrun
          simp only [Site.act, hphase, hdir, Bool.or_true, if_true]
          exact trivial
      | startUnlink | startCreate | startWrite | startUndo =>
          simp [Beside, hphase] at hbeside
      | startBody rest =>
          cases rest with
          | nil => simp [Site.act, hphase, Beside]
          | cons step rest =>
              simp only [Site.act, hphase]
              exact bodyStep_beside step rest
      | cleanRead | resetRead | releaseRead =>
          simp only [Site.act, hphase, hmarker]
          by_cases hown : id = proc.id
          · rw [if_pos ((hnames proc.id).2 hown)]
            exact hown.symm
          · rw [if_neg fun h => hown ((hnames proc.id).1 h)]
            first
              | exact fun h => hown h.symm
              | exact trivial
      | cleanUnlink | resetUnlink | releaseUnlink =>
          simp [hphase, Phase.disowns] at howned
      | resetCheck =>
          simp only [Site.act, hphase]
          split <;> exact trivial
      | startLock | startLeave | raisedLeave | cleanLock | cleanRemove | resetLock | resetRemove
      | releaseLock | leave raised | ended raised => simp [Site.act, hphase, Beside]

def Disowns (w : World) (e : Event) (id : String) : Prop :=
  ∃ slot proc, e = .act slot none ∧ w.procs slot = some proc ∧ proc.id = id ∧
    proc.phase.disowns = true

/-- A start has just written its id into the marker. -/
def Claims (w : World) (e : Event) (id : String) : Prop :=
  ∃ slot proc, e = .act slot none ∧ w.procs slot = some proc ∧ proc.id = id ∧
    proc.phase = .startWrite

theorem Held.place (h : Held id w) {slot : Nat} {next : Option Proc} {lock : Option Nat}
    {disk : Disk} (hmarker : disk.marker = some (.text id))
    (hrun : (disk.runs id).isSome = true) (hnext : ∀ proc, next = some proc → Beside id proc) :
    Held id (World.place { w with lock := lock, disk := disk } slot next) := by
  refine ⟨hmarker, hrun, fun other proc hproc => ?_⟩
  by_cases hslot : other = slot
  · exact hnext proc (by simpa [World.place, hslot] using hproc)
  · exact h.beside other proc (by simpa [World.place, hslot] using hproc)

theorem locking_beside {proc : Proc} {entered failed : Phase}
    (h : proc.phase.locking = some (entered, failed)) :
    Beside id { proc with phase := entered } ∧ Beside id { proc with phase := failed } := by
  cases hphase : proc.phase <;> simp_all [Phase.locking] <;>
    (obtain ⟨rfl, rfl⟩ := h; exact ⟨trivial, trivial⟩)

theorem leaving_beside {proc : Proc} {left failed : Phase}
    (h : proc.phase.leaving = some (left, failed)) :
    Beside id { proc with phase := left } ∧ Beside id { proc with phase := failed } := by
  cases hphase : proc.phase <;> simp_all [Phase.leaving] <;>
    (obtain ⟨rfl, rfl⟩ := h; exact ⟨trivial, trivial⟩)

theorem Held.step (h : Held id w) (halnum : site.isalnum id = true) {e : Event}
    (hkept : ¬ Disowns w e id) : Held id (w.step site e) := by
  cases e with
  | begin slot kind other contents =>
      simp only [World.step]
      split
      · exact h
      · refine h.place h.marker h.run fun proc hproc => ?_
        rw [← Option.some.inj hproc]
        cases kind <;> exact trivial
  | crash slot => exact h.place h.marker h.run nofun
  | act slot fault =>
      simp only [World.step]
      cases hproc : w.procs slot with
      | none => exact h
      | some proc =>
          have hbeside := h.beside slot proc hproc
          dsimp only
          cases hlocking : proc.phase.locking with
          | some phases =>
              obtain ⟨entered, failed⟩ := phases
              obtain ⟨hentered, hfailed⟩ := @locking_beside id proc entered failed hlocking
              dsimp only
              split
              · refine h.place h.marker h.run fun next hnext => ?_
                rw [← Option.some.inj hnext]
                exact hfailed
              · exact h
              · refine h.place h.marker h.run fun next hnext => ?_
                rw [← Option.some.inj hnext]
                exact hentered
          | none =>
              dsimp only
              cases hleaving : proc.phase.leaving with
              | some phases =>
                  obtain ⟨left, failed⟩ := phases
                  obtain ⟨hleft, hfailed⟩ := @leaving_beside id proc left failed hleaving
                  refine h.place h.marker h.run fun next hnext => ?_
                  rw [← Option.some.inj hnext]
                  split
                  · exact hfailed
                  · exact hleft
              | none =>
                  have howned : proc.phase.disowns = true → fault.isSome = true := by
                    intro hdisowns
                    cases fault with
                    | some fault => rfl
                    | none =>
                        refine absurd ⟨slot, proc, rfl, hproc, ?_, hdisowns⟩ hkept
                        revert hdisowns hbeside
                        simp only [Beside]
                        cases proc.phase <;> simp [Phase.disowns]
                  have hmarker : (site.act proc w.disk fault).2.marker = some (.text id) := by
                    rw [← h.marker]
                    by_cases hdisowns : proc.phase.disowns = true
                    · obtain ⟨fault, rfl⟩ := Option.isSome_iff_exists.1 (howned hdisowns)
                      exact act_marker_fault hdisowns
                    · refine act_marker ?_
                      revert hbeside hdisowns
                      simp only [Beside]
                      cases proc.phase <;> simp [Phase.marks, Phase.disowns]
                  have hremoves : proc.phase.removes = true → proc.id ≠ id := by
                    revert hbeside
                    simp only [Beside]
                    cases proc.phase <;> simp [Phase.removes]
                  refine h.place hmarker (act_isSome h.run hremoves) fun next hnext => ?_
                  rw [← Option.some.inj hnext]
                  exact act_beside halnum h.marker h.run hbeside howned

end Held

section Orderly

variable {site : Site} {w : World}

/-- What a call that is claiming the marker relies on while it has the lock. -/
def Local (site : Site) (disk : Disk) (proc : Proc) : Prop :=
  match proc.phase with
  | .startLock | .startMkdir => site.isalnum proc.id = true
  | .startRead | .startCreate | .startWrite | .startUndo =>
      site.isalnum proc.id = true ∧ (disk.runs proc.id).isSome = true
  | .startCheck active =>
      (site.isalnum proc.id = true ∧ (disk.runs proc.id).isSome = true) ∧
        ∃ content, disk.marker = some (.text content) ∧ Text.strip content = active
  | .startUnlink =>
      (site.isalnum proc.id = true ∧ (disk.runs proc.id).isSome = true) ∧
        ∃ content, disk.marker = some (.text content) ∧ Text.strip content ≠ ""
  | _ => True

theorem local_act {proc : Proc} {disk : Disk} (fault : Option Fault) (h : Local site disk proc) :
    Local site (site.act proc disk fault).2
      { proc with phase := (site.act proc disk fault).1 } := by
  cases fault with
  | some fault =>
      cases hphase : proc.phase with
      | startBody rest => cases rest <;> simp [Site.act, hphase, Local]
      | startWrite =>
          simp only [Local, hphase] at h
          simp only [Site.act, hphase]
          exact h
      | leave raised | ended raised | startCheck active => simp [Site.act, hphase, Local]
      | _ => simp_all [Site.act, Local]
  | none =>
      cases hphase : proc.phase with
      | startLoad =>
          simp only [Site.act, hphase]
          split
          · assumption
          · exact trivial
      | startMkdir =>
          simp only [Local, hphase] at h
          simp only [Site.act, hphase]
          split
          · exact trivial
          · exact ⟨h, by simp⟩
      | startRead =>
          simp only [Local, hphase] at h
          simp only [Site.act, hphase]
          split
          · exact h
          · rename_i content hmarker
            exact ⟨h, content, hmarker, rfl⟩
          · exact trivial
      | startCheck active =>
          simp only [Local, hphase] at h
          simp only [Site.act, hphase]
          split
          · exact trivial
          · rename_i hopen
            simp only [Bool.or_eq_true, decide_eq_true_eq, not_or] at hopen
            obtain ⟨hown, content, hmarker, hactive⟩ := h
            exact ⟨hown, content, hmarker, hactive ▸ hopen.1⟩
      | startUnlink =>
          simp only [Local, hphase] at h
          simp only [Site.act, hphase]
          exact h.1
      | startCreate =>
          simp only [Local, hphase] at h
          simp only [Site.act, hphase]
          split
          · exact h
          · exact trivial
      | startBody rest =>
          cases rest with
          | nil => simp [Site.act, hphase, Local]
          | cons step rest =>
              simp only [Site.act, hphase]
              cases step with
              | directory | writeExisting path document =>
                  simp only [Site.bodyStep]
                  split <;> exact trivial
              | write path document | work => exact trivial
      | cleanRead | resetRead | releaseRead =>
          simp only [Site.act, hphase]
          split
          · exact trivial
          · split <;> exact trivial
          · exact trivial
      | resetCheck =>
          simp only [Site.act, hphase]
          split <;> exact trivial
      | startLock =>
          simp only [Local, hphase] at h
          simp only [Site.act, hphase, Local]
          exact h
      | startWrite | startUndo | startLeave | raisedLeave | cleanLock | cleanUnlink | cleanRemove
      | resetLock | resetUnlink | resetRemove | releaseLock | releaseUnlink | leave raised
      | ended raised => simp [Site.act, hphase, Local]

theorem Local.kept {proc : Proc} {disk disk' : Disk} (h : Local site disk proc)
    (hmarker : disk'.marker = disk.marker)
    (hrun : (disk.runs proc.id).isSome = true → (disk'.runs proc.id).isSome = true) :
    Local site disk' proc := by
  revert h
  simp only [Local, hmarker]
  cases proc.phase <;> simp only [] <;> intro h
  all_goals first
    | exact h
    | exact ⟨h.1, hrun h.2⟩
    | exact ⟨⟨h.1.1, hrun h.1.2⟩, h.2⟩

theorem Local.unlocked {proc : Proc} {disk disk' : Disk} (h : Local site disk proc)
    (hphase : proc.phase.locked = false) : Local site disk' proc := by
  revert h hphase
  simp only [Local]
  cases proc.phase <;> simp [Phase.locked]

/-- The calls in a phase under the lock hold it, and their own facts hold. -/
structure Orderly (site : Site) (w : World) : Prop where
  holder : ∀ slot proc, w.procs slot = some proc → proc.phase.locked = true → w.lock = some slot
  facts : ∀ slot proc, w.procs slot = some proc → Local site w.disk proc

theorem orderly_start (disk : Disk) : Orderly site (.start disk) := by
  constructor <;> intro slot proc h <;> cases h

/-- A phase without the lock changes neither the marker nor removes a directory. -/
theorem unlocked_marks {phase : Phase} (h : phase.locked = false) :
    phase.marks = false ∧ phase.removes = false := by
  cases phase <;> simp_all [Phase.locked, Phase.marks, Phase.removes]

theorem orderly_place {slot : Nat} {next : Option Proc}
    {lock : Option Nat} {disk : Disk}
    (hnext : ∀ proc, next = some proc → Local site disk proc ∧
      (proc.phase.locked = true → lock = some slot))
    (hothers : ∀ other proc, other ≠ slot → w.procs other = some proc →
      Local site disk proc ∧ (proc.phase.locked = true → lock = some other)) :
    Orderly site (World.place { w with lock := lock, disk := disk } slot next) := by
  have hslot : ∀ other proc, (World.place { w with lock := lock, disk := disk } slot next).procs
      other = some proc → (other = slot ∧ next = some proc) ∨
        (other ≠ slot ∧ w.procs other = some proc) := by
    intro other proc hproc
    by_cases hsame : other = slot
    · exact .inl ⟨hsame, by simpa [World.place, hsame] using hproc⟩
    · exact .inr ⟨hsame, by simpa [World.place, hsame] using hproc⟩
  constructor
  · intro other proc hproc hlocked
    rcases hslot other proc hproc with ⟨rfl, hnew⟩ | ⟨hne, hold⟩
    · exact (hnext proc hnew).2 hlocked
    · exact (hothers other proc hne hold).2 hlocked
  · intro other proc hproc
    rcases hslot other proc hproc with ⟨-, hnew⟩ | ⟨hne, hold⟩
    · exact (hnext proc hnew).1
    · exact (hothers other proc hne hold).1

theorem locking_unlocked {proc : Proc} {entered failed : Phase}
    (h : proc.phase.locking = some (entered, failed)) :
    proc.phase.locked = false ∧ failed.locked = false ∧ failed ≠ .startLock := by
  revert h
  cases proc.phase <;> simp [Phase.locking, Phase.locked] <;> rintro rfl rfl <;> simp

theorem locking_local {proc : Proc} {disk : Disk} {entered failed : Phase}
    (h : proc.phase.locking = some (entered, failed)) (hlocal : Local site disk proc) :
    Local site disk { proc with phase := entered } := by
  revert h hlocal
  simp only [Local]
  cases proc.phase <;> simp [Phase.locking] <;> rintro rfl rfl <;> simp

theorem leaving_locked {proc : Proc} {left failed : Phase}
    (h : proc.phase.leaving = some (left, failed)) :
    proc.phase.locked = true ∧ (left.locked = false ∧ left ≠ .startLock) ∧
      failed.locked = false ∧ failed ≠ .startLock := by
  revert h
  cases proc.phase <;> simp [Phase.leaving, Phase.locked] <;> rintro rfl rfl <;> simp

theorem unlocked_local {proc : Proc} {disk : Disk} {phase : Phase}
    (hphase : phase.locked = false) (hlock : phase ≠ .startLock) :
    Local site disk { proc with phase := phase } := by
  simp only [Local]
  cases phase <;> simp_all [Phase.locked]

theorem act_locked {proc : Proc} {disk : Disk} {fault : Option Fault}
    (h : (site.act proc disk fault).1.locked = true) : proc.phase.locked = true := by
  cases hphase : proc.phase with
  | startLoad =>
      cases fault with
      | none =>
          simp only [Site.act, hphase] at h
          split at h <;> cases h
      | some fault => simp [Site.act, hphase, Phase.locked] at h
  | startBody rest =>
      cases rest with
      | nil => simp [Site.act, hphase, Phase.locked] at h
      | cons step rest =>
          cases fault with
          | some fault => simp [Site.act, hphase, Phase.locked] at h
          | none =>
              simp only [Site.act, hphase] at h
              cases step with
              | directory | writeExisting path document =>
                  simp only [Site.bodyStep] at h
                  split at h <;> cases h
              | write path document | work => cases h
  | startLock | cleanLock | resetLock | releaseLock | ended raised =>
      cases fault <;> simp [Site.act, hphase, Phase.locked] at h
  | _ => rfl

theorem Orderly.step (h : Orderly site w) (e : Event) : Orderly site (w.step site e) := by
  have hsame : ∀ other proc, w.procs other = some proc →
      Local site w.disk proc ∧ (proc.phase.locked = true → w.lock = some other) :=
    fun other proc hproc => ⟨h.facts other proc hproc, h.holder other proc hproc⟩
  cases e with
  | begin slot kind id contents =>
      simp only [World.step]
      split
      · exact h
      · refine orderly_place (fun proc hproc => ?_) fun other proc _ hproc => hsame other proc hproc
        rw [← Option.some.inj hproc]
        cases kind <;> exact ⟨trivial, nofun⟩
  | crash slot =>
      refine orderly_place nofun fun other proc hne hproc => ⟨h.facts other proc hproc, ?_⟩
      intro hlocked
      have hlock := h.holder other proc hproc hlocked
      rw [if_neg, hlock]
      rw [hlock]
      exact fun heq => hne (Option.some.inj heq)
  | act slot fault =>
      simp only [World.step]
      cases hproc : w.procs slot with
      | none => exact h
      | some proc =>
          dsimp only
          cases hlocking : proc.phase.locking with
          | some phases =>
              obtain ⟨entered, failed⟩ := phases
              obtain ⟨-, hfailed, hfailedLock⟩ := locking_unlocked hlocking
              dsimp only
              split
              · refine orderly_place (fun next hnext => ?_) fun other proc _ => hsame other proc
                rw [← Option.some.inj hnext]
                refine ⟨unlocked_local hfailed hfailedLock, fun hlocked => ?_⟩
                rw [hfailed] at hlocked
                cases hlocked
              · exact h
              · rename_i hfree
                refine orderly_place (fun next hnext => ?_) fun other proc _ hother => ?_
                · rw [← Option.some.inj hnext]
                  exact ⟨locking_local hlocking (h.facts slot proc hproc), fun _ => rfl⟩
                · refine ⟨h.facts other proc hother, fun hlocked => ?_⟩
                  rw [h.holder other proc hother hlocked] at hfree
                  cases hfree
          | none =>
              cases hleaving : proc.phase.leaving with
              | some phases =>
                  obtain ⟨left, failed⟩ := phases
                  obtain ⟨hlocked, ⟨hleft, hleftLock⟩, hfailed, hfailedLock⟩ :=
                    leaving_locked hleaving
                  have hlock := h.holder slot proc hproc hlocked
                  refine orderly_place (fun next hnext => ?_) fun other proc hne hother => ?_
                  · rw [← Option.some.inj hnext]
                    dsimp only
                    split
                    · exact ⟨unlocked_local hfailed hfailedLock, fun h => by simp [hfailed] at h⟩
                    · exact ⟨unlocked_local hleft hleftLock, fun h => by simp [hleft] at h⟩
                  · refine ⟨h.facts other proc hother, fun hlocked' => ?_⟩
                    rw [h.holder other proc hother hlocked'] at hlock
                    exact absurd (Option.some.inj hlock) hne
              | none =>
                  refine orderly_place (fun next hnext => ?_) fun other proc' hne hother => ?_
                  · rw [← Option.some.inj hnext]
                    exact ⟨local_act fault (h.facts slot proc hproc),
                      fun hlocked => h.holder slot proc hproc (act_locked hlocked)⟩
                  · refine ⟨?_, h.holder other proc' hother⟩
                    have hlocal := h.facts other proc' hother
                    cases hlocked' : proc'.phase.locked with
                    | false => exact hlocal.unlocked hlocked'
                    | true =>
                        -- The lock is theirs, so this operation needs none.
                        have hunlocked : proc.phase.locked = false := by
                          by_contra hlocked
                          have hlock := h.holder slot proc hproc (by simpa using hlocked)
                          rw [h.holder other proc' hother hlocked'] at hlock
                          exact hne (Option.some.inj hlock)
                        obtain ⟨hmarks, hremoves⟩ := unlocked_marks hunlocked
                        exact hlocal.kept (act_marker hmarks)
                          fun hrun => act_isSome hrun (by simp [hremoves])

theorem Orderly.run (h : Orderly site w) (events : List Event) :
    Orderly site (w.run site events) := by
  induction events generalizing w with
  | nil => exact h
  | cons e rest ih => exact ih (h.step e)

end Orderly

section Exclusive

variable {site : Site} {w : World} {id : String} {e : Event}

theorem Claims.held (h : Claims w e id) (horderly : Orderly site w) :
    site.isalnum id = true ∧ Held id (w.step site e) := by
  obtain ⟨slot, proc, rfl, hproc, rfl, hphase⟩ := h
  have hlocal := horderly.facts slot proc hproc
  simp only [Local, hphase] at hlocal
  have hlock := horderly.holder slot proc hproc (by rw [hphase]; rfl)
  have hstep : w.step site (.act slot none) =
      World.place { w with disk := w.disk.setMarker (some (.text proc.id)) } slot
        (some { proc with phase := .startLeave }) := by
    simp only [World.step, hproc, hphase, Phase.locking, Phase.leaving, Site.act]
  rw [hstep]
  refine ⟨hlocal.1, rfl, hlocal.2, fun other next hnext => ?_⟩
  by_cases hslot : other = slot
  · have hsame : some { proc with phase := Phase.startLeave } = some next := by
      simpa [World.place, hslot] using hnext
    rw [← Option.some.inj hsame]
    exact trivial
  · have hold : w.procs other = some next := by simpa [World.place, hslot] using hnext
    -- Nobody else has the lock.
    have hunlocked : next.phase.locked = false := by
      by_contra hlocked
      have hother := horderly.holder other next hold (by simpa using hlocked)
      rw [hlock] at hother
      exact hslot (Option.some.inj hother).symm
    revert hunlocked
    simp only [Beside]
    cases next.phase <;> simp [Phase.locked]

/-- No call of the incident removes the marker during these events. -/
def Keeps (site : Site) (id : String) : World → List Event → Prop
  | _, [] => True
  | w, e :: rest => ¬ Disowns w e id ∧ Keeps site id (w.step site e) rest

instance (w : World) (id : String) : (e : Event) → Decidable (Disowns w e id)
  | .begin _ _ _ _ => .isFalse fun ⟨_, _, h, _⟩ => by cases h
  | .crash _ => .isFalse fun ⟨_, _, h, _⟩ => by cases h
  | .act _ (some _) => .isFalse fun ⟨_, _, h, _⟩ => by cases h
  | .act slot none =>
      decidable_of_iff
        ((w.procs slot).any (fun proc => proc.id = id && proc.phase.disowns) = true) (by
          constructor
          · intro h
            obtain ⟨hsome, hdisowns⟩ := (Option.any_eq_true_iff_get _ _).1 h
            rw [Bool.and_eq_true, decide_eq_true_eq] at hdisowns
            exact ⟨slot, _, rfl, (Option.some_get hsome).symm, hdisowns.1, hdisowns.2⟩
          · rintro ⟨other, proc, hact, hproc, hid, hphase⟩
            obtain ⟨rfl, -⟩ := Event.act.inj hact
            simp [hproc, hid, hphase])

instance Keeps.decidable (site : Site) (id : String) :
    (w : World) → (events : List Event) → Decidable (Keeps site id w events)
  | _, [] => .isTrue trivial
  | w, e :: rest =>
      have := Keeps.decidable site id (w.step site e) rest
      inferInstanceAs (Decidable (¬ Disowns w e id ∧ Keeps site id (w.step site e) rest))

theorem Held.later (h : Held id w) (halnum : site.isalnum id = true) {events : List Event}
    (hkeeps : Keeps site id w events) : Held id (w.run site events) := by
  induction events generalizing w with
  | nil => exact h
  | cons e rest ih => exact ih (h.step halnum hkeeps.1) hkeeps.2

theorem Held.no_claim (h : Held id w) (other : String) : ¬ Claims w e other := by
  rintro ⟨slot, proc, -, hproc, -, hphase⟩
  have hbeside := h.beside slot proc hproc
  simp [Beside, hphase] at hbeside

/-- After a claim, and until a call of the incident removes its marker: the marker and the
run directory are there and nobody claims. Whatever happened before, no start reclaims an
empty marker, and no call touches the run directory of another incident. -/
theorem marker_exclusive (site : Site) (disk : Disk) (before : List Event) :
    let w := (World.start disk).run site before
    (∀ e id after, Claims w e id → Keeps site id (w.step site e) after →
      let later := (w.step site e).run site after
      later.disk.marker = some (.text id) ∧ (later.disk.runs id).isSome = true ∧
        ∀ e' other, ¬ Claims later e' other) ∧
      (∀ slot proc, w.procs slot = some proc → proc.phase = .startUnlink →
        ∃ content, w.disk.marker = some (.text content) ∧ Text.strip content ≠ "") ∧
      ∀ slot proc fault id, w.procs slot = some proc → proc.id ≠ id →
        (w.step site (.act slot fault)).disk.runs id = w.disk.runs id := by
  intro w
  have horderly : Orderly site w := (orderly_start disk).run before
  refine ⟨?_, ?_, ?_⟩
  · intro e id after hclaims hkeeps
    obtain ⟨halnum, hheld⟩ := hclaims.held horderly
    have hlater := hheld.later halnum hkeeps
    exact ⟨hlater.marker, hlater.run, fun e' other => hlater.no_claim other⟩
  · intro slot proc hproc hphase
    have hlocal := horderly.facts slot proc hproc
    simp only [Local, hphase] at hlocal
    exact hlocal.2
  · intro slot proc fault id hproc hid
    simp only [World.step, hproc]
    cases hlocking : proc.phase.locking with
    | some phases =>
        obtain ⟨entered, failed⟩ := phases
        dsimp only
        split <;> rfl
    | none =>
        cases hleaving : proc.phase.leaving with
        | some phases => rfl
        | none => exact act_runs fun heq => hid heq.symm

def claiming : List Event :=
  [.begin 0 .start "a1" fun _ => "", .act 0 none, .act 0 none, .act 0 none, .act 0 none,
    .act 0 none]

/-- A start of another incident up to its refusal, and a reset of a third one. -/
def contesting : List Event :=
  .act 0 none :: (.begin 1 .start "b2" fun _ => "") :: List.replicate 7 (.act 1 none) ++
    (.begin 2 .reset "c3" fun _ => "") :: List.replicate 3 (.act 2 none)

theorem marker_exclusive_claimed :
    let w := (World.start emptyDisk).run sampleSite claiming
    Claims w (.act 0 none) "a1" ∧
      ∀ e' other,
        ¬ Claims ((w.step sampleSite (.act 0 none)).run sampleSite contesting) e' other := by
  have hclaims : Claims ((World.start emptyDisk).run sampleSite claiming) (.act 0 none) "a1" := by
    refine ⟨0, ⟨"a1", fun _ => "", .startWrite⟩, rfl, ?_, rfl, rfl⟩
    rfl
  have hkeeps : Keeps sampleSite "a1" (((World.start emptyDisk).run sampleSite claiming).step
      sampleSite (.act 0 none)) contesting := by
    decide +kernel
  exact ⟨hclaims, ((marker_exclusive sampleSite emptyDisk claiming).1 _ _ contesting hclaims
    hkeeps).2.2⟩

end Exclusive

end CausalOps.Lab
