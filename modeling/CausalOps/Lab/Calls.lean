import CausalOps.Lab.Exclusive

set_option autoImplicit false

/-! One call of the lab: what its next operation leaves of the run directories, that
`release_scenario` leaves all of them, and how the calls go that nothing disturbs. -/

namespace CausalOps.Lab

section Calls

variable {site : Site} {w : World} {proc : Proc} {fault : Option Fault}

/-- The phases of `release_scenario`. -/
def Phase.releases : Phase → Bool
  | .releaseLock | .releaseRead | .releaseUnlink | .leave _ | .ended _ => true
  | _ => false

theorem act_releases {disk : Disk} (h : proc.phase.releases = true) :
    (site.act proc disk fault).1.releases = true ∧
      (site.act proc disk fault).2.runs = disk.runs := by
  obtain ⟨id, contents, phase⟩ := proc
  cases phase with
  | releaseRead =>
      cases fault with
      | some fault => exact ⟨rfl, rfl⟩
      | none =>
          simp only [Site.act]
          split
          · exact ⟨rfl, rfl⟩
          · split <;> exact ⟨rfl, rfl⟩
          · exact ⟨rfl, rfl⟩
  | releaseLock | releaseUnlink | leave raised | ended raised =>
      cases fault <;> exact ⟨rfl, rfl⟩
  | _ => cases h

theorem place_procs (slot : Nat) (next : Option Proc) : (w.place slot next).procs slot = next :=
  if_pos rfl

/-- What one operation of the call in a slot leaves. -/
structure Acted (w w' : World) (slot : Nat) (proc : Proc) : Prop where
  called : ∃ phase, w'.procs slot = some { proc with phase := phase } ∧
    (proc.phase.releases = true → phase.releases = true)
  runs : ∀ other, other ≠ proc.id → w'.disk.runs other = w.disk.runs other
  released : proc.phase.releases = true → w'.disk.runs = w.disk.runs

theorem act_acted {slot : Nat} (h : w.procs slot = some proc) :
    Acted w (w.step site (.act slot fault)) slot proc := by
  simp only [World.step, h]
  cases hlocking : proc.phase.locking with
  | some phases =>
      obtain ⟨entered, failed⟩ := phases
      have hreleases : proc.phase.releases = true →
          entered.releases = true ∧ failed.releases = true := by
        intro hphase
        cases hp : proc.phase <;> rw [hp] at hphase hlocking <;> cases hphase <;> cases hlocking
        exact ⟨rfl, rfl⟩
      cases fault with
      | some fault =>
          exact ⟨⟨failed, place_procs _ _, fun h => (hreleases h).2⟩, fun _ _ => rfl,
            fun _ => rfl⟩
      | none =>
          cases hlock : w.lock with
          | some holder => exact ⟨⟨proc.phase, h, id⟩, fun _ _ => rfl, fun _ => rfl⟩
          | none =>
              exact ⟨⟨entered, place_procs _ _, fun h => (hreleases h).1⟩, fun _ _ => rfl,
                fun _ => rfl⟩
  | none =>
      cases hleaving : proc.phase.leaving with
      | some phases =>
          obtain ⟨left, failed⟩ := phases
          refine ⟨⟨_, place_procs _ _, ?_⟩, fun _ _ => rfl, fun _ => rfl⟩
          intro hphase
          cases hp : proc.phase <;> rw [hp] at hphase hleaving <;> cases hphase <;> cases hleaving
          split <;> rfl
      | none =>
          exact ⟨⟨_, place_procs _ _, fun h => (act_releases h).1⟩, fun _ hne => act_runs hne,
            fun h => (act_releases h).2⟩

theorem begin_disk {slot : Nat} {kind : Kind} {id : String} {contents : String → String} :
    (w.step site (.begin slot kind id contents)).disk = w.disk := by
  simp only [World.step]
  split <;> rfl

theorem begin_procs {slot : Nat} {kind : Kind} {id : String} {contents : String → String}
    (h : w.procs slot = none) :
    (w.step site (.begin slot kind id contents)).procs slot =
      some ⟨id, contents, kind.phase⟩ := by
  simp only [World.step, h]
  exact place_procs _ _

end Calls

section Undisturbed

variable {w : World} {slot : Nat} {proc : Proc} {lock : Option Nat} {disk disk' : Disk}
  {incidentId content : String} {contents : String → String}

structure At (w : World) (slot : Nat) (proc : Proc) (lock : Option Nat) (disk : Disk) : Prop where
  called : w.procs slot = some proc
  lock : w.lock = lock
  disk : w.disk = disk

theorem At.enters (site : Site) (h : At w slot proc none disk) {entered failed : Phase}
    (hphase : proc.phase.locking = some (entered, failed)) :
    At (w.step site (.act slot none)) slot { proc with phase := entered } (some slot) disk := by
  simp only [World.step, h.called, hphase, h.lock]
  exact ⟨place_procs _ _, rfl, h.disk⟩

theorem At.leaves (site : Site) (h : At w slot proc lock disk)
    (hlocking : proc.phase.locking = none) {left failed : Phase}
    (hphase : proc.phase.leaving = some (left, failed)) :
    At (w.step site (.act slot none)) slot { proc with phase := left } none disk := by
  simp only [World.step, h.called, hlocking, hphase]
  exact ⟨place_procs _ _, rfl, h.disk⟩

theorem At.acts (site : Site) (h : At w slot proc lock disk)
    (hlocking : proc.phase.locking = none) (hleaving : proc.phase.leaving = none) {phase : Phase}
    (hact : site.act proc disk none = (phase, disk')) :
    At (w.step site (.act slot none)) slot { proc with phase := phase } lock disk' := by
  simp only [World.step, h.called, hlocking, hleaving, h.disk, hact]
  exact ⟨place_procs _ _, h.lock, rfl⟩

variable (site : Site)

theorem begin_at {kind : Kind} (hprocs : w.procs slot = none) (hlock : w.lock = none) :
    At (w.step site (.begin slot kind incidentId contents)) slot
      ⟨incidentId, contents, kind.phase⟩ none w.disk := by
  refine ⟨begin_procs hprocs, ?_, begin_disk⟩
  simp only [World.step, hprocs]
  exact hlock

/-- `release_scenario` of the marked incident. -/
theorem release_ends (h : At w slot ⟨incidentId, contents, .releaseLock⟩ none disk)
    (hmarker : disk.marker = some (.text content)) (hname : Text.strip content = incidentId) :
    At (w.run site (List.replicate 4 (.act slot none))) slot
      ⟨incidentId, contents, .ended false⟩ none (disk.setMarker none) := by
  have hread : At _ slot ⟨incidentId, contents, .releaseRead⟩ (some slot) disk :=
    h.enters site rfl
  have hunlink : At _ slot ⟨incidentId, contents, .releaseUnlink⟩ (some slot) disk :=
    hread.acts site rfl rfl (by simp [Site.act, hmarker, Marker.names, hname])
  have hleave := hunlink.acts site rfl rfl rfl
  exact hleave.leaves site rfl rfl

/-- `reset_scenario` of the marked incident, when its run directory is there. -/
theorem reset_ends (h : At w slot ⟨incidentId, contents, .resetLock⟩ none disk)
    (hmarker : disk.marker = some (.text content)) (hname : Text.strip content = incidentId)
    (halnum : site.isalnum incidentId = true) {files : RunFiles}
    (hfiles : disk.runs incidentId = some files) :
    At (w.run site (List.replicate 6 (.act slot none))) slot
      ⟨incidentId, contents, .ended false⟩ none
      ((disk.setMarker none).setRun incidentId none) := by
  have hcheck : At _ slot ⟨incidentId, contents, .resetCheck⟩ (some slot) disk :=
    h.enters site rfl
  have hread : At _ slot ⟨incidentId, contents, .resetRead⟩ (some slot) disk :=
    hcheck.acts site rfl rfl (by simp [Site.act, halnum, hfiles])
  have hunlink : At _ slot ⟨incidentId, contents, .resetUnlink⟩ (some slot) disk :=
    hread.acts site rfl rfl (by simp [Site.act, hmarker, Marker.names, hname])
  have hremove := hunlink.acts site rfl rfl rfl
  have hleave := hremove.acts site rfl rfl rfl
  exact hleave.leaves site rfl rfl

/-- `reset_scenario` raises when there is no run directory. -/
theorem reset_refused (h : At w slot ⟨incidentId, contents, .resetLock⟩ none disk)
    (hfiles : disk.runs incidentId = none) :
    At (w.run site (List.replicate 3 (.act slot none))) slot
      ⟨incidentId, contents, .ended true⟩ none disk := by
  have hcheck : At _ slot ⟨incidentId, contents, .resetCheck⟩ (some slot) disk :=
    h.enters site rfl
  have hleave : At _ slot ⟨incidentId, contents, .leave true⟩ (some slot) disk :=
    hcheck.acts site rfl rfl (by simp [Site.act, hfiles])
  exact hleave.leaves site rfl rfl

end Undisturbed

end CausalOps.Lab
