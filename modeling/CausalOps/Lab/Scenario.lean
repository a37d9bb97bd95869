import CausalOps.Library.Text

set_option autoImplicit false

/-! The lab's active-scenario marker and the run directories: `start_scenario`,
`reset_scenario` and `release_scenario`, file operation by file operation. Any of these may
fail, and a process may die between any two of them. -/

namespace CausalOps.Lab

section Disk

/-- The files of one run directory, by their path in it. -/
abbrev RunFiles := String → Option String

/-- What `active-incident.txt` holds: UTF-8 text, or bytes that do not decode. -/
inductive Marker where
  | text (content : String)
  | undecodable
  deriving DecidableEq, Repr

/-- The directory `runs`: the run directories in it, and the marker. -/
structure Disk where
  runs : String → Option RunFiles
  marker : Option Marker

def Disk.setRun (disk : Disk) (name : String) (files : Option RunFiles) : Disk :=
  { disk with runs := fun other => if other = name then files else disk.runs other }

def Disk.setMarker (disk : Disk) (marker : Option Marker) : Disk := { disk with marker := marker }

/-- `str.isalnum`, and whether a text that is no such name leads to a directory when it is
joined to `runs`: of the latter only that more directories lead to no fewer. -/
structure Site where
  isalnum : String → Bool
  elsewhere : (String → Option RunFiles) → String → Bool
  isalnum_strip : ∀ name, isalnum name = true → Text.strip name = name
  isalnum_ne : ∀ name, isalnum name = true → name ≠ ""
  elsewhere_mono : ∀ runs runs' : String → Option RunFiles,
    (∀ name, (runs name).isSome = true → (runs' name).isSome = true) →
      ∀ name, elsewhere runs name = true → elsewhere runs' name = true

/-- `(runs_root(root) / active).is_dir()`. -/
def Site.isDir (site : Site) (disk : Disk) (active : String) : Bool :=
  if site.isalnum active then (disk.runs active).isSome else site.elsewhere disk.runs active

end Disk

section Processes

/-- What `start_scenario` does once it has the marker. `work` is what touches no file: the
clock, the traffic and its checks, the wait, the incident packet. A write names its document:
`lab/config.json` holds two in turn. -/
inductive BodyStep where
  | directory
  | write (path document : String)
  | writeExisting (path document : String)
  | work
  deriving DecidableEq, Repr

def bodySteps : List BodyStep :=
  [.directory, .write "lab/config.json" "healthy_config", .work,
    .write "lab/config.json" "faulted_config", .work, .write "topology.json" "topology",
    .write "changes.json" "changes", .work, .writeExisting "incident.json" "incident",
    .write "evaluator/expected.json" "expected"]

inductive Phase where
  | startLoad
  | startLock
  | startMkdir
  | startRead
  | startCheck (active : String)
  | startUnlink
  | startCreate
  | startWrite
  | startUndo
  | startLeave
  | startBody (rest : List BodyStep)
  | raisedLeave
  | cleanLock
  | cleanRead
  | cleanUnlink
  | cleanRemove
  | resetLock
  | resetCheck
  | resetRead
  | resetUnlink
  | resetRemove
  | releaseLock
  | releaseRead
  | releaseUnlink
  | leave (raised : Bool)
  | ended (raised : Bool)
  deriving DecidableEq, Repr

/-- A call: its incident, the text of each document it writes, and where it is. -/
structure Proc where
  id : String
  contents : String → String
  phase : Phase

/-- An operation that raises: what it leaves of the run directory it works on, and how much
of the marker it has written. -/
structure Fault where
  left : RunFiles
  gone : Bool
  written : Nat

/-- What a failing removal leaves: some of the files, or no directory any more. -/
def Disk.removePartly (disk : Disk) (name : String) (fault : Fault) : Disk :=
  match disk.runs name with
  | none => disk
  | some _ => disk.setRun name (if fault.gone then none else some fault.left)

/-- What a failing write leaves, when the directory is there. -/
def Disk.writePartly (disk : Disk) (name : String) (fault : Fault) : Disk :=
  match disk.runs name with
  | none => if fault.gone then disk else disk.setRun name (some fault.left)
  | some _ => disk.setRun name (some fault.left)

def Disk.writeFile (disk : Disk) (name path content : String) : Disk :=
  disk.setRun name (some fun other =>
    if other = path then some content else (disk.runs name).bind fun files => files other)

def Site.bodyStep (proc : Proc) (step : BodyStep) (rest : List BodyStep) (disk : Disk) :
    Phase × Disk :=
  match step with
  | .directory =>
      match disk.runs proc.id with
      | some _ => (.startBody rest, disk)
      | none => (.startBody rest, disk.setRun proc.id (some fun _ => none))
  | .write path document =>
      (.startBody rest, disk.writeFile proc.id path (proc.contents document))
  | .writeExisting path document =>
      match disk.runs proc.id with
      | none => (.cleanLock, disk)
      | some _ => (.startBody rest, disk.writeFile proc.id path (proc.contents document))
  | .work => (.startBody rest, disk)

/-- Whether the marker names this incident: `read_text().strip() == incident_id`. -/
def Marker.names (content id : String) : Bool := Text.strip content = id

/-- The next operation of a call that needs no lock for it or holds it. -/
def Site.act (site : Site) (proc : Proc) (disk : Disk) (fault : Option Fault) : Phase × Disk :=
  match proc.phase, fault with
  | .startLoad, none => (if site.isalnum proc.id then .startLock else .ended true, disk)
  | .startLoad, some _ => (.ended true, disk)
  | .startMkdir, none =>
      match disk.runs proc.id with
      | some _ => (.raisedLeave, disk)
      | none => (.startRead, disk.setRun proc.id (some fun _ => none))
  | .startRead, none =>
      match disk.marker with
      | none => (.startCreate, disk)
      | some (.text content) => (.startCheck (Text.strip content), disk)
      | some .undecodable => (.raisedLeave, disk)
  | .startCheck active, none =>
      if active = "" || site.isDir disk active then (.raisedLeave, disk)
      else (.startUnlink, disk)
  | .startUnlink, none => (.startCreate, disk.setMarker none)
  | .startCreate, none =>
      match disk.marker with
      | none => (.startWrite, disk.setMarker (some (.text "")))
      | some _ => (.raisedLeave, disk)
  | .startWrite, none => (.startLeave, disk.setMarker (some (.text proc.id)))
  | .startWrite, some fault =>
      (.startUndo, disk.setMarker
        (some (.text (String.ofList (proc.id.toList.take fault.written)))))
  | .startUndo, none => (.raisedLeave, disk.setMarker none)
  | .startMkdir, some _ | .startRead, some _ | .startCheck _, some _ | .startUnlink, some _
  | .startCreate, some _ | .startUndo, some _ => (.raisedLeave, disk)
  | .startBody [], _ => (.ended false, disk)
  | .startBody (step :: rest), none => Site.bodyStep proc step rest disk
  | .startBody (_ :: _), some fault => (.cleanLock, disk.writePartly proc.id fault)
  | .cleanRead, none =>
      match disk.marker with
      | none => (.cleanRemove, disk)
      | some (.text content) =>
          (if Marker.names content proc.id then .cleanUnlink else .cleanRemove, disk)
      | some .undecodable => (.leave true, disk)
  | .cleanUnlink, none => (.cleanRemove, disk.setMarker none)
  | .cleanRead, some _ | .cleanUnlink, some _ => (.leave true, disk)
  | .cleanRemove, none => (.leave true, disk.setRun proc.id none)
  | .cleanRemove, some fault => (.leave true, disk.removePartly proc.id fault)
  | .resetCheck, none =>
      if site.isalnum proc.id && (disk.runs proc.id).isSome then (.resetRead, disk)
      else (.leave true, disk)
  | .resetRead, none =>
      match disk.marker with
      | none => (.resetRemove, disk)
      | some (.text content) =>
          (if Marker.names content proc.id then .resetUnlink else .resetRemove, disk)
      | some .undecodable => (.leave true, disk)
  | .resetUnlink, none => (.resetRemove, disk.setMarker none)
  | .resetCheck, some _ | .resetRead, some _ | .resetUnlink, some _ => (.leave true, disk)
  | .resetRemove, none => (.leave false, disk.setRun proc.id none)
  | .resetRemove, some fault => (.leave true, disk.removePartly proc.id fault)
  | .releaseRead, none =>
      match disk.marker with
      | none => (.leave false, disk)
      | some (.text content) =>
          (if Marker.names content proc.id then .releaseUnlink else .leave false, disk)
      | some .undecodable => (.leave true, disk)
  | .releaseUnlink, none => (.leave false, disk.setMarker none)
  | .releaseRead, some _ | .releaseUnlink, some _ => (.leave true, disk)
  | phase, _ => (phase, disk)

/-- Where a call goes with the lock, and where it goes when it does not get it. -/
def Phase.locking : Phase → Option (Phase × Phase)
  | .startLock => some (.startMkdir, .cleanLock)
  | .cleanLock => some (.cleanRead, .ended true)
  | .resetLock => some (.resetCheck, .ended true)
  | .releaseLock => some (.releaseRead, .ended true)
  | _ => none

/-- Where a call goes when its transaction ends, and where when COMMIT raises. -/
def Phase.leaving : Phase → Option (Phase × Phase)
  | .startLeave => some (.startBody bodySteps, .cleanLock)
  | .raisedLeave => some (.cleanLock, .cleanLock)
  | .leave raised => some (.ended raised, .ended true)
  | _ => none

end Processes

section World

structure World where
  disk : Disk
  lock : Option Nat
  procs : Nat → Option Proc

def World.start (disk : Disk) : World := ⟨disk, none, fun _ => none⟩

def World.place (w : World) (slot : Nat) (proc : Option Proc) : World :=
  { w with procs := fun other => if other = slot then proc else w.procs other }

inductive Kind where
  | start
  | reset
  | release
  deriving DecidableEq, Repr

def Kind.phase : Kind → Phase
  | .start => .startLoad
  | .reset => .resetLock
  | .release => .releaseLock

/-- A call that begins, its next operation, or its death. -/
inductive Event where
  | begin (slot : Nat) (kind : Kind) (id : String) (contents : String → String)
  | act (slot : Nat) (fault : Option Fault)
  | crash (slot : Nat)

/-- The next operation. A call that finds the lock taken waits; the write transaction of a
process that dies is rolled back, which frees the lock. -/
def World.step (site : Site) (w : World) : Event → World
  | .begin slot kind id contents =>
      match w.procs slot with
      | some _ => w
      | none => w.place slot (some ⟨id, contents, kind.phase⟩)
  | .act slot fault =>
      match w.procs slot with
      | none => w
      | some proc =>
          match proc.phase.locking with
          | some (entered, failed) =>
              match fault, w.lock with
              | some _, _ => w.place slot (some { proc with phase := failed })
              | none, some _ => w
              | none, none =>
                  { w with lock := some slot }.place slot (some { proc with phase := entered })
          | none =>
              match proc.phase.leaving with
              | some (left, failed) =>
                  let phase := if fault.isSome then failed else left
                  { w with lock := none }.place slot (some { proc with phase := phase })
              | none =>
                  let (phase, disk) := site.act proc w.disk fault
                  { w with disk := disk }.place slot (some { proc with phase := phase })
  | .crash slot =>
      { w with lock := if w.lock = some slot then none else w.lock }.place slot none

def World.run (site : Site) (w : World) (events : List Event) : World :=
  events.foldl (World.step site) w

def Phase.locked : Phase → Bool
  | .startLoad | .startLock | .startBody _ | .cleanLock | .resetLock | .releaseLock
  | .ended _ => false
  | _ => true

/-- A site whose ids are ASCII, and where no other text leads to a directory. -/
def sampleSite : Site where
  isalnum := Text.isAlnum
  elsewhere := fun _ _ => false
  isalnum_strip := fun _ h => Text.strip_of_isAlnum h
  isalnum_ne := fun _ h => Text.ne_of_isAlnum h
  elsewhere_mono := fun _ _ _ _ h => h

def emptyDisk : Disk := ⟨fun _ => none, none⟩

end World

end CausalOps.Lab
