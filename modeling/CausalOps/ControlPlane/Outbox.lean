import CausalOps.ControlPlane.Sqlite.Retries

set_option autoImplicit false

/-! The outbox: report deliveries of the SQLite control plane, and the senders that hand
them off as files. Any number of senders run at once, fail and crash between any two system
calls, and send a claim again. -/

namespace CausalOps.ControlPlane.Outbox

open Sqlite (Incident)

section Payload

def hexDigit (n : Nat) : Char := if n < 10 then Char.ofNat (48 + n) else Char.ofNat (87 + n)

def escapeUnit (n : Nat) : String :=
  "\\u" ++ String.ofList [hexDigit (n / 4096 % 16), hexDigit (n / 256 % 16),
    hexDigit (n / 16 % 16), hexDigit (n % 16)]

/-- One character of a string as `json.dumps` writes it. -/
def escapeChar (c : Char) : String :=
  match c.toNat with
  | 34 => "\\\""
  | 92 => "\\\\"
  | 10 => "\\n"
  | 13 => "\\r"
  | 9 => "\\t"
  | 8 => "\\b"
  | 12 => "\\f"
  | n =>
      if 32 ≤ n ∧ n ≤ 126 then String.singleton c
      else if n < 65536 then escapeUnit n
      else escapeUnit (55296 + (n - 65536) / 1024) ++ escapeUnit (56320 + (n - 65536) % 1024)

def quoted (text : String) : String :=
  "\"" ++ String.join (text.toList.map escapeChar) ++ "\""

def payload (destinationEmail reportContent reportSha256 : String) : String :=
  "\x7b\"destination_email\": " ++ quoted destinationEmail ++
    ", \"report_content\": " ++ quoted reportContent ++
    ", \"report_sha256\": " ++ quoted reportSha256 ++ "\x7d"

def claimPayload (claim : DeliveryClaim) : String :=
  payload claim.destinationEmail claim.reportContent claim.reportSha256

end Payload

section Senders

abbrev Files := String → Option String

def Files.put (files : Files) (name content : String) : Files :=
  fun other => if other = name then some content else files other

def Files.remove (files : Files) (name : String) : Files :=
  fun other => if other = name then none else files other

inductive SendError where
  | conflict
  | os
  deriving DecidableEq, Repr

/-- The system call that `send` makes next. -/
inductive SendPhase where
  | making
  | opening
  | writing
  | linking
  | comparing
  | unlinking (raised : Option SendError)
  | ended (raised : Option SendError)
  deriving DecidableEq, Repr

structure Sender where
  claim : DeliveryClaim
  fresh : Uuid
  phase : SendPhase

def targetName (deliveryId : String) : String := deliveryId ++ ".json"

def temporaryName (target : String) (fresh : Uuid) : String :=
  "." ++ target ++ "." ++ fresh.hex ++ ".tmp"

def Sender.target (sender : Sender) : String := targetName sender.claim.deliveryId

def Sender.temporary (sender : Sender) : String := temporaryName sender.target sender.fresh

def Sender.goto (sender : Sender) (phase : SendPhase) : Sender := { sender with phase := phase }

/-- `FilesystemReportDeliverySender.send`, one system call. -/
def Sender.act (sender : Sender) (files : Files) : Sender × Files :=
  match sender.phase with
  | .making => (sender.goto .opening, files)
  | .opening =>
      match files sender.temporary with
      | some _ => (sender.goto .comparing, files)
      | none => (sender.goto .writing, files.put sender.temporary "")
  | .writing => (sender.goto .linking, files.put sender.temporary (claimPayload sender.claim))
  | .linking =>
      match files sender.temporary, files sender.target with
      | none, _ => (sender.goto (.unlinking (some .os)), files)
      | some _, some _ => (sender.goto .comparing, files)
      | some content, none => (sender.goto (.unlinking none), files.put sender.target content)
  | .comparing =>
      match files sender.target with
      | none => (sender.goto (.unlinking (some .os)), files)
      | some content =>
          if content ≠ claimPayload sender.claim then
            (sender.goto (.unlinking (some .conflict)), files)
          else (sender.goto (.unlinking none), files)
  | .unlinking raised => (sender.goto (.ended raised), files.remove sender.temporary)
  | .ended _ => (sender, files)

/-- What a write that is cut short leaves of the temporary file. -/
def Sender.partly (sender : Sender) (written : Nat) (files : Files) : Files :=
  match sender.phase with
  | .writing => files.put sender.temporary
      (String.ofList ((claimPayload sender.claim).toList.take written))
  | _ => files

/-- The system call raises an OSError instead, and `finally` follows. -/
def Sender.failed (sender : Sender) : Sender :=
  match sender.phase with
  | .making => sender.goto (.ended (some .os))
  | .unlinking _ => sender.goto (.ended (some .os))
  | .ended _ => sender
  | _ => sender.goto (.unlinking (some .os))

/-- The claim and the drawn id of a sender do not change. -/
structure Sender.Same (sender sender' : Sender) : Prop where
  claim : sender'.claim = sender.claim
  fresh : sender'.fresh = sender.fresh

theorem Sender.act_same (sender : Sender) (files : Files) :
    sender.Same (sender.act files).1 := by
  unfold Sender.act
  split
  · exact ⟨rfl, rfl⟩
  · split <;> exact ⟨rfl, rfl⟩
  · exact ⟨rfl, rfl⟩
  · split <;> exact ⟨rfl, rfl⟩
  · split
    · exact ⟨rfl, rfl⟩
    · split <;> exact ⟨rfl, rfl⟩
  · exact ⟨rfl, rfl⟩
  · exact ⟨rfl, rfl⟩

theorem Sender.failed_same (sender : Sender) : sender.Same sender.failed := by
  unfold Sender.failed
  split <;> exact ⟨rfl, rfl⟩

end Senders

section World

/-- The control plane, the delivery claims it has handed out, the files, the senders, and
the ids they have drawn. -/
structure World where
  store : Sqlite.Store
  claims : List DeliveryClaim
  files : Files
  senders : Nat → Option Sender
  drawn : List Uuid

def World.start : World := ⟨.empty, [], fun _ => none, fun _ => none, []⟩

def World.place (w : World) (slot : Nat) (sender : Option Sender) (files : Files) : World :=
  { w with
    files := files
    senders := fun other => if other = slot then sender else w.senders other }

/-- What can happen: anything to the databases; a sender that starts with a claim that was
handed out, and draws an id that no sender has drawn; its next system call, made, failed or
cut short by a crash. -/
inductive Event where
  | incident (incident : Incident)
  | start (slot : Nat) (claim : DeliveryClaim) (fresh : Uuid)
  | act (slot : Nat)
  | fail (slot written : Nat)
  | crash (slot written : Nat)

/-- The claim that a call of `claim_delivery` returns. -/
def handedOut (s : Settings) (store : Sqlite.Store) : Incident → List DeliveryClaim
  | .call a .claimDelivery =>
      match (Sqlite.step s store (a, .claimDelivery)).1 with
      | .ok (.delivery (some claim)) => [claim]
      | _ => []
  | _ => []

def World.step (s : Settings) (w : World) : Event → World
  | .incident incident =>
      { w with
        store := (Sqlite.happen s w.store incident).2
        claims := handedOut s w.store incident ++ w.claims }
  | .start slot claim fresh =>
      if claim ∈ w.claims ∧ fresh ∉ w.drawn ∧ (w.senders slot).isNone then
        { w with drawn := fresh :: w.drawn }.place slot (some ⟨claim, fresh, .making⟩) w.files
      else w
  | .act slot =>
      match w.senders slot with
      | none => w
      | some sender => w.place slot (some (sender.act w.files).1) (sender.act w.files).2
  | .fail slot written =>
      match w.senders slot with
      | none => w
      | some sender => w.place slot (some sender.failed) (sender.partly written w.files)
  | .crash slot written =>
      match w.senders slot with
      | none => w
      | some sender => w.place slot none (sender.partly written w.files)

def World.run (s : Settings) (w : World) (events : List Event) : World :=
  events.foldl (World.step s) w

end World

section Names

theorem toList_temporaryName (target : String) (fresh : Uuid) :
    (temporaryName target fresh).toList =
      (".".toList ++ target.toList ++ ".".toList) ++ (fresh.hex.toList ++ ".tmp".toList) := by
  simp [temporaryName]

theorem temporaryName_ne (target id : String) (fresh : Uuid) :
    temporaryName target fresh ≠ targetName id := by
  intro h
  have hlast : ∀ front : List Char, (front ++ ".tmp".toList).getLast? = some 'p' := by
    intro front
    simp
  have hchars := congrArg (fun name : String => name.toList.getLast?) h
  have htemporary : (temporaryName target fresh).toList.getLast? = some 'p' := by
    rw [toList_temporaryName, ← List.append_assoc]
    exact hlast _
  have htarget : (targetName id).toList.getLast? = some 'n' := by simp [targetName]
  simp only [htemporary, htarget] at hchars
  exact absurd hchars (by decide)

theorem targetName_inj {id id' : String} (h : targetName id = targetName id') : id = id' := by
  have hchars : id.toList ++ ".json".toList = id'.toList ++ ".json".toList := by
    simpa [targetName] using congrArg String.toList h
  exact String.toList_inj.1 (List.append_cancel_right hchars)

theorem temporaryName_ne_of_fresh {target target' : String} {fresh fresh' : Uuid}
    (h : fresh ≠ fresh') : temporaryName target fresh ≠ temporaryName target' fresh' := by
  intro heq
  have hchars : (temporaryName target fresh).toList = (temporaryName target' fresh').toList :=
    congrArg String.toList heq
  rw [toList_temporaryName, toList_temporaryName] at hchars
  have hlength : (fresh.hex.toList ++ ".tmp".toList).length =
      (fresh'.hex.toList ++ ".tmp".toList).length := by
    have hfresh : fresh.hex.toList.length = 32 := fresh.wellFormed.1
    have hfresh' : fresh'.hex.toList.length = 32 := fresh'.wellFormed.1
    simp only [List.length_append, hfresh, hfresh']
  have htails := (List.append_inj' hchars hlength).2
  have hhex := String.toList_inj.1 (List.append_cancel_right htails)
  cases fresh
  cases fresh'
  cases hhex
  exact h rfl

end Names

section Claims

variable {s : Settings} {db db' : Sqlite.Database}

/-- The job of a delivery claim: completed, with the report, the digest and the owner that
the claim carries. -/
structure Recorded (db : Sqlite.Database) (claim : DeliveryClaim) (job : Job) : Prop where
  stored : (db.thread claim.deliveryId).job = some job
  completed : job.status = .completed
  owner : job.owner = claim.destinationEmail
  content : job.reportContent = some claim.reportContent
  digest : job.reportSha256 = some claim.reportSha256

theorem Recorded.later {claim : DeliveryClaim} {job : Job} (h : Recorded db claim job)
    (hlater : ∀ id, (db.thread id).Later (db'.thread id)) : Recorded db' claim job := by
  obtain ⟨job', hjob', hkept⟩ := (hlater claim.deliveryId).job job h.stored
  rw [hkept.absorbed (.inr h.completed)] at hjob'
  exact ⟨hjob', h.completed, h.owner, h.content, h.digest⟩

theorem deliveryClaim_recorded {job : Job} {email token : String} {claim : DeliveryClaim}
    (h : Sqlite.deliveryClaim job email token = .ok claim) :
    claim.deliveryId = job.id ∧ claim.destinationEmail = email ∧
      job.reportContent = some claim.reportContent ∧
      job.reportSha256 = some claim.reportSha256 := by
  simp only [Sqlite.deliveryClaim] at h
  split at h
  · rename_i artifact content digest hartifact hcontent hdigest
    obtain rfl := Except.ok.inj h
    exact ⟨rfl, rfl, hcontent, hdigest⟩
  · cases h

/-- What `claim_delivery` hands out. -/
theorem claimDelivery_recorded (hgoverned : Sqlite.Governed s db) {a : Ambient}
    {claim : DeliveryClaim} (h : Sqlite.claimDelivery s a db = .ok (.delivery (some claim), db')) :
    ∃ job, Recorded db' claim job := by
  have hmoves : Sqlite.Moves s Sqlite.anyRules db
      (Sqlite.reclaimExpiredDeliveries s a.now db) :=
    Sqlite.reclaimExpiredDeliveries_moves hgoverned.keys
  have hreclaimed : Sqlite.Governed s (Sqlite.reclaimExpiredDeliveries s a.now db) :=
    hgoverned.moves hmoves
  have hkeys := hreclaimed.keys
  simp only [Sqlite.claimDelivery] at h
  split at h
  · cases h
  · rename_i delivery job hselected
    have hmem := List.argmin_mem hselected
    simp only [List.mem_filter] at hmem
    obtain ⟨hdelivery, hjob⟩ := Sqlite.joined_mem hmem.1
    have hid := Sqlite.job_id hjob
    split at h
    · cases h
    · rename_i handed hhanded
      obtain ⟨hreply, rfl⟩ := Prod.mk.inj (Except.ok.inj h)
      obtain rfl : handed = claim := by simpa using hreply
      obtain ⟨hclaimId, hemail, hcontent, hdigest⟩ := deliveryClaim_recorded hhanded
      have hrow := Sqlite.thread_delivery_mem hkeys hdelivery
      have hthread : ((Sqlite.reclaimExpiredDeliveries s a.now db).thread delivery.jobId).job =
          some job.toJob := Sqlite.thread_of_job hjob
      have hsound := hreclaimed.threads delivery.jobId
      have hcompleted := (hsound.delivered _ hthread).1 ⟨_, hrow⟩
      refine ⟨job.toJob, ?_, hcompleted, ?_, hcontent, hdigest⟩
      · rw [hclaimId, hid]
        exact hthread
      · rw [hemail, hsound.addressed _ _ hthread hrow]

theorem handedOut_recorded {store : Sqlite.Store} (hgoverned : Sqlite.Governed s store.control)
    (incident : Incident) {claim : DeliveryClaim}
    (h : claim ∈ handedOut s store incident) :
    ∃ job, Recorded (Sqlite.happen s store incident).2.control claim job := by
  unfold handedOut at h
  split at h
  · rename_i a
    split at h
    · rename_i handed hanswer
      obtain rfl := List.mem_singleton.1 h
      revert hanswer
      simp only [Sqlite.happen, Sqlite.step, Sqlite.method, Sqlite.precheck, Sqlite.body,
        Sqlite.run_transaction]
      cases hrun : Sqlite.claimDelivery s a store.control with
      | error e =>
          intro hanswer
          cases hanswer
      | ok answer =>
          obtain ⟨reply, db'⟩ := answer
          intro hanswer
          obtain rfl : reply = .delivery (some claim) := Except.ok.inj hanswer
          exact claimDelivery_recorded hgoverned hrun
    · cases h
  · cases h

end Claims

section Invariant

variable {s : Settings} {w : World}

def Progress (sender : Sender) (files : Files) : Prop :=
  match sender.phase with
  | .linking => ∀ content, files sender.temporary = some content →
      content = claimPayload sender.claim
  | .unlinking raised => raised ≠ some .conflict
  | .ended raised => raised ≠ some .conflict
  | _ => True

/-- A file is a temporary one, or holds the payload of a claim under the claim's name. -/
def FileSound (claims : List DeliveryClaim) (name content : String) : Prop :=
  (∃ target fresh, name = temporaryName target fresh) ∨
    ∃ claim ∈ claims, name = targetName claim.deliveryId ∧ content = claimPayload claim

structure WorldSound (s : Settings) (w : World) : Prop where
  governed : Sqlite.Governed s w.store.control
  claims : ∀ claim ∈ w.claims, ∃ job, Recorded w.store.control claim job
  files : ∀ name content, w.files name = some content → FileSound w.claims name content
  claimed : ∀ slot sender, w.senders slot = some sender → sender.claim ∈ w.claims
  drawn : ∀ slot sender, w.senders slot = some sender → sender.fresh ∈ w.drawn
  progress : ∀ slot sender, w.senders slot = some sender → Progress sender w.files
  apart : ∀ slot slot' sender sender', w.senders slot = some sender →
    w.senders slot' = some sender' → slot ≠ slot' → sender.fresh ≠ sender'.fresh

theorem worldSound_start : WorldSound s .start where
  governed := Sqlite.governed_empty
  claims := fun _ h => by cases h
  files := fun _ _ h => by cases h
  claimed := fun _ _ h => by cases h
  drawn := fun _ _ h => by cases h
  progress := fun _ _ h => by cases h
  apart := fun _ _ _ _ h => by cases h

theorem WorldSound.payload_eq (h : WorldSound s w) {claim claim' : DeliveryClaim}
    (hclaim : claim ∈ w.claims) (hclaim' : claim' ∈ w.claims)
    (hid : claim.deliveryId = claim'.deliveryId) : claimPayload claim = claimPayload claim' := by
  obtain ⟨job, hjob⟩ := h.claims claim hclaim
  obtain ⟨job', hjob'⟩ := h.claims claim' hclaim'
  have hstored := hjob.stored
  rw [hid, hjob'.stored] at hstored
  obtain rfl := Option.some.inj hstored
  have howner := hjob.owner.symm.trans hjob'.owner
  have hcontent := Option.some.inj (hjob.content.symm.trans hjob'.content)
  have hdigest := Option.some.inj (hjob.digest.symm.trans hjob'.digest)
  simp only [claimPayload, howner, hcontent, hdigest]

/-- What one system call of a sender may do to the files: it writes its own temporary file,
or a delivery file with the payload of its claim. -/
structure Wrote (sender : Sender) (before after : Files) : Prop where
  others : ∀ name, name ≠ sender.temporary → after name = before name ∨
    name = sender.target ∧ after name = some (claimPayload sender.claim)

theorem put_wrote (sender : Sender) (files : Files) (content : String) :
    Wrote sender files (files.put sender.temporary content) :=
  ⟨fun _ hne => .inl (if_neg hne)⟩

theorem partly_wrote (sender : Sender) (written : Nat) (files : Files) :
    Wrote sender files (sender.partly written files) := by
  unfold Sender.partly
  split
  · exact put_wrote sender files _
  · exact ⟨fun _ _ => .inl rfl⟩

theorem act_sound {sender : Sender} {files : Files} (hprogress : Progress sender files)
    (hfile : ∀ content, files sender.target = some content →
      content = claimPayload sender.claim) :
    Wrote sender files (sender.act files).2 ∧
      Progress (sender.act files).1 (sender.act files).2 := by
  have hstill : Wrote sender files files := ⟨fun _ _ => .inl rfl⟩
  cases hphase : sender.phase with
  | making =>
      simp only [Sender.act, hphase]
      exact ⟨hstill, trivial⟩
  | opening =>
      simp only [Sender.act, hphase]
      split
      · exact ⟨hstill, trivial⟩
      · exact ⟨put_wrote sender files "", trivial⟩
  | writing =>
      simp only [Sender.act, hphase]
      refine ⟨put_wrote sender files _, fun content hcontent => ?_⟩
      have hput : (files.put sender.temporary (claimPayload sender.claim)) sender.temporary =
          some (claimPayload sender.claim) := if_pos rfl
      exact (Option.some.inj (hput.symm.trans hcontent)).symm
  | linking =>
      have hwritten : ∀ content, files sender.temporary = some content →
          content = claimPayload sender.claim := by
        simpa only [Progress, hphase] using hprogress
      simp only [Sender.act, hphase]
      split
      · exact ⟨hstill, nofun⟩
      · exact ⟨hstill, trivial⟩
      · rename_i content htemporary htarget
        refine ⟨⟨fun name _ => ?_⟩, nofun⟩
        by_cases hname : name = sender.target
        · refine .inr ⟨hname, ?_⟩
          rw [hname, ← hwritten content htemporary]
          exact if_pos rfl
        · exact .inl (if_neg hname)
  | comparing =>
      simp only [Sender.act, hphase]
      split
      · exact ⟨hstill, nofun⟩
      · rename_i content htarget
        rw [if_neg (not_not.2 (hfile content htarget))]
        exact ⟨hstill, nofun⟩
  | unlinking raised =>
      have hraised : raised ≠ some .conflict := by
        simpa only [Progress, hphase] using hprogress
      simp only [Sender.act, hphase]
      exact ⟨⟨fun name hne => .inl (if_neg hne)⟩, hraised⟩
  | ended raised =>
      simp only [Sender.act, hphase]
      exact ⟨hstill, by simpa only [Progress, hphase] using hprogress⟩

theorem failed_progress {sender : Sender} {files : Files} (written : Nat)
    (hprogress : Progress sender files) :
    Progress sender.failed (sender.partly written files) := by
  cases hphase : sender.phase with
  | ended raised =>
      simp only [Sender.failed, Sender.partly, hphase]
      simpa only [Progress, hphase] using hprogress
  | _ => simp [Sender.failed, Sender.goto, Progress, hphase]

end Invariant

section Runs

variable {s : Settings} {w : World}

theorem Wrote.progress {sender other : Sender} {before after : Files}
    (h : Wrote sender before after) (hfresh : other.fresh ≠ sender.fresh)
    (hprogress : Progress other before) : Progress other after := by
  have hname : other.temporary ≠ sender.temporary := temporaryName_ne_of_fresh hfresh
  have hsame : after other.temporary = before other.temporary := by
    rcases h.others other.temporary hname with hsame | ⟨htarget, -⟩
    · exact hsame
    · exact absurd htarget (temporaryName_ne _ _ _)
  cases hphase : other.phase with
  | linking =>
      simp only [Progress, hphase] at hprogress ⊢
      rw [hsame]
      exact hprogress
  | unlinking raised | ended raised => simpa only [Progress, hphase] using hprogress
  | making | opening | writing | comparing => simp only [Progress, hphase]

theorem WorldSound.place (h : WorldSound s w) {slot : Nat} {sender : Sender}
    (hsender : w.senders slot = some sender) {next : Option Sender} {files : Files}
    (hnext : ∀ sender', next = some sender' →
      sender.Same sender' ∧ Progress sender' files)
    (hwrote : Wrote sender w.files files) : WorldSound s (w.place slot next files) := by
  have hslot : ∀ slot' sender', (w.place slot next files).senders slot' = some sender' →
      (slot' = slot ∧ next = some sender') ∨ (slot' ≠ slot ∧ w.senders slot' = some sender') := by
    intro slot' sender' h'
    by_cases hsame : slot' = slot
    · exact .inl ⟨hsame, by simpa [World.place, hsame] using h'⟩
    · exact .inr ⟨hsame, by simpa [World.place, hsame] using h'⟩
  have hfreshest : ∀ slot' sender', (w.place slot next files).senders slot' = some sender' →
      ∃ old, w.senders slot' = some old ∧ old.fresh = sender'.fresh := by
    intro slot' sender' h'
    rcases hslot slot' sender' h' with ⟨rfl, hnew⟩ | ⟨-, hold⟩
    · exact ⟨sender, hsender, (hnext _ hnew).1.fresh.symm⟩
    · exact ⟨sender', hold, rfl⟩
  refine ⟨h.governed, h.claims, ?_, ?_, ?_, ?_, ?_⟩
  · intro name content hcontent
    by_cases htemporary : name = sender.temporary
    · exact .inl ⟨_, _, htemporary⟩
    · rcases hwrote.others name htemporary with hsame | ⟨htarget, hpayload⟩
      · exact h.files name content (hsame.symm.trans hcontent)
      · exact .inr ⟨sender.claim, h.claimed slot sender hsender, htarget,
          (Option.some.inj (hpayload.symm.trans hcontent)).symm⟩
  · intro slot' sender' h'
    rcases hslot slot' sender' h' with ⟨-, hnew⟩ | ⟨-, hold⟩
    · rw [(hnext _ hnew).1.claim]
      exact h.claimed slot sender hsender
    · exact h.claimed slot' sender' hold
  · intro slot' sender' h'
    obtain ⟨old, hold, hsame⟩ := hfreshest slot' sender' h'
    rw [← hsame]
    exact h.drawn slot' old hold
  · intro slot' sender' h'
    rcases hslot slot' sender' h' with ⟨-, hnew⟩ | ⟨hne, hold⟩
    · exact (hnext _ hnew).2
    · exact hwrote.progress (h.apart slot' slot sender' sender hold hsender hne)
        (h.progress slot' sender' hold)
  · intro slot' slot'' sender' sender'' h' h'' hne
    obtain ⟨old', hold', hsame'⟩ := hfreshest slot' sender' h'
    obtain ⟨old'', hold'', hsame''⟩ := hfreshest slot'' sender'' h''
    rw [← hsame', ← hsame'']
    exact h.apart slot' slot'' old' old'' hold' hold'' hne

theorem WorldSound.started (h : WorldSound s w) {slot : Nat} {claim : DeliveryClaim}
    {fresh : Uuid} (hclaim : claim ∈ w.claims) (hfresh : fresh ∉ w.drawn) :
    WorldSound s ({ w with drawn := fresh :: w.drawn }.place slot (some ⟨claim, fresh, .making⟩)
      w.files) := by
  have hslot : ∀ slot' sender', ({ w with drawn := fresh :: w.drawn }.place slot
      (some ⟨claim, fresh, .making⟩) w.files).senders slot' = some sender' →
      (slot' = slot ∧ sender' = ⟨claim, fresh, .making⟩) ∨
        (slot' ≠ slot ∧ w.senders slot' = some sender') := by
    intro slot' sender' h'
    by_cases hsame : slot' = slot
    · refine .inl ⟨hsame, ?_⟩
      have hnew : some (⟨claim, fresh, .making⟩ : Sender) = some sender' := by
        simpa [World.place, hsame] using h'
      exact (Option.some.inj hnew).symm
    · exact .inr ⟨hsame, by simpa [World.place, hsame] using h'⟩
  refine ⟨h.governed, h.claims, h.files, ?_, ?_, ?_, ?_⟩
  · intro slot' sender' h'
    rcases hslot slot' sender' h' with ⟨-, rfl⟩ | ⟨-, hold⟩
    · exact hclaim
    · exact h.claimed slot' sender' hold
  · intro slot' sender' h'
    rcases hslot slot' sender' h' with ⟨-, rfl⟩ | ⟨-, hold⟩
    · exact List.mem_cons_self
    · exact List.mem_cons_of_mem _ (h.drawn slot' sender' hold)
  · intro slot' sender' h'
    rcases hslot slot' sender' h' with ⟨-, rfl⟩ | ⟨-, hold⟩
    · exact trivial
    · exact h.progress slot' sender' hold
  · intro slot' slot'' sender' sender'' h' h'' hne
    rcases hslot slot' sender' h' with ⟨hsame, rfl⟩ | ⟨-, hold⟩
    · rcases hslot slot'' sender'' h'' with ⟨hsame', -⟩ | ⟨-, hold'⟩
      · exact absurd (hsame.trans hsame'.symm) hne
      · intro heq
        have hdrawn := h.drawn slot'' sender'' hold'
        rw [← heq] at hdrawn
        exact hfresh hdrawn
    · rcases hslot slot'' sender'' h'' with ⟨-, rfl⟩ | ⟨-, hold'⟩
      · intro heq
        have hdrawn := h.drawn slot' sender' hold
        rw [heq] at hdrawn
        exact hfresh hdrawn
      · exact h.apart slot' slot'' sender' sender'' hold hold' hne

theorem WorldSound.happened (h : WorldSound s w) (incident : Incident) :
    WorldSound s (w.step s (.incident incident)) := by
  have hmoves := @Sqlite.happen_moves s w.store h.governed.keys incident
  have hlater : ∀ id, (w.store.control.thread id).Later
      ((Sqlite.happen s w.store incident).2.control.thread id) := fun id =>
    Thread.Steps.later (hmoves.thread h.governed.keys h.governed.orderly id)
      (h.governed.threads id)
  refine ⟨h.governed.moves hmoves, ?_, ?_, ?_, h.drawn, h.progress, h.apart⟩
  · intro claim hclaim
    rcases List.mem_append.1 hclaim with hnew | hold
    · exact handedOut_recorded h.governed incident hnew
    · obtain ⟨job, hjob⟩ := h.claims claim hold
      exact ⟨job, hjob.later hlater⟩
  · intro name content hcontent
    rcases h.files name content hcontent with htemporary | ⟨claim, hclaim, hname, hpayload⟩
    · exact .inl htemporary
    · exact .inr ⟨claim, List.mem_append_right _ hclaim, hname, hpayload⟩
  · exact fun slot sender hsender => List.mem_append_right _ (h.claimed slot sender hsender)

theorem WorldSound.step (h : WorldSound s w) (e : Event) : WorldSound s (w.step s e) := by
  cases e with
  | incident incident => exact h.happened incident
  | start slot claim fresh =>
      simp only [World.step]
      split
      · rename_i hguard
        exact h.started hguard.1 hguard.2.1
      · exact h
  | act slot =>
      simp only [World.step]
      cases hsender : w.senders slot with
      | none => exact h
      | some sender =>
          have hfile : ∀ content, w.files sender.target = some content →
              content = claimPayload sender.claim := by
            intro content hcontent
            rcases h.files _ content hcontent with ⟨target, fresh, hname⟩ |
              ⟨claim, hclaim, hname, hpayload⟩
            · exact absurd hname.symm (temporaryName_ne _ _ _)
            · rw [hpayload]
              exact h.payload_eq hclaim (h.claimed slot sender hsender)
                (targetName_inj hname).symm
          obtain ⟨hwrote, hprogress⟩ := act_sound (h.progress slot sender hsender) hfile
          refine h.place hsender (fun sender' hnext => ?_) hwrote
          obtain rfl := Option.some.inj hnext
          exact ⟨sender.act_same w.files, hprogress⟩
  | fail slot written =>
      simp only [World.step]
      cases hsender : w.senders slot with
      | none => exact h
      | some sender =>
          refine h.place hsender (fun sender' hnext => ?_) (partly_wrote sender written w.files)
          obtain rfl := Option.some.inj hnext
          exact ⟨sender.failed_same,
            failed_progress written (h.progress slot sender hsender)⟩
  | crash slot written =>
      simp only [World.step]
      cases hsender : w.senders slot with
      | none => exact h
      | some sender => exact h.place hsender nofun (partly_wrote sender written w.files)

theorem WorldSound.run (h : WorldSound s w) (events : List Event) :
    WorldSound s (w.run s events) := by
  induction events generalizing w with
  | nil => exact h
  | cons e rest ih => exact ih (h.step e)

theorem step_later (h : WorldSound s w) (e : Event) (id : String) :
    (w.store.control.thread id).Later ((w.step s e).store.control.thread id) := by
  cases e with
  | incident incident =>
      have hmoves := @Sqlite.happen_moves s w.store h.governed.keys incident
      exact Thread.Steps.later (hmoves.thread h.governed.keys h.governed.orderly id)
        (h.governed.threads id)
  | start slot claim fresh =>
      simp only [World.step]
      split <;> exact .refl _
  | act slot | fail slot written | crash slot written =>
      simp only [World.step]
      split <;> exact .refl _

theorem run_later (h : WorldSound s w) (events : List Event) (id : String) :
    (w.store.control.thread id).Later ((w.run s events).store.control.thread id) := by
  induction events generalizing w with
  | nil => exact .refl _
  | cons e rest ih => exact (step_later h e id).trans (ih (h.step e))

end Runs

section Outbox

variable {s : Settings}

/-- One delivery for each completed job and no other, addressed to the owner; a report with
its digest once the job is completed, and none before. -/
structure Delivered (s : Settings) (db : Sqlite.Database) : Prop where
  delivered : ∀ id, (∃ row, db.delivery id = some row) ↔
    ∃ row, db.job id = some row ∧ row.status = .completed
  addressed : ∀ id row delivery, db.job id = some row → db.delivery id = some delivery →
    delivery.destinationEmail = row.owner
  reported : ∀ id row, db.job id = some row → row.status = .completed →
    ∃ content, row.reportContent = some content ∧
      row.reportSha256 = some (s.sha256 content)
  unreported : ∀ id row, db.job id = some row → row.status ≠ .completed →
    row.reportContent = none ∧ row.reportSha256 = none

/-- The hand-off directory: temporary files, and under the name of a completed job the
payload of its report. No sender has met a conflict. -/
structure HandedOff (w : World) : Prop where
  files : ∀ name content, w.files name = some content →
    (∃ target fresh, name = temporaryName target fresh) ∨
      ∃ id row report digest, w.store.control.job id = some row ∧ row.status = .completed ∧
        row.reportContent = some report ∧ row.reportSha256 = some digest ∧
        name = targetName id ∧ content = payload row.owner report digest
  unconflicted : ∀ slot sender, w.senders slot = some sender →
    sender.phase ≠ .unlinking (some .conflict) ∧ sender.phase ≠ .ended (some .conflict)

theorem governed_delivered {db : Sqlite.Database} (h : Sqlite.Governed s db) :
    Delivered s db := by
  have hthread : ∀ {id row}, db.job id = some row → (db.thread id).job = some row.toJob :=
    fun hrow => Sqlite.thread_of_job hrow
  refine ⟨fun id => ⟨?_, ?_⟩, ?_, ?_, ?_⟩
  · rintro ⟨delivery, hdelivery⟩
    have hsome := Sqlite.thread_of_delivery hdelivery
    cases hrow : db.job id with
    | none =>
        have hnone : (db.thread id).job = none := by simp [Sqlite.Database.thread, hrow]
        rw [((h.threads id).absent hnone).2] at hsome
        cases hsome
    | some row => exact ⟨row, rfl, ((h.threads id).delivered _ (hthread hrow)).1 ⟨_, hsome⟩⟩
  · rintro ⟨row, hrow, hcompleted⟩
    obtain ⟨delivery, hdelivery⟩ := ((h.threads id).delivered _ (hthread hrow)).2 hcompleted
    obtain ⟨stored, hstored, -⟩ := Option.map_eq_some_iff.1 hdelivery
    exact ⟨stored, hstored⟩
  · intro id row delivery hrow hdelivery
    exact (h.threads id).addressed _ _ (hthread hrow) (Sqlite.thread_of_delivery hdelivery)
  · exact fun id row hrow hcompleted => ((h.threads id).job _ (hthread hrow)).reported hcompleted
  · exact fun id row hrow hopen => ((h.threads id).job _ (hthread hrow)).unreported hopen

theorem WorldSound.handedOff {w : World} (h : WorldSound s w) : HandedOff w := by
  constructor
  · intro name content hcontent
    rcases h.files name content hcontent with htemporary | ⟨claim, hclaim, hname, hpayload⟩
    · exact .inl htemporary
    · obtain ⟨job, hjob⟩ := h.claims claim hclaim
      obtain ⟨row, hrow, hsame⟩ := Option.map_eq_some_iff.1 hjob.stored
      subst hsame
      refine .inr ⟨claim.deliveryId, row, claim.reportContent, claim.reportSha256, hrow,
        hjob.completed, hjob.content, hjob.digest, hname, ?_⟩
      rw [hpayload, hjob.owner]
      rfl
  · intro slot sender hsender
    have hprogress := h.progress slot sender hsender
    refine ⟨fun hphase => ?_, fun hphase => ?_⟩
    · simp only [Progress, hphase] at hprogress
      exact hprogress rfl
    · simp only [Progress, hphase] at hprogress
      exact hprogress rfl

end Outbox

end CausalOps.ControlPlane.Outbox
