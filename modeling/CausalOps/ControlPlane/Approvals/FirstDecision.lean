import Mathlib.Data.List.Chain
import CausalOps.Library.Machine
import CausalOps.ControlPlane.Approvals.Requests

set_option autoImplicit false

/-! The first decision wins, whatever the order in which calls, commands and crashes
meet the two databases. -/

namespace CausalOps.ControlPlane.Approvals

open Sqlite

section Pool

variable {s : Settings} {pausedAt : String → String} {pool : Pool} {act : Act}

/-- What holds of a request when it starts. Calls take turns at the control plane. -/
def Allowed (pausedAt : String → String) (pool : Pool) : Act → Prop
  | .start .control (.call a call) => CallAllowed pausedAt pool.shared.history a call
  | .start (.command _) (.command c) => CommandAllowed pausedAt c
  | .start _ _ => False
  | .advance _ => True
  | .crash _ => True

instance (history : List Reply) (a : Ambient) :
    (call : Call) → Decidable (CallAllowed pausedAt history a call) := by
  intro call
  cases call <;> simp only [CallAllowed] <;> infer_instance

instance (c : Command) : Decidable (CommandAllowed pausedAt c) := by
  unfold CommandAllowed
  split <;> infer_instance

instance (pool : Pool) : (act : Act) → Decidable (Allowed pausedAt pool act)
  | .start .control (.call a call) =>
      inferInstanceAs (Decidable (CallAllowed pausedAt pool.shared.history a call))
  | .start (.command _) (.command c) => inferInstanceAs (Decidable (CommandAllowed pausedAt c))
  | .start .control (.command _) => isFalse id
  | .start (.command _) (.call _ _) => isFalse id
  | .advance _ => isTrue trivial
  | .crash _ => isTrue trivial

/-- What a request promises, between the store it found and the store in which it is
answered. -/
def Settles (pausedAt : String → String) : Request → Store → Except Failure Answer → Store → Prop
  | .call a call, start, outcome, last => ∃ result : Except Refusal Reply,
      outcome = (result.map Answer.reply).mapError Failure.refused ∧
        CallSettles a call start result last
  | .command c, start, outcome, last => ∃ result : Except CommandFailure Nat,
      outcome = (result.map Answer.exit).mapError Failure.command ∧
        CommandSettles pausedAt c start result last

def idle : Pool := Program.Pool.idle Store.empty

def reached (s : Settings) (acts : List Act) : Pool := (Machine.run (step s) idle acts).2

abbrev Sound (s : Settings) (pausedAt : String → String) (pool : Pool) : Prop :=
  pool.Sound exec (sharing s pausedAt) (fun i _ => i) (Settles pausedAt) (Safe s pausedAt)

theorem serve_meets (pool : Pool) {i : Slot} {request : Request} {st : Store}
    (hsafe : Safe s pausedAt st)
    (hallowed : Allowed pausedAt { pool with shared := st } (.start i request)) :
    (serve s request).Meets exec (sharing s pausedAt) i (Settles pausedAt request st) st := by
  cases request with
  | call a call =>
      cases i with
      | command n => exact hallowed.elim
      | control =>
          refine Program.Meets.relabel ((method_meets hsafe hallowed).mono ?_)
          exact fun result t hsettles => ⟨result, rfl, hsettles⟩
  | command c =>
      cases i with
      | control => exact hallowed.elim
      | command n =>
          refine Program.Meets.relabel ((command_meets hsafe hallowed).mono ?_)
          exact fun result t hsettles => ⟨result, rfl, hsettles⟩

theorem sound_idle : Sound s pausedAt idle :=
  Program.Pool.sound_idle safe_empty

/-- One act keeps the pool sound, and what it hands over keeps its promise. -/
theorem Sound.advance (hsound : Sound s pausedAt pool) (hallowed : Allowed pausedAt pool act) :
    Sound s pausedAt (step s pool act).2 ∧
      ∀ handover, (step s pool act).1 = some handover →
        Settles pausedAt handover.request handover.start handover.outcome pool.shared := by
  refine Program.Pool.Sound.step ?_ ?_ hsound act ?_
  · exact fun i j _ _ st' hne _ _ h => sharing_rely i j pool.shared st' hne h
  · exact fun i st st' hsafe h => (sharing_onward h).safe hsafe
  · rintro i request rfl -
    exact serve_meets pool hsound.1 hallowed

theorem Sound.onward (hsound : Sound s pausedAt pool) (act : Act) :
    Onward s pausedAt pool.shared (step s pool act).2.shared := by
  have hshared : (step s pool act).2.shared = pool.shared ∨
      ∃ i, (sharing s pausedAt).guarantee i pool.shared (step s pool act).2.shared :=
    Program.Pool.Sound.shared_step hsound act
  rcases hshared with hsame | ⟨i, h⟩
  · rw [hsame]
    exact (Beside.refl pool.shared).onward
  · exact sharing_onward h

theorem sound_run {acts : List Act} (hsound : Sound s pausedAt pool)
    (hallowed : Machine.Admits (step s) (Allowed pausedAt) pool acts) :
    Sound s pausedAt (Machine.run (step s) pool acts).2 :=
  Machine.run_invariant (fun _ _ hsound hallowed => (hsound.advance hallowed).1) acts pool hsound
    hallowed

theorem ledger_prefix {acts : List Act} (hsound : Sound s pausedAt pool)
    (hallowed : Machine.Admits (step s) (Allowed pausedAt) pool acts) :
    pool.shared.ledger <+: (Machine.run (step s) pool acts).2.shared.ledger := by
  have hstep : ∀ (now : Pool) (act : Act),
      (Sound s pausedAt now ∧ pool.shared.ledger <+: now.shared.ledger) →
      Allowed pausedAt now act →
      Sound s pausedAt (step s now act).2 ∧
        pool.shared.ledger <+: (step s now act).2.shared.ledger :=
    fun now act h hallowed =>
      ⟨(h.1.advance hallowed).1, h.2.trans (h.1.onward act).ledger⟩
  exact (Machine.run_invariant hstep acts pool ⟨hsound, List.prefix_refl _⟩ hallowed).2

end Pool

section Departures

variable {s : Settings} {pausedAt : String → String} {st st' : Store} {id : String}

def waiting (st : Store) (id : String) : Bool :=
  (st.control.job id).any fun row => row.status = .pausedApproval

/-- How often a job stops waiting for its decision in the course of some states. -/
def departures (id : String) : List Store → Nat
  | st :: st' :: rest =>
      (if waiting st id && !waiting st' id then 1 else 0) + departures id (st' :: rest)
  | _ => 0

theorem waiting_iff : waiting st id = true ↔
    ∃ row, st.control.job id = some row ∧ row.status = .pausedApproval := by
  simp [waiting, Option.any_eq_true]

theorem Safe.undecided (hsafe : Safe s pausedAt st) (h : waiting st id = true) :
    st.control.decision id = none := by
  obtain ⟨row, hrow, hpaused⟩ := waiting_iff.1 h
  exact job_id hrow ▸ (hsafe.sane.paused row (job_mem hrow) hpaused).2

theorem Safe.departed (hsafe : Safe s pausedAt st) (hsafe' : Safe s pausedAt st')
    (hkept : Kept st.control st'.control) (h : waiting st id = true)
    (h' : waiting st' id = false) : st'.control.decision id ≠ none := by
  obtain ⟨row, hrow, hpaused⟩ := waiting_iff.1 h
  have hcheckpoint := (hsafe.sane.paused row (job_mem hrow) hpaused).1
  obtain ⟨row', hrow', hcheckpoint'⟩ := hkept.checkpoints id row hrow hcheckpoint
  have hopen : row'.status ≠ .pausedApproval := fun hpaused' => by
    have hwaiting := waiting_iff.2 ⟨row', hrow', hpaused'⟩
    rw [h'] at hwaiting
    cases hwaiting
  exact job_id hrow' ▸ hsafe'.sane.decided row' (job_mem hrow') hcheckpoint' hopen

def Consecutive (s : Settings) (pausedAt : String → String) (st st' : Store) : Prop :=
  Safe s pausedAt st ∧ Safe s pausedAt st' ∧ Kept st.control st'.control

/-- A job stops waiting at most once, and never after it has its decision. -/
theorem departures_le (rest : List Store) (st : Store)
    (hchain : (st :: rest).IsChain (Consecutive s pausedAt)) :
    departures id (st :: rest) ≤ if st.control.decision id = none then 1 else 0 := by
  induction rest generalizing st with
  | nil => simp [departures]
  | cons st' rest ih =>
      obtain ⟨⟨hsafe, hsafe', hkept⟩, hrest⟩ := List.isChain_cons_cons.1 hchain
      have hlater := ih st' hrest
      rw [departures]
      by_cases hdecision : st.control.decision id = none
      · rw [if_pos hdecision]
        by_cases hleft : waiting st id = true ∧ waiting st' id = false
        · have hdecided := hsafe.departed hsafe' hkept hleft.1 hleft.2
          rw [if_neg hdecided] at hlater
          simp only [hleft.1, hleft.2, Bool.not_false, Bool.and_self, if_true]
          omega
        · have hstays : (waiting st id && !waiting st' id) = false := by
            cases hbefore : waiting st id <;> cases hafter : waiting st' id <;> simp_all
          rw [hstays]
          simp only [Bool.false_eq_true, if_false, Nat.zero_add]
          refine le_trans hlater ?_
          split <;> omega
      · rw [if_neg hdecision]
        rw [if_neg (hkept.decisions id hdecision)] at hlater
        have hquiet : waiting st id = false := by
          by_contra hwaiting
          exact hdecision (hsafe.undecided (by simpa using hwaiting))
        simp only [hquiet, Bool.false_and, Bool.false_eq_true, if_false]
        omega

end Departures

section FirstDecision

/-- The first decision wins: a thread has at most one row in the ledger and the ledger
only grows; every answer keeps its promise; every claim carries the decision on
record; a decision is announced once, and a job stops waiting for it once. -/
theorem first_decision_wins (s : Settings) (pausedAt : String → String) (acts : List Act)
    (hallowed : Machine.Admits (step s) (Allowed pausedAt) idle acts) :
    (∀ threadId, ((reached s acts).shared.ledger.filter
        fun row => row.threadId = threadId).length ≤ 1) ∧
      (∀ before after, acts = before ++ after →
        (reached s before).shared.ledger <+: (reached s acts).shared.ledger) ∧
      (∀ before act after handover, acts = before ++ act :: after →
        (step s (reached s before) act).1 = some handover →
          Settles pausedAt handover.request handover.start handover.outcome
            (reached s before).shared) ∧
      (∀ claim ∈ claims (reached s acts).shared.history, ∀ c d,
        claim.checkpointId = some c → claim.ownerDecision = some d →
          Recorded (reached s acts).shared.ledger claim.investigationId c d) ∧
      ∀ id, announcements (reached s acts).shared.control id ≤ 1 ∧
        departures id ((Machine.visited (step s) idle acts).map fun pool => pool.shared) ≤ 1 := by
  have hsound : Sound s pausedAt (reached s acts) := sound_run sound_idle hallowed
  refine ⟨?_, ?_, ?_, ?_, ?_⟩
  · intro threadId
    refine filter_length_le_one hsound.1.genuine.single.of_map ?_
    intro a ha b hb hathread hbthread
    simp only [decide_eq_true_eq] at hathread hbthread
    exact hsound.1.genuine.single.eq_of_key_eq ha hb (hathread.trans hbthread.symm)
  · rintro before after rfl
    obtain ⟨hbefore, hafter⟩ := (Machine.admits_append idle before after).1 hallowed
    have hgrown := ledger_prefix (sound_run sound_idle hbefore) hafter
    simpa only [reached, Machine.run_append] using hgrown
  · rintro before act after handover rfl hhanded
    obtain ⟨hbefore, hact, -⟩ := (Machine.admits_append idle before (act :: after)).1 hallowed
    exact ((sound_run sound_idle hbefore).advance hact).2 handover hhanded
  · exact fun claim hclaim c d => hsound.1.claim hclaim
  · intro id
    refine ⟨hsound.1.announced.once id, ?_⟩
    have hchain : (Machine.visited (step s) idle acts).IsChain
        fun pool pool' => Consecutive s pausedAt pool.shared pool'.shared :=
      Machine.visited_chain (fun pool act hsound hallowed =>
        ⟨(hsound.advance hallowed).1, hsound.1, (hsound.advance hallowed).1.1,
          (hsound.onward act).kept⟩) acts idle sound_idle hallowed
    have hstores : ((Machine.visited (step s) idle acts).map fun pool => pool.shared).IsChain
        (Consecutive s pausedAt) := (List.isChain_map _).2 hchain
    cases acts with
    | nil => exact Nat.zero_le 1
    | cons act rest =>
        exact (departures_le _ _ hstores).trans (by split <;> omega)

/-- The acts of one request that performs so many operations and is answered. -/
def served (i : Slot) (request : Request) (operations : Nat) : List Act :=
  .start i request :: List.replicate (operations + 1) (.advance i)

theorem rejection_paired : Paired .reject (some "too risky") := by decide +kernel

def rejection : Command where
  threadId := jobA.hex
  decision := ⟨.reject, some "too risky", rejection_paired⟩
  surroundings := {
    artifacts := none
    snapshot := .ok (some "checkpoint-1")
    utcNow := 4
    resumed := .ok 0
    repr := fun note => note.getD "None" }

/-- The owner accepts, the process dies between its two commits, a rejection comes from
the command line, and the next claim finds the acceptance. -/
def interrupted : List Act :=
  served .control (.call (ambient 0 jobA)
    (.create "owner@example.com" .configurationChange "first")) 2 ++
  served .control (.call (ambient 0 tokenC) .claimNext) 2 ++
  served .control (.call (ambient 1 tokenC)
    (.markPaused jobA.hex "checkpoint-1" tokenC.hex)) 2 ++
  [.start .control (.call (ambient 2 tokenC)
    (.decide "owner@example.com" jobA.hex ⟨.accept, none, trivial⟩)),
    .advance .control, .advance .control, .advance .control, .crash .control] ++
  served (.command 0) (.command rejection) 1 ++
  served .control (.call (ambient 5 tokenD) .claimNext) 4

theorem first_decision_wins_interrupted :
    (reached sampleSettings interrupted).shared.ledger =
        [LedgerRow.of jobA.hex "checkpoint-1" ⟨.accept, none, trivial⟩ 2] ∧
      (claims (reached sampleSettings interrupted).shared.history).map
        (fun claim => claim.ownerDecision) = [none, some ⟨.accept, none, trivial⟩] ∧
      announcements (reached sampleSettings interrupted).shared.control jobA.hex ≤ 1 ∧
      departures jobA.hex ((Machine.visited (step sampleSettings) idle interrupted).map
        fun pool => pool.shared) ≤ 1 := by
  have hallowed : Machine.Admits (step sampleSettings) (Allowed fun _ => "checkpoint-1") idle
      interrupted := by
    decide +kernel
  obtain ⟨-, -, -, -, honce⟩ :=
    first_decision_wins sampleSettings (fun _ => "checkpoint-1") interrupted hallowed
  exact ⟨by decide +kernel, by decide +kernel, honce jobA.hex⟩

end FirstDecision

end CausalOps.ControlPlane.Approvals
