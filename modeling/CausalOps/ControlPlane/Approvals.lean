import CausalOps.ControlPlane.Sqlite

set_option autoImplicit false

/-! `causalops approve` and `causalops reject`: the owner's decision from a second
process, and the two databases as processes of both kinds use them. -/

namespace CausalOps.ControlPlane.Approvals

open Sqlite (Op Store)

/-- What stops a command: the decision store, or another error by its class. -/
inductive CommandFailure where
  | store (error : CheckpointStoreError)
  | other (errorName message : String)
  deriving DecidableEq

/-- What the command finds outside the decision table: the finalized artifacts, when
their directory is there; the checkpoint of the pending interrupt, when the thread,
its incident and its model can be loaded; the clock; the end of the resumed graph;
and Python's `repr` of a note. Ends of a command are exit codes. -/
structure Surroundings where
  artifacts : Option (Except CommandFailure Nat)
  snapshot : Except CommandFailure (Option String)
  utcNow : Time
  resumed : Except CommandFailure Nat
  repr : Option String → String

/-- One command line: thread, decision, surroundings. -/
structure Command where
  threadId : String
  decision : OwnerDecision
  surroundings : Surroundings

def mismatchMessage (repr : Option String → String) (threadId : String)
    (existing : DecisionRow) (d : OwnerDecision) : String :=
  threadId ++ " already recorded decision='" ++ existing.decision.text ++
    "' rejection_note=" ++ repr existing.rejectionNote ++
    "; this request asked for decision='" ++ d.decision.text ++
    "' rejection_note=" ++ repr d.rejectionNote

def runDecisionCommand (c : Command) : Program Op Op.Res CommandFailure Nat :=
  .call (.readDecision c.threadId) fun
    | .error e => .raise (.store e)
    | .ok (some existing) =>
        if !existing.matches c.decision then
          .raise (.store ⟨.conflictingDecision,
            mismatchMessage c.surroundings.repr c.threadId existing c.decision⟩)
        else
          match c.surroundings.artifacts with
          | some report => .lift report
          | none =>
              match c.surroundings.snapshot with
              | .error e => .raise e
              | .ok _ => .lift c.surroundings.resumed
    | .ok none =>
        match c.surroundings.snapshot with
        | .error e => .raise e
        | .ok none => .raise (.store ⟨.noPendingInterrupt,
            c.threadId ++ " has no pending approval to decide"⟩)
        | .ok (some checkpointId) =>
            .call (.recordDecision c.threadId checkpointId c.decision c.surroundings.utcNow) fun
              | .error e => .raise (.store e)
              | .ok _ => .lift c.surroundings.resumed

section Processes

/-- Who is at work: the one process that holds the control-plane lock, and any number
of commands. -/
inductive Slot where
  | control
  | command (n : Nat)
  deriving DecidableEq

inductive Request where
  | call (a : Ambient) (call : Call)
  | command (c : Command)

inductive Failure where
  | refused (error : Refusal)
  | command (error : CommandFailure)
  deriving DecidableEq

inductive Answer where
  | reply (reply : Reply)
  | exit (code : Nat)
  deriving DecidableEq

def serve (s : Settings) : Request → Program Op Op.Res Failure Answer
  | .call a call => (Sqlite.method s a call).relabel .reply .refused
  | .command c => (runDecisionCommand c).relabel .exit .command

abbrev Act := Program.Act Slot Request
abbrev Pool := Program.Pool Slot Request Op Op.Res Failure Answer Store
abbrev Handover := Program.Handover Slot Request Failure Answer Store

/-- One act of the processes that share the two databases. -/
def step (s : Settings) (pool : Pool) (act : Act) : Option Handover × Pool :=
  pool.step Sqlite.exec (serve s) act

end Processes

end CausalOps.ControlPlane.Approvals
