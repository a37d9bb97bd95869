import Mathlib.Tactic.NormNum
import CausalOps.Library.Program
import CausalOps.Investigation.Models
import CausalOps.Cost.Ledger

set_option autoImplicit false

/-! `LiveClaudeModel._send`: reserve, send, settle. A process may die between any two of its
operations, and any number of calls share the ledger. -/

namespace CausalOps.Cost

open CausalOps.Investigation

section Pricing

def maxInputTokens : ℕ := 9600

def maxOutputTokens : ℕ := 1600

def estimateInputTokens (text : String) : ℕ := text.length

structure PricingSnapshot where
  inputUsdPerMillionTokens : ℚ
  outputUsdPerMillionTokens : ℚ
  inputPos : 0 < inputUsdPerMillionTokens
  outputPos : 0 < outputUsdPerMillionTokens

def PricingSnapshot.actualCostUsd (pricing : PricingSnapshot) (inputTokens outputTokens : ℤ) : ℚ :=
  inputTokens / 1000000 * pricing.inputUsdPerMillionTokens +
    outputTokens / 1000000 * pricing.outputUsdPerMillionTokens

def PricingSnapshot.reservationUsd (pricing : PricingSnapshot) (inputTokens : ℕ) : ℚ :=
  inputTokens / 1000000 * pricing.inputUsdPerMillionTokens +
    maxOutputTokens / 1000000 * pricing.outputUsdPerMillionTokens

theorem PricingSnapshot.reservationUsd_nonneg (pricing : PricingSnapshot) (inputTokens : ℕ) :
    0 ≤ pricing.reservationUsd inputTokens := by
  have hinput := pricing.inputPos
  have houtput := pricing.outputPos
  exact add_nonneg (mul_nonneg (div_nonneg (Nat.cast_nonneg _) (by norm_num)) hinput.le)
    (mul_nonneg (div_nonneg (Nat.cast_nonneg _) (by norm_num)) houtput.le)

def claudeSonnet5Pricing : PricingSnapshot := ⟨2, 10, by norm_num, by norm_num⟩

end Pricing

section Operations

structure AIMessage where
  content : Json
  toolCalls : List ProviderCall
  invalidToolCalls : List InvalidToolCall
  usageMetadata : Option ModelUsage

/-- The columns of the ledger's primary key, which every request carries. -/
def requestKey (request : ModelRequest) : RequestKey :=
  ⟨request.runId, request.graphPhase.value, request.modelTurn, request.contextDigest⟩

/-- How `_send` leaves without a message. -/
inductive SendError where
  | missingCredential (message : String)
  | inputTooLarge (estimatedTokens : ℕ)
  | ledger (error : LedgerError)
  | ambiguousReservationNotResent (row : CostLedgerRow)
  | provider
  | missingProviderUsage (message : String)
  | unreadable (message : String)

/-- What `_send` does outside itself. Each transaction on the ledger is one operation, the
creation of the table with it, and each read back another; an invocation names the request it
is made for. -/
inductive SendOp where
  | clock
  | reserve (key : RequestKey) (reservedUsd : Option ℚ) (requestedAt : Moment)
      (ceilingUsd : Option ℚ)
  | readRow (key : RequestKey)
  | invoke (key : RequestKey) (systemText content tools : String)
  | settle (key : RequestKey) (actualUsd : Option ℚ) (inputTokens outputTokens : Option ℤ)
      (settledAt : Moment)

/-- What comes back: the provider either answers or raises. -/
abbrev SendOp.Result : SendOp → Type
  | .clock => Moment
  | .reserve .. => Except LedgerError (CostLedgerRow × Bool)
  | .readRow _ => Except String (Option CostLedgerRow)
  | .invoke .. => Option AIMessage
  | .settle .. => Except LedgerError CostLedgerRow

abbrev Sending (α : Type) := Program SendOp SendOp.Result SendError α

end Operations

section Send

structure LiveClaudeModel where
  pricing : PricingSnapshot
  ceilingUsd : Option ℚ
  credentialPresent : Bool

/-- The row that a transaction has just written, read back. -/
def readBack (key : RequestKey) (missing : String) : Sending CostLedgerRow :=
  .call (.readRow key) fun answer =>
    match answer with
    | .error message => .raise (.unreadable message)
    | .ok none => .raise (.unreadable missing)
    | .ok (some row) => .ret row

/-- Reserve, and read a new row back. A row that was there is returned as it is. -/
def recordReservation (key : RequestKey) (reservedUsd : Option ℚ) (requestedAt : Moment)
    (ceilingUsd : Option ℚ) : Sending (CostLedgerRow × Bool) :=
  .call (.reserve key reservedUsd requestedAt ceilingUsd) fun answer =>
    match answer with
    | .error error => .raise (.ledger error)
    | .ok (row, false) => .ret (row, false)
    | .ok (_, true) => do
        let row ← readBack key "just-committed reservation is not readable back"
        pure (row, true)

def settleSent (key : RequestKey) (actualUsd : Option ℚ) (inputTokens outputTokens : Option ℤ)
    (settledAt : Moment) : Sending CostLedgerRow :=
  .call (.settle key actualUsd inputTokens outputTokens settledAt) fun answer =>
    match answer with
    | .error error => .raise (.ledger error)
    | .ok _ => readBack key "just-settled row vanished before it could be read back"

/-- The human message: the context, and what a repair has to correct. -/
def humanContent (request : ModelRequest) : String :=
  match request.repairErrors with
  | none => request.contextText
  | some errors =>
      if errors = "" then request.contextText
      else request.contextText ++ "\n\n## Correction needed\n" ++ errors

/-- Invoke the provider for a row that this call inserted, and settle it. -/
def invokeAndSettle (model : LiveClaudeModel) (request : ModelRequest) (tools : String) :
    Sending AIMessage :=
  .call (.invoke (requestKey request) request.systemText (humanContent request) tools)
    fun answer =>
      match answer with
      | none => .raise .provider
      | some message =>
          match message.usageMetadata with
          | none => .raise (.missingProviderUsage
              (request.stage.value ++ " turn returned no usage metadata"))
          | some usage => .call .clock fun settledAt => do
              let _ ← settleSent (requestKey request)
                (some (model.pricing.actualCostUsd usage.inputTokens usage.outputTokens))
                (some usage.inputTokens) (some usage.outputTokens) settledAt
              pure message

/-- `_send`, with the definitions of the tools as the text that goes out. -/
def send (model : LiveClaudeModel) (request : ModelRequest) (tools : String) :
    Sending AIMessage :=
  if model.credentialPresent = false then
    .raise (.missingCredential (request.stage.value ++
      " turn refused: no credential was present when this run started"))
  else
    let estimatedInputTokens := estimateInputTokens (request.systemText ++ humanContent request)
    if estimatedInputTokens > maxInputTokens then .raise (.inputTooLarge estimatedInputTokens)
    else
      let reservedUsd :=
        model.pricing.reservationUsd (estimatedInputTokens + estimateInputTokens tools)
      .call .clock fun requestedAt => do
        let (reservation, isNew) ←
          recordReservation (requestKey request) (some reservedUsd) requestedAt model.ceilingUsd
        if isNew then invokeAndSettle model request tools
        else .raise (.ambiguousReservationNotResent reservation)

end Send

section System

/-- One call of `_send`, by whichever process. -/
structure SendCall where
  model : LiveClaudeModel
  request : ModelRequest
  tools : String

def SendCall.key (call : SendCall) : RequestKey := requestKey call.request

/-- What is durable once it has happened: a row inserted, the provider invoked, a row
settled. -/
inductive Event where
  | inserted (row : CostLedgerRow)
  | invoked (key : RequestKey)
  | settled (key : RequestKey)
  deriving DecidableEq

/-- A call that has not begun, runs, has ended, or died with its process. -/
inductive Progress where
  | waiting
  | running (program : Sending AIMessage)
  | ended (outcome : Except SendError AIMessage)
  | dead

variable {ι : Type} [DecidableEq ι]

/-- The ledger, what each call has done to it and to the provider, and where each stands. -/
structure System (ι : Type) where
  rows : List CostLedgerRow
  journal : List (ι × Event)
  progress : ι → Progress

def System.initial (rows : List CostLedgerRow) : System ι := ⟨rows, [], fun _ => .waiting⟩

/-- What one operation meets: the time, a store that may fail, and the provider's answer. -/
structure Surroundings where
  now : Moment
  storeFails : Bool
  reply : Option AIMessage

def System.note (system : System ι) (i : ι) (rows : List CostLedgerRow) (event : Event) :
    System ι :=
  { system with rows := rows, journal := system.journal ++ [(i, event)] }

/-- One operation of a call. A store that fails changes nothing. -/
def exec (surroundings : Surroundings) (i : ι) (system : System ι) :
    (op : SendOp) → op.Result × System ι
  | .clock => (surroundings.now, system)
  | .reserve key reservedUsd requestedAt ceilingUsd =>
      if surroundings.storeFails then
        (.error (.storeUnavailable "cost_ledger unavailable for reservation"), system)
      else
        match recordReservationBeforeRequest system.rows key reservedUsd requestedAt
          ceilingUsd with
        | (.ok (row, true), after) =>
            (.ok (row, true), system.note i after (.inserted row))
        | (answer, _) => (answer, system)
  | .readRow key =>
      if surroundings.storeFails then (.error "cost_ledger unreadable", system)
      else (.ok (readRow system.rows key), system)
  | .invoke key _ _ _ => (surroundings.reply, system.note i system.rows (.invoked key))
  | .settle key actualUsd inputTokens outputTokens settledAt =>
      if surroundings.storeFails then
        (.error (.storeUnavailable "cost_ledger unwritable while settling"), system)
      else
        match settleReservation system.rows key actualUsd inputTokens outputTokens
          settledAt with
        | (.ok row, after) => (.ok row, system.note i after (.settled key))
        | (answer, _) => (answer, system)

/-- A call begins, performs its next operation, or dies with its process. -/
inductive Act (ι : Type) where
  | start (i : ι)
  | advance (i : ι) (surroundings : Surroundings)
  | crash (i : ι)

def System.setProgress (system : System ι) (i : ι) (progress : Progress) : System ι :=
  { system with progress := Function.update system.progress i progress }

/-- Where a call stands once its program is what is left. -/
def standing : Sending AIMessage → Progress
  | .ret message => .ended (.ok message)
  | .raise error => .ended (.error error)
  | .call op next => .running (.call op next)

/-- One act; an act that is not possible changes nothing. -/
def System.step (calls : ι → SendCall) (system : System ι) : Act ι → System ι
  | .start i =>
      match system.progress i with
      | .waiting => system.setProgress i
          (standing (send (calls i).model (calls i).request (calls i).tools))
      | _ => system
  | .advance i surroundings =>
      match system.progress i with
      | .running (.call op next) =>
          let (answer, after) := exec surroundings i system op
          after.setProgress i (standing (next answer))
      | _ => system
  | .crash i =>
      match system.progress i with
      | .running _ => system.setProgress i .dead
      | _ => system

def System.run (calls : ι → SendCall) (system : System ι) (acts : List (Act ι)) : System ι :=
  acts.foldl (System.step calls) system

end System

end CausalOps.Cost
