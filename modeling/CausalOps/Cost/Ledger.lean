import Mathlib.Algebra.BigOperators.Group.List.Basic
import Mathlib.Algebra.Order.Ring.Rat
import CausalOps.Library.Rows

set_option autoImplicit false

/-! The table of model requests: one row for each request key, reserved before the request
is sent and settled at its real cost. Money is exact. -/

namespace CausalOps.Cost

section Rows

abbrev Moment := ℤ

/-- `run_id`, `graph_phase`, `model_turn` and `context_digest`: the primary key. -/
structure RequestKey where
  runId : String
  graphPhase : String
  modelTurn : ℤ
  contextDigest : String
  deriving DecidableEq, Repr

structure Settlement where
  actualUsd : ℚ
  inputTokens : ℕ
  outputTokens : ℕ
  settledAt : Moment
  actualNonneg : 0 ≤ actualUsd
  deriving DecidableEq

/-- A reserved row carries no settlement, and a settled one a complete one. -/
inductive RowState where
  | reserved
  | settled (settlement : Settlement)
  deriving DecidableEq

structure CostLedgerRow where
  key : RequestKey
  state : RowState
  reservedUsd : ℚ
  reservedAt : Moment
  reservedNonneg : 0 ≤ reservedUsd
  deriving DecidableEq

def CostLedgerRow.settle (row : CostLedgerRow) (settlement : Settlement) : CostLedgerRow :=
  { row with state := .settled settlement }

inductive LedgerError where
  | storeUnavailable (message : String)
  | reservationNotSettleable (message : String)
  | costCeilingExceeded (requestedUsd remainingUsd : ℚ)
  deriving DecidableEq, Repr

def reservationCeilingBufferUsd : ℚ := 1 / 10

end Rows

section Operations

/-- A number that `_valid_money` accepts. A value that is no number, or not finite, is
`none`. -/
def validMoney (value : Option ℚ) (name : String) : Except String { amount : ℚ // 0 ≤ amount } :=
  match value with
  | none => .error (name ++ " must be a finite non-negative number")
  | some amount =>
      if h : 0 ≤ amount then .ok ⟨amount, h⟩
      else .error (name ++ " must be a finite non-negative number")

def validTokens (value : Option ℤ) (name : String) : Except String ℕ :=
  match value with
  | none => .error (name ++ " must be a non-negative integer")
  | some count =>
      if count < 0 then .error (name ++ " must be a non-negative integer") else .ok count.toNat

/-- What a row counts for: the greater of the two amounts once it is settled. -/
def CostLedgerRow.accounted (row : CostLedgerRow) : ℚ :=
  match row.state with
  | .settled settlement => max row.reservedUsd settlement.actualUsd
  | .reserved => row.reservedUsd

def reservedAndSettledTotal (rows : List CostLedgerRow) : ℚ :=
  (rows.map CostLedgerRow.accounted).sum

def readRow (rows : List CostLedgerRow) (key : RequestKey) : Option CostLedgerRow :=
  Rows.lookup CostLedgerRow.key key rows

/-- Reserve a request's worst cost, or refuse before anything is sent. The row comes with
whether this call inserted it. -/
def recordReservationBeforeRequest (rows : List CostLedgerRow) (key : RequestKey)
    (reservedUsd : Option ℚ) (requestedAt : Moment) (ceilingUsd : Option ℚ) :
    Except LedgerError (CostLedgerRow × Bool) × List CostLedgerRow :=
  match validMoney reservedUsd "reserved_usd" with
  | .error message =>
      (.error (.storeUnavailable ("invalid cost ledger input: " ++ message)), rows)
  | .ok reserved =>
      match validMoney ceilingUsd "ceiling_usd" with
      | .error message =>
          (.error (.storeUnavailable ("invalid cost ledger input: " ++ message)), rows)
      | .ok ceiling =>
          match readRow rows key with
          | some existing => (.ok (existing, false), rows)
          | none =>
              let remaining :=
                ceiling.1 - reservationCeilingBufferUsd - reservedAndSettledTotal rows
              if reserved.1 > remaining then
                (.error (.costCeilingExceeded reserved.1 (max remaining 0)), rows)
              else
                let row : CostLedgerRow := ⟨key, .reserved, reserved.1, requestedAt, reserved.2⟩
                (.ok (row, true), rows ++ [row])

def isReserved (row : CostLedgerRow) : Bool := row.state = .reserved

def settleReservation (rows : List CostLedgerRow) (key : RequestKey) (actualUsd : Option ℚ)
    (inputTokens outputTokens : Option ℤ) (settledAt : Moment) :
    Except LedgerError CostLedgerRow × List CostLedgerRow :=
  let invalid (message : String) : Except LedgerError CostLedgerRow × List CostLedgerRow :=
    (.error (.reservationNotSettleable ("invalid settlement metadata: " ++ message)), rows)
  match validMoney actualUsd "actual_usd" with
  | .error message => invalid message
  | .ok actual =>
      match validTokens inputTokens "input_tokens" with
      | .error message => invalid message
      | .ok input =>
          match validTokens outputTokens "output_tokens" with
          | .error message => invalid message
          | .ok output =>
              let settled := Rows.update
                (fun row => decide (row.key = key) && isReserved row)
                (fun row => row.settle ⟨actual.1, input, output, settledAt, actual.2⟩) rows
              if rows.countP (fun row => decide (row.key = key) && isReserved row) = 0 then
                (.error (.reservationNotSettleable
                  "no RESERVED cost_ledger row for request key"), rows)
              else
                match readRow settled key with
                | some row => (.ok row, settled)
                | none => (.error (.storeUnavailable "just-settled row vanished"), settled)

end Operations

section Calls

inductive Call where
  | record (key : RequestKey) (reservedUsd : Option ℚ) (requestedAt : Moment)
  | settle (key : RequestKey) (actualUsd : Option ℚ) (inputTokens outputTokens : Option ℤ)
      (settledAt : Moment)

inductive Answer where
  | reservation (row : CostLedgerRow) (isNew : Bool)
  | settlement (row : CostLedgerRow)
  | refused (error : LedgerError)

def callStep (ceilingUsd : Option ℚ) (rows : List CostLedgerRow) :
    Call → Answer × List CostLedgerRow
  | .record key reservedUsd requestedAt =>
      match recordReservationBeforeRequest rows key reservedUsd requestedAt ceilingUsd with
      | (.ok (row, isNew), after) => (.reservation row isNew, after)
      | (.error error, after) => (.refused error, after)
  | .settle key actualUsd inputTokens outputTokens settledAt =>
      match settleReservation rows key actualUsd inputTokens outputTokens settledAt with
      | (.ok row, after) => (.settlement row, after)
      | (.error error, after) => (.refused error, after)

end Calls

section Outcomes

variable {rows : List CostLedgerRow} {key : RequestKey}

/-- What one call does to a table whose keys are distinct. -/
inductive Outcome (ceilingUsd : Option ℚ) (rows : List CostLedgerRow) :
    Answer → List CostLedgerRow → Prop
  | refused (error : LedgerError) : Outcome ceilingUsd rows (.refused error) rows
  | existing (row : CostLedgerRow) (hrow : row ∈ rows) :
      Outcome ceilingUsd rows (.reservation row false) rows
  | inserted (row : CostLedgerRow) (ceiling : ℚ) (hceiling : ceilingUsd = some ceiling)
      (hnew : ∀ old ∈ rows, old.key ≠ row.key) (hreserved : row.state = .reserved)
      (hroom : row.reservedUsd ≤
        ceiling - reservationCeilingBufferUsd - reservedAndSettledTotal rows) :
      Outcome ceilingUsd rows (.reservation row true) (rows ++ [row])
  | settled (row : CostLedgerRow) (settlement : Settlement) (hrow : row ∈ rows)
      (hreserved : row.state = .reserved) :
      Outcome ceilingUsd rows (.settlement (row.settle settlement))
        (Rows.modify CostLedgerRow.key row.key (fun old => old.settle settlement) rows)

theorem validMoney_ok {value : Option ℚ} {name : String} {amount : { amount : ℚ // 0 ≤ amount }}
    (h : validMoney value name = .ok amount) : value = some amount.1 := by
  simp only [validMoney] at h
  split at h
  · cases h
  · split at h
    · rw [← Except.ok.inj h]
    · cases h

/-- What a reservation does: nothing, or one new reserved row under the key. -/
inductive Reserving (ceilingUsd : Option ℚ) (key : RequestKey) (rows : List CostLedgerRow) :
    Except LedgerError (CostLedgerRow × Bool) → List CostLedgerRow → Prop
  | refused (error : LedgerError) : Reserving ceilingUsd key rows (.error error) rows
  | existing (row : CostLedgerRow) (hrow : readRow rows key = some row) :
      Reserving ceilingUsd key rows (.ok (row, false)) rows
  | inserted (row : CostLedgerRow) (ceiling : ℚ) (hceiling : ceilingUsd = some ceiling)
      (hkey : row.key = key) (hnew : readRow rows key = none) (hreserved : row.state = .reserved)
      (hroom : row.reservedUsd ≤
        ceiling - reservationCeilingBufferUsd - reservedAndSettledTotal rows) :
      Reserving ceilingUsd key rows (.ok (row, true)) (rows ++ [row])

/-- What a settlement does: nothing, or it settles the reserved row under the key. -/
inductive Settling (key : RequestKey) (rows : List CostLedgerRow) :
    Except LedgerError CostLedgerRow → List CostLedgerRow → Prop
  | refused (error : LedgerError) : Settling key rows (.error error) rows
  | settled (row : CostLedgerRow) (settlement : Settlement) (hrow : readRow rows key = some row)
      (hreserved : row.state = .reserved) :
      Settling key rows (.ok (row.settle settlement))
        (Rows.modify CostLedgerRow.key key (fun old => old.settle settlement) rows)

theorem record_reserving (rows : List CostLedgerRow) (key : RequestKey) (reservedUsd : Option ℚ)
    (requestedAt : Moment) (ceilingUsd : Option ℚ) :
    Reserving ceilingUsd key rows
      (recordReservationBeforeRequest rows key reservedUsd requestedAt ceilingUsd).1
      (recordReservationBeforeRequest rows key reservedUsd requestedAt ceilingUsd).2 := by
  simp only [recordReservationBeforeRequest]
  cases validMoney reservedUsd "reserved_usd" with
  | error message => exact .refused _
  | ok reserved =>
      dsimp only
      cases hceiling : validMoney ceilingUsd "ceiling_usd" with
      | error message => exact .refused _
      | ok ceiling =>
          dsimp only
          cases hread : readRow rows key with
          | some existing => exact .existing existing hread
          | none =>
              dsimp only
              by_cases hover : reserved.1 >
                  ceiling.1 - reservationCeilingBufferUsd - reservedAndSettledTotal rows
              · simp only [if_pos hover]
                exact .refused _
              · simp only [if_neg hover]
                exact .inserted _ ceiling.1 (validMoney_ok hceiling) rfl hread rfl
                  (not_lt.1 hover)

theorem settle_settling {rows : List CostLedgerRow}
    (hkeyed : Rows.Keyed CostLedgerRow.key rows) (key : RequestKey) (actualUsd : Option ℚ)
    (inputTokens outputTokens : Option ℤ) (settledAt : Moment) :
    Settling key rows
      (settleReservation rows key actualUsd inputTokens outputTokens settledAt).1
      (settleReservation rows key actualUsd inputTokens outputTokens settledAt).2 := by
  simp only [settleReservation]
  cases validMoney actualUsd "actual_usd" with
  | error message => exact .refused _
  | ok actual =>
      dsimp only
      cases validTokens inputTokens "input_tokens" with
      | error message => exact .refused _
      | ok input =>
          dsimp only
          cases validTokens outputTokens "output_tokens" with
          | error message => exact .refused _
          | ok output =>
              dsimp only
              rw [Rows.countP_key hkeyed isReserved, Rows.update_key hkeyed isReserved]
              cases hlookup : Rows.lookup CostLedgerRow.key key rows with
              | none => exact .refused _
              | some row =>
                  dsimp only
                  generalize hsettlement : (⟨actual.1, input, output, settledAt, actual.2⟩ :
                    Settlement) = settlement
                  by_cases hreserved : isReserved row = true
                  · simp only [if_pos hreserved]
                    have hread : Rows.lookup CostLedgerRow.key key
                        (Rows.modify CostLedgerRow.key key (fun old => old.settle settlement)
                          rows) = (Rows.lookup CostLedgerRow.key key rows).map fun old =>
                            old.settle settlement :=
                      Rows.lookup_modify_self fun _ => rfl
                    rw [hlookup] at hread
                    simp only [readRow, hread, Option.map_some, one_ne_zero, if_false]
                    exact .settled row settlement hlookup (by simpa [isReserved] using hreserved)
                  · simp only [if_neg hreserved]
                    exact .refused _

theorem record_outcome (ceilingUsd : Option ℚ) (rows : List CostLedgerRow) (key : RequestKey)
    (reservedUsd : Option ℚ) (requestedAt : Moment) :
    Outcome ceilingUsd rows (callStep ceilingUsd rows (.record key reservedUsd requestedAt)).1
      (callStep ceilingUsd rows (.record key reservedUsd requestedAt)).2 := by
  have hreserving := record_reserving rows key reservedUsd requestedAt ceilingUsd
  simp only [callStep]
  generalize recordReservationBeforeRequest rows key reservedUsd requestedAt ceilingUsd = result
    at hreserving ⊢
  obtain ⟨answer, after⟩ := result
  dsimp only at hreserving
  cases hreserving with
  | refused error => exact .refused error
  | existing row hrow => exact .existing row (Rows.lookup_mem hrow)
  | inserted row ceiling hceiling hkey hnew hreserved hroom =>
      rw [← hkey] at hnew
      exact .inserted row ceiling hceiling (Rows.lookup_eq_none.1 hnew) hreserved hroom

theorem settle_outcome (ceilingUsd : Option ℚ) {rows : List CostLedgerRow}
    (hkeyed : Rows.Keyed CostLedgerRow.key rows) (key : RequestKey) (actualUsd : Option ℚ)
    (inputTokens outputTokens : Option ℤ) (settledAt : Moment) :
    Outcome ceilingUsd rows
      (callStep ceilingUsd rows (.settle key actualUsd inputTokens outputTokens settledAt)).1
      (callStep ceilingUsd rows (.settle key actualUsd inputTokens outputTokens settledAt)).2 := by
  have hsettling := settle_settling hkeyed key actualUsd inputTokens outputTokens settledAt
  simp only [callStep]
  generalize settleReservation rows key actualUsd inputTokens outputTokens settledAt = result
    at hsettling ⊢
  obtain ⟨answer, after⟩ := result
  dsimp only at hsettling
  cases hsettling with
  | refused error => exact .refused error
  | settled row settlement hrow hreserved =>
      obtain rfl := Rows.lookup_key hrow
      exact .settled row settlement (Rows.lookup_mem hrow) hreserved

theorem callStep_outcome (ceilingUsd : Option ℚ) {rows : List CostLedgerRow}
    (hkeyed : Rows.Keyed CostLedgerRow.key rows) (call : Call) :
    Outcome ceilingUsd rows (callStep ceilingUsd rows call).1 (callStep ceilingUsd rows call).2 := by
  cases call with
  | record key reservedUsd requestedAt =>
      exact record_outcome ceilingUsd rows key reservedUsd requestedAt
  | settle key actualUsd inputTokens outputTokens settledAt =>
      exact settle_outcome ceilingUsd hkeyed key actualUsd inputTokens outputTokens settledAt

theorem Outcome.keyed {ceilingUsd : Option ℚ} {rows after : List CostLedgerRow} {answer : Answer}
    (h : Outcome ceilingUsd rows answer after) (hkeyed : Rows.Keyed CostLedgerRow.key rows) :
    Rows.Keyed CostLedgerRow.key after := by
  cases h with
  | refused error => exact hkeyed
  | existing row hrow => exact hkeyed
  | inserted row ceiling hceiling hnew hreserved hroom => exact hkeyed.append hnew
  | settled row settlement hrow hreserved => exact hkeyed.modify fun _ => rfl

end Outcomes

end CausalOps.Cost
