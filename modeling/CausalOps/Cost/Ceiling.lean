import Mathlib.Algebra.Order.BigOperators.Group.List
import Mathlib.Tactic.Linarith
import CausalOps.Library.Machine
import CausalOps.Cost.Ledger

set_option autoImplicit false

/-! What the ceiling bounds, in every order of reservations and settlements: what is
reserved stays under it, and what is accounted exceeds it by no more than the overruns
settled since the last reservation. -/

namespace CausalOps.Cost

section Amounts

def reservedTotal (rows : List CostLedgerRow) : ℚ := (rows.map CostLedgerRow.reservedUsd).sum

/-- By how much a row cost more than was reserved for it. -/
def CostLedgerRow.overrun (row : CostLedgerRow) : ℚ :=
  match row.state with
  | .settled settlement => max 0 (settlement.actualUsd - row.reservedUsd)
  | .reserved => 0

/-- The rows settled since the last reservation was inserted, after one more answer. -/
def afterAnswer (since : List CostLedgerRow) : Answer → List CostLedgerRow
  | .reservation _ true => []
  | .reservation _ false => since
  | .settlement row => since ++ [row]
  | .refused _ => since

def settledSince (answers : List Answer) : List CostLedgerRow := answers.foldl afterAnswer []

def room (ceiling : ℚ) : ℚ := max 0 (ceiling - reservationCeilingBufferUsd)

theorem accounted_settle (row : CostLedgerRow) (settlement : Settlement)
    (hreserved : row.state = .reserved) :
    (row.settle settlement).accounted - row.accounted =
      (row.settle settlement).overrun := by
  simp only [CostLedgerRow.settle, CostLedgerRow.accounted, CostLedgerRow.overrun, hreserved]
  rcases le_total row.reservedUsd settlement.actualUsd with h | h
  · rw [max_eq_right h, max_eq_right (sub_nonneg.2 h)]
  · rw [max_eq_left h, max_eq_left (sub_nonpos.2 h), sub_self]

theorem overrun_nonneg (row : CostLedgerRow) : 0 ≤ row.overrun := by
  unfold CostLedgerRow.overrun
  split
  · exact le_max_left _ _
  · exact le_refl _

theorem reserved_le_accounted (row : CostLedgerRow) : row.reservedUsd ≤ row.accounted := by
  unfold CostLedgerRow.accounted
  split
  · exact le_max_left _ _
  · exact le_refl _

theorem reservedTotal_le (rows : List CostLedgerRow) :
    reservedTotal rows ≤ reservedAndSettledTotal rows :=
  List.sum_le_sum fun row _ => reserved_le_accounted row

end Amounts

section Ceiling

variable {ceiling : ℚ} {rows after : List CostLedgerRow} {answer : Answer}

/-- What a fixed ceiling bounds, given the rows settled since the last reservation. -/
structure Bounded (ceiling : ℚ) (rows since : List CostLedgerRow) : Prop where
  reserved : reservedTotal rows ≤ room ceiling
  accounted : reservedAndSettledTotal rows ≤
    room ceiling + (since.map CostLedgerRow.overrun).sum

theorem bounded_nil (ceiling : ℚ) : Bounded ceiling [] [] where
  reserved := by simp [reservedTotal, room]
  accounted := by simp [reservedAndSettledTotal, room]

theorem total_settle (hkeyed : Rows.Keyed CostLedgerRow.key rows) {row : CostLedgerRow}
    (settlement : Settlement) (hrow : row ∈ rows) (hreserved : row.state = .reserved) :
    reservedAndSettledTotal (Rows.modify CostLedgerRow.key row.key
        (fun old => old.settle settlement) rows) =
      reservedAndSettledTotal rows +
        (row.settle settlement).overrun := by
  rw [reservedAndSettledTotal, Rows.sum_modify hkeyed hrow, accounted_settle row settlement
    hreserved]
  rfl

theorem reserved_settle (hkeyed : Rows.Keyed CostLedgerRow.key rows) {row : CostLedgerRow}
    (settlement : Settlement) (hrow : row ∈ rows) :
    reservedTotal (Rows.modify CostLedgerRow.key row.key
        (fun old => old.settle settlement) rows) = reservedTotal rows := by
  rw [reservedTotal, Rows.sum_modify hkeyed hrow]
  simp [reservedTotal, CostLedgerRow.settle]

theorem Bounded.step {since : List CostLedgerRow} (h : Bounded ceiling rows since)
    (hkeyed : Rows.Keyed CostLedgerRow.key rows)
    (houtcome : Outcome (some ceiling) rows answer after) :
    Bounded ceiling after (afterAnswer since answer) := by
  cases houtcome with
  | refused error => exact h
  | existing row hrow => exact h
  | inserted row limit hceiling hnew hreserved hroom =>
      obtain rfl := Option.some.inj hceiling
      have hafter : reservedAndSettledTotal (rows ++ [row]) =
          reservedAndSettledTotal rows + row.reservedUsd := by
        simp [reservedAndSettledTotal, CostLedgerRow.accounted, hreserved]
      have htotal : reservedAndSettledTotal (rows ++ [row]) ≤ room ceiling := by
        rw [hafter]
        refine le_trans ?_ (le_max_right _ _)
        linarith
      exact ⟨(reservedTotal_le _).trans htotal, by simpa [afterAnswer] using htotal⟩
  | settled row settlement hrow hreserved =>
      refine ⟨?_, ?_⟩
      · rw [reserved_settle hkeyed settlement hrow]
        exact h.reserved
      · rw [total_settle hkeyed settlement hrow hreserved]
        have hbefore := h.accounted
        simp only [afterAnswer, List.map_append, List.sum_append, List.map_cons, List.map_nil,
          List.sum_cons, List.sum_nil, add_zero]
        linarith

theorem total_grows (hkeyed : Rows.Keyed CostLedgerRow.key rows)
    {ceilingUsd : Option ℚ} (houtcome : Outcome ceilingUsd rows answer after) :
    reservedAndSettledTotal rows ≤ reservedAndSettledTotal after := by
  cases houtcome with
  | refused error => exact le_refl _
  | existing row hrow => exact le_refl _
  | inserted row limit hceiling hnew hreserved hroom =>
      have hnonneg : 0 ≤ row.accounted := row.reservedNonneg.trans (reserved_le_accounted row)
      simpa [reservedAndSettledTotal] using hnonneg
  | settled row settlement hrow hreserved =>
      rw [total_settle hkeyed settlement hrow hreserved]
      exact le_add_of_nonneg_right (overrun_nonneg _)

theorem outcome_refused {ceilingUsd : Option ℚ} {error : LedgerError}
    (houtcome : Outcome ceilingUsd rows (.refused error) after) : after = rows := by
  cases houtcome
  rfl

theorem bounded_run (calls : List Call) :
    ∀ (rows since : List CostLedgerRow), Rows.Keyed CostLedgerRow.key rows →
      Bounded ceiling rows since →
      Bounded ceiling (Machine.run (callStep (some ceiling)) rows calls).2
        ((Machine.run (callStep (some ceiling)) rows calls).1.foldl afterAnswer since) := by
  induction calls with
  | nil => intro rows since _ h; exact h
  | cons call rest ih =>
      intro rows since hkeyed h
      have houtcome := callStep_outcome (some ceiling) hkeyed call
      exact ih _ _ (houtcome.keyed hkeyed) (h.step hkeyed houtcome)

theorem keyed_step (ceilingUsd : Option ℚ) (hkeyed : Rows.Keyed CostLedgerRow.key rows)
    (call : Call) : Rows.Keyed CostLedgerRow.key (callStep ceilingUsd rows call).2 :=
  (callStep_outcome ceilingUsd hkeyed call).keyed hkeyed

/-- The accounted total of one table is at most that of another. -/
def TotalLe (before after : List CostLedgerRow) : Prop :=
  reservedAndSettledTotal before ≤ reservedAndSettledTotal after

instance : Trans TotalLe TotalLe TotalLe := ⟨le_trans⟩

theorem visited_grows (ceilingUsd : Option ℚ) (calls : List Call) :
    (Machine.visited (callStep ceilingUsd) [] calls).IsChain TotalLe := by
  have hstep : ∀ (rows : List CostLedgerRow) (call : Call),
      Rows.Keyed CostLedgerRow.key rows → True →
      Rows.Keyed CostLedgerRow.key (callStep ceilingUsd rows call).2 ∧
        TotalLe rows (callStep ceilingUsd rows call).2 :=
    fun rows call hkeyed _ => ⟨keyed_step ceilingUsd hkeyed call,
      total_grows hkeyed (callStep_outcome ceilingUsd hkeyed call)⟩
  exact Machine.visited_chain hstep calls [] (Rows.keyed_nil _)
    (Machine.admits_of_forall calls [] fun _ _ _ => trivial)

/-- Under a fixed ceiling, in every order of reservations and settlements of any runs: the
reserved amounts stay within the room, the accounted total exceeds it by at most the
overruns settled since the last reservation, no call lowers that total, and a refused call
leaves the table as it was. -/
theorem cost_ceiling (ceiling : ℚ) (calls : List Call) :
    let ran := Machine.run (callStep (some ceiling)) [] calls
    reservedTotal ran.2 ≤ max 0 (ceiling - reservationCeilingBufferUsd) ∧
      reservedAndSettledTotal ran.2 ≤ max 0 (ceiling - reservationCeilingBufferUsd) +
        ((settledSince ran.1).map CostLedgerRow.overrun).sum ∧
      (Machine.visited (callStep (some ceiling)) [] calls).Pairwise TotalLe ∧
      ∀ call error, (callStep (some ceiling) ran.2 call).1 = .refused error →
        (callStep (some ceiling) ran.2 call).2 = ran.2 := by
  have hbounded := bounded_run calls [] [] (Rows.keyed_nil _) (bounded_nil ceiling)
  have hadmits : Machine.Admits (callStep (some ceiling)) (fun _ _ => True) [] calls :=
    Machine.admits_of_forall calls [] fun _ _ _ => trivial
  have hstep : ∀ (rows : List CostLedgerRow) (call : Call),
      Rows.Keyed CostLedgerRow.key rows → True →
      Rows.Keyed CostLedgerRow.key (callStep (some ceiling) rows call).2 :=
    fun rows call hrows _ => keyed_step (some ceiling) hrows call
  have hkeyed := Machine.run_invariant hstep calls [] (Rows.keyed_nil _) hadmits
  refine ⟨hbounded.reserved, hbounded.accounted, ?_, ?_⟩
  · exact (visited_grows (some ceiling) calls).pairwise
  · intro call error hrefused
    have houtcome := callStep_outcome (some ceiling) hkeyed call
    rw [hrefused] at houtcome
    exact outcome_refused houtcome

end Ceiling

end CausalOps.Cost
