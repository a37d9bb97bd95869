import Mathlib.Algebra.BigOperators.Fin
import Mathlib.Algebra.Order.BigOperators.Group.Finset
import CausalOps.Cost.Ceiling
import CausalOps.Cost.SentOnce

set_option autoImplicit false

/-! Calls of `_send` whose prices fit under the ceiling together, none of them billed above
its reservation: no call is refused for the ceiling, whatever order they take. -/

namespace CausalOps.Cost

open CausalOps.Investigation

section Programs

/-- What `_send` estimates of the prose of a call. -/
def SendCall.prose (call : SendCall) : ℕ :=
  estimateInputTokens (call.request.systemText ++ humanContent call.request)

/-- What `_send` reserves for a call: nothing where the prose is above the cap. -/
def SendCall.price (call : SendCall) : ℚ :=
  if call.prose ≤ maxInputTokens then
    call.model.pricing.reservationUsd (call.prose + estimateInputTokens call.tools)
  else 0

/-- The refusal of a reservation that does not fit. -/
def LedgerError.IsCeiling : LedgerError → Prop
  | .costCeilingExceeded _ _ => True
  | _ => False

def SendError.IsCeiling : SendError → Prop
  | .ledger error => error.IsCeiling
  | _ => False

/-- An operation that asks for the call's price under the call's ceiling, or settles at no
more than the price. -/
def Asks (call : SendCall) : SendOp → Prop
  | .reserve _ reservedUsd _ ceilingUsd =>
      reservedUsd = some call.price ∧ ceilingUsd = call.model.ceilingUsd
  | .settle _ actualUsd _ _ _ => ∀ actual, actualUsd = some actual → actual ≤ call.price
  | _ => True

/-- An answer of the provider that is billed within the reservation, and one of the ledger
that is not the refusal. -/
def Affordable (call : SendCall) : (op : SendOp) → op.Result → Prop
  | .invoke _ _ _ _, answer => ∀ message usage, answer = some message →
      message.usageMetadata = some usage →
        call.model.pricing.actualCostUsd usage.inputTokens usage.outputTokens ≤ call.price
  | .reserve _ _ _ _, answer => ∀ error, answer = .error error → ¬ error.IsCeiling
  | .settle _ _ _ _ _, answer => ∀ error, answer = .error error → ¬ error.IsCeiling
  | _, _ => True

/-- A program that is not refused for the ceiling unless it was told so. -/
def Within (call : SendCall) : Sending AIMessage → Prop
  | .ret _ => True
  | .raise error => ¬ error.IsCeiling
  | .call op next => Asks call op ∧ ∀ answer, Affordable call op answer → Within call (next answer)

variable {call : SendCall}

theorem within_readBack {key : RequestKey} {missing : String}
    {next : CostLedgerRow → Sending AIMessage} (hnext : ∀ row, Within call (next row)) :
    Within call (readBack key missing >>= next) := by
  refine ⟨trivial, ?_⟩
  intro answer _
  match answer with
  | .error message => exact id
  | .ok none => exact id
  | .ok (some row) => exact hnext row

theorem within_recordReservation {key : RequestKey} {requestedAt : Moment}
    {next : CostLedgerRow × Bool → Sending AIMessage} (hnext : ∀ answer, Within call (next answer)) :
    Within call
      (recordReservation key (some call.price) requestedAt call.model.ceilingUsd >>= next) := by
  refine ⟨⟨rfl, rfl⟩, ?_⟩
  intro answer haffordable
  match answer with
  | .error error => exact haffordable error rfl
  | .ok (row, false) => exact hnext (row, false)
  | .ok (_, true) =>
      refine ⟨trivial, fun readAnswer _ => ?_⟩
      match readAnswer with
      | .error message => exact id
      | .ok none => exact id
      | .ok (some row) => exact hnext (row, true)

theorem invokeAndSettle_within (call : SendCall) :
    Within call (invokeAndSettle call.model call.request call.tools) := by
  refine ⟨trivial, ?_⟩
  intro answer haffordable
  cases answer with
  | none => exact id
  | some message =>
      dsimp only
      cases husage : message.usageMetadata with
      | none => exact id
      | some usage =>
          refine ⟨trivial, fun settledAt _ => ⟨?_, ?_⟩⟩
          · intro actual hactual
            rw [← Option.some.inj hactual]
            exact haffordable message usage rfl husage
          · intro settled hsettled
            cases settled with
            | error error => exact hsettled error rfl
            | ok after => exact within_readBack fun _ => trivial

theorem send_within (call : SendCall) :
    Within call (send call.model call.request call.tools) := by
  unfold send
  split
  · exact id
  dsimp only
  split
  · exact id
  rename_i hcap
  have hprice : call.price = call.model.pricing.reservationUsd
      (estimateInputTokens (call.request.systemText ++ humanContent call.request) +
        estimateInputTokens call.tools) := if_pos (not_lt.1 hcap)
  rw [← hprice]
  refine ⟨trivial, fun requestedAt _ => within_recordReservation ?_⟩
  intro answer
  obtain ⟨row, isNew⟩ := answer
  cases isNew with
  | true => exact invokeAndSettle_within call
  | false => exact id

/-- What is left of a call is within its price, or it has ended otherwise. -/
def Progress.Within (call : SendCall) : Progress → Prop
  | .running program => Cost.Within call program
  | .ended (.error error) => ¬ error.IsCeiling
  | _ => True

theorem standing_within {program : Sending AIMessage} (h : Within call program) :
    (standing program).Within call := by
  cases program with
  | ret message => trivial
  | raise error => exact h
  | call op next => exact h

end Programs

section Operations

variable {ι : Type} {call : SendCall} {rows after : List CostLedgerRow}

def Phase.committed (call : SendCall) : Phase → ℚ
  | .fresh => 0
  | _ => call.price

def Phase.Priced (call : SendCall) : Phase → Prop
  | .inserted row => row.reservedUsd = call.price
  | .invoked row => row.reservedUsd = call.price
  | _ => True

/-- A settlement is written with the cost that it was asked for, or is refused otherwise
than for the ceiling. -/
theorem settle_actual (hkeyed : Rows.Keyed CostLedgerRow.key rows) (key : RequestKey)
    (actualUsd : Option ℚ) (inputTokens outputTokens : Option ℤ) (settledAt : Moment) :
    match (settleReservation rows key actualUsd inputTokens outputTokens settledAt).1 with
    | .ok row => ∃ settlement, row.state = .settled settlement ∧
        actualUsd = some settlement.actualUsd
    | .error error => ¬ error.IsCeiling := by
  simp only [settleReservation]
  cases hactual : validMoney actualUsd "actual_usd" with
  | error message => exact id
  | ok actual =>
      dsimp only
      cases validTokens inputTokens "input_tokens" with
      | error message => exact id
      | ok input =>
          dsimp only
          cases validTokens outputTokens "output_tokens" with
          | error message => exact id
          | ok output =>
              dsimp only
              rw [Rows.countP_key hkeyed isReserved, Rows.update_key hkeyed isReserved]
              cases hlookup : Rows.lookup CostLedgerRow.key key rows with
              | none => exact id
              | some row =>
                  dsimp only
                  by_cases hreserved : isReserved row = true
                  · simp only [if_pos hreserved]
                    have hread : Rows.lookup CostLedgerRow.key key
                        (Rows.modify CostLedgerRow.key key (fun old => old.settle
                          ⟨actual.1, input, output, settledAt, actual.2⟩) rows) =
                        (Rows.lookup CostLedgerRow.key key rows).map fun old => old.settle
                          ⟨actual.1, input, output, settledAt, actual.2⟩ :=
                      Rows.lookup_modify_self fun _ => rfl
                    rw [hlookup] at hread
                    simp only [readRow, hread, Option.map_some, one_ne_zero, if_false]
                    exact ⟨_, rfl, validMoney_ok hactual⟩
                  · simp only [if_neg hreserved]
                    exact id

/-- What an operation may add to the total is what its call commits by it. -/
structure Affords (call : SendCall) (phase next : Phase) (rows after : List CostLedgerRow) :
    Prop where
  priced : next.Priced call
  total : reservedAndSettledTotal after + phase.committed call ≤
    reservedAndSettledTotal rows + next.committed call

theorem affords_nothing {phase : Phase} (h : phase.Priced call) :
    Affords call phase phase rows rows := ⟨h, le_rfl⟩

/-- A reservation at the price that fits is not refused for the ceiling, and one that is
inserted adds the price. -/
theorem record_affords {ceiling : ℚ} (key : RequestKey) (requestedAt : Moment)
    (hfits : reservedAndSettledTotal rows + call.price ≤ ceiling - reservationCeilingBufferUsd) :
    match recordReservationBeforeRequest rows key (some call.price) requestedAt (some ceiling) with
    | (.error error, after) => ¬ error.IsCeiling ∧ after = rows
    | (.ok (_, false), after) => after = rows
    | (.ok (row, true), after) => row.reservedUsd = call.price ∧
        reservedAndSettledTotal after = reservedAndSettledTotal rows + call.price := by
  simp only [recordReservationBeforeRequest]
  cases hreserved : validMoney (some call.price) "reserved_usd" with
  | error message => exact ⟨id, rfl⟩
  | ok reserved =>
      dsimp only
      cases hceiling : validMoney (some ceiling) "ceiling_usd" with
      | error message => exact ⟨id, rfl⟩
      | ok limit =>
          dsimp only
          cases readRow rows key with
          | some existing => rfl
          | none =>
              dsimp only
              obtain hprice : call.price = reserved.1 := Option.some.inj (validMoney_ok hreserved)
              obtain hlimit : ceiling = limit.1 := Option.some.inj (validMoney_ok hceiling)
              have hroom : ¬ reserved.1 >
                  limit.1 - reservationCeilingBufferUsd - reservedAndSettledTotal rows := by
                rw [← hprice, ← hlimit]
                linarith
              rw [if_neg hroom]
              refine ⟨hprice.symm, ?_⟩
              simp [reservedAndSettledTotal, CostLedgerRow.accounted, hprice]

variable {key : RequestKey} {system : System ι} {phase : Phase}

theorem exec_affords (surroundings : Surroundings) (i : ι) {op : SendOp} {ceiling : ℚ}
    (hceiling : call.model.ceilingUsd = some ceiling)
    (hkeyed : Rows.Keyed CostLedgerRow.key system.rows) (hstored : phase.Stored key system.rows)
    (hallows : phase.Allows key op) (hasks : Asks call op) (hpriced : phase.Priced call)
    (hbilled : ∀ read systemText content tools, op = .invoke read systemText content tools →
      Affordable call op (exec surroundings i system op).1)
    (hfits : phase = .fresh →
      reservedAndSettledTotal system.rows + call.price ≤ ceiling - reservationCeilingBufferUsd) :
    Affordable call op (exec surroundings i system op).1 ∧
      Affords call phase (phase.after op (exec surroundings i system op).1) system.rows
        (exec surroundings i system op).2.rows := by
  cases op with
  | clock =>
      rw [after_clock]
      exact ⟨trivial, affords_nothing hpriced⟩
  | readRow read =>
      rw [after_readRow]
      simp only [exec]
      split <;> exact ⟨trivial, affords_nothing hpriced⟩
  | invoke read systemText content tools =>
      refine ⟨hbilled _ _ _ _ rfl, ?_⟩
      cases phase with
      | inserted row => exact ⟨hpriced, le_rfl⟩
      | fresh => exact hallows.elim
      | invoked row => exact hallows.elim
      | settled row after => exact hallows.elim
  | reserve read reservedUsd requestedAt ceilingUsd =>
      cases phase with
      | inserted row => exact hallows.elim
      | invoked row => exact hallows.elim
      | settled row after => exact hallows.elim
      | fresh =>
          obtain ⟨rfl, rfl⟩ := hasks
          have haffords := record_affords read requestedAt (hfits rfl)
          simp only [exec, hceiling]
          generalize recordReservationBeforeRequest system.rows read (some call.price)
            requestedAt (some ceiling) = result at haffords ⊢
          obtain ⟨answer, after⟩ := result
          split
          · exact ⟨fun error herror => Except.error.inj herror ▸ id, affords_nothing hpriced⟩
          · cases answer with
            | error error =>
                exact ⟨fun other hother => Except.error.inj hother ▸ haffords.1,
                  affords_nothing hpriced⟩
            | ok result =>
                obtain ⟨row, isNew⟩ := result
                cases isNew with
                | false => exact ⟨fun error herror => (by cases herror), affords_nothing hpriced⟩
                | true =>
                    refine ⟨fun error herror => (by cases herror), haffords.1, ?_⟩
                    simp only [Phase.after, Phase.committed, System.note, haffords.2, add_zero,
                      le_refl]
  | settle read actualUsd inputTokens outputTokens settledAt =>
      cases phase with
      | fresh => exact hallows.elim
      | inserted row => exact hallows.elim
      | settled row after => exact hallows.elim
      | invoked row =>
          obtain rfl : read = key := hallows
          have hsettling := settle_settling hkeyed read actualUsd inputTokens outputTokens settledAt
          have hactual := settle_actual hkeyed read actualUsd inputTokens outputTokens settledAt
          simp only [exec]
          generalize settleReservation system.rows read actualUsd inputTokens outputTokens
            settledAt = result at hsettling hactual ⊢
          obtain ⟨answer, after⟩ := result
          dsimp only at hsettling hactual
          split
          · exact ⟨fun error herror => Except.error.inj herror ▸ id, affords_nothing hpriced⟩
          · cases hsettling with
            | refused error =>
                exact ⟨fun other hother => Except.error.inj hother ▸ hactual,
                  affords_nothing hpriced⟩
            | settled old settlement hrow hreserved =>
                obtain ⟨hkey, hstate, hread⟩ := hstored
                obtain rfl : row = old := Option.some.inj (hread.symm.trans hrow)
                obtain ⟨written, hwritten, hcost⟩ := hactual
                obtain rfl : settlement = written := RowState.settled.inj hwritten
                have hwithin : settlement.actualUsd ≤ row.reservedUsd := by
                  rw [show row.reservedUsd = call.price from hpriced]
                  exact hasks _ hcost
                have hoverrun : (row.settle settlement).overrun = 0 := by
                  simp only [CostLedgerRow.settle, CostLedgerRow.overrun]
                  exact max_eq_left (sub_nonpos.2 hwithin)
                have htotal := total_settle hkeyed settlement (Rows.lookup_mem hrow) hreserved
                rw [hkey, hoverrun, add_zero] at htotal
                refine ⟨fun error herror => (by cases herror), trivial, ?_⟩
                simp only [Phase.after, Phase.committed, System.note, htotal, le_refl]

end Operations

section Runs

variable {ι : Type} [DecidableEq ι] [Fintype ι] {calls : ι → SendCall} {prior ceiling : ℚ}
  {system : System ι} {phase : ι → Phase}

theorem price_nonneg (call : SendCall) : 0 ≤ call.price := by
  unfold SendCall.price
  split
  · exact PricingSnapshot.reservationUsd_nonneg _ _
  · exact le_rfl

theorem committed_le (call : SendCall) (phase : Phase) : phase.committed call ≤ call.price := by
  cases phase with
  | fresh => exact price_nonneg call
  | inserted row => exact le_rfl
  | invoked row => exact le_rfl
  | settled row after => exact le_rfl

/-- No reply of the provider is billed above the reservation of its call. -/
def Honest (calls : ι → SendCall) : Act ι → Prop
  | .advance i surroundings => ∀ message usage, surroundings.reply = some message →
      message.usageMetadata = some usage →
        (calls i).model.pricing.actualCostUsd usage.inputTokens usage.outputTokens ≤
          (calls i).price
  | _ => True

/-- The total is what it was before the calls, and what they have committed. -/
structure Fitting (calls : ι → SendCall) (prior : ℚ) (system : System ι) (phase : ι → Phase) :
    Prop where
  agrees : Agrees calls system phase
  priced : ∀ i, (phase i).Priced (calls i)
  within : ∀ i, (system.progress i).Within (calls i)
  total : reservedAndSettledTotal system.rows ≤
    prior + ∑ i, (phase i).committed (calls i)

theorem fitting_initial (calls : ι → SendCall) {rows : List CostLedgerRow}
    (hkeyed : Rows.Keyed CostLedgerRow.key rows) :
    Fitting calls (reservedAndSettledTotal rows) (System.initial rows) fun _ => .fresh where
  agrees := agrees_initial calls hkeyed
  priced := fun _ => trivial
  within := fun _ => trivial
  total := by simp [System.initial, Phase.committed]

theorem committed_update (calls : ι → SendCall) (phase : ι → Phase) (i : ι) (next : Phase) :
    ∑ j, (Function.update phase i next j).committed (calls j) =
      ∑ j, (phase j).committed (calls j) +
        (next.committed (calls i) - (phase i).committed (calls i)) := by
  rw [← Finset.add_sum_erase _ _ (Finset.mem_univ i),
    ← Finset.add_sum_erase Finset.univ (fun j => (phase j).committed (calls j))
      (Finset.mem_univ i)]
  have hothers : ∑ j ∈ Finset.univ.erase i, (Function.update phase i next j).committed (calls j) =
      ∑ j ∈ Finset.univ.erase i, (phase j).committed (calls j) := by
    refine Finset.sum_congr rfl fun j hj => ?_
    rw [Function.update_of_ne (Finset.ne_of_mem_erase hj)]
  rw [hothers, Function.update_self]
  linarith

theorem committed_fresh (calls : ι → SendCall) {i : ι} (hfresh : phase i = .fresh) :
    ∑ j, (phase j).committed (calls j) + (calls i).price ≤ ∑ j, (calls j).price := by
  rw [← Finset.add_sum_erase _ _ (Finset.mem_univ i),
    ← Finset.add_sum_erase Finset.univ (fun j => (calls j).price) (Finset.mem_univ i), hfresh]
  have hothers : ∑ j ∈ Finset.univ.erase i, (phase j).committed (calls j) ≤
      ∑ j ∈ Finset.univ.erase i, (calls j).price :=
    Finset.sum_le_sum fun j _ => committed_le (calls j) (phase j)
  have hnothing : Phase.fresh.committed (calls i) = 0 := rfl
  linarith

theorem Fitting.setProgress (h : Fitting calls prior system phase) {i : ι} {progress : Progress}
    (hstands : (phase i).Stands (calls i).key progress)
    (hwithin : progress.Within (calls i)) :
    Fitting calls prior (system.setProgress i progress) phase where
  agrees := h.agrees.setProgress hstands
  priced := h.priced
  within := by
    intro j
    by_cases hj : j = i
    · subst hj
      simpa [System.setProgress] using hwithin
    · simpa [System.setProgress, Function.update_of_ne hj] using h.within j
  total := h.total

theorem Fitting.step (h : Fitting calls prior system phase)
    (hceiling : ∀ i, (calls i).model.ceilingUsd = some ceiling)
    (hfits : prior + ∑ i, (calls i).price ≤ ceiling - reservationCeilingBufferUsd) {act : Act ι}
    (hhonest : Honest calls act) : ∃ next, Fitting calls prior (system.step calls act) next := by
  cases act with
  | start i =>
      simp only [System.step]
      have hstands := h.agrees.stands i
      split
      · rename_i hwaiting
        rw [hwaiting] at hstands
        refine ⟨phase, h.setProgress ?_ (standing_within (send_within _))⟩
        rw [hstands]
        exact stands_standing (send_follows (calls i))
      · exact ⟨phase, h⟩
  | advance i surroundings =>
      simp only [System.step]
      have hstands := h.agrees.stands i
      have hwithin := h.within i
      split
      · rename_i op next hrunning
        rw [hrunning] at hstands hwithin
        obtain ⟨hallows, hnext⟩ := hstands
        obtain ⟨hasks, hleft⟩ := hwithin
        have hroom : phase i = .fresh → reservedAndSettledTotal system.rows + (calls i).price ≤
            ceiling - reservationCeilingBufferUsd := by
          intro hfresh
          have htotal := h.total
          have hcommitted := committed_fresh calls hfresh
          linarith
        have hbilled : ∀ read systemText content tools, op = .invoke read systemText content tools →
            Affordable (calls i) op (exec surroundings i system op).1 := by
          rintro read systemText content tools rfl message usage hmessage husage
          exact hhonest message usage hmessage husage
        obtain ⟨haffordable, haffords⟩ := exec_affords surroundings i (hceiling i) h.agrees.keyed
          (h.agrees.stored i) hallows hasks (h.priced i) hbilled hroom
        have hdoes := exec_does surroundings i h.agrees.keyed (h.agrees.stored i) hallows
        refine ⟨_, h.agrees.does hdoes (stands_standing (hnext _)), ?_, ?_, ?_⟩
        · intro j
          by_cases hj : j = i
          · subst hj
            rw [Function.update_self]
            exact haffords.priced
          · rw [Function.update_of_ne hj]
            exact h.priced j
        · intro j
          by_cases hj : j = i
          · subst hj
            simpa [System.setProgress] using standing_within (hleft _ haffordable)
          · have hsame := h.within j
            rw [← hdoes.progress] at hsame
            simpa [System.setProgress, Function.update_of_ne hj] using hsame
        · rw [committed_update]
          have hbefore := h.total
          have hadded := haffords.total
          simp only [System.setProgress]
          linarith
      · exact ⟨phase, h⟩
  | crash i =>
      simp only [System.step]
      split
      · exact ⟨phase, h.setProgress trivial trivial⟩
      · exact ⟨phase, h⟩

theorem Fitting.run (h : Fitting calls prior system phase)
    (hceiling : ∀ i, (calls i).model.ceilingUsd = some ceiling)
    (hfits : prior + ∑ i, (calls i).price ≤ ceiling - reservationCeilingBufferUsd)
    {acts : List (Act ι)} (hhonest : ∀ act ∈ acts, Honest calls act) :
    ∃ next, Fitting calls prior (system.run calls acts) next := by
  induction acts generalizing system phase with
  | nil => exact ⟨phase, h⟩
  | cons act rest ih =>
      obtain ⟨next, hnext⟩ := h.step hceiling hfits (hhonest act List.mem_cons_self)
      exact ih hnext fun other hother => hhonest other (List.mem_cons_of_mem _ hother)

/-- Calls whose prices fit together under their ceiling are never refused for it. -/
theorem never_over_ceiling {rows : List CostLedgerRow}
    (hkeyed : Rows.Keyed CostLedgerRow.key rows)
    (hceiling : ∀ i, (calls i).model.ceilingUsd = some ceiling)
    (hfits : reservedAndSettledTotal rows + ∑ i, (calls i).price ≤
      ceiling - reservationCeilingBufferUsd)
    {acts : List (Act ι)} (hhonest : ∀ act ∈ acts, Honest calls act) (i : ι) {error : SendError}
    (hended : ((System.initial rows).run calls acts).progress i = .ended (.error error)) :
    ¬ error.IsCeiling := by
  obtain ⟨phase, hfitting⟩ := (fitting_initial calls hkeyed).run hceiling hfits hhonest
  have hwithin := hfitting.within i
  rw [hended] at hwithin
  exact hwithin

end Runs

end CausalOps.Cost
