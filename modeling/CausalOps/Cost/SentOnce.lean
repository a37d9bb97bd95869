import CausalOps.Cost.Send

set_option autoImplicit false

/-! In every run of any calls, crashes included, the provider sees a request key at most once,
and only under a row that the same call inserted. -/

namespace CausalOps.Cost

open CausalOps.Investigation

section Protocol

/-- How far a call has come with its key. A row is as it was inserted. -/
inductive Phase where
  | fresh
  | inserted (row : CostLedgerRow)
  | invoked (row : CostLedgerRow)
  | settled (row after : CostLedgerRow)

def Phase.events (key : RequestKey) : Phase → List Event
  | .fresh => []
  | .inserted row => [.inserted row]
  | .invoked row => [.inserted row, .invoked key]
  | .settled row _ => [.inserted row, .invoked key, .settled key]

def Phase.Allows (key : RequestKey) : Phase → SendOp → Prop
  | .fresh, .reserve key' _ _ _ => key' = key
  | .inserted _, .invoke key' _ _ _ => key' = key
  | .invoked _, .settle key' _ _ _ _ => key' = key
  | _, .clock => True
  | _, .readRow _ => True
  | _, _ => False

def Phase.after : Phase → (op : SendOp) → op.Result → Phase
  | .fresh, .reserve _ _ _ _, .ok (row, true) => .inserted row
  | .inserted row, .invoke _ _ _ _, _ => .invoked row
  | .invoked row, .settle _ _ _ _ _, .ok written => .settled row written
  | phase, _, _ => phase

/-- The phases in which a call may end: a message only for a settled row, and a failure of
the provider only for one that is not. -/
def Phase.Ends (phase : Phase) : Except SendError AIMessage → Prop
  | .ok _ => ∃ row after, phase = .settled row after
  | .error .provider => ∃ row, phase = .invoked row
  | .error (.missingProviderUsage _) => ∃ row, phase = .invoked row
  | .error _ => True

/-- A program that keeps to the protocol from a phase on, whatever is answered. -/
def Follows (key : RequestKey) : Phase → Sending AIMessage → Prop
  | phase, .ret message => phase.Ends (.ok message)
  | phase, .raise error => phase.Ends (.error error)
  | phase, .call op next =>
      phase.Allows key op ∧ ∀ answer, Follows key (phase.after op answer) (next answer)

variable {key : RequestKey}

@[simp] theorem allows_clock (phase : Phase) : phase.Allows key .clock := by
  cases phase <;> trivial

@[simp] theorem allows_readRow (phase : Phase) (read : RequestKey) :
    phase.Allows key (.readRow read) := by
  cases phase <;> trivial

@[simp] theorem after_clock (phase : Phase) (now : Moment) : phase.after .clock now = phase := by
  cases phase <;> rfl

@[simp] theorem after_readRow (phase : Phase) (read : RequestKey)
    (answer : Except String (Option CostLedgerRow)) :
    phase.after (.readRow read) answer = phase := by
  cases phase <;> rfl

theorem follows_readBack {phase : Phase} {read : RequestKey} {missing : String}
    {next : CostLedgerRow → Sending AIMessage} (hnext : ∀ row, Follows key phase (next row)) :
    Follows key phase (readBack read missing >>= next) := by
  refine ⟨allows_readRow _ _, ?_⟩
  intro answer
  rw [after_readRow]
  match answer with
  | .error message => exact trivial
  | .ok none => exact trivial
  | .ok (some row) => exact hnext row

theorem follows_settleSent {row : CostLedgerRow} {actualUsd : Option ℚ}
    {inputTokens outputTokens : Option ℤ} {settledAt : Moment}
    {next : CostLedgerRow → Sending AIMessage}
    (hnext : ∀ after read, Follows key (.settled row after) (next read)) :
    Follows key (.invoked row)
      (settleSent key actualUsd inputTokens outputTokens settledAt >>= next) := by
  refine ⟨rfl, ?_⟩
  intro answer
  cases answer with
  | error error => exact trivial
  | ok after => exact follows_readBack fun read => hnext after read

theorem follows_recordReservation {reservedUsd : Option ℚ} {requestedAt : Moment}
    {ceilingUsd : Option ℚ} {next : CostLedgerRow × Bool → Sending AIMessage}
    (hexisting : ∀ row, Follows key .fresh (next (row, false)))
    (hinserted : ∀ row read, Follows key (.inserted row) (next (read, true))) :
    Follows key .fresh
      (recordReservation key reservedUsd requestedAt ceilingUsd >>= next) := by
  refine ⟨rfl, ?_⟩
  intro answer
  match answer with
  | .error error => exact trivial
  | .ok (row, false) => exact hexisting row
  | .ok (row, true) =>
      refine ⟨trivial, fun readAnswer => ?_⟩
      match readAnswer with
      | .error message => exact trivial
      | .ok none => exact trivial
      | .ok (some read) => exact hinserted row read

theorem invokeAndSettle_follows (model : LiveClaudeModel) (request : ModelRequest)
    (tools : String) (row : CostLedgerRow) :
    Follows (requestKey request) (.inserted row) (invokeAndSettle model request tools) := by
  refine ⟨rfl, ?_⟩
  intro answer
  cases answer with
  | none => exact ⟨row, rfl⟩
  | some message =>
      dsimp only [Phase.after]
      cases message.usageMetadata with
      | none => exact ⟨row, rfl⟩
      | some usage =>
          refine ⟨trivial, fun settledAt => ?_⟩
          exact follows_settleSent fun after read => ⟨row, after, rfl⟩

/-- `_send` reserves before it invokes, invokes only for a row of its own, and settles only
what it invoked. -/
theorem send_follows (call : SendCall) :
    Follows call.key .fresh (send call.model call.request call.tools) := by
  unfold send
  split
  · exact trivial
  · dsimp only
    split
    · exact trivial
    · refine ⟨trivial, fun requestedAt => ?_⟩
      refine follows_recordReservation (fun row => ?_) (fun row read => ?_)
      · exact trivial
      · exact invokeAndSettle_follows call.model call.request call.tools row

end Protocol

section Stored

variable {key : RequestKey} {rows after : List CostLedgerRow}

/-- What the ledger holds under the key of a call in this phase. -/
def Phase.Stored (key : RequestKey) (rows : List CostLedgerRow) : Phase → Prop
  | .fresh => True
  | .inserted row => row.key = key ∧ row.state = .reserved ∧ readRow rows key = some row
  | .invoked row => row.key = key ∧ row.state = .reserved ∧ readRow rows key = some row
  | .settled row settledRow => row.key = key ∧ row.state = .reserved ∧
      readRow rows key = some settledRow ∧ ∃ settlement, settledRow = row.settle settlement

theorem Phase.Stored.congr {phase : Phase} (h : phase.Stored key rows)
    (hsame : readRow after key = readRow rows key) : phase.Stored key after := by
  cases phase with
  | fresh => exact trivial
  | inserted row => exact ⟨h.1, h.2.1, hsame.trans h.2.2⟩
  | invoked row => exact ⟨h.1, h.2.1, hsame.trans h.2.2⟩
  | settled row settledRow => exact ⟨h.1, h.2.1, hsame.trans h.2.2.1, h.2.2.2⟩

theorem Phase.Stored.present {phase : Phase} (h : phase.Stored key rows)
    (hstarted : phase ≠ .fresh) : readRow rows key ≠ none := by
  intro hnone
  cases phase with
  | fresh => exact hstarted rfl
  | inserted row => exact Option.some_ne_none row (h.2.2.symm.trans hnone)
  | invoked row => exact Option.some_ne_none row (h.2.2.symm.trans hnone)
  | settled row settledRow =>
      exact Option.some_ne_none settledRow (h.2.2.1.symm.trans hnone)

/-- What later transactions leave of a row: its key and its reservation, and all of it once it
is settled. -/
def Kept (row later : CostLedgerRow) : Prop :=
  later.key = row.key ∧ later.reservedUsd = row.reservedUsd ∧
    later.reservedAt = row.reservedAt ∧ (row.state ≠ .reserved → later = row)

theorem Kept.refl (row : CostLedgerRow) : Kept row row := ⟨rfl, rfl, rfl, fun _ => rfl⟩

theorem Kept.trans {row later last : CostLedgerRow} (h : Kept row later) (h' : Kept later last) :
    Kept row last := by
  refine ⟨h'.1.trans h.1, h'.2.1.trans h.2.1, h'.2.2.1.trans h.2.2.1, ?_⟩
  intro hsettled
  obtain rfl := h.2.2.2 hsettled
  exact h'.2.2.2 hsettled

def Keeps (rows after : List CostLedgerRow) : Prop :=
  ∀ row ∈ rows, ∃ later ∈ after, Kept row later

theorem Keeps.refl (rows : List CostLedgerRow) : Keeps rows rows :=
  fun row hrow => ⟨row, hrow, Kept.refl row⟩

theorem Keeps.trans {last : List CostLedgerRow} (h : Keeps rows after) (h' : Keeps after last) :
    Keeps rows last := by
  intro row hrow
  obtain ⟨later, hlater, hkept⟩ := h row hrow
  obtain ⟨final, hfinal, hkept'⟩ := h' later hlater
  exact ⟨final, hfinal, hkept.trans hkept'⟩

/-- What an operation under one key may do to the table. -/
structure Touches (key : RequestKey) (rows after : List CostLedgerRow) : Prop where
  keyed : Rows.Keyed CostLedgerRow.key after
  others : ∀ other, other ≠ key → readRow after other = readRow rows other
  keeps : Keeps rows after

theorem Touches.refl (hkeyed : Rows.Keyed CostLedgerRow.key rows) : Touches key rows rows :=
  ⟨hkeyed, fun _ _ => rfl, Keeps.refl rows⟩

theorem settle_key (settlement : Settlement) (row : CostLedgerRow) :
    (row.settle settlement).key = row.key := rfl

theorem touches_insert (hkeyed : Rows.Keyed CostLedgerRow.key rows) {row : CostLedgerRow}
    (hkey : row.key = key) (hnew : readRow rows key = none) :
    Touches key rows (rows ++ [row]) := by
  refine ⟨?_, ?_, ?_⟩
  · rw [← hkey] at hnew
    exact hkeyed.append (Rows.lookup_eq_none.1 hnew)
  · intro other hother
    have hne : row.key ≠ other := by
      rw [hkey]
      exact hother.symm
    rw [readRow, Rows.lookup_append, if_neg hne, Option.or_none]
    rfl
  · exact fun old hold => ⟨old, List.mem_append_left _ hold, Kept.refl old⟩

theorem touches_settle (hkeyed : Rows.Keyed CostLedgerRow.key rows) {row : CostLedgerRow}
    (settlement : Settlement) (hrow : readRow rows key = some row)
    (hreserved : row.state = .reserved) :
    Touches key rows
      (Rows.modify CostLedgerRow.key key (fun old => old.settle settlement) rows) := by
  refine ⟨hkeyed.modify (settle_key settlement), ?_, ?_⟩
  · exact fun other hother => Rows.lookup_modify_ne (settle_key settlement) hother
  · intro old hold
    refine ⟨_, Rows.mem_modify.2 ⟨old, hold, rfl⟩, ?_⟩
    by_cases hkey : old.key = key
    · obtain rfl := hkeyed.eq_of_key_eq hold (Rows.lookup_mem hrow)
        (hkey.trans (Rows.lookup_key hrow).symm)
      rw [if_pos hkey]
      exact ⟨rfl, rfl, rfl, fun hsettled => absurd hreserved hsettled⟩
    · rw [if_neg hkey]
      exact Kept.refl old

end Stored

section Operation

variable {ι : Type} {key : RequestKey} {phase : Phase}

/-- What one operation of a call does, when the protocol allows it in its phase. -/
structure Does (key : RequestKey) (i : ι) (phase next : Phase) (system after : System ι) :
    Prop where
  journal : ∃ events : List Event, after.journal = system.journal ++ events.map (Prod.mk i) ∧
    next.events key = phase.events key ++ events
  stored : next.Stored key after.rows
  touches : Touches key system.rows after.rows
  fresh : phase = .fresh → after.rows = system.rows ∧ next = .fresh ∨
    readRow system.rows key = none
  progress : after.progress = system.progress

theorem does_nothing {i : ι} {system : System ι}
    (hkeyed : Rows.Keyed CostLedgerRow.key system.rows) (hstored : phase.Stored key system.rows) :
    Does key i phase phase system system where
  journal := ⟨[], by simp, by simp⟩
  stored := hstored
  touches := Touches.refl hkeyed
  fresh := fun h => .inl ⟨rfl, h⟩
  progress := rfl

theorem exec_does (surroundings : Surroundings) (i : ι) {system : System ι} {op : SendOp}
    (hkeyed : Rows.Keyed CostLedgerRow.key system.rows) (hstored : phase.Stored key system.rows)
    (hallows : phase.Allows key op) :
    Does key i phase (phase.after op (exec surroundings i system op).1) system
      (exec surroundings i system op).2 := by
  cases op with
  | clock =>
      rw [after_clock]
      exact does_nothing hkeyed hstored
  | readRow read =>
      rw [after_readRow]
      simp only [exec]
      split <;> exact does_nothing hkeyed hstored
  | reserve read reservedUsd requestedAt ceilingUsd =>
      cases phase with
      | inserted row => exact hallows.elim
      | invoked row => exact hallows.elim
      | settled row after => exact hallows.elim
      | fresh =>
          obtain rfl : read = key := hallows
          have hreserving :=
            record_reserving system.rows read reservedUsd requestedAt ceilingUsd
          simp only [exec]
          split
          · exact does_nothing hkeyed hstored
          · generalize recordReservationBeforeRequest system.rows read reservedUsd requestedAt
              ceilingUsd = result at hreserving ⊢
            obtain ⟨answer, after⟩ := result
            dsimp only at hreserving
            cases hreserving with
            | refused error => exact does_nothing hkeyed hstored
            | existing row hrow => exact does_nothing hkeyed hstored
            | inserted row ceiling hceiling hkey hnew hreserved hroom =>
                have hread : readRow (system.rows ++ [row]) read = some row := by
                  rw [readRow, Rows.lookup_append, if_pos hkey]
                  rw [readRow] at hnew
                  rw [hnew, Option.none_or]
                exact {
                  journal := ⟨[.inserted row], rfl, rfl⟩
                  stored := ⟨hkey, hreserved, hread⟩
                  touches := touches_insert hkeyed hkey hnew
                  fresh := fun _ => .inr hnew
                  progress := rfl }
  | invoke read systemText content tools =>
      cases phase with
      | fresh => exact hallows.elim
      | invoked row => exact hallows.elim
      | settled row after => exact hallows.elim
      | inserted row =>
          obtain rfl : read = key := hallows
          exact {
            journal := ⟨[.invoked read], rfl, rfl⟩
            stored := hstored
            touches := Touches.refl hkeyed
            fresh := fun h => by cases h
            progress := rfl }
  | settle read actualUsd inputTokens outputTokens settledAt =>
      cases phase with
      | fresh => exact hallows.elim
      | inserted row => exact hallows.elim
      | settled row after => exact hallows.elim
      | invoked row =>
          obtain rfl : read = key := hallows
          have hsettling :=
            settle_settling hkeyed read actualUsd inputTokens outputTokens settledAt
          simp only [exec]
          split
          · exact does_nothing hkeyed hstored
          · generalize settleReservation system.rows read actualUsd inputTokens outputTokens
              settledAt = result at hsettling ⊢
            obtain ⟨answer, after⟩ := result
            dsimp only at hsettling
            cases hsettling with
            | refused error => exact does_nothing hkeyed hstored
            | settled old settlement hrow hreserved =>
                obtain ⟨hkey, hstate, hread⟩ := hstored
                obtain rfl : row = old := Option.some.inj (hread.symm.trans hrow)
                have hafter : readRow (Rows.modify CostLedgerRow.key read
                    (fun old => old.settle settlement) system.rows) read =
                      some (row.settle settlement) := by
                  rw [readRow] at hread ⊢
                  rw [Rows.lookup_modify_self (settle_key settlement), hread, Option.map_some]
                exact {
                  journal := ⟨[.settled read], rfl, rfl⟩
                  stored := ⟨hkey, hstate, hafter, settlement, rfl⟩
                  touches := touches_settle hkeyed settlement hrow hreserved
                  fresh := fun h => by cases h
                  progress := rfl }

end Operation

section Runs

variable {ι : Type} [DecidableEq ι] {calls : ι → SendCall} {system : System ι}
  {phase : ι → Phase}

def Phase.Stands (key : RequestKey) (phase : Phase) : Progress → Prop
  | .waiting => phase = .fresh
  | .running program => Follows key phase program
  | .ended outcome => phase.Ends outcome
  | .dead => True

def System.own (system : System ι) (i : ι) : List Event :=
  (system.journal.filter fun entry => entry.1 = i).map Prod.snd

/-- Every call is in a phase that its own events, the ledger and what is left of its program
agree with, and of the calls with one key at most one has left the first phase. -/
structure Agrees (calls : ι → SendCall) (system : System ι) (phase : ι → Phase) : Prop where
  keyed : Rows.Keyed CostLedgerRow.key system.rows
  own : ∀ i, system.own i = (phase i).events (calls i).key
  stored : ∀ i, (phase i).Stored (calls i).key system.rows
  stands : ∀ i, (phase i).Stands (calls i).key (system.progress i)
  alone : ∀ i j, (calls i).key = (calls j).key → phase i ≠ .fresh → phase j ≠ .fresh → i = j

theorem agrees_initial (calls : ι → SendCall) {rows : List CostLedgerRow}
    (hkeyed : Rows.Keyed CostLedgerRow.key rows) :
    Agrees calls (System.initial rows) fun _ => .fresh where
  keyed := hkeyed
  own := fun _ => rfl
  stored := fun _ => trivial
  stands := fun _ => rfl
  alone := fun _ _ _ h => absurd rfl h

theorem stands_standing {key : RequestKey} {phase : Phase} {program : Sending AIMessage}
    (h : Follows key phase program) : phase.Stands key (standing program) := by
  cases program with
  | ret message => exact h
  | raise error => exact h
  | call op next => exact h

theorem Agrees.setProgress (h : Agrees calls system phase) {i : ι} {progress : Progress}
    (hstands : (phase i).Stands (calls i).key progress) :
    Agrees calls (system.setProgress i progress) phase where
  keyed := h.keyed
  own := h.own
  stored := h.stored
  stands := by
    intro j
    by_cases hj : j = i
    · subst hj
      simpa [System.setProgress] using hstands
    · simpa [System.setProgress, Function.update_of_ne hj] using h.stands j
  alone := h.alone

theorem own_append (system after : System ι) (i j : ι) {events : List Event}
    (hjournal : after.journal = system.journal ++ events.map (Prod.mk i)) :
    after.own j = system.own j ++ if j = i then events else [] := by
  simp only [System.own, hjournal, List.filter_append, List.map_append]
  congr 1
  by_cases hj : j = i
  · subst hj
    rw [if_pos rfl, List.filter_eq_self.2 (by simp)]
    simp
  · rw [if_neg hj, List.filter_eq_nil_iff.2 (by simpa using fun _ _ => fun h => hj h.symm)]
    rfl

/-- The others are not touched: only one call has a row of its own under a key, and a row is
inserted only where there is none. -/
theorem Agrees.stored_other (h : Agrees calls system phase) {i j : ι} {next : Phase}
    {after : System ι} (hdoes : Does (calls i).key i (phase i) next system after)
    (hne : j ≠ i) : (phase j).Stored (calls j).key after.rows := by
  by_cases hfresh : phase j = .fresh
  · rw [hfresh]
    exact trivial
  · refine (h.stored j).congr ?_
    by_cases hkey : (calls j).key = (calls i).key
    · have hother : phase i = .fresh := by
        by_contra hstarted
        exact hne (h.alone j i hkey hfresh hstarted)
      rcases hdoes.fresh hother with ⟨hrows, -⟩ | hnone
      · rw [hrows]
      · rw [← hkey] at hnone
        exact absurd hnone ((h.stored j).present hfresh)
    · exact hdoes.touches.others _ hkey

theorem Agrees.alone_after (h : Agrees calls system phase) {i : ι} {next : Phase}
    {after : System ι} (hdoes : Does (calls i).key i (phase i) next system after)
    (hstarted : next ≠ .fresh) {j : ι} (hkey : (calls i).key = (calls j).key)
    (hother : phase j ≠ .fresh) : i = j := by
  by_cases hfresh : phase i = .fresh
  · rcases hdoes.fresh hfresh with ⟨-, hnext⟩ | hnone
    · exact absurd hnext hstarted
    · rw [hkey] at hnone
      exact absurd hnone ((h.stored j).present hother)
  · exact h.alone i j hkey hfresh hother

theorem Agrees.does (h : Agrees calls system phase) {i : ι} {next : Phase} {after : System ι}
    (hdoes : Does (calls i).key i (phase i) next system after) {progress : Progress}
    (hstands : next.Stands (calls i).key progress) :
    Agrees calls (after.setProgress i progress) (Function.update phase i next) where
  keyed := hdoes.touches.keyed
  own := by
    intro j
    obtain ⟨events, hjournal, hevents⟩ := hdoes.journal
    change after.own j = _
    rw [own_append system after i j hjournal, h.own j]
    by_cases hj : j = i
    · subst hj
      rw [if_pos rfl, Function.update_self, hevents]
    · rw [if_neg hj, Function.update_of_ne hj, List.append_nil]
  stored := by
    intro j
    by_cases hj : j = i
    · subst hj
      rw [Function.update_self]
      exact hdoes.stored
    · rw [Function.update_of_ne hj]
      change (phase j).Stored (calls j).key after.rows
      exact h.stored_other hdoes hj
  stands := by
    intro j
    by_cases hj : j = i
    · subst hj
      simpa [System.setProgress] using hstands
    · have hprogress := h.stands j
      rw [← hdoes.progress] at hprogress
      simpa [System.setProgress, Function.update_of_ne hj] using hprogress
  alone := by
    intro j k hkey hj hk
    by_cases hji : j = i
    · subst hji
      by_cases hki : k = j
      · exact hki.symm
      · rw [Function.update_self] at hj
        rw [Function.update_of_ne hki] at hk
        exact h.alone_after hdoes hj hkey hk
    · rw [Function.update_of_ne hji] at hj
      by_cases hki : k = i
      · subst hki
        rw [Function.update_self] at hk
        exact (h.alone_after hdoes hk hkey.symm hj).symm
      · rw [Function.update_of_ne hki] at hk
        exact h.alone j k hkey hj hk

def Stays (system after : System ι) (phase next : ι → Phase) : Prop :=
  ∀ i outcome, system.progress i = .ended outcome →
    after.progress i = .ended outcome ∧ next i = phase i

theorem stays_setProgress {system after : System ι} {i : ι} {next : ι → Phase}
    {progress : Progress} (hprogress : after.progress = system.progress)
    (hopen : ∀ outcome, system.progress i ≠ .ended outcome)
    (hnext : ∀ j, j ≠ i → next j = phase j) :
    Stays system (after.setProgress i progress) phase next := by
  intro j outcome hended
  have hj : j ≠ i := by
    rintro rfl
    exact hopen outcome hended
  refine ⟨?_, hnext j hj⟩
  change Function.update after.progress i progress j = _
  rw [Function.update_of_ne hj, hprogress]
  exact hended

/-- One act keeps the agreement, loses no row and leaves the ended calls alone. -/
theorem Agrees.step (h : Agrees calls system phase) (act : Act ι) :
    (∃ next, Agrees calls (system.step calls act) next ∧
      Stays system (system.step calls act) phase next) ∧
      Keeps system.rows (system.step calls act).rows := by
  have hstays : Stays system system phase phase := fun _ _ hended => ⟨hended, rfl⟩
  cases act with
  | start i =>
      simp only [System.step]
      have hstands := h.stands i
      split
      · rename_i hwaiting
        rw [hwaiting] at hstands
        refine ⟨⟨phase, h.setProgress ?_, ?_⟩, Keeps.refl _⟩
        · rw [hstands]
          exact stands_standing (send_follows (calls i))
        · exact stays_setProgress rfl (by simp [hwaiting]) fun _ _ => rfl
      · exact ⟨⟨phase, h, hstays⟩, Keeps.refl _⟩
  | advance i surroundings =>
      simp only [System.step]
      have hstands := h.stands i
      split
      · rename_i op next hrunning
        rw [hrunning] at hstands
        obtain ⟨hallows, hnext⟩ := hstands
        have hdoes := exec_does surroundings i h.keyed (h.stored i) hallows
        refine ⟨⟨_, h.does hdoes (stands_standing (hnext _)), ?_⟩, hdoes.touches.keeps⟩
        exact stays_setProgress hdoes.progress (by simp [hrunning])
          fun j hj => Function.update_of_ne hj _ _
      · exact ⟨⟨phase, h, hstays⟩, Keeps.refl _⟩
  | crash i =>
      simp only [System.step]
      split
      · rename_i program hrunning
        exact ⟨⟨phase, h.setProgress trivial,
          stays_setProgress rfl (by simp [hrunning]) fun _ _ => rfl⟩, Keeps.refl _⟩
      · exact ⟨⟨phase, h, hstays⟩, Keeps.refl _⟩

theorem Agrees.run (acts : List (Act ι)) (h : Agrees calls system phase) :
    (∃ next, Agrees calls (system.run calls acts) next ∧
      Stays system (system.run calls acts) phase next) ∧
      Keeps system.rows (system.run calls acts).rows := by
  induction acts generalizing system phase with
  | nil => exact ⟨⟨phase, h, fun _ _ hended => ⟨hended, rfl⟩⟩, Keeps.refl _⟩
  | cons act rest ih =>
      obtain ⟨⟨next, hnext, hstays⟩, hkeeps⟩ := h.step act
      obtain ⟨⟨last, hlast, hstays'⟩, hrest⟩ := ih hnext
      refine ⟨⟨last, hlast, ?_⟩, hkeeps.trans hrest⟩
      intro i outcome hended
      obtain ⟨hended', hphase⟩ := hstays i outcome hended
      obtain ⟨hended'', hphase'⟩ := hstays' i outcome hended'
      exact ⟨hended'', hphase'.trans hphase⟩

end Runs

section Journal

variable {ι : Type} [DecidableEq ι] {calls : ι → SendCall} {system : System ι}
  {phase : ι → Phase}

/-- How often an event is in the journal, whichever calls it came from. -/
def System.times (system : System ι) (event : Event) : ℕ :=
  system.journal.countP fun entry => entry.2 = event

theorem mem_own {i : ι} {event : Event} : event ∈ system.own i ↔ (i, event) ∈ system.journal := by
  simp [System.own]

theorem times_eq_count {i : ι} {event : Event}
    (hfrom : ∀ j, (j, event) ∈ system.journal → j = i) :
    system.times event = (system.own i).count event := by
  rw [System.own, List.count, List.countP_map, List.countP_filter, System.times]
  refine List.countP_congr ?_
  rintro ⟨j, other⟩ hentry
  simp only [Function.comp_apply, decide_eq_true_eq, Bool.and_eq_true, beq_iff_eq]
  constructor
  · rintro rfl
    exact ⟨rfl, hfrom j hentry⟩
  · exact fun h => h.1

theorem events_nodup (key : RequestKey) (phase : Phase) : (phase.events key).Nodup := by
  cases phase <;> simp [Phase.events]

theorem Agrees.times_le_one (h : Agrees calls system phase) (key : RequestKey) {event : Event}
    (honly : ∀ i, event ∈ (phase i).events (calls i).key →
      (calls i).key = key ∧ phase i ≠ .fresh) :
    system.times event ≤ 1 := by
  by_cases hsome : ∃ i, (i, event) ∈ system.journal
  · obtain ⟨i, hi⟩ := hsome
    have hown : ∀ j, (j, event) ∈ system.journal → (calls j).key = key ∧ phase j ≠ .fresh := by
      intro j hj
      rw [← mem_own, h.own j] at hj
      exact honly j hj
    have hfrom : ∀ j, (j, event) ∈ system.journal → j = i := by
      intro j hj
      exact h.alone j i ((hown j hj).1.trans (hown i hi).1.symm) (hown j hj).2 (hown i hi).2
    rw [times_eq_count hfrom, h.own i]
    exact List.nodup_iff_count_le_one.1 (events_nodup _ _) event
  · rw [System.times, List.countP_eq_zero.2]
    · exact Nat.zero_le _
    · rintro ⟨j, other⟩ hentry hother
      obtain rfl : other = event := by simpa using hother
      exact hsome ⟨j, hentry⟩

theorem Agrees.invoked_once (h : Agrees calls system phase) (key : RequestKey) :
    system.times (.invoked key) ≤ 1 := by
  refine h.times_le_one key ?_
  intro i hmem
  cases hphase : phase i <;> simp_all [Phase.events]

theorem Agrees.settled_once (h : Agrees calls system phase) (key : RequestKey) :
    system.times (.settled key) ≤ 1 := by
  refine h.times_le_one key ?_
  intro i hmem
  cases hphase : phase i <;> simp_all [Phase.events]

theorem events_invoked {key sent : RequestKey} {phase : Phase} {before after : List Event}
    (h : before ++ .invoked sent :: after = phase.events key) :
    sent = key ∧ ∃ row, before = [.inserted row] ∧
      ((∃ later, phase = .settled row later) ∨ phase = .invoked row) := by
  cases phase with
  | fresh => simp [Phase.events] at h
  | inserted row => rcases before with _ | ⟨first, rest⟩ <;> simp [Phase.events] at h
  | invoked row =>
      rcases before with _ | ⟨first, _ | ⟨second, rest⟩⟩ <;> simp [Phase.events] at h
      obtain ⟨rfl, rfl, rfl⟩ := h
      exact ⟨rfl, row, rfl, .inr rfl⟩
  | settled row later =>
      rcases before with _ | ⟨first, _ | ⟨second, _ | ⟨third, rest⟩⟩⟩ <;>
        simp [Phase.events] at h
      obtain ⟨rfl, rfl, rfl⟩ := h
      exact ⟨rfl, row, rfl, .inl ⟨later, rfl⟩⟩

theorem Agrees.inserted_before (h : Agrees calls system phase) {before after : List (ι × Event)}
    {i : ι} {key : RequestKey} (hjournal : system.journal = before ++ (i, .invoked key) :: after) :
    ∃ row, (i, .inserted row) ∈ before ∧ row.key = key ∧ row.state = .reserved := by
  have hown := h.own i
  have hstored := h.stored i
  rw [System.own, hjournal, List.filter_append, List.filter_cons_of_pos (by simp),
    List.map_append, List.map_cons] at hown
  obtain ⟨rfl, row, hbefore, hphase⟩ := events_invoked hown
  have hmem : Event.inserted row ∈ (before.filter fun entry => entry.1 = i).map Prod.snd := by
    rw [hbefore]
    exact List.mem_singleton_self _
  refine ⟨row, by simpa using hmem, ?_⟩
  rcases hphase with ⟨later, hphase⟩ | hphase
  · rw [hphase] at hstored
    exact ⟨hstored.1, hstored.2.1⟩
  · rw [hphase] at hstored
    exact ⟨hstored.1, hstored.2.1⟩

theorem Agrees.inserted_kept (h : Agrees calls system phase) {i : ι} {row : CostLedgerRow}
    (hmem : (i, .inserted row) ∈ system.journal) : ∃ later ∈ system.rows, Kept row later := by
  have hstored := h.stored i
  rw [← mem_own, h.own i] at hmem
  cases hphase : phase i with
  | fresh =>
      rw [hphase] at hmem
      cases hmem
  | inserted first =>
      rw [hphase] at hmem hstored
      obtain rfl : row = first := by simpa [Phase.events] using hmem
      exact ⟨row, Rows.lookup_mem hstored.2.2, Kept.refl row⟩
  | invoked first =>
      rw [hphase] at hmem hstored
      obtain rfl : row = first := by simpa [Phase.events] using hmem
      exact ⟨row, Rows.lookup_mem hstored.2.2, Kept.refl row⟩
  | settled first settledRow =>
      rw [hphase] at hmem hstored
      obtain rfl : row = first := by simpa [Phase.events] using hmem
      obtain ⟨-, hreserved, hread, settlement, rfl⟩ := hstored
      exact ⟨_, Rows.lookup_mem hread, rfl, rfl, rfl, fun hstate => absurd hreserved hstate⟩

/-- The failures of the provider: it raised, or did not say what it used. -/
def SendError.providerFailed : SendError → Prop
  | .provider => True
  | .missingProviderUsage _ => True
  | _ => False

theorem Agrees.failed (h : Agrees calls system phase) {i : ι} {error : SendError}
    (hended : system.progress i = .ended (.error error)) (hfailed : error.providerFailed) :
    ∃ row, phase i = .invoked row := by
  have hstands := h.stands i
  rw [hended] at hstands
  cases error with
  | provider => exact hstands
  | missingProviderUsage message => exact hstands
  | missingCredential message => exact hfailed.elim
  | inputTooLarge estimatedTokens => exact hfailed.elim
  | ledger error => exact hfailed.elim
  | ambiguousReservationNotResent row => exact hfailed.elim
  | unreadable message => exact hfailed.elim

/-- The row of a call that the provider failed stays reserved, whatever comes later. -/
theorem Agrees.failed_reserved (h : Agrees calls system phase) {i : ι} {error : SendError}
    (hended : system.progress i = .ended (.error error)) (hfailed : error.providerFailed) :
    ∃ row, (i, .inserted row) ∈ system.journal ∧ row.key = (calls i).key ∧
      row.state = .reserved ∧ ∀ later, readRow (system.run calls later).rows row.key = some row := by
  obtain ⟨row, hphase⟩ := h.failed hended hfailed
  have hstored := h.stored i
  rw [hphase] at hstored
  refine ⟨row, ?_, hstored.1, hstored.2.1, ?_⟩
  · rw [← mem_own, h.own i, hphase]
    simp [Phase.events]
  · intro later
    obtain ⟨⟨next, hnext, hstays⟩, -⟩ := h.run later
    have hlater := hnext.stored i
    rw [(hstays i _ hended).2, hphase] at hlater
    rw [hstored.1]
    exact hlater.2.2

/-- The row of a call that returned is settled, its reservation as it was, whatever comes
later. -/
theorem Agrees.returned_settled (h : Agrees calls system phase) {i : ι} {message : AIMessage}
    (hended : system.progress i = .ended (.ok message)) :
    ∃ row settledRow settlement, (i, .inserted row) ∈ system.journal ∧
      row.key = (calls i).key ∧ settledRow.state = .settled settlement ∧
      settledRow.reservedUsd = row.reservedUsd ∧ settledRow.reservedAt = row.reservedAt ∧
      ∀ later, readRow (system.run calls later).rows row.key = some settledRow := by
  have hstands := h.stands i
  rw [hended] at hstands
  obtain ⟨row, settledRow, hphase⟩ := hstands
  have hstored := h.stored i
  rw [hphase] at hstored
  obtain ⟨hkey, -, -, settlement, rfl⟩ := hstored
  refine ⟨row, row.settle settlement, settlement, ?_, hkey, rfl, rfl, rfl, ?_⟩
  · rw [← mem_own, h.own i, hphase]
    simp [Phase.events]
  · intro later
    obtain ⟨⟨next, hnext, hstays⟩, -⟩ := h.run later
    have hlater := hnext.stored i
    rw [(hstays i _ hended).2, hphase] at hlater
    rw [hkey]
    exact hlater.2.2.1

/-- Whatever calls share a ledger, in every run of them, crashes included: the provider is
invoked at most once for each key, and only by a call that inserted the key's reserved row
before; an inserted row is not lost; the row of a call that the provider failed stays reserved
for ever; that of a call that returned is settled, its reservation unchanged; and no row is
ever deleted, and a settled one neither changed nor settled again. -/
theorem sent_at_most_once (calls : ι → SendCall) (rows : List CostLedgerRow)
    (hkeyed : Rows.Keyed CostLedgerRow.key rows) (acts : List (Act ι)) :
    let system := (System.initial rows).run calls acts
    (∀ key, system.times (.invoked key) ≤ 1) ∧
      (∀ before i key after, system.journal = before ++ (i, .invoked key) :: after →
        ∃ row, (i, .inserted row) ∈ before ∧ row.key = key ∧ row.state = .reserved) ∧
      (∀ i row, (i, .inserted row) ∈ system.journal → ∃ later ∈ system.rows, Kept row later) ∧
      (∀ i error, system.progress i = .ended (.error error) → error.providerFailed →
        ∃ row, (i, .inserted row) ∈ system.journal ∧ row.key = (calls i).key ∧
          row.state = .reserved ∧
          ∀ later, readRow (system.run calls later).rows row.key = some row) ∧
      (∀ i message, system.progress i = .ended (.ok message) →
        ∃ row settledRow settlement, (i, .inserted row) ∈ system.journal ∧
          row.key = (calls i).key ∧ settledRow.state = .settled settlement ∧
          settledRow.reservedUsd = row.reservedUsd ∧ settledRow.reservedAt = row.reservedAt ∧
          ∀ later, readRow (system.run calls later).rows row.key = some settledRow) ∧
      (∀ later, ∀ row ∈ system.rows, ∃ kept ∈ (system.run calls later).rows, Kept row kept) ∧
      ∀ key, system.times (.settled key) ≤ 1 := by
  obtain ⟨⟨phase, h, -⟩, -⟩ := (agrees_initial calls hkeyed).run acts
  refine ⟨h.invoked_once, ?_, ?_, ?_, ?_, ?_, h.settled_once⟩
  · exact fun before i key after hjournal => h.inserted_before hjournal
  · exact fun i row hmem => h.inserted_kept hmem
  · exact fun i error hended hfailed => h.failed_reserved hended hfailed
  · exact fun i message hended => h.returned_settled hended
  · exact fun later => (h.run later).2

/-- A final assessment, asked for by two processes that share a ledger. -/
def assessmentCall : SendCall where
  model := ⟨claudeSonnet5Pricing, some 5, true⟩
  request := ⟨.finalAssessment, "system", "context", none, "run", .finalAssessment, 1, "digest"⟩
  tools := "[]"

def answered : Surroundings where
  now := 0
  storeFails := false
  reply := some ⟨.null, [], [], some ⟨12, 34⟩⟩

/-- The two calls take turns until one has its answer. -/
def takingTurns : List (Act Bool) :=
  [.start false, .start true, .advance false answered, .advance true answered,
    .advance false answered, .advance true answered, .advance false answered,
    .advance false answered, .crash true, .advance false answered, .advance false answered,
    .advance false answered]

theorem sent_at_most_once_taking_turns :
    ((System.initial []).run (fun _ => assessmentCall) takingTurns).times
      (.invoked assessmentCall.key) = 1 :=
  Nat.le_antisymm
    ((sent_at_most_once (fun _ => assessmentCall) [] (Rows.keyed_nil _) takingTurns).1 _)
    (by decide +kernel)

end Journal

end CausalOps.Cost
