import Mathlib.Algebra.BigOperators.Group.List.Basic
import Mathlib.Data.List.Nodup
import Mathlib.Data.List.Perm.Basic
import Mathlib.Tactic.Abel

set_option autoImplicit false

/-! Tables as lists of rows. A key column identifies a row; the operations are
the point read, the point update, the guarded update and the upsert of a store
that keeps rows in the order in which they were first written. -/

namespace Rows

variable {ρ κ : Type}

def Keyed (key : ρ → κ) (rows : List ρ) : Prop :=
  (rows.map key).Nodup

instance [DecidableEq κ] (key : ρ → κ) (rows : List ρ) : Decidable (Keyed key rows) :=
  inferInstanceAs (Decidable (rows.map key).Nodup)

theorem Keyed.eq_of_key_eq {key : ρ → κ} {rows : List ρ} (hkeyed : Keyed key rows)
    {a b : ρ} (ha : a ∈ rows) (hb : b ∈ rows) (hkey : key a = key b) : a = b :=
  List.inj_on_of_nodup_map hkeyed ha hb hkey

theorem Keyed.perm {key : ρ → κ} {rows other : List ρ} (hkeyed : Keyed key rows)
    (hperm : other.Perm rows) : Keyed key other :=
  (hperm.map key).nodup_iff.2 hkeyed

theorem Keyed.of_sublist {key : ρ → κ} {rows other : List ρ} (hkeyed : Keyed key rows)
    (hsub : other.Sublist rows) : Keyed key other :=
  List.Nodup.sublist (hsub.map key) hkeyed

theorem Keyed.append {key : ρ → κ} {rows : List ρ} {row : ρ} (hkeyed : Keyed key rows)
    (hfresh : ∀ old ∈ rows, key old ≠ key row) : Keyed key (rows ++ [row]) := by
  simp only [Keyed, List.map_append, List.map_cons, List.map_nil]
  refine List.nodup_append.2 ⟨hkeyed, by simp, ?_⟩
  intro k hk other hother
  obtain ⟨old, hold, rfl⟩ := List.mem_map.1 hk
  obtain rfl := List.mem_singleton.1 hother
  exact hfresh old hold

@[simp] theorem keyed_nil (key : ρ → κ) : Keyed key ([] : List ρ) := by
  simp [Keyed]

theorem Keyed.map {τ : Type} {key : ρ → κ} {other : τ → κ} {view : ρ → τ}
    {rows : List ρ} (hkeyed : Keyed key rows) (hview : ∀ row, other (view row) = key row) :
    Keyed other (rows.map view) := by
  have hcomp : other ∘ view = key := funext hview
  simpa [Keyed, hcomp] using hkeyed

variable [DecidableEq κ]

def lookup (key : ρ → κ) (k : κ) (rows : List ρ) : Option ρ :=
  rows.find? fun row => key row = k

def modify (key : ρ → κ) (k : κ) (change : ρ → ρ) (rows : List ρ) : List ρ :=
  rows.map fun row => if key row = k then change row else row

def update (condition : ρ → Bool) (change : ρ → ρ) (rows : List ρ) : List ρ :=
  rows.map fun row => if condition row then change row else row

/-- Store a row under its own key, in place when the key is already there. -/
def put (key : ρ → κ) (row : ρ) (rows : List ρ) : List ρ :=
  if rows.any fun old => key old = key row then
    modify key (key row) (fun _ => row) rows
  else rows ++ [row]

theorem lookup_key {key : ρ → κ} {k : κ} {rows : List ρ} {row : ρ}
    (h : lookup key k rows = some row) : key row = k := by
  simpa using List.find?_some h

theorem lookup_mem {key : ρ → κ} {k : κ} {rows : List ρ} {row : ρ}
    (h : lookup key k rows = some row) : row ∈ rows :=
  List.mem_of_find?_eq_some h

theorem lookup_eq_none {key : ρ → κ} {k : κ} {rows : List ρ} :
    lookup key k rows = none ↔ ∀ row ∈ rows, key row ≠ k := by
  simp [lookup]

theorem Keyed.lookup_of_mem {key : ρ → κ} {rows : List ρ} (hkeyed : Keyed key rows)
    {row : ρ} (hmem : row ∈ rows) : lookup key (key row) rows = some row := by
  cases h : lookup key (key row) rows with
  | none => exact absurd rfl (lookup_eq_none.1 h row hmem)
  | some found =>
      rw [hkeyed.eq_of_key_eq (lookup_mem h) hmem (lookup_key h)]

theorem Keyed.lookup_iff {key : ρ → κ} {rows : List ρ} (hkeyed : Keyed key rows)
    {k : κ} {row : ρ} :
    lookup key k rows = some row ↔ row ∈ rows ∧ key row = k := by
  constructor
  · intro h
    exact ⟨lookup_mem h, lookup_key h⟩
  · rintro ⟨hmem, rfl⟩
    exact hkeyed.lookup_of_mem hmem

theorem lookup_append {key : ρ → κ} {k : κ} {rows : List ρ} {row : ρ} :
    lookup key k (rows ++ [row]) =
      (lookup key k rows).or (if key row = k then some row else none) := by
  by_cases h : key row = k <;> simp [lookup, List.find?_append, h]

section Modify

variable {key : ρ → κ} {k : κ} {change : ρ → ρ} {rows : List ρ}

@[simp] theorem modify_nil : modify key k change [] = [] := rfl

@[simp] theorem modify_length : (modify key k change rows).length = rows.length := by
  simp [modify]

theorem modify_map_key (hkey : ∀ row, key (change row) = key row) :
    (modify key k change rows).map key = rows.map key := by
  simp only [modify, List.map_map]
  refine List.map_congr_left fun row _ => ?_
  by_cases h : key row = k <;> simp [h, hkey]

theorem Keyed.modify (hkeyed : Keyed key rows)
    (hkey : ∀ row, key (change row) = key row) :
    Keyed key (modify key k change rows) := by
  rw [Keyed, modify_map_key hkey]
  exact hkeyed

theorem mem_modify {row : ρ} :
    row ∈ modify key k change rows ↔
      ∃ old ∈ rows, row = if key old = k then change old else old := by
  simp only [Rows.modify, List.mem_map]
  exact exists_congr fun old => and_congr_right fun _ => eq_comm

theorem lookup_modify (hkey : ∀ row, key (change row) = key row) (other : κ) :
    lookup key other (modify key k change rows) =
      (lookup key other rows).map fun row => if key row = k then change row else row := by
  induction rows with
  | nil => rfl
  | cons row rest ih =>
      have hsame : key (if key row = k then change row else row) = key row := by
        by_cases h : key row = k <;> simp [h, hkey]
      simp only [lookup, Rows.modify, List.map_cons, List.find?_cons] at ih ⊢
      rw [hsame]
      by_cases hother : key row = other
      · simp [hother]
      · simpa [hother] using ih

theorem lookup_modify_self (hkey : ∀ row, key (change row) = key row) :
    lookup key k (modify key k change rows) = (lookup key k rows).map change := by
  rw [lookup_modify hkey]
  cases h : lookup key k rows with
  | none => rfl
  | some row => simp [lookup_key h]

theorem lookup_modify_ne (hkey : ∀ row, key (change row) = key row) {other : κ}
    (hne : other ≠ k) :
    lookup key other (modify key k change rows) = lookup key other rows := by
  rw [lookup_modify hkey]
  cases h : lookup key other rows with
  | none => rfl
  | some row => simp [lookup_key h, hne]

theorem modify_of_absent (h : lookup key k rows = none) :
    modify key k change rows = rows := by
  have habsent := lookup_eq_none.1 h
  simp only [modify]
  calc rows.map (fun row => if key row = k then change row else row)
      = rows.map id := List.map_congr_left fun row hrow => by simp [habsent row hrow]
    _ = rows := List.map_id rows

theorem modify_congr (hkeyed : Keyed key rows) {other : ρ → ρ} {row : ρ}
    (hrow : lookup key k rows = some row) (hsame : change row = other row) :
    Rows.modify key k change rows = Rows.modify key k other rows := by
  refine List.map_congr_left fun old hold => ?_
  by_cases h : key old = k
  · obtain rfl := hkeyed.eq_of_key_eq hold (lookup_mem hrow) (h.trans (lookup_key hrow).symm)
    simp [h, hsame]
  · simp [h]

theorem modify_comm {k' : κ} {change' : ρ → ρ} (hne : k ≠ k')
    (hkey : ∀ row, key (change row) = key row) (hkey' : ∀ row, key (change' row) = key row) :
    Rows.modify key k' change' (Rows.modify key k change rows) =
      Rows.modify key k change (Rows.modify key k' change' rows) := by
  simp only [Rows.modify, List.map_map]
  refine List.map_congr_left fun row _ => ?_
  by_cases h : key row = k
  · have hne' : ¬ key row = k' := fun heq => hne (h.symm.trans heq)
    simp [h, hkey, hne]
  · by_cases h' : key row = k'
    · simp [h', hkey', Ne.symm hne]
    · simp [h, h']

end Modify

section Upsert

variable {key : ρ → κ} {rows : List ρ}

theorem put_of_lookup (hkeyed : Keyed key rows) {k : κ} {row : ρ}
    (hrow : lookup key k rows = some row) (change : ρ → ρ) (hkey : key (change row) = k) :
    put key (change row) rows = modify key k change rows := by
  have hpresent : (rows.any fun old => key old = key (change row)) = true := by
    simp only [List.any_eq_true, decide_eq_true_eq]
    exact ⟨row, lookup_mem hrow, (lookup_key hrow).trans hkey.symm⟩
  rw [put, if_pos hpresent, hkey]
  exact modify_congr hkeyed hrow rfl

theorem put_of_absent {row : ρ} (h : lookup key (key row) rows = none) :
    put key row rows = rows ++ [row] := by
  have habsent := lookup_eq_none.1 h
  have hnone : ¬ (rows.any fun old => key old = key row) = true := by
    simp only [List.any_eq_true, decide_eq_true_eq, not_exists, not_and]
    exact habsent
  rw [put, if_neg hnone]

theorem put_of_present {row old : ρ} (h : lookup key (key row) rows = some old) :
    put key row rows =
      modify key (key row) (fun other => if key other = key row then row else other) rows := by
  have hpresent : (rows.any fun old => key old = key row) = true := by
    simp only [List.any_eq_true, decide_eq_true_eq]
    exact ⟨old, lookup_mem h, lookup_key h⟩
  rw [put, if_pos hpresent]
  refine List.map_congr_left fun other _ => ?_
  by_cases hother : key other = key row <;> simp [hother]

theorem key_replace (row other : ρ) :
    key (if key other = key row then row else other) = key other := by
  by_cases h : key other = key row <;> simp [h]

theorem lookup_put (row : ρ) (k : κ) :
    lookup key k (put key row rows) =
      if key row = k then some row else lookup key k rows := by
  cases h : lookup key (key row) rows with
  | none =>
      rw [put_of_absent h, lookup_append]
      by_cases hk : key row = k
      · subst hk
        simp [h]
      · simp [hk]
  | some old =>
      rw [put_of_present h]
      by_cases hk : key row = k
      · subst hk
        rw [lookup_modify_self (key_replace row), h]
        simp [lookup_key h]
      · rw [lookup_modify_ne (key_replace row) fun heq => hk heq.symm]
        simp [hk]

theorem Keyed.put (hkeyed : Keyed key rows) (row : ρ) : Keyed key (put key row rows) := by
  cases h : lookup key (key row) rows with
  | none =>
      rw [put_of_absent h]
      exact hkeyed.append (lookup_eq_none.1 h)
  | some old =>
      rw [put_of_present h]
      exact hkeyed.modify (key_replace row)

end Upsert

/-- A guarded update that names the key touches the found row or nothing. -/
theorem update_key {key : ρ → κ} {rows : List ρ} (hkeyed : Keyed key rows) {k : κ}
    (guard : ρ → Bool) (change : ρ → ρ) :
    update (fun row => decide (key row = k) && guard row) change rows =
      match lookup key k rows with
      | some row => if guard row then modify key k change rows else rows
      | none => rows := by
  cases h : lookup key k rows with
  | none =>
      have habsent := lookup_eq_none.1 h
      simp only [update]
      calc rows.map (fun row => if decide (key row = k) && guard row then change row else row)
          = rows.map id := List.map_congr_left fun row hrow => by simp [habsent row hrow]
        _ = rows := List.map_id rows
  | some row =>
      have honly : ∀ old ∈ rows, key old = k → old = row := fun old hold hk =>
        hkeyed.eq_of_key_eq hold (lookup_mem h) (hk.trans (lookup_key h).symm)
      by_cases hguard : guard row = true
      · simp only [hguard, if_true, update, modify]
        refine List.map_congr_left fun old hold => ?_
        by_cases hk : key old = k
        · simp [honly old hold hk, hguard]
        · simp [hk]
      · simp only [hguard, update]
        calc rows.map (fun row => if decide (key row = k) && guard row then change row else row)
            = rows.map id := List.map_congr_left fun old hold => by
              by_cases hk : key old = k
              · simp [honly old hold hk, hguard]
              · simp [hk]
          _ = rows := List.map_id rows

theorem countP_key {key : ρ → κ} {rows : List ρ} (hkeyed : Keyed key rows) {k : κ}
    (guard : ρ → Bool) :
    rows.countP (fun row => decide (key row = k) && guard row) =
      match lookup key k rows with
      | some row => if guard row then 1 else 0
      | none => 0 := by
  induction rows with
  | nil => rfl
  | cons row rest ih =>
      have hrest : Keyed key rest := hkeyed.of_sublist (List.sublist_cons_self row rest)
      rw [List.countP_cons, ih hrest]
      by_cases hk : key row = k
      · have hnone : lookup key k rest = none := by
          refine lookup_eq_none.2 fun old hold heq => ?_
          have hnodup : (key row :: rest.map key).Nodup := hkeyed
          exact (List.nodup_cons.1 hnodup).1 (List.mem_map.2 ⟨old, hold, heq.trans hk.symm⟩)
        have hself : lookup key k (row :: rest) = some row := by simp [lookup, hk]
        simp [hnone, hself, hk]
      · have hnext : lookup key k (row :: rest) = lookup key k rest := by
          simp [lookup, hk]
        simp [hnext, hk]

/-- Rewriting the row of a key changes a sum over the rows by that row's difference. -/
theorem sum_modify {M : Type} [AddCommGroup M] {key : ρ → κ} {rows : List ρ}
    (hkeyed : Keyed key rows) {row : ρ} (hrow : row ∈ rows) (change : ρ → ρ) (weight : ρ → M) :
    ((modify key (key row) change rows).map weight).sum =
      (rows.map weight).sum + (weight (change row) - weight row) := by
  induction rows with
  | nil => cases hrow
  | cons first rest ih =>
      have hnodup : (key first :: rest.map key).Nodup := hkeyed
      have hrest : Keyed key rest := hkeyed.of_sublist (List.sublist_cons_self first rest)
      rcases List.mem_cons.1 hrow with rfl | hmem
      · have hnone : lookup key (key row) rest = none := by
          refine lookup_eq_none.2 fun old hold heq => ?_
          exact (List.nodup_cons.1 hnodup).1 (List.mem_map.2 ⟨old, hold, heq⟩)
        have hsame : modify key (key row) change rest = rest := modify_of_absent hnone
        simp only [modify, List.map_cons, if_true, List.sum_cons] at hsame ⊢
        rw [hsame]
        abel
      · have hne : key first ≠ key row := fun heq =>
          (List.nodup_cons.1 hnodup).1 (List.mem_map.2 ⟨row, hmem, heq.symm⟩)
        have hsum := ih hrest hmem
        simp only [modify, List.map_cons, if_neg hne, List.sum_cons] at hsum ⊢
        rw [hsum]
        abel

section Project

variable {τ : Type} {key : ρ → κ} {other : τ → κ} {view : ρ → τ} {rows : List ρ}

theorem lookup_map (hview : ∀ row, other (view row) = key row) (k : κ) :
    lookup other k (rows.map view) = (lookup key k rows).map view := by
  induction rows with
  | nil => rfl
  | cons row rest ih =>
      simp only [lookup, List.map_cons, List.find?_cons, hview] at ih ⊢
      by_cases h : key row = k
      · simp [h]
      · simpa [h] using ih

theorem map_modify (hview : ∀ row, other (view row) = key row) {k : κ}
    {change : ρ → ρ} {change' : τ → τ}
    (hchange : ∀ row, key row = k → view (change row) = change' (view row)) :
    (Rows.modify key k change rows).map view =
      Rows.modify other k change' (rows.map view) := by
  simp only [Rows.modify, List.map_map]
  refine List.map_congr_left fun row _ => ?_
  by_cases h : key row = k
  · simp [h, hview, hchange row h]
  · simp [h, hview]

end Project

end Rows
