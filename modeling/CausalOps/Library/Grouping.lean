import Mathlib.Data.List.Induction
import Mathlib.Data.List.Perm.Basic

set_option autoImplicit false

/-! Rows collected into groups by a key, as a dictionary of lists collects them. -/

namespace Grouping

variable {κ ρ : Type} [DecidableEq κ]

/-- `groups.setdefault(key, []).append(row)`. -/
def add (key : ρ → κ) (groups : List (κ × List ρ)) (row : ρ) : List (κ × List ρ) :=
  if key row ∈ groups.map Prod.fst then
    groups.map fun group => if group.1 = key row then (group.1, group.2 ++ [row]) else group
  else groups ++ [(key row, [row])]

def group (key : ρ → κ) (rows : List ρ) : List (κ × List ρ) :=
  rows.foldl (add key) []

/-- The groups hold the rows: one group for each key that occurs, with all of its rows. -/
structure Groups (key : ρ → κ) (rows : List ρ) (groups : List (κ × List ρ)) : Prop where
  keys : (groups.map Prod.fst).Nodup
  members : ∀ group ∈ groups, group.2 = rows.filter fun row => key row = group.1
  present : ∀ k, k ∈ groups.map Prod.fst ↔ ∃ row ∈ rows, key row = k

section Groups

variable {key : ρ → κ} {rows : List ρ} {groups : List (κ × List ρ)}

theorem groups_nil : Groups key [] [] :=
  ⟨List.nodup_nil, by simp, by simp⟩

theorem add_keys (groups : List (κ × List ρ)) (row : ρ) :
    (add key groups row).map Prod.fst =
      if key row ∈ groups.map Prod.fst then groups.map Prod.fst
      else groups.map Prod.fst ++ [key row] := by
  unfold add
  split
  · rw [List.map_map]
    refine List.map_congr_left fun group _ => ?_
    simp only [Function.comp_apply]
    split <;> rfl
  · simp

theorem Groups.add (h : Groups key rows groups) (row : ρ) :
    Groups key (rows ++ [row]) (add key groups row) := by
  refine ⟨?_, ?_, ?_⟩
  · rw [add_keys]
    split
    · exact h.keys
    · rename_i habsent
      exact List.nodup_append.2 ⟨h.keys, by simp, fun k hk k' hk' => by
        rw [List.mem_singleton.1 hk']
        exact fun hsame => habsent (hsame ▸ hk)⟩
  · intro group hgroup
    unfold Grouping.add at hgroup
    split at hgroup
    · obtain ⟨old, hold, rfl⟩ := List.mem_map.1 hgroup
      by_cases hkey : old.1 = key row
      · simp [hkey.symm, h.members old hold, List.filter_append]
      · have hother : ¬ key row = old.1 := fun hsame => hkey hsame.symm
        simp [hkey, hother, h.members old hold, List.filter_append]
    · rename_i habsent
      rcases List.mem_append.1 hgroup with hold | hnew
      · have hother : ¬ key row = group.1 := fun hsame =>
          habsent (hsame ▸ List.mem_map_of_mem hold)
        simp [hother, h.members group hold, List.filter_append]
      · rw [List.mem_singleton.1 hnew]
        have hnone : rows.filter (fun other => key other = key row) = [] :=
          List.filter_eq_nil_iff.2 fun other hother hsame =>
            habsent ((h.present _).2 ⟨other, hother, of_decide_eq_true hsame⟩)
        simp [List.filter_append, hnone]
  · intro k
    have hk := h.present k
    have hrow := h.present (key row)
    rw [add_keys]
    split
    · rename_i hpresent
      rw [hk]
      refine ⟨fun ⟨other, hother, hsame⟩ => ⟨other, by simp [hother], hsame⟩, ?_⟩
      rintro ⟨other, hother, rfl⟩
      rcases List.mem_append.1 hother with hold | hnew
      · exact ⟨other, hold, rfl⟩
      · rw [List.mem_singleton.1 hnew]
        exact hrow.1 hpresent
    · rw [List.mem_append, hk, List.mem_singleton]
      constructor
      · rintro (⟨other, hother, rfl⟩ | rfl)
        · exact ⟨other, List.mem_append_left _ hother, rfl⟩
        · exact ⟨row, List.mem_append_right _ List.mem_cons_self, rfl⟩
      · rintro ⟨other, hother, rfl⟩
        rcases List.mem_append.1 hother with hold | hnew
        · exact .inl ⟨other, hold, rfl⟩
        · exact .inr (congrArg key (List.mem_singleton.1 hnew))

theorem group_groups (key : ρ → κ) (rows : List ρ) : Groups key rows (group key rows) := by
  induction rows using List.reverseRecOn with
  | nil => exact groups_nil
  | append_singleton rows row ih =>
      rw [group, List.foldl_append]
      exact ih.add row

theorem flatMap_filter_perm (key : ρ → κ) (rows : List ρ) {keys : List κ} (h : keys.Nodup) :
    (keys.flatMap fun k => rows.filter fun row => key row = k).Perm
      (rows.filter fun row => key row ∈ keys) := by
  induction keys with
  | nil => simp
  | cons k rest ih =>
      obtain ⟨habsent, hrest⟩ := List.nodup_cons.1 h
      have hsplit := List.filter_append_perm (fun row => decide (key row = k))
        (rows.filter fun row => key row ∈ k :: rest)
      have hfirst : (rows.filter fun row => key row ∈ k :: rest).filter
          (fun row => key row = k) = rows.filter fun row => key row = k := by
        rw [List.filter_filter]
        refine List.filter_congr fun row _ => ?_
        by_cases hrow : key row = k <;> simp [hrow]
      have hlater : (rows.filter fun row => key row ∈ k :: rest).filter
          (fun row => !decide (key row = k)) = rows.filter fun row => key row ∈ rest := by
        rw [List.filter_filter]
        refine List.filter_congr fun row _ => ?_
        by_cases hrow : key row = k
        · simp [hrow, habsent]
        · simp [hrow]
      rw [hfirst, hlater] at hsplit
      rw [List.flatMap_cons]
      exact ((ih hrest).append_left _).trans hsplit

theorem Groups.lossless (h : Groups key rows groups) :
    ((groups.map Prod.fst).flatMap fun k => rows.filter fun row => key row = k).Perm rows := by
  have hall : (rows.filter fun row => key row ∈ groups.map Prod.fst) = rows :=
    List.filter_eq_self.2 fun row hrow => by
      exact decide_eq_true ((h.present _).2 ⟨row, hrow, rfl⟩)
  have hperm := flatMap_filter_perm key rows h.keys
  rwa [hall] at hperm

end Groups

end Grouping
