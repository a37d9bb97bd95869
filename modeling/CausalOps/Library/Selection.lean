import Mathlib.Data.List.MinMax
import Mathlib.Data.List.Pairwise
import Mathlib.Data.List.Perm.Basic

set_option autoImplicit false

/-! The first element of a list under a sort key, as `ORDER BY … LIMIT 1` and
the head of a stably sorted list select it, what sorting under a key keeps, what a pass over a
list picks from its elements, and the longest end of a list with a property. -/

namespace Selection

variable {α β γ : Type} [LinearOrder γ]

theorem argmin_map (view : α → β) (f : β → γ) (l : List α) :
    (l.map view).argmin f = (l.argmin fun a => f (view a)).map view := by
  induction l using List.reverseRecOn with
  | nil => rfl
  | append_singleton l a ih =>
      rw [List.map_append, List.map_singleton, List.argmin_concat, List.argmin_concat, ih]
      cases l.argmin fun a => f (view a) with
      | none => rfl
      | some c =>
          simp only [Option.map_some]
          by_cases h : f (view a) < f (view c) <;> simp [h]

/-- Two keys that order the elements of a list alike select the same element. -/
theorem argmin_congr {δ : Type} [LinearOrder δ] {f : α → γ} {g : α → δ} {l : List α}
    (h : ∀ a ∈ l, ∀ b ∈ l, f a < f b ↔ g a < g b) : l.argmin f = l.argmin g := by
  induction l using List.reverseRecOn with
  | nil => rfl
  | append_singleton l a ih =>
      have hheads : ∀ a ∈ l, ∀ b ∈ l, f a < f b ↔ g a < g b := fun x hx y hy =>
        h x (List.mem_append_left _ hx) y (List.mem_append_left _ hy)
      rw [List.argmin_concat, List.argmin_concat, ih hheads]
      cases hmin : l.argmin g with
      | none => rfl
      | some c =>
          have hc : c ∈ l := List.argmin_mem hmin
          have hlt := h a (by simp) c (List.mem_append_left _ hc)
          by_cases hac : f a < f c
          · simp [hac, hlt.1 hac]
          · have hnot : ¬ g a < g c := fun hg => hac (hlt.2 hg)
            simp [hac, hnot]

/-- When the key separates the elements, being selected is being the minimum. -/
theorem argmin_eq_some_iff {f : α → γ} {l : List α}
    (hinj : ∀ a ∈ l, ∀ b ∈ l, f a = f b → a = b) {m : α} :
    l.argmin f = some m ↔ m ∈ l ∧ ∀ a ∈ l, f m ≤ f a := by
  constructor
  · intro h
    exact ⟨List.argmin_mem h, fun a ha => List.le_of_mem_argmin ha h⟩
  · rintro ⟨hm, hle⟩
    cases h : l.argmin f with
    | none =>
        rw [List.argmin_eq_none] at h
        simp [h] at hm
    | some c =>
        have hc : c ∈ l := List.argmin_mem h
        have heq : f c = f m := le_antisymm (List.le_of_mem_argmin hm h) (hle c hc)
        rw [hinj c hc m hm heq]

/-- Under a separating key the order in which the elements arrive is irrelevant. -/
theorem argmin_perm {f : α → γ} {l l' : List α} (hperm : l'.Perm l)
    (hinj : ∀ a ∈ l, ∀ b ∈ l, f a = f b → a = b) : l'.argmin f = l.argmin f := by
  have hinj' : ∀ a ∈ l', ∀ b ∈ l', f a = f b → a = b := fun a ha b hb =>
    hinj a (hperm.mem_iff.1 ha) b (hperm.mem_iff.1 hb)
  cases h : l.argmin f with
  | none =>
      rw [List.argmin_eq_none] at h ⊢
      simpa [h] using hperm
  | some m =>
      rw [argmin_eq_some_iff hinj] at h
      rw [argmin_eq_some_iff hinj']
      exact ⟨hperm.mem_iff.2 h.1, fun a ha => h.2 a (hperm.mem_iff.1 ha)⟩

theorem find?_perm {p : α → Bool} {l l' : List α} (hperm : l'.Perm l)
    (hsame : ∀ a ∈ l, ∀ b ∈ l, p a = true → p b = true → a = b) :
    l'.find? p = l.find? p := by
  cases h : l.find? p with
  | none =>
      rw [List.find?_eq_none] at h ⊢
      exact fun a ha => h a (hperm.mem_iff.1 ha)
  | some m =>
      have hm : m ∈ l := List.mem_of_find?_eq_some h
      have hpm : p m = true := List.find?_some h
      cases h' : l'.find? p with
      | none => exact absurd hpm (List.find?_eq_none.1 h' m (hperm.mem_iff.2 hm))
      | some m' =>
          have hm' : m' ∈ l := hperm.mem_iff.1 (List.mem_of_find?_eq_some h')
          rw [hsame m' hm' m hm (List.find?_some h') hpm]

theorem exists_map_of_perm {f : α → β} {l : List α} {l' : List β} (hperm : l'.Perm (l.map f)) :
    ∃ before : List α, before.Perm l ∧ l' = before.map f := by
  generalize himage : l.map f = image at hperm
  induction hperm generalizing l with
  | nil =>
      obtain rfl := List.map_eq_nil_iff.1 himage
      exact ⟨[], .nil, rfl⟩
  | @cons b rest rest' _ ih =>
      obtain ⟨a, tail, rfl, rfl, htail⟩ := List.map_eq_cons_iff.1 himage
      obtain ⟨before, hbefore, rfl⟩ := ih htail
      exact ⟨a :: before, hbefore.cons a, rfl⟩
  | swap b c rest =>
      obtain ⟨a, tail, rfl, rfl, htail⟩ := List.map_eq_cons_iff.1 himage
      obtain ⟨a', tail', rfl, rfl, rfl⟩ := List.map_eq_cons_iff.1 htail
      exact ⟨a' :: a :: tail', List.Perm.swap a a' tail', rfl⟩
  | trans _ _ ih₁ ih₂ =>
      obtain ⟨between, hbetween, rfl⟩ := ih₂ himage
      obtain ⟨before, hbefore, rfl⟩ := ih₁ rfl
      exact ⟨before, hbefore.trans hbetween, rfl⟩

section Sorting

/-- Sorting under a key puts the keys in order and moves no two elements with the same key past
each other. -/
structure StablySorted (key : α → γ) (all sorted : List α) : Prop where
  perm : sorted.Perm all
  ordered : sorted.Pairwise fun a b => key a ≤ key b
  stable : ∀ k, sorted.filter (fun a => key a = k) = all.filter fun a => key a = k

theorem mergeSort_stablySorted (key : α → γ) (all : List α) :
    StablySorted key all (all.mergeSort fun a b => decide (key a ≤ key b)) := by
  have htrans : ∀ a b c : α, decide (key a ≤ key b) = true → decide (key b ≤ key c) = true →
      decide (key a ≤ key c) = true := by
    intro a b c hab hbc
    exact decide_eq_true (le_trans (of_decide_eq_true hab) (of_decide_eq_true hbc))
  have htotal : ∀ a b : α, (decide (key a ≤ key b) || decide (key b ≤ key a)) = true := by
    intro a b
    simpa using le_total (key a) (key b)
  have hperm := List.mergeSort_perm all fun a b => decide (key a ≤ key b)
  refine ⟨hperm, ?_, ?_⟩
  · exact (List.pairwise_mergeSort htrans htotal all).imp of_decide_eq_true
  · intro k
    have hequal : (all.filter fun a => key a = k).Pairwise fun a b =>
        decide (key a ≤ key b) = true := by
      refine List.pairwise_of_forall_mem_list fun a ha b hb => decide_eq_true ?_
      have hka := of_decide_eq_true (List.mem_filter.1 ha).2
      have hkb := of_decide_eq_true (List.mem_filter.1 hb).2
      exact le_of_eq (hka.trans hkb.symm)
    have hsub := (List.sublist_mergeSort htrans htotal hequal List.filter_sublist).filter
      fun a => key a = k
    simp only [List.filter_filter, Bool.and_self] at hsub
    exact (hsub.eq_of_length (hperm.filter _).length_eq.symm).symm

/-- A stably sorted list is determined by the order of its keys and of equal keys. -/
theorem eq_of_stablySorted {key : α → γ} {before after : List α} (hperm : before.Perm after)
    (hbefore : before.Pairwise fun a b => key a ≤ key b)
    (hafter : after.Pairwise fun a b => key a ≤ key b)
    (hstable : ∀ k, (before.filter fun a => key a = k) = after.filter fun a => key a = k) :
    before = after := by
  induction before generalizing after with
  | nil => exact (List.nil_perm.1 hperm).symm
  | cons a before ih =>
      cases after with
      | nil => exact absurd hperm.length_eq (by simp)
      | cons b after =>
          obtain ⟨hfirst, hbefore⟩ := List.pairwise_cons.1 hbefore
          obtain ⟨hfirst', hrest⟩ := List.pairwise_cons.1 hafter
          have hle : key a ≤ key b := by
            rcases List.mem_cons.1 (hperm.mem_iff.2 List.mem_cons_self) with rfl | hmem
            · exact le_rfl
            · exact hfirst b hmem
          have hge : key b ≤ key a := by
            rcases List.mem_cons.1 (hperm.mem_iff.1 List.mem_cons_self) with rfl | hmem
            · exact le_rfl
            · exact hfirst' a hmem
          have hheads := hstable (key a)
          have hsame : key b = key a := le_antisymm hge hle
          simp only [List.filter_cons, hsame, decide_true, if_true] at hheads
          obtain ⟨rfl, -⟩ := List.cons.inj hheads
          rw [ih (List.Perm.cons_inv hperm) hbefore hrest fun k => ?_]
          have hk := hstable k
          simp only [List.filter_cons] at hk
          split at hk
          · exact (List.cons.inj hk).2
          · exact hk

theorem StablySorted.unique {key : α → γ} {all before after : List α}
    (hbefore : StablySorted key all before) (hafter : StablySorted key all after) :
    before = after :=
  eq_of_stablySorted (hbefore.perm.trans hafter.perm.symm) hbefore.ordered hafter.ordered
    fun k => (hbefore.stable k).trans (hafter.stable k).symm

theorem StablySorted.congr {key other : α → γ} {all sorted : List α}
    (h : StablySorted key all sorted) (hkeys : ∀ a ∈ all, key a = other a) :
    StablySorted other all sorted := by
  have hfilter : ∀ {l : List α}, (∀ a ∈ l, a ∈ all) → ∀ k,
      (l.filter fun a => other a = k) = l.filter fun a => key a = k := by
    intro l hl k
    exact List.filter_congr fun a ha => by rw [hkeys a (hl a ha)]
  have hsorted : ∀ a ∈ sorted, a ∈ all := fun a ha => h.perm.mem_iff.1 ha
  refine ⟨h.perm, ?_, fun k => ?_⟩
  · refine h.ordered.imp_of_mem fun {a b} ha hb hle => ?_
    rwa [← hkeys a (hsorted a ha), ← hkeys b (hsorted b hb)]
  · rw [hfilter hsorted, hfilter fun a ha => ha]
    exact h.stable k

end Sorting

section Picking

/-- What a pass over a list picks: nothing for an element that nothing is picked for, and one
thing, in order, for any other. -/
inductive Selects (picks : α → β → Prop) : List α → List β → Prop
  | nil : Selects picks [] []
  | skip {a : α} {rest : List α} {selected : List β} (h : ∀ b, ¬ picks a b)
      (hrest : Selects picks rest selected) : Selects picks (a :: rest) selected
  | take {a : α} {b : β} {rest : List α} {selected : List β} (h : picks a b)
      (hrest : Selects picks rest selected) : Selects picks (a :: rest) (b :: selected)

variable {picks : α → β → Prop}

theorem exists_selects (picks : α → β → Prop) (all : List α) :
    ∃ selected, Selects picks all selected := by
  induction all with
  | nil => exact ⟨[], .nil⟩
  | cons a rest ih =>
      obtain ⟨selected, hrest⟩ := ih
      by_cases hpick : ∃ b, picks a b
      · obtain ⟨b, hb⟩ := hpick
        exact ⟨b :: selected, .take hb hrest⟩
      · exact ⟨selected, .skip (fun b hb => hpick ⟨b, hb⟩) hrest⟩

theorem Selects.unique (hpicks : ∀ a b c, picks a b → picks a c → b = c) {all : List α}
    {selected other : List β} (h : Selects picks all selected) (hother : Selects picks all other) :
    selected = other := by
  induction h generalizing other with
  | nil => cases hother; rfl
  | skip hnone _ ih =>
      cases hother with
      | skip _ hrest => exact ih hrest
      | take hpick _ => exact absurd hpick (hnone _)
  | take hpick _ ih =>
      cases hother with
      | skip hnone _ => exact absurd hpick (hnone _)
      | take hpick' hrest => rw [hpicks _ _ _ hpick hpick', ih hrest]

/-- Picking by a function is `filterMap`. -/
theorem selects_filterMap {f : α → Option β} {all : List α}
    (hf : ∀ a ∈ all, ∀ b, picks a b ↔ f a = some b) : Selects picks all (all.filterMap f) := by
  induction all with
  | nil => exact .nil
  | cons a rest ih =>
      obtain ⟨hfirst, hrest⟩ := List.forall_mem_cons.1 hf
      rw [List.filterMap_cons]
      cases ha : f a with
      | none => exact .skip (fun b hb => by simp [(hfirst b).1 hb] at ha) (ih hrest)
      | some b => exact .take ((hfirst b).2 ha) (ih hrest)

theorem selects_iff_filterMap {f : α → Option β} {all : List α} {selected : List β}
    (hf : ∀ a b, picks a b ↔ f a = some b) :
    Selects picks all selected ↔ selected = all.filterMap f := by
  have hall : Selects picks all (all.filterMap f) := selects_filterMap fun a _ b => hf a b
  refine ⟨fun h => h.unique (fun a b c hb hc => ?_) hall, fun h => h ▸ hall⟩
  exact Option.some.inj (((hf a b).1 hb).symm.trans ((hf a c).1 hc))

/-- Picking the elements of a kind, each for itself, is `filter`. -/
theorem selects_iff_filter {p : α → Prop} {test : α → Bool} (htest : ∀ a, test a = true ↔ p a)
    {all selected : List α} :
    Selects (fun a b => b = a ∧ p a) all selected ↔ selected = all.filter test := by
  rw [← List.filterMap_eq_filter]
  refine selects_iff_filterMap fun a b => ?_
  rw [Option.guard_eq_some_iff, ← htest a, eq_comm]

end Picking

section Ends

/-- The longest end of a list with a property, or the empty one when no end has it. -/
structure LongestSuffix (p : List α → Prop) (all kept : List α) : Prop where
  suffix : kept <:+ all
  holds : p kept ∨ kept = []
  longest : ∀ other, other <:+ all → kept.length < other.length → ¬ p other

theorem exists_longestSuffix (p : List α → Prop) (all : List α) :
    ∃ kept, LongestSuffix p all kept := by
  induction all with
  | nil =>
      refine ⟨[], List.suffix_refl _, Or.inr rfl, fun other hother hlonger => ?_⟩
      have hlength := hother.length_le
      omega
  | cons a rest ih =>
      by_cases hall : p (a :: rest)
      · refine ⟨a :: rest, List.suffix_refl _, Or.inl hall, fun other hother hlonger => ?_⟩
        have hlength := hother.length_le
        omega
      · obtain ⟨kept, h⟩ := ih
        refine ⟨kept, h.suffix.trans (List.suffix_cons a rest), h.holds, ?_⟩
        intro other hother hlonger
        rcases List.suffix_cons_iff.1 hother with rfl | hother
        · exact hall
        · exact h.longest other hother hlonger

theorem LongestSuffix.length_le {p : List α → Prop} {all kept other : List α}
    (h : LongestSuffix p all kept) (hother : LongestSuffix p all other) :
    other.length ≤ kept.length := by
  by_contra hlonger
  rcases hother.holds with hp | rfl
  · exact h.longest other hother.suffix (not_le.1 hlonger) hp
  · exact hlonger (Nat.zero_le _)

theorem LongestSuffix.unique {p : List α → Prop} {all kept other : List α}
    (h : LongestSuffix p all kept) (hother : LongestSuffix p all other) : kept = other :=
  (List.suffix_of_suffix_length_le h.suffix hother.suffix (hother.length_le h)).eq_of_length_le
    (h.length_le hother)

theorem LongestSuffix.congr {p q : List α → Prop} {all kept : List α}
    (h : LongestSuffix p all kept) (hpq : ∀ other, other <:+ all → (p other ↔ q other)) :
    LongestSuffix q all kept :=
  ⟨h.suffix, h.holds.imp_left (hpq kept h.suffix).1,
    fun other hother hlonger hq => h.longest other hother hlonger ((hpq other hother).2 hq)⟩

end Ends

end Selection
