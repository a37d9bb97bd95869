import Mathlib.Data.List.Sort
import Mathlib.Data.String.Basic
import CausalOps.Library.Rows
import CausalOps.Investigation.Domain

set_option autoImplicit false

/-! The evidence of one incident: how it is kept, put in order, and chosen for the
model's context under a quota for each kind. -/

namespace CausalOps.Investigation

section Quotas

/-- `derive_context_quotas`: only what a check can produce scales with the budget. -/
def deriveContextQuotas (executedTools : ℤ) : EvidenceKind → ℤ
  | .symptom => 2
  | .topology => 2
  | .metric => executedTools + 1
  | .log => executedTools + 1
  | .change => executedTools + 1

/-- The kinds as `sorted` puts their values. -/
def sortedKinds : List EvidenceKind := [.change, .log, .metric, .symptom, .topology]

end Quotas

/-- The records of one incident, stored under their ids. -/
structure EvidenceStore where
  incidentId : String
  records : List Evidence

namespace EvidenceStore

def empty (incidentId : String) : EvidenceStore := ⟨incidentId, []⟩

def add (store : EvidenceStore) (evidence : Evidence) : Except String EvidenceStore :=
  if evidence.incidentId ≠ store.incidentId then
    .error "evidence belongs to another incident"
  else .ok { store with records := Rows.put Evidence.evidenceId evidence store.records }

def unknownIds (store : EvidenceStore) (cited : List String) : List String :=
  cited.filter fun citedId => !store.records.any fun record => record.evidenceId = citedId

/-- The order of `(observed_at, kind, evidence_id)`. -/
def precedes (a b : Evidence) : Prop :=
  a.observedAt < b.observedAt ∨
    (a.observedAt = b.observedAt ∧
      (a.kind.value < b.kind.value ∨
        (a.kind.value = b.kind.value ∧ a.evidenceId ≤ b.evidenceId)))

instance : DecidableRel precedes := fun a b => by
  unfold precedes
  infer_instance

def ordered (store : EvidenceStore) : List Evidence :=
  store.records.insertionSort precedes

/-- What has been chosen so far, and how many of each kind were kept and dropped. -/
structure Selection where
  kept : List Evidence
  used : EvidenceKind → ℕ
  dropped : EvidenceKind → ℕ

def Selection.empty : Selection := ⟨[], fun _ => 0, fun _ => 0⟩

def Selection.consider (quotas : EvidenceKind → ℤ) (chosen : Selection) (record : Evidence) :
    Selection :=
  if (chosen.used record.kind : ℤ) < quotas record.kind then
    { chosen with
      kept := chosen.kept ++ [record]
      used := Function.update chosen.used record.kind (chosen.used record.kind + 1) }
  else
    { chosen with
      dropped := Function.update chosen.dropped record.kind (chosen.dropped record.kind + 1) }

def select (quotas : EvidenceKind → ℤ) (records : List Evidence) : Selection :=
  records.foldl (Selection.consider quotas) Selection.empty

def dropMarker (kind : EvidenceKind) (count : ℕ) : String :=
  "[truncated: " ++ toString count ++ " more " ++ kind.value ++ " records omitted]"

def markers (dropped : EvidenceKind → ℕ) : List String :=
  sortedKinds.filterMap fun kind =>
    if dropped kind = 0 then none else some (dropMarker kind (dropped kind))

/-- The evidence for the model's context, and a marker for each kind left out. -/
def contextEvidence (store : EvidenceStore) (quotas : EvidenceKind → ℤ) :
    List Evidence × List String :=
  let chosen := select quotas store.ordered
  (chosen.kept, markers chosen.dropped)

section Order

theorem precedes_total (a b : Evidence) : precedes a b ∨ precedes b a := by
  rcases lt_trichotomy a.observedAt b.observedAt with h | h | h
  · exact Or.inl (Or.inl h)
  · rcases lt_trichotomy a.kind.value b.kind.value with hk | hk | hk
    · exact Or.inl (Or.inr ⟨h, Or.inl hk⟩)
    · rcases le_total a.evidenceId b.evidenceId with hid | hid
      · exact Or.inl (Or.inr ⟨h, Or.inr ⟨hk, hid⟩⟩)
      · exact Or.inr (Or.inr ⟨h.symm, Or.inr ⟨hk.symm, hid⟩⟩)
    · exact Or.inr (Or.inr ⟨h.symm, Or.inl hk⟩)
  · exact Or.inr (Or.inl h)

theorem precedes_trans {a b c : Evidence} (hab : precedes a b) (hbc : precedes b c) :
    precedes a c := by
  rcases hab with hab | ⟨htime, hab⟩
  · rcases hbc with hbc | ⟨htime', -⟩
    · exact Or.inl (hab.trans hbc)
    · exact Or.inl (htime' ▸ hab)
  · rcases hbc with hbc | ⟨htime', hbc⟩
    · exact Or.inl (htime ▸ hbc)
    · refine Or.inr ⟨htime.trans htime', ?_⟩
      rcases hab with hab | ⟨hkind, hab⟩
      · rcases hbc with hbc | ⟨hkind', -⟩
        · exact Or.inl (hab.trans hbc)
        · exact Or.inl (hkind' ▸ hab)
      · rcases hbc with hbc | ⟨hkind', hbc⟩
        · exact Or.inl (hkind ▸ hbc)
        · exact Or.inr ⟨hkind.trans hkind', hab.trans hbc⟩

theorem evidenceId_eq_of_precedes {a b : Evidence} (hab : precedes a b) (hba : precedes b a) :
    a.evidenceId = b.evidenceId := by
  rcases hab with hab | ⟨htime, hab⟩
  · rcases hba with hba | ⟨htime, -⟩
    · exact absurd hba (lt_asymm hab)
    · exact absurd htime.symm (ne_of_lt hab)
  · rcases hba with hba | ⟨-, hba⟩
    · exact absurd htime.symm (ne_of_lt hba)
    · rcases hab with hab | ⟨hkind, hab⟩
      · rcases hba with hba | ⟨hkind, -⟩
        · exact absurd hba (lt_asymm hab)
        · exact absurd hkind.symm (ne_of_lt hab)
      · rcases hba with hba | ⟨-, hba⟩
        · exact absurd hkind.symm (ne_of_lt hba)
        · exact le_antisymm hab hba

instance : Std.Total precedes := ⟨precedes_total⟩

instance : IsTrans Evidence precedes := ⟨fun _ _ _ => precedes_trans⟩

theorem ordered_perm (store : EvidenceStore) : store.ordered.Perm store.records :=
  List.perm_insertionSort precedes store.records

theorem mem_ordered {store : EvidenceStore} {record : Evidence} :
    record ∈ store.ordered ↔ record ∈ store.records :=
  store.ordered_perm.mem_iff

/-- The order in which records with distinct ids were added does not show. -/
theorem ordered_eq_of_perm {store other : EvidenceStore}
    (hdistinct : Rows.Keyed Evidence.evidenceId store.records)
    (hperm : store.records.Perm other.records) : store.ordered = other.ordered := by
  have hsame : store.ordered.Perm other.ordered :=
    store.ordered_perm.trans (hperm.trans other.ordered_perm.symm)
  refine List.Perm.eq_of_pairwise ?_ (List.pairwise_insertionSort precedes store.records)
    (List.pairwise_insertionSort precedes other.records) hsame
  intro a b ha hb hab hba
  exact hdistinct.eq_of_key_eq (mem_ordered.1 ha) (hperm.mem_iff.2 (mem_ordered.1 hb))
    (evidenceId_eq_of_precedes hab hba)

end Order

section Selection

variable {quotas : EvidenceKind → ℤ}

def ofKind (kind : EvidenceKind) (records : List Evidence) : ℕ :=
  records.countP fun record => record.kind = kind

/-- What is so far chosen from some records: a kind that was dropped from is full. -/
structure Chosen (quotas : EvidenceKind → ℤ) (records : List Evidence) (chosen : Selection) :
    Prop where
  used : ∀ kind, chosen.used kind = ofKind kind chosen.kept
  total : ∀ kind, chosen.used kind + chosen.dropped kind = ofKind kind records
  full : ∀ kind, 0 < chosen.dropped kind → quotas kind ≤ chosen.used kind
  all : (∀ kind, chosen.dropped kind = 0) → chosen.kept = records

theorem Chosen.consider {records : List Evidence} {chosen : Selection}
    (h : Chosen quotas records chosen) (record : Evidence) :
    Chosen quotas (records ++ [record]) (chosen.consider quotas record) := by
  have hcount : ∀ kind, ofKind kind (records ++ [record]) =
      ofKind kind records + if record.kind = kind then 1 else 0 := by
    intro kind
    simp [ofKind, List.countP_append, List.countP_singleton]
  by_cases hroom : (chosen.used record.kind : ℤ) < quotas record.kind
  · rw [Selection.consider, if_pos hroom]
    refine ⟨?_, ?_, ?_, ?_⟩
    · intro kind
      by_cases hkind : kind = record.kind
      · subst hkind
        simp [ofKind, List.countP_append, h.used]
      · simp [Function.update_of_ne hkind, ofKind, List.countP_append, h.used, Ne.symm hkind]
    · intro kind
      rw [hcount, ← h.total kind]
      by_cases hkind : kind = record.kind
      · subst hkind
        simp only [Function.update_self, if_true]
        omega
      · simp [Function.update_of_ne hkind, Ne.symm hkind]
    · intro kind hdropped
      have hfull := h.full kind hdropped
      by_cases hkind : kind = record.kind
      · subst hkind
        simp only [Function.update_self]
        omega
      · simpa [Function.update_of_ne hkind] using hfull
    · intro hnone
      simp [h.all hnone]
  · rw [Selection.consider, if_neg hroom]
    refine ⟨h.used, ?_, ?_, ?_⟩
    · intro kind
      rw [hcount, ← h.total kind]
      by_cases hkind : kind = record.kind
      · subst hkind
        simp only [Function.update_self, if_true]
        omega
      · simp [Function.update_of_ne hkind, Ne.symm hkind]
    · intro kind hdropped
      by_cases hkind : kind = record.kind
      · subst hkind
        exact not_lt.1 hroom
      · exact h.full kind (by simpa [Function.update_of_ne hkind] using hdropped)
    · intro hnone
      have hself := hnone record.kind
      simp at hself

theorem chosen_select (quotas : EvidenceKind → ℤ) (records : List Evidence) :
    Chosen quotas records (select quotas records) := by
  induction records using List.reverseRecOn with
  | nil => exact ⟨fun _ => rfl, fun _ => rfl, fun _ h => absurd h (lt_irrefl 0), fun _ => rfl⟩
  | append_singleton records record ih =>
      rw [select, List.foldl_append]
      exact ih.consider record

theorem kept_add_dropped (quotas : EvidenceKind → ℤ) (store : EvidenceStore)
    (kind : EvidenceKind) :
    ofKind kind (store.contextEvidence quotas).1 + (select quotas store.ordered).dropped kind =
      ofKind kind store.records := by
  have h := chosen_select quotas store.ordered
  rw [contextEvidence, ← h.used kind, h.total kind]
  exact store.ordered_perm.countP_eq _

/-- Within the quotas nothing is left out; a kind without records needs none. -/
theorem contextEvidence_of_within (store : EvidenceStore)
    (hwithin : ∀ kind, ofKind kind store.records = 0 ∨
      (ofKind kind store.records : ℤ) ≤ quotas kind) :
    store.contextEvidence quotas = (store.ordered, []) := by
  have h := chosen_select quotas store.ordered
  have hnone : ∀ kind, (select quotas store.ordered).dropped kind = 0 := by
    intro kind
    by_contra hdropped
    have hfull := h.full kind (Nat.pos_of_ne_zero hdropped)
    have htotal := h.total kind
    have hkind := hwithin kind
    rw [ofKind, ← store.ordered_perm.countP_eq, ← ofKind] at hkind
    rcases hkind with hkind | hkind <;> omega
  simp [contextEvidence, h.all hnone, markers, hnone]

end Selection

end EvidenceStore

/-- The store of a run, rebuilt from the records its state holds. -/
def rebuildStore (incidentId : String) (records : List Evidence) :
    Except String EvidenceStore :=
  records.foldlM EvidenceStore.add (EvidenceStore.empty incidentId)

section Rebuild

variable {incidentId : String}

theorem foldlM_add {records : List Evidence} (store : EvidenceStore)
    (hown : ∀ record ∈ records, record.incidentId = store.incidentId)
    (hdistinct : Rows.Keyed Evidence.evidenceId (store.records ++ records)) :
    records.foldlM EvidenceStore.add store =
      .ok { store with records := store.records ++ records } := by
  induction records generalizing store with
  | nil => simp [pure, Except.pure]
  | cons record rest ih =>
      have hself : record.incidentId = store.incidentId := hown record (by simp)
      have hfresh : ∀ old ∈ store.records, old.evidenceId ≠ record.evidenceId := by
        intro old hold heq
        have hnodup : ((store.records ++ record :: rest).map Evidence.evidenceId).Nodup :=
          hdistinct
        rw [List.map_append, List.nodup_append] at hnodup
        exact hnodup.2.2 _ (List.mem_map_of_mem hold) _
          (List.mem_map_of_mem List.mem_cons_self) heq
      have hput : Rows.put Evidence.evidenceId record store.records =
          store.records ++ [record] :=
        Rows.put_of_absent (Rows.lookup_eq_none.2 hfresh)
      have hadd : store.add record =
          .ok { store with records := store.records ++ [record] } := by
        simp [EvidenceStore.add, hself, hput]
      have hrest := ih { store with records := store.records ++ [record] }
        (fun other hother => hown other (List.mem_cons_of_mem record hother))
        (by simpa using hdistinct)
      simp only [List.foldlM_cons, hadd]
      change rest.foldlM EvidenceStore.add _ = _
      rw [hrest]
      simp

/-- Distinct records of the incident are all kept, in the order of the list. -/
theorem rebuildStore_of_distinct {records : List Evidence}
    (hown : ∀ record ∈ records, record.incidentId = incidentId)
    (hdistinct : Rows.Keyed Evidence.evidenceId records) :
    rebuildStore incidentId records = .ok ⟨incidentId, records⟩ :=
  foldlM_add (EvidenceStore.empty incidentId) hown (by simpa [EvidenceStore.empty])

end Rebuild

end CausalOps.Investigation
