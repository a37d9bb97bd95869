import Mathlib.Data.Finset.Sort
import Mathlib.Data.Prod.Lex
import CausalOps.Evaluation.Scoring
import CausalOps.Library.Grouping

set_option autoImplicit false

/-! The summary of a batch of scored runs: counts and ranges, over the whole batch and over its
groups. -/

namespace CausalOps.Evaluation

open CausalOps.Investigation

section Summary

/-- What a stored record says that a summary reads; money is exact. -/
structure EvaluationRecord where
  scorerVersion : String
  runKey : String
  expected : ExpectedOutcome
  scores : MechanicalScores
  retrievalMode : RetrievalMode
  reservedUsd : ℚ
  actualUsd : Option ℚ
  executedTools : ℤ

/-- A pair of `*_min` and `*_max` fields. -/
structure MinMax (α : Type) where
  min : Option α
  max : Option α
  deriving DecidableEq, Repr

structure EvaluationSummary where
  totalRecords : ℕ
  correctAndGroundedCount : ℕ
  diagnosisCorrectCount : ℕ
  dispositionCorrectCount : ℕ
  citationsValidCount : ℕ
  citationsSufficientCount : ℕ
  citationsSufficientApplicableCount : ℕ
  scorerVersions : List String
  latencyMs : MinMax ℤ
  modelCalls : MinMax ℤ
  toolsExecuted : MinMax ℤ
  denied : MinMax ℤ
  duplicate : MinMax ℤ
  outOfScope : MinMax ℤ
  invalidResponses : MinMax ℤ
  unsettled : MinMax ℤ
  inputTokens : MinMax ℤ
  inputTokensKnownCount : ℕ
  outputTokens : MinMax ℤ
  outputTokensKnownCount : ℕ
  reservedUsd : MinMax ℚ
  actualUsd : MinMax ℚ
  actualUsdKnownCount : ℕ
  deriving DecidableEq, Repr

def minMax {α : Type} [LinearOrder α] (values : List α) : MinMax α := ⟨values.min?, values.max?⟩

def applicable (record : EvaluationRecord) : Bool := !record.expected.predicates.isEmpty

def sufficient (record : EvaluationRecord) : Bool :=
  applicable record && record.scores.citationsSufficient = some true

def summarizeEvaluation (records : List EvaluationRecord) : EvaluationSummary :=
  let inputTokensKnown := records.filterMap fun record => record.scores.efficiency.inputTokens
  let outputTokensKnown := records.filterMap fun record => record.scores.efficiency.outputTokens
  let actualUsdKnown := records.filterMap EvaluationRecord.actualUsd
  { totalRecords := records.length
    correctAndGroundedCount := records.countP fun record =>
      applicable record && record.scores.diagnosisCorrect &&
        record.scores.citationsSufficient = some true
    diagnosisCorrectCount := records.countP fun record => record.scores.diagnosisCorrect
    dispositionCorrectCount := records.countP fun record => record.scores.dispositionCorrect
    citationsValidCount := records.countP fun record => record.scores.citationsValid
    citationsSufficientCount := records.countP sufficient
    citationsSufficientApplicableCount := records.countP applicable
    scorerVersions := (records.map EvaluationRecord.scorerVersion).toFinset.sort (· ≤ ·)
    latencyMs := minMax (records.map fun record => record.scores.efficiency.latencyMs)
    modelCalls := minMax (records.map fun record => record.scores.efficiency.modelCalls)
    toolsExecuted := minMax (records.map fun record => record.scores.efficiency.toolsExecuted)
    denied := minMax (records.map fun record => record.scores.control.denied)
    duplicate := minMax (records.map fun record => record.scores.control.duplicate)
    outOfScope := minMax (records.map fun record => record.scores.control.outOfScope)
    invalidResponses := minMax (records.map fun record => record.scores.control.invalidResponses)
    unsettled := minMax (records.map fun record => record.scores.control.unsettled)
    inputTokens := minMax inputTokensKnown
    inputTokensKnownCount := inputTokensKnown.length
    outputTokens := minMax outputTokensKnown
    outputTokensKnownCount := outputTokensKnown.length
    reservedUsd := minMax (records.map EvaluationRecord.reservedUsd)
    actualUsd := minMax actualUsdKnown
    actualUsdKnownCount := actualUsdKnown.length }

end Summary

section Pairing

def modeNoToolBaseline : String := "no_tool_baseline"
def modeToolEnabled : String := "tool_enabled"

/-- `run_key.rsplit("/", 1)[-1]`. -/
def armOf (record : EvaluationRecord) : String :=
  String.ofList (record.runKey.toList.reverse.takeWhile (· ≠ '/')).reverse

def retrievalModeOrder : List RetrievalMode := [.disabled, .fts5Lexical, .pineconeSemantic]

structure EvaluationGroupSummary where
  arm : String
  retrievalMode : RetrievalMode
  executedTools : ℤ
  summary : EvaluationSummary
  deriving DecidableEq, Repr

structure PairedEvaluationSummary where
  groups : List EvaluationGroupSummary
  totalRecords : ℕ
  deriving DecidableEq, Repr

abbrev GroupKey := String × RetrievalMode × ℤ

def groupKey (record : EvaluationRecord) : GroupKey :=
  (armOf record, record.retrievalMode, record.executedTools)

def EvaluationGroupSummary.key (group : EvaluationGroupSummary) : GroupKey :=
  (group.arm, group.retrievalMode, group.executedTools)

def sortKey (key : GroupKey) : ℕ ×ₗ ℕ ×ₗ ℤ :=
  let armRank := if key.1 = modeNoToolBaseline then 0 else 1
  toLex (armRank, toLex (retrievalModeOrder.idxOf key.2.1, key.2.2))

def unrecognized (record : EvaluationRecord) : Bool :=
  armOf record ≠ modeNoToolBaseline && armOf record ≠ modeToolEnabled

def summarizeGroup (group : GroupKey × List EvaluationRecord) : EvaluationGroupSummary :=
  ⟨group.1.1, group.1.2.1, group.1.2.2, summarizeEvaluation group.2⟩

def summarizePairedEvaluation (records : List EvaluationRecord) :
    Except String PairedEvaluationSummary :=
  let count := records.countP unrecognized
  if count ≠ 0 then
    .error (toString count ++ " record(s) carry a run_key whose final segment is neither '" ++
      modeNoToolBaseline ++ "' nor '" ++ modeToolEnabled ++
      "' -- cannot partition this batch by arm")
  else
    let grouped := Grouping.group groupKey records
    let groups := (grouped.mergeSort fun a b => sortKey a.1 ≤ sortKey b.1).map summarizeGroup
    .ok ⟨groups, records.length⟩

end Pairing

section Combining

variable {α : Type} [LinearOrder α]

def MinMax.combine (a b : MinMax α) : MinMax α :=
  ⟨Option.merge Min.min a.min b.min, Option.merge Max.max a.max b.max⟩

theorem min?_append (values others : List α) :
    (values ++ others).min? = Option.merge Min.min values.min? others.min? := by
  induction values with
  | nil => simp
  | cons value rest ih =>
      rw [List.cons_append, List.min?_cons, ih, List.min?_cons]
      cases rest.min? <;> cases others.min? <;> simp [min_assoc]

theorem max?_append (values others : List α) :
    (values ++ others).max? = Option.merge Max.max values.max? others.max? := by
  induction values with
  | nil => simp
  | cons value rest ih =>
      rw [List.cons_append, List.max?_cons, ih, List.max?_cons]
      cases rest.max? <;> cases others.max? <;> simp [max_assoc]

theorem minMax_append (values others : List α) :
    minMax (values ++ others) = (minMax values).combine (minMax others) := by
  simp only [minMax, MinMax.combine, min?_append, max?_append]

/-- A range is of values when its ends are the least and the greatest of them. -/
structure MinMax.Spans (range : MinMax α) (values : List α) : Prop where
  least : ∀ low, range.min = some low ↔ IsLeast {value | value ∈ values} low
  greatest : ∀ high, range.max = some high ↔ IsGreatest {value | value ∈ values} high
  empty : range = ⟨none, none⟩ ↔ values = []

theorem minMax_spans (values : List α) : (minMax values).Spans values where
  least low := by
    rw [minMax, List.min?_eq_some_iff]
    rfl
  greatest high := by
    rw [minMax, List.max?_eq_some_iff]
    rfl
  empty := by simp [minMax]

theorem MinMax.combine_left_comm (a b c : MinMax α) :
    a.combine (b.combine c) = b.combine (a.combine c) := by
  obtain ⟨amin, amax⟩ := a
  obtain ⟨bmin, bmax⟩ := b
  obtain ⟨cmin, cmax⟩ := c
  simp only [MinMax.combine, MinMax.mk.injEq]
  constructor
  · cases amin <;> cases bmin <;> cases cmin <;> simp [min_left_comm, min_comm]
  · cases amax <;> cases bmax <;> cases cmax <;> simp [max_left_comm, max_comm]

theorem minMax_perm {values others : List α} (hperm : values.Perm others) :
    minMax values = minMax others := by
  have hcons : ∀ (value : α) (rest : List α),
      minMax (value :: rest) = (minMax [value]).combine (minMax rest) := fun value rest =>
    minMax_append [value] rest
  induction hperm with
  | nil => rfl
  | cons value _ ih => rw [hcons, ih, ← hcons]
  | swap a b rest => rw [hcons b, hcons a, MinMax.combine_left_comm, ← hcons b, ← hcons a]
  | trans _ _ ih ih' => exact ih.trans ih'

/-- Counts add up, ranges combine, and the versions of both batches are listed. -/
def EvaluationSummary.combine (a b : EvaluationSummary) : EvaluationSummary where
  totalRecords := a.totalRecords + b.totalRecords
  correctAndGroundedCount := a.correctAndGroundedCount + b.correctAndGroundedCount
  diagnosisCorrectCount := a.diagnosisCorrectCount + b.diagnosisCorrectCount
  dispositionCorrectCount := a.dispositionCorrectCount + b.dispositionCorrectCount
  citationsValidCount := a.citationsValidCount + b.citationsValidCount
  citationsSufficientCount := a.citationsSufficientCount + b.citationsSufficientCount
  citationsSufficientApplicableCount :=
    a.citationsSufficientApplicableCount + b.citationsSufficientApplicableCount
  scorerVersions := (a.scorerVersions.toFinset ∪ b.scorerVersions.toFinset).sort (· ≤ ·)
  latencyMs := a.latencyMs.combine b.latencyMs
  modelCalls := a.modelCalls.combine b.modelCalls
  toolsExecuted := a.toolsExecuted.combine b.toolsExecuted
  denied := a.denied.combine b.denied
  duplicate := a.duplicate.combine b.duplicate
  outOfScope := a.outOfScope.combine b.outOfScope
  invalidResponses := a.invalidResponses.combine b.invalidResponses
  unsettled := a.unsettled.combine b.unsettled
  inputTokens := a.inputTokens.combine b.inputTokens
  inputTokensKnownCount := a.inputTokensKnownCount + b.inputTokensKnownCount
  outputTokens := a.outputTokens.combine b.outputTokens
  outputTokensKnownCount := a.outputTokensKnownCount + b.outputTokensKnownCount
  reservedUsd := a.reservedUsd.combine b.reservedUsd
  actualUsd := a.actualUsd.combine b.actualUsd
  actualUsdKnownCount := a.actualUsdKnownCount + b.actualUsdKnownCount

theorem summarizeEvaluation_append (before after : List EvaluationRecord) :
    summarizeEvaluation (before ++ after) =
      (summarizeEvaluation before).combine (summarizeEvaluation after) := by
  simp only [summarizeEvaluation, EvaluationSummary.combine, List.length_append,
    List.countP_append, List.map_append, List.filterMap_append, minMax_append,
    List.toFinset_append, Finset.sort_toFinset]

theorem summarizeEvaluation_perm {records others : List EvaluationRecord}
    (hperm : records.Perm others) : summarizeEvaluation records = summarizeEvaluation others := by
  have hversions : (records.map EvaluationRecord.scorerVersion).toFinset =
      (others.map EvaluationRecord.scorerVersion).toFinset :=
    List.toFinset_eq_of_perm _ _ (hperm.map _)
  simp only [summarizeEvaluation, hperm.length_eq, hperm.countP_eq, hversions,
    minMax_perm (hperm.map _), minMax_perm (hperm.filterMap _), (hperm.filterMap _).length_eq]

/-- What a summary says of its records: how many of them there are of each kind, which versions
scored them, and between which of their values every figure lies. -/
structure Describes (records : List EvaluationRecord) (summary : EvaluationSummary) : Prop where
  total : summary.totalRecords = records.length
  correctAndGrounded : summary.correctAndGroundedCount = (records.filter fun record =>
    record.expected.predicates ≠ [] ∧ record.scores.diagnosisCorrect = true ∧
      record.scores.citationsSufficient = some true).length
  correct : summary.diagnosisCorrectCount =
      (records.filter fun record => record.scores.diagnosisCorrect).length ∧
    summary.dispositionCorrectCount =
      (records.filter fun record => record.scores.dispositionCorrect).length
  valid : summary.citationsValidCount =
    (records.filter fun record => record.scores.citationsValid).length
  sufficient : summary.citationsSufficientCount = (records.filter fun record =>
      record.expected.predicates ≠ [] ∧ record.scores.citationsSufficient = some true).length ∧
    summary.citationsSufficientApplicableCount = (records.filter fun record =>
      record.expected.predicates ≠ []).length
  versions : summary.scorerVersions.Pairwise (· < ·) ∧ ∀ version,
    version ∈ summary.scorerVersions ↔ ∃ record ∈ records, record.scorerVersion = version
  latency : summary.latencyMs.Spans (records.map fun record =>
    record.scores.efficiency.latencyMs)
  calls : summary.modelCalls.Spans (records.map fun record =>
      record.scores.efficiency.modelCalls) ∧
    summary.toolsExecuted.Spans (records.map fun record =>
      record.scores.efficiency.toolsExecuted)
  control : summary.denied.Spans (records.map fun record => record.scores.control.denied) ∧
    summary.duplicate.Spans (records.map fun record => record.scores.control.duplicate) ∧
    summary.outOfScope.Spans (records.map fun record => record.scores.control.outOfScope) ∧
    summary.invalidResponses.Spans
      (records.map fun record => record.scores.control.invalidResponses) ∧
    summary.unsettled.Spans (records.map fun record => record.scores.control.unsettled)
  tokens : summary.inputTokens.Spans
      (records.filterMap fun record => record.scores.efficiency.inputTokens) ∧
    summary.outputTokens.Spans
      (records.filterMap fun record => record.scores.efficiency.outputTokens)
  money : summary.reservedUsd.Spans (records.map EvaluationRecord.reservedUsd) ∧
    summary.actualUsd.Spans (records.filterMap EvaluationRecord.actualUsd)
  known : summary.inputTokensKnownCount =
      (records.filter fun record => record.scores.efficiency.inputTokens.isSome).length ∧
    summary.outputTokensKnownCount =
      (records.filter fun record => record.scores.efficiency.outputTokens.isSome).length ∧
    summary.actualUsdKnownCount = (records.filter fun record => record.actualUsd.isSome).length

theorem length_filterMap_known {α β : Type} (read : α → Option β) (items : List α) :
    (items.filterMap read).length = (items.filter fun item => (read item).isSome).length := by
  induction items with
  | nil => rfl
  | cons item rest ih =>
      rw [List.filterMap_cons, List.filter_cons]
      cases read item <;> simp [ih]

theorem countP_filter {α : Type} {p q : α → Bool} (items : List α)
    (h : ∀ item, p item = true ↔ q item = true) : items.countP p = (items.filter q).length := by
  rw [funext fun item => Bool.eq_iff_iff.2 (h item), List.countP_eq_length_filter]

theorem summarizeEvaluation_describes (records : List EvaluationRecord) :
    Describes records (summarizeEvaluation records) where
  total := rfl
  correctAndGrounded := countP_filter records fun record => by simp [applicable, and_assoc]
  correct := ⟨List.countP_eq_length_filter, List.countP_eq_length_filter⟩
  valid := List.countP_eq_length_filter
  sufficient := ⟨countP_filter records fun record => by simp [sufficient, applicable],
    countP_filter records fun record => by simp [applicable]⟩
  versions := by
    have hsorted := Finset.sortedLT_sort (records.map EvaluationRecord.scorerVersion).toFinset
    exact ⟨hsorted.pairwise, fun version => by simp [summarizeEvaluation]⟩
  latency := minMax_spans _
  calls := ⟨minMax_spans _, minMax_spans _⟩
  control := ⟨minMax_spans _, minMax_spans _, minMax_spans _, minMax_spans _, minMax_spans _⟩
  tokens := ⟨minMax_spans _, minMax_spans _⟩
  money := ⟨minMax_spans _, minMax_spans _⟩
  known := ⟨length_filterMap_known _ _, length_filterMap_known _ _, length_filterMap_known _ _⟩

theorem summarizeEvaluation_counts (records : List EvaluationRecord) :
    (summarizeEvaluation records).correctAndGroundedCount ≤
        (summarizeEvaluation records).citationsSufficientCount ∧
      (summarizeEvaluation records).citationsSufficientCount ≤
        (summarizeEvaluation records).citationsSufficientApplicableCount ∧
      (summarizeEvaluation records).citationsSufficientApplicableCount ≤
        (summarizeEvaluation records).totalRecords := by
  refine ⟨List.countP_mono_left fun record _ h => ?_, List.countP_mono_left fun record _ h => ?_,
    List.countP_le_length⟩
  · simp only [Bool.and_eq_true] at h
    simp [sufficient, h.1.1, h.2]
  · exact (Bool.and_eq_true_iff.1 h).1

end Combining

/-- The groups of a batch: they part its records by arm, retrieval mode and budget, in a fixed
order. -/
structure Parts (records : List EvaluationRecord) (paired : PairedEvaluationSummary) : Prop where
  canonical : paired.groups.Pairwise fun a b => sortKey a.key < sortKey b.key
  summaries : ∀ group ∈ paired.groups, group.summary =
    summarizeEvaluation (records.filter fun record => groupKey record = group.key)
  present : ∀ key, (∃ group ∈ paired.groups, group.key = key) ↔
    ∃ record ∈ records, groupKey record = key
  lossless : (paired.groups.flatMap fun group =>
    records.filter fun record => groupKey record = group.key).Perm records
  total : paired.totalRecords = records.length ∧
    (paired.groups.map fun group => group.summary.totalRecords).sum = records.length

section Groups

variable {records others : List EvaluationRecord} {paired : PairedEvaluationSummary}

/-- The keys of the groups, in the order in which they are listed. -/
def sortedKeys (records : List EvaluationRecord) : List GroupKey :=
  ((Grouping.group groupKey records).mergeSort fun a b => sortKey a.1 ≤ sortKey b.1).map Prod.fst

def groupSummary (records : List EvaluationRecord) (key : GroupKey) : EvaluationGroupSummary :=
  summarizeGroup (key, records.filter fun record => groupKey record = key)

theorem sortedKeys_perm (records : List EvaluationRecord) :
    (sortedKeys records).Perm ((Grouping.group groupKey records).map Prod.fst) :=
  (List.mergeSort_perm _ _).map _

theorem mem_sortedKeys {key : GroupKey} :
    key ∈ sortedKeys records ↔ ∃ record ∈ records, groupKey record = key :=
  (sortedKeys_perm records).mem_iff.trans
    ((Grouping.group_groups groupKey records).present key)

theorem sortedKeys_nodup (records : List EvaluationRecord) : (sortedKeys records).Nodup :=
  (sortedKeys_perm records).nodup_iff.2 (Grouping.group_groups groupKey records).keys

theorem groups_eq (records : List EvaluationRecord) :
    ((Grouping.group groupKey records).mergeSort fun a b => sortKey a.1 ≤ sortKey b.1).map
      summarizeGroup = (sortedKeys records).map (groupSummary records) := by
  rw [sortedKeys, List.map_map]
  refine List.map_congr_left fun group hgroup => ?_
  have hmem : group ∈ Grouping.group groupKey records := (List.mergeSort_perm _ _).mem_iff.1 hgroup
  have hrows := (Grouping.group_groups groupKey records).members group hmem
  obtain ⟨key, rows⟩ := group
  exact congrArg (fun rows => summarizeGroup (key, rows)) hrows

theorem sortKey_injective {a b : GroupKey} (ha : a.1 = modeNoToolBaseline ∨ a.1 = modeToolEnabled)
    (hb : b.1 = modeNoToolBaseline ∨ b.1 = modeToolEnabled) (h : sortKey a = sortKey b) :
    a = b := by
  have hindex : ∀ mode mode' : RetrievalMode,
      retrievalModeOrder.idxOf mode = retrievalModeOrder.idxOf mode' → mode = mode' := by
    intro mode mode'
    cases mode <;> cases mode' <;> decide
  have hwords : modeToolEnabled ≠ modeNoToolBaseline := by decide
  obtain ⟨hrank, hrest⟩ := Prod.mk.inj (toLex.injective h)
  obtain ⟨hmode, htools⟩ := Prod.mk.inj (toLex.injective hrest)
  have harm : a.1 = b.1 := by
    rcases ha with ha | ha <;> rcases hb with hb | hb <;> simp_all
  exact Prod.ext harm (Prod.ext (hindex _ _ hmode) htools)

theorem known_of_mem_sortedKeys (hknown : records.countP unrecognized = 0) {key : GroupKey}
    (hkey : key ∈ sortedKeys records) :
    key.1 = modeNoToolBaseline ∨ key.1 = modeToolEnabled := by
  obtain ⟨record, hrecord, rfl⟩ := mem_sortedKeys.1 hkey
  have hword := List.countP_eq_zero.1 hknown record hrecord
  simp only [unrecognized, Bool.and_eq_true, decide_eq_true_eq, not_and_or, not_not] at hword
  exact hword

theorem sortedKeys_sorted (hknown : records.countP unrecognized = 0) :
    (sortedKeys records).Pairwise fun a b => sortKey a < sortKey b := by
  have hle : (sortedKeys records).Pairwise fun a b => sortKey a ≤ sortKey b := by
    refine List.pairwise_map.2 ?_
    have hsorted : ((Grouping.group groupKey records).mergeSort fun a b =>
        sortKey a.1 ≤ sortKey b.1).Pairwise
          fun a b => decide (sortKey a.1 ≤ sortKey b.1) = true := by
      refine List.pairwise_mergeSort (fun a b c hab hbc => ?_) (fun a b => ?_) _
      · exact decide_eq_true ((of_decide_eq_true hab).trans (of_decide_eq_true hbc))
      · simpa using le_total (sortKey a.1) (sortKey b.1)
    exact hsorted.imp fun h => of_decide_eq_true h
  refine (hle.and (sortedKeys_nodup records)).imp_of_mem ?_
  intro a b ha hb ⟨hab, hne⟩
  refine lt_of_le_of_ne hab fun hsame => hne ?_
  exact sortKey_injective (known_of_mem_sortedKeys hknown ha) (known_of_mem_sortedKeys hknown hb)
    hsame

theorem sortedKeys_congr (hknown : records.countP unrecognized = 0) (hperm : others.Perm records) :
    sortedKeys others = sortedKeys records := by
  have hknown' : others.countP unrecognized = 0 := hperm.countP_eq _ ▸ hknown
  have hkeys : (sortedKeys others).Perm (sortedKeys records) := by
    refine (List.perm_ext_iff_of_nodup (sortedKeys_nodup others) (sortedKeys_nodup records)).2 ?_
    intro key
    simp only [mem_sortedKeys, hperm.mem_iff]
  exact hkeys.eq_of_pairwise (fun a b _ _ hab hba => absurd hba hab.not_gt)
    (sortedKeys_sorted hknown') (sortedKeys_sorted hknown)

theorem summarizePaired_known (hknown : records.countP unrecognized = 0) :
    summarizePairedEvaluation records =
      .ok ⟨(sortedKeys records).map (groupSummary records), records.length⟩ := by
  simp only [summarizePairedEvaluation, hknown, ne_eq, not_true_eq_false, if_false, groups_eq]

theorem summarizePaired_error :
    (∃ message, summarizePairedEvaluation records = .error message) ↔
      ∃ record ∈ records, unrecognized record = true := by
  rw [← List.countP_pos_iff, Nat.pos_iff_ne_zero]
  by_cases hknown : records.countP unrecognized = 0
  · simp [summarizePaired_known hknown, hknown]
  · simp [summarizePairedEvaluation, hknown]

theorem summarizePaired_parts (h : summarizePairedEvaluation records = .ok paired) :
    Parts records paired := by
  have hknown : records.countP unrecognized = 0 := by
    by_contra hunknown
    simp [summarizePairedEvaluation, hunknown] at h
  rw [summarizePaired_known hknown] at h
  obtain rfl := Except.ok.inj h
  have hlossless : ((sortedKeys records).flatMap fun key =>
      records.filter fun record => groupKey record = key).Perm records :=
    ((sortedKeys_perm records).flatMap_right _).trans
      (Grouping.group_groups groupKey records).lossless
  refine ⟨?_, ?_, ?_, ?_, rfl, ?_⟩
  · exact List.pairwise_map.2 (sortedKeys_sorted hknown)
  · intro group hgroup
    obtain ⟨key, -, rfl⟩ := List.mem_map.1 hgroup
    rfl
  · intro key
    rw [← mem_sortedKeys]
    simp only [List.mem_map, exists_exists_and_eq_and]
    exact ⟨fun ⟨found, hfound, hsame⟩ => hsame ▸ hfound, fun hkey => ⟨key, hkey, rfl⟩⟩
  · rw [List.flatMap_map]
    exact hlossless
  · rw [List.map_map, ← hlossless.length_eq, List.length_flatMap]
    rfl

end Groups

/-- The summary of a paired batch, for every list of records. -/
theorem evaluation_summary (records : List EvaluationRecord) :
    ((∃ message, summarizePairedEvaluation records = .error message) ↔
      ∃ record ∈ records, armOf record ≠ modeNoToolBaseline ∧ armOf record ≠ modeToolEnabled) ∧
    (∀ paired, summarizePairedEvaluation records = .ok paired → Parts records paired ∧
      ∀ group ∈ paired.groups,
        Describes (records.filter fun record => groupKey record = group.key) group.summary ∧
        group.summary.correctAndGroundedCount ≤ group.summary.citationsSufficientCount ∧
        group.summary.citationsSufficientCount ≤
          group.summary.citationsSufficientApplicableCount ∧
        group.summary.citationsSufficientApplicableCount ≤ group.summary.totalRecords) ∧
    (∀ others : List EvaluationRecord, others.Perm records →
      summarizePairedEvaluation others = summarizePairedEvaluation records) ∧
    ∀ before after, records = before ++ after → summarizeEvaluation records =
      (summarizeEvaluation before).combine (summarizeEvaluation after) := by
  refine ⟨?_, ?_, ?_, ?_⟩
  · rw [summarizePaired_error]
    simp [unrecognized]
  · intro paired hpaired
    have hparts := summarizePaired_parts hpaired
    refine ⟨hparts, fun group hgroup => ?_⟩
    rw [hparts.summaries group hgroup]
    exact ⟨summarizeEvaluation_describes _, summarizeEvaluation_counts _⟩
  · intro others hperm
    by_cases hknown : records.countP unrecognized = 0
    · have hknown' : others.countP unrecognized = 0 := hperm.countP_eq _ ▸ hknown
      rw [summarizePaired_known hknown, summarizePaired_known hknown',
        sortedKeys_congr hknown hperm, hperm.length_eq]
      have hsame : groupSummary others = groupSummary records := by
        funext key
        simp only [groupSummary, summarizeGroup,
          summarizeEvaluation_perm (hperm.filter fun record => groupKey record = key)]
      rw [hsame]
    · simp only [summarizePairedEvaluation, hperm.countP_eq, ne_eq, hknown, not_false_eq_true,
        if_true]
  · rintro before after rfl
    exact summarizeEvaluation_append before after

end CausalOps.Evaluation
