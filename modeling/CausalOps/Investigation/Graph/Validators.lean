import CausalOps.Investigation.Graph.Resumed

set_option autoImplicit false

/-! The four checks that an owner's decision passes: when it is made, when it is recorded, when
the paused graph receives it, and when the report is built. -/

namespace CausalOps.Investigation

open CausalOps.ControlPlane (Verdict RowPaired OwnerDecision DecisionRow LedgerRow)

section Received

def resumeValue (d : OwnerDecision) : Json :=
  .obj [("decision", .str d.decision.text),
    ("rejection_note", match d.rejectionNote with
      | none => .null
      | some note => .str note)]

/-- A rejection whose note is still longer than 300 characters once it is stripped. -/
def LongNote (value : Json) : Prop :=
  ∃ entries note, value = .obj entries ∧
    Json.get entries "decision" = some (.str "reject") ∧
    Json.get entries "rejection_note" = some (.str note) ∧ 300 < (Text.strip note).length

/-- What the node takes from a value is taken by the record of the decision, by its row, and by
the report. -/
structure Passes (decision : Verdict) (note : Option String) : Prop where
  recorded : ∃ record : EscalationRecord,
    record.decision = decision ∧ record.rejectionNote = note
  stored : ∀ threadId checkpointId decidedAt, ∃ row : DecisionRow,
    DecisionRow.validate ⟨threadId, checkpointId, decision.text, note, decidedAt⟩ = some row ∧
      row.decision = decision ∧ row.rejectionNote = note
  reported : ∀ state reason, ∃ record : EscalationRecord,
    buildEscalation (decidedState state reason decision note) = .ok (some record) ∧
      record.decision = decision ∧ record.rejectionNote = note

def Compatible (value : Json) : Prop :=
  ∀ decision note, parseResumeDecision value = some (decision, note) → Passes decision note

variable {decision : Verdict} {note : Option String}

theorem passes_iff (hpaired : RowPaired decision note) :
    Passes decision note ↔ ∀ text ∈ note, text.length ≤ 300 := by
  constructor
  · intro h
    obtain ⟨record, -, hnote⟩ := h.recorded
    rw [← hnote]
    exact record.noteBound
  · intro hlength
    refine ⟨⟨⟨.conflictingEvidence, decision, note, hlength, hpaired⟩, rfl, rfl⟩, ?_, ?_⟩
    · intro threadId checkpointId decidedAt
      exact ⟨⟨threadId, checkpointId, decision, note, decidedAt, hpaired⟩,
        by simp [DecisionRow.validate, hpaired], rfl, rfl⟩
    · intro state reason
      exact ⟨⟨reason, decision, note, hlength, hpaired⟩, dif_pos ⟨hlength, hpaired⟩, rfl, rfl⟩

theorem note_of_parsed {value : Json} {text : String}
    (h : parseResumeDecision value = some (decision, some text)) :
    ∃ entries note, value = .obj entries ∧
      Json.get entries "decision" = some (.str "reject") ∧
      Json.get entries "rejection_note" = some (.str note) ∧ text = Text.strip note := by
  unfold parseResumeDecision at h
  split at h
  · rename_i entries
    split at h
    · split at h <;> cases h
    · rename_i hdecision
      split at h
      · rename_i note hnote
        split at h
        · cases h
        · cases h
          refine ⟨entries, note, rfl, hdecision, ?_, rfl⟩
          unfold noteOf at hnote
          split at hnote
          · cases hnote
          · cases hnote
          · rename_i hget
            rw [hget, ← Option.some.inj (Option.some.inj hnote)]
          · cases hnote
      · cases h
    · cases h
  · cases h

theorem parsed_of_long {value : Json} (h : LongNote value) :
    ∃ text, parseResumeDecision value = some (.reject, some text) ∧ 300 < text.length := by
  obtain ⟨entries, note, rfl, hdecision, hnote, hlong⟩ := h
  have hne : ¬ Text.strip note = "" := by
    intro hempty
    rw [hempty] at hlong
    cases hlong
  refine ⟨Text.strip note, ?_, hlong⟩
  simp only [parseResumeDecision, hdecision, hnote, noteOf, if_neg hne]

theorem compatible_iff (value : Json) : Compatible value ↔ ¬ LongNote value := by
  constructor
  · intro h hlong
    obtain ⟨text, hparsed, hlength⟩ := parsed_of_long hlong
    have hbound := (passes_iff (paired_of_parsed hparsed)).1 (h _ _ hparsed) text rfl
    omega
  · intro h decision note hparsed
    refine (passes_iff (paired_of_parsed hparsed)).2 fun text htext => ?_
    obtain rfl : note = some text := htext
    obtain ⟨entries, given, rfl, hdecision, hnote, rfl⟩ := note_of_parsed hparsed
    by_contra hlong
    exact h ⟨entries, given, rfl, hdecision, hnote, not_le.1 hlong⟩

end Received

section Made

theorem parse_resumeValue (d : OwnerDecision) :
    parseResumeDecision (resumeValue d) = some (d.decision, d.rejectionNote) := by
  obtain ⟨decision, note, hpaired⟩ := d
  cases decision with
  | accept =>
      cases note with
      | none => rfl
      | some text => exact hpaired.elim
  | reject =>
      cases note with
      | none => exact hpaired.elim
      | some text =>
          obtain ⟨hne, hstrip, -⟩ := hpaired
          have hdecision : Json.get [("decision", Json.str "reject"),
              ("rejection_note", Json.str text)] "decision" = some (.str "reject") := by
            simp [Json.get]
          have hnote : Json.get [("decision", Json.str "reject"),
              ("rejection_note", Json.str text)] "rejection_note" = some (.str text) := by
            simp [Json.get]
          simp only [parseResumeDecision, resumeValue, Verdict.text, hdecision, hnote, noteOf,
            hstrip, if_neg hne]

theorem passes_made (d : OwnerDecision) : Passes d.decision d.rejectionNote := by
  refine (passes_iff (ControlPlane.rowPaired_of_paired d.paired)).2 fun text htext => ?_
  obtain ⟨decision, note, hpaired⟩ := d
  obtain rfl : note = some text := htext
  cases decision with
  | accept => exact hpaired.elim
  | reject => exact hpaired.2.2

end Made

end CausalOps.Investigation
