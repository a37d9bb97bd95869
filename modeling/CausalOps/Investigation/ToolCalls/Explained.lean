import CausalOps.Investigation.Models

set_option autoImplicit false

/-! Whatever is refused of a model's output is refused with a text that says something. -/

namespace CausalOps.Investigation

section Issues

def Explained {α : Type} (result : Except Issues α) : Prop :=
  ∀ issues, result = .error issues → issues ≠ []

/-- A validation error of pydantic has at least one issue. -/
structure Pydantic.Explains (pydantic : Pydantic) : Prop where
  hypotheses : ∀ value, Explained (pydantic.hypotheses value)
  assessment : ∀ content, Explained (pydantic.assessment content)

variable {α β : Type}

theorem explained_ok (value : α) : Explained (.ok value : Except Issues α) := fun _ h => nomatch h

theorem explained_cons (first : Issue) (rest : Issues) :
    Explained (.error (first :: rest) : Except Issues α) := by
  intro issues h
  rw [← Except.error.inj h]
  exact List.cons_ne_nil _ _

theorem Explained.map {result : Except Issues α} (h : Explained result) (f : α → β) :
    Explained (result.map f) := by
  cases result with
  | ok value => exact explained_ok (f value)
  | error issues =>
      intro other hother
      rw [← Except.error.inj hother]
      exact h issues rfl

theorem ok_of_issue {result : Except Issue α} (h : issue result = []) :
    ∃ value, result = .ok value := by
  cases result with
  | ok value => exact ⟨value, rfl⟩
  | error one => cases h

theorem ok_of_planIssues {result : Except Issues α} (hexplained : Explained result)
    (h : planIssues result = []) : ∃ value, result = .ok value := by
  cases result with
  | ok value => exact ⟨value, rfl⟩
  | error issues => exact absurd h (hexplained issues rfl)

theorem explained_error {issues : Issues} (h : issues ≠ []) :
    Explained (.error issues : Except Issues α) := by
  intro other hother
  rw [← Except.error.inj hother]
  exact h

end Issues

section Arguments

variable (pydantic : Pydantic) (loc : List String) (entries : Json.Dict)

theorem validateMetric_explained : Explained (validateMetric pydantic loc entries) := by
  simp only [validateMetric]
  split
  · exact explained_ok _
  · rename_i hbad
    refine explained_error fun hnil => ?_
    simp only [List.append_eq_nil_iff] at hnil
    obtain ⟨⟨⟨⟨htemplate, hservice⟩, hstart⟩, hstop⟩, hextras⟩ := hnil
    obtain ⟨template, htemplate⟩ := ok_of_issue htemplate
    obtain ⟨service, hservice⟩ := ok_of_issue hservice
    obtain ⟨start, hstart⟩ := ok_of_issue hstart
    obtain ⟨stop, hstop⟩ := ok_of_issue hstop
    exact hbad _ _ _ _ htemplate hservice hstart hstop hextras

theorem validateLogs_explained : Explained (validateLogs pydantic loc entries) := by
  simp only [validateLogs]
  split
  · exact explained_ok _
  · rename_i hbad
    refine explained_error fun hnil => ?_
    simp only [List.append_eq_nil_iff] at hnil
    obtain ⟨⟨⟨⟨⟨hfilter, hservice⟩, hstart⟩, hstop⟩, hlimit⟩, hextras⟩ := hnil
    obtain ⟨logFilter, hfilter⟩ := ok_of_issue hfilter
    obtain ⟨service, hservice⟩ := ok_of_issue hservice
    obtain ⟨start, hstart⟩ := ok_of_issue hstart
    obtain ⟨stop, hstop⟩ := ok_of_issue hstop
    obtain ⟨limit, hlimit⟩ := ok_of_issue hlimit
    exact hbad _ _ _ _ _ hfilter hservice hstart hstop hlimit hextras

theorem validateChanges_explained : Explained (validateChanges pydantic loc entries) := by
  simp only [validateChanges]
  split
  · exact explained_ok _
  · rename_i hbad
    refine explained_error fun hnil => ?_
    simp only [List.append_eq_nil_iff] at hnil
    obtain ⟨⟨⟨hservice, hstart⟩, hstop⟩, hextras⟩ := hnil
    obtain ⟨service, hservice⟩ := ok_of_issue hservice
    obtain ⟨start, hstart⟩ := ok_of_issue hstart
    obtain ⟨stop, hstop⟩ := ok_of_issue hstop
    exact hbad _ _ _ hservice hstart hstop hextras

theorem validateTopology_explained : Explained (validateTopology loc entries) := by
  simp only [validateTopology]
  split
  · exact explained_ok _
  · rename_i hbad
    refine explained_error fun hnil => ?_
    obtain ⟨hid, hextras⟩ := List.append_eq_nil_iff.1 hnil
    obtain ⟨incidentId, hid⟩ := ok_of_issue hid
    exact hbad _ hid hextras

theorem validateSearch_explained : Explained (validateSearch pydantic loc entries) := by
  simp only [validateSearch]
  split
  · exact explained_ok _
  · rename_i hbad
    refine explained_error fun hnil => ?_
    simp only [List.append_eq_nil_iff] at hnil
    obtain ⟨⟨htopic, hlimit⟩, hextras⟩ := hnil
    obtain ⟨topic, htopic⟩ := ok_of_issue htopic
    obtain ⟨limit, hlimit⟩ := ok_of_issue hlimit
    exact hbad _ _ htopic hlimit hextras

theorem validateArguments_explained : Explained (validateArguments pydantic loc entries) := by
  unfold validateArguments
  split
  · split
    · exact (validateMetric_explained pydantic _ entries).map _
    · exact (validateLogs_explained pydantic _ entries).map _
    · exact (validateChanges_explained pydantic _ entries).map _
    · exact (validateTopology_explained _ entries).map _
    · exact (validateSearch_explained pydantic _ entries).map _
    · exact explained_cons _ _
  · exact explained_cons _ _
  · exact explained_cons _ _

theorem validateProposal_explained : Explained (validateProposal pydantic loc entries) := by
  simp only [validateProposal]
  split
  · exact explained_ok _
  · rename_i issues hissues
    refine explained_error fun hnil => ?_
    simp only [List.append_eq_nil_iff] at hnil
    split at hissues
    · exact validateArguments_explained pydantic _ _ issues hissues hnil.1.1
    · exact explained_cons _ _ issues hissues hnil.1.1
    · exact explained_cons _ _ issues hissues hnil.1.1
  · rename_i arguments _ hbad
    refine explained_error fun hnil => ?_
    obtain ⟨hgap, hobservation⟩ := List.append_eq_nil_iff.1 hnil
    obtain ⟨gapText, hgap⟩ := ok_of_issue hgap
    obtain ⟨observationText, hobservation⟩ := ok_of_issue hobservation
    exact hbad _ _ hgap hobservation

end Arguments

section Plans

variable {pydantic : Pydantic} (hpydantic : pydantic.Explains)

theorem readProposal_explained (entries : Json.Dict) : Explained (readProposal pydantic entries) := by
  unfold readProposal
  split
  · exact explained_ok _
  · exact explained_ok _
  · exact (validateProposal_explained pydantic _ _).map _
  · exact explained_cons _ _

theorem readStopReason_explained (entries : Json.Dict) : Explained (readStopReason entries) := by
  unfold readStopReason
  split
  · exact explained_ok _
  · exact explained_ok _
  · split
    · split
      · exact explained_ok _
      · exact explained_cons _ _
    · exact explained_cons _ _
  · exact explained_cons _ _

include hpydantic

theorem validatePlan_explained (content : Json.Dict) : Explained (validatePlan pydantic content) := by
  unfold validatePlan
  split
  · split
    · exact explained_ok _
    · exact explained_cons _ _
  · rename_i hbad
    refine explained_error fun hnil => ?_
    simp only [List.append_eq_nil_iff] at hnil
    obtain ⟨⟨hhypotheses, hproposal⟩, hreason⟩ := hnil
    obtain ⟨hypotheses, hhypotheses⟩ := ok_of_planIssues (hpydantic.hypotheses _) hhypotheses
    obtain ⟨proposal, hproposal⟩ := ok_of_planIssues (readProposal_explained _) hproposal
    obtain ⟨reason, hreason⟩ := ok_of_planIssues (readStopReason_explained _) hreason
    exact hbad _ _ _ hhypotheses hproposal hreason

theorem validateStop_explained (entries : Json.Dict) : Explained (validateStop pydantic entries) := by
  simp only [validateStop]
  split
  · exact explained_ok _
  · exact explained_cons _ _
  · rename_i hbare hgood
    refine explained_error fun hnil => ?_
    simp only [List.append_eq_nil_iff] at hnil
    obtain ⟨⟨hhypotheses, hreason⟩, hextras⟩ := hnil
    obtain ⟨hypotheses, hhypotheses⟩ := ok_of_planIssues (hpydantic.hypotheses _) hhypotheses
    obtain ⟨⟨reason, hbound⟩, hreason⟩ := ok_of_planIssues (readStopReason_explained _) hreason
    cases reason with
    | none => exact hbare _ hbound hhypotheses hreason
    | some reason => exact hgood _ _ hbound hhypotheses hreason hextras

end Plans

section Texts

theorem left_ne_empty {a : String} (b : String) (h : a ≠ "") : a ++ b ≠ "" := by
  intro heq
  exact h (String.append_eq_empty_iff.1 heq).1

theorem right_ne_empty (a : String) {b : String} (h : b ≠ "") : a ++ b ≠ "" := by
  intro heq
  exact h (String.append_eq_empty_iff.1 heq).2

theorem joinStrings_ne_empty {separator first : String} {rest : List String} (h : first ≠ "") :
    joinStrings separator (first :: rest) ≠ "" := by
  intro heq
  have hlist := congrArg String.toList heq
  have hfirst : first.toList ≠ [] := fun hnil => h (String.toList_inj.1 hnil)
  cases rest with
  | nil => simp [joinStrings, Text.join, hfirst] at hlist
  | cons second rest => simp [joinStrings, Text.join, hfirst] at hlist

theorem summarizeErrors_ne_empty {issues : Issues} (h : issues ≠ []) :
    summarizeErrors issues ≠ "" := by
  cases issues with
  | nil => exact absurd rfl h
  | cons first rest =>
      rw [summarizeErrors, List.take_succ_cons, List.map_cons]
      exact joinStrings_ne_empty (left_ne_empty _ (right_ne_empty _ (by decide)))

theorem finishProposal_told {arguments : ToolArguments} {gap observation text : String}
    (h : finishProposal arguments gap observation = .error text) : text ≠ "" := by
  unfold finishProposal at h
  split at h
  · split at h
    · cases h
    · rw [← Except.error.inj h]
      exact summarizeErrors_ne_empty (List.cons_ne_nil _ _)
  · split at h
    · rw [← Except.error.inj h]
      exact summarizeErrors_ne_empty (List.cons_ne_nil _ _)
    · rw [← Except.error.inj h]
      exact summarizeErrors_ne_empty (List.cons_ne_nil _ _)

theorem finish_told {pydantic : Pydantic} {call : NativeToolCall} {name : ToolName} {text : String}
    (h : parseToolCall.finish pydantic call name = .error text) : text ≠ "" := by
  simp only [parseToolCall.finish] at h
  split at h
  · rename_i issues hissues
    rw [← Except.error.inj h]
    exact summarizeErrors_ne_empty (validateArguments_explained pydantic _ _ issues hissues)
  · split at h
    · exact finishProposal_told h
    · rw [← Except.error.inj h]
      decide

theorem parseToolCall_told {pydantic : Pydantic} {call : NativeToolCall} {text : String}
    (h : parseToolCall pydantic call = .error text) : text ≠ "" := by
  unfold parseToolCall at h
  split at h
  · rw [← Except.error.inj h]
    exact left_ne_empty _ (by decide)
  · split at h
    · split at h
      · rw [← Except.error.inj h]
        exact left_ne_empty _ (left_ne_empty _ (left_ne_empty _ (by decide)))
      · exact finish_told h
    · rw [← Except.error.inj h]
      decide
    · exact finish_told h

end Texts

section Adapters

variable {pydantic : Pydantic}

def ProposedTurn.Told (turn : ProposedTurn) : Prop := turn.parsed = none → turn.errors ≠ ""

theorem refusedTurn_told {errors : String} {usage : ModelUsage} (h : errors ≠ "") :
    (refusedTurn errors usage).Told := fun _ => h

theorem finishedTurn_told {result : Except Issues Plan} (h : Explained result)
    (calls : List NativeToolCall) (usage : ModelUsage) : (finishedTurn result calls usage).Told := by
  cases result with
  | ok plan => exact nofun
  | error issues => exact fun _ => summarizeErrors_ne_empty (h issues rfl)

theorem replayTurn_told (hpydantic : pydantic.Explains) (response : ModelResponse)
    (callId : String) : (replayTurn pydantic response callId).Told := by
  unfold replayTurn
  split
  · rename_i issues hissues
    exact fun _ => summarizeErrors_ne_empty (validatePlan_explained hpydantic _ issues hissues)
  · split
    · exact nofun
    · exact nofun

theorem liveTurn_told (hpydantic : pydantic.Explains) (message : ProviderMessage) :
    (liveTurn pydantic message).Told := by
  unfold liveTurn
  split
  · exact refusedTurn_told (by decide)
  split
  · exact refusedTurn_told (left_ne_empty _ (by decide))
  split
  · split
    · split
      · rename_i issues hissues
        exact refusedTurn_told
          (summarizeErrors_ne_empty (validateStop_explained hpydantic _ issues hissues))
      · exact finishedTurn_told (validatePlan_explained hpydantic _) _ _
    split
    · exact refusedTurn_told (left_ne_empty _ (by decide))
    split
    · rename_i reason hreason
      exact refusedTurn_told (parseToolCall_told hreason)
    split
    · rename_i issues hissues
      exact refusedTurn_told (summarizeErrors_ne_empty (hpydantic.hypotheses _ issues hissues))
    · exact finishedTurn_told (validatePlan_explained hpydantic _) _ _
  · exact refusedTurn_told (left_ne_empty _ (left_ne_empty _ (by decide)))

theorem readTurn_told {turn : ProposedTurn} (hturn : turn.Told) {text : String}
    (h : readTurn pydantic turn = .error text) : text ≠ "" := by
  unfold readTurn at h
  split at h
  · rename_i hnone
    rw [← Except.error.inj h]
    exact hturn hnone
  · split at h
    · cases h
    split at h
    · rw [← Except.error.inj h]
      exact left_ne_empty _ (left_ne_empty _ (by decide))
    · split at h
      · rename_i reason hreason
        rw [← Except.error.inj h]
        exact parseToolCall_told hreason
      · cases h

end Adapters

end CausalOps.Investigation
