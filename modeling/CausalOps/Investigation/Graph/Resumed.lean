import CausalOps.Investigation.Graph.Settled

set_option autoImplicit false

/-! Resuming a paused investigation: it stays paused through every malformed value, and
the first value that is accepted decides it, once. -/

namespace CausalOps.Investigation

open CausalOps.ControlPlane (Verdict RowPaired)

variable {setting : Setting} {state state' : GraphState} {thread next : Thread} {node : Node}
  {turn : Turn}

section Sending

/-- One resume value, and what the outside answers while the thread runs on it. -/
structure Send where
  value : Json
  turns : ℕ → Turn

def Uninterrupted (send : Send) : Prop := ∀ n, (send.turns n).fault = none

def Malformed (send : Send) : Prop := parseResumeDecision send.value = none

def sendAll (setting : Setting) (thread : Thread) (sends : List Send) : Thread :=
  sends.foldl (fun thread send => resumeInvocation setting thread send.value send.turns) thread

def isEscalationDecided (event : RunEvent) : Bool :=
  match event.detail with
  | .escalationDecided _ _ => true
  | _ => false

/-- A thread that is paused, with the state in which it paused before. -/
def StillPaused (before : GraphState) (thread : Thread) : Prop :=
  (∃ payload, thread.position = .paused payload) ∧ thread.state = before

/-- A thread that one decision has settled: with that decision and note, one more decided
event, and everything else as it was when it paused. -/
structure Decided (setting : Setting) (before : GraphState) (decision : Verdict)
    (note : Option String) (thread : Thread) : Prop where
  ended : thread.position = .ended
  decisionNow : thread.state.escalationDecision = some decision
  noteNow : thread.state.rejectionNote = note
  event : thread.state.events.countP isEscalationDecided =
    before.events.countP isEscalationDecided + 1
  assessment : thread.state.assessment = before.assessment
  evidence : thread.state.evidence = before.evidence
  receipts : thread.state.receipts = before.receipts
  settled : ∀ reading, ∃ result, settleInvocation setting thread reading = .ok (.finished result) ∧
    (result.report.escalation.map fun record => (record.decision, record.rejectionNote)) =
      some (decision, note) ∧
    result.report.assessment = before.assessment ∧
    (∀ record, record ∈ result.evidence ↔ record ∈ before.evidence) ∧
    result.receipts = before.receipts

/-- The report of a decision can be built: a note that fits its record, and a clock that is
not back before the start. -/
def Reportable (before : GraphState) (note : Option String) (reading : Time) : Prop :=
  (∀ text ∈ note, text.length ≤ 300) ∧ 0 ≤ latencyMs before.startedAt reading

end Sending

section Waiting

/-- A pause waits for its first decision, at an assessment that needs the owner. -/
structure Waiting (setting : Setting) (thread : Thread) : Prop where
  undecided : thread.resumes.findSome? parseResumeDecision = none
  escalation : ∃ reason remaining,
    escalationOf setting.budgets thread.state = .ok (some reason, remaining)

theorem waiting_of_paused {payload : InterruptPayload}
    (hleft : (perform setting node thread.state thread.resumes turn).left = .paused payload) :
    Waiting setting thread := by
  obtain rfl := node_of_paused hleft
  simp only [perform, escalationInterrupt] at hleft
  split at hleft
  · rename_i reason remaining store hescalation _
    split at hleft
    · cases hleft
    · rename_i hundecided
      exact ⟨hundecided, reason, remaining, hescalation⟩
  · cases hleft
  · cases hleft
  · cases hleft

theorem waiting_after (setting : Setting) (investigationId runId : String) (startedAt : Time)
    (acts : List Act) (payload : InterruptPayload)
    (hpaused : (after setting (Thread.start setting investigationId runId startedAt)
      acts).position = .paused payload) :
    Waiting setting (after setting (Thread.start setting investigationId runId startedAt) acts) := by
  revert payload
  refine @after_invariant setting (fun _ _ => True)
    (fun thread => ∀ payload, thread.position = .paused payload → Waiting setting thread)
    ?_ ?_ ?_ _ ?_ acts (admits_unconditional _ acts)
  · intro thread node turn next _ _ _ hsteps payload hposition
    cases hsteps with
    | raised escape hraises => cases hposition
    | paused payload hleft =>
        obtain ⟨hundecided, hescalation⟩ := waiting_of_paused hleft
        exact ⟨hundecided, hescalation⟩
    | ended state hleft hroute => cases hposition
    | moved state following hleft hroute => cases hposition
  · intro thread value payload _ _ other hposition
    cases hposition
  · intro thread node escape _ _ other hposition
    cases hposition
  · intro payload hposition
    cases hposition

end Waiting

section Steps

theorem range_steps (turns : ℕ → Turn) :
    (List.range graphRecursionLimit).map (fun n => Act.step (turns n)) =
      .step (turns 0) :: .step (turns 1) ::
        ((List.range 23).map fun n => turns (n + 2)).map .step := rfl

def awakened (thread : Thread) (value : Json) : Thread :=
  { thread with position := .running .escalationInterrupt, resumes := thread.resumes ++ [value] }

theorem resumeThread_paused {payload : InterruptPayload}
    (hpaused : thread.position = .paused payload) (value : Json) :
    resumeThread thread value = awakened thread value := by
  simp [resumeThread, hpaused, awakened]

theorem escalationInterrupt_waiting {reason : EscalationReason} {remaining : ℤ}
    (hsound : Sound setting state)
    (hescalation : escalationOf setting.budgets state = .ok (some reason, remaining))
    (resumes : List Json) :
    (escalationInterrupt setting state resumes).left =
      match resumes.findSome? parseResumeDecision with
      | some (decision, note) => .updated (decidedState state reason decision note)
      | none => .paused ⟨reason, (EvidenceStore.mk state.incidentId state.evidence).ordered.map
          Evidence.evidenceId, remaining, !resumes.isEmpty⟩ := by
  simp only [escalationInterrupt, hescalation, hsound.rebuildRecords]
  cases resumes.findSome? parseResumeDecision <;> rfl

theorem resume_malformed {payload : InterruptPayload} {send : Send}
    (hsound : Sound setting thread.state) (hwaiting : Waiting setting thread)
    (hpaused : thread.position = .paused payload) (hmalformed : Malformed send)
    (hfault : (send.turns 0).fault = none) :
    StillPaused thread.state (resumeInvocation setting thread send.value send.turns) ∧
      Waiting setting (resumeInvocation setting thread send.value send.turns) := by
  obtain ⟨reason, remaining, hescalation⟩ := hwaiting.escalation
  have hundecided : (thread.resumes ++ [send.value]).findSome? parseResumeDecision = none := by
    have hvalue : parseResumeDecision send.value = none := hmalformed
    simp [List.findSome?_append, hwaiting.undecided, hvalue]
  have hleft := escalationInterrupt_waiting hsound hescalation (thread.resumes ++ [send.value])
  rw [hundecided] at hleft
  obtain ⟨again, hposition, hstate, hresumes⟩ : ∃ again,
      (superstep setting (awakened thread send.value) (send.turns 0)).position = .paused again ∧
      (superstep setting (awakened thread send.value) (send.turns 0)).state = thread.state ∧
      (superstep setting (awakened thread send.value) (send.turns 0)).resumes =
        thread.resumes ++ [send.value] := by
    simp only [superstep, awakened, perform, hleft, land, hfault]
    exact ⟨_, rfl, trivial, trivial⟩
  have hinvoke : resumeInvocation setting thread send.value send.turns =
      superstep setting (awakened thread send.value) (send.turns 0) := by
    rw [resumeInvocation, resumeThread_paused hpaused, invoke, range_steps]
    refine after_still (fun node hrunning => ?_)
      (send.turns 1 :: (List.range 23).map fun n => send.turns (n + 2))
    rw [hposition] at hrunning
    cases hrunning
  rw [hinvoke]
  exact ⟨⟨⟨again, hposition⟩, hstate⟩, hresumes ▸ hundecided, reason, remaining,
    hstate ▸ hescalation⟩

end Steps

section Deciding

variable {decision : Verdict} {note : Option String} {reason : EscalationReason}

theorem paired_of_parsed {value : Json} (h : parseResumeDecision value = some (decision, note)) :
    RowPaired decision note := by
  unfold parseResumeDecision at h
  split at h
  · split at h
    · split at h
      · cases h
        trivial
      · cases h
    · split at h
      · split at h
        · cases h
        · rename_i text _ hstripped
          cases h
          simpa [RowPaired] using hstripped
      · cases h
    · cases h
  · cases h

theorem buildEscalation_decided (hpaired : RowPaired decision note) :
    ((∃ escalation, buildEscalation (decidedState state reason decision note) =
        .ok escalation) ↔ ∀ text ∈ note, text.length ≤ 300) ∧
      ∀ escalation, buildEscalation (decidedState state reason decision note) = .ok escalation →
        (escalation.map fun record => (record.decision, record.rejectionNote)) =
          some (decision, note) := by
  by_cases hlength : ∀ text ∈ note, text.length ≤ 300
  · have hbuilt : buildEscalation (decidedState state reason decision note) =
        .ok (some ⟨reason, decision, note, hlength, hpaired⟩) := dif_pos ⟨hlength, hpaired⟩
    refine ⟨⟨fun _ => hlength, fun _ => ⟨_, hbuilt⟩⟩, fun escalation h => ?_⟩
    rw [hbuilt] at h
    rw [← Except.ok.inj h]
    rfl
  · have hrefused : buildEscalation (decidedState state reason decision note) =
        .error (.raised "ValidationError") := dif_neg fun hchecks => hlength hchecks.1
    refine ⟨⟨?_, fun h => absurd h hlength⟩, fun escalation h => ?_⟩
    · rintro ⟨escalation, h⟩
      rw [hrefused] at h
      cases h
    · rw [hrefused] at h
      cases h

theorem endingOf_unforced (state : GraphState) :
    (endingOf state none).assessment = state.assessment := by
  simp only [endingOf, Option.isSome_none, Bool.false_eq_true, if_false]
  split
  · rename_i assessment hassessment
    rw [hassessment]
    split <;> rfl
  · rename_i hnone
    exact hnone.symm

theorem report_of_decided {finishedAt : Time} {report : InvestigationReport}
    (hpaired : RowPaired decision note)
    (h : buildReport setting.budgets (decidedState state reason decision note) finishedAt none =
      .ok report) :
    (report.escalation.map fun record => (record.decision, record.rejectionNote)) =
        some (decision, note) ∧ report.assessment = state.assessment := by
  obtain ⟨store, escalation, -, -, hescalation, hfinish⟩ := buildReport_ok h
  simp only [finishReport] at hfinish
  split at hfinish
  · rw [← Except.ok.inj hfinish]
    exact ⟨(buildEscalation_decided hpaired).2 _ hescalation, endingOf_unforced _⟩
  · cases hfinish

theorem events_decided (state : GraphState) (reason : EscalationReason) (decision : Verdict)
    (note : Option String) (report : InvestigationReport) :
    (reportedState (decidedState state reason decision note) report).events.countP
        isEscalationDecided = state.events.countP isEscalationDecided + 1 := by
  by_cases hresolved : unresolvedRunbookCitations state.assessment state.runbookPassages = []
  · simp [reportedState, decidedState, hresolved, recordEvent, List.countP_append,
      isEscalationDecided]
  · simp only [reportedState, decidedState, hresolved, if_false, recordEvents, List.foldl_cons,
      List.foldl_nil, recordEvent, List.countP_append]
    rfl

/-- An accepted value leads to the report, or to an exception of the report. -/
theorem resume_accepted {payload : InterruptPayload} {send : Send}
    (hsound : Sound setting thread.state) (hwaiting : Waiting setting thread)
    (hpaused : thread.position = .paused payload)
    (haccepted : parseResumeDecision send.value = some (decision, note))
    (hfault : Uninterrupted send) :
    Decided setting thread.state decision note
        (resumeInvocation setting thread send.value send.turns) ↔
      Reportable thread.state note (send.turns 1).reportReading := by
  obtain ⟨reason, remaining, hescalation⟩ := hwaiting.escalation
  have hpaired := paired_of_parsed haccepted
  have hfound : (thread.resumes ++ [send.value]).findSome? parseResumeDecision =
      some (decision, note) := by
    simp [List.findSome?_append, hwaiting.undecided, haccepted]
  have hleft := escalationInterrupt_waiting hsound hescalation (thread.resumes ++ [send.value])
  rw [hfound] at hleft
  -- the interrupted node runs again and decides
  obtain ⟨hposition, hstate⟩ :
      (superstep setting (awakened thread send.value) (send.turns 0)).position =
          .running .finalReport ∧
        (superstep setting (awakened thread send.value) (send.turns 0)).state =
          decidedState thread.state reason decision note := by
    simp only [superstep, awakened, perform, hleft, land, hfault 0, route]
    exact ⟨trivial, trivial⟩
  have hinvoke : resumeInvocation setting thread send.value send.turns =
      after setting (superstep setting (awakened thread send.value) (send.turns 0))
        ((send.turns 1 :: (List.range 23).map fun n => send.turns (n + 2)).map .step) := by
    rw [resumeInvocation, resumeThread_paused hpaused, invoke, range_steps]
    rfl
  generalize superstep setting (awakened thread send.value) (send.turns 0) = second
    at hposition hstate hinvoke
  have hreceipts : rebuildReceipts (decidedState thread.state reason decision note) =
      .ok (decidedState thread.state reason decision note).receipts := hsound.rebuildReceipts
  have hstore : rebuildRecords (decidedState thread.state reason decision note) =
      .ok ⟨thread.state.incidentId, thread.state.evidence⟩ := hsound.rebuildRecords
  have hisOk := buildReport_isOk setting.budgets (decidedState thread.state reason decision note)
    (send.turns 1).reportReading none hreceipts hstore
  rw [(buildEscalation_decided hpaired).1] at hisOk
  have hreportable : (∃ report, buildReport setting.budgets
      (decidedState thread.state reason decision note) (send.turns 1).reportReading none =
        .ok report) ↔ Reportable thread.state note (send.turns 1).reportReading :=
    hisOk.trans and_comm
  rw [← hreportable]
  -- then the report is built or refused
  cases hbuilt : buildReport setting.budgets (decidedState thread.state reason decision note)
      (send.turns 1).reportReading none with
  | error escape =>
      have hraised : (superstep setting second (send.turns 1)).position =
          .raised .finalReport escape := by
        simp only [superstep, hposition, hstate, perform, finalReport, hbuilt, escapedAtOnce, land]
      have hlast : resumeInvocation setting thread send.value send.turns =
          superstep setting second (send.turns 1) := by
        rw [hinvoke]
        refine after_still (fun node hrunning => ?_)
          ((List.range 23).map fun n => send.turns (n + 2))
        rw [hraised] at hrunning
        cases hrunning
      refine iff_of_false (fun hdecided => ?_) (by rintro ⟨report, h⟩; cases h)
      have hended := hdecided.ended
      rw [hlast, hraised] at hended
      cases hended
  | ok report =>
      obtain ⟨hended, hreported⟩ : (superstep setting second (send.turns 1)).position = .ended ∧
          (superstep setting second (send.turns 1)).state =
            reportedState (decidedState thread.state reason decision note) report := by
        simp only [superstep, hposition, hstate, perform, finalReport, hbuilt, land, hfault 1,
          route]
        exact ⟨trivial, trivial⟩
      have hlast : resumeInvocation setting thread send.value send.turns =
          superstep setting second (send.turns 1) := by
        rw [hinvoke]
        refine after_still (fun node hrunning => ?_)
          ((List.range 23).map fun n => send.turns (n + 2))
        rw [hended] at hrunning
        cases hrunning
      obtain ⟨hescalationNow, hassessment⟩ := report_of_decided hpaired hbuilt
      have hsound' : Sound setting
          (reportedState (decidedState thread.state reason decision note) report) :=
        hsound.keeps ⟨rfl, rfl, rfl, rfl, rfl, rfl, rfl⟩ hsound.cited
      refine iff_of_true ?_ ⟨report, rfl⟩
      rw [hlast]
      refine ⟨hended, by rw [hreported]; rfl, by rw [hreported]; rfl, ?_, by rw [hreported]; rfl,
        by rw [hreported]; rfl, by rw [hreported]; rfl, fun reading => ?_⟩
      · rw [hreported]
        exact events_decided _ _ _ _ _
      · have hfinished : finishedResult
            (reportedState (decidedState thread.state reason decision note) report) report = _ :=
          finishedResult_ok hsound'
        refine ⟨⟨report, (EvidenceStore.mk thread.state.incidentId thread.state.evidence).ordered,
          thread.state.receipts⟩, ?_, hescalationNow, hassessment,
          fun record => EvidenceStore.mem_ordered, rfl⟩
        simp only [settleInvocation, hended, hreported]
        exact hfinished

theorem sendAll_ended (hended : thread.position = .ended) (sends : List Send) :
    sendAll setting thread sends = thread := by
  induction sends with
  | nil => rfl
  | cons send rest ih =>
      have hstill : resumeInvocation setting thread send.value send.turns = thread := by
        have hresume : resumeThread thread send.value = thread := by
          simp [resumeThread, hended]
        rw [resumeInvocation, hresume, invoke, range_steps]
        refine after_still (fun node hrunning => ?_)
          (send.turns 0 :: send.turns 1 :: (List.range 23).map fun n => send.turns (n + 2))
        rw [hended] at hrunning
        cases hrunning
      change sendAll setting (resumeInvocation setting thread send.value send.turns) rest = thread
      rw [hstill]
      exact ih

theorem sendAll_malformed {payload : InterruptPayload} {asked : List Send}
    (hsound : Sound setting thread.state) (hwaiting : Waiting setting thread)
    (hpaused : thread.position = .paused payload)
    (hasked : ∀ send ∈ asked, Malformed send ∧ Uninterrupted send) :
    StillPaused thread.state (sendAll setting thread asked) ∧
      Waiting setting (sendAll setting thread asked) := by
  induction asked generalizing thread payload with
  | nil => exact ⟨⟨⟨payload, hpaused⟩, rfl⟩, hwaiting⟩
  | cons send rest ih =>
      obtain ⟨hmalformed, hfault⟩ := hasked send List.mem_cons_self
      obtain ⟨⟨⟨again, hposition⟩, hstate⟩, hwaiting'⟩ :=
        resume_malformed hsound hwaiting hpaused hmalformed (hfault 0)
      have hrest := ih (by rw [hstate]; exact hsound) hwaiting' hposition
        fun other hother => hasked other (List.mem_cons_of_mem send hother)
      rw [hstate] at hrest
      exact hrest

/-- A paused thread stays paused through every malformed value. The first accepted value
settles it, with exactly that decision and note, if and only if the report of the decision
can be built; what is sent afterwards changes nothing. -/
theorem resume_robustness (setting : Setting) (hdistinct : DistinctRecords setting)
    (investigationId runId : String) (startedAt : Time) (acts : List Act)
    (hfresh : Machine.Admits (act setting) (Meets Fresh)
      (Thread.start setting investigationId runId startedAt) acts)
    (payload : InterruptPayload)
    (hpaused : (after setting (Thread.start setting investigationId runId startedAt)
      acts).position = .paused payload)
    (asked : List Send) (hasked : ∀ send ∈ asked, Malformed send ∧ Uninterrupted send) :
    let paused := after setting (Thread.start setting investigationId runId startedAt) acts
    StillPaused paused.state (sendAll setting paused asked) ∧
      ∀ (send : Send) (later : List Send) (decision : Verdict) (note : Option String),
        parseResumeDecision send.value = some (decision, note) → Uninterrupted send →
          (Decided setting paused.state decision note (sendAll setting paused (asked ++ [send])) ↔
              Reportable paused.state note (send.turns 1).reportReading) ∧
            (Reportable paused.state note (send.turns 1).reportReading →
              Decided setting paused.state decision note
                (sendAll setting paused (asked ++ send :: later))) := by
  intro paused
  have hsound : Sound setting paused.state :=
    sound_after hdistinct investigationId runId startedAt acts hfresh
  have hwaiting : Waiting setting paused :=
    waiting_after setting investigationId runId startedAt acts payload hpaused
  obtain ⟨hstill, hwaiting'⟩ := sendAll_malformed hsound hwaiting hpaused hasked
  refine ⟨hstill, fun send later decision note haccepted hfault => ?_⟩
  obtain ⟨⟨again, hposition⟩, hstate⟩ := hstill
  have hdecided := resume_accepted (by rw [hstate]; exact hsound) hwaiting' hposition haccepted
    hfault
  rw [hstate] at hdecided
  have hone : sendAll setting paused (asked ++ [send]) =
      resumeInvocation setting (sendAll setting paused asked) send.value send.turns := by
    simp [sendAll]
  have hall : sendAll setting paused (asked ++ send :: later) =
      sendAll setting (sendAll setting paused (asked ++ [send])) later := by
    simp [sendAll]
  rw [hall, hone]
  refine ⟨hdecided, fun hreportable => ?_⟩
  have hsettled := hdecided.2 hreportable
  rw [sendAll_ended hsettled.ended]
  exact hsettled

/-- The lab's investigation, paused at an abstention with two checks left. -/
def labPaused : Thread :=
  after labSetting labStart (List.replicate 3 (.step (answeringTurn abstaining)))

def rejecting (length : ℕ) : Send where
  value := .obj [("decision", .str "reject"),
    ("rejection_note", .str (String.ofList (List.replicate length 'x')))]
  turns := fun _ => answeringTurn abstaining

theorem strip_note (length : ℕ) :
    Text.strip (String.ofList (List.replicate length 'x')) =
      String.ofList (List.replicate length 'x') := by
  have hkept : ∀ n, (List.replicate n 'x').dropWhile Text.isSpace = List.replicate n 'x' := by
    intro n
    cases n <;> rfl
  simp only [Text.strip, Text.stripChars, String.toList_ofList, hkept, List.rdropWhile,
    List.reverse_replicate]

theorem parse_rejecting (length : ℕ) :
    parseResumeDecision (rejecting (length + 1)).value =
      some (.reject, some (String.ofList (List.replicate (length + 1) 'x'))) := by
  have hne : ¬ String.ofList (List.replicate (length + 1) 'x') = "" := by
    intro h
    have hlist := congrArg String.toList h
    simp [List.replicate_succ] at hlist
  have hget : Json.get [("decision", Json.str "reject"),
      ("rejection_note", Json.str (String.ofList (List.replicate (length + 1) 'x')))]
        "rejection_note" = some (.str (String.ofList (List.replicate (length + 1) 'x'))) := by
    simp [Json.get]
  have hdecision : Json.get [("decision", Json.str "reject"),
      ("rejection_note", Json.str (String.ofList (List.replicate (length + 1) 'x')))]
        "decision" = some (.str "reject") := by
    simp [Json.get]
  simp only [parseResumeDecision, rejecting, hdecision, hget, noteOf, strip_note, if_neg hne]

/-- A short note is recorded, after a bare string was not. -/
theorem resume_robustness_rejected :
    Decided labSetting labPaused.state .reject (some (String.ofList (List.replicate 3 'x')))
      (sendAll labSetting labPaused
        [⟨.str "reject", fun _ => answeringTurn abstaining⟩, rejecting 3]) := by
  have hasked : ∀ send ∈ [Send.mk (.str "reject") fun _ => answeringTurn abstaining],
      Malformed send ∧ Uninterrupted send := by
    intro send hsend
    obtain rfl := List.mem_singleton.1 hsend
    exact ⟨rfl, fun _ => rfl⟩
  exact ((resume_robustness labSetting labSetting_distinct "investigation" "run" 0
    (List.replicate 3 (.step (answeringTurn abstaining))) (by decide +kernel) _ rfl _
    hasked).2 (rejecting 3) [] .reject _ (parse_rejecting 2) fun _ => rfl).1.2
      ⟨fun text htext => by cases htext; decide, by decide +kernel⟩

/-- A note of 301 characters is accepted as a decision, and then the report refuses it. -/
theorem resume_robustness_long_note :
    parseResumeDecision (rejecting 301).value =
        some (.reject, some (String.ofList (List.replicate 301 'x'))) ∧
      ¬ Decided labSetting labPaused.state .reject
        (some (String.ofList (List.replicate 301 'x')))
        (sendAll labSetting labPaused [rejecting 301]) := by
  refine ⟨parse_rejecting 300, fun hdecided => ?_⟩
  have hsound : Sound labSetting labPaused.state :=
    sound_after labSetting_distinct "investigation" "run" 0 _ (by decide +kernel)
  have hwaiting : Waiting labSetting labPaused :=
    waiting_after labSetting "investigation" "run" 0 _ _ rfl
  have haccepted := resume_accepted hsound hwaiting rfl (parse_rejecting 300) fun _ => rfl
  rw [sendAll, List.foldl_cons, List.foldl_nil] at hdecided
  obtain ⟨hlength, -⟩ := haccepted.1 hdecided
  have hbound := hlength (String.ofList (List.replicate 301 'x')) rfl
  rw [String.length_ofList, List.length_replicate] at hbound
  omega

end Deciding

end CausalOps.Investigation
