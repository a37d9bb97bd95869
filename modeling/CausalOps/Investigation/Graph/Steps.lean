import CausalOps.Investigation.Graph.Calls

set_option autoImplicit false

/-! Where one superstep of a thread leads, and the invariants of whole runs: over
supersteps, resumptions and recoveries in any order. -/

namespace CausalOps.Investigation

variable {setting : Setting} {thread : Thread} {node : Node} {turn : Turn}

/-- The entry that a superstep adds to the journal. -/
def entryOf (setting : Setting) (thread : Thread) (node : Node) (turn : Turn) : Entry :=
  let performed := perform setting node thread.state thread.resumes turn
  ⟨node, thread.state, turn, performed.requests, performed.called⟩

def journalOf (setting : Setting) (thread : Thread) (node : Node) (turn : Turn) : List Entry :=
  thread.journal ++ [entryOf setting thread node turn]

/-- Why a superstep raises: the node, the machinery around it, or its route. -/
inductive Raises (setting : Setting) (thread : Thread) (node : Node) (turn : Turn) :
    Escape → Prop
  | node (escape : Escape)
      (hleft : (perform setting node thread.state thread.resumes turn).left = .escaped escape) :
      Raises setting thread node turn escape
  | fault (name : String) (hfault : turn.fault = some name) :
      Raises setting thread node turn (.raised name)
  | route (state : GraphState) (escape : Escape)
      (hleft : (perform setting node thread.state thread.resumes turn).left = .updated state)
      (hroute : route setting node state turn.routeReading = .error escape) :
      Raises setting thread node turn escape

theorem dispatchedLeft_not_paused {state : GraphState} {proposal : ToolProposal}
    {outside : Outside} {dispatched : Dispatched} {payload : InterruptPayload} :
    dispatchedLeft state proposal outside dispatched ≠ .paused payload := by
  intro h
  simp only [dispatchedLeft] at h
  split at h
  · cases h
  · cases h
  · split at h <;> cases h

theorem assessed_not_paused {state : GraphState} {store : EvidenceStore}
    {asked : Asking × Except Escape (Option FinalAssessment)} {payload : InterruptPayload} :
    assessed state store asked ≠ .paused payload := by
  intro h
  simp only [assessed] at h
  split at h
  · split at h <;> cases h
  · split at h <;> cases h
  · cases h
  · cases h
  · cases h

theorem node_of_paused {state : GraphState} {resumes : List Json} {payload : InterruptPayload}
    (h : (perform setting node state resumes turn).left = .paused payload) :
    node = .escalationInterrupt := by
  cases node with
  | escalationInterrupt => rfl
  | investigate =>
      simp only [perform, investigate] at h
      split at h
      · simp only [investigated] at h
        split at h <;> cases h
      · cases h
      · cases h
  | finalAssessment =>
      simp only [perform, finalAssessment] at h
      split at h
      · exact absurd h assessed_not_paused
      · cases h
      · cases h
  | dispatchTool =>
      simp only [perform, dispatchTool] at h
      split at h
      · cases h
      split at h
      · cases h
      split at h
      · cases h
      split at h
      · cases h
      · exact absurd h dispatchedLeft_not_paused
  | normalizeEvidence => cases h
  | finalReport =>
      simp only [perform, finalReport] at h
      split at h <;> cases h

/-- Where a superstep at a node leads. Only a node that updated the state without a
fault, and whose route is defined, commits anything. -/
inductive Steps (setting : Setting) (thread : Thread) (node : Node) (turn : Turn) :
    Thread → Prop
  | raised (escape : Escape) (hraises : Raises setting thread node turn escape) :
      Steps setting thread node turn
        ⟨thread.state, .raised node escape, thread.resumes, journalOf setting thread node turn⟩
  | paused (payload : InterruptPayload)
      (hleft : (perform setting node thread.state thread.resumes turn).left = .paused payload) :
      Steps setting thread node turn
        ⟨thread.state, .paused payload, thread.resumes, journalOf setting thread node turn⟩
  | ended (state : GraphState)
      (hleft : (perform setting node thread.state thread.resumes turn).left = .updated state)
      (hroute : route setting node state turn.routeReading = .ok none) :
      Steps setting thread node turn
        ⟨state, .ended, thread.resumes, journalOf setting thread node turn⟩
  | moved (state : GraphState) (next : Node)
      (hleft : (perform setting node thread.state thread.resumes turn).left = .updated state)
      (hroute : route setting node state turn.routeReading = .ok (some next)) :
      Steps setting thread node turn
        ⟨state, .running next, thread.resumes, journalOf setting thread node turn⟩

theorem superstep_steps (hrunning : thread.position = .running node) (turn : Turn) :
    Steps setting thread node turn (superstep setting thread turn) := by
  unfold superstep
  rw [hrunning]
  dsimp only
  cases hleft : (perform setting node thread.state thread.resumes turn).left with
  | escaped escape => exact .raised escape (.node escape hleft)
  | paused payload =>
      simp only [land]
      cases hfault : turn.fault with
      | some name => exact .raised _ (.fault name hfault)
      | none => exact .paused payload hleft
  | updated state =>
      simp only [land]
      cases hfault : turn.fault with
      | some name => exact .raised _ (.fault name hfault)
      | none =>
          cases hroute : route setting node state turn.routeReading with
          | error escape => exact .raised escape (.route state escape hleft hroute)
          | ok next =>
              cases next with
              | none => exact .ended state hleft hroute
              | some next => exact .moved state next hleft hroute

theorem superstep_still (hstill : ∀ node, thread.position ≠ .running node) (turn : Turn) :
    superstep setting thread turn = thread := by
  unfold superstep
  split
  · rename_i node hrunning
    exact absurd hrunning (hstill node)
  · rfl

/-- What is asked of the acts of a run: a condition on each superstep that runs a node. -/
def Meets (condition : Thread → Turn → Prop) (thread : Thread) : Act → Prop
  | .step turn => (∃ node, thread.position = .running node) → condition thread turn
  | _ => True

/-- Whether the condition holds is looked up at the node where the thread stands. -/
instance (condition : Thread → Turn → Prop)
    [hdecide : ∀ thread turn, Decidable (condition thread turn)] (thread : Thread) :
    ∀ a : Act, Decidable (Meets condition thread a)
  | .step turn =>
      match hposition : thread.position with
      | .running node =>
          decidable_of_iff (condition thread turn) ⟨fun h _ => h, fun h => h ⟨node, hposition⟩⟩
      | .ended => isTrue fun ⟨_, h⟩ => by rw [hposition] at h; cases h
      | .paused _ => isTrue fun ⟨_, h⟩ => by rw [hposition] at h; cases h
      | .raised _ _ => isTrue fun ⟨_, h⟩ => by rw [hposition] at h; cases h
  | .resume _ => isTrue trivial
  | .recover => isTrue trivial

/-- An invariant of supersteps, resumptions and recoveries is one of every run. -/
theorem after_invariant {condition : Thread → Turn → Prop} {invariant : Thread → Prop}
    (hstep : ∀ thread node turn next, thread.position = .running node → invariant thread →
      condition thread turn → Steps setting thread node turn next → invariant next)
    (hresume : ∀ thread value payload, thread.position = .paused payload → invariant thread →
      invariant { thread with
        position := .running .escalationInterrupt, resumes := thread.resumes ++ [value] })
    (hrecover : ∀ thread node escape, thread.position = .raised node escape → invariant thread →
      invariant { thread with position := .running node })
    {thread : Thread} (hstart : invariant thread) (acts : List Act)
    (hmeets : Machine.Admits (act setting) (Meets condition) thread acts) :
    invariant (after setting thread acts) := by
  refine Machine.run_invariant ?_ acts thread hstart hmeets
  intro thread a hinvariant hcondition
  cases a with
  | step turn =>
      by_cases hrunning : ∃ node, thread.position = .running node
      · obtain ⟨node, hnode⟩ := hrunning
        exact hstep thread node turn _ hnode hinvariant (hcondition ⟨node, hnode⟩)
          (superstep_steps hnode turn)
      · have hstill : ∀ node, thread.position ≠ .running node :=
          fun node hnode => hrunning ⟨node, hnode⟩
        simp only [act, superstep_still hstill turn]
        exact hinvariant
  | resume value =>
      simp only [act, resumeThread]
      split
      · rename_i payload hpaused
        exact hresume thread value payload hpaused hinvariant
      · exact hinvariant
  | recover =>
      simp only [act, recoverThread]
      split
      · rename_i node escape hraised
        exact hrecover thread node escape hraised hinvariant
      · exact hinvariant

theorem steps_invariant {condition : Thread → Turn → Prop} {invariant : Thread → Prop}
    (hstep : ∀ thread node turn next, thread.position = .running node → invariant thread →
      condition thread turn → Steps setting thread node turn next → invariant next)
    {thread : Thread} (hstart : invariant thread) (turns : List Turn)
    (hmeets : Machine.Admits (act setting) (Meets condition) thread (turns.map .step)) :
    invariant (after setting thread (turns.map .step)) := by
  induction turns generalizing thread with
  | nil => exact hstart
  | cons turn rest ih =>
      obtain ⟨hfirst, hrest⟩ := hmeets
      refine ih ?_ hrest
      by_cases hrunning : ∃ node, thread.position = .running node
      · obtain ⟨node, hnode⟩ := hrunning
        exact hstep thread node turn _ hnode hstart (hfirst ⟨node, hnode⟩)
          (superstep_steps hnode turn)
      · have hstill : ∀ node, thread.position ≠ .running node :=
          fun node hnode => hrunning ⟨node, hnode⟩
        rw [superstep_still hstill turn]
        exact hstart

theorem after_still (hstill : ∀ node, thread.position ≠ .running node) (turns : List Turn) :
    after setting thread (turns.map .step) = thread := by
  induction turns with
  | nil => rfl
  | cons turn rest ih =>
      change after setting (superstep setting thread turn) (rest.map .step) = thread
      rw [superstep_still hstill turn, ih]

theorem length_of_running {turns : List Turn} {node : Node}
    (hrunning : (after setting thread (turns.map .step)).position = .running node) :
    (after setting thread (turns.map .step)).journal.length =
      thread.journal.length + turns.length := by
  induction turns generalizing thread with
  | nil => rfl
  | cons turn rest ih =>
      by_cases hstart : ∃ first, thread.position = .running first
      · obtain ⟨first, hfirst⟩ := hstart
        have hone : (superstep setting thread turn).journal.length = thread.journal.length + 1 := by
          have hsteps : Steps setting thread first turn (superstep setting thread turn) :=
            superstep_steps hfirst turn
          generalize superstep setting thread turn = next at hsteps
          cases hsteps <;> simp [journalOf]
        have hrest : (after setting (superstep setting thread turn)
            (rest.map .step)).journal.length =
              (superstep setting thread turn).journal.length + rest.length := ih hrunning
        rw [hone] at hrest
        rw [List.length_cons]
        exact hrest.trans (by omega)
      · have hstill : ∀ node, thread.position ≠ .running node :=
          fun node hnode => hstart ⟨node, hnode⟩
        rw [after_still hstill (turn :: rest)] at hrunning
        exact absurd hrunning (hstill node)

theorem admits_unconditional (thread : Thread) (acts : List Act) :
    Machine.Admits (act setting) (Meets fun _ _ => True) thread acts := by
  refine Machine.admits_of_forall acts thread ?_
  intro a _ thread
  cases a with
  | step turn => exact fun _ => trivial
  | resume value => trivial
  | recover => trivial

end CausalOps.Investigation
