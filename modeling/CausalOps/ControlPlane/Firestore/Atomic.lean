import Mathlib.Data.List.Rotate
import CausalOps.ControlPlane.Firestore.Deliveries

set_option autoImplicit false

/-! Which calls of the Firestore control plane a crash between two commits can tear. -/

namespace CausalOps.ControlPlane.Firestore

section Methods

variable {s : Settings} {streams : StreamOrder} {fs : Database} {a : Ambient} {call : Call}

/-- `uuid4` gives a new investigation an id that no other has. -/
def Fresh (a : Ambient) (fs : Database) : Call → Prop
  | .create _ _ _ => fs.job a.fresh.hex = none
  | _ => True

/-- When a call writes a change and its event in one batch, or no change at all. -/
def Untorn (streams : StreamOrder) (a : Ambient) (fs : Database) : Call → Prop
  | .reserveIncident id token => NothingReserved a.now id token fs
  | .claimNext => NothingDue a.now fs
  | .requeueRunning id token => NoneHeld id token fs
  | .retryRunning id token _ => NoneHeld id token fs
  | .claimDelivery => NoneExpired a.now fs ∧ ChosenReported streams a.now fs
  | .markDelivered id token => NoneCurrent a.now id token fs
  | .releaseDelivery id token => NoneSent id token fs
  | .retryDelivery id token _ => NoneSent id token fs
  | _ => True

theorem course_method (hformed : WellFormed fs) (hfresh : Fresh a fs call) :
    Course s streams (method s a call) fs (Untorn streams a fs call) := by
  cases call with
  | create owner family key => exact course_create hformed hfresh
  | status owner id => exact course_status
  | events owner id => exact course_events
  | decide owner id d => exact course_decide hformed
  | report owner id => exact course_report
  | renewRunning id token => exact course_renewRunning hformed
  | reserveIncident id token => exact course_reserveIncident hformed
  | scenarioStatus incident => exact course_scenarioStatus
  | incidentIdFor id => exact course_incidentIdFor
  | claimNext => exact (course_claimNext hformed a).1
  | markPaused id checkpoint token =>
      simp only [method, precheck]
      split
      · exact .raise trivial _
      · rename_i hchecked
        split at hchecked
        · cases hchecked
        · rename_i hpresent
          exact course_markPaused hformed hpresent
  | requeueRunning id token => exact course_requeueRunning hformed
  | retryRunning id token errorName => exact course_retryRunning hformed
  | finalize id artifact token =>
      simp only [method, precheck]
      split
      · exact .raise trivial _
      · exact course_finalize hformed
  | claimDelivery => exact course_claimDelivery hformed a
  | markDelivered id token => exact course_markDelivered hformed
  | renewDelivery id token => exact course_renewDelivery hformed
  | releaseDelivery id token => exact course_releaseDelivery hformed
  | retryDelivery id token errorName => exact course_retryDelivery hformed

end Methods

section Runs

variable {s : Settings} {fs fs' : Database}

/-- The collections after some calls, each of which may have been cut short between two of
its operations. -/
inductive Reachable (s : Settings) : Database → Prop where
  | empty : Reachable s .empty
  | left {fs t : Database} {a : Ambient} {call : Call} (streams : StreamOrder)
      (hbefore : Reachable s fs) (hfresh : Fresh a fs call)
      (hleft : t ∈ (method s a call).states (exec streams) fs) : Reachable s t

inductive Served (s : Settings) (fs : Database) : Database → Prop where
  | start : Served s fs fs
  | call {fs' : Database} {a : Ambient} {call : Call} (streams : StreamOrder)
      (hbefore : Served s fs fs') (hfresh : Fresh a fs' call) :
      Served s fs (step s streams fs' (a, call)).2

theorem Chain.passed_formed {stages : List Stage} (h : Chain s fs stages)
    (hformed : WellFormed fs) {t : Database} (ht : t ∈ passed fs stages) : WellFormed t := by
  induction stages generalizing fs with
  | nil =>
      rw [List.mem_singleton.1 ht]
      exact hformed
  | cons stage rest ih =>
      rcases List.mem_cons.1 ht with rfl | ht
      · exact hformed
      · rcases List.mem_cons.1 ht with rfl | ht
        · exact h.1.formed
        · exact ih h.2 h.1.whole_formed ht

theorem Reachable.formed (h : Reachable s fs) : WellFormed fs := by
  induction h with
  | empty => exact wellFormed_empty
  | left streams hbefore hfresh hleft ih =>
      obtain ⟨stages, outcome, hchain, hperforms⟩ :=
        (@course_method s streams _ _ _ ih hfresh).performs
      exact hchain.passed_formed ih (hperforms.states _ hleft)

theorem Served.threads (h : Served s fs fs') (hformed : WellFormed fs) :
    WellFormed fs' ∧ ∀ id, Thread.Steps s (fs.thread id) (fs'.thread id) := by
  induction h with
  | start => exact ⟨hformed, fun _ => .refl⟩
  | call streams hbefore hfresh ih =>
      obtain ⟨stages, outcome, hchain, hperforms⟩ :=
        (@course_method s streams _ _ _ ih.1 hfresh).performs
      simp only [step, hperforms.run]
      exact ⟨hchain.formed ih.1, fun id => (ih.2 id).trans (hchain.thread id)⟩

end Runs

section Atomic

variable {s : Settings} {streams : StreamOrder} {fs t : Database} {a : Ambient} {call : Call}
  {stage : Stage}

/-- What a call cut short between two commits must leave, and what a refused call must. -/
structure Atomic (s : Settings) (a : Ambient) (call : Call) (fs : Database) : Prop where
  together : ∀ (streams : StreamOrder), ∀ t ∈ (method s a call).states (exec streams) fs,
    ∀ id, (fs.thread id).Together (t.thread id)
  refusal : ∀ (streams : StreamOrder) (e : Refusal), (step s streams fs (a, call)).1 = .error e →
    ∀ id, (step s streams fs (a, call)).2.job id = fs.job id ∧
      (step s streams fs (a, call)).2.delivery id = fs.delivery id

theorem Stage.Valid.together (h : stage.Valid s fs) (id : String) :
    (fs.thread id).Together ((stage.whole fs).thread id) := by
  rcases h.thread id with hsame | hstep
  · rw [hsame]
    exact .refl _
  · exact hstep.together

theorem Stage.Valid.half_torn (h : stage.Valid s fs) (hevent : stage.event ≠ none) :
    ¬ (fs.thread stage.id).Together ((stage.half fs).thread stage.id) := by
  intro htogether
  obtain ⟨o, ho⟩ := Option.ne_none_iff_exists'.1 hevent
  have hquiet : (fs.thread stage.id).Quiet ((stage.half fs).thread stage.id) :=
    htogether.1 (h.timeline stage.id)
  have hwhole := h.whole_thread stage.id
  rw [if_pos rfl] at hwhole
  have hsame : (fs.thread stage.id).Quiet ((stage.whole fs).thread stage.id) := by
    rw [hwhole]
    exact ⟨hquiet.job, hquiet.delivery⟩
  have htimeline : ((stage.whole fs).thread stage.id).timeline =
      (fs.thread stage.id).timeline := (h.together stage.id).2 hsame
  rw [hwhole, ho] at htimeline
  exact appended_ne _ o htimeline

theorem atomic_of_untorn (hformed : WellFormed fs) (hfresh : Fresh a fs call)
    (h : ∀ streams, Untorn streams a fs call) : Atomic s a call fs := by
  refine ⟨fun streams t ht id => ?_, fun streams e he id => ?_⟩
  · cases @course_method s streams fs a call hformed hfresh with
    | still huntorn hperforms =>
        rw [List.mem_singleton.1 (hperforms.states t ht)]
        exact .refl _
    | batch huntorn hvalid hperforms hstates =>
        rcases hstates t ht with rfl | rfl
        · exact .refl _
        · exact hvalid.together id
    | torn htorn => exact absurd (h streams) htorn
    | refused htorn => exact absurd (h streams) htorn
  · cases @course_method s streams fs a call hformed hfresh with
    | still huntorn hperforms =>
        have hrun : step s streams fs (a, call) = _ := hperforms.run
        rw [hrun]
        exact ⟨rfl, rfl⟩
    | batch huntorn hvalid hperforms hstates =>
        have hrun : step s streams fs (a, call) = _ := hperforms.run
        rw [hrun] at he
        cases he
    | torn htorn => exact absurd (h streams) htorn
    | refused htorn => exact absurd (h streams) htorn

theorem untorn_of_atomic (hformed : WellFormed fs) (hfresh : Fresh a fs call)
    (h : Atomic s a call fs) (streams : StreamOrder) : Untorn streams a fs call := by
  cases @course_method s streams fs a call hformed hfresh with
  | still huntorn => exact huntorn
  | batch huntorn => exact huntorn
  | @torn stage rest outcome htorn hchain hevent hperforms hhalf =>
      exact absurd (h.together streams _ hhalf stage.id) (hchain.1.half_torn hevent)
  | @refused stage e htorn hvalid hperforms hchanged =>
      have hrun : step s streams fs (a, call) = _ := hperforms.run
      have hkept := h.refusal streams e (by rw [hrun]) stage.id
      rw [hrun] at hkept
      exact absurd hkept.2 hchanged

end Atomic

section Order

variable {fs : Database} {now : Time}

/-- The stream that starts after the first `k` documents and comes back to them. -/
def turned (k : Nat) : StreamOrder := ⟨fun docs => docs.rotate k, fun docs => docs.rotate_perm k⟩

/-- A delivery that `claim_delivery` can choose: pending, due, and no other one is earlier. -/
structure First (now : Time) (fs : Database) (delivery : DeliveryDoc) : Prop where
  stored : delivery ∈ fs.deliveries
  pending : delivery.status = .pending
  due : dueDelivery now delivery = true
  least : ∀ other ∈ fs.deliveries, other.status = .pending → dueDelivery now other = true →
    deliveryOrder delivery ≤ deliveryOrder other

theorem mem_candidates {streams : StreamOrder} {delivery : DeliveryDoc} :
    delivery ∈ candidates streams now fs ↔
      (delivery ∈ fs.deliveries ∧ delivery.status = .pending) ∧
        dueDelivery now delivery = true := by
  simp [candidates, DeliveryQuery.selects]

theorem argmin_cons_of_le {delivery : DeliveryDoc} {docs : List DeliveryDoc}
    (h : ∀ other ∈ docs, deliveryOrder delivery ≤ deliveryOrder other) :
    (delivery :: docs).argmin deliveryOrder = some delivery := by
  rw [List.argmin_cons]
  cases hrest : docs.argmin deliveryOrder with
  | none => rfl
  | some other => exact if_neg (not_lt.2 (h other (List.argmin_mem hrest)))

/-- Each of them is chosen in some order of the stream, and no other one ever is. -/
theorem first_iff {delivery : DeliveryDoc} :
    First now fs delivery ↔
      ∃ streams, delivery ∈ (candidates streams now fs).argmin deliveryOrder := by
  constructor
  · intro h
    have hmem : delivery ∈ fs.deliveries.filter (DeliveryQuery.status .pending).selects :=
      List.mem_filter.2 ⟨h.stored, by simp [DeliveryQuery.selects, h.pending]⟩
    obtain ⟨before, after, hsplit⟩ := List.append_of_mem hmem
    have hfront : candidates (turned before.length) now fs =
        delivery :: (after ++ before).filter (dueDelivery now) := by
      simp only [candidates, turned, hsplit, List.rotate_append_length_eq, List.cons_append,
        List.filter_cons_of_pos h.due]
    refine ⟨turned before.length, ?_⟩
    rw [hfront, argmin_cons_of_le]
    · rfl
    · intro other hother
      have hcandidate : other ∈ candidates (turned before.length) now fs := by
        rw [hfront]
        exact List.mem_cons_of_mem _ hother
      obtain ⟨⟨hstored, hpending⟩, hdue⟩ := mem_candidates.1 hcandidate
      exact h.least other hstored hpending hdue
  · rintro ⟨streams, h⟩
    obtain ⟨⟨hstored, hpending⟩, hdue⟩ := mem_candidates.1 (List.argmin_mem h)
    exact ⟨hstored, hpending, hdue, fun other hother hwaits hready =>
      List.le_of_mem_argmin (mem_candidates.2 ⟨⟨hother, hwaits⟩, hready⟩) h⟩

/-- The first delivery has its report, or no job at all. -/
def FirstReported (now : Time) (fs : Database) : Prop :=
  ∀ delivery, First now fs delivery →
    ∀ job, fs.job delivery.jobId = some job → Reported job.toJob

theorem firstReported_iff : FirstReported now fs ↔ ∀ streams, ChosenReported streams now fs := by
  constructor
  · exact fun h streams delivery hdelivery => h delivery (first_iff.2 ⟨streams, hdelivery⟩)
  · intro h delivery hfirst
    obtain ⟨streams, hdelivery⟩ := first_iff.1 hfirst
    exact h streams delivery hdelivery

end Order

section Condition

variable {s : Settings} {fs : Database} {a : Ambient} {call : Call}

/-- When a call cannot be torn, in whatever order its queries are streamed. -/
def Unsplit (a : Ambient) (fs : Database) : Call → Prop
  | .claimDelivery => NoneExpired a.now fs ∧ FirstReported a.now fs
  | call => Untorn writtenOrder a fs call

theorem unsplit_iff : Unsplit a fs call ↔ ∀ streams, Untorn streams a fs call := by
  cases call with
  | claimDelivery =>
      simp only [Unsplit, Untorn, firstReported_iff, forall_and]
      exact ⟨fun h => ⟨fun _ => h.1, h.2⟩, fun h => ⟨h.1 writtenOrder, h.2⟩⟩
  | _ => exact ⟨fun h _ => h, fun h => h writtenOrder⟩

/-- A change and its event are stored together, and a refusal changes nothing, exactly when
the call writes them in one batch or has nothing to write. -/
theorem crash_atomic_iff (hformed : WellFormed fs) (hfresh : Fresh a fs call) :
    Atomic s a call fs ↔ Unsplit a fs call := by
  rw [unsplit_iff]
  exact ⟨fun h streams => untorn_of_atomic hformed hfresh h streams,
    fun h => atomic_of_untorn hformed hfresh h⟩

/-- Calls one after another, each new investigation under an id of its own. -/
theorem Served.run {streams : StreamOrder} {fs fs' : Database} (hserved : Served s fs fs')
    (inputs : List (Ambient × Call))
    (hfresh : Machine.Admits (step s streams) (fun fs input => Fresh input.1 fs input.2) fs'
      inputs) : Served s fs (Machine.run (step s streams) fs' inputs).2 := by
  induction inputs generalizing fs' with
  | nil => exact hserved
  | cons input rest ih => exact ih (.call streams hserved hfresh.1) hfresh.2

theorem Served.trans {fs fs' fs'' : Database} (h : Served s fs fs') (h' : Served s fs' fs'') :
    Served s fs fs'' := by
  induction h' with
  | start => exact h
  | call streams _ hfresh ih => exact .call streams ih hfresh

theorem Served.reachable {fs : Database} (hserved : Served s .empty fs) : Reachable s fs := by
  induction hserved with
  | start => exact .empty
  | call streams _ hfresh ih => exact .left streams ih hfresh (Program.mem_states_run _ _)

def oneQueued : Database :=
  (step sampleSettings writtenOrder .empty
    (ambient 0 jobA, .create "owner@example.com" .configurationChange "first")).2

theorem reachable_oneQueued : Reachable sampleSettings oneQueued := by
  have hfresh : Fresh (ambient 0 jobA) .empty
      (.create "owner@example.com" .configurationChange "first") := rfl
  exact .left writtenOrder .empty hfresh (Program.mem_states_run _ _)

theorem crash_atomic_iff_oneQueued :
    Atomic sampleSettings (ambient 0 tokenC) .claimNext oneQueued ↔
      NothingDue 0 oneQueued :=
  crash_atomic_iff reachable_oneQueued.formed trivial

/-- `claim_next`, cut short after its first commit, leaves a running job whose timeline says
that it is queued. -/
theorem claimNext_torn :
    Reachable sampleSettings oneQueued ∧
      ¬ Atomic sampleSettings (ambient 0 tokenC) .claimNext oneQueued := by
  refine ⟨reachable_oneQueued, fun h => ?_⟩
  have hstored : ∃ doc ∈ oneQueued.jobs, doc.status = .queued ∧ doc.failureReason = none ∧
      doc.availableAt = 0 ∧ doc.incidentId = none := by
    decide +kernel
  have hjobs : ∀ doc ∈ oneQueued.jobs, doc.status = .queued ∧ doc.incidentId = none := by
    decide +kernel
  obtain ⟨doc, hdoc, hqueued, hlive, havailable, -⟩ := hstored
  have hfresh : Fresh (ambient 0 tokenC) oneQueued .claimNext := trivial
  have huntorn : NothingDue 0 oneQueued :=
    untorn_of_atomic reachable_oneQueued.formed hfresh h writtenOrder
  rcases huntorn.2 with
    ⟨other, hother, hrunning⟩ | ⟨other, hother, hwaits, hdeferred⟩ | hnone
  · rw [(hjobs other hother).1] at hrunning
    cases hrunning
  · simp [deferredScenario, (hjobs other hother).2] at hdeferred
  · have hlater := hnone doc hdoc ⟨hqueued, hlive⟩
    rw [havailable] at hlater
    exact lt_irrefl _ hlater

end Condition

end CausalOps.ControlPlane.Firestore
