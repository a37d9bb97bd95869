import CausalOps.ControlPlane.Mirror.Claims

set_option autoImplicit false

/-! The Firestore control plane against the SQLite control plane, over whole runs of calls
that are issued one after another. -/

namespace CausalOps.ControlPlane.Mirror

open Firestore (StreamOrder writtenOrder)
open Sqlite (Keys Orderly settled)

section Step

variable {s : Settings} {streams : StreamOrder}

structure Related (s : Settings) (store : Sqlite.Store) (fs : Firestore.Database) : Prop where
  keys : Keys store.control
  orderly : Orderly s store.control
  fenced : Sqlite.Fenced store.control
  linked : Sqlite.Linked store.ledger store.control
  coupled : Coupled store.control fs

theorem related_empty : Related s .empty .empty :=
  ⟨Sqlite.keys_empty, Sqlite.orderly_empty, Sqlite.fenced_empty, Sqlite.linked_empty,
    coupled_empty⟩

/-- The calls on which the control planes agree: ids are fresh; `claim_next` finds no job
paused that has a decision; and `claim_delivery` finds the deliveries finalized in the
order in which their jobs were created. -/
def Agreeable (store : Sqlite.Store) (input : Ambient × Call) : Prop :=
  match input.2 with
  | .create _ _ _ => store.control.job input.1.fresh.hex = none
  | .claimNext => Sqlite.NoneDecided store.control
  | .claimDelivery => InOrder input.1.now store.control
  | _ => True

instance : ∀ store input, Decidable (Agreeable store input)
  | _, (_, .create ..) => inferInstanceAs (Decidable (_ = none))
  | store, (_, .claimNext) => inferInstanceAs (Decidable (Sqlite.NoneDecided store.control))
  | store, (a, .claimDelivery) => inferInstanceAs (Decidable (InOrder a.now store.control))
  | _, (_, .status ..) => isTrue trivial
  | _, (_, .events ..) => isTrue trivial
  | _, (_, .decide ..) => isTrue trivial
  | _, (_, .report ..) => isTrue trivial
  | _, (_, .renewRunning ..) => isTrue trivial
  | _, (_, .reserveIncident ..) => isTrue trivial
  | _, (_, .scenarioStatus ..) => isTrue trivial
  | _, (_, .incidentIdFor ..) => isTrue trivial
  | _, (_, .markPaused ..) => isTrue trivial
  | _, (_, .requeueRunning ..) => isTrue trivial
  | _, (_, .retryRunning ..) => isTrue trivial
  | _, (_, .finalize ..) => isTrue trivial
  | _, (_, .markDelivered ..) => isTrue trivial
  | _, (_, .renewDelivery ..) => isTrue trivial
  | _, (_, .releaseDelivery ..) => isTrue trivial
  | _, (_, .retryDelivery ..) => isTrue trivial

theorem answer_mirrors {store : Sqlite.Store} {fs : Firestore.Database}
    (h : Related s store fs) {a : Ambient} {call : Call} (hagree : Agreeable store (a, call)) :
    Mirrors streams fs store.control (Firestore.body s a call)
      (Sqlite.answer s a call store.control) := by
  obtain ⟨hkeys, horderly, hfenced, hlinked, hcoupled⟩ := h
  cases call with
  | create owner family key => exact create_mirrors horderly hcoupled hagree
  | status owner id => exact status_mirrors hkeys hcoupled
  | events owner id => exact events_mirrors hkeys horderly hcoupled
  | decide owner id d => exact decide_mirrors hkeys horderly hcoupled hlinked
  | report owner id => exact report_mirrors hkeys hcoupled
  | renewRunning id token => exact renewRunning_mirrors hkeys hcoupled
  | reserveIncident id token => exact reserveIncident_mirrors hkeys horderly hcoupled
  | scenarioStatus incident => exact scenarioStatus_mirrors hkeys horderly hcoupled
  | incidentIdFor id => exact incidentIdFor_mirrors hcoupled
  | claimNext => exact claimNext_mirrors hkeys horderly hfenced hcoupled hlinked
  | markPaused id checkpoint token => exact markPaused_mirrors hkeys horderly hcoupled
  | requeueRunning id token => exact requeueRunning_mirrors hkeys horderly hcoupled
  | retryRunning id token errorName => exact retryRunning_mirrors hkeys horderly hcoupled
  | finalize id artifact token => exact finalize_mirrors hkeys horderly hcoupled
  | claimDelivery => exact claimDelivery_mirrors hkeys horderly hcoupled hagree
  | markDelivered id token => exact markDelivered_mirrors hkeys horderly hcoupled
  | renewDelivery id token => exact renewDelivery_mirrors hkeys hcoupled
  | releaseDelivery id token => exact releaseDelivery_mirrors hkeys horderly hcoupled
  | retryDelivery id token errorName => exact retryDelivery_mirrors hkeys horderly hcoupled

theorem precheck_eq (call : Call) : Firestore.precheck call = Sqlite.precheck call := by
  cases call <;> rfl

/-- One call: the same answer or the same refusal, and related stores again. -/
theorem step_mirrors {store : Sqlite.Store} {fs : Firestore.Database}
    (h : Related s store fs) {input : Ambient × Call} (hagree : Agreeable store input) :
    (Sqlite.step s store input).1 = (Firestore.step s streams fs input).1 ∧
      Related s (Sqlite.step s store input).2 (Firestore.step s streams fs input).2 := by
  obtain ⟨a, call⟩ := input
  cases hcheck : Sqlite.precheck call with
  | error e =>
      have hcheck' : Firestore.precheck call = .error e := (precheck_eq call).trans hcheck
      simp only [Sqlite.step, Sqlite.method, hcheck, Firestore.step, Firestore.method, hcheck']
      exact ⟨rfl, h⟩
  | ok u =>
      have hcheck' : Firestore.precheck call = .ok u := (precheck_eq call).trans hcheck
      have hquiet : call = .claimNext → Sqlite.NoneDecided store.control := by
        rintro rfl
        exact hagree
      obtain ⟨hreply, hcontrol, hlinked⟩ :=
        @Sqlite.step_alone s store h.keys h.linked a call hcheck hquiet
      obtain ⟨fs', hrun, hcoupled⟩ := @answer_mirrors s streams store fs h a call hagree
      have hfs : Firestore.step s streams fs (a, call) =
          ((Sqlite.answer s a call store.control).map Prod.fst, fs') := by
        simp only [Firestore.step, Firestore.method, hcheck', hrun]
      have hmoves := (@Sqlite.step_moves s store h.keys (a, call)).1
      have horderly := (hmoves.preserve
        (fun _ _ hkeys horderly hmove => horderly.move hkeys hmove) h.keys h.orderly).2
      have hfenced := (hmoves.preserve
        (fun _ _ hkeys hfenced hmove => hfenced.move hkeys hmove) h.keys h.fenced).2
      rw [hfs]
      refine ⟨hreply, hmoves.keys h.keys, horderly, hfenced, hlinked, ?_⟩
      rw [hcontrol]
      exact hcoupled

end Step

section Run

/-- Runs in which every call is agreeable get the same answers from both control planes
and leave the same jobs, deliveries and timelines. -/
theorem mirrored_runs (s : Settings) (streams : StreamOrder) (inputs : List (Ambient × Call))
    (hinputs : Machine.Admits (Sqlite.step s) Agreeable Sqlite.Store.empty inputs) :
    let sqlite := Machine.run (Sqlite.step s) Sqlite.Store.empty inputs
    let firestore := Machine.run (Firestore.step s streams) Firestore.Database.empty inputs
    sqlite.1 = firestore.1 ∧
      sqlite.2.control.jobs.map (fun row => row.toJob) =
        firestore.2.jobs.map (fun doc => doc.toJob) ∧
      sqlite.2.control.deliveries.map (fun row => row.toDelivery) =
        firestore.2.deliveries.map (fun doc => doc.toDelivery) ∧
      ∀ id, sqlite.2.control.timeline id = firestore.2.timeline id := by
  intro sqlite firestore
  have hstep : ∀ store fs input, Related s store fs → Agreeable store input →
      (Sqlite.step s store input).1 = (Firestore.step s streams fs input).1 ∧
        Related s (Sqlite.step s store input).2 (Firestore.step s streams fs input).2 :=
    fun _ _ _ h hagree => step_mirrors h hagree
  obtain ⟨hanswers, hlast⟩ := Machine.run_simulation hstep inputs Sqlite.Store.empty
    Firestore.Database.empty related_empty hinputs
  refine ⟨hanswers, ?_, ?_, fun id => (hlast.coupled.timelines id).symm⟩
  · rw [hlast.coupled.jobs, List.map_map]
    rfl
  · rw [hlast.coupled.deliveries, List.map_map]
    rfl

end Run

section Samples

/-- An investigation that is paused, approved, finished and delivered. -/
def approved : List (Ambient × Call) :=
  [(ambient 0 jobA, .create "owner@example.com" .configurationChange "first"),
   (ambient 0 tokenC, .claimNext),
   (ambient 1 tokenC, .markPaused jobA.hex "checkpoint-1" tokenC.hex),
   (ambient 2 tokenC, .decide "owner@example.com" jobA.hex ⟨.accept, none, trivial⟩),
   (ambient 3 tokenD, .claimNext),
   (ambient 4 tokenD,
     .finalize jobA.hex "aaaaaaaaaaaaaaaaaaaaaaaaaaaaaaaa/report.md" tokenD.hex),
   (ambient 5 tokenE, .claimDelivery),
   (ambient 6 tokenE, .markDelivered jobA.hex tokenE.hex)]

theorem mirrored_runs_approved :
    Machine.Admits (Sqlite.step sampleSettings) Agreeable Sqlite.Store.empty approved ∧
      (Machine.run (Sqlite.step sampleSettings) Sqlite.Store.empty approved).1 =
        (Machine.run (Firestore.step sampleSettings writtenOrder) Firestore.Database.empty
          approved).1 := by
  have hadmits : Machine.Admits (Sqlite.step sampleSettings) Agreeable Sqlite.Store.empty
      approved := by
    decide +kernel
  exact ⟨hadmits, (mirrored_runs sampleSettings writtenOrder approved hadmits).1⟩

/-- The second job overtakes the first, which waits for its retry, and is finalized first. -/
def overtaken : List (Ambient × Call) :=
  [(ambient 0 jobA, .create "owner@example.com" .configurationChange "first"),
   (ambient 0 jobB, .create "owner@example.com" .configurationChange "second"),
   (ambient 0 tokenC, .claimNext),
   (ambient 0 tokenC, .retryRunning jobA.hex tokenC.hex "TimeoutError"),
   (ambient 0 tokenD, .claimNext),
   (ambient 0 tokenD,
     .finalize jobB.hex "bbbbbbbbbbbbbbbbbbbbbbbbbbbbbbbb/report.md" tokenD.hex),
   (ambient 1 tokenE, .claimNext),
   (ambient 1 tokenE,
     .finalize jobA.hex "aaaaaaaaaaaaaaaaaaaaaaaaaaaaaaaa/report.md" tokenE.hex),
   (ambient 1 tokenF, .claimDelivery)]

/-- The investigation whose report an answer hands out. -/
def handedOut : Except Refusal Reply → Option String
  | .ok (.delivery (some claim)) => some claim.investigationId
  | _ => none

/-- SQLite then delivers the first job, Firestore the second. -/
theorem overtaken_differs :
    let sqlite := (Machine.run (Sqlite.step sampleSettings) Sqlite.Store.empty overtaken).1
    let firestore := (Machine.run (Firestore.step sampleSettings writtenOrder)
      Firestore.Database.empty overtaken).1
    sqlite ≠ firestore ∧ sqlite.getLast?.bind handedOut = some jobA.hex ∧
      firestore.getLast?.bind handedOut = some jobB.hex := by
  decide +kernel

end Samples

end CausalOps.ControlPlane.Mirror
