import CausalOps.ControlPlane.Firestore.Claims

set_option autoImplicit false

/-! The stages of the outbox methods. -/

namespace CausalOps.ControlPlane.Firestore

section Sending

variable {s : Settings} {streams : StreamOrder} {fs : Database} {id token : String} {now : Time}

theorem deliveryOver_eq_false {data : DeliveryDoc} (h : deliveryOver now token data = false) :
    data.status = .sending ∧ data.claimToken = some token ∧
      unexpired now data.claimExpiresAt = true := by
  simp only [deliveryOver, Bool.or_eq_false_iff, decide_eq_false_iff_not, not_not] at h
  obtain ⟨⟨hsending, htoken⟩, hexpiry⟩ := h
  refine ⟨hsending, htoken, ?_⟩
  cases hend : data.claimExpiresAt with
  | none => simp [hend] at hexpiry
  | some expiresAt => simpa [hend, unexpired] using hexpiry

theorem deliveryLost_eq_false {data : DeliveryDoc} (h : deliveryLost token data = false) :
    data.status = .sending ∧ data.claimToken = some token := by
  simpa [deliveryLost] using h

def NoneSent (id token : String) (fs : Database) : Prop :=
  ∀ data, fs.delivery id = some data → deliveryLost token data = true

/-- No delivery is being sent under the token, or its lease has ended. -/
def NoneCurrent (now : Time) (id token : String) (fs : Database) : Prop :=
  ∀ data, fs.delivery id = some data → deliveryOver now token data = true

theorem course_markDelivered (hformed : WellFormed fs) :
    Course s streams (markDelivered now id token) fs (NoneCurrent now id token fs) := by
  unfold markDelivered
  refine .read exec_getDelivery ?_
  cases hdoc : fs.delivery id with
  | none => exact .raise (fun data h => by simp [hdoc] at h) _
  | some data =>
      dsimp only
      split
      · rename_i hover
        refine .raise (fun other h => ?_) _
        rw [← Option.some.inj (hdoc.symm.trans h)]
        exact hover
      · rename_i hover
        obtain ⟨hsending, -, hcurrent⟩ := deliveryOver_eq_false (by simpa using hover)
        exact .ofSplit (fun h => hover (h data hdoc))
          (deliveryStage hformed hdoc rfl (.delivered hsending hcurrent))

theorem course_renewDelivery (hformed : WellFormed fs) :
    Course s streams (renewDelivery s now id token) fs True := by
  unfold renewDelivery
  refine .read exec_getDelivery ?_
  cases hdoc : fs.delivery id with
  | none => exact .raise trivial _
  | some data =>
      dsimp only
      split
      · exact .raise trivial _
      · rename_i hover
        obtain ⟨hsending, -, hcurrent⟩ := deliveryOver_eq_false (by simpa using hover)
        exact .ofCommit trivial (deliveryStage hformed hdoc rfl (.renewed hsending hcurrent))

theorem course_releaseDelivery (hformed : WellFormed fs) :
    Course s streams (releaseDelivery id token) fs (NoneSent id token fs) := by
  unfold releaseDelivery
  refine .read exec_getDelivery ?_
  cases hdoc : fs.delivery id with
  | none => exact .raise (fun data h => by simp [hdoc] at h) _
  | some data =>
      dsimp only
      split
      · rename_i hlost
        refine .raise (fun other h => ?_) _
        rw [← Option.some.inj (hdoc.symm.trans h)]
        exact hlost
      · rename_i hlost
        obtain ⟨hsending, -⟩ := deliveryLost_eq_false (by simpa using hlost)
        exact .ofSplit (fun h => hlost (h data hdoc))
          (deliveryStage hformed hdoc rfl (.released hsending))

theorem course_retryDelivery (hformed : WellFormed fs) {errorName : String} :
    Course s streams (retryDelivery s now id token errorName) fs (NoneSent id token fs) := by
  unfold retryDelivery
  refine .read exec_getDelivery ?_
  cases hdoc : fs.delivery id with
  | none => exact .raise (fun data h => by simp [hdoc] at h) _
  | some data =>
      dsimp only
      split
      · rename_i hlost
        refine .raise (fun other h => ?_) _
        rw [← Option.some.inj (hdoc.symm.trans h)]
        exact hlost
      · rename_i hlost
        obtain ⟨hsending, -⟩ := deliveryLost_eq_false (by simpa using hlost)
        split
        · rename_i hlimit
          exact .ofSplit (fun h => hlost (h data hdoc))
            (deliveryStage hformed hdoc rfl (.retryFailed hsending hlimit))
        · rename_i hlimit
          exact .ofSplit (fun h => hlost (h data hdoc)) (deliveryStage hformed hdoc rfl
            (.retryScheduled hsending (not_le.1 hlimit)))

end Sending

section Reclaim

variable {s : Settings} {streams : StreamOrder} {fs : Database} {now : Time}

/-- A document of a delivery that is being sent, as it is stored. -/
def SendingDoc (fs : Database) (doc : DeliveryDoc) : Prop :=
  fs.delivery doc.jobId = some doc ∧ doc.status = .sending

theorem reclaimDelivery_turn (hformed : WellFormed fs) {doc : DeliveryDoc}
    (hdoc : SendingDoc fs doc) (hexpired : expired now doc.claimExpiresAt = true) :
    ∃ stage, Turn s streams (reclaimDelivery s now doc) (fun _ _ => True) fs stage ∧
      ∀ later, later.jobId ≠ doc.jobId → SendingDoc fs later →
        SendingDoc (stage.whole fs) later := by
  obtain ⟨hstored, hsending⟩ := hdoc
  have hothers : ∀ (doc' : DeliveryDoc) (o : Option Occurrence), doc'.jobId = doc.jobId →
      ∀ later : DeliveryDoc, later.jobId ≠ doc.jobId → SendingDoc fs later →
        SendingDoc (Stage.whole ⟨[.delivery doc'], doc.jobId, o⟩ fs) later := by
    rintro doc' o hid later hne ⟨hlater, hstatus⟩
    refine ⟨?_, hstatus⟩
    simp only [whole_delivery, Stage.half, List.foldl, write_delivery]
    rw [if_neg fun heq => hne (heq.symm.trans hid), hlater]
  simp only [reclaimDelivery, hexpired, Bool.not_true, Bool.false_eq_true, if_false]
  split
  · rename_i hlimit
    exact ⟨_, ⟨deliveryStage hformed hstored (by rfl) (.leaseFailed hsending hexpired hlimit),
      by simp, performs_split _ _ _, half_mem_split _ _, trivial⟩, hothers _ _ rfl⟩
  · rename_i hlimit
    exact ⟨_, ⟨deliveryStage hformed hstored (by rfl)
      (.leaseExpired hsending hexpired (not_le.1 hlimit)),
      by simp, performs_split _ _ _, half_mem_split _ _, trivial⟩, hothers _ _ rfl⟩

/-- No delivery is being sent under a lease that has ended. -/
def NoneExpired (now : Time) (fs : Database) : Prop :=
  ∀ doc ∈ fs.deliveries, doc.status = .sending → expired now doc.claimExpiresAt = false

/-- What `_reclaim_expired_deliveries` performs. -/
theorem performs_reclaimExpiredDeliveries (hformed : WellFormed fs) :
    ∃ stages, Chain s fs stages ∧
      Performs streams (reclaimExpiredDeliveries s now) fs stages (.ok ()) ∧
      (NoneExpired now fs → stages = []) ∧
      (¬ NoneExpired now fs → ∃ stage more, stages = stage :: more ∧ stage.event ≠ none ∧
          stage.half fs ∈ (reclaimExpiredDeliveries s now).states (exec streams) fs) := by
  have hkeyed : Rows.Keyed DeliveryDoc.key (streams.order (fs.deliveries.filter
      (DeliveryQuery.status .sending).selects)) :=
    keyed_order streams (hformed.deliveries.of_sublist List.filter_sublist)
  have hmem : ∀ doc, doc ∈ streams.order (fs.deliveries.filter
      (DeliveryQuery.status .sending).selects) ↔
        doc ∈ fs.deliveries ∧ doc.status = .sending := by
    intro doc
    simp [DeliveryQuery.selects]
  obtain ⟨stages, hchain, hperforms, -, hnone, hsome⟩ :=
    performs_forEach (s := s) (reclaimDelivery s now)
      (fun doc => expired now doc.claimExpiresAt) SendingDoc (fun _ _ => True)
      (fun _ => trivial) (fun _ _ => trivial)
      (fun doc hidle => by simp only [reclaimDelivery, hidle, Bool.not_false, if_true])
      (streams.order (fs.deliveries.filter (DeliveryQuery.status .sending).selects))
      (fun fs doc rest hsuffix hformed hdoc hactive hlater => by
        obtain ⟨stage, hturn, hothers⟩ :=
          @reclaimDelivery_turn s streams fs now hformed doc hdoc hactive
        refine ⟨stage, hturn, fun later hmem => hothers later ?_ (hlater later hmem)⟩
        exact (ne_of_suffix hkeyed hsuffix hmem : later.key ≠ doc.key))
      _ fs (List.suffix_refl _) hformed
      (fun doc hdoc =>
        ⟨hformed.deliveries.lookup_of_mem ((hmem doc).1 hdoc).1, ((hmem doc).1 hdoc).2⟩)
  refine ⟨stages, hchain, hperforms.read (exec_streamDeliveries _), ?_, ?_⟩
  · exact fun h => hnone fun doc hdoc => h doc ((hmem doc).1 hdoc).1 ((hmem doc).1 hdoc).2
  · intro hsomewhere
    simp only [NoneExpired, not_forall, Bool.not_eq_false] at hsomewhere
    obtain ⟨doc, hdoc, hsending, hexpired⟩ := hsomewhere
    obtain ⟨stage, more, hstages, hevent, hhalf⟩ :=
      hsome ⟨doc, (hmem doc).2 ⟨hdoc, hsending⟩, hexpired⟩
    exact ⟨stage, more, hstages, hevent, List.mem_cons_of_mem _ hhalf⟩

end Reclaim

section ClaimDelivery

variable {s : Settings} {streams : StreamOrder} {fs : Database} {now : Time}

def dueDelivery (now : Time) (data : DeliveryDoc) : Bool :=
  data.failureReason.isNone && decide (data.availableAt ≤ now)

/-- The deliveries that `claim_delivery` chooses from, as they are streamed. -/
def candidates (streams : StreamOrder) (now : Time) (fs : Database) : List DeliveryDoc :=
  (streams.order (fs.deliveries.filter (DeliveryQuery.status .pending).selects)).filter
    (dueDelivery now)

/-- A job with all that a delivery claim takes from it. -/
def Reported (job : Job) : Prop :=
  job.reportArtifact ≠ none ∧ job.reportContent ≠ none ∧ job.reportSha256 ≠ none

/-- The delivery that is chosen has its report, or no job at all. -/
def ChosenReported (streams : StreamOrder) (now : Time) (fs : Database) : Prop :=
  ∀ delivery ∈ (candidates streams now fs).argmin deliveryOrder,
    ∀ job, fs.job delivery.jobId = some job → Reported job.toJob

theorem deliveryClaim_reported {id email token : String} {job : Job} (h : Reported job) :
    ∃ claim, deliveryClaim id job email token = .ok claim := by
  obtain ⟨hartifact, hcontent, hdigest⟩ := h
  obtain ⟨artifact, hartifact⟩ := Option.ne_none_iff_exists'.1 hartifact
  obtain ⟨content, hcontent⟩ := Option.ne_none_iff_exists'.1 hcontent
  obtain ⟨digest, hdigest⟩ := Option.ne_none_iff_exists'.1 hdigest
  exact ⟨_, by simp only [deliveryClaim, hartifact, hcontent, hdigest]; rfl⟩

theorem deliveryClaim_unreported {id email token : String} {job : Job} (h : ¬ Reported job) :
    ∃ e, deliveryClaim id job email token = .error e := by
  unfold deliveryClaim
  split
  · rename_i artifact content digest hartifact hcontent hdigest
    exact absurd ⟨by simp [hartifact], by simp [hcontent], by simp [hdigest]⟩ h
  · exact ⟨_, rfl⟩

/-- The part of `claim_delivery` that follows the reclaim. -/
def chooseDelivery (s : Settings) (a : Ambient) : Prog Reply :=
  .call (.streamDeliveries (.status .pending)) fun docs =>
    match (docs.filter (dueDelivery a.now)).argmin deliveryOrder with
    | none => .ret (.delivery none)
    | some delivery =>
        .call (.getJob delivery.jobId) fun
          | none => .raise (.integrity "delivery references a missing investigation")
          | some job =>
              commit [.delivery { delivery with
                status := .sending
                claimToken := some a.fresh.hex
                claimExpiresAt := some (a.now + s.claimLeaseSeconds) }] >>= fun _ =>
                  Program.lift (deliveryClaim delivery.jobId job.toJob
                    delivery.destinationEmail a.fresh.hex) >>= fun claim =>
                      .ret (.delivery (some claim))

theorem claimDelivery_eq (a : Ambient) :
    claimDelivery s a =
      reclaimExpiredDeliveries s a.now >>= fun _ => chooseDelivery s a := rfl

theorem course_chooseDelivery (hformed : WellFormed fs) (a : Ambient) :
    Course s streams (chooseDelivery s a) fs (ChosenReported streams a.now fs) := by
  unfold chooseDelivery
  refine .read (exec_streamDeliveries _) ?_
  cases hchosen : (candidates streams a.now fs).argmin deliveryOrder with
  | none =>
      have hnothing : ChosenReported streams a.now fs := fun delivery hdelivery => by
        rw [hchosen] at hdelivery
        cases hdelivery
      have hargmin : ((streams.order (fs.deliveries.filter
          (DeliveryQuery.status .pending).selects)).filter
            (dueDelivery a.now)).argmin deliveryOrder = none := hchosen
      simp only [hargmin]
      exact .ret hnothing _
  | some delivery =>
      have hargmin : ((streams.order (fs.deliveries.filter
          (DeliveryQuery.status .pending).selects)).filter
            (dueDelivery a.now)).argmin deliveryOrder = some delivery := hchosen
      simp only [hargmin]
      obtain ⟨hmem, hdue⟩ := List.mem_filter.1 (List.argmin_mem hargmin)
      have hpending : delivery ∈ fs.deliveries ∧ delivery.status = .pending := by
        simpa [DeliveryQuery.selects] using hmem
      have hstored : fs.delivery delivery.jobId = some delivery :=
        hformed.deliveries.lookup_of_mem hpending.1
      have hdeliverable : Sqlite.deliverable a.now delivery.toDelivery = true := by
        simpa [dueDelivery, Sqlite.deliverable, hpending.2] using hdue
      have hvalid : Stage.Valid s ⟨[.delivery { delivery with
          status := .sending
          claimToken := some a.fresh.hex
          claimExpiresAt := some (a.now + s.claimLeaseSeconds) }], delivery.jobId, none⟩ fs :=
        deliveryStage hformed hstored (by rfl) (.claimed hdeliverable)
      refine .read exec_getJob ?_
      cases hjob : fs.job delivery.jobId with
      | none =>
          refine .raise (fun other hother job hfound => ?_) _
          rw [hchosen] at hother
          rw [← Option.some.inj hother, hjob] at hfound
          cases hfound
      | some job =>
          dsimp only
          by_cases hreported : Reported job.toJob
          · obtain ⟨claim, hclaim⟩ := @deliveryClaim_reported delivery.jobId
              delivery.destinationEmail a.fresh.hex job.toJob hreported
            rw [hclaim]
            refine .ofCommit (fun other hother found hfound => ?_) hvalid
            rw [hchosen] at hother
            rw [← Option.some.inj hother, hjob] at hfound
            rw [← Option.some.inj hfound]
            exact hreported
          · obtain ⟨e, hclaim⟩ := @deliveryClaim_unreported delivery.jobId
              delivery.destinationEmail a.fresh.hex job.toJob hreported
            rw [hclaim]
            refine .refused (fun h => hreported (h delivery hchosen job hjob)) hvalid
              ((performs_commit _ delivery.jobId).bind (performs_raise e)) ?_
            intro hsame
            simp only [Stage.whole, Stage.half, List.foldl, write_delivery, if_true,
              hstored] at hsame
            have hstatus := congrArg DeliveryDoc.toDelivery (Option.some.inj hsame)
            have hsending := congrArg Delivery.status hstatus
            rw [hpending.2] at hsending
            cases hsending

theorem course_claimDelivery (hformed : WellFormed fs) (a : Ambient) :
    Course s streams (claimDelivery s a) fs
      (NoneExpired a.now fs ∧ ChosenReported streams a.now fs) := by
  obtain ⟨stages, hchain, hperforms, hnone, hsome⟩ :=
    @performs_reclaimExpiredDeliveries s streams fs a.now hformed
  rw [claimDelivery_eq]
  by_cases hexpired : NoneExpired a.now fs
  · obtain rfl := hnone hexpired
    have hcourse := @course_chooseDelivery s streams fs hformed a
    exact (hcourse.after (f := fun _ => chooseDelivery s a) hperforms).iff
      ⟨fun h => ⟨hexpired, h⟩, fun h => h.2⟩
  · obtain ⟨stage, more, rfl, hevent, hhalf⟩ := hsome hexpired
    have hcourse := @course_chooseDelivery s streams (applied fs (stage :: more))
      (hchain.formed hformed) a
    obtain ⟨rest, outcome, hrest, hchooses⟩ := hcourse.performs
    have hchain' : Chain s fs (stage :: (more ++ rest)) := hchain.append hrest
    exact .torn (fun h => hexpired h.1) hchain' hevent
      (hperforms.bind (f := fun _ => chooseDelivery s a) hchooses)
      (Program.mem_states_bind.2 (.inl hhalf))

end ClaimDelivery

end CausalOps.ControlPlane.Firestore
