import CausalOps.ControlPlane.Sqlite.Methods

set_option autoImplicit false

/-! The methods that work through several rows or read the decision ledger on the
way: lease reclaim, reconciliation, `decide`, `claim_next` and `claim_delivery`. -/

namespace CausalOps.ControlPlane.Sqlite

open Program (Sharing)

variable {s : Settings} {now : Time} {id : String}

section Reclaim

variable {rules : Rules} {db : Database}

theorem reclaimInvestigation_move (hkeys : Keys db) {row : JobRow}
    (hrow : db.job row.id = some row) (hrunning : row.status = .running)
    (hexpired : expired now row.claimExpiresAt = true) :
    Move s rules db (reclaimInvestigation s now db row) := by
  simp only [reclaimInvestigation]
  split
  · rename_i hlimit
    exact Move.ofUpdate hkeys hrow
      (fun r => { r with
        status := .queued
        claimToken := none
        claimExpiresAt := none
        attemptCount := row.attemptCount + 1
        failureReason := some "retry_limit:lease_expired" }) rfl
      (.leaseFailed hrunning hexpired hlimit)
  · rename_i hlimit
    exact Move.ofUpdate hkeys hrow
      (fun r => { r with
        status := .queued
        claimToken := none
        claimExpiresAt := none
        attemptCount := row.attemptCount + 1
        availableAt := now + s.retryDelay (row.attemptCount + 1) }) rfl
      (.leaseExpired hrunning hexpired (not_le.1 hlimit))

theorem updateJob_job_ne {other : String} (hne : other ≠ id) {set : JobRow → JobRow}
    (hset : ∀ r, (set r).id = r.id) : (db.updateJob id set).job other = db.job other :=
  Rows.lookup_modify_ne hset hne

theorem updateDelivery_delivery_ne {other : String} (hne : other ≠ id)
    {set : DeliveryRow → DeliveryRow} (hset : ∀ r, (set r).jobId = r.jobId) :
    (db.updateDelivery id set).delivery other = db.delivery other :=
  Rows.lookup_modify_ne hset hne

theorem reclaimInvestigation_job_ne {row : JobRow} {other : String} (hne : other ≠ row.id) :
    (reclaimInvestigation s now db row).job other = db.job other := by
  simp only [reclaimInvestigation]
  split <;> exact updateJob_job_ne hne fun _ => rfl

theorem reclaimDelivery_move (hkeys : Keys db) {row : DeliveryRow}
    (hrow : db.delivery row.jobId = some row) (hsending : row.status = .sending)
    (hexpired : expired now row.claimExpiresAt = true) :
    Move s rules db (reclaimDelivery s now db row) := by
  simp only [reclaimDelivery]
  split
  · rename_i hlimit
    exact Move.ofDeliveryUpdate hkeys hrow
      (fun r => { r with
        status := .pending
        claimToken := none
        claimExpiresAt := none
        attemptCount := row.attemptCount + 1
        failureReason := some "retry_limit:lease_expired" }) rfl
      (.leaseFailed hsending hexpired hlimit)
  · rename_i hlimit
    exact Move.ofDeliveryUpdate hkeys hrow
      (fun r => { r with
        status := .pending
        claimToken := none
        claimExpiresAt := none
        attemptCount := row.attemptCount + 1
        availableAt := now + s.retryDelay (row.attemptCount + 1) }) rfl
      (.leaseExpired hsending hexpired (not_le.1 hlimit))

theorem reclaimDelivery_delivery_ne {row : DeliveryRow} {other : String}
    (hne : other ≠ row.jobId) :
    (reclaimDelivery s now db row).delivery other = db.delivery other := by
  simp only [reclaimDelivery]
  split <;> exact updateDelivery_delivery_ne hne fun _ => rfl

/-- Later rows of the SELECT are untouched while earlier ones are reclaimed. -/
theorem reclaimInvestigations_moves (chosen : List JobRow)
    (hchosen : Rows.Keyed JobRow.key chosen) (db : Database) (hkeys : Keys db)
    (hrows : ∀ row ∈ chosen, db.job row.id = some row ∧ row.status = .running ∧
      expired now row.claimExpiresAt = true) :
    Moves s rules db (chosen.foldl (reclaimInvestigation s now) db) := by
  induction chosen generalizing db with
  | nil => exact .refl
  | cons row rest ih =>
      obtain ⟨hrow, hrunning, hexpired⟩ := hrows row (by simp)
      have hmove : Move s rules db (reclaimInvestigation s now db row) :=
        reclaimInvestigation_move hkeys hrow hrunning hexpired
      have hnodup : (row.key :: rest.map JobRow.key).Nodup := hchosen
      refine .head hmove (ih (List.nodup_cons.1 hnodup).2 _ (hmove.keys hkeys) ?_)
      intro later hlater
      obtain ⟨hjob, hstatus⟩ := hrows later (by simp [hlater])
      have hne : later.id ≠ row.id := fun heq =>
        (List.nodup_cons.1 hnodup).1 (List.mem_map.2 ⟨later, hlater, heq⟩)
      exact ⟨(reclaimInvestigation_job_ne hne).trans hjob, hstatus⟩

theorem reclaimDeliveries_moves (chosen : List DeliveryRow)
    (hchosen : Rows.Keyed DeliveryRow.key chosen) (db : Database) (hkeys : Keys db)
    (hrows : ∀ row ∈ chosen, db.delivery row.jobId = some row ∧ row.status = .sending ∧
      expired now row.claimExpiresAt = true) :
    Moves s rules db (chosen.foldl (reclaimDelivery s now) db) := by
  induction chosen generalizing db with
  | nil => exact .refl
  | cons row rest ih =>
      obtain ⟨hrow, hsending, hexpired⟩ := hrows row (by simp)
      have hmove : Move s rules db (reclaimDelivery s now db row) :=
        reclaimDelivery_move hkeys hrow hsending hexpired
      have hnodup : (row.key :: rest.map DeliveryRow.key).Nodup := hchosen
      refine .head hmove (ih (List.nodup_cons.1 hnodup).2 _ (hmove.keys hkeys) ?_)
      intro later hlater
      obtain ⟨hdelivery, hstatus⟩ := hrows later (by simp [hlater])
      have hne : later.jobId ≠ row.jobId := fun heq =>
        (List.nodup_cons.1 hnodup).1 (List.mem_map.2 ⟨later, hlater, heq⟩)
      exact ⟨(reclaimDelivery_delivery_ne hne).trans hdelivery, hstatus⟩

theorem reclaimExpiredInvestigations_moves (hkeys : Keys db) :
    Moves s rules db (reclaimExpiredInvestigations s now db) := by
  refine reclaimInvestigations_moves _ (hkeys.jobs.of_sublist List.filter_sublist) db hkeys ?_
  intro row hrow
  simp only [List.mem_filter, Bool.and_eq_true, decide_eq_true_eq] at hrow
  exact ⟨hkeys.jobs.lookup_of_mem hrow.1, hrow.2⟩

theorem reclaimInvestigations_job_ne (chosen : List JobRow) (db : Database)
    (hothers : ∀ row ∈ chosen, id ≠ row.id) :
    (chosen.foldl (reclaimInvestigation s now) db).job id = db.job id := by
  induction chosen generalizing db with
  | nil => rfl
  | cons row rest ih =>
      rw [List.foldl_cons, ih _ fun later hlater => hothers later (List.mem_cons_of_mem row hlater)]
      exact reclaimInvestigation_job_ne (hothers row List.mem_cons_self)

theorem reclaimExpiredInvestigations_job (hkeys : Keys db) {row : JobRow}
    (hrow : db.job id = some row) (hnotrunning : row.status ≠ .running) :
    (reclaimExpiredInvestigations s now db).job id = some row := by
  refine (reclaimInvestigations_job_ne _ db ?_).trans hrow
  intro r hr heq
  simp only [List.mem_filter, Bool.and_eq_true, decide_eq_true_eq] at hr
  have hsame : r = row :=
    hkeys.jobs.eq_of_key_eq hr.1 (job_mem hrow) (heq.symm.trans (job_id hrow).symm)
  exact hnotrunning (hsame ▸ hr.2.1)

theorem reclaimExpiredDeliveries_moves (hkeys : Keys db) :
    Moves s rules db (reclaimExpiredDeliveries s now db) := by
  refine reclaimDeliveries_moves _ (hkeys.deliveries.of_sublist List.filter_sublist) db hkeys ?_
  intro row hrow
  simp only [List.mem_filter, Bool.and_eq_true, decide_eq_true_eq] at hrow
  exact ⟨hkeys.deliveries.lookup_of_mem hrow.1, hrow.2⟩

theorem joined_mem {pair : DeliveryRow × JobRow} (h : pair ∈ joined db) :
    pair.1 ∈ db.deliveries ∧ db.job pair.1.jobId = some pair.2 := by
  simp only [joined, List.mem_filterMap] at h
  obtain ⟨d, hd, hpair⟩ := h
  cases hjob : db.job d.jobId with
  | none => simp [hjob] at hpair
  | some job =>
      simp only [hjob, Option.map_some, Option.some.injEq] at hpair
      subst hpair
      exact ⟨hd, hjob⟩

theorem claimDelivery_moves (hkeys : Keys db) {a : Ambient} {reply : Reply} {db' : Database}
    (h : claimDelivery s a db = .ok (reply, db')) : Moves s rules db db' := by
  have hreclaimed : Moves s rules db (reclaimExpiredDeliveries s a.now db) :=
    reclaimExpiredDeliveries_moves hkeys
  have hkeys' := hreclaimed.keys hkeys
  simp only [claimDelivery] at h
  split at h
  · cases h
    exact hreclaimed
  · rename_i delivery job hselected
    have hmem := List.argmin_mem hselected
    simp only [List.mem_filter] at hmem
    obtain ⟨hjoined, hdeliverable⟩ := hmem
    obtain ⟨hdelivery, hjob⟩ := joined_mem hjoined
    have hrow : (reclaimExpiredDeliveries s a.now db).delivery job.id = some delivery := by
      rw [job_id hjob]
      exact hkeys'.deliveries.lookup_of_mem hdelivery
    split at h
    · cases h
    · cases h
      exact .tail hreclaimed (Move.ofDeliveryUpdate hkeys' hrow
        (fun r => { r with
          status := .sending
          claimToken := some a.fresh.hex
          claimExpiresAt := some (a.now + s.claimLeaseSeconds) }) rfl
        (.claimed hdeliverable))

end Reclaim

section LedgerUse

variable {ι : Type}

/-- What a slot may conclude from the ledger. `recorded` holds of a decision once a
read has shown it or a write has stored it, and stays true; `may` are the threads and
checkpoints for which the slot writes; `good` is what the others keep. When `trusted`,
the ledger is also known to be readable and to speak of the right checkpoint. -/
structure LedgerUse (sharing : Sharing ι Store) (i : ι)
    (recorded : Store → String → String → OwnerDecision → Prop)
    (may : String → String → Prop) (good : Store → Prop) (trusted : Prop) : Prop where
  stable : ∀ {st st' id checkpointId d}, recorded st id checkpointId d →
    sharing.rely i st st' → recorded st' id checkpointId d
  read : ∀ {st : Store} {id : String} {row : DecisionRow} {d : OwnerDecision},
    readDecisionForThread st.ledger id = .ok (some row) →
    OwnerDecision.validate row.decision.text row.rejectionNote = some d →
    recorded st id row.checkpointId d
  wrote : ∀ {st id checkpointId d utcNow},
    (exec (.recordDecision id checkpointId d utcNow) st).1 = .ok () →
    recorded (exec (.recordDecision id checkpointId d utcNow) st).2 id checkpointId d
  keeps : ∀ {st id checkpointId d utcNow id' checkpointId' d'},
    recorded st id' checkpointId' d' →
    recorded (exec (.recordDecision id checkpointId d utcNow) st).2 id' checkpointId' d'
  good_rely : ∀ {st st'}, good st → sharing.rely i st st' → good st'
  good_write : ∀ {st id checkpointId d utcNow}, good st → may id checkpointId →
    good (exec (.recordDecision id checkpointId d utcNow) st).2
  read_guarantee : ∀ {st}, good st → sharing.guarantee i st st
  write_guarantee : ∀ {st id checkpointId d utcNow}, good st → may id checkpointId →
    sharing.guarantee i st (exec (.recordDecision id checkpointId d utcNow) st).2
  free : ¬ trusted → ∀ id checkpointId, may id checkpointId
  readable : trusted → ∀ {st}, good st → ∀ id e, readDecisionForThread st.ledger id ≠ .error e
  genuine : trusted → ∀ {st : Store}, good st → ∀ {id row},
    readDecisionForThread st.ledger id = .ok (some row) →
    ∃ d : OwnerDecision, row.matches d = true
  at_checkpoint : trusted → ∀ {st : Store}, good st → ∀ {id checkpointId row},
    may id checkpointId → readDecisionForThread st.ledger id = .ok (some row) →
    row.checkpointId = checkpointId
  shown : trusted → ∀ {st : Store}, good st → ∀ {id checkpointId d},
    recorded st id checkpointId d → ∃ row, readDecisionForThread st.ledger id = .ok (some row) ∧
      row.checkpointId = checkpointId ∧ row.matches d = true

def Later (recorded : Store → String → String → OwnerDecision → Prop) (st st' : Store) :
    Prop :=
  ∀ id checkpointId d, recorded st id checkpointId d → recorded st' id checkpointId d

theorem Later.trans {recorded : Store → String → String → OwnerDecision → Prop}
    {st st' st'' : Store} (h : Later recorded st st') (h' : Later recorded st' st'') :
    Later recorded st st'' :=
  fun _ _ _ hrecorded => h' _ _ _ (h _ _ _ hrecorded)

theorem matches_iff {row : DecisionRow} {d : OwnerDecision} :
    row.matches d = true ↔
      row.decision = d.decision ∧ row.rejectionNote = d.rejectionNote := by
  simp [DecisionRow.matches]

theorem validate_of_matches {row : DecisionRow} {d : OwnerDecision}
    (h : row.matches d = true) :
    OwnerDecision.validate row.decision.text row.rejectionNote = some d := by
  obtain ⟨hdecision, hnote⟩ := matches_iff.1 h
  rw [hdecision, hnote, OwnerDecision.validate_columns]

variable {sharing : Sharing ι Store} {i : ι}
  {recorded : Store → String → String → OwnerDecision → Prop} {may : String → String → Prop}
  {good : Store → Prop} {trusted : Prop}

theorem LedgerUse.later (huse : LedgerUse sharing i recorded may good trusted)
    {st st' st'' : Store} (h : Later recorded st st') (hrely : sharing.rely i st' st'') :
    Later recorded st st'' :=
  h.trans fun _ _ _ hrecorded => huse.stable hrecorded hrely

/-- What `_ensure_ledger_decision` leaves behind. -/
structure Ensured (recorded : Store → String → String → OwnerDecision → Prop)
    (good : Store → Prop) (trusted : Prop) (st : Store) (id checkpointId : String)
    (d : OwnerDecision) (outcome : Except Refusal Unit) (t : Store) : Prop where
  sound : good t
  later : Later recorded st t
  stored : outcome = .ok () → recorded t id checkpointId d
  conflict : trusted → ∀ e, outcome = .error e → ∃ message, e = .conflict message
  repeated : trusted → recorded st id checkpointId d → outcome = .ok ()

theorem ensureLedgerDecision_meets (huse : LedgerUse sharing i recorded may good trusted)
    {checkpointId : String} {d : OwnerDecision} {utcNow : Time} (hmay : may id checkpointId)
    {st : Store} (hgood : good st) :
    (ensureLedgerDecision utcNow id checkpointId d).Meets exec sharing i
      (Ensured recorded good trusted st id checkpointId d) st := by
  have hself : Later recorded st st := fun _ _ _ h => h
  intro t ht
  have hgood' := huse.good_rely hgood ht
  have hlater := huse.later hself ht
  refine ⟨huse.read_guarantee hgood', ?_⟩
  simp only [exec]
  split
  · rename_i e hread
    intro u hu
    exact ⟨huse.good_rely hgood' hu, huse.later hlater hu, nofun,
      fun htrusted => absurd hread (huse.readable htrusted hgood' id e),
      fun htrusted => absurd hread (huse.readable htrusted hgood' id e)⟩
  · rename_i existing hread
    have hsame : trusted → existing.checkpointId = checkpointId := fun htrusted =>
      huse.at_checkpoint htrusted hgood' hmay hread
    split
    · rename_i hcheckpoint
      intro u hu
      exact ⟨huse.good_rely hgood' hu, huse.later hlater hu, nofun,
        fun htrusted => absurd (hsame htrusted) hcheckpoint,
        fun htrusted => absurd (hsame htrusted) hcheckpoint⟩
    · rename_i hcheckpoint
      split
      · rename_i hmatches
        have hrecorded := huse.read hread (validate_of_matches hmatches)
        rw [not_not.1 hcheckpoint] at hrecorded
        exact fun u hu => ⟨huse.good_rely hgood' hu, huse.later hlater hu,
          fun _ => huse.stable hrecorded hu, nofun, fun _ _ => rfl⟩
      · rename_i hdiffers
        intro u hu
        refine ⟨huse.good_rely hgood' hu, huse.later hlater hu, nofun, ?_, ?_⟩
        · intro _ e he
          cases he
          exact ⟨_, rfl⟩
        · intro htrusted hrecorded
          obtain ⟨row, hrow, -, hmatches⟩ :=
            huse.shown htrusted hgood' (hlater _ _ _ hrecorded)
          rw [hread] at hrow
          cases hrow
          exact absurd hmatches hdiffers
  · rename_i hnone
    have habsent : trusted → ¬ recorded st id checkpointId d := fun htrusted hrecorded => by
      obtain ⟨row, hrow, -⟩ := huse.shown htrusted hgood' (hlater _ _ _ hrecorded)
      rw [hnone] at hrow
      cases hrow
    intro u hu
    have hgood'' := huse.good_rely hgood' hu
    refine ⟨huse.write_guarantee hgood'' hmay, ?_⟩
    have hkept : Later recorded st (exec (.recordDecision id checkpointId d utcNow) u).2 :=
      (huse.later hlater hu).trans fun _ _ _ h => huse.keeps h
    have hgoodw : good (exec (.recordDecision id checkpointId d utcNow) u).2 :=
      huse.good_write hgood'' hmay
    beta_reduce
    split
    · rename_i hwrote
      have hrecorded := huse.wrote hwrote
      exact fun v hv => ⟨huse.good_rely hgoodw hv, huse.later hkept hv,
        fun _ => huse.stable hrecorded hv, nofun, fun _ _ => rfl⟩
    · intro v hv
      have hgoodv := huse.good_rely hgoodw hv
      have hkept' := huse.later hkept hv
      refine ⟨huse.read_guarantee hgoodv, ?_⟩
      have hrefused : ∀ (e : Refusal) (w : Store), sharing.rely i v w →
          (trusted → ∃ message, e = .conflict message) →
          Ensured recorded good trusted st id checkpointId d (.error e) w := by
        intro e w hw hconflict
        refine ⟨huse.good_rely hgoodv hw, huse.later hkept' hw, nofun, ?_, ?_⟩
        · intro htrusted e' he
          cases he
          exact hconflict htrusted
        · exact fun htrusted hrecorded => absurd hrecorded (habsent htrusted)
      simp only [exec]
      split
      · rename_i e hread
        exact fun w hw => hrefused _ w hw fun htrusted =>
          absurd hread (huse.readable htrusted hgoodv id e)
      · rename_i existing hread
        split
        · rename_i hsame
          simp only [Bool.and_eq_true, decide_eq_true_eq] at hsame
          have hrecorded := huse.read hread (validate_of_matches hsame.2)
          rw [hsame.1] at hrecorded
          exact fun w hw => ⟨huse.good_rely hgoodv hw, huse.later hkept' hw,
            fun _ => huse.stable hrecorded hw, nofun, fun _ _ => rfl⟩
        · exact fun w hw => hrefused _ w hw fun _ => ⟨_, rfl⟩
      · exact fun w hw => hrefused _ w hw fun _ => ⟨_, rfl⟩

end LedgerUse

end CausalOps.ControlPlane.Sqlite
