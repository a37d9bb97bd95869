import CausalOps.ControlPlane.Sqlite.Decisions

set_option autoImplicit false

/-! Reconciliation and the claim of the next job. -/

namespace CausalOps.ControlPlane.Sqlite

open Program (Sharing)

variable {ι : Type} {s : Settings} {sharing : Sharing ι Store} {i : ι}
  {recorded : Store → String → String → OwnerDecision → Prop} {may : String → String → Prop}
  {good : Store → Prop} {trusted : Prop} {conduct : Conduct}
  {db : Database} {st : Store}

section Reconcile

/-- What reconciling some paused rows leaves behind. -/
structure Reconciled (s : Settings)
    (recorded : Store → String → String → OwnerDecision → Prop)
    (conduct : Conduct) (good : Store → Prop) (trusted : Prop)
    (st : Store) (db : Database) (chosen : List JobRow) (outcome : Except Refusal Database)
    (t : Store) : Prop where
  sound : good t
  later : Later recorded st t
  moves : ∀ db', outcome = .ok db' → Moves s (rulesAt recorded conduct t) db db'
  others : ∀ db', outcome = .ok db' → ∀ other, (∀ row ∈ chosen, other ≠ row.id) →
    db'.job other = db.job other
  settled : trusted → ∀ db', outcome = .ok db' → ∀ row ∈ chosen,
    (∃ c d, recorded st row.id c d) →
      db'.job row.id = some { row with toJob := queuedJob row.toJob } ∧
        db'.decision row.id ≠ none
  quiet : trusted → ∀ e, outcome ≠ .error e

theorem queueDecided_decision {id checkpointId : String} {d : OwnerDecision} (other : String) :
    (queueDecided db id checkpointId d).decision other = db.decision other := rfl

theorem Move.decision_ne_none {rules : Rules} {db' : Database} (h : Move s rules db db')
    {id : String} (hdecision : db.decision id ≠ none) : db'.decision id ≠ none := by
  cases h with
  | created fresh owner family key habsent hkey => exact hdecision
  | job hrow hstep =>
      rw [decision_of_event]
      exact hdecision
  | @decided id' c row d hrow hpaused hcheckpoint hpresent hrecorded hnone =>
      rw [queueDecided_decision, insertMirror_decision]
      cases hlookup : db.decision id with
      | none => exact absurd hlookup hdecision
      | some m => simp
  | redecided hrow hpaused hcheckpoint hpresent hrecorded hmirrored => exact hdecision
  | finalized hrow hrunning hpath hblank habsent => exact hdecision
  | delivery hrow hstep =>
      rw [decision_of_event]
      exact hdecision

theorem Moves.decision_ne_none {rules : Rules} {db' : Database} (h : Moves s rules db db')
    {id : String} (hdecision : db.decision id ≠ none) : db'.decision id ≠ none := by
  induction h with
  | refl => exact hdecision
  | tail _ hmove ih => exact hmove.decision_ne_none ih

theorem reconcileRow_meets (huse : LedgerUse sharing i recorded may good trusted)
    (hgood : good st) (hkeys : Keys db) {row : JobRow} (hrow : db.job row.id = some row)
    (hpaused : row.status = .pausedApproval)
    (hsane : trusted → Sane (recorded st) may db) :
    (reconcileRow row db).Meets exec sharing i
      (Reconciled s recorded conduct good trusted st db [row]) st := by
  have hself : Later recorded st st := fun _ _ _ h => h
  have hmem := job_mem hrow
  -- A refusal is impossible in a trusted store.
  have hrefused : ∀ (e : Refusal) (t : Store), good t → Later recorded st t → ¬ trusted →
      Reconciled s recorded conduct good trusted st db [row] (.error e) t := by
    intro e t hsound hlater hbroken
    refine ⟨hsound, hlater, ?_, ?_, fun h => absurd h hbroken, fun h => absurd h hbroken⟩
    · intro db' hok
      cases hok
    · intro db' hok
      cases hok
  -- A decision is queued: the row becomes QUEUED and its decision is mirrored.
  have hqueued : ∀ (db₁ : Database) (c : String) (d : OwnerDecision) (t : Store), good t →
      Later recorded st t → Keys db₁ → db₁.job row.id = some row →
      (∀ other, db₁.job other = db.job other) → db₁.decision row.id ≠ none →
      Move s (rulesAt recorded conduct t) db (queueDecided db₁ row.id c d) →
      Reconciled s recorded conduct good trusted st db [row]
        (.ok (queueDecided db₁ row.id c d)) t := by
    intro db₁ c d t hsound hlater hkeys₁ hrow₁ hsame hmirrored hmove
    refine ⟨hsound, hlater, ?_, ?_, ?_, ?_⟩
    · intro db' hok
      cases hok
      exact .single hmove
    · intro db' hok other hother
      cases hok
      rw [queueDecided_job hkeys₁ hrow₁, if_neg (hother row (by simp)), hsame]
    · intro _ db' hok r hr _
      cases hok
      obtain rfl := List.mem_singleton.1 hr
      exact ⟨by rw [queueDecided_job hkeys₁ hrow₁, if_pos rfl], hmirrored⟩
    · intro _ e he
      cases he
  simp only [reconcileRow]
  split
  · rename_i hpresent
    have hbroken : ¬ trusted := fun htrusted => by
      have hsome := ((hsane htrusted).paused row hmem hpaused).1
      obtain ⟨c, hc⟩ := Option.ne_none_iff_exists'.1 hsome
      have hok := presentCheckpoint_eq.2 ⟨hc, ((hsane htrusted).checkpoint row hmem c hc).1⟩
      rw [hpresent] at hok
      cases hok
    exact fun t ht => hrefused _ t (huse.good_rely hgood ht) (huse.later hself ht) hbroken
  · rename_i checkpointId hpresent
    obtain ⟨hcheckpoint, hne⟩ := presentCheckpoint_eq.1 hpresent
    have hmay' : may row.id checkpointId := huse.may_of_sane hsane hmem hcheckpoint
    intro t ht
    have hgood' := huse.good_rely hgood ht
    have hlater := huse.later hself ht
    refine ⟨huse.read_guarantee hgood', ?_⟩
    simp only [exec]
    split
    · rename_i e hread
      have hbroken : ¬ trusted := fun htrusted =>
        huse.readable htrusted hgood' row.id e hread
      exact fun u hu => hrefused _ u (huse.good_rely hgood' hu) (huse.later hlater hu) hbroken
    · rename_i hread
      intro u hu
      refine ⟨huse.good_rely hgood' hu, huse.later hlater hu, ?_, ?_, ?_, ?_⟩
      · intro db' hok
        cases hok
        exact .refl
      · intro db' hok other _
        cases hok
        rfl
      · rintro htrusted db' - r hr ⟨c, d, hrecorded⟩
        obtain rfl := List.mem_singleton.1 hr
        obtain ⟨ledger, hledger, -⟩ := huse.shown htrusted hgood' (hlater _ _ _ hrecorded)
        rw [hread] at hledger
        cases hledger
      · intro _ e he
        cases he
    · rename_i ledger hread
      split
      · rename_i hdiffers
        have hbroken : ¬ trusted := fun htrusted =>
          hdiffers (huse.at_checkpoint htrusted hgood' hmay' hread)
        exact fun u hu => hrefused _ u (huse.good_rely hgood' hu) (huse.later hlater hu) hbroken
      · rename_i hsame
        split
        · rename_i hinvalid
          have hbroken : ¬ trusted := fun htrusted => by
            obtain ⟨d, hmatches⟩ := huse.genuine htrusted hgood' hread
            rw [validate_of_matches hmatches] at hinvalid
            cases hinvalid
          exact fun u hu =>
            hrefused _ u (huse.good_rely hgood' hu) (huse.later hlater hu) hbroken
        · rename_i d hvalid
          have hrecorded : recorded t row.id checkpointId d := by
            have h := huse.read hread hvalid
            rwa [not_not.1 hsame] at h
          split
          · rename_i hnone
            intro u hu
            refine hqueued (insertMirror db row.id checkpointId d) checkpointId d u
              (huse.good_rely hgood' hu) (huse.later hlater hu)
              (insertMirror_keys hkeys hnone) hrow (fun _ => rfl) ?_
              (.decided hrow hpaused hcheckpoint hne (huse.stable hrecorded hu) hnone)
            rw [insertMirror_decision, hnone]
            simp
          · rename_i mirrored hmirrored
            have hbroken : ¬ trusted := fun htrusted => by
              have hnone := ((hsane htrusted).paused row hmem hpaused).2
              rw [hmirrored] at hnone
              cases hnone
            split
            · exact fun u hu =>
                hrefused _ u (huse.good_rely hgood' hu) (huse.later hlater hu) hbroken
            · split
              · exact fun u hu =>
                  hrefused _ u (huse.good_rely hgood' hu) (huse.later hlater hu) hbroken
              · split
                · exact fun u hu =>
                    hrefused _ u (huse.good_rely hgood' hu) (huse.later hlater hu) hbroken
                · intro u hu
                  exact hqueued db checkpointId d u (huse.good_rely hgood' hu)
                    (huse.later hlater hu) hkeys hrow (fun _ => rfl) (by simp [hmirrored])
                    (.redecided hrow hpaused hcheckpoint hne (huse.stable hrecorded hu)
                      hmirrored)

/-- Paused rows are reconciled one after the other; each leaves the rows still to come
as the SELECT found them. -/
theorem reconcileRows_meets (huse : LedgerUse sharing i recorded may good trusted)
    (hpausable : trusted → ∀ db id c, conduct.pausable db id c → may id c ∧ db.decision id = none)
    (chosen : List JobRow) (hchosen : Rows.Keyed JobRow.key chosen) (db : Database)
    (st : Store) (hgood : good st) (hkeys : Keys db)
    (hrows : ∀ row ∈ chosen, db.job row.id = some row ∧ row.status = .pausedApproval)
    (hsane : trusted → Sane (recorded st) may db) :
    (reconcileRows chosen db).Meets exec sharing i
      (Reconciled s recorded conduct good trusted st db chosen) st := by
  induction chosen generalizing db st with
  | nil =>
      intro t ht
      refine ⟨huse.good_rely hgood ht, huse.later (fun _ _ _ h => h) ht, ?_, ?_, ?_, ?_⟩
      · intro db' hok
        cases hok
        exact .refl
      · intro db' hok other _
        cases hok
        rfl
      · intro _ _ _ row hrow
        cases hrow
      · intro _ e he
        cases he
  | cons row rest ih =>
      have hnodup : (row.key :: rest.map JobRow.key).Nodup := hchosen
      have hfresh : ∀ later ∈ rest, later.id ≠ row.id := fun later hlater heq =>
        (List.nodup_cons.1 hnodup).1 (List.mem_map.2 ⟨later, hlater, heq⟩)
      obtain ⟨hrow, hpaused⟩ := hrows row (by simp)
      have hfirst : (reconcileRow row db).Meets exec sharing i
          (Reconciled s recorded conduct good trusted st db [row]) st :=
        reconcileRow_meets huse hgood hkeys hrow hpaused hsane
      have hrest : ∀ db₁ t, Reconciled s recorded conduct good trusted st db [row]
          (.ok db₁) t →
          (reconcileRows rest db₁).Meets exec sharing i
            (Reconciled s recorded conduct good trusted st db (row :: rest)) t := by
        intro db₁ t hdone
        have hmoves := hdone.moves db₁ rfl
        have hkeys₁ := hmoves.keys hkeys
        have hsane₁ : trusted → Sane (recorded t) may db₁ := fun htrusted => by
          have hbefore : Sane (rulesAt recorded conduct t).recorded may db :=
            (hsane htrusted).mono hdone.later
          exact hbefore.moves (hpausable htrusted) hkeys hmoves
        have hrows₁ : ∀ later ∈ rest,
            db₁.job later.id = some later ∧ later.status = .pausedApproval := by
          intro later hlater
          obtain ⟨hjob, hstatus⟩ := hrows later (by simp [hlater])
          refine ⟨(hdone.others db₁ rfl later.id ?_).trans hjob, hstatus⟩
          intro r hr
          obtain rfl := List.mem_singleton.1 hr
          exact hfresh later hlater
        have hlast := ih (List.nodup_cons.1 hnodup).2 db₁ t hdone.sound hkeys₁ hrows₁ hsane₁
        refine hlast.mono ?_
        intro outcome u hthen
        refine ⟨hthen.sound, hdone.later.trans hthen.later, ?_, ?_, ?_, hthen.quiet⟩
        · intro db' hok
          exact (hmoves.later hthen.later).trans (hthen.moves db' hok)
        · intro db' hok other hother
          rw [hthen.others db' hok other fun later hlater => hother later (by simp [hlater])]
          refine hdone.others db₁ rfl other fun r hr => ?_
          obtain rfl := List.mem_singleton.1 hr
          exact hother r (by simp)
        · intro htrusted db' hok r hr hrecorded
          rcases List.mem_cons.1 hr with rfl | hr
          · obtain ⟨hjob, hmirrored⟩ := hdone.settled htrusted db₁ rfl r (by simp) hrecorded
            refine ⟨?_, (hthen.moves db' hok).decision_ne_none hmirrored⟩
            rw [hthen.others db' hok r.id fun later hlater heq => hfresh later hlater heq.symm]
            exact hjob
          · obtain ⟨c, d, hrecorded⟩ := hrecorded
            exact hthen.settled htrusted db' hok r hr ⟨c, d, hdone.later _ _ _ hrecorded⟩
      refine Program.Meets.bind (hfirst.mono ?_) hrest
      intro outcome t hdone
      cases outcome with
      | ok db₁ => exact hdone
      | error e =>
          have hbroken : ¬ trusted := fun htrusted => hdone.quiet htrusted e rfl
          refine ⟨hdone.sound, hdone.later, ?_, ?_, fun h => absurd h hbroken,
            fun h => absurd h hbroken⟩
          · intro db' hok
            cases hok
          · intro db' hok
            cases hok

end Reconcile

section Claim

/-- What a worker can say about the claim it was handed. -/
structure Handed (recorded : String → String → OwnerDecision → Prop) (token : String)
    (db : Database) (claim : WorkerClaim) : Prop where
  stamped : claim.claimToken = token
  running : ∃ row, db.job claim.investigationId = some row ∧ row.status = .running ∧
    row.claimToken = some token
  undecided : claim.ownerDecision = none → db.decision claim.investigationId = none
  decided : ∀ d, claim.ownerDecision = some d →
    ∃ c, claim.checkpointId = some c ∧ recorded claim.investigationId c d

/-- What `claim_next` leaves behind, from a store in which it read these tables. -/
structure ClaimOutcome (s : Settings)
    (recorded : Store → String → String → OwnerDecision → Prop)
    (conduct : Conduct) (good : Store → Prop) (trusted : Prop)
    (st : Store) (db : Database) (token : String)
    (outcome : Except Refusal (Reply × Database)) (t : Store) : Prop where
  sound : good t
  later : Later recorded st t
  moves : ∀ reply db', outcome = .ok (reply, db') →
    Moves s (rulesAt recorded conduct t) db db'
  handed : ∀ claim db', outcome = .ok (.claim (some claim), db') →
    Handed (recorded t) token db' claim
  settled : trusted → ∀ reply db', outcome = .ok (reply, db') → ∀ row ∈ db.jobs,
    row.status = .pausedApproval → (∃ c d, recorded st row.id c d) →
      (∃ row', db'.job row.id = some row' ∧
        (row'.status = .queued ∨ row'.status = .running ∧ row'.claimToken = some token)) ∧
          db'.decision row.id ≠ none
  quiet : trusted → ∀ e, outcome ≠ .error e

theorem claimOrder_le_of_none {row other : JobRow} (h : claimOrder row ≤ claimOrder other)
    (hnone : row.incidentId = none) : other.incidentId = none := by
  cases hother : other.incidentId with
  | none => rfl
  | some incident =>
      exfalso
      simp only [claimOrder, hnone, hother, Option.isNone_none, Option.isNone_some,
        if_true] at h
      have hlt : (0 : ℕ) < 1 := by omega
      have hle := Prod.Lex.toLex_le_toLex.1 h
      simp at hle

/-- The row that `claim_next` selects makes a start step. -/
theorem selected_step {rules : Rules} {now : Time} {token : String} {row : JobRow}
    (hissued : rules.issued token)
    (hidle : (db.jobs.any fun row => row.status = .running) = false)
    (hlab : db.jobs.any (deferredScenario now) = false)
    (hselected : (db.jobs.filter (claimable now)).argmin claimOrder = some row) :
    JobStep s rules db row.toJob
      { row.toJob with
        status := .running
        claimToken := some token
        claimExpiresAt := some (now + s.claimLeaseSeconds) }
      (some .investigationStarted) := by
  have hmem := List.argmin_mem hselected
  simp only [List.mem_filter, claimable, Bool.and_eq_true, decide_eq_true_eq,
    Option.isNone_iff_eq_none] at hmem
  obtain ⟨-, ⟨hqueued, hlive⟩, havailable⟩ := hmem
  refine .started hissued hqueued hlive havailable ?_ ?_ ?_
  · intro r hr hrunning
    simp only [List.any_eq_false, decide_eq_true_eq] at hidle
    exact hidle r hr hrunning
  · intro r hr
    simp only [List.any_eq_false] at hlab
    simpa using hlab r hr
  · intro hnone r hr hclaimable
    have hle := List.le_of_mem_argmin (List.mem_filter.2 ⟨hr, hclaimable⟩) hselected
    exact claimOrder_le_of_none hle hnone

theorem startClaim_job (hkeys : Keys db) {row : JobRow} (hrow : db.job row.id = some row)
    {now : Time} {token : String} (other : String) :
    (startClaim s now token row db).job other =
      if other = row.id then some { row with
        status := .running
        claimToken := some token
        claimExpiresAt := some (now + s.claimLeaseSeconds) }
      else db.job other := by
  exact updateJob_job hkeys hrow (fun r => { r with
    status := .running
    claimToken := some token
    claimExpiresAt := some (now + s.claimLeaseSeconds) }) rfl rfl other

theorem startClaim_move {rules : Rules} (hkeys : Keys db) {row : JobRow}
    (hrow : db.job row.id = some row) {now : Time} {token : String}
    (hstep : JobStep s rules db row.toJob
      { row.toJob with
        status := .running
        claimToken := some token
        claimExpiresAt := some (now + s.claimLeaseSeconds) }
      (some .investigationStarted)) :
    Move s rules db (startClaim s now token row db) :=
  Move.ofUpdate hkeys hrow (fun r => { r with
    status := .running
    claimToken := some token
    claimExpiresAt := some (now + s.claimLeaseSeconds) }) rfl hstep

/-- What the claim of a selected row leaves behind. -/
structure RowClaimed (s : Settings)
    (recorded : Store → String → String → OwnerDecision → Prop)
    (conduct : Conduct) (good : Store → Prop) (trusted : Prop)
    (st : Store) (db : Database) (a : Ambient) (row : JobRow)
    (outcome : Except Refusal (Reply × Database)) (t : Store) : Prop where
  sound : good t
  later : Later recorded st t
  started : ∀ reply db', outcome = .ok (reply, db') →
    Move s (rulesAt recorded conduct t) db db' ∧
      db' = startClaim s a.now a.fresh.hex row db ∧
      ∃ claim, reply = .claim (some claim) ∧ Handed (recorded t) a.fresh.hex db' claim
  quiet : trusted → ∀ e, outcome ≠ .error e

theorem claimRow_meets (huse : LedgerUse sharing i recorded may good trusted)
    (hgood : good st) (hkeys : Keys db) {a : Ambient} {row : JobRow}
    (hrow : db.job row.id = some row)
    (hsane : trusted → Sane (recorded st) may db)
    (hmove : ∀ t, Move s (rulesAt recorded conduct t) db
      (startClaim s a.now a.fresh.hex row db)) :
    (claimRow s a row db).Meets exec sharing i
      (RowClaimed s recorded conduct good trusted st db a row) st := by
  have hself : Later recorded st st := fun _ _ _ h => h
  have hid : (workerClaim row none a.fresh.hex).investigationId = row.id := rfl
  have hrunning : ∃ r, (startClaim s a.now a.fresh.hex row db).job row.id = some r ∧
      r.status = .running ∧ r.claimToken = some a.fresh.hex := by
    rw [startClaim_job hkeys hrow, if_pos rfl]
    exact ⟨_, rfl, rfl, rfl⟩
  have hrefused : ∀ e : Refusal, ¬ trusted →
      (Program.raise e : Prog (Reply × Database)).Meets exec sharing i
        (RowClaimed s recorded conduct good trusted st db a row) st := by
    intro e hbroken t ht
    refine ⟨huse.good_rely hgood ht, huse.later hself ht, ?_, fun h => absurd h hbroken⟩
    intro reply db' hok
    cases hok
  simp only [claimRow]
  split
  · rename_i hnone
    intro t ht
    refine ⟨huse.good_rely hgood ht, huse.later hself ht, ?_, ?_⟩
    · intro reply db' hok
      cases hok
      refine ⟨hmove t, rfl, _, rfl, ⟨rfl, hrunning, fun _ => hnone, ?_⟩⟩
      intro d hd
      cases hd
    · intro _ e he
      cases he
  · rename_i decisionRow hdecision
    have hmirrored : trusted → ∃ d, decisionFromRow decisionRow = .ok d ∧
        row.checkpointId = some decisionRow.checkpointId ∧ decisionRow.checkpointId ≠ "" ∧
        recorded st row.id decisionRow.checkpointId d := by
      intro htrusted
      obtain ⟨r, hjob, hcheckpoint, d, hcolumns, hrecorded⟩ :=
        (hsane htrusted).mirrored decisionRow (decision_mem hdecision)
      have hkey : decisionRow.jobId = row.id :=
        (Rows.lookup_key hdecision : decisionRow.key = row.id)
      rw [hkey, hrow] at hjob
      cases hjob
      exact ⟨d, decisionFromRow_eq hcolumns, hcheckpoint,
        ((hsane htrusted).checkpoint row (job_mem hrow) _ hcheckpoint).1, hkey ▸ hrecorded⟩
    split
    · rename_i e hfrom
      refine hrefused e fun htrusted => ?_
      obtain ⟨d, hok, -⟩ := hmirrored htrusted
      rw [hfrom] at hok
      cases hok
    · rename_i ownerDecision hfrom
      split
      · rename_i hpresent
        refine hrefused _ fun htrusted => ?_
        obtain ⟨d, -, hcheckpoint, hne, -⟩ := hmirrored htrusted
        have hsome := presentCheckpoint_eq.2 ⟨hcheckpoint, hne⟩
        rw [hpresent] at hsome
        cases hsome
      · rename_i checkpointId hpresent
        obtain ⟨hcheckpoint, -⟩ := presentCheckpoint_eq.1 hpresent
        split
        · rename_i hdiffers
          refine hrefused _ fun htrusted => ?_
          obtain ⟨d, -, hsame, -⟩ := hmirrored htrusted
          rw [hcheckpoint] at hsame
          exact hdiffers (Option.some.inj hsame).symm
        · rename_i hsame
          have honrecord : trusted → recorded st row.id checkpointId ownerDecision := by
            intro htrusted
            obtain ⟨d, hok, -, -, hrecorded⟩ := hmirrored htrusted
            rw [hfrom] at hok
            obtain rfl := Except.ok.inj hok
            rwa [not_not.1 hsame] at hrecorded
          have hensure := @ensureLedgerDecision_meets row.id _ _ _ _ _ _ _ huse checkpointId
            ownerDecision a.utcNow (huse.may_of_sane hsane (job_mem hrow) hcheckpoint) _ hgood
          have hreturned : ∀ (u : Unit) (t : Store),
              (good t ∧ Later recorded st t ∧ recorded t row.id checkpointId ownerDecision) →
              (Program.ret (.claim (some (workerClaim row (some ownerDecision) a.fresh.hex)),
                startClaim s a.now a.fresh.hex row db) : Prog (Reply × Database)).Meets exec
                sharing i (RowClaimed s recorded conduct good trusted st db a row) t := by
            rintro - t ⟨hsound, hlater, hrecorded⟩ u hu
            refine ⟨huse.good_rely hsound hu, huse.later hlater hu, ?_, ?_⟩
            · intro reply db' hok
              cases hok
              refine ⟨hmove u, rfl, _, rfl, ⟨rfl, hrunning, ?_, ?_⟩⟩
              · intro hnone
                cases hnone
              · intro d hd
                cases hd
                exact ⟨checkpointId, hcheckpoint, huse.stable hrecorded hu⟩
            · intro _ e he
              cases he
          refine Program.Meets.bind (hensure.mono ?_) hreturned
          intro outcome t hensured
          cases outcome with
          | ok u => exact ⟨hensured.sound, hensured.later, hensured.stored rfl⟩
          | error e =>
              refine ⟨hensured.sound, hensured.later, ?_, ?_⟩
              · intro reply db' hok
                cases hok
              · intro htrusted _ _
                have hok := hensured.repeated htrusted (honrecord htrusted)
                cases hok

theorem ClaimOutcome.ofError {token : String} {e : Refusal} {t : Store} (hsound : good t)
    (hlater : Later recorded st t) (hbroken : ¬ trusted) :
    ClaimOutcome s recorded conduct good trusted st db token (.error e) t := by
  refine ⟨hsound, hlater, ?_, ?_, fun h => absurd h hbroken, fun h => absurd h hbroken⟩
  · intro reply db' hok
    cases hok
  · intro claim db' hok
    cases hok

/-- Leases and decisions are up to date: from `db₀`, read at `st₀`, the tables became
`db` by the time the store is `st`. -/
structure UpToDate (s : Settings)
    (recorded : Store → String → String → OwnerDecision → Prop)
    (conduct : Conduct) (good : Store → Prop) (trusted : Prop)
    (may : String → String → Prop) (st₀ : Store) (db₀ db : Database) (st : Store) : Prop where
  sound : good st
  later : Later recorded st₀ st
  keys : Keys db
  sane : trusted → Sane (recorded st) may db
  moves : Moves s (rulesAt recorded conduct st) db₀ db
  settled : trusted → ∀ row ∈ db₀.jobs, row.status = .pausedApproval →
    (∃ c d, recorded st₀ row.id c d) →
      (∃ row', db.job row.id = some row' ∧ row'.status = .queued) ∧ db.decision row.id ≠ none

theorem selectAndClaim_meets (huse : LedgerUse sharing i recorded may good trusted)
    {st₀ : Store} {db₀ : Database} (a : Ambient)
    (hissued : conduct.issued a.fresh.hex)
    (hready : UpToDate s recorded conduct good trusted may st₀ db₀ db st) :
    (if db.jobs.any fun row => row.status = .running then
        (.ret (.claim none, db) : Prog (Reply × Database))
      else if db.jobs.any (deferredScenario a.now) then .ret (.claim none, db)
      else
        match (db.jobs.filter (claimable a.now)).argmin claimOrder with
        | none => .ret (.claim none, db)
        | some row => claimRow s a row db).Meets exec sharing i
      (ClaimOutcome s recorded conduct good trusted st₀ db₀ a.fresh.hex) st := by
  have hnothing : (.ret (.claim none, db) : Prog (Reply × Database)).Meets exec sharing i
      (ClaimOutcome s recorded conduct good trusted st₀ db₀ a.fresh.hex) st := by
    intro t ht
    have hlater := huse.later (fun _ _ _ h => h : Later recorded st st) ht
    refine ⟨huse.good_rely hready.sound ht, hready.later.trans hlater, ?_, ?_, ?_, ?_⟩
    · intro reply db' hok
      cases hok
      exact hready.moves.later hlater
    · intro claim db' hok
      cases hok
    · intro htrusted reply db' hok row hrow hpaused hrecorded
      cases hok
      obtain ⟨⟨row', hrow', hqueued⟩, hdecision⟩ := hready.settled htrusted row hrow hpaused hrecorded
      exact ⟨⟨row', hrow', Or.inl hqueued⟩, hdecision⟩
    · intro _ e he
      cases he
  split
  · exact hnothing
  · rename_i hidle
    split
    · exact hnothing
    · rename_i hlab
      split
      · exact hnothing
      · rename_i row hselected
        have hmem := (List.mem_filter.1 (List.argmin_mem hselected)).1
        have hrow : db.job row.id = some row := hready.keys.jobs.lookup_of_mem hmem
        have hmove : ∀ t, Move s (rulesAt recorded conduct t) db
            (startClaim s a.now a.fresh.hex row db) := fun t =>
          startClaim_move hready.keys hrow (selected_step hissued (by simpa using hidle)
            (by simpa using hlab) hselected)
        refine (claimRow_meets huse hready.sound hready.keys hrow hready.sane hmove).mono ?_
        intro outcome t hclaimed
        cases outcome with
        | error e =>
            exact .ofError hclaimed.sound (hready.later.trans hclaimed.later)
              fun htrusted => hclaimed.quiet htrusted e rfl
        | ok answer =>
            obtain ⟨reply, db'⟩ := answer
            obtain ⟨hmove', rfl, claim, rfl, hhanded⟩ := hclaimed.started _ _ rfl
            refine ⟨hclaimed.sound, hready.later.trans hclaimed.later, ?_, ?_, ?_, ?_⟩
            · intro reply db' hok
              cases hok
              exact (hready.moves.later hclaimed.later).tail hmove'
            · intro claim' db' hok
              cases hok
              exact hhanded
            · intro htrusted reply db' hok r hr hpaused hrecorded
              cases hok
              obtain ⟨⟨r', hr', hqueued⟩, hdecision⟩ :=
                hready.settled htrusted r hr hpaused hrecorded
              refine ⟨?_, hmove'.decision_ne_none hdecision⟩
              rw [startClaim_job hready.keys hrow]
              by_cases hsame : r.id = row.id
              · exact ⟨_, if_pos hsame, Or.inr ⟨rfl, rfl⟩⟩
              · exact ⟨r', by rw [if_neg hsame]; exact hr', Or.inl hqueued⟩
            · intro _ e he
              cases he

theorem claimNext_meets (huse : LedgerUse sharing i recorded may good trusted)
    (hpausable : trusted → ∀ db id c, conduct.pausable db id c → may id c ∧ db.decision id = none)
    (hgood : good st) (hkeys : Keys db) (a : Ambient)
    (hsane : trusted → Sane (recorded st) may db) (hissued : conduct.issued a.fresh.hex) :
    (claimNext s a db).Meets exec sharing i
      (ClaimOutcome s recorded conduct good trusted st db a.fresh.hex) st := by
  have hreclaimed : Moves s (rulesAt recorded conduct st) db
      (reclaimExpiredInvestigations s a.now db) := reclaimExpiredInvestigations_moves hkeys
  have hkeys₀ := hreclaimed.keys hkeys
  have hsane₀ : trusted → Sane (recorded st) may
      (reclaimExpiredInvestigations s a.now db) := fun htrusted => by
    have hbefore : Sane (rulesAt recorded conduct st).recorded may db := hsane htrusted
    exact hbefore.moves (hpausable htrusted) hkeys hreclaimed
  have hreconciled : (reconcileDurableDecisions
      (reclaimExpiredInvestigations s a.now db)).Meets exec sharing i
      (Reconciled s recorded conduct good trusted st (reclaimExpiredInvestigations s a.now db)
        ((reclaimExpiredInvestigations s a.now db).jobs.filter fun row =>
          row.status = .pausedApproval)) st := by
    refine reconcileRows_meets huse hpausable _
      (hkeys₀.jobs.of_sublist List.filter_sublist) _ st hgood hkeys₀ ?_ hsane₀
    intro row hrow
    simp only [List.mem_filter, decide_eq_true_eq] at hrow
    exact ⟨hkeys₀.jobs.lookup_of_mem hrow.1, hrow.2⟩
  have hselect : ∀ db₁ t, UpToDate s recorded conduct good trusted may st db db₁ t → _ :=
    fun db₁ t hready => selectAndClaim_meets huse a hissued hready
  refine Program.Meets.bind (hreconciled.mono ?_) hselect
  intro outcome t hdone
  cases outcome with
  | error e =>
      exact .ofError hdone.sound hdone.later fun htrusted => hdone.quiet htrusted e rfl
  | ok db₁ =>
      have hmoves₁ := hdone.moves db₁ rfl
      have hsane₁ : trusted → Sane (recorded t) may db₁ := fun htrusted => by
        have hbefore : Sane (rulesAt recorded conduct t).recorded may
            (reclaimExpiredInvestigations s a.now db) := (hsane₀ htrusted).mono hdone.later
        exact hbefore.moves (hpausable htrusted) hkeys₀ hmoves₁
      refine ⟨hdone.sound, hdone.later, hmoves₁.keys hkeys₀, hsane₁,
        (hreclaimed.later hdone.later).trans hmoves₁, ?_⟩
      intro htrusted row hrow hpaused hrecorded
      have hkept : (reclaimExpiredInvestigations s a.now db).job row.id = some row :=
        reclaimExpiredInvestigations_job hkeys (hkeys.jobs.lookup_of_mem hrow)
          (by simp [hpaused])
      obtain ⟨hjob, hdecision⟩ := hdone.settled htrusted db₁ rfl row
        (List.mem_filter.2 ⟨job_mem hkept, by simp [hpaused]⟩) hrecorded
      exact ⟨⟨_, hjob, rfl⟩, hdecision⟩

end Claim

end CausalOps.ControlPlane.Sqlite
