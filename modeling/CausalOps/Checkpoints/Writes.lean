import Mathlib.Data.List.Induction
import CausalOps.Checkpoints.Stored

set_option autoImplicit false

/-! Writes of a task: what a batch leaves under each index, delivered again or not, and what
goes with a thread. -/

namespace CausalOps.Checkpoints

variable {Obj : Type} {langgraph : Langgraph Obj}

section Batches

variable {document checkpointId taskId : String} {writes : List (WritePath × WriteDocument)}
  {batch : List ((String × Obj) × ℕ)}

def resolvedIdx (langgraph : Langgraph Obj) (write : (String × Obj) × ℕ) : ℤ :=
  (langgraph.writesIdxMap write.1.1).getD write.2

def pathOf (langgraph : Langgraph Obj) (document checkpointId taskId : String)
    (write : (String × Obj) × ℕ) : WritePath :=
  (document, checkpointId, writeDocumentId taskId (resolvedIdx langgraph write))

def documentOf (langgraph : Langgraph Obj) (taskId : String) (write : (String × Obj) × ℕ) :
    WriteDocument :=
  let value := langgraph.dumpsTyped write.1.2
  ⟨taskId, resolvedIdx langgraph write, write.1.1, value.1, value.2⟩

def firstAt (langgraph : Langgraph Obj) (document checkpointId taskId : String)
    (batch : List ((String × Obj) × ℕ)) (path : WritePath) : Option WriteDocument :=
  (batch.find? fun write => pathOf langgraph document checkpointId taskId write = path).map
    (documentOf langgraph taskId)

theorem putWrite_replaces (write : (String × Obj) × ℕ) (path : WritePath) :
    Documents.get (putWrite langgraph document checkpointId taskId true writes write) path =
      if pathOf langgraph document checkpointId taskId write = path then
        some (documentOf langgraph taskId write)
      else Documents.get writes path := by
  simp only [putWrite, Bool.not_true, Bool.false_and, Bool.false_eq_true, if_false,
    Documents.get_set]
  rfl

theorem putWrite_keeps (write : (String × Obj) × ℕ) (path : WritePath) :
    Documents.get (putWrite langgraph document checkpointId taskId false writes write) path =
      (Documents.get writes path).or
        (if pathOf langgraph document checkpointId taskId write = path then
          some (documentOf langgraph taskId write)
        else none) := by
  simp only [putWrite, Bool.not_false, Bool.true_and]
  change Documents.get (if (Documents.get writes
    (pathOf langgraph document checkpointId taskId write)).isSome = true then writes
    else Documents.set writes (pathOf langgraph document checkpointId taskId write)
      (documentOf langgraph taskId write)) path = _
  cases hget : Documents.get writes (pathOf langgraph document checkpointId taskId write) with
  | some stored =>
      by_cases hpath : pathOf langgraph document checkpointId taskId write = path
      · simp [← hpath, hget]
      · simp [hpath]
  | none =>
      by_cases hpath : pathOf langgraph document checkpointId taskId write = path
      · simp [← hpath, hget, Documents.get_set]
      · simp [hpath, Documents.get_set]

theorem batch_replaces (batch : List ((String × Obj) × ℕ)) (path : WritePath) :
    Documents.get (batch.foldl (putWrite langgraph document checkpointId taskId true) writes) path =
      (firstAt langgraph document checkpointId taskId batch.reverse path).or
        (Documents.get writes path) := by
  induction batch using List.reverseRecOn with
  | nil => rfl
  | append_singleton before write ih =>
      rw [List.foldl_append, List.foldl_cons, List.foldl_nil, putWrite_replaces, ih,
        List.reverse_append, List.reverse_singleton, firstAt, firstAt, List.singleton_append,
        List.find?_cons]
      by_cases hpath : pathOf langgraph document checkpointId taskId write = path <;> simp [hpath]

/-- Any other batch leaves what was there, and its first write where nothing was. -/
theorem batch_keeps (batch : List ((String × Obj) × ℕ)) (path : WritePath) :
    Documents.get (batch.foldl (putWrite langgraph document checkpointId taskId false) writes) path =
      (Documents.get writes path).or
        (firstAt langgraph document checkpointId taskId batch path) := by
  induction batch using List.reverseRecOn with
  | nil => simp [firstAt]
  | append_singleton before write ih =>
      rw [List.foldl_append, List.foldl_cons, List.foldl_nil, putWrite_keeps, ih, firstAt, firstAt,
        List.find?_append, Option.map_or, Option.or_assoc]
      congr 2
      by_cases hpath : pathOf langgraph document checkpointId taskId write = path <;> simp [hpath]

theorem firstAt_none {path : WritePath}
    (h : ∀ write ∈ batch, pathOf langgraph document checkpointId taskId write ≠ path) :
    firstAt langgraph document checkpointId taskId batch path = none := by
  rw [firstAt, Option.map_eq_none_iff, List.find?_eq_none]
  exact fun write hwrite => by simpa using h write hwrite

theorem firstAt_only {path : WritePath} {write : (String × Obj) × ℕ} (hmem : write ∈ batch)
    (hpath : pathOf langgraph document checkpointId taskId write = path)
    (honly : ∀ other ∈ batch, pathOf langgraph document checkpointId taskId other = path →
      other = write) :
    firstAt langgraph document checkpointId taskId batch path =
      some (documentOf langgraph taskId write) := by
  have hsome : (batch.find? fun other =>
      pathOf langgraph document checkpointId taskId other = path).isSome = true :=
    List.find?_isSome.2 ⟨write, hmem, by simpa using hpath⟩
  obtain ⟨found, hfound⟩ := Option.isSome_iff_exists.1 hsome
  have hsame : found = write :=
    honly found (List.mem_of_find?_eq_some hfound) (by simpa using List.find?_some hfound)
  rw [firstAt, hfound, hsame]
  rfl

end Batches

section Kept

/-- One call of `put_writes`. -/
structure Batch (Obj : Type) where
  threadId : String
  checkpointNs : String
  checkpointId : String
  writes : List (String × Obj)
  taskId : String

def Batch.deliver (langgraph : Langgraph Obj) (store : Store) (batch : Batch Obj) : Store :=
  putWrites langgraph store batch.threadId batch.checkpointNs batch.checkpointId batch.writes
    batch.taskId

def Store.entry (store : Store) (threadId checkpointNs checkpointId : String) :
    Option EntryDocument :=
  Documents.get store.entries (threadDocumentId threadId checkpointNs, checkpointId)

def Store.write (store : Store) (threadId checkpointNs checkpointId taskId : String) (idx : ℤ) :
    Option WriteDocument :=
  Documents.get store.writes
    (threadDocumentId threadId checkpointNs, checkpointId, writeDocumentId taskId idx)

def written (langgraph : Langgraph Obj) (taskId channel : String) (idx : ℤ) (value : Obj) :
    WriteDocument :=
  ⟨taskId, idx, channel, (langgraph.dumpsTyped value).1, (langgraph.dumpsTyped value).2⟩

/-- What `put_writes` and `delete_thread` do to the documents of a store. -/
structure WritesKept (langgraph : Langgraph Obj) (store : Store) : Prop where
  redelivered : ∀ batch : Batch Obj, ∀ path,
    Documents.get ((batch.deliver langgraph (batch.deliver langgraph store)).writes) path =
      Documents.get (batch.deliver langgraph store).writes path
  starts : ∀ (batch : Batch Obj) (k : ℕ) (channel : String) (value : Obj),
    batch.writes[k]? = some (channel, value) → langgraph.writesIdxMap channel = none →
      store.write batch.threadId batch.checkpointNs batch.checkpointId batch.taskId k = none →
        (batch.deliver langgraph store).write batch.threadId batch.checkpointNs batch.checkpointId
          batch.taskId k = some (written langgraph batch.taskId channel k value)
  first : ∀ (batches : List (Batch Obj)) (threadId checkpointNs checkpointId taskId : String)
    (idx : ℤ) (write : WriteDocument), 0 ≤ idx →
      store.write threadId checkpointNs checkpointId taskId idx = some write →
        (batches.foldl (Batch.deliver langgraph) store).write threadId checkpointNs checkpointId
          taskId idx = some write
  overwrites : ∀ (batch : Batch Obj) (before behind : List (String × Obj)) (channel : String)
    (value : Obj) (idx : ℤ), replacesAll langgraph batch.writes = true →
      batch.writes = before ++ (channel, value) :: behind →
        langgraph.writesIdxMap channel = some idx →
          (∀ later ∈ behind, langgraph.writesIdxMap later.1 ≠ some idx) →
            (batch.deliver langgraph store).write batch.threadId batch.checkpointNs
              batch.checkpointId batch.taskId idx =
                some (written langgraph batch.taskId channel idx value)
  others : ∀ (batch : Batch Obj) (threadId checkpointNs checkpointId taskId : String) (idx : ℤ),
    Named batch.threadId batch.checkpointNs → Named threadId checkpointNs →
      ¬ (threadId = batch.threadId ∧ checkpointNs = batch.checkpointNs ∧
        checkpointId = batch.checkpointId ∧ taskId = batch.taskId) →
        (batch.deliver langgraph store).write threadId checkpointNs checkpointId taskId idx =
          store.write threadId checkpointNs checkpointId taskId idx
  deleted : ∀ threadId checkpointNs checkpointId : String, Named threadId checkpointNs →
    (deleteThread store threadId).entry threadId checkpointNs checkpointId = none ∧
      ((store.entry threadId checkpointNs checkpointId).isSome = true → ∀ taskId idx,
        (deleteThread store threadId).write threadId checkpointNs checkpointId taskId idx = none)
  spared : ∀ threadId otherId checkpointNs checkpointId : String, Named otherId checkpointNs →
    otherId ≠ threadId →
      (deleteThread store threadId).entry otherId checkpointNs checkpointId =
          store.entry otherId checkpointNs checkpointId ∧
        ∀ taskId idx, (deleteThread store threadId).write otherId checkpointNs checkpointId taskId
          idx = store.write otherId checkpointNs checkpointId taskId idx

variable {store : Store}

theorem deliver_redelivered (batch : Batch Obj) (path : WritePath) :
    Documents.get ((batch.deliver langgraph (batch.deliver langgraph store)).writes) path =
      Documents.get (batch.deliver langgraph store).writes path := by
  simp only [Batch.deliver, putWrites]
  cases replacesAll langgraph batch.writes with
  | true =>
      rw [batch_replaces, batch_replaces]
      cases firstAt langgraph (threadDocumentId batch.threadId batch.checkpointNs)
        batch.checkpointId batch.taskId batch.writes.zipIdx.reverse path <;> rfl
  | false =>
      rw [batch_keeps, batch_keeps, Option.or_assoc, Option.or_self]

theorem replacesAll_special {writes : List (String × Obj)} (h : replacesAll langgraph writes = true)
    {write : (String × Obj) × ℕ} (hmem : write ∈ writes.zipIdx) :
    langgraph.writesIdxMap write.1.1 = some (resolvedIdx langgraph write) := by
  have hsome := List.all_eq_true.1 h write.1 (List.fst_mem_of_mem_zipIdx hmem)
  obtain ⟨idx, hidx⟩ := Option.isSome_iff_exists.1 hsome
  rw [resolvedIdx, hidx]
  rfl

theorem deliver_first (hreserved : ∀ channel idx, langgraph.writesIdxMap channel = some idx → idx < 0)
    (batch : Batch Obj) {threadId checkpointNs checkpointId taskId : String} {idx : ℤ}
    {write : WriteDocument} (hidx : 0 ≤ idx)
    (h : store.write threadId checkpointNs checkpointId taskId idx = some write) :
    (batch.deliver langgraph store).write threadId checkpointNs checkpointId taskId idx =
      some write := by
  simp only [Store.write, Batch.deliver, putWrites] at h ⊢
  cases hreplaces : replacesAll langgraph batch.writes with
  | true =>
      rw [batch_replaces, firstAt_none, h]
      · rfl
      · intro other hother hpath
        have hspecial := replacesAll_special hreplaces (List.mem_reverse.1 hother)
        have hsame := (writeDocumentId_inj (congrArg (fun path => path.2.2) hpath)).2
        have hnegative := hreserved _ _ hspecial
        omega
  | false =>
      rw [batch_keeps, h]
      rfl

theorem deliver_starts
    (hreserved : ∀ channel idx, langgraph.writesIdxMap channel = some idx → idx < 0)
    (batch : Batch Obj) {k : ℕ} {channel : String} {value : Obj}
    (hwrite : batch.writes[k]? = some (channel, value))
    (hordinary : langgraph.writesIdxMap channel = none)
    (hnew : store.write batch.threadId batch.checkpointNs batch.checkpointId batch.taskId k = none) :
    (batch.deliver langgraph store).write batch.threadId batch.checkpointNs batch.checkpointId
      batch.taskId k = some (written langgraph batch.taskId channel k value) := by
  have hmem : ((channel, value), k) ∈ batch.writes.zipIdx := List.mem_zipIdx_iff_getElem?.2 hwrite
  have hkeeps : replacesAll langgraph batch.writes = false := by
    refine Bool.eq_false_iff.2 fun hreplaces => ?_
    have hspecial := replacesAll_special hreplaces hmem
    rw [hordinary] at hspecial
    cases hspecial
  have hresolved : resolvedIdx langgraph ((channel, value), k) = k := by
    rw [resolvedIdx, hordinary]
    rfl
  simp only [Store.write, Batch.deliver, putWrites, hkeeps] at hnew ⊢
  rw [batch_keeps, hnew, Option.none_or, firstAt_only hmem]
  · simp only [documentOf, hresolved, written]
  · rw [pathOf, hresolved]
  · rintro ⟨⟨other, content⟩, position⟩ hother hpath
    have hsame : resolvedIdx langgraph ((other, content), position) = k :=
      (writeDocumentId_inj (congrArg (fun path => path.2.2) hpath)).2
    have hposition : position = k := by
      simp only [resolvedIdx] at hsame
      cases hmap : langgraph.writesIdxMap other with
      | none =>
          rw [hmap] at hsame
          exact Int.ofNat.inj hsame
      | some idx =>
          rw [hmap] at hsame
          have hnegative := hreserved other idx hmap
          simp only [Option.getD_some] at hsame
          omega
    subst hposition
    have hread := List.mem_zipIdx_iff_getElem?.1 hother
    rw [hwrite] at hread
    rw [Option.some.inj hread]

/-- The last write of a special channel in a batch of such channels stays. -/
theorem deliver_overwrites (batch : Batch Obj) {before behind : List (String × Obj)}
    {channel : String} {value : Obj} {idx : ℤ}
    (hreplaces : replacesAll langgraph batch.writes = true)
    (hsplit : batch.writes = before ++ (channel, value) :: behind)
    (hspecial : langgraph.writesIdxMap channel = some idx)
    (hlast : ∀ later ∈ behind, langgraph.writesIdxMap later.1 ≠ some idx) :
    (batch.deliver langgraph store).write batch.threadId batch.checkpointNs batch.checkpointId
      batch.taskId idx = some (written langgraph batch.taskId channel idx value) := by
  have hresolved : ∀ k : ℕ, resolvedIdx langgraph ((channel, value), k) = idx := by
    intro k
    rw [resolvedIdx, hspecial]
    rfl
  have hbehind : ∀ write ∈ (behind.zipIdx (before.length + 1)).reverse,
      pathOf langgraph (threadDocumentId batch.threadId batch.checkpointNs) batch.checkpointId
        batch.taskId write ≠ (threadDocumentId batch.threadId batch.checkpointNs,
          batch.checkpointId, writeDocumentId batch.taskId idx) := by
    intro write hwrite hpath
    have hmem : write.1 ∈ behind := List.fst_mem_of_mem_zipIdx (List.mem_reverse.1 hwrite)
    have hsame := (writeDocumentId_inj (congrArg (fun path => path.2.2) hpath)).2
    have hall := List.all_eq_true.1 hreplaces write.1 (by
      rw [hsplit]
      exact List.mem_append_right before (List.mem_cons_of_mem _ hmem))
    obtain ⟨other, hother⟩ := Option.isSome_iff_exists.1 hall
    rw [resolvedIdx, hother] at hsame
    exact hlast write.1 hmem (hother.trans (congrArg some hsame))
  have hnone := firstAt_none hbehind
  simp only [Store.write, Batch.deliver, putWrites, hreplaces]
  rw [batch_replaces, hsplit, List.zipIdx_append, List.zipIdx_cons, List.reverse_append,
    List.reverse_cons, List.append_assoc, firstAt, List.find?_append]
  rw [firstAt, Option.map_eq_none_iff] at hnone
  simp only [Nat.zero_add] at hnone ⊢
  rw [hnone]
  simp [pathOf, hresolved, documentOf, written]

theorem deliver_others (batch : Batch Obj) {threadId checkpointNs checkpointId taskId : String}
    (idx : ℤ) (hbatch : Named batch.threadId batch.checkpointNs) (hnamed : Named threadId checkpointNs)
    (hother : ¬ (threadId = batch.threadId ∧ checkpointNs = batch.checkpointNs ∧
      checkpointId = batch.checkpointId ∧ taskId = batch.taskId)) :
    (batch.deliver langgraph store).write threadId checkpointNs checkpointId taskId idx =
      store.write threadId checkpointNs checkpointId taskId idx := by
  have hpath : ∀ write : (String × Obj) × ℕ, pathOf langgraph
      (threadDocumentId batch.threadId batch.checkpointNs) batch.checkpointId batch.taskId write ≠
        (threadDocumentId threadId checkpointNs, checkpointId, writeDocumentId taskId idx) := by
    intro write heq
    obtain ⟨hdocument, hrest⟩ := Prod.mk.inj heq
    obtain ⟨hcheckpoint, hwrite⟩ := Prod.mk.inj hrest
    obtain ⟨hthread, hns⟩ := threadDocumentId_inj hbatch hnamed hdocument
    exact hother ⟨hthread.symm, hns.symm, hcheckpoint.symm, (writeDocumentId_inj hwrite).1.symm⟩
  simp only [Store.write, Batch.deliver, putWrites]
  cases replacesAll langgraph batch.writes with
  | true => rw [batch_replaces, firstAt_none fun write _ => hpath write, Option.none_or]
  | false => rw [batch_keeps, firstAt_none fun write _ => hpath write, Option.or_none]

theorem deliver_firsts
    (hreserved : ∀ channel idx, langgraph.writesIdxMap channel = some idx → idx < 0)
    (batches : List (Batch Obj)) {threadId checkpointNs checkpointId taskId : String} {idx : ℤ}
    {write : WriteDocument} (hidx : 0 ≤ idx)
    (h : store.write threadId checkpointNs checkpointId taskId idx = some write) :
    (batches.foldl (Batch.deliver langgraph) store).write threadId checkpointNs checkpointId taskId
      idx = some write := by
  induction batches generalizing store with
  | nil => exact h
  | cons batch rest ih => exact ih (deliver_first hreserved batch hidx h)

/-- The documents that a deletion goes through are those of the thread's own namespaces. -/
theorem Stored.deletes_document (h : Stored store) (threadId : String) {otherId checkpointNs : String}
    (hnamed : Named otherId checkpointNs) :
    threadDocumentId otherId checkpointNs ∈
        ((store.threads.map Prod.snd).filter fun thread => thread.threadId = threadId).map
          (fun thread => threadDocumentId threadId thread.checkpointNs) ↔
      otherId = threadId ∧
        (Documents.get store.threads (threadDocumentId otherId checkpointNs)).isSome = true := by
  rw [List.mem_map, Option.isSome_iff_exists]
  constructor
  · rintro ⟨thread, hthread, hdocument⟩
    obtain ⟨hmem, hid⟩ := List.mem_filter.1 hthread
    obtain rfl : thread.threadId = threadId := by simpa using hid
    obtain ⟨⟨document, stored⟩, hstored, hsecond⟩ := List.mem_map.1 hmem
    obtain rfl : stored = thread := hsecond
    have hget := (Documents.mem_iff_get h.threadsKeyed).1 hstored
    obtain ⟨hpath, hthread⟩ := h.thread document stored hget
    obtain ⟨hsame, -⟩ := threadDocumentId_inj hthread hnamed hdocument
    exact ⟨hsame.symm, stored, by rw [← hdocument, ← hpath, hget]⟩
  · rintro ⟨rfl, thread, hget⟩
    obtain ⟨hpath, hthread⟩ := h.thread _ thread hget
    obtain ⟨hid, -⟩ := threadDocumentId_inj hnamed hthread hpath
    refine ⟨thread, List.mem_filter.2 ⟨List.mem_map.2
      ⟨(threadDocumentId otherId checkpointNs, thread), ?_, rfl⟩, by simpa using hid.symm⟩, ?_⟩
    · exact (Documents.mem_iff_get h.threadsKeyed).2 hget
    · rw [hpath, ← hid]

theorem Stored.deleted (h : Stored store) {threadId checkpointNs : String} (checkpointId : String)
    (hnamed : Named threadId checkpointNs) :
    (Checkpoints.deleteThread store threadId).entry threadId checkpointNs checkpointId = none ∧
      ((store.entry threadId checkpointNs checkpointId).isSome = true → ∀ taskId idx,
        (Checkpoints.deleteThread store threadId).write threadId checkpointNs checkpointId taskId idx = none) := by
  have hdeletes := h.deleteThread threadId
  have hthread : ∀ entry, store.entry threadId checkpointNs checkpointId = some entry →
      (Documents.get store.threads (threadDocumentId threadId checkpointNs)).isSome = true := by
    intro entry hentry
    rw [(h.entry _ entry hentry).2.2]
    rfl
  constructor
  · rw [Store.entry, hdeletes.entries]
    cases hentry : store.entry threadId checkpointNs checkpointId with
    | none => split <;> [rfl; exact hentry]
    | some entry =>
        rw [if_pos ((h.deletes_document threadId hnamed).2 ⟨rfl, hthread entry hentry⟩)]
  · intro hsome taskId idx
    obtain ⟨entry, hentry⟩ := Option.isSome_iff_exists.1 hsome
    have hdocument := (h.deletes_document threadId hnamed).2 ⟨rfl, hthread entry hentry⟩
    rw [Store.write, hdeletes.writes, if_pos ⟨hdocument, hsome⟩]

theorem Stored.spared (h : Stored store) {threadId otherId checkpointNs : String}
    (checkpointId : String) (hnamed : Named otherId checkpointNs) (hother : otherId ≠ threadId) :
    (Checkpoints.deleteThread store threadId).entry otherId checkpointNs checkpointId =
        store.entry otherId checkpointNs checkpointId ∧
      ∀ taskId idx, (Checkpoints.deleteThread store threadId).write otherId checkpointNs checkpointId taskId idx =
        store.write otherId checkpointNs checkpointId taskId idx := by
  have hdeletes := h.deleteThread threadId
  have hdocument : threadDocumentId otherId checkpointNs ∉
      ((store.threads.map Prod.snd).filter fun thread => thread.threadId = threadId).map
        (fun thread => threadDocumentId threadId thread.checkpointNs) :=
    fun hmem => hother ((h.deletes_document threadId hnamed).1 hmem).1
  constructor
  · rw [Store.entry, hdeletes.entries, if_neg hdocument]
    rfl
  · intro taskId idx
    rw [Store.write, hdeletes.writes, if_neg fun hboth => hdocument hboth.1]
    rfl

theorem runAll_keeps_writes (langgraph : Langgraph Obj)
    (hreserved : ∀ channel idx, langgraph.writesIdxMap channel = some idx → idx < 0)
    (calls : List (Call Obj)) (hnamed : ∀ call ∈ calls, call.Named) :
    WritesKept langgraph (runAll langgraph .empty calls) where
  redelivered := deliver_redelivered
  starts := fun batch _ _ _ => deliver_starts hreserved batch
  first := fun batches _ _ _ _ _ _ => deliver_firsts hreserved batches
  overwrites := fun batch _ _ _ _ _ => deliver_overwrites batch
  others := fun batch _ _ _ _ idx => deliver_others batch idx
  deleted := fun _ _ checkpointId => (stored_empty.run hnamed).deleted checkpointId
  spared := fun _ _ _ checkpointId => (stored_empty.run hnamed).spared checkpointId

theorem runAll_keeps_writes_textual :
    WritesKept textual (runAll textual .empty
      [.put ⟨"run-1", "", none⟩ "1" [], .put ⟨"run-2", "", none⟩ "1" [],
        .putWrites "run-1" "" "1" [("plan", "a"), ("__error__", "no answer")] "task",
        .deleteThread "run-2"]) :=
  runAll_keeps_writes textual textual_reserved _ (by
    simp only [List.forall_mem_cons, Call.Named, List.not_mem_nil, IsEmpty.forall_iff, implies_true,
      and_true, and_self]
    decide)

/-- Two threads under one document: what deletes the one deletes the other. -/
theorem deleteThread_takes_another :
    let calls : List (Call String) :=
      [.put ⟨"a:", "b", none⟩ "1" [], .put ⟨"a", ":b", none⟩ "2" []]
    let store := runAll textual .empty calls
    (¬ "::".toList <:+: "a:".toList ∧ ¬ "::".toList <:+: "a".toList) ∧
      (store.entry "a:" "b" "1").isSome = true ∧
      ((deleteThread store "a").entry "a:" "b" "1").isSome = false := by
  decide +kernel

end Kept

end CausalOps.Checkpoints
