import CausalOps.Checkpoints.Listing
import CausalOps.Checkpoints.Writes

set_option autoImplicit false

/-! `get_tuple`, and the saver as a memory: what was put last under a thread, a namespace and a
checkpoint id, and the writes beside it, without documents and their ids. -/

namespace CausalOps.Checkpoints

section Reading

variable {Obj : Type}

/-- The entry that `get_tuple` reads, with its id. -/
def readEntry (store : Store) (config : Config) : Option (String × EntryDocument) :=
  let document := threadDocumentId config.threadId config.checkpointNs
  match config.checkpointId with
  | some checkpointId =>
      (Documents.get store.entries (document, checkpointId)).map fun entry => (checkpointId, entry)
  | none =>
      (limited (some 1) (newestFirst (entriesBelow store document))).head?.map fun entry =>
        (entry.checkpointId, entry)

def getTuple (langgraph : Langgraph Obj) (store : Store) (config : Config) :
    Option (CheckpointTuple Obj) :=
  (readEntry store config).map fun found =>
    { config := ⟨config.threadId, config.checkpointNs, some found.1⟩
      checkpoint := langgraph.loadsTyped (found.2.type, found.2.checkpoint)
      metadata := found.2.metadata
      parentConfig := parentConfig config.threadId config.checkpointNs found.2.parentCheckpointId
      pendingWrites := readWrites langgraph store
        (threadDocumentId config.threadId config.checkpointNs) found.1 }

end Reading

section Memory

variable {Obj : Type}

structure Remembered (Obj : Type) where
  checkpoint : Obj
  metadata : Json.Dict
  parentId : Option String

/-- Checkpoints by thread, namespace and id; writes also by task and index. -/
structure Memory (Obj : Type) where
  saved : String → String → String → Option (Remembered Obj)
  pending : String → String → String → String → ℤ → Option (String × Obj)

def Memory.empty : Memory Obj := ⟨fun _ _ _ => none, fun _ _ _ _ _ => none⟩

def Memory.put (langgraph : Langgraph Obj) (memory : Memory Obj) (config : Config)
    (checkpoint : Obj) (metadata : Json.Dict) : Memory Obj :=
  if (langgraph.dumpsTyped checkpoint).2.length > maxCheckpointBytes then memory
  else
    { memory with
      saved := fun threadId checkpointNs checkpointId =>
        if threadId = config.threadId ∧ checkpointNs = config.checkpointNs ∧
            checkpointId = langgraph.idOf checkpoint then
          some ⟨checkpoint, langgraph.getCheckpointMetadata config metadata, config.checkpointId⟩
        else memory.saved threadId checkpointNs checkpointId }

/-- The writes of one checkpoint after one more of a batch. -/
def pendingWrite (langgraph : Langgraph Obj) (taskId : String) (replaceAll : Bool)
    (pending : String → ℤ → Option (String × Obj)) (write : (String × Obj) × ℕ) :
    String → ℤ → Option (String × Obj) :=
  fun task idx =>
    if task = taskId ∧ idx = resolvedIdx langgraph write ∧
        (replaceAll || (pending task idx).isNone) = true then some write.1
    else pending task idx

def Memory.putWrites (langgraph : Langgraph Obj) (memory : Memory Obj)
    (threadId checkpointNs checkpointId : String) (writes : List (String × Obj)) (taskId : String) :
    Memory Obj :=
  { memory with
    pending := fun thread namespaced checkpoint =>
      if thread = threadId ∧ namespaced = checkpointNs ∧ checkpoint = checkpointId then
        writes.zipIdx.foldl (pendingWrite langgraph taskId (replacesAll langgraph writes))
          (memory.pending thread namespaced checkpoint)
      else memory.pending thread namespaced checkpoint }

/-- The writes beside a checkpoint that was never put stay. -/
def Memory.deleteThread (memory : Memory Obj) (threadId : String) : Memory Obj where
  saved := fun thread checkpointNs checkpointId =>
    if thread = threadId then none else memory.saved thread checkpointNs checkpointId
  pending := fun thread checkpointNs checkpointId task idx =>
    if thread = threadId ∧ (memory.saved thread checkpointNs checkpointId).isSome = true then none
    else memory.pending thread checkpointNs checkpointId task idx

def Memory.call (langgraph : Langgraph Obj) (memory : Memory Obj) : Call Obj → Memory Obj
  | .put config checkpoint metadata => memory.put langgraph config checkpoint metadata
  | .putWrites threadId checkpointNs checkpointId writes taskId =>
      memory.putWrites langgraph threadId checkpointNs checkpointId writes taskId
  | .deleteThread threadId => memory.deleteThread threadId

def remembered (langgraph : Langgraph Obj) (calls : List (Call Obj)) : Memory Obj :=
  calls.foldl (Memory.call langgraph) .empty

/-- The checkpoint that a config asks for: the one with its id, or the newest. -/
def Memory.Selects (memory : Memory Obj) (config : Config) (checkpointId : String) : Prop :=
  match config.checkpointId with
  | some asked => checkpointId = asked
  | none => ∀ other, (memory.saved config.threadId config.checkpointNs other).isSome = true →
      other ≤ checkpointId

/-- The writes beside a checkpoint, each once and in the order of their tasks and indices. -/
def Memory.Pends (memory : Memory Obj) (threadId checkpointNs checkpointId : String)
    (listed : List (PendingWrite Obj)) : Prop :=
  ∃ rows : List ((String × ℤ) × String × Obj),
    rows.Pairwise (fun first second => toLex first.1 < toLex second.1) ∧
      (∀ task idx write, ((task, idx), write) ∈ rows ↔
        memory.pending threadId checkpointNs checkpointId task idx = some write) ∧
      listed = rows.map fun row => ⟨row.1.1, row.2.1, row.2.2⟩

/-- What `get_tuple` returns, by the memory. -/
inductive Memory.Reads (memory : Memory Obj) (config : Config) :
    Option (CheckpointTuple Obj) → Prop
  | missing (hnone : ∀ checkpointId, memory.Selects config checkpointId →
      memory.saved config.threadId config.checkpointNs checkpointId = none) :
      Memory.Reads memory config none
  | found (checkpointId : String) (kept : Remembered Obj) (listed : List (PendingWrite Obj))
      (hselects : memory.Selects config checkpointId)
      (hsaved : memory.saved config.threadId config.checkpointNs checkpointId = some kept)
      (hpends : memory.Pends config.threadId config.checkpointNs checkpointId listed) :
      Memory.Reads memory config (some
        { config := ⟨config.threadId, config.checkpointNs, some checkpointId⟩
          checkpoint := kept.checkpoint
          metadata := kept.metadata
          parentConfig := parentConfig config.threadId config.checkpointNs kept.parentId
          pendingWrites := listed })

end Memory

section Coupling

variable {Obj : Type}

def entryFor (langgraph : Langgraph Obj) (threadId checkpointNs checkpointId : String)
    (kept : Remembered Obj) : EntryDocument where
  threadId := threadId
  checkpointNs := checkpointNs
  checkpointId := checkpointId
  parentCheckpointId := kept.parentId
  type := (langgraph.dumpsTyped kept.checkpoint).1
  checkpoint := (langgraph.dumpsTyped kept.checkpoint).2
  metadata := kept.metadata

def writeFor (langgraph : Langgraph Obj) (taskId : String) (idx : ℤ) (write : String × Obj) :
    WriteDocument :=
  written langgraph taskId write.1 idx write.2

/-- The documents below names that are told apart are those of the memory. -/
structure Refines (langgraph : Langgraph Obj) (store : Store) (memory : Memory Obj) : Prop where
  saved : ∀ threadId checkpointNs, Named threadId checkpointNs → ∀ checkpointId,
    store.entry threadId checkpointNs checkpointId =
      (memory.saved threadId checkpointNs checkpointId).map
        (entryFor langgraph threadId checkpointNs checkpointId)
  pending : ∀ threadId checkpointNs, Named threadId checkpointNs → ∀ checkpointId taskId idx,
    store.write threadId checkpointNs checkpointId taskId idx =
      (memory.pending threadId checkpointNs checkpointId taskId idx).map
        (writeFor langgraph taskId idx)

variable {langgraph : Langgraph Obj} {store : Store} {memory : Memory Obj}

theorem refines_empty : Refines langgraph .empty (.empty : Memory Obj) where
  saved := fun _ _ _ _ => rfl
  pending := fun _ _ _ _ _ _ => rfl

theorem path_iff {threadId checkpointNs checkpointId otherId otherNs other : String}
    (hnamed : Named threadId checkpointNs) (hother : Named otherId otherNs) :
    (threadDocumentId otherId otherNs, other) =
        (threadDocumentId threadId checkpointNs, checkpointId) ↔
      threadId = otherId ∧ checkpointNs = otherNs ∧ checkpointId = other := by
  constructor
  · intro heq
    obtain ⟨hdocument, hid⟩ := Prod.mk.inj heq
    obtain ⟨hthread, hns⟩ := threadDocumentId_inj hother hnamed hdocument
    exact ⟨hthread.symm, hns.symm, hid.symm⟩
  · rintro ⟨rfl, rfl, rfl⟩
    rfl

theorem Refines.put (h : Refines langgraph store memory) {config : Config}
    (hconfig : Named config.threadId config.checkpointNs) (checkpoint : Obj)
    (metadata : Json.Dict) :
    Refines langgraph (Checkpoints.put langgraph store config checkpoint metadata).2
      (memory.put langgraph config checkpoint metadata) := by
  unfold Checkpoints.put Memory.put
  dsimp only
  split
  · exact h
  · refine ⟨?_, h.pending⟩
    intro threadId checkpointNs hnamed checkpointId
    simp only [Store.entry, Documents.get_set, path_iff hnamed hconfig]
    by_cases hsame : threadId = config.threadId ∧ checkpointNs = config.checkpointNs ∧
        checkpointId = langgraph.idOf checkpoint
    · obtain ⟨rfl, rfl, rfl⟩ := hsame
      rw [if_pos ⟨rfl, rfl, rfl⟩, if_pos ⟨rfl, rfl, rfl⟩]
      rfl
    · rw [if_neg hsame, if_neg hsame]
      exact h.saved threadId checkpointNs hnamed checkpointId

theorem writePath_iff {document checkpointId taskId task : String} {idx : ℤ}
    (write : (String × Obj) × ℕ) :
    pathOf langgraph document checkpointId taskId write =
        (document, checkpointId, writeDocumentId task idx) ↔
      task = taskId ∧ idx = resolvedIdx langgraph write := by
  constructor
  · intro heq
    obtain ⟨htask, hidx⟩ := writeDocumentId_inj (Prod.mk.inj (Prod.mk.inj heq).2).2
    exact ⟨htask.symm, hidx.symm⟩
  · rintro ⟨rfl, rfl⟩
    rfl

/-- The documents of one checkpoint's writes are those of `pending`. -/
def Matches (langgraph : Langgraph Obj) (document checkpointId : String)
    (writes : List (WritePath × WriteDocument)) (pending : String → ℤ → Option (String × Obj)) :
    Prop :=
  ∀ task idx, Documents.get writes (document, checkpointId, writeDocumentId task idx) =
    (pending task idx).map (writeFor langgraph task idx)

theorem Matches.write {document checkpointId : String} {writes : List (WritePath × WriteDocument)}
    {pending : String → ℤ → Option (String × Obj)}
    (h : Matches langgraph document checkpointId writes pending) (taskId : String)
    (replaceAll : Bool) (write : (String × Obj) × ℕ) :
    Matches langgraph document checkpointId
      (putWrite langgraph document checkpointId taskId replaceAll writes write)
      (pendingWrite langgraph taskId replaceAll pending write) := by
  intro task idx
  have hpath : pathOf langgraph document checkpointId taskId write =
      (document, checkpointId, writeDocumentId task idx) ↔
        task = taskId ∧ idx = resolvedIdx langgraph write := writePath_iff write
  by_cases hsame : task = taskId ∧ idx = resolvedIdx langgraph write
  · cases replaceAll with
    | true =>
        rw [putWrite_replaces, if_pos (hpath.2 hsame)]
        obtain ⟨rfl, rfl⟩ := hsame
        simp [pendingWrite]
        rfl
    | false =>
        rw [putWrite_keeps, if_pos (hpath.2 hsame), h]
        obtain ⟨rfl, rfl⟩ := hsame
        cases hpending : pending task (resolvedIdx langgraph write) with
        | none =>
            simp [pendingWrite, hpending]
            rfl
        | some kept => simp [pendingWrite, hpending]
  · have hkept : pendingWrite langgraph taskId replaceAll pending write task idx =
        pending task idx := if_neg fun hall => hsame ⟨hall.1, hall.2.1⟩
    rw [hkept, ← h]
    cases replaceAll with
    | true => rw [putWrite_replaces, if_neg (mt hpath.1 hsame)]
    | false => rw [putWrite_keeps, if_neg (mt hpath.1 hsame), Option.or_none]

theorem Matches.batch {document checkpointId : String} {writes : List (WritePath × WriteDocument)}
    {pending : String → ℤ → Option (String × Obj)}
    (h : Matches langgraph document checkpointId writes pending) (taskId : String)
    (replaceAll : Bool) (batch : List ((String × Obj) × ℕ)) :
    Matches langgraph document checkpointId
      (batch.foldl (putWrite langgraph document checkpointId taskId replaceAll) writes)
      (batch.foldl (pendingWrite langgraph taskId replaceAll) pending) := by
  induction batch generalizing writes pending with
  | nil => exact h
  | cons write rest ih => exact ih (h.write taskId replaceAll write)

theorem Refines.putWrites (h : Refines langgraph store memory) {threadId checkpointNs : String}
    (hnamed : Named threadId checkpointNs) (checkpointId : String) (writes : List (String × Obj))
    (taskId : String) :
    Refines langgraph
      (Checkpoints.putWrites langgraph store threadId checkpointNs checkpointId writes taskId)
      (memory.putWrites langgraph threadId checkpointNs checkpointId writes taskId) := by
  refine ⟨h.saved, ?_⟩
  intro thread namespaced hother checkpoint task idx
  by_cases hsame : thread = threadId ∧ namespaced = checkpointNs ∧ checkpoint = checkpointId
  · obtain ⟨rfl, rfl, rfl⟩ := hsame
    have hbatch := Matches.batch (h.pending thread namespaced hnamed checkpoint) taskId
      (replacesAll langgraph writes) writes.zipIdx task idx
    simp only [Memory.putWrites, and_self, if_true]
    exact hbatch
  · have hkept : (Checkpoints.putWrites langgraph store threadId checkpointNs checkpointId writes
        taskId).write thread namespaced checkpoint task idx =
          store.write thread namespaced checkpoint task idx :=
      deliver_others ⟨threadId, checkpointNs, checkpointId, writes, taskId⟩ idx hnamed hother
        fun hall => hsame ⟨hall.1, hall.2.1, hall.2.2.1⟩
    simp only [Memory.putWrites, if_neg hsame]
    exact hkept.trans (h.pending thread namespaced hother checkpoint task idx)

theorem Stored.thread_of_entry (h : Stored store) {threadId checkpointNs checkpointId : String}
    (hsome : (store.entry threadId checkpointNs checkpointId).isSome = true) :
    (Documents.get store.threads (threadDocumentId threadId checkpointNs)).isSome = true := by
  obtain ⟨entry, hentry⟩ := Option.isSome_iff_exists.1 hsome
  obtain ⟨-, -, hthread⟩ := h.entry _ entry hentry
  rw [hthread]
  rfl

theorem Refines.deleteThread (h : Refines langgraph store memory) (hstored : Stored store)
    (threadId : String) :
    Refines langgraph (Checkpoints.deleteThread store threadId) (memory.deleteThread threadId) := by
  have hgone := hstored.deleteThread threadId
  constructor
  · intro other checkpointNs hnamed checkpointId
    rw [Store.entry, hgone.entries]
    simp only [Memory.deleteThread, hstored.deletes_document _ hnamed]
    by_cases hthread : other = threadId
    · rw [if_pos hthread, Option.map_none]
      split
      · rfl
      · rename_i hkept
        by_contra hentry
        exact hkept ⟨hthread, hstored.thread_of_entry (Option.isSome_iff_ne_none.2 hentry)⟩
    · rw [if_neg hthread, if_neg fun hall => hthread hall.1]
      exact h.saved other checkpointNs hnamed checkpointId
  · intro other checkpointNs hnamed checkpointId task idx
    have hsaved : (memory.saved other checkpointNs checkpointId).isSome =
        (store.entry other checkpointNs checkpointId).isSome := by
      rw [h.saved other checkpointNs hnamed checkpointId, Option.isSome_map]
    rw [Store.write, hgone.writes]
    simp only [Memory.deleteThread, hstored.deletes_document _ hnamed, hsaved]
    have hpending := h.pending other checkpointNs hnamed checkpointId task idx
    by_cases hall : other = threadId ∧
        (store.entry other checkpointNs checkpointId).isSome = true
    · rw [if_pos hall, if_pos ⟨⟨hall.1, hstored.thread_of_entry hall.2⟩, hall.2⟩]
      rfl
    · rw [if_neg hall, if_neg fun hdeleted => hall ⟨hdeleted.1.1, hdeleted.2⟩]
      exact hpending

theorem Refines.call (h : Refines langgraph store memory) (hstored : Stored store)
    {call : Call Obj} (hnamed : call.Named) :
    Refines langgraph (call.run langgraph store) (memory.call langgraph call) := by
  cases call with
  | put config checkpoint metadata => exact h.put hnamed checkpoint metadata
  | putWrites threadId checkpointNs checkpointId writes taskId => exact h.putWrites hnamed _ _ _
  | deleteThread threadId => exact h.deleteThread hstored threadId

theorem refines_run (langgraph : Langgraph Obj) {calls : List (Call Obj)}
    (hnamed : ∀ call ∈ calls, call.Named) :
    Refines langgraph (runAll langgraph .empty calls) (remembered langgraph calls) := by
  have hrun : ∀ (calls : List (Call Obj)) (store : Store) (memory : Memory Obj),
      Refines langgraph store memory → Stored store → (∀ call ∈ calls, call.Named) →
        Refines langgraph (runAll langgraph store calls)
          (calls.foldl (Memory.call langgraph) memory) := by
    intro calls
    induction calls with
    | nil => exact fun store memory h _ _ => h
    | cons call rest ih =>
        intro store memory h hstored hall
        have hfirst := hall call List.mem_cons_self
        exact ih _ _ (h.call hstored hfirst) (hstored.call hfirst)
          fun other hother => hall other (List.mem_cons_of_mem call hother)
  exact hrun calls _ _ refines_empty stored_empty hnamed

end Coupling

section Reads

variable {Obj : Type} {langgraph : Langgraph Obj} {store : Store} {memory : Memory Obj}

def writesBelow (store : Store) (document checkpointId : String) : List WriteDocument :=
  (store.writes.filter fun stored =>
    stored.1.1 = document ∧ stored.1.2.1 = checkpointId).map Prod.snd

theorem Stored.mem_writesBelow (h : Stored store) {document checkpointId : String}
    {write : WriteDocument} :
    write ∈ writesBelow store document checkpointId ↔
      Documents.get store.writes
        (document, checkpointId, writeDocumentId write.taskId write.idx) = some write := by
  simp only [writesBelow, List.mem_map, List.mem_filter, decide_eq_true_eq]
  constructor
  · rintro ⟨⟨path, stored⟩, ⟨hstored, rfl, rfl⟩, rfl⟩
    have hget := (Documents.mem_iff_get h.writesKeyed).1 hstored
    rw [← h.write path stored hget]
    exact hget
  · intro hget
    exact ⟨(_, write), ⟨(Documents.mem_iff_get h.writesKeyed).2 hget, rfl, rfl⟩, rfl⟩

theorem Stored.writesBelow_nodup (h : Stored store) (document checkpointId : String) :
    ((writesBelow store document checkpointId).map fun write => (write.taskId, write.idx)).Nodup := by
  have hpaths : ((store.writes.filter fun stored =>
      stored.1.1 = document ∧ stored.1.2.1 = checkpointId).map Prod.fst).Nodup :=
    h.writesKeyed.of_sublist List.filter_sublist
  have heq : (store.writes.filter fun stored =>
      stored.1.1 = document ∧ stored.1.2.1 = checkpointId).map Prod.fst =
      ((writesBelow store document checkpointId).map fun write =>
        (write.taskId, write.idx)).map fun key =>
          (document, checkpointId, writeDocumentId key.1 key.2) := by
    rw [writesBelow, List.map_map, List.map_map]
    refine List.map_congr_left fun stored hstored => ?_
    obtain ⟨hmem, hbelow⟩ := List.mem_filter.1 hstored
    obtain ⟨hdocument, hid⟩ : stored.1.1 = document ∧ stored.1.2.1 = checkpointId := by
      simpa using hbelow
    have hget := (Documents.mem_iff_get h.writesKeyed).1 hmem
    obtain ⟨⟨first, second, third⟩, write⟩ := stored
    obtain rfl : first = document := hdocument
    obtain rfl : second = checkpointId := hid
    have hthird : third = writeDocumentId write.taskId write.idx := h.write _ write hget
    rw [hthird]
    rfl
  rw [heq] at hpaths
  exact List.Nodup.of_map _ hpaths

/-- The order in which `_read_writes` sorts. -/
def writeLe (first second : WriteDocument) : Bool :=
  first.taskId < second.taskId || (first.taskId = second.taskId && first.idx ≤ second.idx)

theorem writeLe_iff {first second : WriteDocument} :
    writeLe first second = true ↔
      toLex (first.taskId, first.idx) ≤ toLex (second.taskId, second.idx) := by
  simp [writeLe, Prod.Lex.toLex_le_toLex]

theorem sortedWrites (writes : List WriteDocument) :
    (writes.mergeSort writeLe).Pairwise fun first second =>
      toLex (first.taskId, first.idx) ≤ toLex (second.taskId, second.idx) := by
  refine (List.pairwise_mergeSort ?_ ?_ writes).imp writeLe_iff.1
  · intro first second third hfirst hsecond
    exact writeLe_iff.2 ((writeLe_iff.1 hfirst).trans (writeLe_iff.1 hsecond))
  · intro first second
    rw [Bool.or_eq_true, writeLe_iff, writeLe_iff]
    exact le_total _ _

/-- The writes that `get_tuple` returns are those of the memory. -/
theorem Refines.pends (h : Refines langgraph store memory) (hstored : Stored store)
    (hserde : ∀ obj, langgraph.loadsTyped (langgraph.dumpsTyped obj) = obj)
    {threadId checkpointNs : String} (hnamed : Named threadId checkpointNs) (checkpointId : String) :
    memory.Pends threadId checkpointNs checkpointId
      (readWrites langgraph store (threadDocumentId threadId checkpointNs) checkpointId) := by
  let below := writesBelow store (threadDocumentId threadId checkpointNs) checkpointId
  let row (write : WriteDocument) : (String × ℤ) × String × Obj :=
    ((write.taskId, write.idx), write.channel, langgraph.loadsTyped (write.type, write.value))
  refine ⟨(below.mergeSort writeLe).map row, ?_, ?_, ?_⟩
  · have hnodup : ((below.mergeSort writeLe).map fun write => (write.taskId, write.idx)).Nodup :=
      ((List.mergeSort_perm below writeLe).map _).nodup_iff.2
        (hstored.writesBelow_nodup _ checkpointId)
    have hne := List.pairwise_map.1 hnodup
    rw [List.pairwise_map]
    refine ((sortedWrites below).and hne).imp fun hboth => ?_
    exact lt_of_le_of_ne hboth.1 fun heq => hboth.2 (toLex.injective heq)
  · intro task idx write
    have hpending := h.pending threadId checkpointNs hnamed checkpointId task idx
    simp only [List.mem_map, List.mem_mergeSort]
    constructor
    · rintro ⟨stored, hmem, hrow⟩
      obtain ⟨hkey, rfl⟩ := Prod.mk.inj hrow
      obtain ⟨rfl, rfl⟩ := Prod.mk.inj hkey
      rw [Store.write, hstored.mem_writesBelow.1 hmem] at hpending
      obtain ⟨kept, hkept, hdocument⟩ := Option.map_eq_some_iff.1 hpending.symm
      rw [hkept, ← hdocument]
      simp [writeFor, written, hserde]
    · intro hkept
      rw [hkept, Option.map_some] at hpending
      refine ⟨writeFor langgraph task idx write, hstored.mem_writesBelow.2 hpending, ?_⟩
      simp [row, writeFor, written, hserde]
  · rw [List.map_map]
    rfl

theorem Refines.found (h : Refines langgraph store memory) (hstored : Stored store)
    (hserde : ∀ obj, langgraph.loadsTyped (langgraph.dumpsTyped obj) = obj) {config : Config}
    (hconfig : Named config.threadId config.checkpointNs) {checkpointId : String}
    {entry : EntryDocument} (hselects : memory.Selects config checkpointId)
    (hentry : store.entry config.threadId config.checkpointNs checkpointId = some entry)
    (hread : readEntry store config = some (checkpointId, entry)) :
    memory.Reads config (getTuple langgraph store config) := by
  have hsaved := h.saved config.threadId config.checkpointNs hconfig checkpointId
  rw [hentry] at hsaved
  obtain ⟨kept, hkept, rfl⟩ := Option.map_eq_some_iff.1 hsaved.symm
  have hfound := Memory.Reads.found checkpointId kept _ hselects hkept
    (h.pends hstored hserde hconfig checkpointId)
  rw [getTuple, hread, Option.map_some]
  simpa only [entryFor, Prod.mk.eta, hserde] using hfound

theorem Refines.reads (h : Refines langgraph store memory) (hstored : Stored store)
    (hserde : ∀ obj, langgraph.loadsTyped (langgraph.dumpsTyped obj) = obj) {config : Config}
    (hconfig : Named config.threadId config.checkpointNs) :
    memory.Reads config (getTuple langgraph store config) := by
  have hsaved := h.saved config.threadId config.checkpointNs hconfig
  cases hasked : config.checkpointId with
  | some asked =>
      have hselects : ∀ id, memory.Selects config id ↔ id = asked := by
        intro id
        simp [Memory.Selects, hasked]
      cases hentry : store.entry config.threadId config.checkpointNs asked with
      | none =>
          have hread : getTuple langgraph store config = none := by
            have hget : Documents.get store.entries
                (threadDocumentId config.threadId config.checkpointNs, asked) = none := hentry
            simp [getTuple, readEntry, hasked, hget]
          rw [hread]
          refine .missing fun id hid => ?_
          obtain rfl := (hselects id).1 hid
          have hnone := hsaved id
          rw [hentry] at hnone
          exact Option.map_eq_none_iff.1 hnone.symm
      | some entry =>
          have hget : Documents.get store.entries
              (threadDocumentId config.threadId config.checkpointNs, asked) = some entry := hentry
          exact h.found hstored hserde hconfig ((hselects asked).2 rfl) hentry
            (by simp [readEntry, hasked, hget])
  | none =>
      let document := threadDocumentId config.threadId config.checkpointNs
      have hbelow : ∀ id, (memory.saved config.threadId config.checkpointNs id).isSome = true ↔
          id ∈ (newestFirst (entriesBelow store document)).map EntryDocument.checkpointId := by
        intro id
        have hperm := (List.mergeSort_perm (entriesBelow store document) fun first second =>
          decide (second.checkpointId ≤ first.checkpointId)).map EntryDocument.checkpointId
        rw [newestFirst, hperm.mem_iff, hstored.entriesBelow_iff]
        have hid := hsaved id
        rw [Store.entry] at hid
        rw [hid, Option.isSome_map]
      cases hnewest : newestFirst (entriesBelow store document) with
      | nil =>
          have hread : getTuple langgraph store config = none := by
            simp only [getTuple, readEntry, hasked]
            rw [show newestFirst (entriesBelow store
              (threadDocumentId config.threadId config.checkpointNs)) = [] from hnewest]
            rfl
          rw [hread]
          refine .missing fun id _ => ?_
          have hid := hbelow id
          rw [hnewest] at hid
          simpa using hid
      | cons entry rest =>
          have hmem : entry ∈ entriesBelow store document := by
            have hin : entry ∈ newestFirst (entriesBelow store document) := by
              rw [hnewest]
              exact List.mem_cons_self
            exact List.mem_mergeSort.1 hin
          have hplaced : Placed store.entries :=
            ⟨hstored.entriesKeyed, fun path entry hget => (hstored.entry path entry hget).1⟩
          refine h.found hstored hserde hconfig ?_ (hplaced.get_below hmem) ?_
          · simp only [Memory.Selects, hasked]
            intro other hother
            obtain ⟨stored, hin, rfl⟩ := List.mem_map.1 ((hbelow other).1 hother)
            have hsorted := newestFirst_sorted (entriesBelow store document)
            rw [hnewest] at hsorted hin
            rcases List.mem_cons.1 hin with rfl | hlater
            · exact le_refl _
            · exact (List.pairwise_cons.1 hsorted).1 stored hlater
          · simp only [readEntry, hasked]
            rw [show newestFirst (entriesBelow store
              (threadDocumentId config.threadId config.checkpointNs)) = entry :: rest from hnewest]
            rfl

/-- After any calls with names that are told apart, `get_tuple` returns what the calls say:
the checkpoint that was put last under the id asked for, or under the greatest one, with its
writes in their order. -/
theorem get_tuple_reads (langgraph : Langgraph Obj)
    (hserde : ∀ obj, langgraph.loadsTyped (langgraph.dumpsTyped obj) = obj)
    (calls : List (Call Obj)) (hnamed : ∀ call ∈ calls, call.Named) (config : Config)
    (hconfig : Named config.threadId config.checkpointNs) :
    (remembered langgraph calls).Reads config
      (getTuple langgraph (runAll langgraph .empty calls) config) :=
  (refines_run langgraph hnamed).reads (stored_empty.run hnamed) hserde hconfig

def binary : Langgraph Bytes where
  dumpsTyped := fun bytes => ("bytes", bytes)
  loadsTyped := Prod.snd
  idOf := fun bytes => String.ofList (bytes.map fun byte => Char.ofNat byte.toNat)
  getCheckpointMetadata := fun _ metadata => metadata
  writesIdxMap := textual.writesIdxMap
  represent := fun text => "'" ++ text ++ "'"

/-- Two checkpoints of a run, a write beside the second, and another run that goes. -/
def savedTwice : List (Call Bytes) :=
  [.put ⟨"run-1", "", none⟩ [49] [], .put ⟨"run-2", "", none⟩ [57] [],
    .put ⟨"run-1", "", some "1"⟩ [50] [],
    .putWrites "run-1" "" "2" [("messages", [1, 2])] "task", .deleteThread "run-2"]

theorem savedTwice_named : ∀ call ∈ savedTwice, call.Named := by
  intro call hcall
  simp only [savedTwice, List.mem_cons, List.not_mem_nil, or_false] at hcall
  rcases hcall with rfl | rfl | rfl | rfl | rfl
  · exact (by decide : Named "run-1" "")
  · exact (by decide : Named "run-2" "")
  · exact (by decide : Named "run-1" "")
  · exact (by decide : Named "run-1" "")
  · trivial

theorem get_tuple_reads_savedTwice :
    (remembered binary savedTwice).Reads ⟨"run-1", "", none⟩
      (getTuple binary (runAll binary .empty savedTwice) ⟨"run-1", "", none⟩) :=
  get_tuple_reads binary (fun _ => rfl) savedTwice savedTwice_named ⟨"run-1", "", none⟩ (by decide)

end Reads

end CausalOps.Checkpoints
