import Mathlib
import CausalOps.Library.Documents
import CausalOps.Library.Json

set_option autoImplicit false

/-! The checkpoint saver on Firestore: documents for threads, checkpoints and writes, each under
its path. -/

namespace CausalOps.Checkpoints

section Documents

abbrev Bytes := List UInt8

def maxCheckpointBytes : ℕ := 900 * 1024

def threadDocumentId (threadId checkpointNs : String) : String := threadId ++ "::" ++ checkpointNs

def writeDocumentId (taskId : String) (idx : ℤ) : String := taskId ++ "::" ++ toString idx

structure ThreadDocument where
  threadId : String
  checkpointNs : String
  deriving DecidableEq, Repr

/-- A checkpoint; its metadata as the JSON text reads back. -/
structure EntryDocument where
  threadId : String
  checkpointNs : String
  checkpointId : String
  parentCheckpointId : Option String
  type : String
  checkpoint : Bytes
  metadata : Json.Dict
  deriving Repr

structure WriteDocument where
  taskId : String
  idx : ℤ
  channel : String
  type : String
  value : Bytes
  deriving DecidableEq, Repr

abbrev EntryPath := String × String

abbrev WritePath := String × String × String

/-- The documents of `checkpoint_threads`, of the `entries` below them, and of the `writes`
below those. -/
structure Store where
  threads : List (String × ThreadDocument)
  entries : List (EntryPath × EntryDocument)
  writes : List (WritePath × WriteDocument)

def Store.empty : Store := ⟨[], [], []⟩

end Documents

section Saver

variable {Obj : Type}

/-- `config["configurable"]`, as far as it is read; a namespace that is missing is empty. -/
structure Config where
  threadId : String
  checkpointNs : String
  checkpointId : Option String
  deriving DecidableEq, Repr

/-- What the saver takes from LangGraph and from Python's `repr`. -/
structure Langgraph (Obj : Type) where
  dumpsTyped : Obj → String × Bytes
  loadsTyped : String × Bytes → Obj
  idOf : Obj → String
  getCheckpointMetadata : Config → Json.Dict → Json.Dict
  writesIdxMap : String → Option ℤ
  represent : String → String

structure CheckpointTooLargeError where
  message : String
  deriving DecidableEq, Repr

def tooLarge (langgraph : Langgraph Obj) (threadId : String) (size : ℕ) :
    CheckpointTooLargeError :=
  ⟨"checkpoint for thread " ++ langgraph.represent threadId ++ " is " ++ toString size ++
    " bytes, over the " ++ toString maxCheckpointBytes ++ "-byte (900 KiB) cap"⟩

def entryOf (langgraph : Langgraph Obj) (config : Config) (checkpoint : Obj)
    (metadata : Json.Dict) : EntryDocument where
  threadId := config.threadId
  checkpointNs := config.checkpointNs
  checkpointId := langgraph.idOf checkpoint
  parentCheckpointId := config.checkpointId
  type := (langgraph.dumpsTyped checkpoint).1
  checkpoint := (langgraph.dumpsTyped checkpoint).2
  metadata := langgraph.getCheckpointMetadata config metadata

def put (langgraph : Langgraph Obj) (store : Store) (config : Config) (checkpoint : Obj)
    (metadata : Json.Dict) : Except CheckpointTooLargeError Config × Store :=
  let size := (langgraph.dumpsTyped checkpoint).2.length
  if size > maxCheckpointBytes then (.error (tooLarge langgraph config.threadId size), store)
  else
    let document := threadDocumentId config.threadId config.checkpointNs
    (.ok { config with checkpointId := some (langgraph.idOf checkpoint) },
      { store with
        threads := Documents.set store.threads document ⟨config.threadId, config.checkpointNs⟩
        entries := Documents.set store.entries (document, langgraph.idOf checkpoint)
          (entryOf langgraph config checkpoint metadata) })

/-- One write of a batch: an index that is taken is left as it is, unless the whole batch
replaces. -/
def putWrite (langgraph : Langgraph Obj) (document checkpointId taskId : String)
    (replaceAll : Bool) (writes : List (WritePath × WriteDocument)) (write : (String × Obj) × ℕ) :
    List (WritePath × WriteDocument) :=
  let channel := write.1.1
  let resolvedIdx := (langgraph.writesIdxMap channel).getD write.2
  let path := (document, checkpointId, writeDocumentId taskId resolvedIdx)
  if !replaceAll && (Documents.get writes path).isSome then writes
  else
    let value := langgraph.dumpsTyped write.1.2
    Documents.set writes path ⟨taskId, resolvedIdx, channel, value.1, value.2⟩

def replacesAll (langgraph : Langgraph Obj) (writes : List (String × Obj)) : Bool :=
  writes.all fun write => (langgraph.writesIdxMap write.1).isSome

def putWrites (langgraph : Langgraph Obj) (store : Store) (threadId checkpointNs checkpointId : String)
    (writes : List (String × Obj)) (taskId : String) : Store :=
  { store with
    writes := writes.zipIdx.foldl
      (putWrite langgraph (threadDocumentId threadId checkpointNs) checkpointId taskId
        (replacesAll langgraph writes)) store.writes }

/-- Delete the writes below an entry, each under the id rebuilt from its fields. -/
def deleteWrites (document checkpointId : String) (writes : List (WritePath × WriteDocument)) :
    List (WritePath × WriteDocument) :=
  (writes.filter fun stored => stored.1.1 = document ∧ stored.1.2.1 = checkpointId).foldl
    (fun left stored => Documents.delete left
      (document, checkpointId, writeDocumentId stored.2.taskId stored.2.idx)) writes

def deleteEntry (document : String) (store : Store) (entry : EntryDocument) : Store :=
  { store with
    writes := deleteWrites document entry.checkpointId store.writes
    entries := Documents.delete store.entries (document, entry.checkpointId) }

def entriesBelow (store : Store) (document : String) : List EntryDocument :=
  (store.entries.filter fun stored => stored.1.1 = document).map Prod.snd

def deleteNamespace (threadId : String) (store : Store) (thread : ThreadDocument) : Store :=
  let document := threadDocumentId threadId thread.checkpointNs
  let emptied := (entriesBelow store document).foldl (deleteEntry document) store
  { emptied with threads := Documents.delete emptied.threads document }

def deleteThread (store : Store) (threadId : String) : Store :=
  ((store.threads.map Prod.snd).filter fun thread => thread.threadId = threadId).foldl
    (deleteNamespace threadId) store

end Saver

section Listing

variable {Obj : Type}

structure PendingWrite (Obj : Type) where
  taskId : String
  channel : String
  value : Obj

structure CheckpointTuple (Obj : Type) where
  config : Config
  checkpoint : Obj
  metadata : Json.Dict
  parentConfig : Option Config
  pendingWrites : List (PendingWrite Obj)

/-- `_read_writes`, in the order of their tasks and indices. -/
def readWrites (langgraph : Langgraph Obj) (store : Store) (document checkpointId : String) :
    List (PendingWrite Obj) :=
  let rows := (store.writes.filter fun stored =>
    stored.1.1 = document ∧ stored.1.2.1 = checkpointId).map Prod.snd
  let sorted := rows.mergeSort fun first second =>
    first.taskId < second.taskId || (first.taskId = second.taskId && first.idx ≤ second.idx)
  sorted.map fun row => ⟨row.taskId, row.channel, langgraph.loadsTyped (row.type, row.value)⟩

/-- An absent parent and an empty one are the same. -/
def parentConfig (threadId checkpointNs : String) : Option String → Option Config
  | none => none
  | some "" => none
  | some parent => some ⟨threadId, checkpointNs, some parent⟩

def tupleOf (langgraph : Langgraph Obj) (store : Store) (threadId checkpointNs : String)
    (entry : EntryDocument) : CheckpointTuple Obj where
  config := ⟨threadId, checkpointNs, some entry.checkpointId⟩
  checkpoint := langgraph.loadsTyped (entry.type, entry.checkpoint)
  metadata := entry.metadata
  parentConfig := CausalOps.Checkpoints.parentConfig threadId checkpointNs entry.parentCheckpointId
  pendingWrites := readWrites langgraph store (threadDocumentId threadId checkpointNs)
    entry.checkpointId

/-- A filter: for each key, how the stored value compares to the one asked for. -/
abbrev Filter := List (String × (Option Json → Bool))

def satisfies (filter : Filter) (entry : EntryDocument) : Bool :=
  filter.all fun condition => condition.2 (Json.get entry.metadata condition.1)

def newestFirst (entries : List EntryDocument) : List EntryDocument :=
  entries.mergeSort fun first second => second.checkpointId ≤ first.checkpointId

def olderThan (before : Option Config) (entry : EntryDocument) : Bool :=
  match before.bind Config.checkpointId with
  | none => true
  | some beforeId => entry.checkpointId < beforeId

def limited {α : Type} (limit : Option ℕ) (items : List α) : List α :=
  match limit with
  | none => items
  | some count => items.take count

/-- What `list` reads: the query ends with the limit, and the filter runs over its answer. -/
def listedEntries (store : Store) (threadId checkpointNs : String) (filter : Option Filter)
    (before : Option Config) (limit : Option ℕ) : List EntryDocument :=
  let streamed := limited limit ((newestFirst (entriesBelow store
    (threadDocumentId threadId checkpointNs))).filter fun entry => olderThan before entry)
  match filter with
  | none => streamed
  | some conditions => streamed.filter fun entry => satisfies conditions entry

structure MissingThreadId where
  message : String

def list (langgraph : Langgraph Obj) (store : Store) (config : Option Config)
    (filter : Option Filter) (before : Option Config) (limit : Option ℕ) :
    Except MissingThreadId (List (CheckpointTuple Obj)) :=
  match config with
  | none => .error ⟨"FirestoreCheckpointSaver.list requires a config naming thread_id"⟩
  | some config =>
      .ok ((listedEntries store config.threadId config.checkpointNs filter before limit).map
        (tupleOf langgraph store config.threadId config.checkpointNs))

end Listing

end CausalOps.Checkpoints
