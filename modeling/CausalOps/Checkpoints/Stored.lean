import CausalOps.Checkpoints.Saver
import CausalOps.Library.Canonical

set_option autoImplicit false

/-! What the saver stores, by threads and namespaces instead of document ids. -/

namespace CausalOps.Checkpoints

section Names

/-- A thread id without a double colon, with a namespace that does not begin with a colon, as
LangGraph's namespaces never do. -/
def Named (threadId checkpointNs : String) : Prop :=
  ¬ "::".toList <:+: threadId.toList ∧ ¬ ":".toList <+: checkpointNs.toList

instance (threadId checkpointNs : String) : Decidable (Named threadId checkpointNs) := by
  unfold Named
  infer_instance

/-- A thread id that goes on behind another holds the double colon, or the other's namespace
begins with a colon. -/
theorem not_longer {first more namespaced rest : List Char}
    (hinside : ¬ "::".toList <:+: first ++ more) (hstart : ¬ ":".toList <+: namespaced)
    (heq : ':' :: ':' :: namespaced = more ++ ':' :: ':' :: rest) : more = [] := by
  match more with
  | [] => rfl
  | [c] =>
      obtain ⟨-, hrest⟩ := List.cons.inj heq
      obtain ⟨-, rfl⟩ := List.cons.inj hrest
      exact absurd ⟨rest, rfl⟩ hstart
  | c :: d :: others =>
      obtain ⟨rfl, hrest⟩ := List.cons.inj heq
      obtain ⟨rfl, -⟩ := List.cons.inj hrest
      exact absurd ⟨first, others, by simp⟩ hinside

theorem threadDocumentId_inj {threadId checkpointNs otherId otherNs : String}
    (h : Named threadId checkpointNs) (hother : Named otherId otherNs)
    (heq : threadDocumentId threadId checkpointNs = threadDocumentId otherId otherNs) :
    threadId = otherId ∧ checkpointNs = otherNs := by
  have hchars : threadId.toList ++ ':' :: ':' :: checkpointNs.toList =
      otherId.toList ++ ':' :: ':' :: otherNs.toList := by
    simpa [threadDocumentId] using congrArg String.toList heq
  have hsame : threadId.toList = otherId.toList := by
    rcases List.append_eq_append_iff.1 hchars with ⟨more, hlonger, hrest⟩ | ⟨more, hlonger, hrest⟩
    · obtain rfl := not_longer (hlonger ▸ hother.1) h.2 hrest
      rw [hlonger, List.append_nil]
    · obtain rfl := not_longer (hlonger ▸ h.1) hother.2 hrest
      rw [hlonger, List.append_nil]
  rw [hsame] at hchars
  have hnamespaces := (List.cons.inj (List.cons.inj (List.append_cancel_left hchars)).2).2
  exact ⟨String.toList_inj.1 hsame, String.toList_inj.1 hnamespaces⟩

theorem toString_toList (n : ℤ) : (toString n).toList = Compact.integer n := by
  cases n with
  | ofNat n =>
      change (toString n).toList = Nat.toDigits 10 n
      rw [Nat.toString_eq_ofList_toDigits, String.toList_ofList]
  | negSucc n =>
      change ("-" ++ toString (n + 1)).toList = '-' :: Nat.toDigits 10 (n + 1)
      simp

theorem writeDocumentId_inj {taskId otherId : String} {idx otherIdx : ℤ}
    (heq : writeDocumentId taskId idx = writeDocumentId otherId otherIdx) :
    taskId = otherId ∧ idx = otherIdx := by
  have hcolon : ∀ n : ℤ, ∀ c ∈ Compact.integer n, c ≠ ':' := by
    rintro n c hc rfl
    exact absurd (Canonical.integer_number n ':' hc) (by decide)
  have hbehind : ∀ (task : String) (n : ℤ),
      (writeDocumentId task n).toList.reverse.takeWhile (fun c => decide (c ≠ ':')) =
        (Compact.integer n).reverse := by
    intro task n
    rw [writeDocumentId, String.toList_append, String.toList_append, toString_toList,
      List.reverse_append, List.takeWhile_append_of_pos fun c hc =>
        decide_eq_true (hcolon n c (List.mem_reverse.1 hc))]
    simp
  have hdigits : Compact.integer idx = Compact.integer otherIdx := by
    rw [← List.reverse_inj, ← hbehind taskId idx, heq, hbehind]
  have hidx : idx = otherIdx :=
    (Compact.integer_splits idx otherIdx [] [] nofun nofun (by rw [hdigits])).1
  refine ⟨?_, hidx⟩
  have hchars := congrArg String.toList heq
  rw [writeDocumentId, writeDocumentId, hidx, String.toList_append, String.toList_append,
    String.toList_append, String.toList_append] at hchars
  exact String.toList_inj.1 (List.append_cancel_right (List.append_cancel_right hchars))

end Names

section Runs

variable {Obj : Type}

inductive Call (Obj : Type) where
  | put (config : Config) (checkpoint : Obj) (metadata : Json.Dict)
  | putWrites (threadId checkpointNs checkpointId : String) (writes : List (String × Obj))
      (taskId : String)
  | deleteThread (threadId : String)

def Call.run (langgraph : Langgraph Obj) (store : Store) : Call Obj → Store
  | .put config checkpoint metadata => (Checkpoints.put langgraph store config checkpoint metadata).2
  | .putWrites threadId checkpointNs checkpointId writes taskId =>
      Checkpoints.putWrites langgraph store threadId checkpointNs checkpointId writes taskId
  | .deleteThread threadId => Checkpoints.deleteThread store threadId

def runAll (langgraph : Langgraph Obj) (store : Store) (calls : List (Call Obj)) : Store :=
  calls.foldl (Call.run langgraph) store

def Call.Named : Call Obj → Prop
  | .put config _ _ => Checkpoints.Named config.threadId config.checkpointNs
  | .putWrites threadId checkpointNs _ _ _ => Checkpoints.Named threadId checkpointNs
  | .deleteThread _ => True

/-- Every document stands under the path that its own fields spell. -/
structure Stored (store : Store) : Prop where
  threadsKeyed : Documents.Keyed store.threads
  entriesKeyed : Documents.Keyed store.entries
  writesKeyed : Documents.Keyed store.writes
  thread : ∀ document thread, Documents.get store.threads document = some thread →
    document = threadDocumentId thread.threadId thread.checkpointNs ∧
      Named thread.threadId thread.checkpointNs
  entry : ∀ path entry, Documents.get store.entries path = some entry →
    path = (threadDocumentId entry.threadId entry.checkpointNs, entry.checkpointId) ∧
      Named entry.threadId entry.checkpointNs ∧
      Documents.get store.threads path.1 = some ⟨entry.threadId, entry.checkpointNs⟩
  write : ∀ path write, Documents.get store.writes path = some write →
    path.2.2 = writeDocumentId write.taskId write.idx

theorem stored_empty : Stored .empty where
  threadsKeyed := Rows.keyed_nil _
  entriesKeyed := Rows.keyed_nil _
  writesKeyed := Rows.keyed_nil _
  thread := nofun
  entry := nofun
  write := nofun

variable {langgraph : Langgraph Obj} {store : Store}

theorem Stored.put (h : Stored store) {config : Config}
    (hnamed : Named config.threadId config.checkpointNs) (checkpoint : Obj) (metadata : Json.Dict) :
    Stored (Checkpoints.put langgraph store config checkpoint metadata).2 := by
  unfold Checkpoints.put
  dsimp only
  split
  · exact h
  refine ⟨h.threadsKeyed.set _ _, h.entriesKeyed.set _ _, h.writesKeyed, ?_, ?_, h.write⟩
  · intro document thread hget
    rw [Documents.get_set] at hget
    split at hget
    · rename_i hsame
      obtain rfl := Option.some.inj hget
      exact ⟨hsame.symm, hnamed⟩
    · exact h.thread document thread hget
  · intro path entry hget
    rw [Documents.get_set] at hget ⊢
    split at hget
    · rename_i hsame
      obtain rfl := Option.some.inj hget
      obtain rfl := hsame
      exact ⟨rfl, hnamed, if_pos rfl⟩
    · obtain ⟨hpath, hentry, hthread⟩ := h.entry path entry hget
      refine ⟨hpath, hentry, ?_⟩
      split
      · rename_i hsame
        rw [hpath] at hsame
        obtain ⟨hid, hns⟩ := threadDocumentId_inj hnamed hentry hsame
        rw [hid, hns]
      · exact hthread

/-- One write of a batch leaves every document under the path of its fields. -/
theorem putWrite_stored {writes : List (WritePath × WriteDocument)} (hkeyed : Documents.Keyed writes)
    (hwrites : ∀ path write, Documents.get writes path = some write →
      path.2.2 = writeDocumentId write.taskId write.idx)
    (document checkpointId taskId : String) (replaceAll : Bool) (write : (String × Obj) × ℕ) :
    let after := putWrite langgraph document checkpointId taskId replaceAll writes write
    Documents.Keyed after ∧ ∀ path written, Documents.get after path = some written →
      path.2.2 = writeDocumentId written.taskId written.idx := by
  simp only [putWrite]
  split
  · exact ⟨hkeyed, hwrites⟩
  · refine ⟨hkeyed.set _ _, ?_⟩
    intro path written hget
    rw [Documents.get_set] at hget
    split at hget
    · rename_i hsame
      obtain rfl := Option.some.inj hget
      obtain rfl := hsame
      rfl
    · exact hwrites path written hget

theorem Stored.putWrites (h : Stored store) (threadId checkpointNs checkpointId : String)
    (writes : List (String × Obj)) (taskId : String) :
    Stored (Checkpoints.putWrites langgraph store threadId checkpointNs checkpointId writes taskId) := by
  have hfold : ∀ (batch : List ((String × Obj) × ℕ)) (before : List (WritePath × WriteDocument)),
      Documents.Keyed before → (∀ path write, Documents.get before path = some write →
        path.2.2 = writeDocumentId write.taskId write.idx) →
      let after := batch.foldl (putWrite langgraph (threadDocumentId threadId checkpointNs)
        checkpointId taskId (replacesAll langgraph writes)) before
      Documents.Keyed after ∧ ∀ path write, Documents.get after path = some write →
        path.2.2 = writeDocumentId write.taskId write.idx := by
    intro batch
    induction batch with
    | nil => exact fun before hkeyed hwrites => ⟨hkeyed, hwrites⟩
    | cons write rest ih =>
        intro before hkeyed hwrites
        obtain ⟨hkeyed', hwrites'⟩ := putWrite_stored hkeyed hwrites
          (threadDocumentId threadId checkpointNs) checkpointId taskId
          (replacesAll langgraph writes) write
        exact ih _ hkeyed' hwrites'
  obtain ⟨hkeyed, hwrites⟩ := hfold writes.zipIdx store.writes h.writesKeyed h.write
  exact ⟨h.threadsKeyed, h.entriesKeyed, hkeyed, h.thread, h.entry, hwrites⟩

end Runs

section Deletions

variable {κ δ : Type} [DecidableEq κ]

theorem keyed_deleteAll {paths : List κ} {docs : List (κ × δ)} (h : Documents.Keyed docs) :
    Documents.Keyed (paths.foldl Documents.delete docs) := by
  induction paths generalizing docs with
  | nil => exact h
  | cons path rest ih => exact ih (h.delete path)

theorem get_deleteAll (paths : List κ) (docs : List (κ × δ)) (path : κ) :
    Documents.get (paths.foldl Documents.delete docs) path =
      if path ∈ paths then none else Documents.get docs path := by
  induction paths generalizing docs with
  | nil => simp
  | cons first rest ih =>
      rw [List.foldl_cons, ih, Documents.get_delete]
      by_cases hrest : path ∈ rest
      · simp [hrest]
      · by_cases hfirst : first = path
        · simp [hfirst]
        · simp [hrest, hfirst, Ne.symm hfirst]

/-- What has gone below some thread documents: these documents themselves, their entries, and
the writes of their entries. -/
structure Deletes (documents : List String) (store after : Store) : Prop where
  threadsKeyed : Documents.Keyed after.threads
  entriesKeyed : Documents.Keyed after.entries
  writesKeyed : Documents.Keyed after.writes
  threads : ∀ document, Documents.get after.threads document =
    if document ∈ documents then none else Documents.get store.threads document
  entries : ∀ path, Documents.get after.entries path =
    if path.1 ∈ documents then none else Documents.get store.entries path
  writes : ∀ path, Documents.get after.writes path =
    if path.1 ∈ documents ∧ (Documents.get store.entries (path.1, path.2.1)).isSome = true then none
    else Documents.get store.writes path

variable {store after last : Store} {documents others : List String}

theorem Stored.deletes_nothing (h : Stored store) : Deletes [] store store where
  threadsKeyed := h.threadsKeyed
  entriesKeyed := h.entriesKeyed
  writesKeyed := h.writesKeyed
  threads := fun _ => by simp
  entries := fun _ => by simp
  writes := fun _ => by simp

theorem Deletes.trans (h : Deletes documents store after) (h' : Deletes others after last) :
    Deletes (documents ++ others) store last where
  threadsKeyed := h'.threadsKeyed
  entriesKeyed := h'.entriesKeyed
  writesKeyed := h'.writesKeyed
  threads := by
    intro document
    rw [h'.threads, h.threads]
    by_cases hlast : document ∈ others <;> simp [hlast]
  entries := by
    intro path
    rw [h'.entries, h.entries]
    by_cases hlast : path.1 ∈ others <;> simp [hlast]
  writes := by
    intro path
    rw [h'.writes, h.writes, h.entries]
    by_cases hfirst : path.1 ∈ documents
    · simp [hfirst]
    · by_cases hlast : path.1 ∈ others <;> simp [hfirst, hlast]

theorem Stored.deletes (h : Stored store) (hdeletes : Deletes documents store after) :
    Stored after where
  threadsKeyed := hdeletes.threadsKeyed
  entriesKeyed := hdeletes.entriesKeyed
  writesKeyed := hdeletes.writesKeyed
  thread := by
    intro document thread hget
    rw [hdeletes.threads] at hget
    split at hget
    · cases hget
    · exact h.thread document thread hget
  entry := by
    intro path entry hget
    rw [hdeletes.entries] at hget
    split at hget
    · cases hget
    · rename_i hkept
      obtain ⟨hpath, hnamed, hthread⟩ := h.entry path entry hget
      refine ⟨hpath, hnamed, ?_⟩
      rw [hdeletes.threads, if_neg hkept, hthread]
  write := by
    intro path write hget
    rw [hdeletes.writes] at hget
    split at hget
    · cases hget
    · exact h.write path write hget

/-- The writes of an entry are found under the ids rebuilt from their fields. -/
theorem get_deleteWrites (document checkpointId : String) {writes : List (WritePath × WriteDocument)}
    (hkeyed : Documents.Keyed writes)
    (hwrites : ∀ path write, Documents.get writes path = some write →
      path.2.2 = writeDocumentId write.taskId write.idx) (path : WritePath) :
    Documents.get (deleteWrites document checkpointId writes) path =
      if path.1 = document ∧ path.2.1 = checkpointId then none else Documents.get writes path := by
  let below := writes.filter fun stored => stored.1.1 = document ∧ stored.1.2.1 = checkpointId
  have hfold : deleteWrites document checkpointId writes =
      (below.map fun stored => (document, checkpointId,
        writeDocumentId stored.2.taskId stored.2.idx)).foldl Documents.delete writes := by
    rw [List.foldl_map]
    rfl
  rw [hfold, get_deleteAll]
  by_cases hbelow : path.1 = document ∧ path.2.1 = checkpointId
  · rw [if_pos hbelow]
    split
    · rfl
    · rename_i hkept
      cases hget : Documents.get writes path with
      | none => rfl
      | some write =>
          refine absurd (List.mem_map.2 ⟨(path, write), ?_, ?_⟩) hkept
          · exact List.mem_filter.2 ⟨(Documents.mem_iff_get hkeyed).2 hget, by simpa using hbelow⟩
          · rw [← hbelow.1, ← hbelow.2, ← hwrites path write hget]
  · rw [if_neg hbelow, if_neg]
    intro hmem
    obtain ⟨stored, -, rfl⟩ := List.mem_map.1 hmem
    exact hbelow ⟨rfl, rfl⟩

/-- What has gone after the entries with some ids below a thread document. -/
structure EntriesDeleted (document : String) (ids : List String) (store after : Store) : Prop where
  threads : after.threads = store.threads
  entriesKeyed : Documents.Keyed after.entries
  writesKeyed : Documents.Keyed after.writes
  entries : ∀ path, Documents.get after.entries path =
    if path.1 = document ∧ path.2 ∈ ids then none else Documents.get store.entries path
  writes : ∀ path, Documents.get after.writes path =
    if path.1 = document ∧ path.2.1 ∈ ids then none else Documents.get store.writes path

theorem entriesDeleted (document : String) (entries : List EntryDocument) {store : Store}
    (hentries : Documents.Keyed store.entries) (hkeyed : Documents.Keyed store.writes)
    (hwrites : ∀ path write, Documents.get store.writes path = some write →
      path.2.2 = writeDocumentId write.taskId write.idx) :
    EntriesDeleted document (entries.map EntryDocument.checkpointId) store
      (entries.foldl (deleteEntry document) store) := by
  induction entries generalizing store with
  | nil => exact ⟨rfl, hentries, hkeyed, fun _ => by simp, fun _ => by simp⟩
  | cons entry rest ih =>
      have hpaths : Documents.Keyed (deleteWrites document entry.checkpointId store.writes) := by
        rw [deleteWrites, ← List.foldl_map]
        exact keyed_deleteAll hkeyed
      have hone := get_deleteWrites document entry.checkpointId hkeyed hwrites
      have hleft : ∀ path write,
          Documents.get (deleteWrites document entry.checkpointId store.writes) path = some write →
            path.2.2 = writeDocumentId write.taskId write.idx := by
        intro path write hget
        rw [hone] at hget
        split at hget
        · cases hget
        · exact hwrites path write hget
      have hrest : EntriesDeleted document (rest.map EntryDocument.checkpointId)
          (deleteEntry document store entry)
          (rest.foldl (deleteEntry document) (deleteEntry document store entry)) :=
        ih (hentries.delete _) hpaths hleft
      refine ⟨hrest.threads, hrest.entriesKeyed, hrest.writesKeyed, ?_, ?_⟩
      · intro path
        rw [List.foldl_cons, hrest.entries]
        simp only [deleteEntry, Documents.get_delete, List.map_cons, List.mem_cons]
        by_cases hdocument : path.1 = document
        · by_cases hrest : path.2 ∈ rest.map EntryDocument.checkpointId
          · simp [hdocument, hrest]
          · by_cases hfirst : path.2 = entry.checkpointId
            · have hpath : (document, entry.checkpointId) = path := by
                rw [← hdocument, ← hfirst]
              simp [hdocument, hfirst, hpath]
            · have hpath : (document, entry.checkpointId) ≠ path := by
                rintro rfl
                exact hfirst rfl
              simp [hdocument, hrest, hfirst, hpath]
        · have hpath : (document, entry.checkpointId) ≠ path := by
            rintro rfl
            exact hdocument rfl
          simp [hdocument, hpath]
      · intro path
        rw [List.foldl_cons, hrest.writes]
        simp only [deleteEntry, hone, List.map_cons, List.mem_cons]
        by_cases hdocument : path.1 = document
        · by_cases hrest : path.2.1 ∈ rest.map EntryDocument.checkpointId
          · simp [hdocument, hrest]
          · simp [hdocument, hrest]
        · simp [hdocument]

theorem Stored.entriesBelow_iff (h : Stored store) {document checkpointId : String} :
    checkpointId ∈ (entriesBelow store document).map EntryDocument.checkpointId ↔
      (Documents.get store.entries (document, checkpointId)).isSome = true := by
  rw [entriesBelow, List.map_map, List.mem_map, Option.isSome_iff_exists]
  constructor
  · rintro ⟨⟨path, entry⟩, hstored, rfl⟩
    obtain ⟨hmem, hdocument⟩ := List.mem_filter.1 hstored
    have hget := (Documents.mem_iff_get h.entriesKeyed).1 hmem
    obtain rfl : path.1 = document := by simpa using hdocument
    refine ⟨entry, ?_⟩
    rw [← hget, (h.entry path entry hget).1]
    rfl
  · rintro ⟨entry, hget⟩
    refine ⟨((document, checkpointId), entry), List.mem_filter.2 ⟨?_, by simp⟩, ?_⟩
    · exact (Documents.mem_iff_get h.entriesKeyed).2 hget
    · exact (congrArg Prod.snd (h.entry _ entry hget).1).symm

theorem Stored.deleteNamespace (h : Stored store) (threadId : String) (thread : ThreadDocument) :
    Deletes [threadDocumentId threadId thread.checkpointNs] store
      (Checkpoints.deleteNamespace threadId store thread) := by
  have hgone := entriesDeleted (threadDocumentId threadId thread.checkpointNs)
    (entriesBelow store (threadDocumentId threadId thread.checkpointNs)) h.entriesKeyed h.writesKeyed
    h.write
  unfold Checkpoints.deleteNamespace
  dsimp only
  refine ⟨?_, hgone.entriesKeyed, hgone.writesKeyed, ?_, ?_, ?_⟩
  · rw [hgone.threads]
    exact h.threadsKeyed.delete _
  · intro document
    rw [Documents.get_delete, hgone.threads]
    simp only [List.mem_singleton, eq_comm]
  · intro path
    rw [hgone.entries]
    simp only [h.entriesBelow_iff, List.mem_singleton]
    by_cases hdocument : path.1 = threadDocumentId threadId thread.checkpointNs
    · rw [if_pos hdocument, ← hdocument]
      cases Documents.get store.entries path <;> simp
    · simp [hdocument]
  · intro path
    rw [hgone.writes]
    simp only [h.entriesBelow_iff, List.mem_singleton]
    by_cases hdocument : path.1 = threadDocumentId threadId thread.checkpointNs
    · simp [← hdocument]
    · simp [hdocument]

theorem Stored.deleteThread (h : Stored store) (threadId : String) :
    Deletes ((((store.threads.map Prod.snd).filter fun thread => thread.threadId = threadId)).map
        fun thread => threadDocumentId threadId thread.checkpointNs) store
      (Checkpoints.deleteThread store threadId) := by
  have hfold : ∀ (threads : List ThreadDocument) {before : Store}, Stored before →
      Deletes (threads.map fun thread => threadDocumentId threadId thread.checkpointNs) before
        (threads.foldl (Checkpoints.deleteNamespace threadId) before) := by
    intro threads
    induction threads with
    | nil => exact fun hbefore => hbefore.deletes_nothing
    | cons thread rest ih =>
        intro before hbefore
        have hfirst := hbefore.deleteNamespace threadId thread
        exact hfirst.trans (ih (hbefore.deletes hfirst))
  exact hfold _ h

theorem Stored.call {Obj : Type} {langgraph : Langgraph Obj} (h : Stored store) {call : Call Obj}
    (hnamed : call.Named) : Stored (call.run langgraph store) := by
  cases call with
  | put config checkpoint metadata => exact h.put hnamed checkpoint metadata
  | putWrites threadId checkpointNs checkpointId writes taskId => exact h.putWrites _ _ _ _ _
  | deleteThread threadId => exact h.deletes (h.deleteThread threadId)

theorem Stored.run {Obj : Type} {langgraph : Langgraph Obj} (h : Stored store)
    {calls : List (Call Obj)} (hnamed : ∀ call ∈ calls, call.Named) :
    Stored (runAll langgraph store calls) := by
  induction calls generalizing store with
  | nil => exact h
  | cons call rest ih =>
      exact ih (h.call (hnamed call List.mem_cons_self)) fun other hother =>
        hnamed other (List.mem_cons_of_mem call hother)

end Deletions

section Textual

/-- Objects that are their own text, and the channels that LangGraph numbers. -/
def textual : Langgraph String where
  dumpsTyped := fun text => ("str", text.toUTF8.data.toList)
  loadsTyped := fun typed => (String.fromUTF8? ⟨typed.2.toArray⟩).getD ""
  idOf := id
  getCheckpointMetadata := fun _ metadata => metadata
  writesIdxMap := fun channel =>
    if channel = "__error__" then some (-1) else if channel = "__scheduled__" then some (-2)
    else if channel = "__interrupt__" then some (-3) else if channel = "__resume__" then some (-4)
    else none
  represent := fun text => "'" ++ text ++ "'"

theorem textual_reserved (channel : String) (idx : ℤ) (h : textual.writesIdxMap channel = some idx) :
    idx < 0 := by
  simp only [textual] at h
  split_ifs at h <;> cases h <;> decide

end Textual

end CausalOps.Checkpoints
