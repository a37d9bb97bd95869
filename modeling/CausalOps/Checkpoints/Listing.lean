import Mathlib.Data.List.TakeDrop
import CausalOps.Checkpoints.Stored

set_option autoImplicit false

/-! The checkpoints that a listing yields, against those that it is asked for. -/

namespace CausalOps.Checkpoints

section Placed

/-- Every entry stands below the document of its own thread and namespace, whatever they are
named. -/
structure Placed (entries : List (EntryPath × EntryDocument)) : Prop where
  keyed : Documents.Keyed entries
  entry : ∀ path entry, Documents.get entries path = some entry →
    path = (threadDocumentId entry.threadId entry.checkpointNs, entry.checkpointId)

theorem placed_empty : Placed [] where
  keyed := Rows.keyed_nil _
  entry := nofun

variable {entries : List (EntryPath × EntryDocument)} {store : Store}

theorem Placed.set (h : Placed entries) (entry : EntryDocument) :
    Placed (Documents.set entries
      (threadDocumentId entry.threadId entry.checkpointNs, entry.checkpointId) entry) where
  keyed := h.keyed.set _ _
  entry := by
    intro path stored hget
    rw [Documents.get_set] at hget
    split at hget
    · rename_i hpath
      obtain rfl := Option.some.inj hget
      exact hpath.symm
    · exact h.entry path stored hget

theorem Placed.delete (h : Placed entries) (gone : EntryPath) :
    Placed (Documents.delete entries gone) where
  keyed := h.keyed.delete gone
  entry := by
    intro path stored hget
    rw [Documents.get_delete] at hget
    split at hget
    · cases hget
    · exact h.entry path stored hget

theorem Placed.deleteEntries (h : Placed store.entries) (document : String)
    (gone : List EntryDocument) : Placed (gone.foldl (deleteEntry document) store).entries := by
  induction gone generalizing store with
  | nil => exact h
  | cons entry rest ih =>
      have hfirst : Placed (deleteEntry document store entry).entries := h.delete _
      exact ih hfirst

theorem Placed.deleteThread (h : Placed store.entries) (threadId : String) :
    Placed (Checkpoints.deleteThread store threadId).entries := by
  have hfold : ∀ (threads : List ThreadDocument) {before : Store}, Placed before.entries →
      Placed (threads.foldl (deleteNamespace threadId) before).entries := by
    intro threads
    induction threads with
    | nil => exact fun hbefore => hbefore
    | cons thread rest ih =>
        intro before hbefore
        have hfirst : Placed (deleteNamespace threadId before thread).entries :=
          hbefore.deleteEntries _ _
        exact ih hfirst
  exact hfold _ h

variable {Obj : Type} {langgraph : Langgraph Obj}

theorem Placed.call (h : Placed store.entries) (call : Call Obj) :
    Placed (call.run langgraph store).entries := by
  cases call with
  | put config checkpoint metadata =>
      simp only [Call.run, put]
      split
      · exact h
      · exact h.set (entryOf langgraph config checkpoint metadata)
  | putWrites threadId checkpointNs checkpointId writes taskId => exact h
  | deleteThread threadId => exact h.deleteThread threadId

theorem Placed.run (h : Placed store.entries) (calls : List (Call Obj)) :
    Placed (runAll langgraph store calls).entries := by
  induction calls generalizing store with
  | nil => exact h
  | cons call rest ih => exact ih (h.call call)

theorem Placed.get_below (h : Placed store.entries) {document : String} {entry : EntryDocument}
    (hmem : entry ∈ entriesBelow store document) :
    Documents.get store.entries (document, entry.checkpointId) = some entry := by
  obtain ⟨⟨path, stored⟩, hstored, hsecond⟩ := List.mem_map.1 hmem
  obtain rfl : stored = entry := hsecond
  obtain ⟨hin, hdocument⟩ := List.mem_filter.1 hstored
  have hget := (Documents.mem_iff_get h.keyed).1 hin
  obtain rfl : path.1 = document := by simpa using hdocument
  have hpath := h.entry path stored hget
  have hid : path.2 = stored.checkpointId := congrArg Prod.snd hpath
  rw [← hid, hget]

end Placed

section Orders

theorem newestFirst_sorted (entries : List EntryDocument) :
    (newestFirst entries).Pairwise fun first second => second.checkpointId ≤ first.checkpointId := by
  refine (List.pairwise_mergeSort ?_ ?_ entries).imp of_decide_eq_true
  · intro first second third h h'
    exact decide_eq_true ((of_decide_eq_true h').trans (of_decide_eq_true h))
  · intro first second
    simpa [or_comm] using le_total first.checkpointId second.checkpointId

/-- Checkpoints of different ids have one order, so that selecting and sorting commute. -/
theorem newestFirst_filter {entries : List EntryDocument} (p : EntryDocument → Bool)
    (hids : ∀ first ∈ entries, ∀ second ∈ entries, first.checkpointId = second.checkpointId →
      first = second) :
    (newestFirst entries).filter p = newestFirst (entries.filter p) := by
  have hperm : ((newestFirst entries).filter p).Perm (newestFirst (entries.filter p)) :=
    ((List.mergeSort_perm entries _).filter p).trans (List.mergeSort_perm _ _).symm
  refine hperm.eq_of_pairwise ?_ ((newestFirst_sorted entries).filter p) (newestFirst_sorted _)
  intro first second hfirst hsecond h h'
  have hinside : ∀ entry, entry ∈ (newestFirst entries).filter p → entry ∈ entries :=
    fun entry hentry => List.mem_mergeSort.1 (List.mem_of_mem_filter hentry)
  exact hids first (hinside first hfirst) second (hinside second (hperm.mem_iff.2 hsecond))
    (le_antisymm h' h)

variable {α : Type}

/-- A selection of the first items is the first items of a narrower selection when the items it
keeps are in both, and either it keeps all of them or there is nothing to keep behind them. -/
theorem filter_take_iff {p q : α → Bool} (hqp : ∀ x, q x = true → p x = true) (count : ℕ)
    (items : List α) :
    (items.take count).filter p = (items.filter q).take count ↔
      (∀ x ∈ items.take count, p x = true → q x = true) ∧
        ((∀ x ∈ items.take count, q x = true) ∨ ∀ x ∈ items.drop count, ¬ q x = true) := by
  have hsplit : items.filter q = (items.take count).filter q ++ (items.drop count).filter q := by
    rw [← List.filter_append, List.take_append_drop]
  have hshort : ((items.take count).filter q).length ≤ count :=
    (List.length_filter_le _ _).trans (List.length_take_le _ _)
  have htake : (items.filter q).take count = (items.take count).filter q ++
      ((items.drop count).filter q).take (count - ((items.take count).filter q).length) := by
    rw [hsplit, List.take_append, List.take_of_length_le hshort]
  have hsame : (∀ x ∈ items.take count, p x = true → q x = true) →
      (items.take count).filter p = (items.take count).filter q := by
    intro hkept
    exact List.filter_congr fun x hx => Bool.eq_iff_iff.2 ⟨hkept x hx, hqp x⟩
  constructor
  · intro heq
    have hkept : ∀ x ∈ items.take count, p x = true → q x = true := by
      intro x hx hpx
      have hmem : x ∈ (items.take count).filter p := List.mem_filter.2 ⟨hx, hpx⟩
      rw [heq] at hmem
      exact (List.mem_filter.1 (List.mem_of_mem_take hmem)).2
    refine ⟨hkept, ?_⟩
    rw [htake, hsame hkept] at heq
    rcases List.take_eq_nil_iff.1 (List.self_eq_append_right.1 heq) with hfull | hnone
    · left
      have hlength : ((items.take count).filter q).length = (items.take count).length :=
        le_antisymm (List.length_filter_le _ _)
          ((List.length_take_le _ _).trans (Nat.sub_eq_zero_iff_le.1 hfull))
      exact List.length_filter_eq_length_iff.1 hlength
    · right
      exact List.filter_eq_nil_iff.1 hnone
  · rintro ⟨hkept, hrest⟩
    rw [htake, hsame hkept]
    refine (List.self_eq_append_right.2 (List.take_eq_nil_iff.2 ?_))
    rcases hrest with hall | hnone
    · rw [List.filter_eq_self.2 hall]
      rcases le_or_gt count items.length with hlong | hfew
      · left
        rw [List.length_take_of_le hlong, Nat.sub_self]
      · right
        rw [List.drop_eq_nil_of_le hfew.le]
        rfl
    · right
      exact List.filter_eq_nil_iff.2 hnone

theorem limited_eq_take (limit : Option ℕ) (items : List α) :
    limited limit items = items.take (limit.getD items.length) := by
  cases limit with
  | none => exact List.take_length.symm
  | some count => rfl

end Orders

section Asked

variable {Obj : Type} {langgraph : Langgraph Obj} {store : Store}

def ofThread (threadId checkpointNs : String) (entry : EntryDocument) : Bool :=
  entry.threadId = threadId ∧ entry.checkpointNs = checkpointNs

def accepts (filter : Option Filter) (entry : EntryDocument) : Bool :=
  match filter with
  | none => true
  | some conditions => satisfies conditions entry

/-- The newest checkpoints of the thread and the namespace that are older than `before` and
satisfy the filter. -/
def newest (store : Store) (threadId checkpointNs : String) (filter : Option Filter)
    (before : Option Config) (limit : Option ℕ) : List EntryDocument :=
  limited limit (newestFirst ((store.entries.map Prod.snd).filter fun entry =>
    olderThan before entry && (ofThread threadId checkpointNs entry && accepts filter entry)))

/-- What the query goes through: all that is older below the document, newest first. -/
def older (store : Store) (threadId checkpointNs : String) (before : Option Config) :
    List EntryDocument :=
  (newestFirst (entriesBelow store (threadDocumentId threadId checkpointNs))).filter fun entry =>
    olderThan before entry

/-- No other thread's checkpoint stands under the document and among those that the limit
leaves, and the filter takes all of these or there is none for it behind them. -/
def LimitKeeps (store : Store) (threadId checkpointNs : String) (filter : Option Filter)
    (before : Option Config) (limit : Option ℕ) : Prop :=
  let entries := older store threadId checkpointNs before
  let count := limit.getD entries.length
  (∀ entry ∈ entries.take count, accepts filter entry = true →
    ofThread threadId checkpointNs entry = true) ∧
    ((∀ entry ∈ entries.take count,
        (ofThread threadId checkpointNs entry && accepts filter entry) = true) ∨
      ∀ entry ∈ entries.drop count,
        ¬ (ofThread threadId checkpointNs entry && accepts filter entry) = true)

theorem listedEntries_eq (threadId checkpointNs : String) (filter : Option Filter)
    (before : Option Config) (limit : Option ℕ) :
    listedEntries store threadId checkpointNs filter before limit =
      (limited limit (older store threadId checkpointNs before)).filter (accepts filter) := by
  cases filter with
  | none => exact (List.filter_eq_self.2 fun _ _ => rfl).symm
  | some conditions => rfl

theorem Placed.below_thread (h : Placed store.entries) (threadId checkpointNs : String)
    (p : EntryDocument → Bool) (hp : ∀ entry, p entry = true →
      ofThread threadId checkpointNs entry = true) :
    (entriesBelow store (threadDocumentId threadId checkpointNs)).filter p =
      (store.entries.map Prod.snd).filter p := by
  rw [entriesBelow, List.filter_map, List.filter_map, List.filter_filter]
  congr 1
  refine List.filter_congr fun stored hstored => ?_
  cases hpass : (p ∘ Prod.snd) stored with
  | false => rfl
  | true =>
      have hpath := h.entry stored.1 stored.2 ((Documents.mem_iff_get h.keyed).1 hstored)
      have hthread := hp stored.2 hpass
      simp only [ofThread, decide_eq_true_eq] at hthread
      simp [hpath, hthread.1, hthread.2]

theorem Placed.below_ids (h : Placed store.entries) (document : String) :
    ∀ first ∈ entriesBelow store document, ∀ second ∈ entriesBelow store document,
      first.checkpointId = second.checkpointId → first = second := by
  intro first hfirst second hsecond hid
  have hget := h.get_below hfirst
  rw [hid, h.get_below hsecond] at hget
  exact (Option.some.inj hget).symm

theorem Placed.newest_eq (h : Placed store.entries) (threadId checkpointNs : String)
    (filter : Option Filter) (before : Option Config) (limit : Option ℕ) :
    newest store threadId checkpointNs filter before limit =
      limited limit ((older store threadId checkpointNs before).filter fun entry =>
        ofThread threadId checkpointNs entry && accepts filter entry) := by
  rw [newest, older, List.filter_filter, newestFirst_filter _ (h.below_ids _)]
  have hsame : (entriesBelow store (threadDocumentId threadId checkpointNs)).filter (fun entry =>
      (ofThread threadId checkpointNs entry && accepts filter entry) && olderThan before entry) =
      (store.entries.map Prod.snd).filter fun entry =>
        olderThan before entry && (ofThread threadId checkpointNs entry && accepts filter entry) := by
    rw [h.below_thread threadId checkpointNs _ fun entry hentry =>
      (Bool.and_eq_true_iff.1 (Bool.and_eq_true_iff.1 hentry).1).1]
    exact List.filter_congr fun entry _ => Bool.and_comm _ _
  rw [hsame]

theorem Placed.listedEntries_iff (h : Placed store.entries) (threadId checkpointNs : String)
    (filter : Option Filter) (before : Option Config) (limit : Option ℕ) :
    listedEntries store threadId checkpointNs filter before limit =
        newest store threadId checkpointNs filter before limit ↔
      LimitKeeps store threadId checkpointNs filter before limit := by
  rw [listedEntries_eq, h.newest_eq]
  let entries := older store threadId checkpointNs before
  have hcount : limited limit (entries.filter fun entry =>
      ofThread threadId checkpointNs entry && accepts filter entry) =
      (entries.filter fun entry => ofThread threadId checkpointNs entry && accepts filter entry).take
        (limit.getD entries.length) := by
    cases limit with
    | none => exact (List.take_of_length_le (List.length_filter_le _ _)).symm
    | some count => rfl
  rw [hcount, limited_eq_take, filter_take_iff fun entry hentry => (Bool.and_eq_true_iff.1 hentry).2]
  simp only [LimitKeeps, Bool.and_eq_true]
  refine and_congr_left fun _ => forall₂_congr fun entry _ => ?_
  exact ⟨fun hkept haccepts => (hkept haccepts).1, fun hthread haccepts =>
    ⟨hthread haccepts, haccepts⟩⟩

theorem Placed.tuples_iff (h : Placed store.entries) (threadId checkpointNs : String)
    {listed asked : List EntryDocument}
    (hlisted : ∀ entry ∈ listed, entry ∈ entriesBelow store (threadDocumentId threadId checkpointNs))
    (hasked : ∀ entry ∈ asked, entry ∈ entriesBelow store (threadDocumentId threadId checkpointNs)) :
    listed.map (tupleOf langgraph store threadId checkpointNs) =
        asked.map (tupleOf langgraph store threadId checkpointNs) ↔ listed = asked := by
  refine ⟨fun heq => ?_, fun heq => by rw [heq]⟩
  have hread : ∀ entries : List EntryDocument,
      (∀ entry ∈ entries, entry ∈ entriesBelow store (threadDocumentId threadId checkpointNs)) →
      (entries.map (tupleOf langgraph store threadId checkpointNs)).map (fun tuple =>
        tuple.config.checkpointId.bind fun checkpointId =>
          Documents.get store.entries (threadDocumentId threadId checkpointNs, checkpointId)) =
      entries.map some := by
    intro entries hbelow
    rw [List.map_map]
    exact List.map_congr_left fun entry hentry => h.get_below (hbelow entry hentry)
  have hsome := hread listed hlisted
  rw [heq, hread asked hasked] at hsome
  exact (List.map_injective_iff.2 (Option.some_injective _) hsome).symm

theorem Placed.older_below {threadId checkpointNs : String} {before : Option Config}
    {entry : EntryDocument} (hmem : entry ∈ older store threadId checkpointNs before) :
    entry ∈ entriesBelow store (threadDocumentId threadId checkpointNs) :=
  List.mem_mergeSort.1 (List.mem_of_mem_filter hmem)

theorem mem_limited {α : Type} {limit : Option ℕ} {items : List α} {item : α}
    (h : item ∈ limited limit items) : item ∈ items := by
  rw [limited_eq_take] at h
  exact List.mem_of_mem_take h

theorem list_newest_iff (langgraph : Langgraph Obj) (calls : List (Call Obj)) (config : Config)
    (filter : Option Filter) (before : Option Config) (limit : Option ℕ) :
    let store := runAll langgraph .empty calls
    list langgraph store (some config) filter before limit =
        .ok ((newest store config.threadId config.checkpointNs filter before limit).map
          (tupleOf langgraph store config.threadId config.checkpointNs)) ↔
      LimitKeeps store config.threadId config.checkpointNs filter before limit := by
  intro store
  have h : Placed store.entries := Placed.run placed_empty calls
  rw [← h.listedEntries_iff, ← h.tuples_iff config.threadId config.checkpointNs]
  · exact ⟨Except.ok.inj, congrArg Except.ok⟩
  · intro entry hentry
    rw [listedEntries_eq] at hentry
    exact Placed.older_below (mem_limited (List.mem_of_mem_filter hentry))
  · intro entry hentry
    rw [h.newest_eq] at hentry
    exact Placed.older_below (List.mem_of_mem_filter (mem_limited hentry))

theorem newestFirst_pair {first second : EntryDocument}
    (h : first.checkpointId < second.checkpointId) :
    newestFirst [first, second] = [second, first] := by
  simp [newestFirst, List.mergeSort, List.MergeSort.Internal.splitInTwo, not_le.2 h]

/-- The limit leaves the newest checkpoint, which the filter drops, and not the one before. -/
theorem list_limits_first :
    let store := runAll textual .empty
      [.put ⟨"run-1", "", none⟩ "1" [("source", .str "loop")],
        .put ⟨"run-1", "", some "1"⟩ "2" [("source", .str "update")]]
    let loops : Filter := [("source", fun value => value.bind Json.string? = some "loop")]
    (listedEntries store "run-1" "" (some loops) none (some 1)).map EntryDocument.checkpointId = [] ∧
      (newest store "run-1" "" (some loops) none (some 1)).map EntryDocument.checkpointId =
        ["1"] := by
  intro store loops
  let first := entryOf textual ⟨"run-1", "", none⟩ "1" [("source", .str "loop")]
  let second := entryOf textual ⟨"run-1", "", some "1"⟩ "2" [("source", .str "update")]
  have hbelow : entriesBelow store (threadDocumentId "run-1" "") = [first, second] := rfl
  have hasked : ((store.entries.map Prod.snd).filter fun entry => olderThan none entry &&
      (ofThread "run-1" "" entry && accepts (some loops) entry)) = [first] := rfl
  have horder : newestFirst [first, second] = [second, first] :=
    newestFirst_pair (show first.checkpointId < second.checkpointId by decide +kernel)
  constructor
  · rw [listedEntries, hbelow, horder]
    rfl
  · rw [newest, hasked, newestFirst, List.mergeSort_singleton]
    rfl

end Asked

end CausalOps.Checkpoints
