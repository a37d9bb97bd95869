import Mathlib.Data.List.Lex
import Mathlib.Data.List.Sort
import CausalOps.Library.Selection
import CausalOps.Investigation.Telemetry.Reports

set_option autoImplicit false

/-! What the files and the answers hold, said without the loops that read them: which lines
of a log match, which changes are found and in which order, the lists of a topology, and the
readings of an answer. -/

namespace CausalOps.Telemetry

open Loaded
open CausalOps.Investigation (LogFilter)

section Records

variable (r : Runtime)

theorem holds_iff {record : Dict} {key value : Text} :
    holds record key value = true ↔ get record key = some (.str value) := by
  unfold holds
  split
  · rename_i t ht
    rw [ht, decide_eq_true_eq, Option.some.injEq, Value.str.injEq]
  · rename_i hnone
    exact iff_of_false (by simp) fun h => hnone value h

inductive Sought : LogFilter → Dict → Prop
  | error {record : Dict} (h : get record (text "severity") = some (.str (text "error"))) :
      Sought .errorsOnly record
  | timeout {record : Dict}
      (h : get record (text "event") = some (.str (text "upstream_timeout"))) :
      Sought .timeoutsOnly record
  | exhausted {record : Dict}
      (h : get record (text "event") = some (.str (text "pool_exhausted"))) :
      Sought .poolExhaustion record
  | loaded {record : Dict}
      (h : get record (text "event") = some (.str (text "config_loaded"))) :
      Sought .configReload record
  | rejected {record : Dict}
      (h : get record (text "event") = some (.str (text "config_rejected_request"))) :
      Sought .configReload record

theorem matchesFilter_iff {logFilter : LogFilter} {record : Dict} :
    matchesFilter logFilter record = true ↔ Sought logFilter record := by
  constructor
  · intro h
    cases logFilter with
    | errorsOnly => exact .error (holds_iff.1 h)
    | timeoutsOnly => exact .timeout (holds_iff.1 h)
    | poolExhaustion => exact .exhausted (holds_iff.1 h)
    | configReload =>
        rcases Bool.or_eq_true_iff.1 h with hloaded | hrejected
        · exact .loaded (holds_iff.1 hloaded)
        · exact .rejected (holds_iff.1 hrejected)
  · intro h
    cases h with
    | error h => exact holds_iff.2 h
    | timeout h => exact holds_iff.2 h
    | exhausted h => exact holds_iff.2 h
    | loaded h => exact Bool.or_eq_true_iff.2 (Or.inl (holds_iff.2 h))
    | rejected h => exact Bool.or_eq_true_iff.2 (Or.inr (holds_iff.2 h))

/-- The `at` of a record is the text of an aware moment. -/
def At (record : Dict) (observed : ℤ) : Prop :=
  ∃ moment, get record (text "at") = some (.str moment) ∧
    r.fromisoformat moment = some (.aware observed)

def InWindow (record : Dict) (start stop : ℤ) : Prop :=
  ∃ observed, At r record observed ∧ start ≤ observed ∧ observed ≤ stop

variable {r}

theorem momentOf_iff {record : Dict} {observed : ℤ} :
    momentOf r record = some observed ↔ At r record observed := by
  unfold momentOf At
  split
  · rename_i moment hmoment
    split
    · rename_i other hother
      simp [hmoment, hother]
    · rename_i hnone
      simpa [hmoment] using hnone observed
  · rename_i hnone
    exact iff_of_false (by simp) fun ⟨moment, hmoment, _⟩ => hnone moment hmoment

theorem withinWindow_iff {record : Dict} {start stop : ℤ} :
    withinWindow r record start stop = true ↔ InWindow r record start stop := by
  unfold withinWindow InWindow
  cases hmoment : momentOf r record with
  | none =>
      refine iff_of_false (by simp) fun ⟨observed, hat, _⟩ => ?_
      rw [momentOf_iff.2 hat] at hmoment
      cases hmoment
  | some observed =>
      simp only [Bool.and_eq_true, decide_eq_true_eq]
      constructor
      · exact fun h => ⟨observed, momentOf_iff.1 hmoment, h⟩
      · rintro ⟨other, hat, hwindow⟩
        rw [momentOf_iff.2 hat] at hmoment
        rwa [← Option.some.inj hmoment]

def TextsUnder (key : Text) (rows : List Value) (texts : List Text) : Prop :=
  Selection.Selects (fun row t => ∃ record, row = .obj record ∧ get record key = some (.str t))
    rows texts

theorem textsUnder_iff {key : Text} {rows : List Value} {texts : List Text} :
    TextsUnder key rows texts ↔ texts = textsOf key rows := by
  refine Selection.selects_iff_filterMap fun row t => ?_
  cases row with
  | obj record =>
      dsimp only
      split
      · rename_i own hown
        simp [hown]
      · rename_i hnone
        simpa using hnone t
  | _ => simp

theorem mem_textsOf {key t : Text} {rows : List Value} :
    t ∈ textsOf key rows ↔ ∃ record, .obj record ∈ rows ∧ get record key = some (.str t) := by
  rw [textsOf, List.mem_filterMap]
  constructor
  · rintro ⟨row, hrow, h⟩
    cases row with
    | obj record =>
        dsimp only at h
        split at h
        · rename_i own hown
          exact ⟨record, hrow, by rw [hown, ← Option.some.inj h]⟩
        · cases h
    | _ => cases h
  · rintro ⟨record, hrow, hget⟩
    exact ⟨_, hrow, by simp only [hget]⟩

theorem sortedSet (texts : List Text) :
    (texts.dedup.mergeSort fun a b => decide (a ≤ b)).Pairwise (· < ·) ∧
      ∀ t, t ∈ (texts.dedup.mergeSort fun a b => decide (a ≤ b)) ↔ t ∈ texts := by
  constructor
  · have hsorted : (texts.dedup.mergeSort fun a b => decide (a ≤ b)).Pairwise
        fun a b => decide (a ≤ b) = true := by
      refine List.pairwise_mergeSort ?_ ?_ _
      · intro a b c hab hbc
        exact decide_eq_true (le_trans (of_decide_eq_true hab) (of_decide_eq_true hbc))
      · intro a b
        simpa using le_total a b
    have hnodup : (texts.dedup.mergeSort fun a b => decide (a ≤ b)).Nodup :=
      (List.mergeSort_perm _ _).nodup_iff.2 (List.nodup_dedup texts)
    refine (hsorted.and hnodup).imp ?_
    rintro a b ⟨hle, hne⟩
    exact lt_of_le_of_ne (of_decide_eq_true hle) hne
  · intro t
    rw [List.mem_mergeSort, List.mem_dedup]

/-- The events of some rows, in order and each once, with commas between them. -/
def EventCodes (rows : List Value) (codes : Text) : Prop :=
  ∃ events : List Text, events.Pairwise (· < ·) ∧
    (∀ t, t ∈ events ↔ ∃ record, .obj record ∈ rows ∧
      get record (text "event") = some (.str t)) ∧
    codes = List.intercalate (text ",") events

theorem eventCodes_iff {rows : List Value} {codes : Text} :
    EventCodes rows codes ↔ codes = eventCodes rows := by
  obtain ⟨hsorted, hmem⟩ := sortedSet (textsOf (text "event") rows)
  constructor
  · rintro ⟨events, hevents, hall, rfl⟩
    have hperm : events.Perm ((textsOf (text "event") rows).dedup.mergeSort fun a b =>
        decide (a ≤ b)) :=
      (List.perm_ext_iff_of_nodup (hevents.imp fun h => h.ne) (hsorted.imp fun h => h.ne)).2
        fun t => by rw [hall, hmem, mem_textsOf]
    rw [eventCodes, hperm.eq_of_pairwise (fun a b _ _ hab hba => absurd hab hba.asymm) hevents
      hsorted]
  · rintro rfl
    exact ⟨_, hsorted, fun t => by rw [hmem, mem_textsOf], rfl⟩

end Records

section Logs

variable (r : Runtime) (arguments : LogArguments)

/-- A line that matches is UTF-8 of a JSON object that the filter looks for, with a moment in
the window. -/
def LogMatch (line : Bytes) (row : Value) : Prop :=
  ∃ t record, decodeUtf8 line = some t ∧ r.loadsFinite t = .ok (.obj record) ∧
    Sought arguments.logFilter record ∧
    InWindow r record arguments.windowStart arguments.windowEnd ∧ row = .obj record

/-- The rows of the lines that match, in the order of the file. -/
def LogsMatched (bytes : Bytes) (matched : List Value) : Prop :=
  Selection.Selects (LogMatch r arguments) (lines bytes) matched

/-- `json.loads` raises no `RecursionError` on a line. -/
def LinesLoad (bytes : Bytes) : Prop :=
  ∀ line ∈ lines bytes, ∀ t, decodeUtf8 line = some t → r.loadsFinite t ≠ .error .recursion

variable {r arguments}

theorem logRow_some_iff {line : Bytes} {row : Value} :
    logRow r arguments line = .ok (some row) ↔ LogMatch r arguments line row := by
  simp only [logRow, readJsonLine, LogMatch]
  cases hdecode : decodeUtf8 line with
  | none => simp
  | some t =>
      dsimp only
      cases hloads : r.loadsFinite t with
      | error error => cases error <;> simp [hloads]
      | ok value =>
          cases value with
          | obj record =>
              dsimp only
              split
              · rename_i hboth
                obtain ⟨hfilter, hwindow⟩ := Bool.and_eq_true_iff.1 hboth
                constructor
                · intro h
                  exact ⟨t, record, rfl, hloads, matchesFilter_iff.1 hfilter,
                    withinWindow_iff.1 hwindow, (Option.some.inj (Except.ok.inj h)).symm⟩
                · rintro ⟨t', record', ht, hloads', -, -, rfl⟩
                  obtain rfl := Option.some.inj ht
                  rw [hloads] at hloads'
                  rw [Value.obj.inj (Except.ok.inj hloads')]
              · rename_i hnot
                refine iff_of_false (by simp) ?_
                rintro ⟨t', record', ht, hloads', hsought, hwindow, -⟩
                obtain rfl := Option.some.inj ht
                rw [hloads] at hloads'
                obtain rfl := Value.obj.inj (Except.ok.inj hloads')
                exact hnot (Bool.and_eq_true_iff.2
                  ⟨matchesFilter_iff.2 hsought, withinWindow_iff.2 hwindow⟩)
          | _ => simp [hloads]

theorem logRow_raises {line : Bytes} :
    (∃ raised, logRow r arguments line = .error raised) ↔
      ∃ t, decodeUtf8 line = some t ∧ r.loadsFinite t = .error .recursion := by
  simp only [logRow, readJsonLine]
  cases hdecode : decodeUtf8 line with
  | none => simp
  | some t =>
      dsimp only
      cases hloads : r.loadsFinite t with
      | error error => cases error <;> simp [hloads]
      | ok value =>
          cases value with
          | obj record =>
              dsimp only
              split <;> simp [hloads]
          | _ => simp [hloads]

/-- The loop over the lines returns exactly if no line raises, and then it picks those that
match. -/
theorem logRows_ok_iff (bytes : Bytes) {matched : List Value} :
    logRows r arguments (lines bytes) = .ok matched ↔
      LinesLoad r bytes ∧ LogsMatched r arguments bytes matched := by
  unfold LinesLoad LogsMatched
  induction lines bytes generalizing matched with
  | nil =>
      simp only [logRows, List.not_mem_nil, false_imp_iff, implies_true, true_and]
      constructor
      · intro h
        rw [← Except.ok.inj h]
        exact .nil
      · intro h
        cases h
        rfl
  | cons line rest ih =>
      rw [List.forall_mem_cons, logRows]
      cases hrow : logRow r arguments line with
      | error raised =>
          obtain ⟨t, hdecode, hloads⟩ := logRow_raises.1 ⟨raised, hrow⟩
          exact iff_of_false (by simp) fun h => h.1.1 t hdecode hloads
      | ok added =>
          have hline : ∀ t, decodeUtf8 line = some t → r.loadsFinite t ≠ .error .recursion := by
            intro t hdecode hloads
            obtain ⟨raised, hraised⟩ := logRow_raises.2 ⟨t, hdecode, hloads⟩
            rw [hrow] at hraised
            cases hraised
          cases added with
          | none =>
              have hnone : ∀ row, ¬ LogMatch r arguments line row := fun row hmatch => by
                rw [logRow_some_iff.2 hmatch] at hrow
                simp at hrow
              dsimp only
              rw [ih]
              constructor
              · exact fun h => ⟨⟨hline, h.1⟩, .skip hnone h.2⟩
              · rintro ⟨⟨-, hrest⟩, hpicks⟩
                cases hpicks with
                | skip _ hpicks => exact ⟨hrest, hpicks⟩
                | take hpick _ => exact absurd hpick (hnone _)
          | some row =>
              have hmatch := logRow_some_iff.1 hrow
              dsimp only
              constructor
              · intro h
                cases hrest : logRows r arguments rest with
                | error raised => simp [hrest] at h
                | ok rows =>
                    simp only [hrest, Except.ok.injEq] at h
                    obtain ⟨hlines, hpicks⟩ := ih.1 hrest
                    exact ⟨⟨hline, hlines⟩, h ▸ .take hmatch hpicks⟩
              · rintro ⟨⟨-, hlines⟩, hpicks⟩
                cases hpicks with
                | skip hnone _ => exact absurd hmatch (hnone row)
                | take hpick hpicks =>
                    rw [ih.2 ⟨hlines, hpicks⟩]
                    rw [logRow_some_iff.2 hpick] at hrow
                    simp at hrow
                    simp [hrow]

end Logs

section Files

variable (r : Runtime)

/-- The file is there, and holds the UTF-8 text of a JSON value. -/
def Reads (file : Option Bytes) (value : Value) : Prop :=
  ∃ bytes t, file = some bytes ∧ decodeUtf8 bytes = some t ∧
    r.loadsFinite (universalNewlines t) = .ok value

/-- Reading a file does not make `json.loads` raise `RecursionError`. -/
def FileReadable (file : Option Bytes) : Prop :=
  ∀ bytes t, file = some bytes → decodeUtf8 bytes = some t →
    r.loadsFinite (universalNewlines t) ≠ .error .recursion

variable {r}

theorem readJsonFile_some_iff {file : Option Bytes} {value : Value} :
    readJsonFile r file = .ok (some value) ↔ Reads r file value := by
  cases file with
  | none => exact iff_of_false (by simp [readJsonFile]) (by rintro ⟨bytes, t, h, -⟩; cases h)
  | some bytes =>
      simp only [readJsonFile, Reads, Option.some.injEq]
      cases hdecode : decodeUtf8 bytes with
      | none =>
          refine iff_of_false (by simp) ?_
          rintro ⟨other, t, rfl, ht, -⟩
          rw [hdecode] at ht
          cases ht
      | some t =>
          dsimp only
          have hfile : (∃ other u, bytes = other ∧ decodeUtf8 other = some u ∧
              r.loadsFinite (universalNewlines u) = .ok value) ↔
                r.loadsFinite (universalNewlines t) = .ok value := by
            constructor
            · rintro ⟨other, u, rfl, hu, h⟩
              rw [hdecode] at hu
              rwa [Option.some.inj hu]
            · exact fun h => ⟨bytes, t, rfl, hdecode, h⟩
          rw [hfile]
          cases hloads : r.loadsFinite (universalNewlines t) with
          | error error => cases error <;> simp
          | ok loaded => simp

theorem readJsonFile_ok_iff (file : Option Bytes) :
    (∃ value, readJsonFile r file = .ok value) ↔ FileReadable r file := by
  cases file with
  | none => exact iff_of_true ⟨none, rfl⟩ fun bytes t h => by cases h
  | some bytes =>
      simp only [readJsonFile, FileReadable]
      cases hdecode : decodeUtf8 bytes with
      | none =>
          refine iff_of_true ⟨none, rfl⟩ fun other t hother ht => ?_
          obtain rfl := Option.some.inj hother
          rw [hdecode] at ht
          cases ht
      | some t =>
          dsimp only
          have hother : (∀ other u, some bytes = some other → decodeUtf8 other = some u →
              r.loadsFinite (universalNewlines u) ≠ .error .recursion) ↔
                r.loadsFinite (universalNewlines t) ≠ .error .recursion := by
            constructor
            · exact fun h => h bytes t rfl hdecode
            · rintro h other u heq hu
              obtain rfl := Option.some.inj heq
              rw [hdecode] at hu
              obtain rfl := Option.some.inj hu
              exact h
          rw [hother]
          cases hloads : r.loadsFinite (universalNewlines t) with
          | error error => cases error <;> simp
          | ok value => simp

/-- The list under a key, empty when there is none. -/
def ItemsOf (record : Dict) (key : Text) (items : List Value) : Prop :=
  get record key = some (.arr items) ∨ items = [] ∧ ∀ other, get record key ≠ some (.arr other)

theorem itemsOf_iff {record : Dict} {key : Text} {items : List Value} :
    ItemsOf record key items ↔ items = listOf record key := by
  unfold ItemsOf listOf
  split
  · rename_i own hown
    simp [hown, eq_comm]
  · rename_i hnone
    rw [or_iff_right (hnone items)]
    exact and_iff_left_of_imp fun _ other => hnone other

end Files

section Changes

variable (r : Runtime) (arguments : ChangeArguments)

/-- A change of the service with a moment in the window. -/
def IsChange (entry : Value) : Prop :=
  ∃ record, entry = .obj record ∧
    get record (text "service") = some (.str arguments.service) ∧
    InWindow r record arguments.windowStart arguments.windowEnd

/-- The changes of the service in the window, in the order of the file. -/
def ChangesFound (loaded found : List Value) : Prop :=
  Selection.Selects (fun entry row => row = entry ∧ IsChange r arguments entry) loaded found

/-- The changes in the order of their moments, those of one moment in the order of the file. -/
def InOrder (found sorted : List Value) : Prop :=
  ∃ moment : Value → ℤ,
    (∀ entry ∈ found, ∃ record, entry = .obj record ∧ At r record (moment entry)) ∧
      Selection.StablySorted moment found sorted

variable {r arguments}

theorem isChange_iff {entry : Value} :
    isChange r arguments entry = true ↔ IsChange r arguments entry := by
  cases entry with
  | obj record =>
      rw [isChange, Bool.and_eq_true, holds_iff, withinWindow_iff]
      exact ⟨fun h => ⟨record, rfl, h⟩, fun ⟨_, heq, h⟩ => Value.obj.inj heq ▸ h⟩
  | _ => simp [isChange, IsChange]

theorem changesFound_iff {loaded found : List Value} :
    ChangesFound r arguments loaded found ↔ found = foundChanges r arguments loaded :=
  Selection.selects_iff_filter fun _ => isChange_iff

theorem changeMoment_at {loaded : List Value} {entry : Value}
    (h : entry ∈ foundChanges r arguments loaded) :
    ∃ record, entry = .obj record ∧ At r record (changeMoment r entry) := by
  obtain ⟨record, rfl, -, observed, hat, -⟩ := isChange_iff.1 (List.mem_filter.1 h).2
  refine ⟨record, rfl, ?_⟩
  rw [changeMoment, momentOf_iff.2 hat]
  exact hat

theorem inOrder_iff {loaded sorted : List Value} :
    InOrder r (foundChanges r arguments loaded) sorted ↔
      sorted = sortedChanges r arguments loaded := by
  have hcode : Selection.StablySorted (changeMoment r) (foundChanges r arguments loaded)
      (sortedChanges r arguments loaded) := Selection.mergeSort_stablySorted _ _
  constructor
  · rintro ⟨moment, hmoment, hsorted⟩
    refine (hsorted.congr fun entry hentry => ?_).unique hcode
    obtain ⟨record, rfl, hat⟩ := hmoment entry hentry
    rw [changeMoment, momentOf_iff.2 hat]
    rfl
  · rintro rfl
    exact ⟨_, fun entry hentry => changeMoment_at hentry, hcode⟩

end Changes

section Metrics

variable (r : Runtime)

/-- A successful answer: the readings of its first series, and how many series it has. -/
inductive Answers : Value → List Value → ℕ → Prop
  | none {answer data : Dict} (hstatus : get answer (text "status") = some (.str (text "success")))
      (hdata : get answer (text "data") = some (.obj data))
      (hresult : get data (text "result") = some (.arr [])) : Answers (.obj answer) [] 0
  | series {answer data first : Dict} {others values : List Value}
      (hstatus : get answer (text "status") = some (.str (text "success")))
      (hdata : get answer (text "data") = some (.obj data))
      (hresult : get data (text "result") = some (.arr (.obj first :: others)))
      (hvalues : ItemsOf first (text "values") values) :
      Answers (.obj answer) values (others.length + 1)

/-- The readable samples of some readings, beside the counts. -/
def readSamples (values : List Value) (series : ℕ) : ParsedSamples :=
  ⟨values.filterMap (readSample r), values.length, series⟩

variable {r}

theorem parseSamples_iff {answered : Value} {parsed : ParsedSamples} :
    parseSamples r answered = some parsed ↔
      ∃ values series, Answers answered values series ∧ parsed = readSamples r values series := by
  constructor
  · intro h
    unfold parseSamples at h
    split at h
    · split at h
      · rename_i hstatus
        split at h
        · rename_i data hdata
          split at h
          · rename_i hresult
            exact ⟨[], 0, .none (holds_iff.1 hstatus) hdata hresult, (Option.some.inj h).symm⟩
          · rename_i first others hresult
            refine ⟨listOf first (text "values"), others.length + 1,
              .series (holds_iff.1 hstatus) hdata hresult (itemsOf_iff.2 rfl), ?_⟩
            split at h
            · rename_i values hvalues
              rw [← Option.some.inj h]
              simp only [listOf, hvalues, readSamples]
            · rename_i hnone
              rw [← itemsOf_iff.1 (Or.inr ⟨rfl, hnone⟩), ← Option.some.inj h]
              rfl
          · cases h
        · cases h
      · cases h
    · cases h
  · rintro ⟨values, series, h, rfl⟩
    cases h with
    | none hstatus hdata hresult =>
        simp [parseSamples, holds_iff.2 hstatus, hdata, hresult, readSamples]
    | series hstatus hdata hresult hvalues =>
        rw [itemsOf_iff.1 hvalues]
        simp only [parseSamples, holds_iff.2 hstatus, hdata, hresult, if_true, readSamples, listOf]
        split <;> rfl

end Metrics

end CausalOps.Telemetry
