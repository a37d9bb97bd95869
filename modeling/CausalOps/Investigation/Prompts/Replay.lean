import CausalOps.Investigation.Prompts.Fence

set_option autoImplicit false

/-! What the replay model reads back from a rendered context: the id of the newest check
result. -/

namespace CausalOps.Investigation

section Reader

structure ReplayFixtureError where
  message : String
  deriving DecidableEq, Repr

def noCheckEvidence : ReplayFixtureError :=
  ⟨"the fixture cites a check result, but no check evidence is in the context"⟩

/-- The second word of a line that begins with a dash and a space. -/
def listedWord (line : List Char) : Option String :=
  if "- ".toList.isPrefixOf line then (Text.splitWords line)[1]?.map String.ofList else none

def listed (contextText : String) : List String :=
  (Text.splitLines contextText.toList).filterMap listedWord

/-- The last of some ids that the caller did not supply. -/
def lastUnsupplied (supplied ids : List String) : Option String :=
  ids.reverse.find? fun id => id ∉ supplied

/-- `ReplayReasoningModel.evidence_from_last_check`, with the values of the substitutions. -/
def evidenceFromLastCheck (supplied : List String) (contextText : String) :
    Except ReplayFixtureError String :=
  match lastUnsupplied supplied (listed contextText) with
  | some evidenceId => .ok evidenceId
  | none => .error noCheckEvidence

end Reader

section Words

def IsWord (text : List Char) : Prop := text ≠ [] ∧ ∀ c ∈ text, Text.isSpace c = false

theorem isWord_of_all {text : List Char} (hpresent : text ≠ [])
    (hall : text.all (fun c => !Text.isSpace c) = true) : IsWord text :=
  ⟨hpresent, fun c hc => by simpa using List.all_eq_true.1 hall c hc⟩

theorem splitWords_cons {word : List Char} (h : IsWord word) (rest : List Char) :
    Text.splitWords (word ++ ' ' :: rest) = word :: Text.splitWords rest := by
  have hword : ∀ c ∈ word, Text.isSpace c = false := h.2
  rw [Text.splitWords, List.splitOnP_append_cons_of_forall_mem hword ' ' (by decide) rest]
  simp [Text.splitWords, h.1]

theorem splitWords_space (rest : List Char) :
    Text.splitWords (' ' :: rest) = Text.splitWords rest := by
  have hnone : ∀ c ∈ ([] : List Char), Text.isSpace c = false := by simp
  have hsplit := List.splitOnP_append_cons_of_forall_mem hnone ' ' (by decide) rest
  rw [Text.splitWords, ← List.nil_append (' ' :: rest), hsplit]
  simp [Text.splitWords]

theorem listedWord_dash (text : List Char) :
    listedWord ('-' :: ' ' :: text) = (Text.splitWords text).head?.map String.ofList := by
  have hdash : IsWord ['-'] := isWord_of_all (by decide) (by decide)
  have hwords : Text.splitWords ('-' :: ' ' :: text) = ['-'] :: Text.splitWords text :=
    splitWords_cons hdash text
  simp [listedWord, hwords, List.head?_eq_getElem?]

theorem listedWord_present {line : List Char} {word : String} (h : listedWord line = some word) :
    word ≠ "" := by
  rw [listedWord] at h
  split at h
  · obtain ⟨chars, hchars, rfl⟩ := Option.map_eq_some_iff.1 h
    have hpresent : chars ≠ [] := by
      simpa using (List.mem_filter.1 (List.mem_of_getElem? hchars)).2
    intro heq
    exact hpresent (by simpa using congrArg String.toList heq)
  · cases h

end Words

section Listed

variable {packet : InitialAlertPacket} {scope : IncidentScope} {evidence : List Evidence}
  {modelCallsLeft checksLeft runbookSearchesLeft : ℤ} {passages : List RunbookPassage}
  {deniedChecks : List DeniedCheckNote}

theorem listedWord_header {line : String}
    (h : line ∈ headerLines packet scope modelCallsLeft checksLeft runbookSearchesLeft
      deniedChecks) : listedWord line.toList = none := by
  simp only [headerLines, List.mem_append, List.mem_cons, List.not_mem_nil, or_false] at h
  rcases h with (h | h) | h
  · rcases h with rfl | rfl | rfl | rfl | rfl | rfl | rfl | rfl | rfl | rfl | rfl | rfl | rfl
    all_goals simp [listedWord, String.toList_append]
  · split at h
    · simp at h
    · simp only [List.mem_append, List.mem_cons, List.not_mem_nil, or_false] at h
      rcases h with (rfl | rfl) | h
      · decide
      · decide
      · obtain ⟨note, -, rfl⟩ := List.mem_map.1 h
        simp [deniedLine, listedWord, String.toList_append]
  · rcases h with rfl | rfl <;> decide

theorem listedWord_marker {dropped : EvidenceKind → ℕ} {marker : String}
    (h : marker ∈ EvidenceStore.markers dropped) : listedWord marker.toList = none := by
  obtain ⟨kind, -, hkind⟩ := List.mem_filterMap.1 h
  split at hkind
  · cases hkind
  · obtain rfl := Option.some.inj hkind
    simp [EvidenceStore.dropMarker, listedWord, String.toList_append]

/-- The word that a record's line shows for its id. -/
def shownId (record : Evidence) : String :=
  if record.evidenceId = "" then "[" ++ record.kind.value ++ "]" else record.evidenceId

theorem isWord_kind (kind : EvidenceKind) : IsWord ("[" ++ kind.value ++ "]").toList := by
  cases kind <;> exact isWord_of_all (by decide) (by decide)

theorem listedWord_evidence {record : Evidence}
    (hid : ∀ c ∈ record.evidenceId.toList, Text.isSpace c = false) :
    listedWord (evidenceLine record).toList = some (shownId record) := by
  have hline : (evidenceLine record).toList = '-' :: ' ' :: (record.evidenceId.toList ++ ' ' ::
      (("[" ++ record.kind.value ++ "]").toList ++ ' ' :: (isoformat record.observedAt ++
        " from" ++ " " ++ fenceSafe record.source ++ ": " ++ fenceSafe record.summary).toList)) := by
    simp [evidenceLine, evidenceLabel, String.toList_append]
  rw [hline, listedWord_dash, shownId]
  split
  · rename_i hblank
    rw [hblank, String.toList_empty, List.nil_append, splitWords_space,
      splitWords_cons (isWord_kind record.kind), List.head?_cons, Option.map_some,
      String.ofList_toList]
  · rename_i hpresent
    have hword : IsWord record.evidenceId.toList := ⟨by simpa using hpresent, hid⟩
    rw [splitWords_cons hword]
    simp

theorem listedWord_passage (passage : RunbookPassage) :
    listedWord (passageLine passage).toList = some "runbook" := by
  have hrunbook : IsWord "runbook".toList := isWord_of_all (by decide) (by decide)
  have hline : (passageLine passage).toList = '-' :: ' ' :: ("runbook".toList ++ ' ' ::
      (passage.passageId ++ " [" ++ passage.retrievalMode.value ++ "]:" ++ " " ++
        fenceSafe passage.content).toList) := by
    simp [passageLine, passageLabel, String.toList_append]
  rw [hline, listedWord_dash, splitWords_cons hrunbook]
  simp

end Listed

section Unbroken

def Unbroken (text : String) : Prop := ∀ c ∈ text.toList, Text.isLineBreak c = false

instance (text : String) : Decidable (Unbroken text) := List.decidableBAll _ text.toList

theorem unbroken_append {first second : String} :
    Unbroken (first ++ second) ↔ Unbroken first ∧ Unbroken second := by
  simp only [Unbroken, String.toList_append, List.mem_append]
  constructor
  · exact fun h => ⟨fun c hc => h c (Or.inl hc), fun c hc => h c (Or.inr hc)⟩
  · rintro ⟨hfirst, hsecond⟩ c (hc | hc)
    · exact hfirst c hc
    · exact hsecond c hc

theorem Plain.unbroken {text : String} (h : Plain text) : Unbroken text := fun c hc => (h c hc).2

theorem unbroken_joinStrings {separator : String} {pieces : List String}
    (hseparator : Unbroken separator) (hpieces : ∀ piece ∈ pieces, Unbroken piece) :
    Unbroken (joinStrings separator pieces) := by
  intro c hc
  rw [joinStrings, String.toList_ofList] at hc
  rcases Text.mem_join hc with hc | ⟨piece, hpiece, hc⟩
  · exact hseparator c hc
  · obtain ⟨text, htext, rfl⟩ := List.mem_map.1 hpiece
    exact hpieces text htext c hc

/-- The texts that stand above the fence: the packet's, the services, and the guidance that
`denial_guidance` gives for a denial. -/
structure UnbrokenHeader (packet : InitialAlertPacket) (scope : IncidentScope)
    (deniedChecks : List DeniedCheckNote) : Prop where
  incident : Unbroken packet.incidentId
  endpoint : Unbroken packet.endpoint
  source : Unbroken packet.alertSourceVersion
  services : ∀ service ∈ scope.services, Unbroken service
  guidance : ∀ note ∈ deniedChecks, Unbroken note.guidance

variable {packet : InitialAlertPacket} {scope : IncidentScope} {evidence : List Evidence}
  {modelCallsLeft checksLeft runbookSearchesLeft : ℤ} {passages : List RunbookPassage}
  {deniedChecks : List DeniedCheckNote} {dropped : EvidenceKind → ℕ}

theorem UnbrokenHeader.lines (h : UnbrokenHeader packet scope deniedChecks) {line : String}
    (hline : line ∈ headerLines packet scope modelCallsLeft checksLeft runbookSearchesLeft
      deniedChecks) : Unbroken line := by
  have hjoined : Unbroken (joinStrings ", " scope.services) :=
    unbroken_joinStrings (by decide) h.services
  simp only [headerLines, List.mem_append, List.mem_cons, List.not_mem_nil, or_false] at hline
  rcases hline with (hline | hline) | hline
  · rcases hline with rfl | rfl | rfl | rfl | rfl | rfl | rfl | rfl | rfl | rfl | rfl | rfl | rfl
    · decide
    · exact unbroken_append.2 ⟨by decide, h.incident⟩
    · exact unbroken_append.2 ⟨by decide, by change Unbroken "local-lab"; decide⟩
    · simp only [unbroken_append, and_assoc]
      exact ⟨by decide, (plain_isoformat _).unbroken, by decide, (plain_isoformat _).unbroken⟩
    · exact unbroken_append.2 ⟨by decide, h.endpoint⟩
    · exact unbroken_append.2 ⟨by decide, (plain_symptom _).unbroken⟩
    · exact unbroken_append.2 ⟨by decide, hjoined⟩
    · simp only [unbroken_append, and_assoc]
      exact ⟨by decide, (plain_isoformat _).unbroken, by decide, h.source, by decide⟩
    · decide
    · decide
    · exact unbroken_append.2 ⟨by decide, (plain_int _).unbroken⟩
    · exact unbroken_append.2 ⟨by decide, (plain_int _).unbroken⟩
    · exact unbroken_append.2 ⟨by decide, (plain_int _).unbroken⟩
  · split at hline
    · simp at hline
    · simp only [List.mem_append, List.mem_cons, List.not_mem_nil, or_false] at hline
      rcases hline with (rfl | rfl) | hline
      · decide
      · decide
      · obtain ⟨note, hnote, rfl⟩ := List.mem_map.1 hline
        simp only [deniedLine, unbroken_append, and_assoc]
        exact ⟨by decide, (plain_tool _).unbroken, by decide, (plain_reason _).unbroken,
          by decide, h.guidance note hnote⟩
  · rcases hline with rfl | rfl <;> decide

theorem unbroken_of_unspaced {text : String}
    (h : ∀ c ∈ text.toList, Text.isSpace c = false) : Unbroken text := by
  intro c hc
  refine Bool.eq_false_iff.2 fun hbreak => ?_
  have hspace := Text.isSpace_of_isLineBreak hbreak
  rw [h c hc] at hspace
  cases hspace

theorem unbroken_evidenceLine {record : Evidence}
    (hid : ∀ c ∈ record.evidenceId.toList, Text.isSpace c = false) :
    Unbroken (evidenceLine record) := by
  simp only [evidenceLine, evidenceLabel, unbroken_append, and_assoc]
  exact ⟨by decide, unbroken_of_unspaced hid, by decide, (plain_kind _).unbroken, by decide,
    (plain_isoformat _).unbroken, by decide, by decide, not_isLineBreak_fenceSafe _,
    by decide, not_isLineBreak_fenceSafe _⟩

theorem unbroken_passageLine {passage : RunbookPassage}
    (hid : ∀ c ∈ passage.passageId.toList, Text.isSpace c = false) :
    Unbroken (passageLine passage) := by
  simp only [passageLine, passageLabel, unbroken_append, and_assoc]
  exact ⟨by decide, unbroken_of_unspaced hid, by decide, (plain_mode _).unbroken, by decide, by decide,
    not_isLineBreak_fenceSafe _⟩

end Unbroken

section LastCheck

variable {packet : InitialAlertPacket} {scope : IncidentScope} {evidence : List Evidence}
  {modelCallsLeft checksLeft runbookSearchesLeft : ℤ} {passages : List RunbookPassage}
  {deniedChecks : List DeniedCheckNote} {dropped : EvidenceKind → ℕ}

/-- The words that some lines list, which may hold line breaks of their own. -/
def listedIn (lines : List String) : List String :=
  (lines.flatMap fun line => Text.splitLines line.toList).filterMap listedWord

def listedAbove (packet : InitialAlertPacket) (scope : IncidentScope)
    (modelCallsLeft checksLeft runbookSearchesLeft : ℤ) (deniedChecks : List DeniedCheckNote) :
    List String :=
  listedIn (headerLines packet scope modelCallsLeft checksLeft runbookSearchesLeft deniedChecks)

theorem listedIn_append (first second : List String) :
    listedIn (first ++ second) = listedIn first ++ listedIn second := by
  simp [listedIn]

theorem listed_joinStrings (lines : List String) :
    listed (joinStrings "\n" lines) = listedIn lines := by
  have hempty : listedWord [] = none := rfl
  have hlines := Text.filterMap_splitLines_join hempty (lines.map String.toList)
  rw [List.flatMap_map] at hlines
  rw [listed, joinStrings, String.toList_ofList]
  exact hlines

theorem listedIn_unbroken {lines : List String} (h : ∀ line ∈ lines, Unbroken line) :
    listedIn lines = lines.filterMap fun line => listedWord line.toList := by
  induction lines with
  | nil => rfl
  | cons line rest ih =>
      have hline : (Text.splitLines line.toList).filterMap listedWord =
          (listedWord line.toList).toList :=
        Text.filterMap_splitLines rfl (h line List.mem_cons_self)
      have hrest := ih fun other hother => h other (List.mem_cons_of_mem line hother)
      rw [listedIn] at hrest
      rw [listedIn, List.flatMap_cons, List.filterMap_append, hline, hrest]
      cases hword : listedWord line.toList <;> simp [hword]

theorem listedIn_silent {lines : List String} (h : ∀ line ∈ lines, Unbroken line)
    (hnone : ∀ line ∈ lines, listedWord line.toList = none) : listedIn lines = [] := by
  rw [listedIn_unbroken h]
  exact List.filterMap_eq_nil_iff.2 hnone

theorem listedIn_map {α : Type} (line word : α → String) {items : List α}
    (h : ∀ item ∈ items, Unbroken (line item))
    (hword : ∀ item ∈ items, listedWord (line item).toList = some (word item)) :
    listedIn (items.map line) = items.map word := by
  have hunbroken : ∀ text ∈ items.map line, Unbroken text := by
    intro text htext
    obtain ⟨item, hitem, rfl⟩ := List.mem_map.1 htext
    exact h item hitem
  rw [listedIn_unbroken hunbroken, List.filterMap_map]
  clear hunbroken h
  induction items with
  | nil => rfl
  | cons item rest ih =>
      have hrest := ih fun other hother => hword other (List.mem_cons_of_mem item hother)
      have hfirst : ((fun text : String => listedWord text.toList) ∘ line) item =
          some (word item) := hword item List.mem_cons_self
      rw [List.filterMap_cons_some hfirst, hrest, List.map_cons]

/-- Nothing is listed above the fence where no text there breaks its line. -/
theorem listedAbove_unbroken (h : UnbrokenHeader packet scope deniedChecks) :
    listedAbove packet scope modelCallsLeft checksLeft runbookSearchesLeft deniedChecks = [] :=
  listedIn_silent (fun _ hline => h.lines hline) fun _ hline => listedWord_header hline

theorem listedAbove_present : ∀ word ∈ listedAbove packet scope modelCallsLeft checksLeft
    runbookSearchesLeft deniedChecks, word ≠ "" := by
  intro word hword
  obtain ⟨line, -, hlisted⟩ := List.mem_filterMap.1 hword
  exact listedWord_present hlisted

/-- A rendered context lists what stands above the fence, what the evidence shows for its ids,
and one word for each passage. -/
theorem listed_context
    (hevidence : ∀ record ∈ evidence, ∀ c ∈ record.evidenceId.toList, Text.isSpace c = false)
    (hpassages : ∀ passage ∈ passages, ∀ c ∈ passage.passageId.toList, Text.isSpace c = false) :
    listed (renderContext packet scope evidence (EvidenceStore.markers dropped) modelCallsLeft
        checksLeft passages deniedChecks runbookSearchesLeft) =
      listedAbove packet scope modelCallsLeft checksLeft runbookSearchesLeft deniedChecks ++
        evidence.map shownId ++ passages.map fun _ => "runbook" := by
  have hrecords : listedIn (evidence.map evidenceLine) = evidence.map shownId :=
    listedIn_map evidenceLine shownId (fun record hrecord =>
      unbroken_evidenceLine (hevidence record hrecord)) fun record hrecord =>
        listedWord_evidence (hevidence record hrecord)
  have hmarkers : listedIn (EvidenceStore.markers dropped) = [] :=
    listedIn_silent (fun _ hmarker => (plain_markers dropped _ hmarker).unbroken)
      fun _ hmarker => listedWord_marker hmarker
  have hrunbook : listedIn (passages.map passageLine) = passages.map fun _ => "runbook" :=
    listedIn_map passageLine (fun _ => "runbook") (fun passage hpassage =>
      unbroken_passageLine (hpassages passage hpassage)) fun passage _ => listedWord_passage passage
  have hopen : listedIn [fenceOpen] = [] := by decide
  have hclose : listedIn [fenceClose] = [] := by decide
  rw [renderContext, listed_joinStrings, insideLines]
  simp only [listedIn_append, hrecords, hmarkers, hrunbook, hopen, hclose, List.append_nil]
  rw [listedAbove, List.append_assoc]

variable {supplied : List String}

/-- The id of the newest record of some evidence that the caller did not supply. -/
def newestUnsupplied (supplied : List String) (evidence : List Evidence) : Option String :=
  lastUnsupplied supplied (evidence.map Evidence.evidenceId)

/-- The reader finds the newest record that the caller did not supply in a context, and
raises if there is none. -/
def FindsNewest (supplied : List String) (evidence : List Evidence) (contextText : String) : Prop :=
  evidenceFromLastCheck supplied contextText =
    match newestUnsupplied supplied evidence with
    | some evidenceId => .ok evidenceId
    | none => .error noCheckEvidence

theorem findsNewest_iff {contextText : String} :
    FindsNewest supplied evidence contextText ↔
      lastUnsupplied supplied (listed contextText) = newestUnsupplied supplied evidence := by
  rw [FindsNewest, evidenceFromLastCheck]
  cases lastUnsupplied supplied (listed contextText) with
  | none => cases newestUnsupplied supplied evidence <;> simp
  | some first => cases newestUnsupplied supplied evidence <;> simp

theorem lastUnsupplied_append (first second : List String) :
    lastUnsupplied supplied (first ++ second) =
      (lastUnsupplied supplied second).or (lastUnsupplied supplied first) := by
  rw [lastUnsupplied, List.reverse_append, List.find?_append]
  rfl

theorem lastUnsupplied_eq_none {ids : List String} :
    lastUnsupplied supplied ids = none ↔ ∀ id ∈ ids, id ∈ supplied := by
  simp [lastUnsupplied]

theorem mem_of_lastUnsupplied {ids : List String} {id : String}
    (h : lastUnsupplied supplied ids = some id) : id ∈ ids ∧ id ∉ supplied :=
  ⟨List.mem_reverse.1 (List.mem_of_find?_eq_some h), by simpa using List.find?_some h⟩

/-- Behind the ids, a word that the caller did not supply is what is found. -/
theorem lastUnsupplied_runbook (hpassages : passages ≠ []) (hnew : "runbook" ∉ supplied) :
    lastUnsupplied supplied (passages.map fun _ => "runbook") = some "runbook" := by
  cases hfound : lastUnsupplied supplied (passages.map fun _ => "runbook") with
  | none =>
      obtain ⟨passage, hpassage⟩ := List.exists_mem_of_ne_nil _ hpassages
      exact absurd (lastUnsupplied_eq_none.1 hfound _ (List.mem_map_of_mem hpassage)) hnew
  | some word =>
      obtain ⟨passage, -, rfl⟩ := List.mem_map.1 (mem_of_lastUnsupplied hfound).1
      rfl

/-- Where no passage misleads, what the evidence shows has to be its ids, and what stands above
the fence has to be supplied once all ids are. -/
theorem shown_or_above {above : List String} (habove : ∀ word ∈ above, word ≠ "") :
    (lastUnsupplied supplied (evidence.map shownId)).or (lastUnsupplied supplied above) =
        newestUnsupplied supplied evidence ↔
      lastUnsupplied supplied (evidence.map shownId) = newestUnsupplied supplied evidence ∧
        (newestUnsupplied supplied evidence = none → ∀ word ∈ above, word ∈ supplied) := by
  cases hshown : lastUnsupplied supplied (evidence.map shownId) with
  | some word =>
      rw [Option.some_or]
      constructor
      · intro hfound
        exact ⟨hfound, fun hnone => by rw [hnone] at hfound; cases hfound⟩
      · exact And.left
  | none =>
      -- an id that is not supplied is empty then, since its record shows something else
      have hblank : ∀ id, newestUnsupplied supplied evidence = some id → id = "" := by
        intro id hid
        obtain ⟨hmem, hnew⟩ := mem_of_lastUnsupplied hid
        obtain ⟨record, hrecord, rfl⟩ := List.mem_map.1 hmem
        by_contra hpresent
        have hshows := lastUnsupplied_eq_none.1 hshown _ (List.mem_map_of_mem hrecord)
        rw [shownId, if_neg hpresent] at hshows
        exact hnew hshows
      rw [Option.none_or]
      constructor
      · intro hfound
        cases hnewest : newestUnsupplied supplied evidence with
        | none =>
            rw [hnewest] at hfound
            exact ⟨rfl, fun _ => lastUnsupplied_eq_none.1 hfound⟩
        | some id =>
            rw [hnewest] at hfound
            exact absurd (hblank id hnewest) (habove id (mem_of_lastUnsupplied hfound).1)
      · rintro ⟨hnone, hsupplied⟩
        rw [← hnone]
        exact lastUnsupplied_eq_none.2 (hsupplied hnone.symm)

/-- A record with an empty id goes unnoticed, unless a line behind it shows what is not
supplied: the empty id is supplied, and so is the word `[kind]` that its line shows for it, or
that is the newest unsupplied id all the same. -/
def BlanksHidden (supplied : List String) (evidence : List Evidence) : Prop :=
  ∀ older record newer, evidence = older ++ record :: newer → record.evidenceId = "" →
    (∀ later ∈ newer, shownId later ∈ supplied) →
      "" ∈ supplied ∧ ("[" ++ record.kind.value ++ "]" ∈ supplied ∨
        newestUnsupplied supplied older = some ("[" ++ record.kind.value ++ "]"))

theorem shownId_ne_empty (record : Evidence) : shownId record ≠ "" := by
  rw [shownId]
  split
  · cases record.kind <;> decide
  · assumption

theorem lastUnsupplied_snoc (supplied ids : List String) (id : String) :
    lastUnsupplied supplied (ids ++ [id]) =
      if id ∈ supplied then lastUnsupplied supplied ids else some id := by
  rw [lastUnsupplied, List.reverse_append, List.reverse_singleton, List.singleton_append,
    List.find?_cons]
  by_cases hid : id ∈ supplied <;> simp [hid, lastUnsupplied]

theorem blanksHidden_snoc {evidence : List Evidence} {record : Evidence} :
    BlanksHidden supplied (evidence ++ [record]) ↔
      (shownId record ∈ supplied → BlanksHidden supplied evidence) ∧
        (record.evidenceId = "" → "" ∈ supplied ∧
          ("[" ++ record.kind.value ++ "]" ∈ supplied ∨
            newestUnsupplied supplied evidence = some ("[" ++ record.kind.value ++ "]"))) := by
  constructor
  · intro h
    refine ⟨fun hshown older blank newer hsplit hempty hlater => ?_, fun hempty => ?_⟩
    · refine h older blank (newer ++ [record]) (by rw [hsplit]; simp) hempty ?_
      intro later hmem
      rcases List.mem_append.1 hmem with hold | hnew
      · exact hlater later hold
      · rw [List.mem_singleton.1 hnew]
        exact hshown
    · exact h evidence record [] rfl hempty fun later hmem => absurd hmem List.not_mem_nil
  · rintro ⟨hbefore, hself⟩ older blank newer hsplit hempty hlater
    rcases List.eq_nil_or_concat newer with rfl | ⟨front, last, rfl⟩
    · obtain ⟨rfl, hlast⟩ := List.append_inj' hsplit rfl
      obtain rfl := List.singleton_inj.1 hlast
      exact hself hempty
    · rw [List.concat_eq_append] at hsplit hlater
      have hsplit' : evidence ++ [record] = (older ++ blank :: front) ++ [last] := by
        rw [hsplit]
        simp
      obtain ⟨rfl, hlast⟩ := List.append_inj' hsplit' rfl
      obtain rfl := List.singleton_inj.1 hlast
      exact hbefore (hlater record (by simp)) older blank front rfl hempty
        fun later hmem => hlater later (List.mem_append_left _ hmem)

theorem shown_iff (supplied : List String) (evidence : List Evidence) :
    lastUnsupplied supplied (evidence.map shownId) = newestUnsupplied supplied evidence ↔
      BlanksHidden supplied evidence := by
  induction evidence using List.reverseRecOn with
  | nil => exact iff_of_true rfl fun older record newer hsplit => by simp at hsplit
  | append_singleton evidence record ih =>
      rw [blanksHidden_snoc, newestUnsupplied, List.map_append, List.map_append,
        List.map_singleton, List.map_singleton, lastUnsupplied_snoc, lastUnsupplied_snoc]
      by_cases hempty : record.evidenceId = ""
      · have hshown : shownId record = "[" ++ record.kind.value ++ "]" := if_pos hempty
        rw [hempty]
        by_cases hblank : "" ∈ supplied
        · rw [if_pos hblank]
          by_cases hword : shownId record ∈ supplied
          · rw [if_pos hword, ← hshown]
            simp only [hword, hblank, true_implies, true_or, and_self, and_true]
            exact ih
          · rw [if_neg hword, ← hshown]
            simp only [hword, hblank, false_implies, false_or, true_and, true_implies]
            exact eq_comm
        · rw [if_neg hblank]
          refine iff_of_false ?_ fun h => hblank (h.2 rfl).1
          split
          · intro heq
            obtain ⟨hmem, -⟩ := mem_of_lastUnsupplied heq
            obtain ⟨other, -, hother⟩ := List.mem_map.1 hmem
            exact shownId_ne_empty other hother
          · exact fun heq => shownId_ne_empty record (Option.some.inj heq)
      · have hshown : shownId record = record.evidenceId := if_neg hempty
        rw [hshown]
        simp only [hempty, false_implies, and_true]
        by_cases hid : record.evidenceId ∈ supplied
        · rw [if_pos hid, if_pos hid]
          simp only [hid, true_implies]
          exact ih
        · rw [if_neg hid, if_neg hid]
          exact iff_of_true rfl fun h => absurd h hid

/-- Whatever a context shows, this is when the reader finds the newest record of it. -/
theorem findsNewest_context (packet : InitialAlertPacket) (scope : IncidentScope)
    (evidence : List Evidence) (dropped : EvidenceKind → ℕ) (modelCallsLeft checksLeft : ℤ)
    (passages : List RunbookPassage) (deniedChecks : List DeniedCheckNote)
    (runbookSearchesLeft : ℤ) (supplied : List String)
    (hevidence : ∀ record ∈ evidence, ∀ c ∈ record.evidenceId.toList, Text.isSpace c = false)
    (hpassages : ∀ passage ∈ passages, ∀ c ∈ passage.passageId.toList, Text.isSpace c = false) :
    FindsNewest supplied evidence (renderContext packet scope evidence
        (EvidenceStore.markers dropped) modelCallsLeft checksLeft passages deniedChecks
        runbookSearchesLeft) ↔
      if passages = [] ∨ "runbook" ∈ supplied then
        BlanksHidden supplied evidence ∧
          (newestUnsupplied supplied evidence = none →
            ∀ word ∈ listedAbove packet scope modelCallsLeft checksLeft runbookSearchesLeft
              deniedChecks, word ∈ supplied)
      else newestUnsupplied supplied evidence = some "runbook" := by
  rw [findsNewest_iff, listed_context hevidence hpassages, lastUnsupplied_append,
    lastUnsupplied_append]
  split
  · rename_i hquiet
    have hnone : lastUnsupplied supplied (passages.map fun _ => "runbook") = none := by
      refine lastUnsupplied_eq_none.2 fun word hword => ?_
      obtain ⟨passage, hpassage, rfl⟩ := List.mem_map.1 hword
      rcases hquiet with rfl | hsupplied
      · cases hpassage
      · exact hsupplied
    rw [hnone, Option.none_or, ← shown_iff]
    exact shown_or_above listedAbove_present
  · rename_i hloud
    obtain ⟨hsome, hnew⟩ := not_or.1 hloud
    rw [lastUnsupplied_runbook hsome hnew, Option.some_or]
    exact eq_comm

end LastCheck

section Samples

def timeoutGuide : RunbookPassage where
  passageId := "timeouts-1"
  content := "compare the two latencies first"
  sourceVersion := "1"
  contentHash := "hash"
  score := 1
  retrievalMode := .fts5Lexical
  contentBound := by decide

theorem labHeader_unbroken : UnbrokenHeader labPacket labScope [] where
  incident := by decide
  endpoint := by decide
  source := by decide
  services := by decide
  guidance := by decide

theorem timeoutGuide_unspaced :
    ∀ passage ∈ [timeoutGuide], ∀ c ∈ passage.passageId.toList, Text.isSpace c = false := by
  intro passage hpassage
  rw [List.mem_singleton.1 hpassage]
  have hword : IsWord timeoutGuide.passageId.toList := isWord_of_all (by decide) (by decide)
  exact hword.2

theorem labRecords_unspaced : ∀ record ∈ [symptomRecord, topologyRecord],
    ∀ c ∈ record.evidenceId.toList, Text.isSpace c = false := by
  intro record hrecord
  have hsymptom : IsWord symptomRecord.evidenceId.toList :=
    isWord_of_all (by decide) (by decide)
  have htopology : IsWord topologyRecord.evidenceId.toList :=
    isWord_of_all (by decide) (by decide)
  simp only [List.mem_cons, List.not_mem_nil, or_false] at hrecord
  rcases hrecord with rfl | rfl
  · exact hsymptom.2
  · exact htopology.2

/-- Without a passage the topology is found, the symptom being supplied. -/
theorem findsNewest_context_unguided :
    FindsNewest ["symptom"] [symptomRecord, topologyRecord]
      (renderContext labPacket labScope [symptomRecord, topologyRecord]
        (EvidenceStore.markers fun _ => 0) 3 2 [] [] 1) := by
  refine (findsNewest_context labPacket labScope _ _ 3 2 [] [] 1 _ labRecords_unspaced
    (by decide)).2 ?_
  rw [if_pos (Or.inl rfl)]
  exact ⟨(shown_iff _ _).1 (by decide), fun hnone => absurd hnone (by decide)⟩

/-- With a passage behind it, the word `runbook` is taken for its id. -/
theorem findsNewest_context_guided :
    ¬ FindsNewest ["symptom"] [symptomRecord, topologyRecord]
      (renderContext labPacket labScope [symptomRecord, topologyRecord]
        (EvidenceStore.markers fun _ => 0) 3 2 [timeoutGuide] [] 1) := by
  rw [findsNewest_iff, listed_context labRecords_unspaced timeoutGuide_unspaced,
    listedAbove_unbroken labHeader_unbroken]
  decide

end Samples

end CausalOps.Investigation
