import CausalOps.Library.Text

set_option autoImplicit false

/-! Searching and rewriting lists of code points: `str.count`, `str.replace`,
`str.split`, `str.join` and `str.splitlines`. -/

namespace Text

section Replace

variable {α : Type} [DecidableEq α]

/-- `text.replace(old, new)` for a non-empty `old`, from left to right. The first
`skip` code points belong to an occurrence that has been replaced already. -/
def replaceFrom (old new : List α) : ℕ → List α → List α
  | _, [] => []
  | skip + 1, _ :: rest => replaceFrom old new skip rest
  | 0, c :: rest =>
      if old.isPrefixOf (c :: rest) then new ++ replaceFrom old new (old.length - 1) rest
      else c :: replaceFrom old new 0 rest

/-- `text.count(pattern)` for a non-empty pattern: occurrences that do not overlap. -/
def countFrom (pattern : List α) : ℕ → List α → ℕ
  | _, [] => 0
  | skip + 1, _ :: rest => countFrom pattern skip rest
  | 0, c :: rest =>
      if pattern.isPrefixOf (c :: rest) then countFrom pattern (pattern.length - 1) rest + 1
      else countFrom pattern 0 rest

def replaceAll (old new text : List α) : List α := replaceFrom old new 0 text

def occurrences (pattern text : List α) : ℕ := countFrom pattern 0 text

theorem mem_replaceFrom {old new : List α} {c : α} (skip : ℕ) (text : List α)
    (h : c ∈ replaceFrom old new skip text) : c ∈ new ∨ c ∈ text := by
  induction text generalizing skip with
  | nil => simp [replaceFrom] at h
  | cons d rest ih =>
      cases skip with
      | succ skip => exact (ih skip h).imp_right (List.mem_cons_of_mem d)
      | zero =>
          simp only [replaceFrom] at h
          split at h
          · rcases List.mem_append.1 h with hnew | hrest
            · exact Or.inl hnew
            · exact (ih _ hrest).imp_right (List.mem_cons_of_mem d)
          · rcases List.mem_cons.1 h with rfl | hrest
            · exact Or.inr (by simp)
            · exact (ih _ hrest).imp_right (List.mem_cons_of_mem d)

/-- A prefix without the first code point of the replacement was already there. -/
theorem prefix_of_replaceFrom {old new pattern : List α} {b : α}
    (hnew : new.head? = some b) (hb : b ∉ pattern) (text : List α)
    (h : pattern <+: replaceFrom old new 0 text) : pattern <+: text := by
  induction text generalizing pattern with
  | nil => simpa [replaceFrom] using h
  | cons c rest ih =>
      cases pattern with
      | nil => exact List.nil_prefix
      | cons d tail =>
          simp only [replaceFrom] at h
          split at h
          · obtain ⟨first, more, rfl⟩ : ∃ first more, new = first :: more := by
              cases new with
              | nil => simp at hnew
              | cons first more => exact ⟨first, more, rfl⟩
            obtain rfl : first = b := by simpa using hnew
            rw [List.cons_append, List.cons_prefix_cons] at h
            exact absurd (h.1 ▸ List.mem_cons_self) hb
          · rw [List.cons_prefix_cons] at h
            rw [List.cons_prefix_cons]
            exact ⟨h.1, ih (fun hmem => hb (List.mem_cons_of_mem d hmem)) h.2⟩

omit [DecidableEq α] in
theorem infix_append_of_head {block text tail : List α} {a : α} (ha : a ∉ block)
    (h : (a :: tail) <:+: block ++ text) : (a :: tail) <:+: text := by
  induction block with
  | nil => simpa using h
  | cons c rest ih =>
      rw [List.cons_append, List.infix_cons_iff, List.cons_prefix_cons] at h
      rcases h with ⟨rfl, -⟩ | h
      · exact absurd List.mem_cons_self ha
      · exact ih (fun hmem => ha (List.mem_cons_of_mem c hmem)) h

/-- Replacing creates no occurrence of a pattern that shares neither its first code
point with the replacement nor the first code point of the replacement. -/
theorem infix_of_replaceFrom {old new tail : List α} {a b : α}
    (hnew : new.head? = some b) (hb : b ∉ a :: tail) (ha : a ∉ new)
    (skip : ℕ) (text : List α) (h : (a :: tail) <:+: replaceFrom old new skip text) :
    (a :: tail) <:+: text := by
  induction text generalizing skip with
  | nil => simp [replaceFrom] at h
  | cons c rest ih =>
      cases skip with
      | succ skip => exact (ih skip h).trans (List.infix_cons List.infix_rfl)
      | zero =>
          simp only [replaceFrom] at h
          split at h
          · exact (ih _ (infix_append_of_head ha h)).trans (List.infix_cons List.infix_rfl)
          · rcases List.infix_cons_iff.1 h with hheads | hembedded
            · rename_i hmatch
              have hhead : (a :: tail) <+: replaceFrom old new 0 (c :: rest) := by
                rw [replaceFrom, if_neg hmatch]
                exact hheads
              exact (prefix_of_replaceFrom hnew hb _ hhead).isInfix
            · exact (ih _ hembedded).trans (List.infix_cons List.infix_rfl)

theorem not_infix_replaceFrom {new tail : List α} {a b : α}
    (hnew : new.head? = some b) (hb : b ∉ a :: tail) (ha : a ∉ new)
    (skip : ℕ) (text : List α) : ¬ (a :: tail) <:+: replaceFrom (a :: tail) new skip text := by
  induction text generalizing skip with
  | nil => simp [replaceFrom]
  | cons c rest ih =>
      cases skip with
      | succ skip => exact ih skip
      | zero =>
          intro h
          simp only [replaceFrom] at h
          split at h
          · exact ih _ (infix_append_of_head ha h)
          · rename_i hmatch
            rcases List.infix_cons_iff.1 h with hheads | hembedded
            · have hhead : (a :: tail) <+: replaceFrom (a :: tail) new 0 (c :: rest) := by
                rw [replaceFrom, if_neg hmatch]
                exact hheads
              have hfound := prefix_of_replaceFrom hnew hb _ hhead
              exact hmatch (List.isPrefixOf_iff_prefix.2 hfound)
            · exact ih _ hembedded

theorem countFrom_eq_zero {pattern : List α} (skip : ℕ) (text : List α)
    (h : ¬ pattern <:+: text) : countFrom pattern skip text = 0 := by
  induction text generalizing skip with
  | nil => simp [countFrom]
  | cons c rest ih =>
      have hrest : ¬ pattern <:+: rest := fun hembedded =>
        h (hembedded.trans (List.infix_cons List.infix_rfl))
      cases skip with
      | succ skip => exact ih skip hrest
      | zero =>
          have hno : pattern.isPrefixOf (c :: rest) = false := by
            refine Bool.eq_false_iff.2 fun hheads => ?_
            exact h (List.isPrefixOf_iff_prefix.1 hheads).isInfix
          simp only [countFrom, hno, Bool.false_eq_true, if_false]
          exact ih 0 hrest

omit [DecidableEq α] in
theorem prefix_append_cons {pattern before after : List α} {sep : α} (hsep : sep ∉ pattern)
    (h : pattern <+: before ++ sep :: after) : pattern <+: before := by
  induction before generalizing pattern with
  | nil =>
      cases pattern with
      | nil => exact List.nil_prefix
      | cons d tail =>
          rw [List.nil_append, List.cons_prefix_cons] at h
          exact absurd (h.1 ▸ List.mem_cons_self) hsep
  | cons c rest ih =>
      cases pattern with
      | nil => exact List.nil_prefix
      | cons d tail =>
          rw [List.cons_append, List.cons_prefix_cons] at h
          rw [List.cons_prefix_cons]
          exact ⟨h.1, ih (fun hmem => hsep (List.mem_cons_of_mem d hmem)) h.2⟩

theorem countFrom_append_cons {pattern : List α} {sep : α} (hsep : sep ∉ pattern)
    (hne : pattern ≠ []) (skip : ℕ) (before after : List α) (hskip : skip ≤ before.length) :
    countFrom pattern skip (before ++ sep :: after) =
      countFrom pattern skip before + countFrom pattern 0 after := by
  induction before generalizing skip with
  | nil =>
      obtain rfl : skip = 0 := by simpa using hskip
      have hno : pattern.isPrefixOf (sep :: after) = false := by
        refine Bool.eq_false_iff.2 fun hheads => ?_
        have hnil : pattern <+: [] := prefix_append_cons hsep (List.isPrefixOf_iff_prefix.1 hheads)
        exact hne (List.prefix_nil.1 hnil)
      simp [countFrom, hno]
  | cons c rest ih =>
      cases skip with
      | succ skip =>
          have hrest : skip ≤ rest.length := by simpa using hskip
          exact ih skip hrest
      | zero =>
          simp only [List.cons_append, countFrom]
          by_cases hheads : pattern <+: c :: rest
          · have hmatch := List.isPrefixOf_iff_prefix.2 hheads
            have hlong : pattern.isPrefixOf (c :: (rest ++ sep :: after)) = true := by
              rw [List.isPrefixOf_iff_prefix, ← List.cons_append]
              exact hheads.trans (List.prefix_append _ _)
            have hlength : pattern.length - 1 ≤ rest.length := by
              have hle := hheads.length_le
              simp only [List.length_cons] at hle
              omega
            rw [hmatch, hlong, if_pos rfl, if_pos rfl, ih _ hlength]
            omega
          · have hmatch : pattern.isPrefixOf (c :: rest) = false :=
              Bool.eq_false_iff.2 fun h => hheads (List.isPrefixOf_iff_prefix.1 h)
            have hlong : pattern.isPrefixOf (c :: (rest ++ sep :: after)) = false := by
              refine Bool.eq_false_iff.2 fun h => hheads ?_
              exact prefix_append_cons hsep (by simpa using List.isPrefixOf_iff_prefix.1 h)
            rw [hmatch, hlong]
            simpa using ih 0 (Nat.zero_le _)

end Replace

section Words

/-- `text.split()`: the runs of code points that are no whitespace. -/
def splitWords (text : List Char) : List (List Char) :=
  (text.splitOnP isSpace).filter fun word => word ≠ []

def join (separator : List Char) (pieces : List (List Char)) : List Char :=
  separator.intercalate pieces

@[simp] theorem join_nil (separator : List Char) : join separator [] = [] := rfl

@[simp] theorem join_singleton (separator piece : List Char) : join separator [piece] = piece :=
  List.intercalate_singleton

@[simp] theorem join_cons_cons (separator piece next : List Char) (more : List (List Char)) :
    join separator (piece :: next :: more) = piece ++ separator ++ join separator (next :: more) :=
  List.intercalate_cons_cons

theorem mem_splitOnP {text word : List Char} (h : word ∈ text.splitOnP isSpace) :
    ∀ c ∈ word, isSpace c = false := by
  induction text generalizing word with
  | nil =>
      obtain rfl : word = [] := by simpa using h
      simp
  | cons d rest ih =>
      rw [List.splitOnP_cons_eq_if_modifyHead] at h
      split at h
      · rcases List.mem_cons.1 h with rfl | h
        · simp
        · exact ih h
      · rename_i hd
        cases hsplit : rest.splitOnP isSpace with
        | nil => simp [hsplit] at h
        | cons first more =>
            rw [hsplit, List.modifyHead_cons, List.mem_cons] at h
            rcases h with rfl | h
            · intro c hc
              rcases List.mem_cons.1 hc with rfl | hc
              · simpa using hd
              · exact ih (hsplit ▸ List.mem_cons_self) c hc
            · exact ih (hsplit ▸ List.mem_cons_of_mem first h)

theorem mem_join {separator : List Char} {pieces : List (List Char)} {c : Char}
    (h : c ∈ join separator pieces) : c ∈ separator ∨ ∃ piece ∈ pieces, c ∈ piece := by
  induction pieces with
  | nil => simp at h
  | cons piece rest ih =>
      cases rest with
      | nil => exact Or.inr ⟨piece, by simp, by simpa using h⟩
      | cons next more =>
          rw [join_cons_cons, List.mem_append, List.mem_append] at h
          rcases h with (h | h) | h
          · exact Or.inr ⟨piece, by simp, h⟩
          · exact Or.inl h
          · rcases ih h with h | ⟨other, hother, hc⟩
            · exact Or.inl h
            · exact Or.inr ⟨other, List.mem_cons_of_mem piece hother, hc⟩

theorem infix_join (separator : List Char) {pieces : List (List Char)} {piece : List Char}
    (h : piece ∈ pieces) : piece <:+: join separator pieces := by
  induction pieces with
  | nil => cases h
  | cons first rest ih =>
      cases rest with
      | nil =>
          obtain rfl := List.mem_singleton.1 h
          simp
      | cons next more =>
          rw [join_cons_cons]
          rcases List.mem_cons.1 h with rfl | hlater
          · exact ⟨[], separator ++ join separator (next :: more), by simp⟩
          · obtain ⟨before, behind, hinside⟩ := ih hlater
            exact ⟨first ++ separator ++ before, behind, by rw [← hinside]; simp⟩

theorem mem_join_splitWords {text : List Char} {c : Char}
    (h : c ∈ join [' '] (splitWords text)) : c = ' ' ∨ isSpace c = false := by
  rcases mem_join h with h | ⟨word, hword, hc⟩
  · exact Or.inl (by simpa using h)
  · exact Or.inr (mem_splitOnP (List.mem_of_mem_filter hword) c hc)

end Words

section Lines

/-- The code points at which `str.splitlines` breaks. -/
def isLineBreak (c : Char) : Bool :=
  let n := c.toNat
  n == 0x0A || n == 0x0B || n == 0x0C || n == 0x0D || n == 0x1C || n == 0x1D || n == 0x1E ||
    n == 0x85 || n == 0x2028 || n == 0x2029

theorem isSpace_of_isLineBreak {c : Char} (h : isLineBreak c = true) : isSpace c = true := by
  simp only [isLineBreak, Bool.or_eq_true, beq_iff_eq] at h
  simp only [isSpace, Bool.or_eq_true, Bool.and_eq_true, beq_iff_eq, decide_eq_true_eq]
  omega

/-- The lines that are left, the one being read given in reverse. -/
def linesFrom (current : List Char) : List Char → List (List Char)
  | [] => if current = [] then [] else [current.reverse]
  | '\r' :: '\n' :: rest => current.reverse :: linesFrom [] rest
  | c :: rest =>
      if isLineBreak c then current.reverse :: linesFrom [] rest
      else linesFrom (c :: current) rest

def splitLines (text : List Char) : List (List Char) := linesFrom [] text

theorem linesFrom_append {line : List Char} (hline : ∀ c ∈ line, isLineBreak c = false)
    (current rest : List Char) :
    linesFrom current (line ++ rest) = linesFrom (line.reverse ++ current) rest := by
  induction line generalizing current with
  | nil => rfl
  | cons c more ih =>
      have hc : isLineBreak c = false := hline c (by simp)
      have hcr : c ≠ '\r' := by
        rintro rfl
        exact absurd hc (by decide)
      rw [List.cons_append, linesFrom.eq_3 _ _ _ (fun _ heq => absurd heq (by simp [hcr])), hc]
      simp only [Bool.false_eq_true, if_false]
      rw [ih (fun d hd => hline d (List.mem_cons_of_mem c hd))]
      simp

theorem splitLines_join {lines : List (List Char)} {last : List Char}
    (hlines : ∀ line ∈ lines, ∀ c ∈ line, isLineBreak c = false)
    (hlast : ∀ c ∈ last, isLineBreak c = false) (hne : last ≠ []) :
    splitLines (join ['\n'] (lines ++ [last])) = lines ++ [last] := by
  induction lines with
  | nil =>
      have h := linesFrom_append hlast [] []
      simp only [List.append_nil] at h
      simp [splitLines, h, linesFrom, hne]
  | cons line rest ih =>
      have hsplit : join ['\n'] (line :: rest ++ [last]) =
          line ++ '\n' :: join ['\n'] (rest ++ [last]) := by
        cases rest <;> simp
      have hrest := ih fun other hother => hlines other (List.mem_cons_of_mem line hother)
      rw [splitLines] at hrest
      rw [splitLines, hsplit, linesFrom_append (hlines line (by simp)), List.append_nil]
      have hbreak : linesFrom line.reverse ('\n' :: join ['\n'] (rest ++ [last])) =
          line :: linesFrom [] (join ['\n'] (rest ++ [last])) := by
        rw [linesFrom.eq_3 _ _ _ (fun _ heq => absurd heq (by simp))]
        simp [isLineBreak]
      rw [hbreak, hrest]
      rfl

theorem filterMap_linesFrom {α : Type} {keep : List Char → Option α} (hempty : keep [] = none)
    (current text rest : List Char) :
    (linesFrom current (text ++ '\n' :: rest)).filterMap keep =
      (linesFrom current text).filterMap keep ++ (splitLines rest).filterMap keep := by
  have hnewline : ∀ current : List Char, (linesFrom current ('\n' :: rest)).filterMap keep =
      (keep current.reverse).toList ++ (splitLines rest).filterMap keep := by
    intro current
    rw [linesFrom.eq_3 _ _ _ (fun _ heq => absurd heq (by simp)), if_pos (by decide)]
    cases hkeep : keep current.reverse <;> simp [hkeep, splitLines]
  induction current, text using linesFrom.induct with
  | case1 =>
      rw [List.nil_append, hnewline, List.reverse_nil, hempty]
      rfl
  | case2 current hcurrent =>
      rw [List.nil_append, hnewline, linesFrom, if_neg hcurrent]
      cases hkeep : keep current.reverse <;> simp [hkeep]
  | case3 current more ih =>
      rw [List.cons_append, List.cons_append, linesFrom, linesFrom, List.filterMap_cons,
        List.filterMap_cons, ih]
      cases keep current.reverse <;> rfl
  | case4 current c more hsingle hbreak ih =>
      by_cases hreturn : c = '\r' ∧ more = []
      · -- the newline belongs to the break before it
        obtain ⟨rfl, rfl⟩ := hreturn
        rw [List.singleton_append, linesFrom, linesFrom.eq_3 _ _ _ hsingle, if_pos hbreak]
        cases hkeep : keep current.reverse <;> simp [hkeep, splitLines, linesFrom]
      · have happended : ∀ other, c = '\r' → more ++ '\n' :: rest = '\n' :: other → False := by
          intro other hc hmore
          cases more with
          | nil => exact hreturn ⟨hc, rfl⟩
          | cons next others =>
              obtain ⟨rfl, -⟩ := List.cons.inj hmore
              exact hsingle others hc rfl
        rw [List.cons_append, linesFrom.eq_3 _ _ _ happended, linesFrom.eq_3 _ _ _ hsingle,
          if_pos hbreak, if_pos hbreak, List.filterMap_cons, List.filterMap_cons, ih]
        cases keep current.reverse <;> rfl
  | case5 current c more hsingle hplain ih =>
      have hreturn : c ≠ '\r' := by
        rintro rfl
        exact hplain (by decide)
      rw [List.cons_append, linesFrom.eq_3 _ _ _ fun _ hc => absurd hc hreturn,
        linesFrom.eq_3 _ _ _ hsingle, if_neg hplain, if_neg hplain, ih]

/-- What the lines of joined texts give is what the lines of each text give. -/
theorem filterMap_splitLines_join {α : Type} {keep : List Char → Option α}
    (hempty : keep [] = none) (texts : List (List Char)) :
    (splitLines (join ['\n'] texts)).filterMap keep =
      (texts.flatMap splitLines).filterMap keep := by
  induction texts with
  | nil => rfl
  | cons first rest ih =>
      cases rest with
      | nil => simp
      | cons next more =>
          have hsplit : join ['\n'] (first :: next :: more) =
              first ++ '\n' :: join ['\n'] (next :: more) := by
            simp
          rw [hsplit, splitLines, filterMap_linesFrom hempty, ih, ← List.filterMap_append]
          rfl

theorem filterMap_splitLines {α : Type} {keep : List Char → Option α} (hempty : keep [] = none)
    {line : List Char} (hline : ∀ c ∈ line, isLineBreak c = false) :
    (splitLines line).filterMap keep = (keep line).toList := by
  have hlines := linesFrom_append hline [] []
  rw [List.append_nil, List.append_nil] at hlines
  rw [splitLines, hlines]
  cases line with
  | nil => simp [linesFrom, hempty]
  | cons c rest =>
      cases hkeep : keep (c :: rest) <;> simp [linesFrom, hkeep]

theorem occurrences_join {pattern : List Char} (hpattern : '\n' ∉ pattern) (hne : pattern ≠ [])
    (lines : List (List Char)) :
    occurrences pattern (join ['\n'] lines) =
      (lines.map fun line => occurrences pattern line).sum := by
  induction lines with
  | nil => simp [occurrences, countFrom]
  | cons line rest ih =>
      cases rest with
      | nil => simp
      | cons next more =>
          have hsplit : join ['\n'] (line :: next :: more) =
              line ++ '\n' :: join ['\n'] (next :: more) := by
            simp
          rw [occurrences] at ih
          rw [hsplit, occurrences, countFrom_append_cons hpattern hne 0 _ _ (Nat.zero_le _), ih]
          simp [occurrences]

end Lines

end Text
