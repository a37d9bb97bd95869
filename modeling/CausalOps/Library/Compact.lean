import CausalOps.Library.Json

set_option autoImplicit false

/-! The compact JSON text of a flat object, and that it can be read only one way. -/

namespace Compact

section Codes

variable {α : Type}

/-- Texts of one code that go on differently are told apart, and so is what follows them. -/
def Splits (code : α → List Char) (ends : List Char → Prop) : Prop :=
  ∀ a b rest other, ends rest → ends other → code a ++ rest = code b ++ other →
    a = b ∧ rest = other

theorem splits_of_read {code : α → List Char} (read : List Char → Option (α × List Char))
    {ends : List Char → Prop} (h : ∀ a rest, ends rest → read (code a ++ rest) = some (a, rest)) :
    Splits code ends := by
  intro a b rest other hrest hother heq
  have hread := h a rest hrest
  rw [heq, h b other hother] at hread
  obtain ⟨rfl, rfl⟩ := Prod.mk.inj (Option.some.inj hread)
  exact ⟨rfl, rfl⟩

/-- A code that splits, repeated up to a mark that none of its texts starts with. -/
theorem flatMap_splits {code : α → List Char} {mark : Char} (hcode : Splits code fun _ => True)
    (hhead : ∀ a, ∃ head tail, code a = head :: tail ∧ head ≠ mark) :
    Splits (fun values : List α => values.flatMap code ++ [mark]) fun _ => True := by
  intro values
  induction values with
  | nil =>
      intro values rest other _ _ heq
      cases values with
      | nil => simpa using heq
      | cons b values =>
          obtain ⟨head, tail, hb, hne⟩ := hhead b
          simp only [List.flatMap_nil, List.flatMap_cons, hb, List.nil_append, List.cons_append,
            List.append_assoc] at heq
          exact absurd (List.cons.inj heq).1.symm hne
  | cons a values ih =>
      intro others rest other _ _ heq
      cases others with
      | nil =>
          obtain ⟨head, tail, ha, hne⟩ := hhead a
          simp only [List.flatMap_nil, List.flatMap_cons, ha, List.nil_append, List.cons_append,
            List.append_assoc] at heq
          exact absurd (List.cons.inj heq).1 hne
      | cons b others =>
          simp only [List.flatMap_cons, List.append_assoc] at heq
          obtain ⟨rfl, htail⟩ := hcode a b _ _ trivial trivial heq
          obtain ⟨rfl, hrest⟩ := ih others rest other trivial trivial (by simpa using htail)
          exact ⟨rfl, hrest⟩

end Codes

section Strings

def hexDigit (n : ℕ) : Char := if n < 10 then Char.ofNat (48 + n) else Char.ofNat (87 + n)

def hexValue (c : Char) : ℕ := if c.toNat < 58 then c.toNat - 48 else c.toNat - 87

def escaped (c : Char) : List Char :=
  if c = '"' then ['\\', '"']
  else if c = '\\' then ['\\', '\\']
  else if c = '\n' then ['\\', 'n']
  else if c = '\r' then ['\\', 'r']
  else if c = '\t' then ['\\', 't']
  else if c.toNat = 8 then ['\\', 'b']
  else if c.toNat = 12 then ['\\', 'f']
  else if c.toNat < 32 then
    ['\\', 'u', '0', '0', hexDigit (c.toNat / 16), hexDigit (c.toNat % 16)]
  else [c]

/-- The first character of the inside of a JSON string. -/
def readEscaped : List Char → Option (Char × List Char)
  | '\\' :: '"' :: rest => some ('"', rest)
  | '\\' :: '\\' :: rest => some ('\\', rest)
  | '\\' :: 'n' :: rest => some ('\n', rest)
  | '\\' :: 'r' :: rest => some ('\r', rest)
  | '\\' :: 't' :: rest => some ('\t', rest)
  | '\\' :: 'b' :: rest => some (Char.ofNat 8, rest)
  | '\\' :: 'f' :: rest => some (Char.ofNat 12, rest)
  | '\\' :: 'u' :: '0' :: '0' :: high :: low :: rest =>
      some (Char.ofNat (16 * hexValue high + hexValue low), rest)
  | c :: rest => if c = '\\' then none else some (c, rest)
  | [] => none

theorem hexValue_hexDigit {n : ℕ} (h : n < 16) : hexValue (hexDigit n) = n := by
  have hall : ∀ n : Fin 16, hexValue (hexDigit n) = n := by decide
  exact hall ⟨n, h⟩

theorem readEscaped_escaped (c : Char) (rest : List Char) :
    readEscaped (escaped c ++ rest) = some (c, rest) := by
  have hofNat : ∀ n, c.toNat = n → Char.ofNat n = c := by
    intro n hn
    rw [← hn, Char.ofNat_toNat]
  unfold escaped
  split
  · subst c; rfl
  split
  · subst c; rfl
  split
  · subst c; rfl
  split
  · subst c; rfl
  split
  · subst c; rfl
  split
  · rename_i h
    rw [← hofNat 8 h]
    rfl
  split
  · rename_i h
    rw [← hofNat 12 h]
    rfl
  split
  · rename_i h
    have hvalue : 16 * hexValue (hexDigit (c.toNat / 16)) + hexValue (hexDigit (c.toNat % 16)) =
        c.toNat := by
      rw [hexValue_hexDigit (by omega), hexValue_hexDigit (by omega)]
      omega
    simp [readEscaped, hvalue]
  · rename_i hslash _ _ _ _ _ _
    simp [readEscaped, hslash]

theorem escaped_head (c : Char) : ∃ head tail, escaped c = head :: tail ∧ head ≠ '"' := by
  unfold escaped
  split
  · exact ⟨_, _, rfl, by decide⟩
  rename_i hquote
  iterate 7
    split
    · exact ⟨_, _, rfl, by decide⟩
  exact ⟨_, _, rfl, hquote⟩

def quoted (s : String) : List Char := '"' :: (s.toList.flatMap escaped ++ ['"'])

theorem quoted_splits : Splits quoted fun _ => True := by
  intro s t rest other _ _ heq
  have hescaped : Splits escaped fun _ => True :=
    splits_of_read readEscaped fun c rest _ => readEscaped_escaped c rest
  have hinside := (List.cons.inj heq).2
  obtain ⟨hsame, hrest⟩ :=
    flatMap_splits hescaped escaped_head s.toList t.toList rest other trivial trivial hinside
  exact ⟨String.toList_inj.1 hsame, hrest⟩

end Strings

section Integers

/-- What may follow a number: nothing that could be one more digit. -/
def NoDigit (rest : List Char) : Prop := ∀ c ∈ rest.head?, c.isDigit = false

theorem digits_splits : Splits (fun n : ℕ => Nat.toDigits 10 n) NoDigit := by
  intro n k rest other hrest hother heq
  have htake : ∀ (n : ℕ) (rest : List Char), NoDigit rest →
      (Nat.toDigits 10 n ++ rest).takeWhile Char.isDigit = Nat.toDigits 10 n := by
    intro n rest hrest
    rw [List.takeWhile_append_of_pos fun c hc =>
      Nat.isDigit_of_mem_toDigits (by decide) (by decide) hc]
    cases rest with
    | nil => simp
    | cons c rest => simp [hrest c rfl]
  have hsame : Nat.toDigits 10 n = Nat.toDigits 10 k := by
    rw [← htake n rest hrest, heq, htake k other hother]
  refine ⟨?_, ?_⟩
  · rw [← @Nat.ofDigitChars_ten_toDigits n, hsame, Nat.ofDigitChars_ten_toDigits]
  · have hboth : Nat.toDigits 10 n ++ rest = Nat.toDigits 10 k ++ other := heq
    rw [hsame] at hboth
    exact List.append_cancel_left hboth

def integer : ℤ → List Char
  | .ofNat n => Nat.toDigits 10 n
  | .negSucc n => '-' :: Nat.toDigits 10 (n + 1)

theorem toDigits_head (n : ℕ) : ∃ head tail, Nat.toDigits 10 n = head :: tail ∧
    head.isDigit = true := by
  cases h : Nat.toDigits 10 n with
  | nil => exact absurd h Nat.toDigits_ne_nil
  | cons head tail =>
      have hmem : head ∈ Nat.toDigits 10 n := by
        rw [h]
        exact List.mem_cons_self
      exact ⟨head, tail, rfl, Nat.isDigit_of_mem_toDigits (by decide) (by decide) hmem⟩

theorem integer_splits : Splits integer NoDigit := by
  have hsign : ∀ (n k : ℕ) (rest other : List Char),
      Nat.toDigits 10 n ++ rest ≠ '-' :: (Nat.toDigits 10 k ++ other) := by
    intro n k rest other heq
    obtain ⟨head, tail, hdigits, hdigit⟩ := toDigits_head n
    rw [hdigits] at heq
    rw [(List.cons.inj heq).1] at hdigit
    exact absurd hdigit (by decide)
  intro a b rest other hrest hother heq
  cases a with
  | ofNat n =>
      cases b with
      | ofNat k =>
          obtain ⟨rfl, hsame⟩ := digits_splits n k rest other hrest hother heq
          exact ⟨rfl, hsame⟩
      | negSucc k => exact absurd heq (hsign _ _ _ _)
  | negSucc n =>
      cases b with
      | ofNat k => exact absurd heq.symm (hsign _ _ _ _)
      | negSucc k =>
          obtain ⟨hnext, hsame⟩ :=
            digits_splits (n + 1) (k + 1) rest other hrest hother (List.cons.inj heq).2
          exact ⟨by rw [Nat.succ.inj hnext], hsame⟩

end Integers

section Objects

def Scalar : Json → Prop
  | .null | .int _ | .str _ => True
  | _ => False

/-- The text of a scalar. A flat object holds nothing else. -/
def scalar : Json → List Char
  | .null => ['n', 'u', 'l', 'l']
  | .int n => integer n
  | .str s => quoted s
  | _ => []

/-- Each member of an object, with what comes before it. -/
def members : Json.Dict → List Char
  | [] => ['}']
  | (key, value) :: rest => ',' :: (quoted key ++ ':' :: (scalar value ++ members rest))

/-- The compact text of a flat object, after its opening brace. -/
def object (entries : Json.Dict) : List Char := '{' :: (members entries).tail

def Flat (entries : Json.Dict) : Prop := ∀ entry ∈ entries, Scalar entry.2

theorem members_noDigit (entries : Json.Dict) : NoDigit (members entries) := by
  cases entries with
  | nil =>
      intro c hc
      obtain rfl : '}' = c := by simpa [members] using hc
      decide
  | cons entry rest =>
      intro c hc
      obtain rfl : ',' = c := by simpa [members] using hc
      decide

theorem integer_head (n : ℤ) : ∃ head tail, integer n = head :: tail ∧
    head ≠ '"' ∧ head ≠ 'n' := by
  cases n with
  | ofNat n =>
      obtain ⟨head, tail, hdigits, hdigit⟩ := toDigits_head n
      refine ⟨head, tail, hdigits, ?_, ?_⟩
      · rintro rfl
        exact absurd hdigit (by decide)
      · rintro rfl
        exact absurd hdigit (by decide)
  | negSucc n => exact ⟨'-', _, rfl, by decide, by decide⟩

theorem scalar_splits {a b : Json} {rest other : List Char} (ha : Scalar a) (hb : Scalar b)
    (hrest : NoDigit rest) (hother : NoDigit other) (heq : scalar a ++ rest = scalar b ++ other) :
    a = b ∧ rest = other := by
  have hint : ∀ (n : ℤ) (s : String) (rest other : List Char),
      integer n ++ rest ≠ quoted s ++ other ∧ integer n ++ rest ≠ scalar .null ++ other := by
    intro n s rest other
    obtain ⟨head, tail, hinteger, hquote, hnull⟩ := integer_head n
    rw [hinteger]
    exact ⟨fun h => hquote (List.cons.inj h).1, fun h => hnull (List.cons.inj h).1⟩
  cases a with
  | null =>
      cases b with
      | null => exact ⟨rfl, List.append_cancel_left heq⟩
      | int n => exact absurd heq.symm (hint n "" _ _).2
      | str s => exact absurd (List.cons.inj heq).1 (by decide)
      | _ => exact hb.elim
  | int n =>
      cases b with
      | null => exact absurd heq (hint n "" _ _).2
      | int k =>
          obtain ⟨rfl, hsame⟩ := integer_splits n k rest other hrest hother heq
          exact ⟨rfl, hsame⟩
      | str s => exact absurd heq (hint n s _ _).1
      | _ => exact hb.elim
  | str s =>
      cases b with
      | null => exact absurd (List.cons.inj heq).1 (by decide)
      | int n => exact absurd heq.symm (hint n s _ _).1
      | str t =>
          obtain ⟨rfl, hsame⟩ := quoted_splits s t rest other trivial trivial heq
          exact ⟨rfl, hsame⟩
      | _ => exact hb.elim
  | _ => exact ha.elim

theorem members_injective {entries others : Json.Dict} (hentries : Flat entries)
    (hothers : Flat others) (heq : members entries = members others) : entries = others := by
  induction entries generalizing others with
  | nil =>
      cases others with
      | nil => rfl
      | cons other others => exact absurd (List.cons.inj heq).1 (by decide)
  | cons entry entries ih =>
      cases others with
      | nil => exact absurd (List.cons.inj heq).1 (by decide)
      | cons other others =>
          obtain ⟨key, value⟩ := entry
          obtain ⟨key', value'⟩ := other
          simp only [members] at heq
          obtain ⟨rfl, hvalues⟩ :=
            quoted_splits key key' _ _ trivial trivial (List.cons.inj heq).2
          obtain ⟨rfl, hrest⟩ := scalar_splits (hentries _ List.mem_cons_self)
            (hothers _ List.mem_cons_self) (members_noDigit _) (members_noDigit _)
            (List.cons.inj hvalues).2
          rw [ih (fun e he => hentries e (List.mem_cons_of_mem _ he))
            (fun e he => hothers e (List.mem_cons_of_mem _ he)) hrest]

/-- Two flat objects with members have the same text only if they are the same. -/
theorem object_injective {entries others : Json.Dict} (hentries : Flat entries)
    (hothers : Flat others) (hne : entries ≠ []) (hne' : others ≠ [])
    (heq : object entries = object others) : entries = others := by
  refine members_injective hentries hothers ?_
  have htail := (List.cons.inj heq).2
  cases entries with
  | nil => exact absurd rfl hne
  | cons entry entries =>
      cases others with
      | nil => exact absurd rfl hne'
      | cons other others => exact congrArg (List.cons ',') htail

end Objects

end Compact
