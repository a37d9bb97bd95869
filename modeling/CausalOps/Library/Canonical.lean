import CausalOps.Library.Compact

set_option autoImplicit false

/-! The compact ASCII text of a whole JSON value, and that it tells values apart, their types
included. -/

namespace Canonical

open Compact

section Floats

def NumberChar (c : Char) : Prop := c.isDigit = true ∨ c ∈ ['-', '+', '.', 'e']

/-- The texts of the finite floats: a number's characters, never those of an integer. -/
structure FloatText where
  text : ℚ → List Char
  given : ∀ q, text q ≠ []
  number : ∀ q, ∀ char ∈ text q, NumberChar char
  injective : Function.Injective text
  noInteger : ∀ q n, text q ≠ integer n

def NoNumber (rest : List Char) : Prop := ∀ c ∈ rest.head?, ¬ NumberChar c

instance : DecidablePred NumberChar := fun c =>
  inferInstanceAs (Decidable (c.isDigit = true ∨ c ∈ ['-', '+', '.', 'e']))

theorem integer_number (n : ℤ) : ∀ c ∈ integer n, NumberChar c := by
  have hdigits : ∀ k : ℕ, ∀ c ∈ Nat.toDigits 10 k, NumberChar c := fun k c hc =>
    Or.inl (Nat.isDigit_of_mem_toDigits (by decide) (by decide) hc)
  cases n with
  | ofNat k => exact hdigits k
  | negSucc k =>
      intro c hc
      rcases List.mem_cons.1 hc with rfl | hc
      · exact Or.inr (by decide)
      · exact hdigits _ c hc

/-- Two texts of numbers are the same when what follows them is no part of a number. -/
theorem number_splits {digits digits' rest other : List Char}
    (hdigits : ∀ c ∈ digits, NumberChar c) (hdigits' : ∀ c ∈ digits', NumberChar c)
    (hrest : NoNumber rest) (hother : NoNumber other) (heq : digits ++ rest = digits' ++ other) :
    digits = digits' ∧ rest = other := by
  have htake : ∀ {digits rest : List Char}, (∀ c ∈ digits, NumberChar c) → NoNumber rest →
      (digits ++ rest).takeWhile (fun c => decide (NumberChar c)) = digits := by
    intro digits rest hdigits hrest
    rw [List.takeWhile_append_of_pos fun c hc => decide_eq_true (hdigits c hc)]
    cases rest with
    | nil => simp
    | cons c rest => simp [hrest c rfl]
  have hsame : digits = digits' := by
    rw [← htake hdigits hrest, heq, htake hdigits' hother]
  subst hsame
  exact ⟨rfl, List.append_cancel_left heq⟩

/-- Texts of floats as there could be: a fraction in lowest terms. -/
def fraction : FloatText where
  text := fun q => integer q.num ++ '.' :: integer q.den
  given := fun q => by simp
  number := by
    intro q char hchar
    rcases List.mem_append.1 hchar with hnum | hrest
    · exact integer_number _ _ hnum
    · rcases List.mem_cons.1 hrest with rfl | hden
      · exact Or.inr (by decide)
      · exact integer_number _ _ hden
  injective := by
    intro q r heq
    have hpoint : ∀ rest, NoDigit ('.' :: rest) := by
      intro rest c hc
      obtain rfl : '.' = c := by simpa using hc
      decide
    obtain ⟨hnum, hrest⟩ := integer_splits _ _ _ _ (hpoint _) (hpoint _) heq
    have hend : NoDigit [] := fun c hc => by cases hc
    have hden := (integer_splits q.den r.den [] [] hend hend
      (congrArg (· ++ []) (List.cons.inj hrest).2)).1
    exact Rat.ext hnum (by exact_mod_cast hden)
  noInteger := by
    intro q n heq
    have hmem : '.' ∈ integer n := by
      rw [← heq]
      exact List.mem_append_right _ List.mem_cons_self
    have hdigits : ∀ k : ℕ, '.' ∉ Nat.toDigits 10 k := fun k hk =>
      absurd (Nat.isDigit_of_mem_toDigits (by decide) (by decide) hk) (by decide)
    cases n with
    | ofNat k => exact hdigits k hmem
    | negSucc k =>
        rcases List.mem_cons.1 hmem with hsign | hk
        · exact absurd hsign (by decide)
        · exact hdigits _ hk

end Floats

section Strings

/-- `\uXXXX`. -/
def unit (u : ℕ) : List Char :=
  ['\\', 'u', hexDigit (u / 4096), hexDigit (u / 256 % 16), hexDigit (u / 16 % 16),
    hexDigit (u % 16)]

/-- A character inside a JSON string when only ASCII is written. -/
def escapedAscii (c : Char) : List Char :=
  if c = '"' then ['\\', '"']
  else if c = '\\' then ['\\', '\\']
  else if c = '\n' then ['\\', 'n']
  else if c = '\r' then ['\\', 'r']
  else if c = '\t' then ['\\', 't']
  else if c.toNat = 8 then ['\\', 'b']
  else if c.toNat = 12 then ['\\', 'f']
  else if 32 ≤ c.toNat ∧ c.toNat ≤ 126 then [c]
  else if c.toNat < 0x10000 then unit c.toNat
  -- A pair of surrogates.
  else unit (0xD800 + (c.toNat - 0x10000) / 1024) ++ unit (0xDC00 + (c.toNat - 0x10000) % 1024)

def readUnit (a b c d : Char) : ℕ :=
  4096 * hexValue a + 256 * hexValue b + 16 * hexValue c + hexValue d

def isHigh (u : ℕ) : Bool := 0xD800 ≤ u && u < 0xDC00

def readAscii : List Char → Option (Char × List Char)
  | '\\' :: '"' :: rest => some ('"', rest)
  | '\\' :: '\\' :: rest => some ('\\', rest)
  | '\\' :: 'n' :: rest => some ('\n', rest)
  | '\\' :: 'r' :: rest => some ('\r', rest)
  | '\\' :: 't' :: rest => some ('\t', rest)
  | '\\' :: 'b' :: rest => some (Char.ofNat 8, rest)
  | '\\' :: 'f' :: rest => some (Char.ofNat 12, rest)
  | '\\' :: 'u' :: a :: b :: c :: d :: rest =>
      let high := readUnit a b c d
      if isHigh high then
        match rest with
        | '\\' :: 'u' :: a :: b :: c :: d :: rest =>
            some (Char.ofNat (0x10000 + (high - 0xD800) * 1024 + (readUnit a b c d - 0xDC00)), rest)
        | _ => none
      else some (Char.ofNat high, rest)
  | c :: rest => if c = '\\' then none else some (c, rest)
  | [] => none

theorem readUnit_unit {u : ℕ} (h : u < 0x10000) :
    readUnit (hexDigit (u / 4096)) (hexDigit (u / 256 % 16)) (hexDigit (u / 16 % 16))
      (hexDigit (u % 16)) = u := by
  rw [readUnit, hexValue_hexDigit (by omega), hexValue_hexDigit (by omega),
    hexValue_hexDigit (by omega), hexValue_hexDigit (by omega)]
  omega

theorem isHigh_toNat (c : Char) : isHigh c.toNat = false := by
  have hvalid : c.toNat < 0xD800 ∨ 0xDFFF < c.toNat ∧ c.toNat < 0x110000 := c.valid
  simp only [isHigh, Bool.and_eq_false_iff, decide_eq_false_iff_not]
  omega

theorem readAscii_escapedAscii (c : Char) (rest : List Char) :
    readAscii (escapedAscii c ++ rest) = some (c, rest) := by
  have hofNat : ∀ n, c.toNat = n → Char.ofNat n = c := by
    intro n hn
    rw [← hn, Char.ofNat_toNat]
  unfold escapedAscii
  split
  · subst c; rfl
  split
  · subst c; rfl
  split
  · subst c; rfl
  split
  · subst c; rfl
  split
  · subst c; rfl
  split
  · rename_i h
    rw [← hofNat 8 h]
    rfl
  split
  · rename_i h
    rw [← hofNat 12 h]
    rfl
  split
  · rename_i hslash _ _ _ _ _ _
    simp [readAscii, hslash]
  split
  · rename_i hsmall
    simp only [unit, List.cons_append, List.nil_append, readAscii, readUnit_unit hsmall,
      isHigh_toNat, Bool.false_eq_true, if_false, Char.ofNat_toNat]
  · rename_i hlarge
    have hvalid : c.toNat < 0xD800 ∨ 0xDFFF < c.toNat ∧ c.toNat < 0x110000 := c.valid
    have hhigh : isHigh (0xD800 + (c.toNat - 0x10000) / 1024) = true := by
      simp only [isHigh, Bool.and_eq_true, decide_eq_true_eq]
      omega
    simp only [unit, List.cons_append, List.nil_append, readAscii]
    rw [readUnit_unit (by omega), readUnit_unit (by omega), if_pos hhigh]
    rw [hofNat _ (by omega)]

theorem escapedAscii_head (c : Char) : ∃ head tail, escapedAscii c = head :: tail ∧ head ≠ '"' := by
  unfold escapedAscii
  split
  · exact ⟨_, _, rfl, by decide⟩
  rename_i hquote
  iterate 6
    split
    · exact ⟨_, _, rfl, by decide⟩
  split
  · exact ⟨_, _, rfl, hquote⟩
  split
  · exact ⟨_, _, rfl, by decide⟩
  · exact ⟨_, _, rfl, by decide⟩

def quotedAscii (s : String) : List Char := '"' :: (s.toList.flatMap escapedAscii ++ ['"'])

theorem quotedAscii_splits : Splits quotedAscii fun _ => True := by
  intro s t rest other _ _ heq
  have hescaped : Splits escapedAscii fun _ => True :=
    splits_of_read readAscii fun c rest _ => readAscii_escapedAscii c rest
  obtain ⟨hsame, hrest⟩ := flatMap_splits hescaped escapedAscii_head s.toList t.toList rest other
    trivial trivial (List.cons.inj heq).2
  exact ⟨String.toList_inj.1 hsame, hrest⟩

end Strings

section Values

variable (floats : FloatText)

/-- `json.dumps(value, separators=(",", ":"), allow_nan=False)`. -/
def text : Json → List Char
  | .null => ['n', 'u', 'l', 'l']
  | .bool true => ['t', 'r', 'u', 'e']
  | .bool false => ['f', 'a', 'l', 's', 'e']
  | .int n => integer n
  | .float q => floats.text q
  | .str s => quotedAscii s
  | .arr [] => ['[', ']']
  | .arr (item :: rest) => '[' :: (text item ++ items rest)
  | .obj [] => ['{', '}']
  | .obj ((key, value) :: rest) => '{' :: (quotedAscii key ++ ':' :: (text value ++ members rest))
where
  items : List Json → List Char
    | [] => [']']
    | item :: rest => ',' :: (text item ++ items rest)
  members : List (String × Json) → List Char
    | [] => ['}']
    | (key, value) :: rest =>
        ',' :: (quotedAscii key ++ ':' :: (text value ++ members rest))

inductive Kind where
  | null
  | yes
  | no
  | number
  | str
  | arr
  | obj
  | other
  deriving DecidableEq

def kind : Json → Kind
  | .null => .null
  | .bool true => .yes
  | .bool false => .no
  | .int _ | .float _ => .number
  | .str _ => .str
  | .arr _ => .arr
  | .obj _ => .obj

def kindOfHead (c : Char) : Kind :=
  if NumberChar c then .number
  else if c = 'n' then .null
  else if c = 't' then .yes
  else if c = 'f' then .no
  else if c = '"' then .str
  else if c = '[' then .arr
  else if c = '{' then .obj
  else .other

theorem text_head (value : Json) : ∃ head tail, text floats value = head :: tail ∧
    kindOfHead head = kind value := by
  have hnumber : ∀ digits : List Char, digits ≠ [] → (∀ c ∈ digits, NumberChar c) →
      ∃ head tail, digits = head :: tail ∧ kindOfHead head = .number := by
    intro digits hne hdigits
    cases digits with
    | nil => exact absurd rfl hne
    | cons head tail => exact ⟨head, tail, rfl, if_pos (hdigits head List.mem_cons_self)⟩
  match value with
  | .null => exact ⟨_, _, rfl, by decide⟩
  | .bool true => exact ⟨_, _, rfl, by decide⟩
  | .bool false => exact ⟨_, _, rfl, by decide⟩
  | .int n =>
      obtain ⟨head, tail, hhead, _⟩ := integer_head n
      exact hnumber _ (by simp [text, hhead]) (integer_number n)
  | .float q => exact hnumber _ (floats.given q) (floats.number q)
  | .str _ => exact ⟨_, _, rfl, (by decide : kindOfHead '"' = .str)⟩
  | .arr [] | .arr (_ :: _) => exact ⟨_, _, rfl, (by decide : kindOfHead '[' = .arr)⟩
  | .obj [] | .obj (_ :: _) => exact ⟨_, _, rfl, (by decide : kindOfHead '{' = .obj)⟩

variable {floats}

theorem kind_eq {a b : Json} {rest other : List Char}
    (heq : text floats a ++ rest = text floats b ++ other) : kind a = kind b := by
  obtain ⟨head, tail, ha, hkind⟩ := text_head floats a
  obtain ⟨head', tail', hb, hkind'⟩ := text_head floats b
  rw [ha, hb] at heq
  rw [← hkind, ← hkind', (List.cons.inj heq).1]

theorem text_ne_mark {value : Json} {rest other : List Char} {mark : Char}
    (hmark : kindOfHead mark = .other) : text floats value ++ rest ≠ mark :: other := by
  intro heq
  obtain ⟨head, tail, hvalue, hkind⟩ := text_head floats value
  rw [hvalue] at heq
  rw [(List.cons.inj heq).1, hmark] at hkind
  match value with
  | .null | .bool true | .bool false | .int _ | .float _ | .str _ | .arr _ | .obj _ => cases hkind

theorem items_noNumber (values : List Json) (rest : List Char) :
    NoNumber (text.items floats values ++ rest) := by
  cases values with
  | nil =>
      intro c hc
      obtain rfl : ']' = c := by simpa [text.items] using hc
      decide
  | cons value values =>
      intro c hc
      obtain rfl : ',' = c := by simpa [text.items] using hc
      decide

theorem members_noNumber (entries : Json.Dict) (rest : List Char) :
    NoNumber (text.members floats entries ++ rest) := by
  cases entries with
  | nil =>
      intro c hc
      obtain rfl : '}' = c := by simpa [text.members] using hc
      decide
  | cons entry entries =>
      intro c hc
      obtain rfl : ',' = c := by simpa [text.members] using hc
      decide

theorem number_text_splits {a b : Json} {rest other : List Char} (ha : kind a = .number)
    (hb : kind b = .number) (hrest : NoNumber rest) (hother : NoNumber other)
    (heq : text floats a ++ rest = text floats b ++ other) : a = b ∧ rest = other := by
  have hnumber : ∀ value, kind value = .number → ∀ c ∈ text floats value, NumberChar c := by
    intro value hvalue
    match value with
    | .int n => exact integer_number n
    | .float q => exact floats.number q
    | .bool true | .bool false => cases hvalue
  obtain ⟨htext, hsame⟩ := number_splits (hnumber a ha) (hnumber b hb) hrest hother heq
  refine ⟨?_, hsame⟩
  match a, b with
  | .int n, .int k =>
      have hnil : integer n ++ [] = integer k ++ [] := congrArg (· ++ []) htext
      have hend : NoDigit [] := fun c hc => by cases hc
      rw [(integer_splits n k [] [] hend hend hnil).1]
  | .float q, .float r => rw [floats.injective htext]
  | .int n, .float q => exact absurd htext.symm (floats.noInteger q n)
  | .float q, .int n => exact absurd htext (floats.noInteger q n)
  | .bool true, _ | .bool false, _ => cases ha
  | _, .bool true | _, .bool false => cases hb

mutual

theorem text_splits : ∀ (a b : Json) (rest other : List Char), NoNumber rest → NoNumber other →
    text floats a ++ rest = text floats b ++ other → a = b ∧ rest = other
  | .null, b, rest, other, _, _, heq => by
      have hkind := kind_eq heq
      match b with
      | .null => exact ⟨rfl, List.append_cancel_left heq⟩
      | .bool true | .bool false => cases hkind
  | .bool true, b, rest, other, _, _, heq => by
      have hkind := kind_eq heq
      match b with
      | .bool true => exact ⟨rfl, List.append_cancel_left heq⟩
      | .bool false => cases hkind
  | .bool false, b, rest, other, _, _, heq => by
      have hkind := kind_eq heq
      match b with
      | .bool false => exact ⟨rfl, List.append_cancel_left heq⟩
      | .bool true => cases hkind
  | .int n, b, rest, other, hrest, hother, heq =>
      number_text_splits rfl (kind_eq heq).symm hrest hother heq
  | .float q, b, rest, other, hrest, hother, heq =>
      number_text_splits rfl (kind_eq heq).symm hrest hother heq
  | .str s, b, rest, other, _, _, heq => by
      have hkind := kind_eq heq
      match b with
      | .str t =>
          obtain ⟨rfl, hsame⟩ := quotedAscii_splits s t rest other trivial trivial heq
          exact ⟨rfl, hsame⟩
      | .bool true | .bool false => cases hkind
  | .arr values, b, rest, other, _, _, heq => by
      have hkind := kind_eq heq
      match b with
      | .arr others =>
          match values, others with
          | [], [] => exact ⟨rfl, List.append_cancel_left heq⟩
          | [], value' :: others =>
              simp only [text, List.cons_append, List.append_assoc] at heq
              exact absurd (List.cons.inj heq).2.symm (text_ne_mark (by decide))
          | value :: values, [] =>
              simp only [text, List.cons_append, List.append_assoc] at heq
              exact absurd (List.cons.inj heq).2 (text_ne_mark (by decide))
          | value :: values, value' :: others =>
              simp only [text, List.cons_append, List.append_assoc] at heq
              obtain ⟨hvalue, hrest⟩ := text_splits value value' _ _ (items_noNumber values rest)
                (items_noNumber others other) (List.cons.inj heq).2
              obtain ⟨hvalues, hsame⟩ := items_splits values others rest other hrest
              exact ⟨by rw [hvalue, hvalues], hsame⟩
      | .bool true | .bool false => cases hkind
  | .obj entries, b, rest, other, _, _, heq => by
      have hkind := kind_eq heq
      match b with
      | .obj others =>
          match entries, others with
          | [], [] => exact ⟨rfl, List.append_cancel_left heq⟩
          | [], (key', value') :: others =>
              simp only [text, quotedAscii, List.cons_append, List.append_assoc] at heq
              exact absurd (List.cons.inj (List.cons.inj heq).2).1 (by decide)
          | (key, value) :: entries, [] =>
              simp only [text, quotedAscii, List.cons_append, List.append_assoc] at heq
              exact absurd (List.cons.inj (List.cons.inj heq).2).1 (by decide)
          | (key, value) :: entries, (key', value') :: others =>
              simp only [text, List.cons_append, List.append_assoc] at heq
              obtain ⟨hkey, hvalues⟩ :=
                quotedAscii_splits key key' _ _ trivial trivial (List.cons.inj heq).2
              obtain ⟨hvalue, hrest⟩ := text_splits value value' _ _ (members_noNumber entries rest)
                (members_noNumber others other) (List.cons.inj hvalues).2
              obtain ⟨hentries, hsame⟩ := members_splits entries others rest other hrest
              exact ⟨by rw [hkey, hvalue, hentries], hsame⟩
      | .bool true | .bool false => cases hkind

theorem items_splits : ∀ (values others : List Json) (rest other : List Char),
    text.items floats values ++ rest = text.items floats others ++ other →
      values = others ∧ rest = other
  | [], [], _, _, heq => ⟨rfl, (List.cons.inj heq).2⟩
  | [], _ :: _, _, _, heq => absurd (List.cons.inj heq).1 (by decide)
  | _ :: _, [], _, _, heq => absurd (List.cons.inj heq).1 (by decide)
  | value :: values, value' :: others, rest, other, heq => by
      simp only [text.items, List.cons_append, List.append_assoc] at heq
      obtain ⟨hvalue, hrest⟩ := text_splits value value' _ _ (items_noNumber values rest)
        (items_noNumber others other) (List.cons.inj heq).2
      obtain ⟨hvalues, hsame⟩ := items_splits values others rest other hrest
      exact ⟨by rw [hvalue, hvalues], hsame⟩

theorem members_splits : ∀ (entries others : Json.Dict) (rest other : List Char),
    text.members floats entries ++ rest = text.members floats others ++ other →
      entries = others ∧ rest = other
  | [], [], _, _, heq => ⟨rfl, (List.cons.inj heq).2⟩
  | [], _ :: _, _, _, heq => absurd (List.cons.inj heq).1 (by decide)
  | _ :: _, [], _, _, heq => absurd (List.cons.inj heq).1 (by decide)
  | (key, value) :: entries, (key', value') :: others, rest, other, heq => by
      simp only [text.members, List.cons_append, List.append_assoc] at heq
      obtain ⟨hkey, hvalues⟩ :=
        quotedAscii_splits key key' _ _ trivial trivial (List.cons.inj heq).2
      obtain ⟨hvalue, hrest⟩ := text_splits value value' _ _ (members_noNumber entries rest)
        (members_noNumber others other) (List.cons.inj hvalues).2
      obtain ⟨hentries, hsame⟩ := members_splits entries others rest other hrest
      exact ⟨by rw [hkey, hvalue, hentries], hsame⟩

end

theorem text_injective : Function.Injective (text floats) := by
  intro a b heq
  have hend : NoNumber [] := fun c hc => by cases hc
  exact (text_splits a b [] [] hend hend (by rw [heq])).1

end Values

end Canonical
