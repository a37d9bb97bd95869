import Mathlib.Data.List.Sort
import Mathlib.Data.Rat.Defs
import Mathlib.Data.String.Basic

set_option autoImplicit false

/-! JSON values as Python's `json` reads them: objects keep the order of their
keys, and integers are told apart from floats. -/

/-- A JSON value. Exact numbers stand for the finite floats. -/
inductive Json where
  | null
  | bool (value : Bool)
  | int (value : ℤ)
  | float (value : ℚ)
  | str (value : String)
  | arr (items : List Json)
  | obj (entries : List (String × Json))
  deriving Repr

namespace Json

/-- A `dict` with string keys. -/
abbrev Dict := List (String × Json)

def get (entries : Dict) (key : String) : Option Json :=
  (entries.find? fun entry => entry.1 = key).map Prod.snd

/-- `entries[key] = value`, in place when the key is already there. -/
def set : Dict → String → Json → Dict
  | [], key, value => [(key, value)]
  | entry :: rest, key, value =>
      if entry.1 = key then (key, value) :: rest else entry :: set rest key value

def string? : Json → Option String
  | .str text => some text
  | _ => none

@[simp] theorem get_nil (key : String) : get [] key = none := rfl

theorem get_cons (entry : String × Json) (rest : Dict) (key : String) :
    get (entry :: rest) key = if entry.1 = key then some entry.2 else get rest key := by
  by_cases h : entry.1 = key <;> simp [get, h]

theorem get_append (before after : Dict) (key : String) :
    get (before ++ after) key = (get before key).or (get after key) := by
  induction before with
  | nil => simp
  | cons entry rest ih =>
      rw [List.cons_append, get_cons, get_cons, ih]
      by_cases h : entry.1 = key <;> simp [h]

theorem get_set (entries : Dict) (key other : String) (value : Json) :
    get (set entries key value) other = if key = other then some value else get entries other := by
  induction entries with
  | nil => rw [set, get_cons]
  | cons entry rest ih =>
      rw [set]
      by_cases hentry : entry.1 = key
      · rw [if_pos hentry, get_cons, get_cons, hentry]
        by_cases hother : key = other <;> simp [hother]
      · rw [if_neg hentry, get_cons, get_cons, ih]
        by_cases hfirst : entry.1 = other
        · have hne : ¬ key = other := fun heq => hentry (hfirst.trans heq.symm)
          simp [hfirst, hne]
        · simp [hfirst]

theorem mem_set_of_mem {entries : Dict} (key : String) (value : Json) {entry : String × Json}
    (h : entry ∈ entries) : ∃ other ∈ set entries key value, other.1 = entry.1 := by
  induction entries with
  | nil => simp at h
  | cons first rest ih =>
      rw [set]
      rcases List.mem_cons.1 h with rfl | h
      · split
        · rename_i hfirst
          exact ⟨(key, value), by simp, hfirst.symm⟩
        · exact ⟨entry, by simp, rfl⟩
      · split
        · exact ⟨entry, List.mem_cons_of_mem _ h, rfl⟩
        · obtain ⟨other, hother, hsame⟩ := ih h
          exact ⟨other, List.mem_cons_of_mem first hother, hsame⟩

section SortKeys

def KeyLe (a b : String × Json) : Prop := a.1 ≤ b.1

instance : DecidableRel KeyLe := fun a b => inferInstanceAs (Decidable (a.1 ≤ b.1))

instance : Std.Total KeyLe := ⟨fun a b => le_total a.1 b.1⟩

instance : IsTrans (String × Json) KeyLe := ⟨fun _ _ _ => le_trans⟩

/-- `sort_keys`: every object has its keys in order, at every depth. -/
def sortKeys : Json → Json
  | .arr items => .arr (sortItems items)
  | .obj entries => .obj (sortEntries entries)
  | value => value
where
  sortItems : List Json → List Json
    | [] => []
    | item :: rest => sortKeys item :: sortItems rest
  sortEntries : List (String × Json) → List (String × Json)
    | [] => []
    | (key, value) :: rest => List.orderedInsert KeyLe (key, sortKeys value) (sortEntries rest)

/-- Entries with their keys in order, at every depth. -/
structure Sorted (entries : Dict) : Prop where
  keys : entries.Pairwise KeyLe
  values : ∀ entry ∈ entries, sortKeys entry.2 = entry.2

theorem sortEntries_of_sorted : ∀ {entries : Dict}, Sorted entries →
    sortKeys.sortEntries entries = entries
  | [], _ => rfl
  | (key, value) :: rest, h => by
      obtain ⟨hfirst, hkeys⟩ := List.pairwise_cons.1 h.keys
      have hvalue : sortKeys value = value := h.values _ List.mem_cons_self
      have hrest : Sorted rest :=
        ⟨hkeys, fun entry hentry => h.values entry (List.mem_cons_of_mem _ hentry)⟩
      rw [sortKeys.sortEntries, hvalue, sortEntries_of_sorted hrest]
      cases rest with
      | nil => rfl
      | cons next rest =>
          exact List.orderedInsert_cons_of_le KeyLe rest (hfirst next List.mem_cons_self)

mutual

theorem sortKeys_idem : ∀ value : Json, sortKeys (sortKeys value) = sortKeys value
  | .arr items => congrArg Json.arr (sortItems_idem items)
  | .obj entries => congrArg Json.obj (sortEntries_of_sorted (sortEntries_sorted entries))
  | .null | .bool _ | .int _ | .float _ | .str _ => rfl

theorem sortItems_idem : ∀ items : List Json,
    sortKeys.sortItems (sortKeys.sortItems items) = sortKeys.sortItems items
  | [] => rfl
  | item :: rest => by
      rw [sortKeys.sortItems, sortKeys.sortItems, sortKeys_idem item, sortItems_idem rest]

theorem sortEntries_sorted : ∀ entries : List (String × Json),
    Sorted (sortKeys.sortEntries entries)
  | [] => ⟨List.Pairwise.nil, fun _ h => by cases h⟩
  | (key, value) :: rest => by
      have hrest := sortEntries_sorted rest
      refine ⟨hrest.keys.orderedInsert (key, sortKeys value) _, fun entry hentry => ?_⟩
      rcases (List.mem_orderedInsert KeyLe).1 hentry with rfl | hmem
      · exact sortKeys_idem value
      · exact hrest.values entry hmem

end

end SortKeys

end Json
