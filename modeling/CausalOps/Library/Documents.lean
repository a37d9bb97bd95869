import CausalOps.Library.Rows

set_option autoImplicit false

/-! Documents stored under paths, as a document database keeps them. -/

namespace Documents

variable {κ δ : Type} [DecidableEq κ] {docs : List (κ × δ)} {path other : κ}

def get (docs : List (κ × δ)) (path : κ) : Option δ :=
  (Rows.lookup Prod.fst path docs).map Prod.snd

/-- `reference.set(document)`: the whole document is replaced. -/
def set (docs : List (κ × δ)) (path : κ) (document : δ) : List (κ × δ) :=
  Rows.put Prod.fst (path, document) docs

def delete (docs : List (κ × δ)) (path : κ) : List (κ × δ) :=
  docs.filter fun stored => stored.1 ≠ path

abbrev Keyed (docs : List (κ × δ)) : Prop := Rows.Keyed Prod.fst docs

theorem get_set (document : δ) :
    get (set docs path document) other = if path = other then some document else get docs other := by
  rw [get, set, Rows.lookup_put]
  by_cases h : path = other <;> simp [h, get]

theorem get_delete : get (delete docs path) other = if path = other then none else get docs other := by
  induction docs with
  | nil => simp [delete, get, Rows.lookup]
  | cons stored rest ih =>
      simp only [delete, get, Rows.lookup, List.filter_cons] at ih ⊢
      by_cases hstored : stored.1 = path
      · by_cases hother : path = other
        · simp [hstored, hother]
        · simpa [hstored, hother] using ih
      · by_cases hother : stored.1 = other
        · have hpath : ¬ path = other := fun h => hstored (hother.trans h.symm)
          simp [hother, hpath, Ne.symm hpath]
        · simpa [hstored, hother] using ih

theorem Keyed.set (h : Keyed docs) (path : κ) (document : δ) :
    Keyed (Documents.set docs path document) := Rows.Keyed.put h _

theorem Keyed.delete (h : Keyed docs) (path : κ) : Keyed (Documents.delete docs path) :=
  Rows.Keyed.of_sublist h List.filter_sublist

theorem mem_iff_get (h : Keyed docs) {document : δ} :
    (path, document) ∈ docs ↔ get docs path = some document := by
  rw [get, Option.map_eq_some_iff]
  constructor
  · exact fun hmem => ⟨(path, document), Rows.Keyed.lookup_of_mem h hmem, rfl⟩
  · rintro ⟨stored, hlookup, rfl⟩
    obtain rfl := Rows.lookup_key hlookup
    exact Rows.lookup_mem hlookup

theorem set_same (h : Keyed docs) {document : δ} (hget : get docs path = some document) :
    set docs path document = docs := by
  obtain ⟨stored, hlookup, rfl⟩ := Option.map_eq_some_iff.1 hget
  rw [set, Rows.put_of_lookup h hlookup (fun _ => (path, stored.2)) rfl]
  obtain rfl := Rows.lookup_key hlookup
  refine (List.map_congr_left fun old hold => ?_).trans (List.map_id docs)
  split
  · rename_i hsame
    exact (Rows.Keyed.eq_of_key_eq h hold (Rows.lookup_mem hlookup) hsame).symm
  · rfl

end Documents
