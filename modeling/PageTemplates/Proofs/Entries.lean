import Mathlib.Data.List.Nodup
import PageTemplates.Text

/-!
Entries by name: lists of named values, in which a name leads to the first value under it.
-/

namespace PageTemplates.Entries

variable {Item Other : Type}

theorem lookup_first (name first : Text) (item : Item) (rest : List (Text × Item)) :
    ((first, item) :: rest).lookup name = if name = first then some item else rest.lookup name := by
  rw [List.lookup_cons]
  by_cases same : name = first
  · simp [same]
  · have passed : (name == first) = false := by simpa using same
    simp [same, passed]

theorem lookup_map_items (change : Text → Item → Other) (name : Text)
    (entries : List (Text × Item)) :
    (entries.map fun (other, item) => (other, change other item)).lookup name =
      (entries.lookup name).map (change name) := by
  induction entries with
  | nil => rfl
  | cons entry rest ih =>
      obtain ⟨first, item⟩ := entry
      rw [List.map_cons, lookup_first, lookup_first, ih]
      split
      · rename_i same
        rw [same]
        rfl
      · rfl

theorem lookup_is_some {name : Text} {entries : List (Text × Item)} :
    (entries.lookup name).isSome ↔ name ∈ entries.map Prod.fst := by
  rw [List.lookup_isSome_iff, List.mem_map]
  simp only [beq_iff_eq]
  exact ⟨fun ⟨entry, member, same⟩ => ⟨entry, member, same.symm⟩,
    fun ⟨entry, member, same⟩ => ⟨entry, member, same.symm⟩⟩

theorem lookup_absent {name : Text} {entries : List (Text × Item)}
    (absent : name ∉ entries.map Prod.fst) : entries.lookup name = none := by
  by_contra found
  exact absent (lookup_is_some.mp (Option.isSome_iff_ne_none.mpr found))

/-- Where names are different, every entry is the one that its name leads to. -/
theorem lookup_of_mem {entries : List (Text × Item)} (distinct : (entries.map Prod.fst).Nodup)
    {name : Text} {item : Item} (member : (name, item) ∈ entries) :
    entries.lookup name = some item := by
  induction entries with
  | nil => cases member
  | cons entry rest ih =>
      obtain ⟨first, content⟩ := entry
      obtain ⟨fresh, others⟩ := List.nodup_cons.mp distinct
      rw [lookup_first]
      rcases List.mem_cons.mp member with same | later
      · cases same
        exact if_pos rfl
      · have apart : name ≠ first := fun same =>
          fresh (same ▸ List.mem_map.mpr ⟨_, later, rfl⟩)
        rw [if_neg apart]
        exact ih others later

/-- A name that is kept leads to what it led to before. -/
theorem lookup_filter {keeps : Text → Bool} {name : Text} (kept : keeps name = true)
    (entries : List (Text × Item)) :
    (entries.filter fun entry => keeps entry.1).lookup name = entries.lookup name := by
  induction entries with
  | nil => rfl
  | cons entry rest ih =>
      obtain ⟨first, item⟩ := entry
      rw [lookup_first, List.filter_cons]
      split
      · rw [lookup_first, ih]
      · rename_i dropped
        rw [ih, if_neg]
        rintro rfl
        exact dropped kept

/-- An item in a list with one more item has its place among the earlier ones, or is the last. -/
theorem place_of_concat {items : List Item} {last item : Item} {place : Nat}
    (found : (items ++ [last])[place]? = some item) :
    items[place]? = some item ∨ (place = items.length ∧ item = last) := by
  rcases Nat.lt_or_ge place items.length with inside | behind
  · rw [List.getElem?_append_left inside] at found
    exact .inl found
  · rw [List.getElem?_append_right behind, List.getElem?_singleton] at found
    split at found
    · rename_i first
      exact .inr ⟨by omega, (Option.some.inj found).symm⟩
    · cases found

end PageTemplates.Entries
