import PageTemplates.Configuration
import PageTemplates.Proofs.Data.Keys

/-!
The entries of a mapping by key: where a key is found, and what it leads to once a key was given a value.
-/

namespace PageTemplates.Configuration.Entries

/-- What stands in the place of keys is fit as a key, and no two keys are equal. -/
structure Proper (entries : Entries) : Prop where
  keys : ∀ entry ∈ entries, entry.1.IsKey
  distinct : entries.Pairwise fun one other => one.1.equals other.1 = false

theorem proper_nil : Proper [] := ⟨nofun, .nil⟩

theorem proper_cons {key : Data} {value : Tree} {rest : Entries} :
    Proper ((key, value) :: rest) ↔
      key.IsKey ∧ (∀ entry ∈ rest, key.equals entry.1 = false) ∧ Proper rest := by
  constructor
  · intro proper
    obtain ⟨apart, distinct⟩ := List.pairwise_cons.mp proper.distinct
    obtain ⟨key, keys⟩ := List.forall_mem_cons.mp proper.keys
    exact ⟨key, apart, keys, distinct⟩
  · rintro ⟨key, apart, proper⟩
    exact ⟨List.forall_mem_cons.mpr ⟨key, proper.keys⟩, .cons apart proper.distinct⟩

theorem get_cons (key other : Data) (value : Tree) (rest : Entries) :
    get? key ((other, value) :: rest) =
      if other.equals key then some value else get? key rest := by
  rw [get?]

/-- A key leads to the value in some place, whose key equals it. -/
theorem place_of_get {key : Data} {entries : Entries} {value : Tree}
    (found : get? key entries = some value) :
    ∃ (place : Nat) (other : Data), entries[place]? = some (other, value) ∧ other.equals key = true := by
  induction entries with
  | nil => cases found
  | cons entry rest ih =>
      obtain ⟨other, first⟩ := entry
      rw [get_cons] at found
      split at found
      · rename_i same
        cases found
        exact ⟨0, other, rfl, same⟩
      · obtain ⟨place, known, here, same⟩ := ih found
        exact ⟨place + 1, known, here, same⟩

theorem mem_of_get {key : Data} {entries : Entries} {value : Tree}
    (found : get? key entries = some value) :
    ∃ other, (other, value) ∈ entries ∧ other.equals key = true := by
  obtain ⟨place, other, here, same⟩ := place_of_get found
  exact ⟨other, List.mem_of_getElem? here, same⟩

/-- A key that leads to something is equal to itself. -/
theorem equals_self_of_get {key : Data} (fit : key.IsKey) {entries : Entries} {value : Tree}
    (keys : ∀ entry ∈ entries, entry.1.IsKey) (found : get? key entries = some value) :
    key.equals key = true := by
  obtain ⟨other, member, same⟩ := mem_of_get found
  have back := Data.equals_symm _ _ (keys _ member) same
  exact Data.equals_trans _ _ _ fit back same

/-- Equal keys lead to the same value. -/
theorem get_of_equal {key asked : Data} (fit : key.IsKey) (same : key.equals asked = true)
    {entries : Entries} (keys : ∀ entry ∈ entries, entry.1.IsKey) :
    get? asked entries = get? key entries := by
  induction entries with
  | nil => rfl
  | cons entry rest ih =>
      obtain ⟨other, value⟩ := entry
      obtain ⟨known, keys⟩ := List.forall_mem_cons.mp keys
      have agree : other.equals asked = other.equals key := by
        rw [Bool.eq_iff_iff]
        exact ⟨fun alike => Data.equals_symm _ _ fit (Data.equals_trans _ _ _ fit same
            (Data.equals_symm _ _ known alike)),
          fun alike => Data.equals_trans _ _ _ known alike same⟩
      rw [get_cons, get_cons, agree, ih keys]

/-- The key of the first entry is not equal to what the others have a value for. -/
theorem differs_of_later {key later : Data} {value found : Tree} {rest : Entries}
    (proper : Proper ((key, value) :: rest)) (known : get? later rest = some found) :
    key.equals later = false := by
  obtain ⟨fit, apart, proper⟩ := proper_cons.mp proper
  obtain ⟨other, member, same⟩ := mem_of_get known
  rw [Bool.eq_false_iff]
  intro alike
  have back := Data.equals_symm _ _ (proper.keys _ member) same
  exact absurd (Data.equals_trans _ _ _ fit alike back) (by simp [apart _ member])

theorem get_put {key : Data} (fit : key.IsKey) (value : Tree) {entries : Entries}
    (keys : ∀ entry ∈ entries, entry.1.IsKey) (asked : Data) :
    get? asked (entries.put key value) =
      if key.equals asked then some value else get? asked entries := by
  induction entries with
  | nil => rw [put, get_cons]
  | cons entry rest ih =>
      obtain ⟨other, old⟩ := entry
      obtain ⟨known, keys⟩ := List.forall_mem_cons.mp keys
      rw [put]
      split
      · rename_i same
        have agree : other.equals asked = key.equals asked := by
          rw [Bool.eq_iff_iff]
          exact ⟨Data.equals_trans _ _ _ fit (Data.equals_symm _ _ known same),
            Data.equals_trans _ _ _ known same⟩
        rw [get_cons, get_cons, agree]
        split <;> rfl
      · rename_i differs
        rw [get_cons, get_cons, ih keys]
        split
        · rename_i alike
          -- Both keys would equal what is asked for, and so each other.
          have apart : ¬key.equals asked = true := fun same => differs
            (Data.equals_trans _ _ _ known alike (Data.equals_symm _ _ fit same))
          rw [if_neg apart]
        · rfl

theorem mem_put {key : Data} {value : Tree} {entries : Entries} {entry : Data × Tree}
    (member : entry ∈ entries.put key value) :
    entry ∈ entries ∨ (entry.2 = value ∧ (entry.1 = key ∨ ∃ old, (entry.1, old) ∈ entries)) := by
  induction entries with
  | nil =>
      rw [put, List.mem_singleton] at member
      cases member
      exact .inr ⟨rfl, .inl rfl⟩
  | cons first rest ih =>
      obtain ⟨other, old⟩ := first
      rw [put] at member
      split at member
      · rcases List.mem_cons.mp member with rfl | later
        · exact .inr ⟨rfl, .inr ⟨old, List.mem_cons_self⟩⟩
        · exact .inl (List.mem_cons_of_mem _ later)
      · rcases List.mem_cons.mp member with rfl | later
        · exact .inl List.mem_cons_self
        · rcases ih later with kept | ⟨here, rfl | ⟨before, known⟩⟩
          · exact .inl (List.mem_cons_of_mem _ kept)
          · exact .inr ⟨here, .inl rfl⟩
          · exact .inr ⟨here, .inr ⟨before, List.mem_cons_of_mem _ known⟩⟩

/-- A place holds the value that was put, or what it held before under another key. -/
theorem place_of_put {key other : Data} {value found : Tree} {entries : Entries}
    (proper : entries.Proper) {place : Nat}
    (here : (entries.put key value)[place]? = some (other, found)) :
    found = value ∨ (entries[place]? = some (other, found) ∧ other.equals key = false) := by
  induction entries generalizing place with
  | nil =>
      cases place with
      | zero =>
          cases here
          exact .inl rfl
      | succ place => cases here
  | cons entry rest ih =>
      obtain ⟨first, old⟩ := entry
      obtain ⟨known, apart, proper⟩ := proper_cons.mp proper
      rw [put] at here
      split at here
      · rename_i same
        cases place with
        | zero =>
            cases here
            exact .inl rfl
        | succ place =>
            have member : (other, found) ∈ rest := List.mem_of_getElem? here
            refine .inr ⟨here, Bool.eq_false_iff.mpr fun alike => ?_⟩
            have back := Data.equals_symm _ _ (proper.keys _ member) alike
            exact absurd (Data.equals_trans _ _ _ known same back) (by simp [apart _ member])
      · rename_i differs
        cases place with
        | zero =>
            cases here
            exact .inr ⟨rfl, Bool.eq_false_iff.mpr differs⟩
        | succ place => exact ih proper here

theorem put_proper {key : Data} (fit : key.IsKey) (value : Tree) {entries : Entries}
    (proper : entries.Proper) : (entries.put key value).Proper := by
  induction entries with
  | nil => exact proper_cons.mpr ⟨fit, nofun, proper_nil⟩
  | cons entry rest ih =>
      obtain ⟨other, old⟩ := entry
      obtain ⟨known, apart, proper⟩ := proper_cons.mp proper
      rw [put]
      split
      · exact proper_cons.mpr ⟨known, apart, proper⟩
      · rename_i differs
        refine proper_cons.mpr ⟨known, fun entry member => ?_, ih proper⟩
        rcases mem_put member with kept | ⟨_, rfl | ⟨before, kept⟩⟩
        · exact apart _ kept
        · exact Bool.eq_false_iff.mpr differs
        · exact apart (entry.1, before) kept

end PageTemplates.Configuration.Entries
