import PageTemplates.Text.Search
import Mathlib.Data.List.Basic

/-!
Splitting a text at one code point and joining its parts: parts that do not have the code point are what
the text that joins them is split into.
-/

namespace PageTemplates.Text

theorem drop_opening_point (point first : CodePoint) (rest : Text) :
    dropOpening? [point] (first :: rest) = if point = first then some rest else none := by
  rw [dropOpening?]
  split <;> rfl

theorem split_first_absent {point : CodePoint} {text : Text} (absent : point ∉ text) :
    splitFirst? [point] text = none := by
  induction text with
  | nil => rfl
  | cons first rest ih =>
      simp only [List.mem_cons, not_or] at absent
      rw [splitFirst?, drop_opening_point, if_neg absent.1, ih absent.2]
      rfl

theorem split_first_around {point : CodePoint} {before : Text} (absent : point ∉ before) (after : Text) :
    splitFirst? [point] (before ++ point :: after) = some (before, after) := by
  induction before with
  | nil => rw [List.nil_append, splitFirst?, drop_opening_point, if_pos rfl]
  | cons first rest ih =>
      simp only [List.mem_cons, not_or] at absent
      rw [List.cons_append, splitFirst?, drop_opening_point, if_neg absent.1, ih absent.2]
      rfl

/-- Parts without the point between them are what is split at the point. -/
theorem split_join {point : CodePoint} {parts : List Text} (listed : parts ≠ [])
    (absent : ∀ part ∈ parts, point ∉ part) : splitAll [point] (join [point] parts) = parts := by
  have split : ∀ limit, parts.length ≤ limit + 1 → splitOn [point] limit (join [point] parts) = parts := by
    induction parts with
    | nil => exact absurd rfl listed
    | cons part parts ih =>
        intro limit enough
        obtain ⟨here, others⟩ := List.forall_mem_cons.mp absent
        by_cases last : parts = []
        · subst last
          cases limit with
          | zero => rfl
          | succ limit => rw [splitOn, join, split_first_absent here]
        · have joined : join [point] (part :: parts) = part ++ point :: join [point] parts := by
            cases parts with
            | nil => exact absurd rfl last
            | cons next rest => simp [join]
          have more := List.length_pos_iff.mpr last
          rw [List.length_cons] at enough
          obtain ⟨limit, rfl⟩ : ∃ fewer, limit = fewer + 1 := ⟨limit - 1, by omega⟩
          rw [splitOn, joined, split_first_around here]
          simp only [ih last others limit (by omega)]
  have long : parts.length ≤ (join [point] parts).length + 1 := by
    clear split absent
    induction parts with
    | nil => exact absurd rfl listed
    | cons part parts ih =>
        cases parts with
        | nil => simp
        | cons next rest =>
            have below := ih (List.cons_ne_nil _ _)
            simp only [join, List.length_append, List.length_cons, List.length_nil] at below ⊢
            omega
  exact split _ (by omega)

theorem split_listed (separator text : Text) : splitAll separator text ≠ [] := by
  rw [splitAll, splitOn]
  split
  · exact List.cons_ne_nil _ _
  · exact List.cons_ne_nil _ _

end PageTemplates.Text
