import Mathlib.Data.List.Sort
import PageTemplates.Text

/-!
The order of texts is a strict total order, and sorting by it gives the one ordered arrangement of
what is sorted. So two lists with the same members sort alike, and a sorted list stays as it is.
-/

namespace PageTemplates

theorem CodePoint.value_injective {first second : CodePoint}
    (same : first.value = second.value) : first = second := by
  cases first with
  | scalar first =>
      cases second with
      | scalar second => exact congrArg _ (Char.toNat_inj.mp same)
      | surrogate offset =>
          have valid := first.valid
          have bound := offset.isLt
          change first.val.toNat = 0xD800 + offset.val at same
          simp only [UInt32.isValidChar, Nat.isValidChar] at valid
          omega
  | surrogate offset =>
      cases second with
      | scalar second =>
          have valid := second.valid
          have bound := offset.isLt
          change 0xD800 + offset.val = second.val.toNat at same
          simp only [UInt32.isValidChar, Nat.isValidChar] at valid
          omega
      | surrogate other =>
          change 0xD800 + offset.val = 0xD800 + other.val at same
          exact congrArg _ (Fin.ext (by omega))

namespace Text

theorem order_self (text : Text) : order text text = .eq := by
  induction text with
  | nil => rfl
  | cons point rest ih => simp [order, ih]

theorem eq_of_order {first second : Text} (same : order first second = .eq) :
    first = second := by
  induction first generalizing second with
  | nil => cases second with
      | nil => rfl
      | cons point rest => simp [order] at same
  | cons point rest ih =>
      cases second with
      | nil => simp [order] at same
      | cons other others =>
          simp only [order] at same
          split at same
          · rename_i equal
            have points := CodePoint.value_injective (Nat.compare_eq_eq.mp equal)
            rw [points, ih same]
          · rename_i differ
            exact absurd same differ

theorem order_swap (first second : Text) : order second first = (order first second).swap := by
  induction first generalizing second with
  | nil => cases second <;> rfl
  | cons point rest ih =>
      cases second with
      | nil => rfl
      | cons other others =>
          simp only [order]
          rw [← Nat.compare_swap]
          cases compare point.value other.value with
          | lt => rfl
          | gt => rfl
          | eq => exact ih others

theorem precedes_irrefl (text : Text) : precedes text text = false := by
  simp [precedes, order_self]

theorem precedes_trans {first second third : Text} (left : precedes first second = true)
    (right : precedes second third = true) : precedes first third = true := by
  simp only [precedes, beq_iff_eq] at left right ⊢
  induction first generalizing second third with
  | nil =>
      cases second with
      | nil => simp [order] at left
      | cons other others => cases third with
          | nil => simp [order] at right
          | cons last lasts => rfl
  | cons point rest ih =>
      cases second with
      | nil => simp [order] at left
      | cons other others =>
          cases third with
          | nil => simp [order] at right
          | cons last lasts =>
              simp only [order] at left right ⊢
              rcases Nat.lt_trichotomy point.value other.value with less | equal | more
              · have reaches : point.value < last.value := by
                  split at right
                  · rename_i equal
                    exact Nat.compare_eq_eq.mp equal ▸ less
                  · exact less.trans (Nat.compare_eq_lt.mp right)
                rw [Nat.compare_eq_lt.mpr reaches]
              · rw [equal] at left ⊢
                simp only [Nat.compare_eq_eq.mpr] at left
                split at right
                · exact ih left right
                · exact right
              · rw [Nat.compare_eq_gt.mpr more] at left
                cases left

/-- Neither of two texts comes before the other only if they are the same. -/
theorem eq_of_not_precedes {first second : Text} (left : ¬precedes first second = true)
    (right : ¬precedes second first = true) : first = second := by
  simp only [precedes, beq_iff_eq] at left right
  apply eq_of_order
  rw [order_swap] at right
  cases equal : order first second with
  | eq => rfl
  | lt => exact absurd equal left
  | gt => simp [equal] at right

/-- Texts of which none comes before an earlier one. -/
abbrev Ordered (texts : List Text) : Prop :=
  texts.Pairwise fun first second => ¬precedes second first = true

theorem insert_sorted_perm (text : Text) (texts : List Text) :
    (insertSorted text texts).Perm (text :: texts) := by
  induction texts with
  | nil => exact .refl _
  | cons first rest ih =>
      simp only [insertSorted]
      split
      · exact (ih.cons first).trans (.swap text first rest)
      · exact .refl _

theorem sorted_perm (texts : List Text) : (sorted texts).Perm texts := by
  induction texts with
  | nil => exact .refl _
  | cons text rest ih => exact (insert_sorted_perm text _).trans (ih.cons text)

theorem insert_sorted_ordered (text : Text) {texts : List Text} (ordered : Ordered texts) :
    Ordered (insertSorted text texts) := by
  induction texts with
  | nil => exact List.pairwise_singleton _ _
  | cons first rest ih =>
      have ⟨firstLeast, restOrdered⟩ := List.pairwise_cons.mp ordered
      simp only [insertSorted]
      split
      · rename_i before
        refine List.pairwise_cons.mpr ⟨fun other member => ?_, ih restOrdered⟩
        rcases List.mem_cons.mp ((insert_sorted_perm text rest).mem_iff.mp member) with same | old
        · rw [same]
          intro after
          exact absurd (precedes_trans before after) (by simp [precedes_irrefl])
        · exact firstLeast other old
      · rename_i notBefore
        refine List.pairwise_cons.mpr ⟨fun other member => ?_, ordered⟩
        rcases List.mem_cons.mp member with same | old
        · rw [same]
          exact notBefore
        · intro before
          by_cases same : text = first
          · exact firstLeast other old (same ▸ before)
          · have after : precedes text first = true := by
              by_contra notAfter
              exact same (eq_of_not_precedes notAfter notBefore)
            exact firstLeast other old (precedes_trans before after)

theorem sorted_ordered (texts : List Text) : Ordered (sorted texts) := by
  induction texts with
  | nil => exact List.Pairwise.nil
  | cons text rest ih => exact insert_sorted_ordered text ih

theorem ordered_unique {first second : List Text} (same : first.Perm second)
    (left : Ordered first) (right : Ordered second) : first = second :=
  same.eq_of_pairwise (fun _ _ _ _ before after => eq_of_not_precedes after before) left right

theorem sorted_of_ordered {texts : List Text} (ordered : Ordered texts) : sorted texts = texts :=
  ordered_unique (sorted_perm texts) (sorted_ordered texts) ordered

theorem sorted_sorted (texts : List Text) : sorted (sorted texts) = sorted texts :=
  sorted_of_ordered (sorted_ordered texts)

theorem sorted_congr {first second : List Text} (same : first.Perm second) :
    sorted first = sorted second :=
  ordered_unique ((sorted_perm first).trans (same.trans (sorted_perm second).symm))
    (sorted_ordered first) (sorted_ordered second)

@[simp] theorem mem_sorted {text : Text} {texts : List Text} :
    text ∈ sorted texts ↔ text ∈ texts := (sorted_perm texts).mem_iff

/-- Sorting different texts gives a strictly increasing list. -/
theorem sorted_increasing {texts : List Text} (distinct : texts.Nodup) :
    (sorted texts).Pairwise fun first second => precedes first second = true := by
  have nodup : (sorted texts).Nodup := (sorted_perm texts).nodup_iff.mpr distinct
  refine (nodup.and (sorted_ordered texts)).imp ?_
  rintro first second ⟨differ, notAfter⟩
  by_contra notBefore
  exact differ (eq_of_not_precedes notBefore notAfter)

/-- Strictly increasing lists are told by their members. -/
theorem increasing_unique {first second : List Text}
    (left : first.Pairwise fun text other => precedes text other = true)
    (right : second.Pairwise fun text other => precedes text other = true)
    (same : ∀ text, text ∈ first ↔ text ∈ second) : first = second := by
  have ordered : ∀ {texts : List Text},
      texts.Pairwise (fun text other => precedes text other = true) → Ordered texts ∧ texts.Nodup := by
    intro texts increasing
    constructor
    · refine increasing.imp fun before after => ?_
      exact absurd (precedes_trans before after) (by simp [precedes_irrefl])
    · refine increasing.imp ?_
      rintro text other before rfl
      simp [precedes_irrefl] at before
  exact ordered_unique ((List.perm_ext_iff_of_nodup (ordered left).2 (ordered right).2).mpr same)
    (ordered left).1 (ordered right).1

end Text

end PageTemplates
