import Mathlib.Data.List.Infix
import PageTemplates.Proofs.Text.Utf8
import PageTemplates.Text.Case

/-!
Lower case at the end of a text. Only the small sigma looks at its neighbours, and of what stands before
it only whether the nearest letter is cased. So behind any other text, the lower case of a text is what
it is alone, or what it is behind a cased letter.
-/

namespace PageTemplates.Text

/-- The letter behind which the small sigma may be a final one. -/
def casedLetter : CodePoint := .scalar 'a'

/-- The code point whose lower case depends on its neighbours. -/
def capitalSigma : CodePoint := .scalar 'Σ'

theorem lower_after_plain {text : Text} (plain : capitalSigma ∉ text) (before : Text) :
    lowerAfter before text = text.flatMap lowerPoint := by
  induction text generalizing before with
  | nil => rfl
  | cons point rest ih =>
      simp only [List.mem_cons, not_or] at plain
      have other : point ≠ .scalar 'Σ' := Ne.symm plain.1
      rw [lowerAfter, if_neg other, ih plain.2, List.flatMap_cons]

theorem lower_eq (text : Text) : lower text = lowerAfter [] text := by
  rw [lower]
  split
  · rfl
  · rename_i absent
    exact (lower_after_plain (fun member => absent (List.elem_eq_true_of_mem member)) []).symm

/-- Of what stands before a text, only the nearest letter counts. -/
theorem lower_after_congr (text : Text) {before other : Text}
    (same : casedNearby before = casedNearby other) :
    lowerAfter before text = lowerAfter other text := by
  induction text generalizing before other with
  | nil => rfl
  | cons point rest ih =>
      have next : casedNearby (point :: before) = casedNearby (point :: other) := by
        simp only [casedNearby, same]
      simp only [lowerAfter, sigma, same, ih next]

theorem lower_after_append (before front text : Text) :
    lowerAfter (front.reverse ++ before) text <:+ lowerAfter before (front ++ text) := by
  induction front generalizing before with
  | nil => exact List.suffix_refl _
  | cons point rest ih =>
      rw [List.cons_append, lowerAfter, List.reverse_cons, List.append_assoc]
      exact (ih (point :: before)).trans (List.suffix_append _ _)

/-- A text that stands behind others ends in its own lower case, or in the one it has behind a cased
letter. -/
theorem lower_behind (front text : Text) :
    lower text <:+ lower (front ++ text) ∨ lowerAfter [casedLetter] text <:+ lower (front ++ text) := by
  have ends : lowerAfter front.reverse text <:+ lower (front ++ text) := by
    rw [lower_eq]
    simpa using lower_after_append [] front text
  have cased : casedNearby [casedLetter] = true := by decide +kernel
  cases nearby : casedNearby front.reverse with
  | false =>
      left
      have alone : casedNearby [] = casedNearby front.reverse := nearby.symm
      rw [lower_eq, lower_after_congr text alone]
      exact ends
  | true =>
      right
      rw [lower_after_congr text (cased.trans nearby.symm)]
      exact ends

/-- Behind a code point that is neither cased nor looked through, the lower case of a text is its own. -/
theorem lower_apart {mark : CodePoint} (apart : ∀ before, casedNearby (mark :: before) = false)
    (front text : Text) : lower text <:+ lower (front ++ mark :: text) := by
  have ends := lower_after_append [] (front ++ [mark]) text
  rw [List.append_assoc, List.singleton_append, ← lower_eq, List.append_nil, List.reverse_append,
    List.reverse_singleton, List.singleton_append] at ends
  have alone : casedNearby [] = casedNearby (mark :: front.reverse) := (apart front.reverse).symm
  rw [lower_eq text, lower_after_congr text alone]
  exact ends

/-- Without a capital sigma, the lower case of a text is the same behind all others. -/
theorem lower_plain {text : Text} (plain : capitalSigma ∉ text) (front : Text) :
    lower text <:+ lower (front ++ text) := by
  rcases lower_behind front text with ends | ends
  · exact ends
  · rw [lower_after_plain plain, ← lower_after_plain plain [], ← lower_eq] at ends
    exact ends

/-!
Letters in another case. Only an ASCII letter has a lower case of ASCII letters other than i and k, so a
text with such a lower case is in ASCII, and it has the same lower case in every spelling of its letters.
-/

/-- A text with some of its letters in lower, upper or title case. -/
inductive Recased : Text → Text → Prop where
  | nil : Recased [] []
  | cons (point : CodePoint) {image text other : Text}
      (spelled : image ∈ [[point], lowerPoint point, upperPoint point, titlePoint point])
      (rest : Recased text other) : Recased (point :: text) (image ++ other)

theorem recased_self (text : Text) : Recased text text := by
  induction text with
  | nil => exact .nil
  | cons point rest ih => exact @Recased.cons point [point] rest rest (by simp) ih

theorem upper_recased (text : Text) : Recased text (upper text) := by
  induction text with
  | nil => exact .nil
  | cons point rest ih => exact .cons point (by simp) ih

/-- A small ASCII letter that nothing but ASCII letters have as lower case. -/
def IsOwnLower (point : CodePoint) : Prop := point.value < 128 ∧ point.value ≠ 105 ∧ point.value ≠ 107

instance (point : CodePoint) : Decidable (IsOwnLower point) := by
  unfold IsOwnLower
  infer_instance

/-- Where the runs of the lower case end up: above ASCII, or at the letter k. -/
def Run.IsApart (run : Run) : Prop :=
  run.last < 128 ∨ 128 ≤ run.first + run.distance ∧ run.last + run.distance < 0x110000 ∨
    run.first = run.last ∧ run.first + run.distance = 107

instance (run : Run) : Decidable run.IsApart := by
  unfold Run.IsApart
  infer_instance

theorem lower_runs_apart : ∀ run ∈ lowerRuns, run.IsApart := by
  have listed : ∀ run ∈ lowerRuns.toList, run.IsApart := by decide +kernel
  exact fun run member => listed run (Array.mem_toList_iff.mpr member)

/-- What a point outside ASCII moves to in lower case. -/
theorem moved_apart {number : Nat} (foreign : 128 ≤ number) (moves : move lowerRuns number ≠ number) :
    move lowerRuns number < 0x110000 ∧
      (128 ≤ move lowerRuns number ∨ move lowerRuns number = 107) := by
  unfold move at moves ⊢
  split
  · rename_i run found
    have inside := Array.find?_some found
    simp only [Bool.and_eq_true, decide_eq_true_eq] at inside
    have apart := lower_runs_apart run (Array.mem_of_find?_eq_some found)
    unfold Run.IsApart at apart
    omega
  · rename_i absent
    rw [absent] at moves
    exact absurd rfl moves

theorem point_of_number {number : Nat} (bounded : number < 0x110000) :
    ∃ point, CodePoint.ofNat? number = some point ∧ point.value = number := by
  unfold CodePoint.ofNat?
  split
  · refine ⟨_, rfl, ?_⟩
    rw [CodePoint.value]
    dsimp only
    omega
  · exact ⟨_, rfl, number_of_char (by omega)⟩

/-- A point outside ASCII has a lower case that is not in small ASCII letters of its own. -/
theorem foreign_lower {point : CodePoint} (foreign : 128 ≤ point.value) :
    ∃ other ∈ lowerPoint point, ¬IsOwnLower other := by
  unfold lowerPoint
  rw [if_neg (by omega), mapCase]
  split
  · rename_i points expanded
    have expansion : points = [105, 775] := by
      rw [lowerExpansions, List.lookup_cons] at expanded
      split at expanded <;> cases expanded
      rfl
    subst expansion
    exact ⟨.scalar (Char.ofNat 775), by decide, by decide⟩
  · by_cases moves : move lowerRuns point.value = point.value
    · refine ⟨point, by simp [moves], fun own => ?_⟩
      have small := own.1
      omega
    · obtain ⟨bounded, apart⟩ := moved_apart foreign moves
      obtain ⟨other, made, number⟩ := point_of_number bounded
      refine ⟨other, by simp [moves, ofNumbers, made], fun own => ?_⟩
      obtain ⟨small, _, last⟩ := own
      omega

/-- A text with small ASCII letters of their own for its lower case is in ASCII. -/
theorem ascii_of_lower_after {before text : Text}
    (own : ∀ point ∈ lowerAfter before text, IsOwnLower point) : ∀ point ∈ text, point.value < 128 := by
  induction text generalizing before with
  | nil => exact List.forall_mem_nil _
  | cons point rest ih =>
      rw [lowerAfter] at own
      obtain ⟨here, later⟩ := List.forall_mem_append.mp own
      refine List.forall_mem_cons.mpr ⟨?_, ih later⟩
      by_contra foreign
      split at here
      · have small := here _ (List.mem_singleton_self _)
        unfold sigma at small
        split at small <;> exact absurd small (by decide)
      · obtain ⟨other, member, strange⟩ := foreign_lower (Nat.not_lt.mp foreign)
        exact strange (here other member)

theorem ascii_point {point : CodePoint} (ascii : point.value < 128) :
    ∃ number : Fin 128, point = .scalar (Char.ofNat number) := by
  cases point with
  | scalar character => exact ⟨⟨character.toNat, ascii⟩, by simp⟩
  | surrogate offset =>
      rw [CodePoint.value] at ascii
      omega

theorem lower_of_spelled {point : CodePoint} (ascii : point.value < 128) {image : Text}
    (spelled : image ∈ [[point], lowerPoint point, upperPoint point, titlePoint point]) :
    image.flatMap lowerPoint = lowerPoint point ∧ capitalSigma ∉ image := by
  have each : ∀ number : Fin 128, let point : CodePoint := .scalar (Char.ofNat number)
      ∀ image ∈ [[point], lowerPoint point, upperPoint point, titlePoint point],
        image.flatMap lowerPoint = lowerPoint point ∧ capitalSigma ∉ image := by decide +kernel
  obtain ⟨number, rfl⟩ := ascii_point ascii
  exact each number image spelled

theorem plain_of_recased {text other : Text} (ascii : ∀ point ∈ text, point.value < 128)
    (recased : Recased text other) :
    other.flatMap lowerPoint = text.flatMap lowerPoint ∧ capitalSigma ∉ other := by
  induction recased with
  | nil => exact ⟨rfl, List.not_mem_nil⟩
  | cons point spelled _ ih =>
      obtain ⟨here, later⟩ := List.forall_mem_cons.mp ascii
      obtain ⟨same, clear⟩ := lower_of_spelled here spelled
      obtain ⟨others, rest_clear⟩ := ih later
      exact ⟨by rw [List.flatMap_append, same, others, List.flatMap_cons], by simp [clear, rest_clear]⟩

/-- In every spelling of its letters, an ASCII text has the same lower case. -/
theorem lower_recased {text other : Text} (ascii : ∀ point ∈ text, point.value < 128)
    (recased : Recased text other) : lower other = lower text := by
  obtain ⟨same, clear⟩ := plain_of_recased ascii recased
  obtain ⟨_, plain⟩ := plain_of_recased ascii (recased_self text)
  rw [lower_eq, lower_eq, lower_after_plain clear, lower_after_plain plain, same]

end PageTemplates.Text
