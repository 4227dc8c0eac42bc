import Mathlib.Data.List.Chain
import Mathlib.Data.List.TakeWhile
import PageTemplates.Text.Identifier
import PageTemplates.Text.Search

/-!
Names of all scripts. Halving a table of characters counts the boundaries up to a character; so where as many
are at or below both ends of a row, the table has the whole row or none of it. By this it is told of all
identifiers that they do not begin like a number or with a blank, and have no lone surrogates.
-/

namespace PageTemplates.Text

namespace Ranges

/-- A table whose boundaries ascend, and are so few that halving comes to each. -/
structure Ordered (bounds : Array Nat) : Prop where
  rising : bounds.toList.IsChain (· < ·)
  few : bounds.size < 2048

instance (bounds : Array Nat) : Decidable (Ordered bounds) :=
  decidable_of_iff (bounds.toList.IsChain (· < ·) ∧ bounds.size < 2048)
    ⟨fun ⟨rising, few⟩ => ⟨rising, few⟩, fun ⟨rising, few⟩ => ⟨rising, few⟩⟩

/-- How many boundaries lie at or below a point. -/
def below (bounds : Array Nat) (point : Nat) : Nat := bounds.toList.countP (· ≤ point)

variable {bounds : Array Nat}

theorem reached_iff {numbers : List Nat} (rising : numbers.Pairwise (· < ·)) (point place : Nat) :
    (numbers[place]?).any (· ≤ point) = true ↔ place < numbers.countP (· ≤ point) := by
  induction numbers generalizing place with
  | nil => simp
  | cons first rest ih =>
      obtain ⟨least, others⟩ := List.pairwise_cons.mp rising
      by_cases reached : first ≤ point
      · rw [List.countP_cons_of_pos (by simpa using reached)]
        cases place with
        | zero => simp [reached]
        | succ place => simpa using ih others place
      · have none_below : rest.countP (· ≤ point) = 0 := by
          rw [List.countP_eq_zero]
          intro number inside
          have after := least number inside
          simp only [decide_eq_true_eq]
          omega
        rw [List.countP_cons_of_neg (by simpa using reached), none_below]
        cases place with
        | zero => simp [reached]
        | succ place => simpa [none_below] using ih others place

/-- Halving counts the boundaries at or below a point. -/
theorem rank_counts (ordered : Ordered bounds) (point : Nat) : rank bounds point 11 0 = below bounds point := by
  have rising := List.isChain_iff_pairwise.mp ordered.rising
  have search (bits low : Nat) (least : low ≤ below bounds point)
      (most : below bounds point < low + 2 ^ bits) : rank bounds point bits low = below bounds point := by
    induction bits generalizing low with
    | zero =>
        rw [rank]
        omega
    | succ bits ih =>
        have power : Nat.pow 2 bits = 2 ^ bits := rfl
        have positive : 0 < 2 ^ bits := Nat.two_pow_pos bits
        have reached := reached_iff rising point (low + 2 ^ bits - 1)
        rw [Array.getElem?_toList] at reached
        rw [Nat.pow_succ] at most
        rw [rank, power]
        split
        · rename_i there
          have enough := reached.mp there
          rw [below] at most ih ⊢
          exact ih _ (by omega) (by omega)
        · rename_i absent
          have few := mt reached.mpr absent
          rw [below] at least most ih ⊢
          exact ih _ least (by omega)
  refine search 11 0 (Nat.zero_le _) ?_
  have most : below bounds point ≤ bounds.size := List.countP_le_length
  have few := ordered.few
  omega

theorem contains_counts (ordered : Ordered bounds) (point : Nat) :
    contains bounds point = (below bounds point % 2 == 1) := by
  rw [contains, rank_counts ordered]

/-- Whether rows of points, in order, keep clear of all ranges between boundaries in order: the rows before a
range are passed, and the next one has to begin behind it. -/
def clears : (bounds : List Nat) → (rows : List (Nat × Nat)) → Bool
  | opens :: closes :: rest, rows =>
    let left := rows.dropWhile fun row => Nat.blt row.2 opens
    left.head?.all (fun row => Nat.ble closes row.1) && clears rest left
  | [opens], rows => rows.all fun row => Nat.blt row.2 opens
  | [], _ => true

theorem even_of_clears {numbers : List Nat} (rising : numbers.Pairwise (· < ·)) {rows : List (Nat × Nat)}
    (ascending : rows.Pairwise fun one other => one.1 ≤ other.1) (clear : clears numbers rows = true) :
    ∀ row ∈ rows, ∀ point, row.1 ≤ point → point ≤ row.2 →
      numbers.countP (· ≤ point) % 2 = 0 := by
  have beyond {opens point : Nat} {rest : List Nat} (least : (opens :: rest).Pairwise (· < ·))
      (before : point < opens) : (opens :: rest).countP (· ≤ point) = 0 := by
    rw [List.countP_eq_zero]
    intro number inside
    have after : opens ≤ number := by
      rcases List.mem_cons.mp inside with rfl | later
      · exact Nat.le_refl _
      · exact Nat.le_of_lt ((List.pairwise_cons.mp least).1 number later)
    simp only [decide_eq_true_eq]
    omega
  induction numbers, rows using clears.induct with
  | case1 opens closes rest rows left ih =>
      simp only [clears, Bool.and_eq_true] at clear
      obtain ⟨behind, others⟩ := clear
      obtain ⟨-, inner⟩ := List.pairwise_cons.mp rising
      have kept : left.Pairwise fun one other => one.1 ≤ other.1 :=
        ascending.sublist (List.dropWhile_sublist _)
      intro row inside point begun within
      have parts : rows.takeWhile (fun row => Nat.blt row.2 opens) ++ left = rows :=
        List.takeWhile_append_dropWhile
      have among : row ∈ rows.takeWhile (fun row => Nat.blt row.2 opens) ++ left := by
        rw [parts]
        exact inside
      rcases List.mem_append.mp among with passed | ahead
      · have before : row.2 < opens := by simpa using List.mem_takeWhile_imp passed
        rw [beyond rising (by omega)]
      · have least : closes ≤ row.1 := by
          change row ∈ left at ahead
          change left.head?.all _ = true at behind
          cases shown : left with
          | nil =>
              rw [shown] at ahead
              cases ahead
          | cons first more =>
              rw [shown] at ahead behind kept
              have start : closes ≤ first.1 := by simpa using behind
              rcases List.mem_cons.mp ahead with rfl | later
              · exact start
              · exact Nat.le_trans start ((List.pairwise_cons.mp kept).1 row later)
        have ordered : opens < closes := (List.pairwise_cons.mp rising).1 closes List.mem_cons_self
        have even := ih (List.pairwise_cons.mp inner).2 kept others row ahead point begun within
        rw [List.countP_cons_of_pos (by simp only [decide_eq_true_eq]; omega),
          List.countP_cons_of_pos (by simp only [decide_eq_true_eq]; omega)]
        omega
  | case2 opens rows =>
      intro row inside point begun within
      have before : row.2 < opens := by
        simp only [clears, List.all_eq_true] at clear
        simpa using clear row inside
      rw [beyond rising (by omega)]
  | case3 => simp

/-- No point of rows that keep clear of a table is in the table. -/
theorem clear_of_clears (ordered : Ordered bounds) {rows : List (Nat × Nat)}
    (ascending : rows.Pairwise fun one other => one.1 ≤ other.1)
    (clear : clears bounds.toList rows = true) {row : Nat × Nat} (inside : row ∈ rows) {point : Nat}
    (begun : row.1 ≤ point) (within : point ≤ row.2) : contains bounds point = false := by
  have even := even_of_clears (List.isChain_iff_pairwise.mp ordered.rising) ascending clear row inside point
    begun within
  rw [contains_counts ordered, below, even]
  rfl

end Ranges

/-- The rows of ten decimal digits. -/
def decimalRows : List (Nat × Nat) := decimalZeros.toList.map fun nought => (nought, nought + 9)

/-- The rows of blanks. -/
def blankRows : List (Nat × Nat) :=
  [(9, 13), (28, 32), (0x85, 0x85), (0xA0, 0xA0), (0x1680, 0x1680), (0x2000, 0x200A), (0x2028, 0x2029),
    (0x202F, 0x202F), (0x205F, 0x205F), (0x3000, 0x3000)]

/-- The row of the surrogates. -/
def surrogateRows : List (Nat × Nat) := [(0xD800, 0xDFFF)]

theorem tables_ordered : (Ranges.Ordered letterBounds ∧ Ranges.Ordered startDifferences) ∧
    Ranges.Ordered numericBounds ∧ Ranges.Ordered continueDifferences := by
  decide +kernel

/-- The rows are in order, and keep clear of what identifiers start with; those of surrogates also of what
identifiers go on with. -/
theorem rows_clear :
    (∀ rows ∈ [decimalRows, blankRows, surrogateRows],
      (rows.Pairwise fun one other => one.1 ≤ other.1) ∧ Ranges.clears letterBounds.toList rows = true ∧
        Ranges.clears startDifferences.toList rows = true) ∧
    Ranges.clears numericBounds.toList surrogateRows = true ∧
      Ranges.clears continueDifferences.toList surrogateRows = true := by
  decide +kernel

/-- No identifier starts in any of the rows. -/
theorem start_apart {rows : List (Nat × Nat)} (among : rows ∈ [decimalRows, blankRows, surrogateRows])
    {row : Nat × Nat} (inside : row ∈ rows) {point : Nat} (begun : row.1 ≤ point) (within : point ≤ row.2) :
    isLetter point = false ∧ isIdentifierStart point = false := by
  obtain ⟨ascending, letters, differences⟩ := rows_clear.1 rows among
  have noLetter : isLetter point = false :=
    Ranges.clear_of_clears tables_ordered.1.1 ascending letters inside begun within
  refine ⟨noLetter, ?_⟩
  rw [isIdentifierStart, noLetter,
    Ranges.clear_of_clears tables_ordered.1.2 ascending differences inside begun within]
  rfl

/-- No identifier starts with a decimal digit of any script. -/
theorem start_not_decimal {point : Nat} (starts : isIdentifierStart point = true) :
    isDecimal point = false := by
  rw [isDecimal, decimalValue?, Option.isSome_map, Bool.eq_false_iff]
  intro found
  obtain ⟨nought, there⟩ := Option.isSome_iff_exists.mp found
  have inRow := Array.find?_some there
  simp only [Bool.and_eq_true, decide_eq_true_eq] at inRow
  have listed : (nought, nought + 9) ∈ decimalRows :=
    List.mem_map_of_mem (Array.mem_toList_iff.mpr (Array.mem_of_find?_eq_some there))
  rw [(start_apart (by simp) listed inRow.1 (show point ≤ nought + 9 by omega)).2] at starts
  cases starts

/-- No identifier starts with a blank. -/
theorem start_not_blank {point : Nat} (starts : isIdentifierStart point = true) :
    isBlank point = false := by
  have apart : ∀ row ∈ blankRows, ¬(row.1 ≤ point ∧ point ≤ row.2) := by
    rintro row listed ⟨begun, within⟩
    rw [(start_apart (by simp) listed begun within).2] at starts
    cases starts
  simp only [blankRows, List.forall_mem_cons, List.not_mem_nil, false_imp_iff, implies_true, and_true] at apart
  rw [Bool.eq_false_iff]
  intro blank
  simp only [isBlank, Bool.or_eq_true, Bool.and_eq_true, decide_eq_true_eq, beq_iff_eq] at blank
  omega

/-- A lone surrogate is no part of an identifier. -/
theorem surrogate_apart (offset : Fin 0x800) :
    isIdentifierStart (CodePoint.surrogate offset).value = false ∧
      isIdentifierContinue (CodePoint.surrogate offset).value = false := by
  have begun : 0xD800 ≤ (CodePoint.surrogate offset).value := Nat.le_add_right _ _
  have within : (CodePoint.surrogate offset).value ≤ 0xDFFF := by
    have small := offset.isLt
    simp only [CodePoint.value]
    omega
  have among : surrogateRows ∈ [decimalRows, blankRows, surrogateRows] := by simp
  have inside : (0xD800, 0xDFFF) ∈ surrogateRows := List.mem_singleton_self _
  obtain ⟨noLetter, noStart⟩ := start_apart among inside begun within
  obtain ⟨table, numerals, differences⟩ := rows_clear
  have ascending := (table _ among).1
  have noLine : ((CodePoint.surrogate offset).value == 0x5F) = false := by
    rw [beq_eq_false_iff_ne]
    omega
  refine ⟨noStart, ?_⟩
  rw [isIdentifierContinue, isWord, noLetter, isNumeric, noLine,
    Ranges.clear_of_clears tables_ordered.2.1 ascending numerals inside begun within,
    Ranges.clear_of_clears tables_ordered.2.2 ascending differences inside begun within]
  rfl

theorem toString_ofString (string : String) : toString? (ofString string) = some string := by
  have chars (characters : List Char) : toChars? (ofChars characters) = some characters := by
    induction characters with
    | nil => rfl
    | cons first rest ih =>
        rw [ofChars, List.map_cons, toChars?]
        exact congrArg (Option.map _) ih
  rw [toString?, ofString, chars]
  simp

theorem text_of_scalars {text : Text} (scalars : ∀ point ∈ text, ∃ character, point = .scalar character) :
    ∃ string, text = ofString string := by
  have listed : ∃ characters, text = ofChars characters := by
    induction text with
    | nil => exact ⟨[], rfl⟩
    | cons point rest ih =>
        obtain ⟨⟨character, rfl⟩, others⟩ := List.forall_mem_cons.mp scalars
        obtain ⟨characters, rfl⟩ := ih others
        exact ⟨character :: characters, rfl⟩
  obtain ⟨characters, rfl⟩ := listed
  exact ⟨String.ofList characters, by rw [ofString, String.toList_ofList]⟩

/-- An identifier has a first character that identifiers start with, and is the text of a string. -/
theorem identifier_shape {text : Text} (named : isIdentifier text = true) :
    ∃ (first : Char) (rest : Text) (string : String), text = .scalar first :: rest ∧
      text = ofString string ∧ isIdentifierStart first.toNat = true := by
  cases text with
  | nil => cases named
  | cons point rest =>
      rw [isIdentifier, Bool.and_eq_true_iff] at named
      obtain ⟨starts, goesOn⟩ := named
      have whole : ∀ other ∈ point :: rest, ∃ character, other = .scalar character := by
        intro other inside
        cases other with
        | scalar character => exact ⟨character, rfl⟩
        | surrogate offset =>
            obtain ⟨noStart, noMore⟩ := surrogate_apart offset
            rcases List.mem_cons.mp inside with rfl | later
            · rw [noStart] at starts
              cases starts
            · have here := List.all_eq_true.mp goesOn _ later
              rw [noMore] at here
              cases here
      obtain ⟨first, rfl⟩ := whole point List.mem_cons_self
      obtain ⟨string, same⟩ := text_of_scalars whole
      rw [CodePoint.value] at starts
      exact ⟨first, rest, string, rfl, same, starts⟩

end PageTemplates.Text
