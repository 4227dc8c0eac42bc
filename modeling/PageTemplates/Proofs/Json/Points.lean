import Mathlib.Data.List.Nodup
import PageTemplates.Json.Read
import PageTemplates.Proofs.Text.Utf8
import PageTemplates.Value.AsJson

/-!
Texts written for pages. Characters that markup gives a meaning to are written as escapes, and every character
of a text has one of a few forms, from which it is read again; so reading a text comes by the forms of its
characters one after another.
-/

namespace PageTemplates.Json

open AsJson (safePoint)

/-- The characters that can start or end markup, or end an attribute. -/
def markupPoints : List CodePoint := [.scalar '<', .scalar '>', .scalar '&', .scalar '\'']

/-- A written text with escapes in the place of these characters. -/
def embedded (text : Text) : Text := text.flatMap safePoint

theorem safe_point_apart (point : CodePoint) : ∀ part ∈ safePoint point, part ∉ markupPoints := by
  unfold safePoint
  split
  · decide
  · decide
  · decide
  · decide
  · rename_i noLess noMore noAnd noQuote
    intro part inside
    rw [List.mem_singleton.mp inside]
    simp only [markupPoints, List.mem_cons, List.not_mem_nil, or_false]
    rintro (same | same | same | same)
    · exact noLess same
    · exact noMore same
    · exact noAnd same
    · exact noQuote same

/-- No character with a meaning in markup is left. -/
theorem embedded_apart (text : Text) : ∀ point ∈ embedded text, point ∉ markupPoints := by
  intro point inside
  obtain ⟨source, -, part⟩ := List.mem_flatMap.mp inside
  exact safe_point_apart source point part

theorem embedded_append (first second : Text) : embedded (first ++ second) = embedded first ++ embedded second :=
  List.flatMap_append

theorem safe_point_self {point : CodePoint} (apart : point ∉ markupPoints) : safePoint point = [point] := by
  unfold safePoint
  split
  · exact absurd (by decide) apart
  · exact absurd (by decide) apart
  · exact absurd (by decide) apart
  · exact absurd (by decide) apart
  · rfl

/-- A text without such characters stays as it is. -/
theorem embedded_self {text : Text} (apart : ∀ point ∈ text, point ∉ markupPoints) : embedded text = text := by
  induction text with
  | nil => rfl
  | cons point rest ih =>
      obtain ⟨here, others⟩ := List.forall_mem_cons.mp apart
      have below := ih others
      rw [embedded] at below ⊢
      rw [List.flatMap_cons, safe_point_self here, below]
      rfl

section Escapes

theorem hex_digit_reads : ∀ digit < 16, Markup.isHexDigit (.scalar (Text.hexDigit digit)) = true ∧
    Markup.digitValue (.scalar (Text.hexDigit digit)) = digit ∧
    CodePoint.scalar (Text.hexDigit digit) ∉ markupPoints := by
  decide

/-- The four digits of an escape. -/
theorem four_digits (number : Nat) : Text.ofChars (Text.hexDigits 4 number) =
    [.scalar (Text.hexDigit (number / 16 / 16 / 16 % 16)), .scalar (Text.hexDigit (number / 16 / 16 % 16)),
      .scalar (Text.hexDigit (number / 16 % 16)), .scalar (Text.hexDigit (number % 16))] := rfl

theorem four_digits_read {number : Nat} (small : number < 0x10000) (rest : Text) :
    fourDigits? (Text.ofChars (Text.hexDigits 4 number) ++ rest) = some number := by
  obtain ⟨isFirst, first, -⟩ := hex_digit_reads (number / 16 / 16 / 16 % 16) (by omega)
  obtain ⟨isSecond, second, -⟩ := hex_digit_reads (number / 16 / 16 % 16) (by omega)
  obtain ⟨isThird, third, -⟩ := hex_digit_reads (number / 16 % 16) (by omega)
  obtain ⟨isLast, last, -⟩ := hex_digit_reads (number % 16) (by omega)
  simp only [four_digits, fourDigits?, List.cons_append, List.nil_append, List.take_succ_cons, List.take_zero,
    List.all_cons, List.all_nil, isFirst, isSecond, isThird, isLast, Markup.readDigits, List.foldl_cons,
    List.foldl_nil, first, second, third, last]
  simp
  omega

theorem escape_embedded (number : Nat) : embedded (unicodeEscape number) = unicodeEscape number := by
  apply embedded_self
  rw [unicodeEscape, four_digits]
  refine List.forall_mem_append.mpr ⟨by decide, ?_⟩
  simp only [List.forall_mem_cons]
  exact ⟨(hex_digit_reads _ (by omega)).2.2, (hex_digit_reads _ (by omega)).2.2,
    (hex_digit_reads _ (by omega)).2.2, (hex_digit_reads _ (by omega)).2.2, List.forall_mem_nil _⟩

end Escapes

/-- How a character stands inside a text: as a letter after a backslash, as itself, or by its number in one
escape or in two. -/
inductive Form : Char → Text → Prop
  | letter {character letter : Char} (means : letterEscape? (.scalar letter) = some character)
      (apart : letter ≠ 'u') : Form character [.scalar '\\', .scalar letter]
  | plain {character : Char} (noQuote : character ≠ '"') (noBackslash : character ≠ '\\')
      (printed : 0x20 ≤ character.toNat) : Form character [.scalar character]
  | escape {character : Char} (small : character.toNat < 0x10000) :
      Form character (unicodeEscape character.toNat)
  | pair {character : Char} (large : 0x10000 ≤ character.toNat) :
      Form character (unicodeEscape (0xD800 + (character.toNat - 0x10000) / 0x400) ++
        unicodeEscape (0xDC00 + (character.toNat - 0x10000) % 0x400))

theorem point_form (character : Char) : Form character (embedded (writePoint (.scalar character))) := by
  unfold writePoint
  split
  · rename_i same
    cases same
    exact .letter rfl (by decide)
  · rename_i same
    cases same
    exact .letter rfl (by decide)
  · rename_i same
    cases same
    exact .letter rfl (by decide)
  · rename_i same
    cases same
    exact .letter rfl (by decide)
  · rename_i same
    cases same
    exact .letter rfl (by decide)
  · rename_i same
    cases same
    exact .letter rfl (by decide)
  · rename_i same
    cases same
    exact .letter rfl (by decide)
  · rename_i noQuote noBackslash _ _ _ _ _
    dsimp only
    by_cases printed : (0x20 ≤ (CodePoint.scalar character).value &&
        (CodePoint.scalar character).value ≤ 0x7E) = true
    · rw [if_pos printed]
      simp only [Bool.and_eq_true, decide_eq_true_eq] at printed
      by_cases marks : CodePoint.scalar character ∈ markupPoints
      · simp only [markupPoints, List.mem_cons, List.not_mem_nil, or_false, CodePoint.scalar.injEq] at marks
        rcases marks with rfl | rfl | rfl | rfl
        · exact .escape (by decide)
        · exact .escape (by decide)
        · exact .escape (by decide)
        · exact .escape (by decide)
      · rw [embedded_self (by simpa using marks)]
        exact .plain (fun same => noQuote (by rw [same])) (fun same => noBackslash (by rw [same])) printed.1
    · rw [if_neg printed]
      by_cases small : (CodePoint.scalar character).value < 0x10000
      · rw [if_pos small, escape_embedded]
        exact .escape small
      · rw [if_neg small, embedded_append, escape_embedded, escape_embedded]
        exact .pair (Nat.le_of_not_lt small)

theorem skip_over (place : Nat) (passed rest : Text) {count : Nat} (all : passed.length = count) :
    Cursor.skip ⟨place, passed ++ rest⟩ count = ⟨place + count, rest⟩ := by
  subst all
  rw [Cursor.skip, List.drop_left]

/-- An escape is the code point of its number, if its number is not the first of a pair. -/
theorem read_escape {number : Nat} (small : number < 0x10000) (alone : number < 0xD800 ∨ 0xDC00 ≤ number)
    {rest : Text} (goesOn : rest ≠ []) (start place bound : Nat) (done : Text) :
    readText start (bound + 1) ⟨place, unicodeEscape number ++ rest⟩ done =
      readText start bound ⟨place + 6, rest⟩ ((CodePoint.ofNat? number).getD default :: done) := by
  have digits := four_digits_read small rest
  have length : ¬((Text.ofChars (Text.hexDigits 4 number) ++ rest).take 5).length < 5 := by
    have more := List.length_pos_iff.mpr goesOn
    simp only [List.length_take, List.length_append, four_digits, List.length_cons, List.length_nil]
    omega
  have noPair : (decide (0xD800 ≤ number) && decide (number < 0xDC00)) = false := by
    rw [Bool.and_eq_false_iff]
    simp only [decide_eq_false_iff_not]
    omega
  have shape : unicodeEscape number ++ rest =
      .scalar '\\' :: .scalar 'u' :: (Text.ofChars (Text.hexDigits 4 number) ++ rest) := rfl
  rw [readText]
  simp only [shape]
  rw [if_neg length, digits]
  simp only [noPair, Bool.false_and]
  rfl

theorem point_of_number (character : Char) :
    CodePoint.ofNat? character.toNat = some (.scalar character) := by
  have valid : character.toNat < 0xD800 ∨ 0xDFFF < character.toNat ∧ character.toNat < 0x110000 :=
    character.valid
  rw [CodePoint.ofNat?, dif_neg (by omega), if_pos (by omega), Char.ofNat_toNat]

/-- Two escapes that make up a pair are the one character of the pair. -/
theorem read_pair {character : Char} (large : 0x10000 ≤ character.toNat) {rest : Text} (goesOn : rest ≠ [])
    (start place bound : Nat) (done : Text) :
    readText start (bound + 1) ⟨place, unicodeEscape (0xD800 + (character.toNat - 0x10000) / 0x400) ++
        unicodeEscape (0xDC00 + (character.toNat - 0x10000) % 0x400) ++ rest⟩ done =
      readText start bound ⟨place + 12, rest⟩ (.scalar character :: done) := by
  have valid : character.toNat < 0xD800 ∨ 0xDFFF < character.toNat ∧ character.toNat < 0x110000 :=
    character.valid
  obtain ⟨high, highest⟩ : ∃ high, high = 0xD800 + (character.toNat - 0x10000) / 0x400 := ⟨_, rfl⟩
  obtain ⟨low, lowest⟩ : ∃ low, low = 0xDC00 + (character.toNat - 0x10000) % 0x400 := ⟨_, rfl⟩
  rw [← highest, ← lowest]
  have highDigits := four_digits_read (show high < 0x10000 by omega) (unicodeEscape low ++ rest)
  have lowDigits := four_digits_read (show low < 0x10000 by omega) rest
  have more := List.length_pos_iff.mpr goesOn
  have shape : unicodeEscape high ++ unicodeEscape low ++ rest = .scalar '\\' :: .scalar 'u' ::
      (Text.ofChars (Text.hexDigits 4 high) ++ (unicodeEscape low ++ rest)) := by
    rw [List.append_assoc]
    rfl
  have second : unicodeEscape low ++ rest =
      .scalar '\\' :: .scalar 'u' :: (Text.ofChars (Text.hexDigits 4 low) ++ rest) := rfl
  have long : ¬((Text.ofChars (Text.hexDigits 4 high) ++ (unicodeEscape low ++ rest)).take 5).length < 5 := by
    simp only [List.length_take, List.length_append, four_digits, List.length_cons, List.length_nil]
    omega
  have after : (Text.ofChars (Text.hexDigits 4 high) ++ (unicodeEscape low ++ rest)).drop 4 =
      unicodeEscape low ++ rest := rfl
  have room : (((unicodeEscape low ++ rest).take 7).length == 7) = true := by
    simp only [second, List.length_take, List.length_cons, List.length_append, four_digits, List.length_nil,
      beq_iff_eq]
    omega
  have isHigh : (decide (0xD800 ≤ high) && decide (high < 0xDC00)) = true := by
    simp only [Bool.and_eq_true, decide_eq_true_eq]
    omega
  have isLow : (decide (0xDC00 ≤ low) && decide (low < 0xE000)) = true := by
    simp only [Bool.and_eq_true, decide_eq_true_eq]
    omega
  have whole : brokenHalf (unicodeEscape low ++ rest) = false := by
    rw [second, brokenHalf, lowDigits]
    simp
  have half : lowHalf? (unicodeEscape low ++ rest) = some low := by
    rw [second, lowHalf?, lowDigits]
    simp only [Option.bind_some, isLow, if_true]
  have number : 0x10000 + (high - 0xD800) * 0x400 + (low - 0xDC00) = character.toNat := by omega
  rw [readText]
  simp only [shape]
  rw [if_neg long, highDigits]
  simp only [after, isHigh, room, whole, half, Bool.and_false, Bool.and_true, if_true, number, point_of_number]
  rfl

namespace Form

variable {character : Char} {form : Text}

/-- A character is read where its form stands, if the text goes on. -/
theorem read (shape : Form character form) {rest : Text} (goesOn : rest ≠ []) (start place bound : Nat)
    (done : Text) :
    ∃ further, readText start (bound + 1) ⟨place, form ++ rest⟩ done =
      readText start bound ⟨further, rest⟩ (.scalar character :: done) := by
  cases shape with
  | letter means apart =>
      refine ⟨place + 2, ?_⟩
      rw [List.cons_append, List.cons_append, List.nil_append, readText]
      split
      · rename_i same
        cases same
      · rename_i same
        cases same
      · rename_i same
        cases same
      · rename_i same
        cases same
        exact absurd rfl apart
      · rename_i same
        cases same
        rw [means]
        rfl
      · rename_i other same
        cases same
        exact (other _ _ rfl rfl).elim
  | plain noQuote noBackslash printed =>
      refine ⟨place + 1, ?_⟩
      have large : ¬(CodePoint.scalar character).value < 0x20 := Nat.not_lt.mpr printed
      rw [List.cons_append, List.nil_append, readText]
      split
      · rename_i same
        cases same
      · rename_i same
        cases same
        exact absurd rfl noQuote
      · rename_i same
        cases same
        exact absurd rfl noBackslash
      · rename_i same
        cases same
        exact absurd rfl noBackslash
      · rename_i same
        cases same
        exact absurd rfl noBackslash
      · rename_i same
        cases same
        rw [if_neg large]
        rfl
  | escape small =>
      have valid : character.toNat < 0xD800 ∨ 0xDFFF < character.toNat ∧ character.toNat < 0x110000 :=
        character.valid
      refine ⟨place + 6, ?_⟩
      rw [read_escape small (by omega) goesOn, point_of_number]
      rfl
  | pair large => exact ⟨place + 12, read_pair large goesOn start place bound done⟩

theorem nonempty (shape : Form character form) : form ≠ [] := by
  cases shape with
  | letter => exact List.cons_ne_nil _ _
  | plain => exact List.cons_ne_nil _ _
  | escape => exact List.cons_ne_nil _ _
  | pair => exact List.cons_ne_nil _ _

end Form

/-- A text as it stands in a page, without its quotes. -/
def shownPoints (text : Text) : Text := text.flatMap fun point => embedded (writePoint point)

theorem shown_points_long {text : Text} (whole : text.IsWhole) : text.length ≤ (shownPoints text).length := by
  induction text with
  | nil => exact Nat.le_refl _
  | cons point text ih =>
      obtain ⟨here, others⟩ := List.forall_mem_cons.mp whole
      have below := ih others
      cases point with
      | surrogate offset => cases here
      | scalar character =>
          have more := List.length_pos_iff.mpr (point_form character).nonempty
          simp only [shownPoints, List.flatMap_cons, List.length_append, List.length_cons] at below ⊢
          omega

/-- The characters of a text are read one after another, up to the quote. -/
theorem read_shown_points {text : Text} (whole : text.IsWhole) (rest : Text) (start : Nat) {bound : Nat}
    (enough : text.length < bound) (place : Nat) (done : Text) :
    ∃ further, readText start bound ⟨place, shownPoints text ++ .scalar '"' :: rest⟩ done =
      .ok (done.reverse ++ text, ⟨further, rest⟩) := by
  induction text generalizing bound place done with
  | nil =>
      obtain ⟨bound, rfl⟩ : ∃ fewer, bound = fewer + 1 := ⟨bound - 1, by omega⟩
      refine ⟨place + 1, ?_⟩
      rw [shownPoints, List.flatMap_nil, List.nil_append, List.append_nil, readText]
      rfl
  | cons point text ih =>
      obtain ⟨here, others⟩ := List.forall_mem_cons.mp whole
      obtain ⟨bound, rfl⟩ : ∃ fewer, bound = fewer + 1 := ⟨bound - 1, by omega⟩
      rw [List.length_cons] at enough
      cases point with
      | surrogate offset => cases here
      | scalar character =>
          have goesOn : shownPoints text ++ .scalar '"' :: rest ≠ [] :=
            List.append_ne_nil_of_right_ne_nil _ (List.cons_ne_nil _ _)
          have first : shownPoints (.scalar character :: text) =
              embedded (writePoint (.scalar character)) ++ shownPoints text := rfl
          obtain ⟨next, read⟩ := (point_form character).read goesOn start place bound done
          obtain ⟨further, finished⟩ := ih others (show text.length < bound by omega) next (.scalar character :: done)
          refine ⟨further, ?_⟩
          rw [first, List.append_assoc, read, finished, List.reverse_cons, List.append_assoc]
          rfl

/-- A text as it stands in a page. -/
def shownText (text : Text) : Text := embedded (writeText text)

theorem shown_text_eq (text : Text) :
    shownText text = .scalar '"' :: (shownPoints text ++ [.scalar '"']) := by
  have points : embedded (text.flatMap writePoint) = shownPoints text := by
    rw [embedded, List.flatMap_assoc]
    rfl
  change embedded ((.scalar '"' :: text.flatMap writePoint) ++ [.scalar '"']) = _
  rw [embedded_append, ← points]
  rfl

/-- A text is read where it stands. -/
theorem read_shown_text {text : Text} (whole : text.IsWhole) (rest : Text) (start place : Nat) :
    ∃ further, readText start ((shownText text ++ rest).length + 1)
      (Cursor.skip ⟨place, shownText text ++ rest⟩ 1) [] = .ok (text, ⟨further, rest⟩) := by
  have long := shown_points_long whole
  have enough : text.length < (shownText text ++ rest).length + 1 := by
    simp only [shown_text_eq, List.length_append, List.length_cons]
    omega
  obtain ⟨further, read⟩ := read_shown_points whole rest start enough (place + 1) []
  have inside : Cursor.skip ⟨place, shownText text ++ rest⟩ 1 =
      ⟨place + 1, shownPoints text ++ .scalar '"' :: rest⟩ := by
    rw [shown_text_eq, List.cons_append, List.append_assoc]
    rfl
  refine ⟨further, ?_⟩
  rw [inside]
  exact read

end PageTemplates.Json
