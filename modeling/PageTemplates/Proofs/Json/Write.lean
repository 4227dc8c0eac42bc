import PageTemplates.Proofs.Json.Points

/-!
Documents written for pages are read back. Outside of texts no character is one that markup gives a meaning to,
so the marks of arrays and objects stand as they were written, and a document is read at the depth that it is
nested to.
-/

namespace PageTemplates.Json

/-- What can follow a value: nothing, or the mark after an item or at the end of what it stands in. -/
def Ends (rest : Text) : Prop :=
  ∀ point ∈ rest.head?, point ∈ [CodePoint.scalar ',', .scalar ']', .scalar '\x7d']

theorem Ends.digits {rest : Text} (ends : Ends rest) : leadingDigits rest = [] := by
  cases rest with
  | nil => rfl
  | cons point rest =>
      have mark := ends point rfl
      simp only [List.mem_cons, List.not_mem_nil, or_false] at mark
      rcases mark with rfl | rfl | rfl <;> rfl

section Numerals

theorem natural_digits (number : Nat) : Text.ofNat number = Text.ofChars (Nat.toDigits 10 number) := by
  rw [Text.ofNat, Text.ofString, Nat.toString_eq_ofList_toDigits, String.toList_ofList]

theorem natural_all_digits (number : Nat) :
    ∀ point ∈ Text.ofNat number, Markup.isAsciiDigit point = true := by
  intro point inside
  rw [natural_digits] at inside
  obtain ⟨character, among, rfl⟩ := List.mem_map.mp inside
  exact Nat.isDigit_of_mem_toDigits (by decide) (by decide) among

theorem natural_nonempty (number : Nat) : Text.ofNat number ≠ [] := by
  rw [natural_digits]
  exact fun empty => Nat.toDigits_ne_nil (List.map_eq_nil_iff.mp empty)

theorem natural_value (number : Nat) : Markup.readDigits 10 (Text.ofNat number) = number := by
  have folded (digits : List Char) (isDigits : ∀ digit ∈ digits, digit.isDigit = true) (start : Nat) :
      (Text.ofChars digits).foldl (fun value digit => value * 10 + Markup.digitValue digit) start =
        Nat.ofDigitChars 10 digits start := by
    induction digits generalizing start with
    | nil => rfl
    | cons digit digits ih =>
        obtain ⟨here, others⟩ := List.forall_mem_cons.mp isDigits
        have small : digit.toNat ≤ 57 := (Char.isDigit_iff_toNat.mp here).2
        have value : Markup.digitValue (.scalar digit) = digit.toNat - 48 := if_pos small
        rw [Nat.ofDigitChars_cons, ← ih others, Text.ofChars, List.map_cons, List.foldl_cons, value,
          Nat.mul_comm]
        rfl
  rw [Markup.readDigits, natural_digits, folded _ fun digit among =>
    Nat.isDigit_of_mem_toDigits (by decide) (by decide) among, Nat.ofDigitChars_ten_toDigits]

theorem natural_length {number : Nat} (few : number < Nat.pow 10 digitLimit) :
    (Text.ofNat number).length ≤ digitLimit := by
  rw [natural_digits, Text.ofChars, List.length_map]
  exact (Nat.length_toDigits_le_iff (by decide) (by decide)).mpr few

/-- Only nought is written with a nought at the start. -/
theorem natural_head {number : Nat} (positive : 0 < number) (rest : Text) :
    Text.ofNat number ≠ .scalar '0' :: rest := by
  have head (number : Nat) (positive : 0 < number) : (Nat.toDigits 10 number).head? ≠ some '0' := by
    induction number using Nat.strongRecOn with
    | ind number ih =>
        rw [Nat.toDigits_eq_if (by decide)]
        split
        · rw [List.head?_cons, ne_eq, Option.some_inj, Nat.digitChar_eq_zero]
          omega
        · rw [List.head?_append_of_ne_nil _ Nat.toDigits_ne_nil]
          exact ih (number / 10) (by omega) (by omega)
  intro starts
  apply head number positive
  rw [natural_digits, Text.ofChars] at starts
  obtain ⟨first, others, shown, same, -⟩ := List.map_eq_cons_iff.mp starts
  rw [shown, List.head?_cons, CodePoint.scalar.inj same]

end Numerals

/-- Documents that are read back as they are written: without numbers that have a fraction, with whole texts
and short whole numbers, and with each name once in an object. -/
inductive IsPlain : Json → Prop where
  | null : IsPlain .null
  | bool (value : Bool) : IsPlain (.bool value)
  | int {value : Int} (few : value.natAbs < Nat.pow 10 digitLimit) : IsPlain (.int value)
  | text {value : Text} (whole : value.IsWhole) : IsPlain (.text value)
  | array {items : List Json} (each : ∀ item ∈ items, IsPlain item) : IsPlain (.array items)
  | object {members : List (Text × Json)} (names : ∀ member ∈ members, member.1.IsWhole)
      (distinct : (members.map Prod.fst).Nodup) (each : ∀ member ∈ members, IsPlain member.2) :
      IsPlain (.object members)

mutual

/-- How deep arrays and objects lie within one another. -/
def nesting : Json → Nat
  | .array items => nestingOf items + 1
  | .object members => nestingIn members + 1
  | _ => 0

/-- The deepest nesting of items. -/
def nestingOf : List Json → Nat
  | [] => 0
  | item :: items => max (nesting item) (nestingOf items)

/-- The deepest nesting of members. -/
def nestingIn : List (Text × Json) → Nat
  | [] => 0
  | (_, value) :: members => max (nesting value) (nestingIn members)

end

section Shown

/-- A document as it stands in a page. -/
def shown (document : Json) : Text := embedded (write document)

/-- The items behind the first one. -/
def shownItems (items : List Json) : Text := embedded (writeItems .line 0 items)

/-- The members behind the first one. -/
def shownMembers (members : List (Text × Json)) : Text := embedded (writeMembers .line 0 members)

mutual

theorem write_at_level (level : Nat) (document : Json) : writeAt .line level document = write document := by
  cases document with
  | array items =>
      cases items with
      | nil => rfl
      | cons item items =>
          simp only [write, writeAt, Layout.break, write_at_level (level + 1) item, write_at_level 1 item,
            write_items_level (level + 1) items, write_items_level 1 items]
  | object members =>
      rcases members with _ | ⟨⟨name, value⟩, members⟩
      · rfl
      · simp only [write, writeAt, Layout.break, write_at_level (level + 1) value, write_at_level 1 value,
          write_members_level (level + 1) members, write_members_level 1 members]
  | _ => rfl

theorem write_items_level (level : Nat) (items : List Json) :
    writeItems .line level items = writeItems .line 0 items := by
  cases items with
  | nil => rfl
  | cons item items =>
      simp only [writeItems, Layout.between, write_at_level level item, write_at_level 0 item,
        write_items_level level items]

theorem write_members_level (level : Nat) (members : List (Text × Json)) :
    writeMembers .line level members = writeMembers .line 0 members := by
  rcases members with _ | ⟨⟨name, value⟩, members⟩
  · rfl
  · simp only [writeMembers, Layout.between, write_at_level level value, write_at_level 0 value,
      write_members_level level members]

end

theorem shown_array (item : Json) (items : List Json) :
    shown (.array (item :: items)) = .scalar '[' :: (shown item ++ (shownItems items ++ [.scalar ']'])) := by
  have opening : embedded "[" = [.scalar '['] := rfl
  have closing : embedded "]" = [.scalar ']'] := rfl
  rw [shown, write, writeAt]
  simp only [Layout.break, List.append_nil, embedded_append, write_at_level, write_items_level 1, opening,
    closing, List.append_assoc]
  rfl

theorem shown_items_cons (item : Json) (items : List Json) :
    shownItems (item :: items) = .scalar ',' :: .scalar ' ' :: (shown item ++ shownItems items) := by
  have comma : embedded ", " = [.scalar ',', .scalar ' '] := rfl
  rw [shownItems, writeItems]
  simp only [Layout.between, embedded_append, write_at_level, comma, List.append_assoc]
  rfl

theorem shown_object (name : Text) (value : Json) (members : List (Text × Json)) :
    shown (.object ((name, value) :: members)) =
      .scalar '\x7b' :: (shownText name ++ .scalar ':' :: .scalar ' ' ::
        (shown value ++ (shownMembers members ++ [.scalar '\x7d']))) := by
  have opening : embedded "\x7b" = [.scalar '\x7b'] := rfl
  have closing : embedded "\x7d" = [.scalar '\x7d'] := rfl
  have colon : embedded ": " = [.scalar ':', .scalar ' '] := rfl
  rw [shown, write, writeAt]
  simp only [Layout.break, List.append_nil, embedded_append, write_at_level, write_members_level 1, opening,
    closing, colon, List.append_assoc]
  rfl

theorem shown_members_cons (name : Text) (value : Json) (members : List (Text × Json)) :
    shownMembers ((name, value) :: members) =
      .scalar ',' :: .scalar ' ' :: (shownText name ++ .scalar ':' :: .scalar ' ' ::
        (shown value ++ shownMembers members)) := by
  have comma : embedded ", " = [.scalar ',', .scalar ' '] := rfl
  have colon : embedded ": " = [.scalar ':', .scalar ' '] := rfl
  rw [shownMembers, writeMembers]
  simp only [Layout.between, embedded_append, write_at_level, comma, colon, List.append_assoc]
  rfl

theorem shown_natural (number : Nat) : embedded (Text.ofNat number) = Text.ofNat number := by
  apply embedded_self
  intro point inside
  have digit := natural_all_digits number point inside
  simp only [markupPoints, List.mem_cons, List.not_mem_nil, or_false]
  rintro (rfl | rfl | rfl | rfl) <;> cases digit

theorem of_int_negative (number : Nat) :
    Text.ofInt (Int.negSucc number) = .scalar '-' :: Text.ofNat (number + 1) := by
  have written : toString (Int.negSucc number) = "-" ++ toString (number + 1) := rfl
  rw [Text.ofInt, written, Text.ofString, String.toList_append]
  rfl

theorem shown_negative (number : Nat) :
    shown (.int (Int.negSucc number)) = .scalar '-' :: Text.ofNat (number + 1) := by
  change embedded (Text.ofInt (Int.negSucc number)) = _
  rw [of_int_negative, embedded, List.flatMap_cons]
  exact congrArg (CodePoint.scalar '-' :: ·) (shown_natural (number + 1))

end Shown

section Numbers

variable {number : Nat} {rest : Text}

theorem natural_starts (number : Nat) :
    ∃ first more, Text.ofNat number = first :: more ∧ Markup.isAsciiDigit first = true := by
  obtain ⟨first, more, starts⟩ := List.exists_cons_of_ne_nil (natural_nonempty number)
  exact ⟨first, more, starts, natural_all_digits number first (starts ▸ List.mem_cons_self)⟩

theorem exponent_absent (ends : Ends rest) : exponentPart rest = (0, 0) := by
  cases rest with
  | nil => rfl
  | cons point rest =>
      have mark := ends point rfl
      simp only [List.mem_cons, List.not_mem_nil, or_false] at mark
      rcases mark with rfl | rfl | rfl <;> rfl

/-- Digits are read where they stand, behind a sign or not. -/
theorem read_digits (few : number < Nat.pow 10 digitLimit) (ends : Ends rest) {cursor : Cursor} {negative : Bool}
    (signed : cursor.rest = (if negative then [.scalar '-'] else []) ++ (Text.ofNat number ++ rest)) :
    readNumber cursor = .ok (.int (if negative then -Int.ofNat number else Int.ofNat number),
      cursor.skip ((if negative then 1 else 0) + (Text.ofNat number).length)) := by
  obtain ⟨first, more, starts, digit⟩ := natural_starts number
  have length := natural_length few
  unfold readNumber
  split
  rename_i sign unsigned parted
  have same : sign = negative ∧ unsigned = Text.ofNat number ++ rest := by
    split at parted
    · rename_i same
      cases parted
      rw [signed] at same
      cases negative with
      | true => exact ⟨rfl, (List.cons.inj same).2.symm⟩
      | false =>
          rw [starts] at same
          cases same
          cases digit
    · rename_i unsigned_so
      cases parted
      cases negative with
      | true => exact absurd signed (unsigned_so _)
      | false => exact ⟨rfl, signed⟩
  obtain ⟨rfl, rfl⟩ := same
  extract_lets whole signLength afterWhole fraction fractionLength
  have all : whole = Text.ofNat number := by
    unfold whole
    split
    · rename_i zero
      rcases Nat.eq_zero_or_pos number with rfl | positive
      · rfl
      · rw [starts, List.cons_append] at zero
        cases zero
        exact absurd starts (natural_head positive more)
    · rw [leadingDigits, List.takeWhile_append_of_pos (natural_all_digits number), ← leadingDigits, ends.digits,
        List.append_nil]
  have behind : afterWhole = rest := by
    unfold afterWhole
    rw [all, List.drop_left]
  have noFraction : fraction = [] := by
    unfold fraction
    rw [behind]
    split
    · have mark := ends _ rfl
      exact absurd mark (by decide)
    · rfl
  have noLength : fractionLength = 0 := by
    unfold fractionLength
    rw [noFraction]
    rfl
  have someDigits : (Text.ofNat number).isEmpty = false := by
    rw [starts]
    rfl
  have noMore : exponentPart (afterWhole.drop fractionLength) = (0, 0) := by
    rw [behind, noLength, List.drop_zero]
    exact exponent_absent ends
  have value : Markup.readDigits 10 whole = number := by rw [all, natural_value]
  have decided : ((0 : Nat) == 0 && (0 : Nat) == 0) = true := rfl
  rw [all, someDigits, if_neg Bool.false_ne_true, noMore]
  dsimp only
  rw [noLength, if_pos decided, if_neg (Nat.not_lt.mpr length)]
  change Except.ok (Json.int (if sign then -Int.ofNat (Markup.readDigits 10 whole)
    else Int.ofNat (Markup.readDigits 10 whole)), _) = _
  rw [value]
  rfl

/-- A whole number is read where it stands. -/
theorem read_whole {value : Int} (few : value.natAbs < Nat.pow 10 digitLimit) (ends : Ends rest) (place : Nat) :
    ∃ further, readNumber ⟨place, shown (.int value) ++ rest⟩ = .ok (.int value, ⟨further, rest⟩) := by
  cases value with
  | ofNat number =>
      have form : shown (.int (Int.ofNat number)) = Text.ofNat number := shown_natural number
      have long : (shown (.int (Int.ofNat number))).length =
          (if false = true then 1 else 0) + (Text.ofNat number).length := by
        rw [form]
        simp
      rw [@read_digits number rest few ends ⟨place, shown (.int (Int.ofNat number)) ++ rest⟩ false
        (by rw [form]; rfl), skip_over place _ rest long]
      exact ⟨_, rfl⟩
  | negSucc number =>
      have form := shown_negative number
      have long : (shown (.int (Int.negSucc number))).length =
          (if true = true then 1 else 0) + (Text.ofNat (number + 1)).length := by
        rw [form, List.length_cons, if_pos rfl]
        omega
      rw [@read_digits (number + 1) rest few ends ⟨place, shown (.int (Int.negSucc number)) ++ rest⟩ true
        (by rw [form]; rfl), skip_over place _ rest long]
      exact ⟨_, rfl⟩

end Numbers

section Documents

/-- What no document starts with, besides blanks: the end of an array, and the mark of an encoding. -/
def strangePoints : List CodePoint := [.scalar ']', .scalar '\uFEFF']

theorem digit_apart {point : CodePoint} (digit : Markup.isAsciiDigit point = true) :
    isJsonBlank point = false ∧ point ∉ strangePoints := by
  constructor
  · by_contra blank
    simp only [isJsonBlank, Bool.not_eq_false, Bool.or_eq_true, decide_eq_true_eq] at blank
    rcases blank with ((rfl | rfl) | rfl) | rfl <;> cases digit
  · intro member
    simp only [strangePoints, List.mem_cons, List.not_mem_nil, or_false] at member
    rcases member with rfl | rfl <;> cases digit

theorem shown_int_starts (value : Int) :
    ∃ first more, shown (.int value) = first :: more ∧
      (first = .scalar '-' ∨ Markup.isAsciiDigit first = true) := by
  cases value with
  | ofNat number =>
      obtain ⟨first, more, starts, digit⟩ := natural_starts number
      exact ⟨first, more, (shown_natural number).trans starts, .inr digit⟩
  | negSucc number => exact ⟨_, _, shown_negative number, .inl rfl⟩

theorem opening_none {point first : CodePoint} {name rest : Text} (apart : point ≠ first) :
    Text.dropOpening? (point :: name) (first :: rest) = none := by
  rw [Text.dropOpening?, if_neg apart]

theorem constant_none {text : Text}
    (apart : ∀ name ∈ constants.map Prod.fst, Text.dropOpening? (Text.ofString name) text = none) :
    constant? text = none := by
  rw [constant?, List.findSome?_eq_none_iff]
  rintro ⟨name, value⟩ member
  have absent := apart name (List.mem_map.mpr ⟨(name, value), member, rfl⟩)
  dsimp only
  rw [absent]
  rfl

/-- No name of a constant is read where a whole number stands. -/
theorem constant_of_int (value : Int) (rest : Text) : constant? (shown (.int value) ++ rest) = none := by
  have names : constants.map Prod.fst = ["null", "true", "false", "NaN", "Infinity", "-Infinity"] := rfl
  apply constant_none
  rw [names]
  have letters : ∀ {first : CodePoint} {more : Text}, first ∉ [CodePoint.scalar 'n', .scalar 't', .scalar 'f',
      .scalar 'N', .scalar 'I'] → ∀ name ∈ ["null", "true", "false", "NaN", "Infinity"],
        Text.dropOpening? (Text.ofString name) (first :: more) = none := by
    intro first more apart
    simp only [List.mem_cons, List.not_mem_nil, or_false, not_or] at apart
    obtain ⟨null, yes, no, odd, endless⟩ := apart
    simp only [List.forall_mem_cons]
    exact ⟨opening_none (Ne.symm null), opening_none (Ne.symm yes), opening_none (Ne.symm no),
      opening_none (Ne.symm odd), opening_none (Ne.symm endless), List.forall_mem_nil _⟩
  have split : ∀ {text : Text}, (∀ name ∈ ["null", "true", "false", "NaN", "Infinity"],
      Text.dropOpening? (Text.ofString name) text = none) →
      Text.dropOpening? (Text.ofString "-Infinity") text = none →
      ∀ name ∈ ["null", "true", "false", "NaN", "Infinity", "-Infinity"],
        Text.dropOpening? (Text.ofString name) text = none := by
    intro text others last
    exact @List.forall_mem_append _ _ ["null", "true", "false", "NaN", "Infinity"] ["-Infinity"] |>.mpr
      ⟨others, List.forall_mem_singleton.mpr last⟩
  cases value with
  | ofNat number =>
      obtain ⟨first, more, starts, digit⟩ := natural_starts number
      rw [show shown (.int (Int.ofNat number)) = _ from (shown_natural number).trans starts, List.cons_append]
      refine split (letters ?_) (opening_none ?_)
      · intro member
        simp only [List.mem_cons, List.not_mem_nil, or_false] at member
        rcases member with rfl | rfl | rfl | rfl | rfl <;> cases digit
      · rintro rfl
        cases digit
  | negSucc number =>
      obtain ⟨first, more, starts, digit⟩ := natural_starts (number + 1)
      rw [shown_negative, starts, List.cons_append, List.cons_append]
      refine split (letters (by decide)) ?_
      have passed : Text.dropOpening? (Text.ofString "-Infinity") (.scalar '-' :: first :: (more ++ rest)) =
          Text.dropOpening? (Text.ofString "Infinity") (first :: (more ++ rest)) := rfl
      rw [passed]
      apply opening_none
      rintro rfl
      cases digit

/-- A document starts with something of its own. -/
theorem shown_starts {document : Json} (plain : document.IsPlain) :
    ∃ first more, shown document = first :: more ∧ isJsonBlank first = false ∧ first ∉ strangePoints := by
  cases plain with
  | null => exact ⟨_, _, rfl, by decide, by decide⟩
  | bool value => cases value <;> exact ⟨_, _, rfl, by decide, by decide⟩
  | text whole => exact ⟨_, _, shown_text_eq _, by decide, by decide⟩
  | array each =>
      rename_i items
      cases items with
      | nil => exact ⟨_, _, rfl, by decide, by decide⟩
      | cons item items => exact ⟨_, _, shown_array item items, by decide, by decide⟩
  | object names distinct each =>
      rename_i members
      rcases members with _ | ⟨⟨name, value⟩, members⟩
      · exact ⟨_, _, rfl, by decide, by decide⟩
      · exact ⟨_, _, shown_object name value members, by decide, by decide⟩
  | int few =>
      obtain ⟨first, more, starts, numeral⟩ := shown_int_starts _
      refine ⟨first, more, starts, ?_⟩
      rcases numeral with rfl | digit
      · exact ⟨by decide, by decide⟩
      · exact digit_apart digit

theorem skip_no_blanks {first : CodePoint} (solid : isJsonBlank first = false) (place : Nat) (more : Text) :
    Cursor.skipBlanks ⟨place, first :: more⟩ = ⟨place, first :: more⟩ := by
  rw [Cursor.skipBlanks, List.takeWhile_cons_of_neg (by simpa using solid)]
  rfl

/-- The blank behind a comma or a colon is passed. -/
theorem skip_one_blank {first : CodePoint} (solid : isJsonBlank first = false) (place : Nat) (mark : CodePoint)
    (more : Text) : (Cursor.skip ⟨place, mark :: .scalar ' ' :: first :: more⟩ 1).skipBlanks =
      ⟨place + 2, first :: more⟩ := by
  change Cursor.skip ⟨place + 1, .scalar ' ' :: first :: more⟩
    (List.takeWhile isJsonBlank (.scalar ' ' :: first :: more)).length = _
  rw [List.takeWhile_cons_of_pos (by decide), List.takeWhile_cons_of_neg (by simpa using solid)]
  rfl

theorem read_value_number {room bound : Nat} {cursor : Cursor} {first : CodePoint} {more : Text}
    (starts : cursor.rest = first :: more) (apart : first ∉ [CodePoint.scalar '"', .scalar '[', .scalar '\x7b'])
    (unnamed : constant? cursor.rest = none) : readValue room (bound + 1) cursor = readNumber cursor := by
  simp only [List.mem_cons, List.not_mem_nil, or_false, not_or] at apart
  obtain ⟨quote, bracket, brace⟩ := apart
  rw [readValue]
  split
  · rename_i same
    cases starts.symm.trans same
    exact absurd rfl quote
  · rename_i same
    cases starts.symm.trans same
    exact absurd rfl bracket
  · rename_i same
    cases starts.symm.trans same
    exact absurd rfl brace
  · rw [unnamed]

theorem read_int {value : Int} (few : value.natAbs < Nat.pow 10 digitLimit) {rest : Text} (ends : Ends rest)
    (room bound place : Nat) :
    ∃ further, readValue room (bound + 1) ⟨place, shown (.int value) ++ rest⟩ =
      .ok (.int value, ⟨further, rest⟩) := by
  obtain ⟨first, more, starts, numeral⟩ := shown_int_starts value
  have apart : first ∉ [CodePoint.scalar '"', .scalar '[', .scalar '\x7b'] := by
    rcases numeral with rfl | digit
    · decide
    · intro member
      simp only [List.mem_cons, List.not_mem_nil, or_false] at member
      rcases member with rfl | rfl | rfl <;> cases digit
  have begins : shown (.int value) ++ rest = first :: (more ++ rest) := by rw [starts, List.cons_append]
  rw [read_value_number begins apart (constant_of_int value rest)]
  exact read_whole few ends place

theorem read_constant {document : Json} (constant : document = .null ∨ ∃ value, document = .bool value)
    (rest : Text) (room bound place : Nat) :
    ∃ further, readValue room (bound + 1) ⟨place, shown document ++ rest⟩ = .ok (document, ⟨further, rest⟩) := by
  rcases constant with rfl | ⟨value, rfl⟩
  · exact ⟨_, rfl⟩
  · cases value with
    | true => exact ⟨_, rfl⟩
    | false => exact ⟨_, rfl⟩

theorem read_text {value : Text} (whole : value.IsWhole) (rest : Text) (room bound place : Nat) :
    ∃ further, readValue room (bound + 1) ⟨place, shownText value ++ rest⟩ =
      .ok (.text value, ⟨further, rest⟩) := by
  obtain ⟨further, read⟩ := read_shown_text whole rest place place
  have starts : shownText value ++ rest = .scalar '"' :: (shownPoints value ++ [.scalar '"'] ++ rest) := by
    rw [shown_text_eq, List.cons_append]
  refine ⟨further, ?_⟩
  rw [readValue]
  split
  · dsimp only
    rw [read]
    rfl
  · rename_i same
    cases starts.symm.trans same
  · rename_i same
    cases starts.symm.trans same
  · rename_i quoted _ _
    exact (quoted _ starts).elim

/-- An array is read when its items are. -/
theorem read_array {item : Json} {items : List Json} (plain : item.IsPlain) {room bound place : Nat}
    {rest : Text} {result : Except Fault (Json × Cursor)}
    (read : readItems room bound ⟨place + 1, shown item ++ (shownItems items ++ .scalar ']' :: rest)⟩ [] =
      result) :
    readValue (room + 1) (bound + 1) ⟨place, shown (.array (item :: items)) ++ rest⟩ = result := by
  obtain ⟨first, more, starts, solid, apart⟩ := shown_starts plain
  have form : shown (.array (item :: items)) ++ rest =
      .scalar '[' :: (shown item ++ (shownItems items ++ .scalar ']' :: rest)) := by
    rw [shown_array]
    simp
  have inner : (Cursor.skip ⟨place, shown (.array (item :: items)) ++ rest⟩ 1).skipBlanks =
      ⟨place + 1, shown item ++ (shownItems items ++ .scalar ']' :: rest)⟩ := by
    rw [form, Cursor.skip, List.drop_succ_cons, List.drop_zero, starts, List.cons_append]
    exact skip_no_blanks solid _ _
  rw [readValue]
  split
  · rename_i same
    cases form.symm.trans same
  · rw [if_neg (Nat.succ_ne_zero room)]
    dsimp only
    rw [inner]
    dsimp only
    split
    · rename_i same
      rw [starts, List.cons_append] at same
      cases same
      exact absurd (by decide) apart
    · exact read
  · rename_i same
    cases form.symm.trans same
  · rename_i _ bracket _
    exact (bracket _ form).elim

/-- An object is read when its members are. -/
theorem read_object {name : Text} {value : Json} {members : List (Text × Json)} {room bound place : Nat}
    {rest : Text} {result : Except Fault (Json × Cursor)}
    (read : readMembers room bound ⟨place + 1, shownText name ++ .scalar ':' :: .scalar ' ' ::
      (shown value ++ (shownMembers members ++ .scalar '\x7d' :: rest))⟩ [] = result) :
    readValue (room + 1) (bound + 1) ⟨place, shown (.object ((name, value) :: members)) ++ rest⟩ = result := by
  have form : shown (.object ((name, value) :: members)) ++ rest =
      .scalar '\x7b' :: (shownText name ++ .scalar ':' :: .scalar ' ' ::
        (shown value ++ (shownMembers members ++ .scalar '\x7d' :: rest))) := by
    rw [shown_object]
    simp
  have quoted := shown_text_eq name
  have inner : (Cursor.skip ⟨place, shown (.object ((name, value) :: members)) ++ rest⟩ 1).skipBlanks =
      ⟨place + 1, shownText name ++ .scalar ':' :: .scalar ' ' ::
        (shown value ++ (shownMembers members ++ .scalar '\x7d' :: rest))⟩ := by
    rw [form, Cursor.skip, List.drop_succ_cons, List.drop_zero, quoted, List.cons_append]
    exact skip_no_blanks (by decide) _ _
  rw [readValue]
  split
  · rename_i same
    cases form.symm.trans same
  · rename_i same
    cases form.symm.trans same
  · rw [if_neg (Nat.succ_ne_zero room)]
    dsimp only
    rw [inner]
    dsimp only
    split
    · rename_i same
      rw [quoted, List.cons_append] at same
      cases same
    · exact read
  · rename_i _ _ brace
    exact (brace _ form).elim

theorem put_member_fresh {name : Text} {members : List (Text × Json)} (fresh : name ∉ members.map Prod.fst)
    (value : Json) : putMember name value members = members ++ [(name, value)] := by
  induction members with
  | nil => rfl
  | cons member rest ih =>
      obtain ⟨other, old⟩ := member
      rw [List.map_cons, List.mem_cons, not_or] at fresh
      rw [putMember, if_neg (Ne.symm fresh.1), ih fresh.2]
      rfl

theorem put_members_fresh {members so : List (Text × Json)} (apart : ((so ++ members).map Prod.fst).Nodup) :
    members.foldl (fun done member => putMember member.1 member.2 done) so = so ++ members := by
  induction members generalizing so with
  | nil => rw [List.foldl_nil, List.append_nil]
  | cons member rest ih =>
      have fresh : member.1 ∉ so.map Prod.fst := by
        rw [List.map_append, List.nodup_append] at apart
        exact fun there => apart.2.2 member.1 there member.1 (by simp) rfl
      rw [List.foldl_cons, put_member_fresh fresh, ih (by simpa using apart)]
      simp

/-- Members with different names are collected as they are. -/
theorem collect_distinct {members : List (Text × Json)} (distinct : (members.map Prod.fst).Nodup) :
    collectMembers members = members := put_members_fresh distinct

section Parts

variable {room bound place further : Nat} {item next value : Json} {items done : List Json} {rest : Text}
  {name : Text} {members earlier : List (Text × Json)}

theorem read_last_item
    (read : readValue room bound ⟨place, shown item ++ .scalar ']' :: rest⟩ =
      .ok (item, ⟨further, .scalar ']' :: rest⟩)) :
    readItems room (bound + 1) ⟨place, shown item ++ (shownItems [] ++ .scalar ']' :: rest)⟩ done =
      .ok (.array (done.reverse ++ [item]), ⟨further + 1, rest⟩) := by
  have none : shownItems [] = [] := rfl
  rw [none, List.nil_append, readItems, read]
  dsimp only [bind, Except.bind]
  rw [skip_no_blanks (by decide)]
  dsimp only
  rw [List.reverse_cons]
  rfl

theorem read_next_item (plain : next.IsPlain)
    (read : readValue room bound ⟨place, shown item ++ (shownItems (next :: items) ++ .scalar ']' :: rest)⟩ =
      .ok (item, ⟨further, shownItems (next :: items) ++ .scalar ']' :: rest⟩)) :
    readItems room (bound + 1) ⟨place, shown item ++ (shownItems (next :: items) ++ .scalar ']' :: rest)⟩ done =
      readItems room bound ⟨further + 2, shown next ++ (shownItems items ++ .scalar ']' :: rest)⟩
        (item :: done) := by
  obtain ⟨first, more, starts, solid, -⟩ := shown_starts plain
  have form : shownItems (next :: items) ++ .scalar ']' :: rest =
      .scalar ',' :: .scalar ' ' :: first :: (more ++ (shownItems items ++ .scalar ']' :: rest)) := by
    rw [shown_items_cons, starts]
    simp
  rw [readItems, read, form]
  dsimp only [bind, Except.bind]
  rw [skip_no_blanks (by decide)]
  dsimp only
  rw [skip_one_blank solid, starts, List.cons_append]
  rfl

/-- A member is read: at the end of the object, or up to the next one. -/
theorem read_member (plain : value.IsPlain) (whole : name.IsWhole)
    (read : ∀ place, ∃ further, readValue room bound ⟨place, shown value ++ rest⟩ =
      .ok (value, ⟨further, rest⟩)) :
    ∃ further,
      (∀ more, rest = .scalar '\x7d' :: more → readMembers room (bound + 1)
          ⟨place, shownText name ++ .scalar ':' :: .scalar ' ' :: (shown value ++ rest)⟩ earlier =
        .ok (.object (collectMembers ((name, value) :: earlier).reverse), ⟨further + 1, more⟩)) ∧
      ∀ first more, rest = .scalar ',' :: .scalar ' ' :: first :: more → isJsonBlank first = false →
        readMembers room (bound + 1)
          ⟨place, shownText name ++ .scalar ':' :: .scalar ' ' :: (shown value ++ rest)⟩ earlier =
        readMembers room bound ⟨further + 2, first :: more⟩ ((name, value) :: earlier) := by
  obtain ⟨initial, others, starts, solid, -⟩ := shown_starts plain
  obtain ⟨behind, named⟩ := read_shown_text whole (.scalar ':' :: .scalar ' ' :: (shown value ++ rest)) place place
  obtain ⟨further, valued⟩ := read (behind + 2)
  have colon : Cursor.skipBlanks ⟨behind, .scalar ':' :: .scalar ' ' :: (shown value ++ rest)⟩ =
      ⟨behind, .scalar ':' :: .scalar ' ' :: (shown value ++ rest)⟩ := skip_no_blanks (by decide) _ _
  have inner : (Cursor.skip ⟨behind, .scalar ':' :: .scalar ' ' :: (shown value ++ rest)⟩ 1).skipBlanks =
      ⟨behind + 2, shown value ++ rest⟩ := by
    rw [starts, List.cons_append]
    exact skip_one_blank solid _ _ _
  have quoted : shownText name ++ .scalar ':' :: .scalar ' ' :: (shown value ++ rest) =
      .scalar '"' :: (shownPoints name ++ [.scalar '"'] ++ .scalar ':' :: .scalar ' ' :: (shown value ++ rest)) := by
    rw [shown_text_eq, List.cons_append]
  refine ⟨further, fun more ended => ?_, fun first more goesOn solid => ?_⟩
  · rw [readMembers]
    split
    · dsimp only
      rw [named]
      dsimp only [bind, Except.bind]
      rw [colon]
      dsimp only
      rw [inner, valued, ended]
      dsimp only
      rw [skip_no_blanks (by decide)]
      rfl
    · rename_i other
      exact (other _ quoted).elim
  · rw [readMembers]
    split
    · dsimp only
      rw [named]
      dsimp only [bind, Except.bind]
      rw [colon]
      dsimp only
      rw [inner, valued, goesOn]
      dsimp only
      rw [skip_no_blanks (by decide)]
      dsimp only
      rw [skip_one_blank solid]
      rfl
    · rename_i other
      exact (other _ quoted).elim

theorem read_last_member (plain : value.IsPlain) (whole : name.IsWhole)
    (read : ∀ place, ∃ further, readValue room bound ⟨place, shown value ++ .scalar '\x7d' :: rest⟩ =
      .ok (value, ⟨further, .scalar '\x7d' :: rest⟩)) :
    ∃ further, readMembers room (bound + 1) ⟨place, shownText name ++ .scalar ':' :: .scalar ' ' ::
        (shown value ++ (shownMembers [] ++ .scalar '\x7d' :: rest))⟩ earlier =
      .ok (.object (collectMembers (earlier.reverse ++ [(name, value)])), ⟨further, rest⟩) := by
  obtain ⟨further, closed, -⟩ := @read_member room bound place value _ name earlier plain whole read
  refine ⟨further + 1, (closed rest rfl).trans ?_⟩
  rw [List.reverse_cons]

theorem read_next_member (plain : value.IsPlain) (whole : name.IsWhole) {second : Text}
    (read : ∀ place, ∃ further,
      readValue room bound ⟨place, shown value ++ (shownMembers ((second, next) :: members) ++ rest)⟩ =
        .ok (value, ⟨further, shownMembers ((second, next) :: members) ++ rest⟩)) :
    ∃ further, readMembers room (bound + 1) ⟨place, shownText name ++ .scalar ':' :: .scalar ' ' ::
        (shown value ++ (shownMembers ((second, next) :: members) ++ rest))⟩ earlier =
      readMembers room bound ⟨further, shownText second ++ .scalar ':' :: .scalar ' ' ::
        (shown next ++ (shownMembers members ++ rest))⟩ ((name, value) :: earlier) := by
  obtain ⟨further, -, following⟩ := @read_member room bound place value _ name earlier plain whole read
  have quoted : shownText second ++ .scalar ':' :: .scalar ' ' :: (shown next ++ (shownMembers members ++ rest)) =
      .scalar '"' :: (shownPoints second ++ [.scalar '"'] ++
        .scalar ':' :: .scalar ' ' :: (shown next ++ (shownMembers members ++ rest))) := by
    rw [shown_text_eq, List.cons_append]
  refine ⟨further + 2, ?_⟩
  rw [quoted]
  apply following _ _ _ (by decide)
  rw [← quoted, shown_members_cons]
  simp

end Parts

theorem shown_some {document : Json} (plain : document.IsPlain) : 0 < (shown document).length := by
  obtain ⟨first, more, starts, -⟩ := shown_starts plain
  rw [starts, List.length_cons]
  exact Nat.succ_pos _

/-- What is written is read back, with room for its nesting and steps for its length. -/
theorem read_back (bound : Nat) :
    (∀ room document rest place, IsPlain document → nesting document ≤ room →
        2 * (shown document).length ≤ bound → Ends rest →
      ∃ further, readValue room bound ⟨place, shown document ++ rest⟩ = .ok (document, ⟨further, rest⟩)) ∧
    (∀ room item items rest place done, (∀ part ∈ item :: items, IsPlain part) →
        nestingOf (item :: items) ≤ room → 2 * (shown item ++ shownItems items).length < bound →
      ∃ further, readItems room bound ⟨place, shown item ++ (shownItems items ++ .scalar ']' :: rest)⟩ done =
        .ok (.array (done.reverse ++ item :: items), ⟨further, rest⟩)) ∧
    (∀ room name value members rest place earlier,
        (∀ member ∈ (name, value) :: members, member.1.IsWhole) →
        (∀ member ∈ (name, value) :: members, IsPlain member.2) →
        nestingIn ((name, value) :: members) ≤ room →
        2 * (shown value ++ shownMembers members).length < bound →
      ∃ further, readMembers room bound ⟨place, shownText name ++ .scalar ':' :: .scalar ' ' ::
          (shown value ++ (shownMembers members ++ .scalar '\x7d' :: rest))⟩ earlier =
        .ok (.object (collectMembers (earlier.reverse ++ (name, value) :: members)), ⟨further, rest⟩)) := by
  induction bound with
  | zero =>
      refine ⟨fun _ document _ _ plain _ enough _ => ?_, fun _ _ _ _ _ _ _ _ enough => ?_,
        fun _ _ _ _ _ _ _ _ _ _ enough => ?_⟩
      · have long := shown_some plain
        omega
      · exact absurd enough (Nat.not_lt_zero _)
      · exact absurd enough (Nat.not_lt_zero _)
  | succ bound ih =>
      obtain ⟨values, items, members⟩ := ih
      refine ⟨fun room document rest place plain fits enough ends => ?value,
        fun room item more rest place done plain fits enough => ?items,
        fun room name value more rest place earlier names plain fits enough => ?members⟩
      case value =>
        cases plain with
        | null => exact read_constant (.inl rfl) rest room bound place
        | bool value => exact read_constant (.inr ⟨value, rfl⟩) rest room bound place
        | int few => exact read_int few ends room bound place
        | text whole => exact read_text whole rest room bound place
        | @array parts each =>
            obtain ⟨room, rfl⟩ : ∃ less, room = less + 1 := ⟨room - 1, by rw [nesting] at fits; omega⟩
            rw [nesting] at fits
            cases parts with
            | nil => exact ⟨_, rfl⟩
            | cons item more =>
                rw [shown_array] at enough
                simp only [List.length_cons, List.length_append, List.length_nil] at enough
                obtain ⟨further, read⟩ := items room item more rest (place + 1) [] each (by omega)
                  (by rw [List.length_append]; omega)
                exact ⟨further, read_array (each item List.mem_cons_self) read⟩
        | @object parts names distinct each =>
            obtain ⟨room, rfl⟩ : ∃ less, room = less + 1 := ⟨room - 1, by rw [nesting] at fits; omega⟩
            rw [nesting] at fits
            rcases parts with _ | ⟨⟨name, value⟩, more⟩
            · exact ⟨_, rfl⟩
            · rw [shown_object] at enough
              simp only [List.length_cons, List.length_append, List.length_nil] at enough
              obtain ⟨further, read⟩ := members room name value more rest (place + 1) [] names each (by omega)
                (by rw [List.length_append]; omega)
              rw [List.reverse_nil, List.nil_append, collect_distinct distinct] at read
              exact ⟨further, read_object read⟩
      case items =>
        rw [List.length_append] at enough
        obtain ⟨here, others⟩ := List.forall_mem_cons.mp plain
        rw [nestingOf] at fits
        cases more with
        | nil =>
            obtain ⟨further, read⟩ := values room item (.scalar ']' :: rest) place here (by omega) (by omega)
              (by simp [Ends])
            exact ⟨further + 1, read_last_item read⟩
        | cons next more =>
            obtain ⟨further, read⟩ := values room item (shownItems (next :: more) ++ .scalar ']' :: rest) place
              here (by omega) (by omega) (by simp [Ends, shown_items_cons])
            rw [shown_items_cons] at enough
            simp only [List.length_cons, List.length_append] at enough
            obtain ⟨end_, finished⟩ := items room next more rest (further + 2) (item :: done) others (by omega)
              (by rw [List.length_append]; omega)
            refine ⟨end_, (read_next_item (others next List.mem_cons_self) read).trans (finished.trans ?_)⟩
            simp
      case members =>
        rw [List.length_append] at enough
        obtain ⟨hereNamed, othersNamed⟩ := List.forall_mem_cons.mp names
        obtain ⟨here, others⟩ := List.forall_mem_cons.mp plain
        rw [nestingIn] at fits
        rcases more with _ | ⟨⟨second, next⟩, more⟩
        · have valued : ∀ place, ∃ further, readValue room bound ⟨place, shown value ++ .scalar '\x7d' :: rest⟩ =
              .ok (value, ⟨further, .scalar '\x7d' :: rest⟩) := fun place =>
            values room value (.scalar '\x7d' :: rest) place here (by omega) (by omega) (by simp [Ends])
          exact read_last_member here hereNamed valued
        · have valued : ∀ place, ∃ further, readValue room bound
              ⟨place, shown value ++ (shownMembers ((second, next) :: more) ++ .scalar '\x7d' :: rest)⟩ =
              .ok (value, ⟨further, shownMembers ((second, next) :: more) ++ .scalar '\x7d' :: rest⟩) :=
            fun place => values room value _ place here (by omega) (by omega) (by simp [Ends, shown_members_cons])
          obtain ⟨further, read⟩ := read_next_member here hereNamed valued
          rw [shown_members_cons] at enough
          simp only [List.length_cons, List.length_append] at enough
          obtain ⟨end_, finished⟩ := members room second next more rest further ((name, value) :: earlier)
            othersNamed others (by omega) (by rw [List.length_append]; omega)
          refine ⟨end_, read.trans (finished.trans ?_)⟩
          simp

/-- A document is read back from the text that it stands in a page as. -/
theorem read_shown {document : Json} (plain : document.IsPlain) (shallow : nesting document ≤ nestingLimit) :
    read (shown document) = .ok document := by
  obtain ⟨first, more, starts, solid, apart⟩ := shown_starts plain
  obtain ⟨further, value⟩ := (read_back (2 * (shown document).length + 2)).1 nestingLimit document [] 0 plain
    shallow (by omega) nofun
  rw [List.append_nil] at value
  have inner : Cursor.skipBlanks ⟨0, shown document⟩ = ⟨0, shown document⟩ := by
    rw [starts]
    exact skip_no_blanks solid 0 more
  have end_ : Cursor.skipBlanks ⟨further, []⟩ = ⟨further, []⟩ := rfl
  unfold read
  split
  · rename_i marked
    cases starts.symm.trans marked
    exact absurd (by decide) apart
  · rw [inner, value]
    dsimp only [bind, Except.bind]
    rw [end_]
    rfl

end Documents

end PageTemplates.Json
