import Mathlib.Data.List.Forall2
import PageTemplates.Text.Utf8

/-!
UTF-8 read back. The bytes of a character are read as the character, whatever comes behind them, so
what a text is encoded to is decoded to the text. Texts can be encoded one by one and put together
afterwards, and a start of what was written is again the encoding of a text. A text has an encoding
exactly if no surrogate stands alone in it.
-/

namespace PageTemplates.Text

theorem byte_number {number : Nat} (small : number < 0x100) : number.toUInt8.toNat = number := by
  simp only [UInt8.toNat_ofNat', Nat.reducePow]
  exact Nat.mod_eq_of_lt small

theorem following_number {number : Nat} (small : number < 0x100) :
    following number.toUInt8 =
      if number < 0x80 then some (0, 0, 0)
      else if number < 0xC2 then none
      else if number < 0xE0 then some (1, 0x80, 0xBF)
      else if number < 0xF0 then
        some (2, if number = 0xE0 then 0xA0 else 0x80, if number = 0xED then 0x9F else 0xBF)
      else if number < 0xF5 then
        some (3, if number = 0xF0 then 0x90 else 0x80, if number = 0xF4 then 0x8F else 0xBF)
      else none := by
  simp only [following, UInt8.lt_iff_toNat_lt, ← UInt8.toNat_inj, byte_number small,
    UInt8.reduceToNat]
  split_ifs <;> first | rfl | omega

/-- A byte that carries six bits on adds them to the number. -/
theorem continuation_carried {low high : UInt8} {count good number part : Nat} {rest : Bytes}
    (small : part < 0x40) (least : low.toNat ≤ 0x80 + part) (most : 0x80 + part ≤ high.toNat) :
    continuation low high (count + 1) good number ((0x80 + part).toUInt8 :: rest) =
      continuation 0x80 0xBF count (good + 1) (number * 0x40 + part) rest := by
  have byte : 0x80 + part < 0x100 := by omega
  have carried := byte_number byte
  have within : (low ≤ (0x80 + part).toUInt8 && (0x80 + part).toUInt8 ≤ high) = true := by
    simp only [Bool.and_eq_true, decide_eq_true_eq, UInt8.le_iff_toNat_le, carried]
    exact ⟨least, most⟩
  rw [continuation, if_pos within, carried, Nat.add_sub_cancel_left]

/-- A byte that carries any six bits on is allowed where no other range is called for. -/
theorem continuation_free {count good number part : Nat} {rest : Bytes} (small : part < 0x40) :
    continuation 0x80 0xBF (count + 1) good number ((0x80 + part).toUInt8 :: rest) =
      continuation 0x80 0xBF count (good + 1) (number * 0x40 + part) rest := by
  refine continuation_carried small ?_ ?_ <;> simp only [UInt8.reduceToNat] <;> omega

/-- What a first byte begins, once the bytes behind it are read. -/
theorem take_char_ok {first : UInt8} {rest after : Bytes} {more number : Nat} {low high : UInt8}
    (calls : following first = some (more, low, high))
    (read : continuation low high more 1 (leadingBits first more) rest = .ok (number, after)) :
    takeChar first rest = .ok (Char.ofNat number, 1 + more, after) := by
  simp only [takeChar, calls, read]

/-- The bits of the number that the first byte of two, three or four bytes holds. -/
theorem leading_bits_two (first : UInt8) : leadingBits first 1 = first.toNat - 0xC0 := rfl

theorem leading_bits_three (first : UInt8) : leadingBits first 2 = first.toNat - 0xE0 := rfl

theorem leading_bits_four (first : UInt8) : leadingBits first 3 = first.toNat - 0xF0 := rfl

theorem take_char_one {number : Nat} (most : number < 0x80) (rest : Bytes) :
    takeChar number.toUInt8 rest = .ok (Char.ofNat number, 1, rest) := by
  have first : number < 0x100 := by omega
  have calls := following_number first
  rw [if_pos most] at calls
  have bits : leadingBits number.toUInt8 0 = number := byte_number first
  refine take_char_ok calls ?_
  rw [bits, continuation]

theorem take_char_two {number : Nat} (least : 0x80 ≤ number) (most : number < 0x800)
    (rest : Bytes) :
    takeChar (0xC0 + number / 0x40).toUInt8 ((0x80 + number % 0x40).toUInt8 :: rest) =
      .ok (Char.ofNat number, 2, rest) := by
  have first : 0xC0 + number / 0x40 < 0x100 := by omega
  have calls := following_number first
  rw [if_neg (by omega), if_neg (by omega), if_pos (by omega)] at calls
  have last : number % 0x40 < 0x40 := Nat.mod_lt _ (by omega)
  have whole : number / 0x40 * 0x40 + number % 0x40 = number := Nat.div_add_mod' number 0x40
  refine take_char_ok calls ?_
  rw [leading_bits_two, byte_number first, Nat.add_sub_cancel_left, continuation_free last,
    continuation, whole]

theorem take_char_three {number : Nat} (least : 0x800 ≤ number) (most : number < 0x10000)
    (valid : number < 0xD800 ∨ 0xDFFF < number) (rest : Bytes) :
    takeChar (0xE0 + number / 0x1000).toUInt8
        ((0x80 + number / 0x40 % 0x40).toUInt8 :: (0x80 + number % 0x40).toUInt8 :: rest) =
      .ok (Char.ofNat number, 3, rest) := by
  have first : 0xE0 + number / 0x1000 < 0x100 := by omega
  have calls := following_number first
  rw [if_neg (by omega), if_neg (by omega), if_neg (by omega), if_pos (by omega)] at calls
  have second : number / 0x40 % 0x40 < 0x40 := Nat.mod_lt _ (by omega)
  have last : number % 0x40 < 0x40 := Nat.mod_lt _ (by omega)
  have whole : (number / 0x1000 * 0x40 + number / 0x40 % 0x40) * 0x40 + number % 0x40 =
      number := by omega
  refine take_char_ok calls ?_
  rw [leading_bits_three, byte_number first, Nat.add_sub_cancel_left,
    continuation_carried second ?_ ?_, continuation_free last, continuation, whole]
  · split <;> simp only [UInt8.reduceToNat] <;> omega
  · split <;> simp only [UInt8.reduceToNat] <;> omega

theorem take_char_four {number : Nat} (least : 0x10000 ≤ number) (most : number < 0x110000)
    (rest : Bytes) :
    takeChar (0xF0 + number / 0x40000).toUInt8
        ((0x80 + number / 0x1000 % 0x40).toUInt8 :: (0x80 + number / 0x40 % 0x40).toUInt8 ::
          (0x80 + number % 0x40).toUInt8 :: rest) =
      .ok (Char.ofNat number, 4, rest) := by
  have first : 0xF0 + number / 0x40000 < 0x100 := by omega
  have calls := following_number first
  rw [if_neg (by omega), if_neg (by omega), if_neg (by omega), if_neg (by omega),
    if_pos (by omega)] at calls
  have second : number / 0x1000 % 0x40 < 0x40 := Nat.mod_lt _ (by omega)
  have third : number / 0x40 % 0x40 < 0x40 := Nat.mod_lt _ (by omega)
  have last : number % 0x40 < 0x40 := Nat.mod_lt _ (by omega)
  have whole : ((number / 0x40000 * 0x40 + number / 0x1000 % 0x40) * 0x40 +
      number / 0x40 % 0x40) * 0x40 + number % 0x40 = number := by omega
  refine take_char_ok calls ?_
  rw [leading_bits_four, byte_number first, Nat.add_sub_cancel_left,
    continuation_carried second ?_ ?_, continuation_free third, continuation_free last,
    continuation, whole]
  · split <;> simp only [UInt8.reduceToNat] <;> omega
  · split <;> simp only [UInt8.reduceToNat] <;> omega

theorem char_number_valid (character : Char) :
    character.toNat < 0xD800 ∨ 0xDFFF < character.toNat ∧ character.toNat < 0x110000 := by
  have valid := character.valid
  simp only [UInt32.isValidChar, Nat.isValidChar] at valid
  exact valid

theorem take_char_encoded (character : Char) (rest : Bytes) :
    ∃ first more, encodeChar character = first :: more ∧
      takeChar first (more ++ rest) = .ok (character, (first :: more).length, rest) := by
  have valid := char_number_valid character
  have same : Char.ofNat character.toNat = character := Char.ofNat_toNat character
  simp only [encodeChar]
  -- From here on only the number counts, and the widths are those that the encoder tells apart.
  generalize character.toNat = number at valid same ⊢
  subst same
  split
  · exact ⟨_, _, rfl, take_char_one (by omega) rest⟩
  split
  · exact ⟨_, _, rfl, take_char_two (by omega) (by omega) rest⟩
  split
  · exact ⟨_, _, rfl, take_char_three (by omega) (by omega) (by omega) rest⟩
  · exact ⟨_, _, rfl, take_char_four (by omega) (by omega) rest⟩

/-- The bytes of a text are read as the text, wherever they stand. -/
theorem decode_from_encoded {text : Text} {bytes : Bytes} {place : Nat}
    (encoded : encodeFrom place text = .ok bytes) {bound : Nat} (enough : bytes.length ≤ bound)
    (start : Nat) : decodeFrom bound start bytes = .ok text := by
  induction text generalizing bytes place bound start with
  | nil =>
      cases encoded
      cases bound <;> rfl
  | cons point rest ih =>
      cases point with
      | surrogate offset => cases encoded
      | scalar character =>
          rw [encodeFrom] at encoded
          split at encoded
          · rename_i others written
            cases encoded
            obtain ⟨first, more, same, taken⟩ := take_char_encoded character others
            rw [same, List.cons_append] at enough ⊢
            cases bound with
            | zero => cases enough
            | succ bound =>
                simp only [List.length_cons, List.length_append] at enough
                rw [decodeFrom, taken]
                simp only [ih written (show others.length ≤ bound by omega)]
          · cases encoded

theorem decode_encode {text : Text} {bytes : Bytes} (encoded : encode text = .ok bytes) :
    decode bytes = .ok text :=
  decode_from_encoded encoded (Nat.le_refl _) 0

/-- Where the encoding of a text starts only matters for the place of a fault. -/
theorem encode_from_ok {text : Text} {bytes : Bytes} {place : Nat}
    (encoded : encodeFrom place text = .ok bytes) (other : Nat) :
    encodeFrom other text = .ok bytes := by
  induction text generalizing bytes place other with
  | nil => exact encoded
  | cons point rest ih =>
      cases point with
      | surrogate offset => cases encoded
      | scalar character =>
          rw [encodeFrom] at encoded ⊢
          split at encoded
          · rename_i others written
            rw [ih written]
            exact encoded
          · cases encoded

theorem encode_from_append {first second : Text} {bytes others : Bytes} {place start : Nat}
    (left : encodeFrom place first = .ok bytes) (right : encodeFrom start second = .ok others) :
    encodeFrom place (first ++ second) = .ok (bytes ++ others) := by
  induction first generalizing bytes place with
  | nil =>
      cases left
      exact encode_from_ok right place
  | cons point rest ih =>
      cases point with
      | surrogate offset => cases left
      | scalar character =>
          rw [encodeFrom] at left
          split at left
          · rename_i more written
            cases left
            rw [List.cons_append, encodeFrom, ih written, List.append_assoc]
          · cases left

theorem encode_flatten {texts : List Text} {pieces : List Bytes}
    (encoded : List.Forall₂ (fun text piece => encode text = .ok piece) texts pieces) :
    encode texts.flatten = .ok pieces.flatten := by
  induction encoded with
  | nil => rfl
  | cons first _ ih => exact encode_from_append first ih

/-- A text without lone surrogates. -/
def IsWhole (text : Text) : Prop := ∀ point ∈ text, isSurrogate point = false

instance (text : Text) : Decidable text.IsWhole :=
  inferInstanceAs (Decidable (∀ point ∈ text, _))

theorem encode_whole {text : Text} (whole : text.IsWhole) : ∃ bytes, encode text = .ok bytes := by
  unfold encode
  generalize 0 = place
  induction text generalizing place with
  | nil => exact ⟨[], rfl⟩
  | cons point rest ih =>
      obtain ⟨here, others⟩ := List.forall_mem_cons.mp whole
      obtain ⟨bytes, encoded⟩ := ih others (place + 1)
      cases point with
      | surrogate offset => cases here
      | scalar character =>
          rw [encodeFrom, encoded]
          exact ⟨_, rfl⟩

theorem whole_of_encode {text : Text} {bytes : Bytes} (encoded : encode text = .ok bytes) :
    text.IsWhole := by
  unfold encode at encoded
  revert encoded
  generalize 0 = place
  induction text generalizing place bytes with
  | nil => exact fun _ => List.forall_mem_nil _
  | cons point rest ih =>
      intro encoded
      cases point with
      | surrogate offset => cases encoded
      | scalar character =>
          rw [encodeFrom] at encoded
          split at encoded
          · rename_i later
            exact List.forall_mem_cons.mpr ⟨rfl, ih _ later⟩
          · cases encoded

/-- The bytes that carry a number. The first byte tells how many there are and holds the highest bits; each
byte behind it carries six bits on. -/
inductive Carries : Nat → Bytes → Prop
  | one {number : Nat} (small : number < 0x80) : Carries number [number.toUInt8]
  | two {high low : Nat} (first : high < 0x20) (last : low < 0x40) :
      Carries (high * 0x40 + low) [(0xC0 + high).toUInt8, (0x80 + low).toUInt8]
  | three {high middle low : Nat} (first : high < 0x10) (second : middle < 0x40) (last : low < 0x40) :
      Carries ((high * 0x40 + middle) * 0x40 + low)
        [(0xE0 + high).toUInt8, (0x80 + middle).toUInt8, (0x80 + low).toUInt8]
  | four {highest high middle low : Nat} (first : highest < 0x8) (second : high < 0x40)
      (third : middle < 0x40) (last : low < 0x40) :
      Carries (((highest * 0x40 + high) * 0x40 + middle) * 0x40 + low)
        [(0xF0 + highest).toUInt8, (0x80 + high).toUInt8, (0x80 + middle).toUInt8, (0x80 + low).toUInt8]

/-- The bytes of a character: they carry its number, which is neither a surrogate nor too large, and fewer
bytes would not do. -/
structure IsSequence (number : Nat) (bytes : Bytes) : Prop where
  carries : Carries number bytes
  valid : number < 0xD800 ∨ 0xDFFF < number ∧ number < 0x110000
  shortest : ∀ other, Carries number other → bytes.length ≤ other.length

/-- Bytes that fall into the bytes of characters. -/
inductive WellFormed : Bytes → Prop
  | nil : WellFormed []
  | cons {number : Nat} {bytes rest : Bytes} (sequence : IsSequence number bytes)
      (others : WellFormed rest) : WellFormed (bytes ++ rest)

section Sequences

variable {number : Nat} {bytes : Bytes}

/-- How large a number is that so many bytes carry. -/
theorem carries_room (carries : Carries number bytes) :
    (bytes.length = 1 ∧ number < 0x80) ∨ (bytes.length = 2 ∧ number < 0x800) ∨
      (bytes.length = 3 ∧ number < 0x10000) ∨ bytes.length = 4 := by
  cases carries with
  | one small => exact .inl ⟨rfl, small⟩
  | two first last => exact .inr (.inl ⟨rfl, by omega⟩)
  | three first second last => exact .inr (.inr (.inl ⟨rfl, by omega⟩))
  | four => exact .inr (.inr (.inr rfl))

/-- Every number below a bound can be carried by the bytes for that bound. -/
theorem carried_by_two (small : number < 0x800) :
    Carries number [(0xC0 + number / 0x40).toUInt8, (0x80 + number % 0x40).toUInt8] := by
  have whole : number / 0x40 * 0x40 + number % 0x40 = number := Nat.div_add_mod' number 0x40
  have carries := Carries.two (show number / 0x40 < 0x20 by omega) (show number % 0x40 < 0x40 by omega)
  rwa [whole] at carries

theorem carried_by_three (small : number < 0x10000) :
    Carries number [(0xE0 + number / 0x1000).toUInt8, (0x80 + number / 0x40 % 0x40).toUInt8,
      (0x80 + number % 0x40).toUInt8] := by
  have whole : (number / 0x1000 * 0x40 + number / 0x40 % 0x40) * 0x40 + number % 0x40 = number := by omega
  have carries := Carries.three (show number / 0x1000 < 0x10 by omega)
    (show number / 0x40 % 0x40 < 0x40 by omega) (show number % 0x40 < 0x40 by omega)
  rwa [whole] at carries

theorem carried_by_four (small : number < 0x110000) :
    Carries number [(0xF0 + number / 0x40000).toUInt8, (0x80 + number / 0x1000 % 0x40).toUInt8,
      (0x80 + number / 0x40 % 0x40).toUInt8, (0x80 + number % 0x40).toUInt8] := by
  have whole : ((number / 0x40000 * 0x40 + number / 0x1000 % 0x40) * 0x40 + number / 0x40 % 0x40) * 0x40 +
      number % 0x40 = number := by omega
  have carries := Carries.four (show number / 0x40000 < 0x8 by omega)
    (show number / 0x1000 % 0x40 < 0x40 by omega) (show number / 0x40 % 0x40 < 0x40 by omega)
    (show number % 0x40 < 0x40 by omega)
  rwa [whole] at carries

theorem encode_char_sequence (character : Char) : IsSequence character.toNat (encodeChar character) := by
  have valid := char_number_valid character
  rw [encodeChar]
  generalize character.toNat = number at valid ⊢
  split_ifs with one two three
  · exact ⟨.one one, valid, fun other carries => by have room := carries_room carries; simp; omega⟩
  · exact ⟨carried_by_two two, valid, fun other carries => by have room := carries_room carries; simp; omega⟩
  · exact ⟨carried_by_three three, valid, fun other carries => by have room := carries_room carries; simp; omega⟩
  · exact ⟨carried_by_four (by omega), valid,
      fun other carries => by have room := carries_room carries; simp; omega⟩

/-- Bytes of one width carry a number in one way only. -/
theorem carries_unique {other : Bytes} (carries : Carries number bytes) (again : Carries number other)
    (even : bytes.length = other.length) : bytes = other := by
  cases carries with
  | one small =>
      cases again with
      | one => rfl
      | _ => cases even
  | @two high low first last =>
      generalize whole : high * 0x40 + low = number at again
      cases again with
      | @two otherHigh otherLow =>
          obtain ⟨rfl, rfl⟩ : high = otherHigh ∧ low = otherLow := by omega
          rfl
      | _ => cases even
  | @three high middle low first second last =>
      generalize whole : (high * 0x40 + middle) * 0x40 + low = number at again
      cases again with
      | @three otherHigh otherMiddle otherLow =>
          obtain ⟨rfl, rfl, rfl⟩ : high = otherHigh ∧ middle = otherMiddle ∧ low = otherLow := by omega
          rfl
      | _ => cases even
  | @four highest high middle low first second third last =>
      generalize whole : ((highest * 0x40 + high) * 0x40 + middle) * 0x40 + low = number at again
      cases again with
      | @four otherHighest otherHigh otherMiddle otherLow =>
          obtain ⟨rfl, rfl, rfl, rfl⟩ : highest = otherHighest ∧ high = otherHigh ∧ middle = otherMiddle ∧
            low = otherLow := by omega
          rfl
      | _ => cases even

theorem number_of_char (valid : number < 0xD800 ∨ 0xDFFF < number ∧ number < 0x110000) :
    (Char.ofNat number).toNat = number := by
  rw [Char.ofNat, dif_pos valid]
  rfl

/-- The bytes of a character are those that it is encoded to. -/
theorem sequence_encoded (sequence : IsSequence number bytes) : encodeChar (Char.ofNat number) = bytes := by
  have encoded := encode_char_sequence (Char.ofNat number)
  rw [number_of_char sequence.valid] at encoded
  exact carries_unique encoded.carries sequence.carries
    (Nat.le_antisymm (encoded.shortest _ sequence.carries) (sequence.shortest _ encoded.carries))

end Sequences

section Decoding

/-- What a first byte calls for, told by its number. -/
theorem following_some {first : UInt8} {more : Nat} {low high : UInt8}
    (calls : following first = some (more, low, high)) :
    (more = 0 ∧ first.toNat < 0x80) ∨
      ((0x80 ≤ low.toNat ∧ high.toNat ≤ 0xBF) ∧
        ((more = 1 ∧ 0xC2 ≤ first.toNat ∧ first.toNat < 0xE0) ∨
          (more = 2 ∧ 0xE0 ≤ first.toNat ∧ first.toNat < 0xF0 ∧
            (first.toNat = 0xE0 → 0xA0 ≤ low.toNat) ∧ (first.toNat = 0xED → high.toNat < 0xA0)) ∨
          (more = 3 ∧ 0xF0 ≤ first.toNat ∧ first.toNat < 0xF5 ∧
            (first.toNat = 0xF0 → 0x90 ≤ low.toNat) ∧ (first.toNat = 0xF4 → high.toNat < 0x90)))) := by
  have told := following_number first.toNat_lt
  have same : first.toNat.toUInt8 = first := UInt8.ofNat_toNat
  rw [same, calls] at told
  generalize first.toNat = number at told ⊢
  split at told
  · cases told
    exact .inl ⟨rfl, ‹_›⟩
  split at told
  · cases told
  split at told
  · cases told
    exact .inr ⟨by decide, .inl ⟨rfl, by omega, ‹_›⟩⟩
  split at told
  · cases told
    refine .inr ⟨⟨by split <;> decide, by split <;> decide⟩, .inr (.inl ⟨rfl, by omega, ‹_›, ?_, ?_⟩)⟩
    · intro least
      rw [if_pos least]
      decide
    · intro surrogates
      rw [if_pos surrogates]
      decide
  split at told
  · cases told
    refine .inr ⟨⟨by split <;> decide, by split <;> decide⟩, .inr (.inr ⟨rfl, by omega, ‹_›, ?_, ?_⟩)⟩
    · intro least
      rw [if_pos least]
      decide
    · intro greatest
      rw [if_pos greatest]
      decide
  · cases told

/-- A byte that was read carries six bits on. -/
theorem continuation_some {low high : UInt8} {count good number result : Nat} {bytes after : Bytes}
    (least : 0x80 ≤ low.toNat) (most : high.toNat ≤ 0xBF)
    (read : continuation low high (count + 1) good number bytes = .ok (result, after)) :
    ∃ part rest, part < 0x40 ∧ low.toNat ≤ 0x80 + part ∧ 0x80 + part ≤ high.toNat ∧
      bytes = (0x80 + part).toUInt8 :: rest ∧
      continuation 0x80 0xBF count (good + 1) (number * 0x40 + part) rest = .ok (result, after) := by
  cases bytes with
  | nil => cases read
  | cons byte rest =>
      rw [continuation] at read
      split at read
      · rename_i within
        simp only [Bool.and_eq_true, decide_eq_true_eq, UInt8.le_iff_toNat_le] at within
        have whole : 0x80 + (byte.toNat - 0x80) = byte.toNat := by omega
        have same : byte.toNat.toUInt8 = byte := UInt8.ofNat_toNat
        exact ⟨byte.toNat - 0x80, rest, by omega, by omega, by omega, by rw [whole, same], read⟩
      · cases read

theorem continuation_done {low high : UInt8} {good number result : Nat} {rest after : Bytes}
    (read : continuation low high 0 good number rest = .ok (result, after)) :
    result = number ∧ rest = after := by
  cases read
  exact ⟨rfl, rfl⟩

/-- Fewer bytes do not carry the number that so many bytes were called for. -/
theorem shortest_of_room {number : Nat} {bytes : Bytes}
    (room : bytes.length = 1 ∨ (bytes.length = 2 ∧ 0x80 ≤ number) ∨
      (bytes.length = 3 ∧ 0x800 ≤ number) ∨ (bytes.length = 4 ∧ 0x10000 ≤ number))
    (other : Bytes) (carries : Carries number other) : bytes.length ≤ other.length := by
  have few := carries_room carries
  omega

section

variable {first : UInt8} {rest after : Bytes} {number : Nat}

/-- A first byte is what tells how many bytes there are, with the bits of the number behind it. -/
theorem first_byte {start : Nat} (least : start ≤ first.toNat) :
    (start + (first.toNat - start)).toUInt8 = first := by
  rw [Nat.add_sub_cancel' least]
  exact UInt8.ofNat_toNat

theorem read_one (small : first.toNat < 0x80)
    (read : continuation 0 0 0 1 (leadingBits first 0) rest = .ok (number, after)) :
    ∃ bytes, IsSequence number bytes ∧ first :: rest = bytes ++ after := by
  obtain ⟨rfl, rfl⟩ := continuation_done read
  have carries := Carries.one small
  have same : first.toNat.toUInt8 = first := UInt8.ofNat_toNat
  rw [same] at carries
  exact ⟨[first], ⟨carries, .inl (Nat.lt_trans small (by decide)), shortest_of_room (.inl rfl)⟩, rfl⟩

theorem read_two {low high : UInt8} (range : 0x80 ≤ low.toNat ∧ high.toNat ≤ 0xBF)
    (least : 0xC2 ≤ first.toNat) (most : first.toNat < 0xE0)
    (read : continuation low high 1 1 (leadingBits first 1) rest = .ok (number, after)) :
    ∃ bytes, IsSequence number bytes ∧ first :: rest = bytes ++ after := by
  obtain ⟨part, others, last, _, _, rfl, done⟩ := continuation_some range.1 range.2 read
  obtain ⟨rfl, rfl⟩ := continuation_done done
  have carries := Carries.two (show first.toNat - 0xC0 < 0x20 by omega) last
  rw [first_byte (by omega)] at carries
  rw [leading_bits_two]
  exact ⟨_, ⟨carries, .inl (by omega), shortest_of_room (.inr (.inl ⟨rfl, by omega⟩))⟩, rfl⟩

theorem read_three {low high : UInt8} (range : 0x80 ≤ low.toNat ∧ high.toNat ≤ 0xBF)
    (least : 0xE0 ≤ first.toNat) (most : first.toNat < 0xF0)
    (long : first.toNat = 0xE0 → 0xA0 ≤ low.toNat) (noSurrogate : first.toNat = 0xED → high.toNat < 0xA0)
    (read : continuation low high 2 1 (leadingBits first 2) rest = .ok (number, after)) :
    ∃ bytes, IsSequence number bytes ∧ first :: rest = bytes ++ after := by
  obtain ⟨middle, others, second, above, under, rfl, next⟩ := continuation_some range.1 range.2 read
  obtain ⟨part, others, last, _, _, rfl, done⟩ := continuation_some (by decide) (by decide) next
  obtain ⟨rfl, rfl⟩ := continuation_done done
  have carries := Carries.three (show first.toNat - 0xE0 < 0x10 by omega) second last
  rw [first_byte (by omega)] at carries
  rw [leading_bits_three]
  exact ⟨_, ⟨carries, by omega, shortest_of_room (.inr (.inr (.inl ⟨rfl, by omega⟩)))⟩, rfl⟩

theorem read_four {low high : UInt8} (range : 0x80 ≤ low.toNat ∧ high.toNat ≤ 0xBF)
    (least : 0xF0 ≤ first.toNat) (most : first.toNat < 0xF5)
    (long : first.toNat = 0xF0 → 0x90 ≤ low.toNat) (small : first.toNat = 0xF4 → high.toNat < 0x90)
    (read : continuation low high 3 1 (leadingBits first 3) rest = .ok (number, after)) :
    ∃ bytes, IsSequence number bytes ∧ first :: rest = bytes ++ after := by
  obtain ⟨upper, others, second, above, under, rfl, next⟩ := continuation_some range.1 range.2 read
  obtain ⟨middle, others, third, _, _, rfl, further⟩ := continuation_some (by decide) (by decide) next
  obtain ⟨part, others, last, _, _, rfl, done⟩ := continuation_some (by decide) (by decide) further
  obtain ⟨rfl, rfl⟩ := continuation_done done
  have carries := Carries.four (show first.toNat - 0xF0 < 0x8 by omega) second third last
  rw [first_byte (by omega)] at carries
  rw [leading_bits_four]
  exact ⟨_, ⟨carries, by omega, shortest_of_room (.inr (.inr (.inr ⟨rfl, by omega⟩)))⟩, rfl⟩

/-- The bytes that a character is read from are its bytes. -/
theorem take_char_sequence {character : Char} {size : Nat}
    (taken : takeChar first rest = .ok (character, size, after)) :
    ∃ number bytes, IsSequence number bytes ∧ character = Char.ofNat number ∧
      first :: rest = bytes ++ after := by
  unfold takeChar at taken
  split at taken
  · cases taken
  rename_i more low high calls
  split at taken
  · cases taken
  rename_i number others read
  cases taken
  suffices found : ∃ bytes, IsSequence number bytes ∧ first :: rest = bytes ++ after by
    obtain ⟨bytes, sequence, same⟩ := found
    exact ⟨number, bytes, sequence, rfl, same⟩
  rcases following_some calls with ⟨rfl, small⟩ | ⟨range, ⟨rfl, least, most⟩ |
    ⟨rfl, least, most, long, noSurrogate⟩ | ⟨rfl, least, most, long, small⟩⟩
  · exact read_one small read
  · exact read_two range least most read
  · exact read_three range least most long noSurrogate read
  · exact read_four range least most long small read

end

theorem encode_cons {number : Nat} {bytes others : Bytes} {text : Text}
    (sequence : IsSequence number bytes) (encoded : encode text = .ok others) :
    encode (.scalar (Char.ofNat number) :: text) = .ok (bytes ++ others) := by
  rw [encode, encodeFrom, encode_from_ok encoded 1, sequence_encoded sequence]

theorem sequence_nonempty {number : Nat} {bytes : Bytes} (sequence : IsSequence number bytes) : bytes ≠ [] := by
  have carries := sequence.carries
  cases carries <;> exact List.cons_ne_nil _ _

theorem encode_of_decode_from {bound place : Nat} {bytes : Bytes} {text : Text}
    (enough : bytes.length ≤ bound) (decoded : decodeFrom bound place bytes = .ok text) :
    encode text = .ok bytes := by
  induction bound generalizing bytes text place with
  | zero =>
      rw [List.length_eq_zero_iff.mp (Nat.le_zero.mp enough)]
      cases decoded
      rfl
  | succ bound ih =>
      cases bytes with
      | nil =>
          cases decoded
          rfl
      | cons first rest =>
          rw [decodeFrom] at decoded
          split at decoded
          · cases decoded
          rename_i character size after taken
          split at decoded
          · rename_i others read
            cases decoded
            obtain ⟨number, bytes, sequence, rfl, same⟩ := take_char_sequence taken
            have whole := congrArg List.length same
            have more := List.length_pos_iff.mpr (sequence_nonempty sequence)
            simp only [List.length_cons, List.length_append] at whole enough
            rw [same]
            exact encode_cons sequence (ih (by omega) read)
          · cases decoded

/-- What is decoded to a text is its encoding. -/
theorem encode_of_decode {bytes : Bytes} {text : Text} (decoded : decode bytes = .ok text) :
    encode text = .ok bytes :=
  encode_of_decode_from (Nat.le_refl _) decoded

theorem decode_iff {bytes : Bytes} {text : Text} : decode bytes = .ok text ↔ encode text = .ok bytes :=
  ⟨encode_of_decode, decode_encode⟩

/-- Well-formed bytes are those that some text is encoded to. -/
theorem well_formed_iff {bytes : Bytes} : WellFormed bytes ↔ ∃ text, encode text = .ok bytes := by
  constructor
  · intro wellFormed
    induction wellFormed with
    | nil => exact ⟨[], rfl⟩
    | cons sequence _ ih =>
        obtain ⟨text, encoded⟩ := ih
        exact ⟨_, encode_cons sequence encoded⟩
  · rintro ⟨text, encoded⟩
    induction text generalizing bytes with
    | nil =>
        cases encoded
        exact .nil
    | cons point rest ih =>
        cases point with
        | surrogate offset => cases encoded
        | scalar character =>
            rw [encode, encodeFrom] at encoded
            split at encoded
            · rename_i others written
              cases encoded
              exact .cons (encode_char_sequence character) (ih (encode_from_ok written 0))
            · cases encoded

end Decoding

end PageTemplates.Text
