import Mathlib.Algebra.Order.BigOperators.Group.List
import PageTemplates.Proofs.Data.Keys
import PageTemplates.Proofs.Json.Write

/-!
Equality of domains and their hashes. A domain equals the data that is printed as its name. Among domains
and texts that is equality of names, so it is transitive, and equal ones have the same hash. All other data
that a domain equals has another hash: what is stored of it is shorter than what is printed of it.
-/

namespace PageTemplates

theorem length_le_flatMap {Item Part : Type} {items : List Item} {parts : Item → List Part}
    (nonempty : ∀ item ∈ items, parts item ≠ []) : items.length ≤ (items.flatMap parts).length := by
  have each : ∀ count ∈ items.map fun item => (parts item).length, 1 ≤ count := by
    intro count member
    obtain ⟨item, inside, rfl⟩ := List.mem_map.mp member
    exact List.length_pos_iff.mpr (nonempty item inside)
  have summed := List.length_le_sum_of_one_le _ each
  rwa [List.length_map, ← List.length_flatMap] at summed

theorem Text.hex_escape_nonempty (number : Nat) : hexEscape number ≠ [] := by
  unfold hexEscape
  split_ifs <;> simp [ofString, ofChars]

theorem Text.quote_point_nonempty (quote point : CodePoint) : quotePoint quote point ≠ [] := by
  unfold quotePoint
  split_ifs <;> simp [ofString, ofChars, hex_escape_nonempty]

/-- Each byte is shown as one point or more, beside a letter and two quotes. -/
theorem Text.length_lt_quotedBytes (bytes : Bytes) : bytes.length < (quotedBytes bytes).length := by
  have escaped (quote point : CodePoint) :
      (if point.value < 128 then quotePoint quote point else hexEscape point.value) ≠ [] := by
    split_ifs
    · exact quote_point_nonempty quote point
    · exact hex_escape_nonempty point.value
  have written (quote : CodePoint) (shown : Text) := length_le_flatMap fun point (_ : point ∈ shown) =>
    escaped quote point
  have inside := written (chooseQuote (bytes.map fun byte => .scalar (Char.ofNat byte.toNat)))
    (bytes.map fun byte => .scalar (Char.ofNat byte.toNat))
  rw [List.length_map] at inside
  simp only [quotedBytes, List.cons_append, List.length_cons, List.length_append]
  omega

theorem Calendar.padded_length (width number : Nat) : width ≤ (padded width number).length := by
  rw [padded, List.length_append, List.length_replicate]
  omega

theorem Calendar.iso_date_length (date : Date) : 10 ≤ (isoDate date).length := by
  have year := padded_length 4 date.year
  have month := padded_length 2 date.month
  have day := padded_length 2 date.day
  have dash : (Text.ofString "-").length = 1 := rfl
  simp only [isoDate, List.length_append, dash]
  omega

theorem Calendar.iso_date_time_length (time : DateTime) : 10 < (isoDateTime " " time).length := by
  have date := iso_date_length time.date
  have blank : (Text.ofString " ").length = 1 := rfl
  simp only [isoDateTime, List.length_append, blank]
  omega

theorem Number.shown_nonempty (number : Float) : shown number ≠ [] := by
  unfold shown
  split
  · simp
  · split <;> simp
  · dsimp only
    split_ifs <;> simp

theorem Text.of_int_nonempty (number : Int) : ofInt number ≠ [] := by
  cases number with
  | ofNat number => exact Json.natural_nonempty number
  | negSucc number => simp [Json.of_int_negative]

namespace Domain

theorem low_bytes_length (count number : Nat) : (lowBytes count number).length = count := by
  induction count generalizing number with
  | zero => rfl
  | succ count ih => rw [lowBytes, List.length_cons, ih]

theorem stored_width_pos (text : Text) : 0 < storedWidth text := by
  unfold storedWidth
  split_ifs <;> decide

theorem length_le_stored (text : Text) : text.length ≤ (stored text).length := by
  refine length_le_flatMap fun point _ => ?_
  rw [← List.length_pos_iff, low_bytes_length]
  exact stored_width_pos text

theorem stored_date_length (date : Date) : (storedDate date).length = 4 := by
  simp [storedDate, low_bytes_length]

theorem stored_date_time_length (time : DateTime) : (storedDateTime time).length = 10 := by
  simp [storedDateTime, stored_date_length, low_bytes_length]

/-- What is stored of data that is no text is shorter than what is printed of it. -/
theorem hashed_bytes_shorter {data : Data} {bytes : Bytes} (noText : data.text? = none)
    (hashed : hashedBytes? data = some bytes) : bytes.length < data.plain.length := by
  cases data with
  | text | markup => cases noText
  | bytes value =>
      cases hashed
      exact Text.length_lt_quotedBytes bytes
  | date value =>
      -- Four bytes against four, two and two digits at least.
      cases hashed
      rw [stored_date_length]
      exact Nat.lt_of_lt_of_le (by decide) (Calendar.iso_date_length value)
  | datetime value =>
      obtain ⟨-, same⟩ := Option.ite_none_right_eq_some.mp hashed
      cases same
      rw [stored_date_time_length]
      exact Calendar.iso_date_time_length value
  | _ => cases hashed

theorem zero_printed {data : Data} (zero : hashesAsZero data = true) : data.plain ≠ [] := by
  cases data with
  | bool value => cases value <;> simp [Data.plain, Data.quoted, Text.ofString, Text.ofChars]
  | int value => exact Text.of_int_nonempty value
  | float value => exact fun empty => Number.shown_nonempty value (List.map_eq_nil_iff.mp empty)
  | _ => cases zero

/-- Of all data only a text has the hash of the text that it is printed as. -/
theorem shares_hash_printed (data : Data) : sharesHash data.plain data = data.text?.isSome := by
  cases held : data.text? with
  | some content =>
      have hashed : hashedBytes? data = some (stored data.plain) := by cases data <;> cases held <;> rfl
      simp [sharesHash, hashed]
  | none =>
      have apart : hashedBytes? data ≠ some (stored data.plain) := fun hashed =>
        Nat.not_lt_of_le (length_le_stored data.plain) (hashed_bytes_shorter held hashed)
      -- Only what is printed as nothing at all could hash as a number does.
      have full : (data.plain.isEmpty && hashesAsZero data) = false := by
        by_contra empty
        simp only [Bool.not_eq_false, Bool.and_eq_true, List.isEmpty_iff] at empty
        exact zero_printed empty.2 empty.1
      simp [sharesHash, full, apart]

end Domain

namespace Data

theorem plain_of_printed {data : Data} {shown : Text} (told : data.printed = .ok shown) :
    data.plain = shown := by
  unfold printed at told
  split at told
  · cases told
  · split_ifs at told
    cases told
    rfl

theorem printed_of_text {data : Data} {content : Text} (held : data.text? = some content) :
    data.printed = .ok content := by
  cases data <;> cases held <;> rfl

end Data

namespace Operand

/-- How an operand is printed: a domain as its name. -/
def printed : Operand → Except Failure Text
  | .domain held => .ok held.name
  | .data held => held.printed

theorem equals_printed {first : Domain} {second : Data} {shown : Text}
    (told : second.printed = .ok shown) :
    equalsPrinted first second = .ok (decide (first.name = shown)) := by
  rw [equalsPrinted, told, Except.map, Domain.equalsData, Data.plain_of_printed told]

theorem equals_iff {first : Domain} {second : Operand} :
    equals (.domain first) second = .ok true ↔ second.printed = .ok first.name := by
  cases second with
  | domain second => simp [equals, printed, Domain.equals, eq_comm]
  | data second =>
      cases told : second.printed with
      | error failure => simp [equals, equalsPrinted, printed, told, Except.map]
      | ok shown => simp [equals, equals_printed told, printed, told, eq_comm]

/-- Among domains and texts, equality is equality of names. -/
theorem equals_names {first second : Operand} {one other : Text} (left : first.name? = some one)
    (right : second.name? = some other) : first.equals second = .ok (decide (one = other)) := by
  cases first with
  | domain first =>
      cases left
      cases second with
      | domain second => cases right; rfl
      | data second => exact equals_printed (Data.printed_of_text right)
  | data first =>
      cases second with
      | domain second =>
          cases right
          exact (equals_printed (Data.printed_of_text left)).trans
            (congrArg Except.ok (decide_eq_decide.mpr eq_comm))
      | data second => exact congrArg Except.ok (Data.equals_texts left right)

theorem name_of_equal {first : Domain} {second : Operand}
    (equal : equals (.domain first) second = .ok true) : first.name = second.hashed.plain := by
  have told := equals_iff.mp equal
  cases second with
  | domain second => exact (Except.ok.inj told).symm
  | data second => exact (Data.plain_of_printed told).symm

theorem shares_hash_of_equal {first : Domain} {second : Operand}
    (equal : equals (.domain first) second = .ok true) (fit : second.unhashable? = none) :
    sharesHash first second = .ok second.name?.isSome := by
  have named : second.hashed.text? = second.name? := by cases second <;> rfl
  rw [sharesHash, fit, name_of_equal equal, ← named]
  exact congrArg Except.ok (Domain.shares_hash_printed second.hashed)

theorem equals_names_trans {first second third : Operand} (one : first.name?.isSome)
    (two : second.name?.isSome) (three : third.name?.isSome) (left : first.equals second = .ok true)
    (right : second.equals third = .ok true) : first.equals third = .ok true := by
  obtain ⟨one, named⟩ := Option.isSome_iff_exists.mp one
  obtain ⟨two, middle⟩ := Option.isSome_iff_exists.mp two
  obtain ⟨three, last⟩ := Option.isSome_iff_exists.mp three
  rw [equals_names named middle, Except.ok.injEq, decide_eq_true_eq] at left
  rw [equals_names middle last, Except.ok.injEq, decide_eq_true_eq] at right
  rw [equals_names named last, Except.ok.injEq, decide_eq_true_eq]
  exact left.trans right

/-- A domain equals exactly what is printed as its name. Of what has a hash and equals a domain, other
domains and texts have the hash of the domain, and nothing else has it. Among domains and texts equality is
transitive. -/
theorem equality_lawful (domain : Domain) (other first second third : Operand) :
    (equals (.domain domain) other = .ok true ↔ other.printed = .ok domain.name) ∧
      (equals (.domain domain) other = .ok true → other.unhashable? = none →
        sharesHash domain other = .ok other.name?.isSome) ∧
      (first.name?.isSome → second.name?.isSome → third.name?.isSome →
        first.equals second = .ok true → second.equals third = .ok true →
        first.equals third = .ok true) :=
  ⟨equals_iff, shares_hash_of_equal, equals_names_trans⟩

theorem equality_lawful_for_true :
    equals (.domain ⟨"True", []⟩) (.data (.bool true)) = .ok true ∧
      sharesHash ⟨"True", []⟩ (.data (.bool true)) = .ok false ∧
      sharesHash ⟨"True", "truth"⟩ (.data (.markup "True")) = .ok true ∧
      equals (.data (.text "True")) (.data (.markup "True")) = .ok true := by
  obtain ⟨prints, hashes, -⟩ := equality_lawful ⟨"True", []⟩ (.data (.bool true))
    (.domain .template) (.domain .template) (.domain .template)
  obtain ⟨shows, meets, chains⟩ := equality_lawful ⟨"True", "truth"⟩ (.data (.markup "True"))
    (.data (.text "True")) (.domain ⟨"True", "truth"⟩) (.data (.markup "True"))
  exact ⟨prints.mpr rfl, hashes (prints.mpr rfl) rfl, meets (shows.mpr rfl) rfl,
    chains rfl rfl rfl rfl (shows.mpr rfl)⟩

end Operand

end PageTemplates
