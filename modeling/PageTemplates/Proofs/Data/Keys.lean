import Mathlib.Tactic.Ring
import PageTemplates.Data.Equal
import PageTemplates.Fault

/-!
Equality of keys. Data that is fit as a key equals only data that is fit as a key, and its equality is
symmetric and transitive. It is not reflexive: what is no number differs from itself.
-/

namespace PageTemplates

namespace Value.Magnitude

/-- Quotients have a denominator that is not zero. -/
def Proper : Magnitude → Prop
  | .quotient _ denominator => 0 < denominator
  | _ => True

/-- Two numbers are the same number. -/
def Same : Magnitude → Magnitude → Prop
  | .quotient first firstUnit, .quotient second secondUnit =>
      first * secondUnit = second * firstUnit
  | .infinite first, .infinite second => first = second
  | _, _ => False

theorem compare_eq {first second : Magnitude} :
    compareMagnitudes? first second = some .eq ↔ first.Same second := by
  cases first with
  | quotient numerator denominator =>
      cases second with
      | quotient other unit => simp [compareMagnitudes?, Same]
      | infinite negative => cases negative <;> simp [compareMagnitudes?, Same]
      | undefined => simp [compareMagnitudes?, Same]
  | infinite negative =>
      cases second with
      | quotient other unit => cases negative <;> simp [compareMagnitudes?, Same]
      | infinite sign => cases negative <;> cases sign <;> simp [compareMagnitudes?, Same]
      | undefined => simp [compareMagnitudes?, Same]
  | undefined => simp [compareMagnitudes?, Same]

theorem same_symm {first second : Magnitude} (same : first.Same second) : second.Same first := by
  cases first <;> cases second <;> first | exact Eq.symm same | exact same.elim

theorem same_trans {first second third : Magnitude} (proper : second.Proper)
    (one : first.Same second) (other : second.Same third) : first.Same third := by
  cases second with
  | quotient numerator unit =>
      cases first with
      | quotient first firstUnit =>
          cases third with
          | quotient third thirdUnit =>
              have positive : (0 : Int) < unit := by exact_mod_cast proper
              have left : first * unit = numerator * firstUnit := one
              have right : numerator * thirdUnit = third * unit := other
              have product : first * thirdUnit * unit = third * firstUnit * unit := by
                calc first * thirdUnit * unit = first * unit * thirdUnit := by ring
                  _ = numerator * thirdUnit * firstUnit := by rw [left]; ring
                  _ = third * firstUnit * unit := by rw [right]; ring
              exact mul_right_cancel₀ (ne_of_gt positive) product
          | infinite => exact other.elim
          | undefined => exact other.elim
      | infinite => exact one.elim
      | undefined => exact one.elim
  | infinite sign =>
      cases first with
      | infinite first =>
          cases third with
          | infinite third => exact Eq.trans one other
          | quotient => exact other.elim
          | undefined => exact other.elim
      | quotient => exact one.elim
      | undefined => exact one.elim
  | undefined => cases third <;> exact other.elim

theorem proper_of_float {number : Float} {numerator : Int} {denominator : Nat}
    (found : Number.asQuotient? number = some (numerator, denominator)) : 0 < denominator := by
  unfold Number.asQuotient? at found
  split at found
  · simp only at found
    split at found
    · cases found
      exact Nat.one_pos
    · cases found
      exact Nat.pow_pos (by omega)
  · cases found

theorem proper_of_value {value : Value} {magnitude : Magnitude}
    (found : value.magnitude? = some magnitude) : magnitude.Proper := by
  unfold magnitude? at found
  split at found
  · cases found
    exact Nat.one_pos
  · cases found
    exact Nat.one_pos
  · split at found
    · rename_i quotient
      cases found
      exact proper_of_float quotient
    · split at found <;> cases found <;> trivial
  · cases found

end Value.Magnitude

namespace Data

theorem magnitude_proper {data : Data} {magnitude : Value.Magnitude}
    (found : data.magnitude? = some magnitude) : magnitude.Proper := by
  unfold magnitude? at found
  split at found
  · exact Value.Magnitude.proper_of_value found
  · exact Value.Magnitude.proper_of_value found
  · exact Value.Magnitude.proper_of_value found
  · cases found

/-- Two scalars are the same: as numbers, as texts, or as other data of one kind. -/
inductive SameScalar : Data → Data → Prop where
  | number {first second : Data} {one other : Value.Magnitude}
      (left : first.magnitude? = some one) (right : second.magnitude? = some other)
      (same : one.Same other) : SameScalar first second
  | text {first second : Data} {content : Text}
      (left : first.text? = some content) (right : second.text? = some content) :
      SameScalar first second
  | none : SameScalar .none .none
  | bytes (value : Bytes) : SameScalar (.bytes value) (.bytes value)
  | date (value : Date) : SameScalar (.date value) (.date value)
  | datetime {one other : DateTime} (same : Value.equalDateTimes one other = true) :
      SameScalar (.datetime one) (.datetime other)

theorem magnitude_of_text {data : Data} {content : Text} (found : data.text? = some content) :
    data.magnitude? = Option.none := by
  cases data <;> first | rfl | cases found

theorem equal_scalars {first second : Data} :
    equalScalars first second = true ↔ SameScalar first second := by
  constructor
  · intro equal
    unfold equalScalars at equal
    split at equal
    · rename_i one other left right
      exact .number left right (Value.Magnitude.compare_eq.mp (by simpa using equal))
    · cases equal
    · cases equal
    · split at equal
      · exact .none
      · rw [eq_of_beq equal]
        exact .bytes _
      · rw [eq_of_beq equal]
        exact .date _
      · exact .datetime equal
      · split at equal
        · rename_i one other left right
          rw [of_decide_eq_true equal] at left
          exact .text left right
        · cases equal
  · intro same
    cases same with
    | number left right same => simp [equalScalars, left, right, Value.Magnitude.compare_eq.mpr same]
    | text left right =>
        unfold equalScalars
        rw [magnitude_of_text left, magnitude_of_text right]
        cases first <;> cases second <;> simp_all [text?]
    | none => rfl
    | bytes value => simp [equalScalars, magnitude?]
    | date value => simp [equalScalars, magnitude?]
    | datetime same => simpa [equalScalars, magnitude?] using same

theorem same_scalar_symm {first second : Data} (same : SameScalar first second) :
    SameScalar second first := by
  cases same with
  | number left right same => exact .number right left (Value.Magnitude.same_symm same)
  | text left right => exact .text right left
  | none => exact .none
  | bytes value => exact .bytes value
  | date value => exact .date value
  | datetime same =>
      refine .datetime ?_
      unfold Value.equalDateTimes at same ⊢
      split at same <;> simp_all

theorem same_scalar_trans {first second third : Data} (one : SameScalar first second)
    (other : SameScalar second third) : SameScalar first third := by
  cases one with
  | number left middle same =>
      cases other with
      | number again right more =>
          cases middle.symm.trans again
          exact .number left right (Value.Magnitude.same_trans (magnitude_proper middle) same more)
      | text again right =>
          rw [magnitude_of_text again] at middle
          cases middle
      | none => cases middle
      | bytes value => cases middle
      | date value => cases middle
      | datetime more => cases middle
  | text left middle =>
      cases other with
      | number again right more =>
          rw [magnitude_of_text middle] at again
          cases again
      | text again right =>
          cases middle.symm.trans again
          exact .text left right
      | none => cases middle
      | bytes value => cases middle
      | date value => cases middle
      | datetime more => cases middle
  | none => exact other
  | bytes value => exact other
  | date value => exact other
  | datetime same =>
      cases other with
      | number again right more => cases again
      | text again right => cases again
      | datetime more =>
          refine .datetime ?_
          unfold Value.equalDateTimes at same more ⊢
          split at same <;> split at more <;> simp_all

/-- Texts are equal by their content. -/
theorem equals_texts {first second : Data} {one other : Text} (left : first.text? = some one)
    (right : second.text? = some other) : first.equals second = decide (one = other) := by
  cases first <;> cases left <;> cases second <;> cases right <;>
    simp [equals, equalScalars, magnitude?, text?]

/-- Data is no collection and has no attributes. -/
def IsScalar : Data → Prop
  | .list _ => False
  | .tuple _ => False
  | .set _ => False
  | .dict _ => False
  | .mapping _ => False
  | .object _ => False
  | _ => True

theorem equals_scalar {first second : Data} (scalar : first.IsScalar) :
    first.equals second = equalScalars first second := by
  unfold equals
  split <;> first | exact scalar.elim | rfl

theorem scalar_of_same {first second : Data} (same : SameScalar first second) :
    first.IsScalar := by
  cases same with
  | number left => cases first <;> trivial
  | text left => cases first <;> trivial
  | none => trivial
  | bytes => trivial
  | date => trivial
  | datetime => trivial

/-- What a scalar equals is a scalar, and the same. -/
theorem same_of_equals {first second : Data} (scalar : first.IsScalar)
    (same : first.equals second = true) : SameScalar first second := by
  rwa [equals_scalar scalar, equal_scalars] at same

theorem equals_of_same {first second : Data} (same : SameScalar first second) :
    first.equals second = true := by
  rwa [equals_scalar (scalar_of_same same), equal_scalars]

/-- What a tuple equals is a tuple with equal items. -/
theorem tuple_equals {items : List Data} {second : Data} :
    (Data.tuple items).equals second = true ↔
      ∃ others, second = .tuple others ∧ equalLists items others = true := by
  constructor
  · intro same
    unfold equals at same
    split at same <;> rename_i shape <;> first | cases shape | skip
    · exact ⟨_, rfl, same⟩
    · exact (scalar_of_same (equal_scalars.mp same)).elim
  · rintro ⟨others, rfl, same⟩
    rwa [equals]

/-- Data is fit as a key. -/
def IsKey (data : Data) : Prop := data.unhashable? = Option.none

/-- All of some data is fit as keys. -/
def AreKeys (items : List Data) : Prop := unhashableIn? items = Option.none

theorem are_keys_cons {item : Data} {items : List Data} :
    AreKeys (item :: items) ↔ item.IsKey ∧ AreKeys items := by
  simp [AreKeys, IsKey, unhashableIn?]

theorem scalar_or_tuple {data : Data} (key : data.IsKey) :
    data.IsScalar ∨ ∃ items, data = .tuple items := by
  cases data with
  | tuple items => exact .inr ⟨items, rfl⟩
  | list => cases key
  | set => cases key
  | dict => cases key
  | mapping => cases key
  | object => cases key
  | _ => exact .inl trivial

theorem lists_equal_cons {item : Data} {items others : List Data} :
    equalLists (item :: items) others = true ↔
      ∃ other rest, others = other :: rest ∧ item.equals other = true ∧
        equalLists items rest = true := by
  cases others with
  | nil => simp [equalLists]
  | cons other rest => simp [equalLists]

theorem nothing_equal {others : List Data} : equalLists [] others = true ↔ others = [] := by
  cases others <;> simp [equalLists]

mutual

theorem equals_symm (first second : Data) (key : first.IsKey) (same : first.equals second = true) :
    second.equals first = true := by
  rcases scalar_or_tuple key with scalar | ⟨items, rfl⟩
  · exact equals_of_same (same_scalar_symm (same_of_equals scalar same))
  · obtain ⟨others, rfl, alike⟩ := tuple_equals.mp same
    exact tuple_equals.mpr ⟨items, rfl, lists_equal_symm items others key alike⟩
termination_by sizeOf first

theorem lists_equal_symm (items others : List Data) (keys : AreKeys items)
    (same : equalLists items others = true) : equalLists others items = true := by
  match items with
  | [] => exact nothing_equal.mp same ▸ nothing_equal.mpr rfl
  | item :: items =>
      obtain ⟨other, others, rfl, here, later⟩ := lists_equal_cons.mp same
      obtain ⟨key, keys⟩ := are_keys_cons.mp keys
      exact lists_equal_cons.mpr
        ⟨item, items, rfl, equals_symm item other key here, lists_equal_symm items others keys later⟩
termination_by sizeOf items

end

mutual

theorem equals_trans (first second third : Data) (key : first.IsKey)
    (one : first.equals second = true) (other : second.equals third = true) :
    first.equals third = true := by
  rcases scalar_or_tuple key with scalar | ⟨items, rfl⟩
  · have same := same_of_equals scalar one
    have next := same_of_equals (scalar_of_same (same_scalar_symm same)) other
    exact equals_of_same (same_scalar_trans same next)
  · obtain ⟨others, rfl, former⟩ := tuple_equals.mp one
    obtain ⟨more, rfl, latter⟩ := tuple_equals.mp other
    exact tuple_equals.mpr ⟨more, rfl, lists_equal_trans items others more key former latter⟩
termination_by sizeOf first

theorem lists_equal_trans (items others more : List Data) (keys : AreKeys items)
    (one : equalLists items others = true) (other : equalLists others more = true) :
    equalLists items more = true := by
  match items with
  | [] => rwa [nothing_equal.mp one] at other
  | item :: items =>
      obtain ⟨second, others, rfl, here, later⟩ := lists_equal_cons.mp one
      obtain ⟨third, more, rfl, there, after⟩ := lists_equal_cons.mp other
      obtain ⟨key, keys⟩ := are_keys_cons.mp keys
      exact lists_equal_cons.mpr ⟨third, more, rfl, equals_trans item second third key here there,
        lists_equal_trans items others more keys later after⟩
termination_by sizeOf items

end

end Data

end PageTemplates
