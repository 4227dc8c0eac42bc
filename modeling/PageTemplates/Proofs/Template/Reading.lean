import PageTemplates.Template.Grammar.Statement

/-!
What the productions of the grammar take from the tokens before them. An operand that a tag ends behind, such
as a name or a quoted text, is an expression by itself: each rule of the grammar, from the strongest operators
to the weakest, takes it and finds nothing to go on with.
-/

namespace PageTemplates.Template

/-- A production takes some tokens and gives a result, whatever is open around it. -/
def Production.Takes {Result : Type} (rule : Production Result) (before : List Token)
    (result : Result) (after : List Token) : Prop :=
  ∀ tags endings, rule ⟨before, tags, endings⟩ = .ok (result, ⟨after, tags, endings⟩)

/-- A token that could be read. -/
def Token.Readable (token : Token) : Prop := ∀ reason, token.kind ≠ .broken reason

/-- A token that a tag ends with. -/
def Token.Closes (token : Token) : Prop := token.kind = .variableEnd ∨ token.kind = .blockEnd

theorem Token.Closes.readable {token : Token} (closes : token.Closes) : token.Readable := by
  intro reason same
  rcases closes with shown | shown <;> rw [shown] at same <;> cases same

namespace Production

section

variable {First Result State : Type} {before between after : List Token} {token next : Token}
  {rest : List Token}

theorem takes_pure (result : Result) : (pure result : Production Result).Takes before result before :=
  fun _ _ => rfl

theorem takes_bind {rule : Production First} {more : First → Production Result} {first : First}
    {result : Result} (taken : rule.Takes before first between)
    (followed : (more first).Takes between result after) :
    (rule >>= more).Takes before result after := by
  intro tags endings
  change StateT.bind rule more _ = _
  rw [StateT.bind, taken tags endings]
  exact followed tags endings

theorem takes_current : current.Takes (token :: rest) token (token :: rest) := fun _ _ => rfl

theorem takes_check (readable : token.Readable) :
    checkReadable.Takes (token :: rest) () (token :: rest) := by
  refine takes_bind takes_current ?_
  obtain ⟨line, kind⟩ := token
  cases kind with
  | broken reason => exact absurd rfl (readable reason)
  | _ => exact takes_pure ()

theorem takes_advance (readable : next.Readable) :
    advance.Takes (token :: next :: rest) token (next :: rest) :=
  takes_bind takes_current
    (takes_bind (fun _ _ => rfl) (takes_bind (takes_check readable) (takes_pure token)))

/-- A repetition ends with a step that gives its result. -/
theorem takes_last {step : State → Production (State ⊕ Result)} {state : State} {result : Result}
    (last : (step state).Takes before (.inr result) after) (bound : Nat) :
    (repeated step (bound + 1) state).Takes before result after :=
  takes_bind last (takes_pure result)

/-- A repetition goes on behind a step that gives another state. -/
theorem takes_step {step : State → Production (State ⊕ Result)} {state other : State}
    {result : Result} {bound : Nat} (taken : (step state).Takes before (.inl other) between)
    (others : (repeated step bound other).Takes between result after) :
    (repeated step (bound + 1) state).Takes before result after :=
  takes_bind taken others

theorem not_sign (closes : token.Closes) (sign : Sign) : isSign sign token = false := by
  rcases closes with shown | shown <;> simp [isSign, shown]

theorem not_word (closes : token.Closes) (word : String) : isWord word token = false := by
  rcases closes with shown | shown <;> simp [isWord, shown]

theorem skips_no_word {word : String} (apart : isWord word token = false) :
    (skipWord word).Takes (token :: rest) false (token :: rest) := by
  refine takes_bind takes_current ?_
  rw [apart]
  exact takes_pure false

theorem skips_no_sign {sign : Sign} (apart : isSign sign token = false) :
    (skipSign sign).Takes (token :: rest) false (token :: rest) := by
  refine takes_bind takes_current ?_
  rw [apart]
  exact takes_pure false

theorem takes_name {line : Nat} {name : String} (readable : next.Readable) :
    anyName.Takes (⟨line, .name name⟩ :: next :: rest) (line, name) (next :: rest) :=
  takes_bind takes_current (takes_bind (takes_advance readable) (takes_pure _))

end

end Production

open Production

/-- A token that is an expression by itself. -/
inductive Token.Stands : Token → Expression → Prop where
  | name {line : Nat} {name : String} (free : Grammar.constantName? name = none)
    (apart : name ≠ "not") : Stands ⟨line, .name name⟩ (.name name)
  | text {line : Nat} {value : Text} : Stands ⟨line, .string value⟩ (.constant (.text value))

namespace Grammar

variable (grammar : Grammar) {token close : Token} {rest : List Token} {expression : Expression}

theorem takes_string {line : Nat} {value : Text} (closes : close.Closes) (bound : Nat) :
    (adjacentStrings (bound + 2)).Takes (⟨line, .string value⟩ :: close :: rest) value
      (close :: rest) := by
  unfold adjacentStrings
  apply takes_step
  · exact takes_bind takes_current (takes_bind (takes_advance closes.readable) (takes_pure _))
  · refine takes_last ?_ bound
    refine takes_bind takes_current ?_
    rcases closes with shown | shown <;> simp only [shown] <;> exact takes_pure _

theorem takes_primary (stands : token.Stands expression) (closes : close.Closes) :
    grammar.primary.Takes (token :: close :: rest) expression (close :: rest) := by
  refine takes_bind takes_current ?_
  cases stands with
  | name free apart =>
      refine takes_bind (takes_advance closes.readable) ?_
      rw [free]
      exact takes_pure _
  | text => exact takes_bind (takes_string closes grammar.bound) (takes_pure _)

theorem takes_postfixes (closes : close.Closes) (target : Expression) :
    (grammar.postfixes target).Takes (close :: rest) target (close :: rest) := by
  unfold postfixes
  refine takes_last ?_ (grammar.bound + 1)
  refine takes_bind takes_current ?_
  simp only [not_sign closes, Bool.or_self, Bool.false_eq_true, if_false]
  exact takes_pure _

theorem takes_filters_and_tests (closes : close.Closes) (target : Expression) :
    (grammar.filtersAndTests target).Takes (close :: rest) target (close :: rest) := by
  unfold filtersAndTests
  refine takes_last ?_ (grammar.bound + 1)
  refine takes_bind takes_current ?_
  simp only [not_sign closes, not_word closes, Bool.false_eq_true, if_false]
  exact takes_pure _

/-- Tokens that an operand is taken from: the first of them could be read, and is no word or mark that something
else begins or ends with. -/
structure Operand (before : List Token) (expression : Expression) (after : List Token) : Prop where
  taken : (grammar.unaryRule true).Takes before expression after
  apart : ∃ token rest, before = token :: rest ∧ token.Readable ∧ isWord "not" token = false ∧
    tupleEnds [] token = false

/-- A primary that filters do not follow is an operand, with what is written behind it. -/
theorem operand_of_primary {before between : List Token} {target : Expression}
    (begins : ∃ token rest, before = token :: rest ∧ isSign .sub token = false ∧
      isSign .add token = false ∧ token.Readable ∧ isWord "not" token = false ∧
      tupleEnds [] token = false)
    (primary : grammar.primary.Takes before target between)
    (postfixes : (grammar.postfixes target).Takes between expression (close :: rest))
    (closes : close.Closes) : grammar.Operand before expression (close :: rest) := by
  obtain ⟨token, more, rfl, noMinus, noPlus, apart⟩ := begins
  refine ⟨?_, token, more, rfl, apart⟩
  refine takes_bind takes_current ?_
  simp only [noMinus, noPlus, Bool.false_eq_true, if_false]
  exact takes_bind primary (takes_bind postfixes (grammar.takes_filters_and_tests closes _))

theorem operand_of_stands (stands : token.Stands expression) (closes : close.Closes) :
    grammar.Operand (token :: close :: rest) expression (close :: rest) := by
  refine grammar.operand_of_primary ⟨token, _, rfl, ?_⟩ (grammar.takes_primary stands closes)
    (grammar.takes_postfixes closes _) closes
  cases stands with
  | name free apart => exact ⟨rfl, rfl, by rintro _ ⟨⟩, by simpa [isWord] using apart, rfl⟩
  | text => exact ⟨rfl, rfl, by rintro _ ⟨⟩, rfl, rfl⟩

section Operators

variable {before : List Token}

theorem takes_operand {operand : Production Expression} {operator? : Token → Option BinaryOperator}
    (taken : operand.Takes before expression (close :: rest)) (ends : operator? close = none) :
    (grammar.leftAssociative operand operator?).Takes before expression (close :: rest) := by
  refine takes_bind taken ?_
  refine takes_last ?_ (grammar.bound + 1)
  refine takes_bind takes_current ?_
  rw [ends]
  exact takes_pure _

theorem takes_joined {operand : Production Expression} (word : String)
    (build : Expression → Expression → Expression)
    (taken : operand.Takes before expression (close :: rest)) (closes : close.Closes) :
    (grammar.joinedBy word operand build).Takes before expression (close :: rest) := by
  refine takes_bind taken ?_
  refine takes_last ?_ (grammar.bound + 1)
  exact takes_bind (skips_no_word (not_word closes word)) (takes_pure _)

variable (operand : grammar.Operand before expression (close :: rest)) (closes : close.Closes)

include operand closes

theorem takes_products : grammar.products.Takes before expression (close :: rest) := by
  refine grammar.takes_operand (grammar.takes_operand operand.taken ?_) ?_
  · rw [not_sign closes]
    rfl
  · rcases closes with shown | shown <;> simp only [shown]

theorem takes_concatenations : grammar.concatenations.Takes before expression (close :: rest) := by
  refine takes_bind (grammar.takes_products operand closes) ?_
  apply takes_bind
  · apply takes_last
    exact takes_bind (skips_no_sign (not_sign closes .tilde)) (takes_pure _)
  · exact takes_pure _

theorem takes_sums : grammar.sums.Takes before expression (close :: rest) := by
  refine grammar.takes_operand (grammar.takes_concatenations operand closes) ?_
  rcases closes with shown | shown <;> simp only [shown]

theorem takes_comparisons : grammar.comparisons.Takes before expression (close :: rest) := by
  have noOperator : comparison? close = none := by
    rcases closes with shown | shown <;> simp only [comparison?, shown]
  refine takes_bind (grammar.takes_sums operand closes) ?_
  apply takes_bind
  · apply takes_last
    apply takes_bind takes_current
    simp only [noOperator, not_word closes, Bool.false_eq_true, if_false]
    exact takes_pure _
  · exact takes_pure _

theorem takes_negation : grammar.negationRule.Takes before expression (close :: rest) := by
  have comparisons := grammar.takes_comparisons operand closes
  obtain ⟨token, more, rfl, -, notNot, -⟩ := operand.apart
  exact takes_bind (skips_no_word notNot) comparisons

theorem takes_conditional : grammar.conditionalRule.Takes before expression (close :: rest) := by
  have negation := grammar.takes_negation operand closes
  have disjunction := grammar.takes_joined "or" .disjunction
    (grammar.takes_joined "and" .conjunction negation closes) closes
  obtain ⟨token, more, rfl, -⟩ := operand.apart
  refine takes_bind takes_current (takes_bind disjunction ?_)
  refine takes_last ?_ (grammar.bound + 1)
  exact takes_bind (skips_no_word (not_word closes "if")) (takes_pure _)

end Operators

end Grammar

end PageTemplates.Template
