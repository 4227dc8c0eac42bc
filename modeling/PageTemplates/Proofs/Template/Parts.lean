import PageTemplates.Proofs.Template.Fragments
import PageTemplates.Proofs.Template.Reading

/-!
Templates that are put together from parts: literal text, output of names, blocks of literal text, and the
layout that a page extends. The tree of such a template is known from its parts: neighbouring literals are one
text, and the output between two other statements is one statement.
-/

namespace PageTemplates.Template

/-- Whether a name by itself means what the context knows under it. -/
def PlainName.isFree (word : PlainName) : Bool :=
  (Grammar.constantName? word.name).isNone && word.name != "not" && word.name != "self"

/-- A part of a template. -/
inductive Part where
  | literal (content : Literal)
  | output (name : PlainName) (free : name.isFree = true)
  | block (name : PlainName) (body : Literal)
  | extending (layout : Quotation)

namespace Part

def fragments : Part → List Fragment
  | .literal content => [.literal content]
  | .output name _ => [.tag (.output name)]
  | .block name body => [.tag (.opening name), .literal body, .tag .closing]
  | .extending layout => [.tag (.extending layout)]

/-- How parts are written one after another. -/
def sourceOf (parts : List Part) : Text := Template.sourceOf (parts.flatMap fragments)

/-- The literal text of a part. -/
def literals : Part → List Literal
  | .literal content => [content]
  | .block _ body => [body]
  | _ => []

theorem literals_inside {parts : List Part} {part : Part} (among : part ∈ parts) {content : Literal}
    (inside : content ∈ part.literals) : content.text ⊆ sourceOf parts := by
  apply literal_inside
  refine List.mem_flatMap.mpr ⟨part, among, ?_⟩
  cases part with
  | literal | block =>
      cases List.mem_singleton.mp inside
      simp [fragments]
  | output | extending => cases inside

end Part

/-- Literal text as it stands in output, unless it is empty. -/
def literalOutput (text : Text) : List Expression := if text.isEmpty then [] else [.data text]

/-- The statement of output, unless there is none. -/
def outputOf (parts : List Expression) : List Statement := if parts.isEmpty then [] else [.output parts]

/-- The tree of parts after text and output that belong to the same statement. -/
def treeAfter : (before : Text) → (outputs : List Expression) → List Part → List Statement
  | before, outputs, [] => outputOf (outputs ++ literalOutput before)
  | before, outputs, .literal content :: rest => treeAfter (before ++ content.text) outputs rest
  | before, outputs, .output name _ :: rest =>
    treeAfter [] (outputs ++ literalOutput before ++ [.name name.name]) rest
  | before, outputs, .block name body :: rest =>
    outputOf (outputs ++ literalOutput before) ++
      .block 1 name.name (outputOf (literalOutput body.text)) false false :: treeAfter [] [] rest
  | before, outputs, .extending layout :: rest =>
    outputOf (outputs ++ literalOutput before) ++
      .extending 1 (.constant (.text layout.value)) :: treeAfter [] [] rest

open Production

theorem PlainName.IsFree.stands {word : PlainName} (free : word.isFree = true) :
    (Token.first (.name word.name)).Stands (.name word.name) := by
  unfold PlainName.isFree at free
  simp only [Bool.and_eq_true, Option.isNone_iff_eq_none, bne_iff_ne] at free
  exact .name free.1.1 free.1.2

/-- There is a first token, which could be read. -/
theorem tokens_start (fragments : List Fragment) (before : Text) :
    ∃ next rest, (tokensAfter before fragments ++ [TokenKind.ending]).map Token.first = next :: rest ∧
      next.Readable := by
  have behind (text : Text) {kind : TokenKind} (others : List TokenKind)
      (whole : ∀ reason, kind ≠ .broken reason) :
      ∃ next rest, (dataTokens text ++ kind :: others).map Token.first = next :: rest ∧
        next.Readable := by
    unfold dataTokens
    split
    · exact ⟨_, _, rfl, whole⟩
    · exact ⟨_, _, rfl, by rintro _ ⟨⟩⟩
  induction fragments generalizing before with
  | nil => exact behind before [] (by rintro _ ⟨⟩)
  | cons fragment rest ih =>
      cases fragment with
      | literal content => exact ih _
      | tag tag =>
          unfold tokensAfter Tag.tokens
          rw [List.append_assoc, List.append_assoc]
          apply behind
          cases tag <;> rintro _ ⟨⟩

section Tokens

variable (before : Text) (rest : List Fragment)

theorem tokens_output (name : PlainName) (free : name.isFree = true) :
    tokensAfter before ((Part.output name free).fragments ++ rest) =
      dataTokens before ++ .variableBegin :: .name name.name :: .variableEnd ::
        tokensAfter [] rest := by
  simp [Part.fragments, tokensAfter, Tag.tokens, Tag.kind, Tag.words, Word.token,
    TagKind.openingToken, TagKind.closingToken]

theorem tokens_block (name : PlainName) (body : Literal) :
    tokensAfter before ((Part.block name body).fragments ++ rest) =
      dataTokens before ++ .blockBegin :: .name "block" :: .name name.name :: .blockEnd ::
        (dataTokens body.text ++ .blockBegin :: .name "endblock" :: .blockEnd ::
          tokensAfter [] rest) := by
  simp [Part.fragments, tokensAfter, Tag.tokens, Tag.kind, Tag.words, Word.token,
    TagKind.openingToken, TagKind.closingToken, PlainName.block, PlainName.endblock]

theorem tokens_extending (layout : Quotation) :
    tokensAfter before ((Part.extending layout).fragments ++ rest) =
      dataTokens before ++ .blockBegin :: .name "extends" :: .string layout.value :: .blockEnd ::
        tokensAfter [] rest := by
  simp [Part.fragments, tokensAfter, Tag.tokens, Tag.kind, Tag.words, Word.token,
    TagKind.openingToken, TagKind.closingToken, PlainName.extends_]

end Tokens

theorem closes_variable : (Token.first .variableEnd).Closes := .inl rfl

theorem closes_block : (Token.first .blockEnd).Closes := .inr rfl

namespace Production

variable {next : Token} {rest : List Token}

theorem takes_variable_end (readable : next.Readable) :
    variableEnd.Takes (Token.first .variableEnd :: next :: rest) () (next :: rest) := by
  apply takes_bind takes_current
  exact takes_bind (takes_advance readable) (takes_pure ())

theorem takes_block_end (readable : next.Readable) :
    blockEnd.Takes (Token.first .blockEnd :: next :: rest) () (next :: rest) := by
  apply takes_bind takes_current
  exact takes_bind (takes_advance readable) (takes_pure ())

/-- What a rule notes around another one, and takes back, does not matter to what is taken. -/
theorem takes_between {Result : Type} {rule : Production Result} {result : Result}
    {before after : List Token} {push pop : ParseState → ParseState}
    (noted : ∀ tags endings, ∃ inner outer, ∀ tokens,
      push ⟨tokens, tags, endings⟩ = ⟨tokens, inner, outer⟩ ∧
        pop ⟨tokens, inner, outer⟩ = ⟨tokens, tags, endings⟩)
    (taken : rule.Takes before result after) :
    (do
      modify push
      let result ← rule
      modify pop
      return result).Takes before result after := by
  intro tags endings
  obtain ⟨inner, outer, there⟩ := noted tags endings
  have pushes : (modify push : Production Unit) ⟨before, tags, endings⟩ =
      .ok ((), ⟨before, inner, outer⟩) := congrArg (fun state => Except.ok ((), state)) (there before).1
  have pops : (modify pop : Production Unit) ⟨after, inner, outer⟩ =
      .ok ((), ⟨after, tags, endings⟩) := congrArg (fun state => Except.ok ((), state)) (there after).2
  change StateT.bind (modify push) (fun _ => StateT.bind rule fun result =>
    StateT.bind (modify pop) fun _ => pure result) _ = _
  simp only [StateT.bind, pushes, pops, taken inner outer, bind, Except.bind]
  rfl

end Production

namespace Grammar

variable (grammar : Grammar) {token close next : Token} {rest : List Token} {expression : Expression}

theorem takes_open_tuple {before : List Token}
    (operand : grammar.Operand before expression (close :: rest)) (closes : close.Closes) :
    (grammar.raised.openTuple true []).Takes before expression (close :: rest) := by
  have conditional := grammar.takes_conditional operand closes
  obtain ⟨token, more, rfl, -, -, goesOn⟩ := operand.apart
  unfold openTuple tupleOf
  apply takes_bind (?_ : Takes _ _ ([expression], false) (close :: rest))
  · exact takes_pure expression
  · apply takes_last
    simp only [List.isEmpty_nil, Bool.not_true, Bool.false_eq_true, if_false]
    apply takes_bind takes_current
    simp only [goesOn, Bool.false_eq_true, if_false]
    apply takes_bind conditional
    apply takes_bind takes_current
    simp only [not_sign closes, Bool.false_eq_true, if_false]
    exact takes_pure _

theorem flushed_outputs (outputs : List Expression) (done : List Statement) :
    flushed outputs.reverse done = (outputOf outputs).reverse ++ done := by
  unfold flushed outputOf
  cases outputs with
  | nil => rfl
  | cons first rest => simp

theorem flushed_ordered (outputs : List Expression) (done : List Statement) :
    (flushed outputs.reverse done).reverse = done.reverse ++ outputOf outputs := by
  rw [flushed_outputs]
  simp

section Bodies

variable {endings : Option (List String)} {outputs : List Expression} {done : List Statement}
  {result : List Statement} {after : List Token}

/-- Text that stands before other tokens goes to the output. -/
theorem takes_literal (text : Text) (readable : next.Readable) {bound : Nat}
    (others : (repeated (grammar.bodyStep endings) bound
      ((outputs ++ literalOutput text).reverse, done)).Takes (next :: rest) result after) :
    (repeated (grammar.bodyStep endings) (bound + (dataTokens text).length)
      (outputs.reverse, done)).Takes ((dataTokens text).map Token.first ++ next :: rest) result
      after := by
  unfold literalOutput at others
  unfold dataTokens
  cases text with
  | nil => simpa using others
  | cons point more =>
      simp only [List.isEmpty_cons, Bool.false_eq_true, if_false, List.reverse_append] at others
      apply takes_step _ others
      apply takes_bind takes_current
      exact takes_bind (takes_advance readable) (takes_pure _)

/-- An operand in a tag for output goes to the output. -/
theorem takes_output {before : List Token}
    (operand : grammar.Operand before expression (Token.first .variableEnd :: next :: rest))
    (readable : next.Readable) {bound : Nat}
    (others : (repeated (grammar.raised.bodyStep endings) bound
      ((outputs ++ [expression]).reverse, done)).Takes (next :: rest) result after) :
    (repeated (grammar.raised.bodyStep endings) (bound + 1) (outputs.reverse, done)).Takes
      (Token.first .variableBegin :: before) result after := by
  have tuple := grammar.takes_open_tuple operand closes_variable
  obtain ⟨token, more, rfl, starts, -⟩ := operand.apart
  rw [List.reverse_append] at others
  apply takes_step _ others
  apply takes_bind takes_current
  apply takes_bind (takes_advance starts)
  apply takes_bind tuple
  exact takes_bind (takes_variable_end readable) (takes_pure _)

/-- A body ends before the word that it is read up to, and what is left of the output is a statement. -/
theorem takes_body_end {word : String} (among : ∃ words, endings = some words ∧ word ∈ words)
    (bound : Nat) :
    (repeated (grammar.bodyStep endings) (bound + 1) (outputs.reverse, done)).Takes
      (Token.first .blockBegin :: Token.first (.name word) :: rest)
      (done.reverse ++ outputOf outputs) (Token.first (.name word) :: rest) := by
  obtain ⟨words, rfl, inside⟩ := among
  have ends : isOneOf words (Token.first (.name word)) = true :=
    List.any_eq_true.mpr ⟨word, inside, by simp [isWord, Token.first]⟩
  apply takes_last
  apply takes_bind takes_current
  apply takes_bind (takes_advance (by rintro _ ⟨⟩))
  apply takes_bind takes_current
  simp only [Option.any_some, ends, if_true, flushed_ordered]
  exact takes_pure _

/-- A statement inside a body, up to the mark that closes its tag. -/
theorem takes_statement_step {word : String} {statement : Statement} {bound : Nat}
    {between : List Token} (apart : ∀ words, endings = some words → word ∉ words)
    (taken : grammar.statement.Takes (Token.first (.name word) :: between) statement
      (Token.first .blockEnd :: next :: rest)) (readable : next.Readable)
    (others : (repeated (grammar.bodyStep endings) bound
      ([], statement :: ((outputOf outputs).reverse ++ done))).Takes (next :: rest) result after) :
    (repeated (grammar.bodyStep endings) (bound + 1) (outputs.reverse, done)).Takes
      (Token.first .blockBegin :: Token.first (.name word) :: between) result after := by
  have goesOn : (endings.any fun words => isOneOf words (Token.first (.name word))) = false := by
    cases endings with
    | none => rfl
    | some words =>
        have outside := apart words rfl
        simp only [Option.any_some, isOneOf, List.any_eq_false]
        intro other inside
        have different : other ≠ word := fun same => outside (same ▸ inside)
        simpa [isWord, Token.first] using different.symm
  apply takes_step _ others
  apply takes_bind takes_current
  apply takes_bind (takes_advance (by rintro _ ⟨⟩))
  apply takes_bind takes_current
  simp only [goesOn, Bool.false_eq_true, if_false, flushed_outputs]
  apply takes_bind taken
  exact takes_bind (takes_block_end readable) (takes_pure _)

end Bodies

/-- The body of a block, up to the word that ends it. -/
theorem takes_block_body (body : Literal) :
    (grammar.bodyRule (some ["endblock"])).Takes
      ((dataTokens body.text).map Token.first ++ Token.first .blockBegin ::
        Token.first (.name "endblock") :: rest)
      (outputOf (literalOutput body.text)) (Token.first (.name "endblock") :: rest) := by
  have steps : (dataTokens body.text).length ≤ 1 := by
    unfold dataTokens
    split <;> simp
  obtain ⟨more, enough⟩ : ∃ more, grammar.bound + 2 = more + 1 + (dataTokens body.text).length :=
    ⟨grammar.bound + 1 - (dataTokens body.text).length, by omega⟩
  have ends : (repeated (grammar.bodyStep (some ["endblock"])) (more + 1 + (dataTokens body.text).length)
      ([], [])).Takes ((dataTokens body.text).map Token.first ++ Token.first .blockBegin ::
        Token.first (.name "endblock") :: rest)
      (outputOf (literalOutput body.text)) (Token.first (.name "endblock") :: rest) := by
    change (repeated _ _ (List.reverse [], [])).Takes _ _ _
    apply grammar.takes_literal body.text (by nofun)
    exact grammar.takes_body_end ⟨["endblock"], rfl, List.mem_singleton_self _⟩ more
  rw [← enough] at ends
  apply takes_between _ ends
  intro tags endings
  exact ⟨tags, ["endblock"] :: endings, fun _ => ⟨rfl, rfl⟩⟩

theorem takes_statement {word : String} {rule : Production Statement} {statement : Statement}
    {after : List Token} (known : grammar.statementRule? word = some rule)
    (taken : rule.Takes (Token.first (.name word) :: rest) statement after) :
    grammar.statement.Takes (Token.first (.name word) :: rest) statement after := by
  apply takes_bind takes_current
  simp only [Token.first, known]
  apply takes_between _ taken
  intro tags endings
  exact ⟨word :: tags, endings, fun _ => ⟨rfl, rfl⟩⟩

theorem takes_block (name : PlainName) (body : Literal) :
    grammar.raised.statement.Takes
      (Token.first (.name "block") :: Token.first (.name name.name) :: Token.first .blockEnd ::
        ((dataTokens body.text).map Token.first ++ Token.first .blockBegin ::
          Token.first (.name "endblock") :: Token.first .blockEnd :: rest))
      (.block 1 name.name (outputOf (literalOutput body.text)) false false)
      (Token.first .blockEnd :: rest) := by
  apply takes_statement _ rfl
  apply takes_bind (takes_advance (by nofun))
  apply takes_bind (takes_name (by nofun))
  apply takes_bind (skips_no_word (not_word closes_block _))
  apply takes_bind (skips_no_word (not_word closes_block _))
  apply takes_bind takes_current
  simp only [not_sign closes_block, Bool.false_eq_true, if_false]
  have ended : (grammar.raised.statementsThrough "endblock").Takes
      (Token.first .blockEnd :: ((dataTokens body.text).map Token.first ++
        Token.first .blockBegin :: Token.first (.name "endblock") :: Token.first .blockEnd :: rest))
      (outputOf (literalOutput body.text)) (Token.first .blockEnd :: rest) := by
    have follows : ∃ first others, (dataTokens body.text).map Token.first ++
        Token.first .blockBegin :: Token.first (.name "endblock") :: Token.first .blockEnd :: rest =
          first :: others ∧ first.Readable := by
      unfold dataTokens
      split <;> exact ⟨_, _, rfl, by nofun⟩
    obtain ⟨first, others, shown, readable⟩ := follows
    apply takes_bind
    · apply takes_bind (skips_no_sign (not_sign closes_block _))
      rw [shown]
      apply takes_bind (takes_block_end readable)
      rw [← shown]
      apply takes_bind (grammar.takes_block_body body)
      exact takes_bind takes_current (takes_pure _)
    · exact takes_bind (takes_advance (by nofun)) (takes_pure _)
  apply takes_bind ended
  exact takes_bind (skips_no_word (not_word closes_block _)) (takes_pure _)

theorem takes_extending (layout : Quotation) :
    grammar.raised.statement.Takes
      (Token.first (.name "extends") :: Token.first (.string layout.value) ::
        Token.first .blockEnd :: rest)
      (.extending 1 (.constant (.text layout.value))) (Token.first .blockEnd :: rest) := by
  apply takes_statement _ rfl
  apply takes_bind (takes_advance (by nofun))
  have layoutTaken : grammar.raised.conditional.Takes
      (Token.first (.string layout.value) :: Token.first .blockEnd :: rest)
      (.constant (.text layout.value)) (Token.first .blockEnd :: rest) :=
    grammar.takes_conditional (grammar.operand_of_stands .text closes_block) closes_block
  exact takes_bind layoutTaken (takes_pure _)

/-- The tokens of parts are read as their tree. -/
theorem takes_parts (parts : List Part) (before : Text) (outputs : List Expression)
    (done : List Statement) {bound : Nat}
    (enough : (tokensAfter before (parts.flatMap Part.fragments)).length < bound) :
    (repeated (grammar.raised.raised.bodyStep none) bound (outputs.reverse, done)).Takes
      ((tokensAfter before (parts.flatMap Part.fragments) ++ [TokenKind.ending]).map Token.first)
      (done.reverse ++ treeAfter before outputs parts) [Token.first .ending] := by
  induction parts generalizing before outputs done bound with
  | nil =>
      obtain ⟨more, rfl⟩ : ∃ more, bound = more + 1 + (dataTokens before).length :=
        ⟨bound - 1 - (dataTokens before).length, by simp [tokensAfter] at enough; omega⟩
      rw [List.flatMap_nil, tokensAfter, treeAfter, List.map_append]
      apply Grammar.takes_literal _ _ (by rintro _ ⟨⟩)
      apply takes_last
      apply takes_bind takes_current
      simp only [Token.first, flushed_ordered]
      exact takes_pure _
  | cons part rest ih =>
      obtain ⟨next, others, shown, readable⟩ := tokens_start (rest.flatMap Part.fragments) []
      rw [List.flatMap_cons] at enough ⊢
      cases part with
      | literal content => exact ih _ _ _ enough
      | output name free =>
          rw [tokens_output] at enough ⊢
          simp only [List.length_append, List.length_cons] at enough
          obtain ⟨more, rfl⟩ : ∃ more, bound = more + 1 + (dataTokens before).length :=
            ⟨bound - 1 - (dataTokens before).length, by omega⟩
          have later := ih [] (outputs ++ literalOutput before ++ [.name name.name]) done
            (show _ < more by omega)
          rw [shown] at later
          simp only [List.append_assoc, List.map_append, List.cons_append, List.map_cons] at shown ⊢
          rw [shown]
          apply Grammar.takes_literal _ _ (by rintro _ ⟨⟩)
          apply Grammar.takes_output _ _ readable later
          exact Grammar.operand_of_stands _ (PlainName.IsFree.stands free) closes_variable
      | block name body =>
          rw [tokens_block] at enough ⊢
          simp only [List.length_append, List.length_cons] at enough
          obtain ⟨more, rfl⟩ : ∃ more, bound = more + 1 + (dataTokens before).length :=
            ⟨bound - 1 - (dataTokens before).length, by omega⟩
          have later := ih [] []
            (.block 1 name.name (outputOf (literalOutput body.text)) false false ::
              ((outputOf (outputs ++ literalOutput before)).reverse ++ done))
            (show _ < more by omega)
          rw [shown] at later
          simp only [List.append_assoc, List.map_append, List.cons_append, List.map_cons] at shown ⊢
          rw [shown]
          apply Grammar.takes_literal _ _ (by rintro _ ⟨⟩)
          apply Grammar.takes_statement_step _ (by rintro _ ⟨⟩) (Grammar.takes_block _ name body) readable
          simpa [treeAfter] using later
      | extending layout =>
          rw [tokens_extending] at enough ⊢
          simp only [List.length_append, List.length_cons] at enough
          obtain ⟨more, rfl⟩ : ∃ more, bound = more + 1 + (dataTokens before).length :=
            ⟨bound - 1 - (dataTokens before).length, by omega⟩
          have later := ih [] []
            (.extending 1 (.constant (.text layout.value)) ::
              ((outputOf (outputs ++ literalOutput before)).reverse ++ done))
            (show _ < more by omega)
          rw [shown] at later
          simp only [List.append_assoc, List.map_append, List.cons_append, List.map_cons] at shown ⊢
          rw [shown]
          apply Grammar.takes_literal _ _ (by rintro _ ⟨⟩)
          apply Grammar.takes_statement_step _ (by rintro _ ⟨⟩) (Grammar.takes_extending _ layout) readable
          simpa [treeAfter] using later

theorem bound_of_level (level : Nat) : (ofLevel level).bound = level := by
  induction level with
  | zero => rfl
  | succ level ih => exact congrArg (· + 1) ih

end Grammar

/-- A source has the tree that is taken from its tokens up to the last one. -/
theorem parse_of_takes {source : Text} {next : Token} {others : List Token} {tree : List Statement}
    (scanned : scan source = next :: others) (readable : next.Readable)
    (taken : ∀ (grammar : Grammar) (bound : Nat), others.length + 1 < bound →
      (repeated (grammar.raised.raised.bodyStep none) bound ([], [])).Takes (next :: others) tree
        [Token.first .ending]) : parse source = .ok tree := by
  let grammar := (Grammar.ofLevel others.length).raised.raised
  have bound : grammar.bound = others.length + 2 := Grammar.bound_of_level (others.length + 2)
  have read : (grammar.bodyRule none).Takes (next :: others) tree [Token.first .ending] := by
    unfold Grammar.bodyRule
    simp only [Option.isSome_none, Bool.false_eq_true, if_false]
    exact takes_bind (taken _ _ (by omega)) (takes_pure _)
  unfold parse
  rw [scanned]
  have whole : (checkReadable >>= fun _ => grammar.bodyRule none).Takes (next :: others) tree
      [Token.first .ending] := takes_bind (takes_check readable) read
  exact congrArg (Except.map Prod.fst) (whole [] [])

/-- The tree of a template that is put together from parts. -/
theorem parse_parts (parts : List Part) :
    parse (Part.sourceOf parts) = .ok (treeAfter [] [] parts) := by
  obtain ⟨next, others, shown, readable⟩ := tokens_start (parts.flatMap Part.fragments) []
  have sizes := congrArg List.length shown
  simp only [List.length_map, List.length_append, List.length_cons] at sizes
  refine parse_of_takes ((scan_source _).trans shown) readable fun grammar bound enough => ?_
  rw [← shown]
  exact Grammar.takes_parts _ parts [] [] [] (by omega)

end PageTemplates.Template
