import PageTemplates.Proofs.Template.Parts
import PageTemplates.Proofs.Template.Programs

/-!
Templates that call a name without arguments. Where the name is read inside tags and means what the context
knows under it, the tokens of such a template are the name between its brackets and marks, its tree is one
output, and its program looks the name up, calls what is there and writes the result.
-/

namespace PageTemplates.Template

/-- The source that writes what a call of a name without arguments gives. -/
def callSource (name : Text) : Text := "\x7b\x7b " ++ name ++ "() \x7d\x7d"

/-- Whether a name means what the context knows under it: it is no constant and not the template itself. -/
def meansContext (name : String) : Bool :=
  (Grammar.constantName? name).isNone && name != "self"

section Scanning

variable {kind : TagKind} {bound line place : Nat} {previous : Option CodePoint}

theorem literal_absent {first : Char} (noName : isNamePoint (.scalar first) = false)
    (noDecimal : Text.isDecimal first.toNat = false) (noDigit : first.toNat < 48 ∨ 57 < first.toNat)
    (noQuote : first ≠ '\x27' ∧ first ≠ '\x22') (rest : Text) :
    literal? previous (.scalar first :: rest) = none := by
  have noQuoted : quotedRun? (.scalar first :: rest) = none := by
    simp [quotedRun?, Text.singleQuote, Text.doubleQuote, noQuote]
  simp [literal?, float_absent noDecimal, integer_absent noDigit, noName, noQuoted]

/-- A sign of one character is read as its token where no closing mark is. -/
theorem scan_sign {first : Char} {sign : Sign} {waiting next : List Sign} {rest : Text}
    (noMark : (if waiting.isEmpty then closingMark? kind (.scalar first :: rest) else none) = none)
    (noBlank : Text.blank (.scalar first) = false) (noBreak : first ≠ '\n')
    (noLiteral : literal? previous (.scalar first :: rest) = none)
    (isSign : sign? (.scalar first :: rest) = some (sign, 1))
    (balanced : balance sign waiting = .ok next) (done : List Token) :
    scanTag kind (bound + 1) ⟨line, place, .scalar first :: rest⟩ previous waiting done =
      scanTag kind bound ⟨line, place + 1, rest⟩ (some (.scalar first)) next
        (⟨line, .sign sign⟩ :: done) := by
  rw [scanTag, noMark]
  simp [noBlank, noLiteral, isSign, balanced, ScanPoint.skip, breaksIn, noBreak]

/-- The brackets of a call without arguments are read, and then the mark that closes the tag. -/
theorem scan_brackets (done : List Token) : ∃ behind,
    scanTag .variable (bound + 4) ⟨line, place, Text.ofString "() \x7d\x7d"⟩ previous [] done =
      (⟨line, .variableEnd⟩ :: ⟨line, .sign .rightParen⟩ :: ⟨line, .sign .leftParen⟩ :: done,
        some ⟨line, behind, []⟩) := by
  have noBlank : Text.blank (.scalar '\x7d') = false := rfl
  have opens : isNamePoint (.scalar '(') = false ∧ Text.isDecimal '('.toNat = false := by decide +kernel
  have closes : isNamePoint (.scalar ')') = false ∧ Text.isDecimal ')'.toNat = false := by decide +kernel
  obtain ⟨behind, ended⟩ := scan_words .variable (bound + 2) line (place + 2) (some (.scalar ')')) []
    (by simp) [] (⟨line, .sign .rightParen⟩ :: ⟨line, .sign .leftParen⟩ :: done)
  refine ⟨behind, ?_⟩
  have shown : Text.ofString "() \x7d\x7d" =
      .scalar '(' :: .scalar ')' :: wordsThen .variable [] [] := by decide
  have opened : balance .leftParen [] = .ok [.rightParen] := rfl
  have closed : balance .rightParen [.rightParen] = .ok [] := rfl
  rw [shown, scan_sign rfl rfl (by decide)
    (literal_absent opens.1 opens.2 (by decide) (by decide) _) rfl opened,
    scan_sign rfl rfl (by decide) (literal_absent closes.1 closes.2 (by decide) (by decide) _) rfl closed,
    ended]
  rfl

end Scanning

/-- The tokens of a call of a name without arguments. -/
theorem scan_call {name : Text} (read : IsRead name) {string : String} (same : name = Text.ofString string) :
    scan (callSource name) = [Token.first .variableBegin, Token.first (.name string),
      Token.first (.sign .leftParen), Token.first (.sign .rightParen), Token.first .variableEnd,
      Token.first .ending] := by
  let inside : Text := .scalar ' ' :: (name ++ Text.ofString "() \x7d\x7d")
  have source : callSource name = TagKind.variable.opening ++ inside := rfl
  have unbroken : IsLine (callSource name) := by
    have ends : IsLine (Text.ofString "() \x7d\x7d") := by decide
    have blank : IsLine [.scalar ' '] := by decide
    rw [source]
    exact (opening_line .variable).append (blank.append (read.line.append ends))
  obtain ⟨first, more, shown, -, -, starts⟩ := read.shape
  obtain ⟨bound, enough⟩ : ∃ bound, inside.length + 1 = bound + 4 + 2 := by
    refine ⟨inside.length + 1 - 6, ?_⟩
    have long : 6 ≤ inside.length := by
      simp [inside, shown, Text.ofString, Text.ofChars]
    omega
  have blank (previous : Option CodePoint) (done : List Token) :
      scanTag .variable (bound + 4 + 1 + 1) ⟨1, 2, inside⟩ previous [] done =
        scanTag .variable (bound + 4 + 1) ⟨1, 3, name ++ Text.ofString "() \x7d\x7d"⟩ (some (.scalar ' '))
          [] done := by
    have skipped := scan_blank .variable (bound + 4 + 1) 1 2 previous starts.1
      (more ++ Text.ofString "() \x7d\x7d") done
    rw [← List.cons_append, ← shown] at skipped
    exact skipped
  have stops : isNamePoint (.scalar '(') = false := by decide +kernel
  have ending : Text.ofString "() \x7d\x7d" = .scalar '(' :: Text.ofString ") \x7d\x7d" := rfl
  have reading := read.literal same stops (some (.scalar ' ')) (Text.ofString ") \x7d\x7d")
  rw [← ending] at reading
  obtain ⟨next, named⟩ := scan_literal .variable (bound + 4) 1 3 (some (.scalar ' ')) 
    ⟨first, more, shown, starts⟩ read.line reading [Token.first .variableBegin]
  obtain ⟨behind, ended⟩ := @scan_brackets bound 1 (3 + name.length) next
    [Token.first (.name string), Token.first .variableBegin]
  have tag : scanTag .variable (inside.length + 1) ⟨1, 0 + 2, inside⟩ TagKind.variable.opening.getLast? []
      [Token.first .variableBegin] =
      ([Token.first .variableEnd, Token.first (.sign .rightParen), Token.first (.sign .leftParen),
        Token.first (.name string), Token.first .variableBegin], some ⟨1, behind, []⟩) := by
    rw [enough, blank]
    exact named.trans ended
  have found : searchFirst opening? (TagKind.variable.opening ++ inside) =
      some ([], .tag .variable .none inside) := search_here rfl (by rintro ⟨⟩)
  have known : TagKind.variable ≠ .comment := by decide
  have scanned : scanData ((callSource name).length + 1) ⟨1, 0, callSource name⟩ [] =
      [Token.first .variableEnd, Token.first (.sign .rightParen), Token.first (.sign .leftParen),
        Token.first (.name string), Token.first .variableBegin] := by
    rw [source, scan_data_tag known (opening_line .variable) found]
    exact tag ▸ rfl
  rw [scan, normalize_line unbroken]
  simp only [scanned]
  rfl

open Production

namespace Grammar

variable (grammar : Grammar) {close : Token} {rest : List Token}

/-- Brackets with nothing in them are no arguments. -/
theorem takes_no_arguments (readable : close.Readable) :
    grammar.callArguments.Takes
      (Token.first (.sign .leftParen) :: Token.first (.sign .rightParen) :: close :: rest) Arguments.none
      (close :: rest) := by
  have opens : (sign .leftParen).Takes
      (Token.first (.sign .leftParen) :: Token.first (.sign .rightParen) :: close :: rest)
      (Token.first (.sign .leftParen)) (Token.first (.sign .rightParen) :: close :: rest) :=
    takes_bind takes_current (takes_advance (by rintro _ ⟨⟩))
  have closes : (sign .rightParen).Takes (Token.first (.sign .rightParen) :: close :: rest)
      (Token.first (.sign .rightParen)) (close :: rest) :=
    takes_bind takes_current (takes_advance readable)
  apply takes_bind opens
  refine takes_bind (?_ : Takes _ _ Arguments.none _) (takes_bind closes (takes_pure _))
  refine takes_last ?_ (grammar.bound + 1)
  exact takes_bind takes_current (takes_pure _)

/-- A name with brackets behind it is an operand. -/
theorem operand_of_call {string : String} (means : meansContext string = true) (apart : string ≠ "not")
    (closes : close.Closes) :
    grammar.Operand (Token.first (.name string) :: Token.first (.sign .leftParen) ::
      Token.first (.sign .rightParen) :: close :: rest) (.call (.name string) Arguments.none)
      (close :: rest) := by
  have free : constantName? string = none := by
    unfold meansContext at means
    simp only [Bool.and_eq_true, Option.isNone_iff_eq_none] at means
    exact means.1
  have primary : grammar.primary.Takes (Token.first (.name string) :: Token.first (.sign .leftParen) ::
      Token.first (.sign .rightParen) :: close :: rest) (.name string)
      (Token.first (.sign .leftParen) :: Token.first (.sign .rightParen) :: close :: rest) := by
    refine takes_bind takes_current ?_
    refine takes_bind (takes_advance (by rintro _ ⟨⟩)) ?_
    rw [free]
    exact takes_pure _
  have called : (grammar.postfixes (.name string)).Takes (Token.first (.sign .leftParen) ::
      Token.first (.sign .rightParen) :: close :: rest) (.call (.name string) Arguments.none)
      (close :: rest) := by
    unfold postfixes
    apply takes_step
    · apply takes_bind takes_current
      exact takes_bind (grammar.takes_no_arguments closes.readable) (takes_pure _)
    · refine takes_last ?_ grammar.bound
      refine takes_bind takes_current ?_
      simp only [not_sign closes, Bool.or_self, Bool.false_eq_true, if_false]
      exact takes_pure _
  exact grammar.operand_of_primary
    ⟨_, _, rfl, rfl, rfl, by rintro _ ⟨⟩, by simpa [isWord, Token.first] using apart, rfl⟩ primary called closes

end Grammar

/-- The tree of a call of a name without arguments. -/
theorem parse_call {name : Text} (read : IsRead name) {string : String} (same : name = Text.ofString string)
    (means : meansContext string = true) (apart : string ≠ "not") :
    parse (callSource name) = .ok [.output [.call (.name string) Arguments.none]] := by
  refine parse_of_takes (scan_call read same) (by rintro _ ⟨⟩) fun grammar bound enough => ?_
  obtain ⟨bound, rfl⟩ : ∃ less, bound = less + 2 := ⟨bound - 2, by omega⟩
  have ends : (repeated (grammar.raised.raised.bodyStep none) (bound + 1)
      (([] ++ [Expression.call (.name string) Arguments.none]).reverse, [])).Takes [Token.first .ending]
      [.output [.call (.name string) Arguments.none]] [Token.first .ending] := by
    refine takes_last ?_ bound
    exact takes_bind takes_current (takes_pure _)
  exact Grammar.takes_output _ (Grammar.operand_of_call _ means apart closes_variable) (by rintro _ ⟨⟩) ends

/-- The code of a call of a name without arguments. -/
def callCode (string : String) : Code := .call (.variable ⟨0, string⟩ true) (.mk [] [] [] none none)

/-- The program that looks a name up, calls what is there and writes the result. -/
def callProgram (escapes : Bool) (string : String) : Program :=
  ⟨false, false, .knowing [string], [.output false [.value (callCode string) (.settled escapes)]], []⟩

namespace Compile

variable {compiler : Compiler} {before : CompileState} {position : Position} {string : String}

theorem gives_call (scopes : position.scopes = Scopes.knowing [string]) :
    (expressionCode position (.call (.name string) Arguments.none)).Gives compiler before
      (callCode string) before := by
  have prepared : (prepare (.call (.name string) Arguments.none)).Gives compiler before
      (.call (.name string) Arguments.none) before := by
    apply gives_bind gives_get
    cases before.unsettled <;> rfl
  apply gives_bind prepared
  apply gives_bind (gives_name scopes (List.mem_singleton_self _))
  exact gives_bind rfl (gives_pure _)

/-- Output of a call is one piece. -/
theorem gives_call_output (scopes : position.scopes = Scopes.knowing [string])
    (unchecked : position.checksOutput = false) (settled : before.unsettled = false) :
    (outputStep position [.call (.name string) Arguments.none]).Gives compiler before
      (steps [.output false [.value (callCode string) (.settled before.escapes)]]) before := by
  have pieces : (piecesOf position [] [.call (.name string) Arguments.none]).Gives compiler before
      [.value (callCode string) (.settled before.escapes)] before := by
    have notConstant : (constantPiece (.call (.name string) Arguments.none)).Gives compiler before none before :=
      rfl
    apply gives_bind notConstant
    apply gives_bind (gives_call scopes)
    apply gives_bind (gives_escaping settled)
    exact gives_bind (gives_pure _) (gives_pure _)
  unfold outputStep
  rw [unchecked]
  apply gives_bind gives_get
  exact gives_bind pieces (gives_pure _)

end Compile

/-- The program of a call of a name without arguments. -/
theorem compile_call (compiler : Compiler) {string : String} (means : meansContext string = true) :
    compile compiler [.output [.call (.name string) Arguments.none]] =
      .ok (callProgram compiler.escapes string) := by
  have notSelf : (string == "self") = false := by
    unfold meansContext at means
    simp only [Bool.and_eq_true, bne_iff_ne] at means
    exact beq_eq_false_iff_ne.mpr means.2
  have selfless : uses [.output [.call (.name string) Arguments.none]] "self" = false := by
    simp [uses, Statement.occurrencesAll, Statement.occurrences, readings, Expression.readsAll,
      Expression.reads, Arguments.none, Arguments.reads, Expression.readsOption, readFirst, notSelf]
  have declared : Scopes.statements [.output [.call (.name string) Arguments.none]] (Scopes.inner []) =
      Scopes.knowing [string] := by
    have read := Scopes.read_known [] string
    simp only [List.not_mem_nil, if_false, List.nil_append] at read
    exact read
  have whole : (Compile.template [.output [.call (.name string) Arguments.none]]).Gives compiler
      (.start compiler.escapes) (callProgram compiler.escapes string) (.start compiler.escapes) := by
    unfold Compile.template
    simp only [selfless, Bool.false_eq_true, if_false, declared]
    apply Compile.gives_bind (Compile.gives_pure ())
    apply Compile.gives_bind
    · apply Compile.gives_body
      apply Compile.gives_bind (Compile.gives_call_output rfl rfl rfl)
      exact Compile.gives_bind (Compile.gives_pure _) (Compile.gives_pure _)
    · exact Compile.gives_bind (Compile.gives_pure _) (Compile.gives_pure _)
  exact congrArg (Except.map Prod.fst) whole

end PageTemplates.Template
