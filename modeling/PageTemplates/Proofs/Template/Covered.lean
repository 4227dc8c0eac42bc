import PageTemplates.Proofs.Results
import PageTemplates.Template.Compile

/-!
Filters and tests in the code of templates. Where a render certainly comes by, once it gets to the statement,
a program uses only filters and tests of the environment that it was compiled for. Others can stand in the
parts of a conditional, which are left to the render.
-/

namespace PageTemplates.Template

mutual

/-- Whether the filters and tests of code, conditionals aside, are those of an environment. -/
def Code.isCovered (environment : Environment) : Code → Bool
  | .constant _ => true
  | .variable _ _ => true
  | .tuple items => Code.areCovered environment items
  | .list items => Code.areCovered environment items
  | .dict keys values => Code.areCovered environment keys && Code.areCovered environment values
  | .conditional _ _ _ _ => true
  | .captured _ => true
  | .filtered filter target arguments =>
    environment.filters.contains filter && target.isCovered environment &&
      arguments.isCovered environment
  | .tested test target arguments =>
    environment.tests.contains test && target.isCovered environment && arguments.isCovered environment
  | .call target arguments => target.isCovered environment && arguments.isCovered environment
  | .item target index => target.isCovered environment && index.isCovered environment
  | .sliceOf target start stop step =>
    target.isCovered environment && Code.optionCovered environment start &&
      Code.optionCovered environment stop && Code.optionCovered environment step
  | .slice start stop step =>
    Code.optionCovered environment start && Code.optionCovered environment stop &&
      Code.optionCovered environment step
  | .member target _ => target.isCovered environment
  | .concat _ parts => Code.areCovered environment parts
  | .compare first _ operands => first.isCovered environment && Code.areCovered environment operands
  | .conjunction left right => left.isCovered environment && right.isCovered environment
  | .disjunction left right => left.isCovered environment && right.isCovered environment
  | .negation operand => operand.isCovered environment
  | .binary _ left right => left.isCovered environment && right.isCovered environment
  | .minus operand => operand.isCovered environment
  | .plus operand => operand.isCovered environment

/-- Whether all of several codes are covered. -/
def Code.areCovered (environment : Environment) : List Code → Bool
  | [] => true
  | code :: rest => code.isCovered environment && Code.areCovered environment rest

/-- Whether code that may be absent is covered. -/
def Code.optionCovered (environment : Environment) : Option Code → Bool
  | none => true
  | some code => code.isCovered environment

/-- Whether the arguments of a call are covered. -/
def CallCode.isCovered (environment : Environment) : CallCode → Bool
  | .mk positional _ values spread spreadNamed =>
    Code.areCovered environment positional && Code.areCovered environment values &&
      Code.optionCovered environment spread && Code.optionCovered environment spreadNamed

end

/-- Whether a piece of output is covered. -/
def Piece.isCovered (environment : Environment) : Piece → Bool
  | .text _ => true
  | .value code _ => code.isCovered environment

mutual

/-- Whether a statement is covered. In a choice that is `soft`, only what has variables of its own is. -/
def Step.isCovered (environment : Environment) (soft : Bool) : Step → Bool
  | .output _ pieces => soft || pieces.all (Piece.isCovered environment)
  | .extending _ template => soft || template.isCovered environment
  | .extendedTwice => true
  | .forLoop loop => loop.isCovered environment soft
  | .choice branches otherwise =>
    Branch.areCovered environment branches && Step.areCovered environment true otherwise
  | .defineMacro _ _ definition => definition.isCovered environment
  | .callBlock _ definition call =>
    definition.isCovered environment && (soft || call.isCovered environment)
  | .filterBlock _ body filter =>
    Step.areCovered environment false body && filter.isCovered environment
  | .scope _ _ values body =>
    (soft || Code.areCovered environment values) && Step.areCovered environment false body
  | .block _ _ _ _ => true
  | .included template _ _ _ => soft || template.isCovered environment
  | .importAs template _ _ _ => soft || template.isCovered environment
  | .importFrom _ template _ _ _ => soft || template.isCovered environment
  | .assign _ _ value _ => soft || value.isCovered environment
  | .assignBlock _ body filter _ _ =>
    Step.areCovered environment false body && Code.optionCovered environment filter
  | .escaping value body => value.isCovered environment && Step.areCovered environment false body

/-- Whether all of several statements are covered. -/
def Step.areCovered (environment : Environment) (soft : Bool) : List Step → Bool
  | [] => true
  | step :: rest => step.isCovered environment soft && Step.areCovered environment soft rest

/-- Whether the branches of a choice are covered. -/
def Branch.areCovered (environment : Environment) : List Branch → Bool
  | [] => true
  | .mk _ body :: rest =>
    Step.areCovered environment true body && Branch.areCovered environment rest

/-- Whether a loop is covered. -/
def LoopCode.isCovered (environment : Environment) (soft : Bool) : LoopCode → Bool
  | .mk _ _ source test _ body _ otherwise _ =>
    (soft || source.isCovered environment) && Code.optionCovered environment (test.map Prod.snd) &&
      Step.areCovered environment false body && Step.areCovered environment false otherwise

/-- Whether a macro is covered. -/
def MacroCode.isCovered (environment : Environment) : MacroCode → Bool
  | .mk _ _ defaults _ _ _ _ body _ =>
    Code.areCovered environment defaults && Step.areCovered environment false body

end

/-- Whether a template is covered: its body and its blocks are. -/
def Program.isCovered (environment : Environment) (program : Program) : Bool :=
  Step.areCovered environment false program.body &&
    program.blocks.all fun block => Step.areCovered environment false block.body

namespace Compile

section Yields

variable {First Second Result : Type} {compiler : Compiler} {good : Result → Prop}

/-- Whatever a computation comes to, with what is known when it starts, is of a kind. -/
def Yields (action : Compile Result) (compiler : Compiler) (good : Result → Prop) : Prop :=
  ∀ before result after, action compiler before = .ok (result, after) → good result

theorem yields_anything (action : Compile Result) : action.Yields compiler fun _ => True :=
  fun _ _ _ _ => trivial

theorem yields_mono {better : Result → Prop} {action : Compile Result}
    (yields : action.Yields compiler better)
    (enough : ∀ result, better result → good result) : action.Yields compiler good :=
  fun before result after made => enough result (yields before result after made)

theorem yields_pure {result : Result} (fine : good result) :
    (pure result : Compile Result).Yields compiler good := by
  rintro before _ after ⟨⟩
  exact fine

theorem yields_fault (line : Nat) (reason : Text) :
    (failAt line reason : Compile Result).Yields compiler good := by
  rintro before _ after ⟨⟩

theorem yields_bind {middle : First → Prop} {first : Compile First} {rest : First → Compile Result}
    (early : first.Yields compiler middle)
    (late : ∀ value, middle value → (rest value).Yields compiler good) :
    (first >>= rest).Yields compiler good := by
  intro before result after made
  change Except.bind (first compiler before) (fun pair => rest pair.1 compiler pair.2) = _ at made
  cases ran : first compiler before with
  | error fault =>
      rw [ran] at made
      cases made
  | ok pair =>
      rw [ran] at made
      exact late _ (early _ _ _ ran) _ _ _ made

theorem yields_then {first : Compile First} {rest : First → Compile Result}
    (late : ∀ value, (rest value).Yields compiler good) : (first >>= rest).Yields compiler good :=
  yields_bind (yields_anything first) fun value _ => late value

theorem yields_read {rest : Compiler → Compile Result} (late : (rest compiler).Yields compiler good) :
    (read >>= rest).Yields compiler good :=
  fun before result after made => late before result after made

theorem yields_map {function : First → Result} {action : Compile First}
    (early : action.Yields compiler fun value => good (function value)) :
    (function <$> action).Yields compiler good :=
  yields_bind early fun _ fine => yields_pure fine

theorem yields_two {one : First → Prop} {other : Second → Prop} {build : First → Second → Result}
    {first : Compile First} {second : Compile Second} (early : first.Yields compiler one)
    (late : second.Yields compiler other)
    (both : ∀ value next, one value → other next → good (build value next)) :
    (two build first second).Yields compiler good :=
  yields_bind early fun _ here => yields_bind late fun _ there => yields_pure (both _ _ here there)

end Yields

section Codes

variable {compiler : Compiler} {position : Position}

/-- What a place that is not soft has instead of the code of a filter or test that there is not. -/
theorem code_lacking {known : List String} {name : String} (lacking : known.contains name = false)
    (hard : position.soft = false) (kind : Text) (line : Nat) (build : Code → CallCode → Code)
    (target : Compile Code) (arguments : Compile CallCode) (state : CompileState) :
    ruleCode (checkRule position kind line name known) build target arguments compiler state =
      .error (.source ⟨line, "No " ++ kind ++ " named " ++ Text.quoted (Text.ofString name) ++ "."⟩) := by
  rw [ruleCode, checkRule, hard, lacking]
  rfl

theorem yields_check (kind : Text) (line : Nat) (name : String) (known : List String)
    (hard : position.soft = false) :
    (checkRule position kind line name known).Yields compiler fun _ => known.contains name = true := by
  unfold checkRule
  rw [hard]
  cases known.contains name with
  | true => exact yields_pure rfl
  | false => exact yields_fault line _

theorem yields_rule {build : Code → CallCode → Code} {check : Compile Unit} {target : Compile Code}
    {arguments : Compile CallCode} {allowed : Prop} {environment : Environment}
    (checked : check.Yields compiler fun _ => allowed)
    (early : target.Yields compiler fun code => code.isCovered environment = true)
    (late : arguments.Yields compiler fun call => call.isCovered environment = true)
    (both : ∀ target arguments, allowed → target.isCovered environment = true →
      arguments.isCovered environment = true → (build target arguments).isCovered environment = true) :
    (ruleCode check build target arguments).Yields compiler fun code => code.isCovered environment = true :=
  yields_bind checked fun _ known => yields_two early late fun target arguments => both target arguments known

theorem yields_bounds {build : Option Code → Option Code → Option Code → Code}
    {start stop step : Compile (Option Code)} {environment : Environment}
    (first : start.Yields compiler fun code => Code.optionCovered environment code = true)
    (second : stop.Yields compiler fun code => Code.optionCovered environment code = true)
    (third : step.Yields compiler fun code => Code.optionCovered environment code = true)
    (all : ∀ start stop step, Code.optionCovered environment start = true →
      Code.optionCovered environment stop = true → Code.optionCovered environment step = true →
      (build start stop step).isCovered environment = true) :
    (boundsCode build start stop step).Yields compiler fun code => code.isCovered environment = true :=
  yields_bind first fun _ early => yields_bind second fun _ mid => yields_bind third fun _ late =>
    yields_pure (all _ _ _ early mid late)

mutual

/-- Where a place is not soft, the code of an expression is covered. -/
theorem yields_code (hard : position.soft = false) (expression : Expression) :
    (code position expression).Yields compiler fun code =>
      code.isCovered compiler.setting.environment = true := by
  cases expression with
  | data text => exact yields_then fun _ => yields_pure rfl
  | constant data => exact yields_then fun _ => yields_pure rfl
  | name name =>
      rw [code]
      exact yields_then fun _ => yields_then fun _ => yields_pure rfl
  | tuple items =>
      rw [code]
      exact yields_map (yields_codes hard items)
  | list items =>
      rw [code]
      exact yields_map (yields_codes hard items)
  | dict keys values =>
      rw [code]
      exact yields_two (yields_codes hard keys) (yields_codes hard values) fun _ _ here there => by
        rw [Code.isCovered, here, there]
        rfl
  | conditional line test chosen otherwise =>
      rw [code]
      exact yields_then fun _ => yields_then fun _ => yields_then fun _ => yields_then fun _ => yields_pure rfl
  | filtered line target filter arguments =>
      rw [code]
      refine yields_read (yields_rule (yields_check "filter" line filter _ hard) (yields_target hard target)
        (yields_arguments hard arguments) fun _ _ known here there => ?_)
      rw [Code.isCovered, known, here, there]
      rfl
  | tested line target test arguments =>
      rw [code]
      refine yields_read (yields_rule (yields_check "test" line test _ hard) (yields_code hard target)
        (yields_arguments hard arguments) fun _ _ known here there => ?_)
      rw [Code.isCovered, known, here, there]
      rfl
  | call target arguments =>
      rw [code]
      refine yields_two (yields_code hard target) (yields_arguments hard arguments) fun _ _ here there => ?_
      rw [Code.isCovered, here, there]
      rfl
  | item target index =>
      cases index with
      | slice start stop step =>
          rw [code]
          refine yields_bind (yields_code hard target) fun _ first => ?_
          refine yields_bounds (yields_optional hard start) (yields_optional hard stop) (yields_optional hard step)
            fun _ _ _ second third fourth => ?_
          rw [Code.isCovered, first, second, third, fourth]
          rfl
      | _ =>
          rw [code]
          refine yields_two (yields_code hard target) (yields_code hard _) fun _ _ here there => ?_
          rw [Code.isCovered, here, there]
          rfl
          all_goals nofun
  | slice start stop step =>
      rw [code]
      refine yields_bounds (yields_optional hard start) (yields_optional hard stop) (yields_optional hard step)
        fun _ _ _ first second third => ?_
      rw [Code.isCovered, first, second, third]
      rfl
  | member target name =>
      rw [code]
      exact yields_map (yields_code hard target)
  | concat parts =>
      rw [code]
      exact yields_bind (yields_codes hard parts) fun _ fine => yields_then fun _ => yields_pure fine
  | compare first operators operands =>
      rw [code]
      refine yields_two (yields_code hard first) (yields_codes hard operands) fun _ _ here there => ?_
      rw [Code.isCovered, here, there]
      rfl
  | conjunction left right =>
      rw [code]
      refine yields_two (yields_code hard left) (yields_code hard right) fun _ _ here there => ?_
      rw [Code.isCovered, here, there]
      rfl
  | disjunction left right =>
      rw [code]
      refine yields_two (yields_code hard left) (yields_code hard right) fun _ _ here there => ?_
      rw [Code.isCovered, here, there]
      rfl
  | negation operand =>
      rw [code]
      exact yields_map (yields_code hard operand)
  | binary operator left right =>
      rw [code]
      refine yields_two (yields_code hard left) (yields_code hard right) fun _ _ here there => ?_
      rw [Code.isCovered, here, there]
      rfl
  | minus operand =>
      rw [code]
      exact yields_map (yields_code hard operand)
  | plus operand =>
      rw [code]
      exact yields_map (yields_code hard operand)
termination_by structural expression

theorem yields_codes (hard : position.soft = false) (expressions : List Expression) :
    (codes position expressions).Yields compiler fun codes =>
      Code.areCovered compiler.setting.environment codes = true := by
  rcases expressions with _ | ⟨expression, rest⟩
  · exact yields_pure rfl
  · rw [codes]
    exact yields_two (yields_code hard expression) (yields_codes hard rest) fun _ _ here there => by
      rw [Code.areCovered, here, there]
      rfl
termination_by structural expressions

theorem yields_optional (hard : position.soft = false) (expression : Option Expression) :
    (optionalCode position expression).Yields compiler fun code =>
      Code.optionCovered compiler.setting.environment code = true := by
  rcases expression with _ | expression
  · exact yields_pure rfl
  · rw [optionalCode]
    exact yields_map (yields_code hard expression)
termination_by structural expression

theorem yields_target (hard : position.soft = false) (target : Option Expression) :
    (targetCode position target).Yields compiler fun code =>
      code.isCovered compiler.setting.environment = true := by
  rcases target with _ | expression
  · exact yields_then fun _ => yields_pure rfl
  · rw [targetCode]
    exact yields_code hard expression
termination_by structural target

theorem yields_arguments (hard : position.soft = false) (arguments : Arguments) :
    (argumentCode position arguments).Yields compiler fun call =>
      call.isCovered compiler.setting.environment = true := by
  obtain ⟨positional, names, values, spread, spreadNamed⟩ := arguments
  rw [argumentCode]
  refine yields_bind (yields_codes hard positional) fun _ first => ?_
  refine yields_bind (yields_codes hard values) fun _ second => ?_
  refine yields_bind (yields_optional hard spread) fun _ third => ?_
  refine yields_bind (yields_optional hard spreadNamed) fun _ fourth => yields_pure ?_
  rw [CallCode.isCovered, first, second, third, fourth]
  rfl
termination_by structural arguments

end

end Codes

section Steps

variable {compiler : Compiler} {position : Position}

/-- Code that stands at a place is covered, unless the place is soft. -/
def Fits (environment : Environment) (soft : Bool) (code : Code) : Prop :=
  (soft || code.isCovered environment) = true

/-- Statements that stand at a place are covered. -/
def FitAll (environment : Environment) (soft : Bool) (compiled : Compiled) : Prop :=
  Step.areCovered environment soft compiled.1 = true

/-- Whatever comes of a body, its statements are covered. -/
def CoversBody (compiler : Compiler) (body : Position → Compile (List Step)) : Prop :=
  ∀ inside, (body inside).Yields compiler fun steps =>
    Step.areCovered compiler.setting.environment inside.soft steps = true

theorem yields_expression (position : Position) (expression : Expression) :
    (expressionCode position expression).Yields compiler
      (Fits compiler.setting.environment position.soft) := by
  refine yields_then fun expression => ?_
  unfold Fits
  cases hard : position.soft with
  | true => exact fun _ _ _ _ => rfl
  | false => exact yields_code hard expression

/-- In a scope of its own every expression is covered. -/
theorem yields_inside {position : Position} (hard : position.soft = false) (expression : Expression) :
    (expressionCode position expression).Yields compiler fun code =>
      code.isCovered compiler.setting.environment = true := by
  have fits : (expressionCode position expression).Yields compiler
      (Fits compiler.setting.environment position.soft) := yields_expression position expression
  rw [hard] at fits
  exact fits

theorem yields_option {position : Position} (hard : position.soft = false) (expression : Option Expression) :
    (optionCode position expression).Yields compiler fun code =>
      Code.optionCovered compiler.setting.environment code = true := by
  cases expression with
  | none => exact yields_pure rfl
  | some expression => exact yields_bind (yields_inside hard expression) fun _ fine => yields_pure fine

theorem yields_expressions (position : Position) (expressions : List Expression) :
    (expressions.mapM (expressionCode position)).Yields compiler fun codes =>
      (position.soft || Code.areCovered compiler.setting.environment codes) = true := by
  induction expressions with
  | nil => exact yields_pure (Bool.or_true _)
  | cons expression rest ih =>
      rw [List.mapM_cons]
      refine yields_bind (yields_expression position expression) fun _ here => yields_bind ih fun _ there => ?_
      refine yields_pure ?_
      rw [Code.areCovered, Bool.or_and_distrib_left, here, there]
      rfl

theorem add_text_covered (environment : Environment) (text : Text) (pieces : List Piece) :
    (addText text pieces).all (Piece.isCovered environment) = pieces.all (Piece.isCovered environment) := by
  unfold addText
  split <;> rfl

theorem yields_pieces (position : Position) (done : List Piece) (parts : List Expression)
    (fine : (position.soft || done.all (Piece.isCovered compiler.setting.environment)) = true) :
    (piecesOf position done parts).Yields compiler fun pieces =>
      (position.soft || pieces.all (Piece.isCovered compiler.setting.environment)) = true := by
  induction parts generalizing done with
  | nil => exact yields_pure (by rwa [List.all_reverse])
  | cons part rest ih =>
      have more : ∀ code escaping, Fits compiler.setting.environment position.soft code →
          (position.soft || (Piece.value code escaping :: done).all
            (Piece.isCovered compiler.setting.environment)) = true := by
        intro code escaping fits
        rw [List.all_cons, Bool.or_and_distrib_left, fine, Bool.and_true]
        exact fits
      rw [piecesOf]
      refine yields_then fun text => ?_
      split
      · exact ih _ (by rwa [add_text_covered])
      · split
        · refine yields_bind (yields_pure rfl) ?_
          rintro _ rfl
          exact ih _ (more _ _ (Bool.or_true _))
        · refine yields_bind (yields_expression position part) fun code fits => yields_then fun escaping => ?_
          refine yields_bind (yields_pure rfl) ?_
          rintro _ rfl
          exact ih _ (more code escaping fits)

theorem fit_nothing {environment : Environment} {soft : Bool} : FitAll environment soft (steps []) := rfl

theorem fit_one {environment : Environment} {soft : Bool} {step : Step}
    (covered : step.isCovered environment soft = true) : FitAll environment soft (steps [step]) := by
  unfold FitAll steps
  rw [Step.areCovered, covered]
  rfl

theorem yields_output (position : Position) (parts : List Expression) :
    (outputStep position parts).Yields compiler (FitAll compiler.setting.environment position.soft) := by
  refine yields_then fun state => ?_
  split
  · exact yields_pure fit_nothing
  · refine yields_bind (yields_pieces position [] parts (Bool.or_true _)) fun _ fine => yields_pure ?_
    exact fit_one fine

theorem yields_extending (position : Position) (line : Nat) (template : Expression) :
    (extendStep position line template).Yields compiler
      (FitAll compiler.setting.environment position.soft) := by
  have known : (do
      let state ← get
      if state.extending > 0 && state.surelyExtending then return ([.extendedTwice], true)
      let template ← expressionCode position template
      modify fun state => { state with
        extending := state.extending + 1
        surelyExtending := state.surelyExtending || position.root }
      return steps [.extending (state.extending > 0) template] : Compile Compiled).Yields compiler
      (FitAll compiler.setting.environment position.soft) := by
    refine yields_then fun state => ?_
    split
    · exact yields_pure rfl
    · refine yields_bind (yields_expression position template) fun _ fine => yields_then fun _ => ?_
      exact yields_pure (fit_one fine)
  unfold extendStep
  split
  · exact yields_then fun _ => known
  · exact known

theorem yields_block (position : Position) (name : String) (seesLocals required : Bool) :
    (blockStep position name seesLocals required).Yields compiler
      (FitAll compiler.setting.environment position.soft) := by
  refine yields_then fun state => ?_
  split
  · exact yields_pure fit_nothing
  · exact yields_pure (fit_one rfl)

theorem yields_defaults {position : Position} (hard : position.soft = false) (unfilled : List Slot)
    (defaults : List (Option Expression)) :
    (defaultCodes position unfilled defaults).Yields compiler fun codes =>
      Code.areCovered compiler.setting.environment codes = true := by
  induction defaults generalizing unfilled with
  | nil => exact yields_then fun _ => yields_pure rfl
  | cons default rest ih =>
      refine yields_then fun _ => ?_
      cases default with
      | none => exact ih _
      | some expression =>
          refine yields_bind (yields_inside hard expression) fun _ here => ?_
          refine yields_bind (ih _) fun _ there => yields_pure ?_
          rw [Code.areCovered, here, there]
          rfl

theorem yields_macro_of (position : Position) (line : Nat) (name : Option String) (parameters : List String)
    (defaults : List Expression) (statements : List Statement) {body : Position → Compile (List Step)}
    (covers : CoversBody compiler body) :
    (macroOf position line name parameters defaults statements body).Yields compiler fun definition =>
      definition.isCovered compiler.setting.environment = true := by
  have parts : ∀ (inside : Position) (slots : List Slot) (given : List (Option Expression))
      (caller named rest : Bool), inside.soft = false → (do
        let defaultCode ← defaultCodes inside slots given
        let body ← body inside
        return .mk name parameters defaultCode caller named rest inside.frame body position.home :
        Compile MacroCode).Yields compiler fun definition =>
          definition.isCovered compiler.setting.environment = true := by
    intro inside slots given caller named rest hard
    refine yields_bind (yields_defaults hard slots given) fun _ here => ?_
    refine yields_bind (covers inside) fun _ there => yields_pure ?_
    rw [hard] at there
    rw [MacroCode.isCovered, here, there]
    rfl
  unfold macroOf
  dsimp only
  split
  · split
    · split
      · exact yields_then fun _ => parts _ _ _ _ _ _ rfl
      · exact parts _ _ _ _ _ _ rfl
    · exact parts _ _ _ _ _ _ rfl
  · exact parts _ _ _ _ _ _ rfl

theorem yields_macro (position : Position) (line : Nat) (name : String) (parameters : List String)
    (defaults : List Expression) (statements : List Statement) {body : Position → Compile (List Step)}
    (covers : CoversBody compiler body) :
    (macroStep position line name parameters defaults statements body).Yields compiler
      (FitAll compiler.setting.environment position.soft) := by
  refine yields_bind (yields_macro_of position line (some name) parameters defaults statements covers)
    fun _ fine => ?_
  exact yields_then fun _ => yields_pure (fit_one fine)

theorem with_caller_covered (environment : Environment) (slot : Slot) (code : Code) :
    (withCaller slot code).isCovered environment = code.isCovered environment := by
  unfold withCaller
  split
  · rename_i target positional names values spread spreadNamed
    have more : Code.areCovered environment (values ++ [.variable slot false]) =
        Code.areCovered environment values := by
      induction values with
      | nil => rfl
      | cons value rest ih => rw [List.cons_append, Code.areCovered, ih, Code.areCovered]
    rw [Code.isCovered, CallCode.isCovered, more, Code.isCovered, CallCode.isCovered]
  · rfl

theorem yields_call_block (position : Position) (line : Nat) (target : Expression) (arguments : Arguments)
    (parameters : List String) (defaults : List Expression) (statements : List Statement)
    {body : Position → Compile (List Step)} (covers : CoversBody compiler body) :
    (callBlockStep position line target arguments parameters defaults statements body).Yields compiler
      (FitAll compiler.setting.environment position.soft) := by
  refine yields_bind (yields_macro_of position line none parameters defaults statements covers)
    fun _ here => ?_
  refine yields_bind (yields_expression position (.call target arguments)) fun _ there => yields_pure ?_
  refine fit_one ?_
  rw [Step.isCovered, here, with_caller_covered]
  exact there

theorem yields_loop (position : Position) (target : Target) (source : Expression)
    (statements others : List Statement)
    (test : Option Expression) (recursive : Bool) {body otherwise : Position → Compile (List Step)}
    (covers : CoversBody compiler body) (coversOther : CoversBody compiler otherwise) :
    (loopOf position target source statements others test recursive body otherwise).Yields compiler
      fun loop =>
      loop.isCovered compiler.setting.environment position.soft = true := by
  unfold loopOf
  extract_lets blocks extended home around inLoop inOther
  refine yields_then fun place => ?_
  extract_lets afterTest
  have tested : ∀ testCode : Option (Frame × Code),
      Code.optionCovered compiler.setting.environment (testCode.map Prod.snd) = true →
        (afterTest testCode).Yields compiler fun loop =>
          loop.isCovered compiler.setting.environment position.soft = true := by
    intro testCode testFine
    unfold afterTest
    extract_lets afterSource afterCheck
    have sourced : ∀ early : Option Code,
        (∀ code, early = some code → Fits compiler.setting.environment position.soft code) →
          (afterSource early).Yields compiler fun loop =>
            loop.isCovered compiler.setting.environment position.soft = true := by
      intro early known
      refine yields_bind (covers inLoop) fun steps here => ?_
      refine yields_bind (coversOther inOther) fun more there => yields_then fun escaping => ?_
      have whole : ∀ code, Fits compiler.setting.environment position.soft code → ∀ slot frame next recursion,
          (LoopCode.mk place slot code testCode frame steps next more recursion).isCovered
            compiler.setting.environment position.soft = true := by
        intro code fits slot frame next recursion
        have first : Step.areCovered compiler.setting.environment false steps = true := here
        have second : Step.areCovered compiler.setting.environment false more = true := there
        rw [LoopCode.isCovered, testFine, first, second, Bool.and_true, Bool.and_true, Bool.and_true]
        exact fits
      cases early with
      | some code =>
          refine yields_bind (yields_pure rfl) ?_
          rintro _ rfl
          exact yields_pure (whole code (known code rfl) _ _ _ _)
      | none =>
          refine yields_bind (yields_expression around source) fun code fits => ?_
          exact yields_pure (whole code fits _ _ _ _)
    have checked : ∀ passed, (afterCheck passed).Yields compiler fun loop =>
        loop.isCovered compiler.setting.environment position.soft = true := by
      intro passed
      unfold afterCheck
      split
      · refine yields_bind (yields_pure rfl) ?_
        rintro _ rfl
        exact sourced none nofun
      · refine yields_bind (yields_map (yields_mono (yields_expression around source) ?_)) sourced
        rintro code fits _ ⟨⟩
        exact fits
    split
    · exact yields_then checked
    · exact checked ()
  split
  · refine yields_bind (yields_pure rfl) ?_
    rintro _ rfl
    exact tested none rfl
  · rename_i test
    extract_lets inTest
    refine yields_bind (yields_inside rfl test) fun code fine => yields_bind (yields_pure rfl) ?_
    rintro _ rfl
    exact tested (some (inTest.frame, code)) fine

theorem yields_assign (position : Position) (target : Target) (value : Expression) :
    (assignStep position target value).Yields compiler
      (FitAll compiler.setting.environment position.soft) := by
  refine yields_then fun _ => yields_then fun _ => ?_
  refine yields_bind (yields_expression position value) fun _ fine => yields_then fun _ => ?_
  exact yields_pure (fit_one fine)

theorem yields_assign_block (position : Position) (target : Target) (filter : Option Expression)
    (statements : List Statement) {body : Position → Compile (List Step)}
    (covers : CoversBody compiler body) :
    (assignBlockStep position target filter statements body).Yields compiler
      (FitAll compiler.setting.environment position.soft) := by
  refine yields_bind (covers _) fun _ here => yields_then fun _ => ?_
  refine yields_bind (yields_option rfl filter) fun _ there => yields_then fun _ => yields_pure ?_
  refine fit_one ?_
  rw [Step.isCovered, there, Bool.and_true]
  exact here

theorem yields_scope (position : Position) (targets : List Target) (values : List Expression)
    (statements : List Statement) {body : Position → Compile (List Step)}
    (covers : CoversBody compiler body) :
    (scopeStep position targets values statements body).Yields compiler
      (FitAll compiler.setting.environment position.soft) := by
  refine yields_then fun _ => yields_bind (yields_expressions position values) fun _ here => ?_
  refine yields_bind (covers _) fun _ there => yields_pure (fit_one ?_)
  rw [Step.isCovered, here]
  exact there

theorem yields_escaping (position : Position) (value : Expression) (statements : List Statement)
    {body : Position → Compile (List Step)} (covers : CoversBody compiler body) :
    (escapingStep position value statements body).Yields compiler
      (FitAll compiler.setting.environment position.soft) := by
  refine yields_then fun _ => yields_bind ?_ fun _ fine => yields_then fun _ => yields_pure fine
  refine yields_bind (yields_inside rfl value) fun _ here => yields_then fun _ => ?_
  refine yields_bind (covers _) fun _ there => yields_pure (fit_one ?_)
  have inner : Step.areCovered compiler.setting.environment false [.escaping _ _] = true :=
    fit_one (by rw [Step.isCovered, here]; exact there)
  rw [Step.isCovered, inner, Code.areCovered, Bool.or_true]
  rfl

theorem yields_filter_block (position : Position) (filter : Expression) (statements : List Statement)
    {body : Position → Compile (List Step)} (covers : CoversBody compiler body) :
    (filterBlockStep position filter statements body).Yields compiler
      (FitAll compiler.setting.environment position.soft) := by
  refine yields_bind (covers _) fun _ here => yields_bind (yields_inside rfl filter) fun _ there => ?_
  refine yields_pure (fit_one ?_)
  rw [Step.isCovered, there, Bool.and_true]
  exact here

theorem yields_import (position : Position) (line : Nat) (template : Expression)
    (names : List (String × String))
    (withContext : Bool) :
    (importFromStep position line template names withContext).Yields compiler
      (FitAll compiler.setting.environment position.soft) :=
  yields_bind (yields_expression position template) fun _ fine => yields_then fun _ => yields_pure (fit_one fine)

theorem steps_covered_append (environment : Environment) (soft : Bool) (done more : List Step) :
    Step.areCovered environment soft (done ++ more) =
      (Step.areCovered environment soft done && Step.areCovered environment soft more) := by
  induction done with
  | nil => rfl
  | cons step rest ih => rw [List.cons_append, Step.areCovered, ih, Step.areCovered, Bool.and_assoc]

theorem yields_followed {environment : Environment} {soft : Bool} {first rest : Compile Compiled}
    (early : first.Yields compiler (FitAll environment soft))
    (late : rest.Yields compiler (FitAll environment soft)) :
    (followed first rest).Yields compiler (FitAll environment soft) := by
  refine yields_bind early fun compiled here => ?_
  obtain ⟨done, ended⟩ := compiled
  dsimp only
  split
  · exact yields_pure here
  · refine yields_bind late fun more there => yields_pure ?_
    unfold FitAll at here there ⊢
    rw [steps_covered_append, here]
    exact there

theorem yields_body {environment : Environment} {soft : Bool} {body : Compile Compiled}
    (fits : body.Yields compiler (FitAll environment soft)) :
    (bodySteps body).Yields compiler fun steps => Step.areCovered environment soft steps = true :=
  yields_map fits

mutual

/-- Statements are covered where they stand. -/
theorem yields_statement (position : Position) (node : Statement) :
    (statement node position).Yields compiler (FitAll compiler.setting.environment position.soft) := by
  cases node with
  | output parts =>
      rw [statement]
      exact yields_output position parts
  | extending line template =>
      rw [statement]
      exact yields_extending position line template
  | forLoop target source body otherwise test recursive =>
      rw [statement]
      refine yields_map ?_
      have loop := yields_loop position target source body otherwise test recursive
        (fun inside => yields_body (yields_statements inside body))
        (fun inside => yields_body (yields_statements inside otherwise))
      exact yields_mono loop fun _ fine => fit_one fine
  | choice clauses otherwise =>
      rw [statement]
      refine yields_two (yields_branches rfl clauses)
        (yields_body (yields_statements position.softened otherwise)) fun _ _ here there => fit_one ?_
      rw [Step.isCovered, here]
      exact there
  | macroDef line name parameters defaults body =>
      rw [statement]
      exact yields_macro position line name parameters defaults body
        fun inside => yields_body (yields_statements inside body)
  | callBlock line target arguments parameters defaults body =>
      rw [statement]
      exact yields_call_block position line target arguments parameters defaults body
        fun inside => yields_body (yields_statements inside body)
  | filterBlock filter body =>
      rw [statement]
      exact yields_filter_block position filter body fun inside => yields_body (yields_statements inside body)
  | scope targets values body =>
      rw [statement]
      exact yields_scope position targets values body fun inside => yields_body (yields_statements inside body)
  | block line name body seesLocals required =>
      rw [statement]
      exact yields_block position name seesLocals required
  | included template withContext ignoreMissing =>
      rw [statement]
      exact yields_map (yields_mono (yields_expression position template) fun _ fine => fit_one fine)
  | importAs template name withContext =>
      rw [statement]
      exact yields_two (yields_anything _) (yields_expression position template) fun _ _ _ fine => fit_one fine
  | importFrom line template names withContext =>
      rw [statement]
      exact yields_import position line template names withContext
  | assign target value =>
      rw [statement]
      exact yields_assign position target value
  | assignBlock target filter body =>
      rw [statement]
      exact yields_assign_block position target filter body
        fun inside => yields_body (yields_statements inside body)
  | escaping value body =>
      rw [statement]
      exact yields_escaping position value body fun inside => yields_body (yields_statements inside body)
termination_by structural node

theorem yields_statements (position : Position) (body : List Statement) :
    (statements body position).Yields compiler (FitAll compiler.setting.environment position.soft) := by
  rcases body with _ | ⟨first, rest⟩
  · exact yields_pure rfl
  · rw [statements]
    exact yields_followed (yields_statement position first) (yields_statements position rest)
termination_by structural body

theorem yields_branches {position : Position} (soft : position.soft = true) (clauses : List Clause) :
    (branchesOf clauses position).Yields compiler fun branches =>
      Branch.areCovered compiler.setting.environment branches = true := by
  rcases clauses with _ | ⟨⟨test, body⟩, rest⟩
  · exact yields_pure rfl
  · rw [branchesOf]
    have steps := yields_body (yields_statements position body)
    rw [soft] at steps
    have branch : (two Branch.mk (expressionCode position test) (bodySteps (statements body position))).Yields
        compiler fun branch => Branch.areCovered compiler.setting.environment [branch] = true := by
      refine yields_two (yields_anything _) steps fun _ _ _ fine => ?_
      rw [Branch.areCovered, fine]
      rfl
    refine yields_two branch (yields_branches soft rest) fun branch others here there => ?_
    obtain ⟨test, body⟩ := branch
    rw [Branch.areCovered, Branch.areCovered, Bool.and_true] at here
    rw [Branch.areCovered, here, there]
    rfl
termination_by structural clauses

end

theorem yields_block_code (node : BlockNode) :
    (block node).Yields compiler fun code =>
      Step.areCovered compiler.setting.environment false code.body = true := by
  unfold block
  extract_lets
  exact yields_bind (yields_body (yields_statements _ node.body)) fun _ fine => yields_pure fine

theorem yields_blocks (nodes : List BlockNode) :
    (nodes.mapM block).Yields compiler fun codes =>
      (codes.all fun code => Step.areCovered compiler.setting.environment false code.body) = true := by
  induction nodes with
  | nil => exact yields_pure rfl
  | cons node rest ih =>
      rw [List.mapM_cons]
      refine yields_bind (yields_block_code node) fun _ here => yields_bind ih fun _ there => yields_pure ?_
      rw [List.all_cons, here, there]
      rfl

theorem yields_template (body : List Statement) :
    (template body).Yields compiler fun program =>
      program.isCovered compiler.setting.environment = true := by
  refine yields_then fun _ => ?_
  refine yields_bind (yields_body (yields_statements _ body)) fun _ here => ?_
  refine yields_bind (yields_blocks _) fun _ there => yields_pure ?_
  have whole : Step.areCovered compiler.setting.environment false _ = true := here
  rw [Program.isCovered, whole, there]
  rfl

end Steps

end Compile

/-- A program that comes of a compilation is covered. -/
theorem compile_covered {compiler : Compiler} {body : List Statement} {program : Program}
    (compiled : compile compiler body = .ok program) :
    program.isCovered compiler.setting.environment = true := by
  unfold compile at compiled
  obtain ⟨⟨_, after⟩, made, rfl⟩ := Results.map_ok.mp compiled
  exact Compile.yields_template body _ _ after made

end PageTemplates.Template
