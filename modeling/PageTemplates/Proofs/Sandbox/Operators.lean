import Mathlib
import PageTemplates.Proofs.Sandbox.Reading
import PageTemplates.Value.Arity
import PageTemplates.Value.Convert

/-!
Counting arguments, converting values, filling patterns with percent directives, and the operators
obey.
-/

namespace PageTemplates

open Std.Do

set_option mvcgen.warning false

variable [Regime] [Watch]

namespace Arity

@[spec]
theorem keeps_unnamed (owner method : Text) (given : Given) :
    ⦃watched⦄ unnamed owner method given ⦃kept⦄ := by
  mvcgen [unnamed]
  all_goals grind -ring -linarith -order

@[spec]
theorem keeps_none (owner method : Text) (given : Given) :
    ⦃watched⦄ none owner method given ⦃kept⦄ := by
  mvcgen [none]
  all_goals grind -ring -linarith -order

@[spec]
theorem keeps_one (owner method : Text) (given : Given) (fine : harmless given) :
    ⦃watched⦄ one owner method given ⦃kept⦄ := by
  mvcgen [one]
  all_goals grind -ring -linarith -order

@[spec]
theorem keeps_between (owner method : Text) (least most : Nat) (given : Given)
    (fine : harmless given) : ⦃watched⦄ between owner method least most given ⦃kept⦄ := by
  mvcgen [between]
  all_goals grind -ring -linarith -order

@[spec]
theorem keeps_taking (owner method : Text) (least most : Nat) (given : Given)
    (fine : harmless given) : ⦃watched⦄ taking owner method least most given ⦃kept⦄ := by
  mvcgen [taking]
  all_goals grind -ring -linarith -order

@[spec]
theorem keeps_optional (method : Text) (names : List String) (given : Given)
    (fine : harmless given) : ⦃watched⦄ optional method names given ⦃kept⦄ := by
  mvcgen [optional]
  all_goals grind -ring -linarith -order

end Arity

namespace Percent

instance : Inert Directive := .plain

instance : Checkable Operands :=
  ⟨fun operands => harmless operands.rest ∧ harmless operands.entries⟩

omit [Watch] in
@[grind =]
theorem harmless_operands {operands : Operands} :
    harmless operands ↔ harmless operands.rest ∧ harmless operands.entries := Iff.rfl

@[spec]
theorem keeps_next (operands : Operands) (fine : harmless operands) :
    ⦃watched⦄ next operands ⦃kept⦄ := by
  mvcgen [next]
  all_goals grind -ring -linarith -order

@[spec]
theorem keeps_takeSize (role : SizeRole) (text : Text) (operands : Operands)
    (fine : harmless operands) : ⦃watched⦄ takeSize role text operands ⦃kept⦄ := by
  mvcgen [takeSize]
  all_goals grind -ring -linarith -order

@[spec]
theorem keeps_decimalOperand (letter : Text) (value : Value) :
    ⦃watched⦄ decimalOperand letter value ⦃kept⦄ := by
  mvcgen [decimalOperand]
  all_goals grind -ring -linarith -order

@[spec]
theorem keeps_wholeOperand (letter : Text) (value : Value) :
    ⦃watched⦄ wholeOperand letter value ⦃kept⦄ := by
  mvcgen [wholeOperand]
  all_goals grind -ring -linarith -order

@[spec]
theorem keeps_floatOperand (value : Value) : ⦃watched⦄ floatOperand value ⦃kept⦄ := by
  mvcgen [floatOperand]
  all_goals grind -ring -linarith -order

@[spec]
theorem keeps_fill (markup : Bool) (directive : Directive) (letter : CodePoint) (place : Nat)
    (value : Value) : ⦃watched⦄ fill markup directive letter place value ⦃kept⦄ := by
  mvcgen [fill]
  all_goals grind -ring -linarith -order

@[spec]
theorem keeps_fillAll (markup : Bool) (total bound : Nat) (pattern : Text) (operands : Operands)
    (done : List Text) (fine : harmless operands) :
    ⦃watched⦄ fillAll markup total bound pattern operands done ⦃kept⦄ := by
  induction bound generalizing pattern operands done with
  | zero =>
    mvcgen [fillAll]
    all_goals grind -ring -linarith -order
  | succ bound ih =>
    mvcgen [fillAll, ih]
    all_goals grind -ring -linarith -order

@[spec]
theorem keeps_format (markup : Bool) (pattern : Text) (operand : Value) (fine : harmless operand) :
    ⦃watched⦄ format markup pattern operand ⦃kept⦄ := by
  mvcgen [format]
  all_goals grind -ring -linarith -order

end Percent

namespace Run

@[spec]
theorem keeps_toFloat (number : Int) : ⦃watched⦄ toFloat number ⦃kept⦄ := by
  mvcgen [toFloat]
  all_goals grind -ring -linarith -order

instance : Inert Numbers := .plain

@[spec]
theorem keeps_numbers? (left right : Value) : ⦃watched⦄ numbers? left right ⦃kept⦄ := by
  unfold numbers?
  split
  all_goals mvcgen
  all_goals grind -ring -linarith -order

@[spec]
theorem keeps_floatPower (base exponent : Float) :
    ⦃watched⦄ floatPower base exponent ⦃kept⦄ := by
  mvcgen [floatPower]
  all_goals grind -ring -linarith -order

@[spec]
theorem keeps_onInts (operator : Template.BinaryOperator) (left right : Int) :
    ⦃watched⦄ onInts operator left right ⦃kept⦄ := by
  mvcgen [onInts]
  all_goals grind -ring -linarith -order

@[spec]
theorem keeps_onFloats (operator : Template.BinaryOperator) (left right : Float) :
    ⦃watched⦄ onFloats operator left right ⦃kept⦄ := by
  mvcgen [onFloats]
  all_goals grind -ring -linarith -order

@[spec]
theorem keeps_badOperands {Result : Type} (operator : Template.BinaryOperator)
    (left right : Value) :
    ⦃watched⦄ (badOperands operator left right : Run Result) ⦃ending fun _ => False⦄ := by
  mvcgen [badOperands]
  all_goals grind -ring -linarith -order

omit [Regime] [Watch] in
@[grind .]
theorem harmless_repeated {Item : Type} [Checkable Item] {items : List Item}
    (fine : harmless items) (count : Nat) : harmless (List.replicate count items).flatten := by
  induction count with
  | zero => exact nofun
  | succ count ih =>
    rw [List.replicate_succ, List.flatten_cons]
    exact (harmless_append _ _).2 ⟨fine, ih⟩

omit [Watch] in
@[grind →]
theorem fixedItems_found {value : Value} {items : List Value} (fine : harmless value)
    (there : value.fixedItems? = some items) : harmless items := by
  unfold Value.fixedItems? at there
  split at there <;> cases there
  all_goals grind -ring -linarith -order

@[spec]
theorem keeps_addOthers (left right : Value) (first : harmless left) (second : harmless right) :
    ⦃watched⦄ addOthers left right ⦃kept⦄ := by
  unfold addOthers
  split
  all_goals mvcgen
  all_goals grind -ring -linarith -order

@[spec]
theorem keeps_repeatCount (tooLong : Option Text) (count : Int) (size : Nat) :
    ⦃watched⦄ repeatCount tooLong count size ⦃kept⦄ := by
  mvcgen [repeatCount]
  all_goals grind -ring -linarith -order

@[spec]
theorem keeps_repeated? (value : Value) (count : Int) (fine : harmless value) :
    ⦃watched⦄ repeated? value count ⦃kept⦄ := by
  mvcgen [repeated?]
  all_goals grind -ring -linarith -order

@[spec]
theorem keeps_multiplyOthers (left right : Value) (first : harmless left)
    (second : harmless right) : ⦃watched⦄ multiplyOthers left right ⦃kept⦄ := by
  mvcgen [multiplyOthers]
  all_goals grind -ring -linarith -order

@[spec]
theorem keeps_binary (operator : Template.BinaryOperator) (left right : Value)
    (first : harmless left) (second : harmless right) :
    ⦃watched⦄ binary operator left right ⦃kept⦄ := by
  unfold binary
  split
  all_goals mvcgen
  all_goals grind -ring -linarith -order

@[spec]
theorem keeps_signed (negative : Bool) (value : Value) :
    ⦃watched⦄ signed negative value ⦃kept⦄ := by
  mvcgen [signed]
  all_goals grind -ring -linarith -order

@[spec]
theorem keeps_compared (operator : Template.CompareOperator) (left right : Value)
    (fine : harmless right) : ⦃watched⦄ compared operator left right ⦃kept⦄ := by
  mvcgen [compared]
  all_goals grind -ring -linarith -order

@[spec]
theorem keeps_truncated (number : Float) : ⦃watched⦄ truncated number ⦃kept⦄ := by
  mvcgen [truncated]
  all_goals grind -ring -linarith -order

@[spec]
theorem keeps_textToInt (text : Text) (base : Nat) : ⦃watched⦄ textToInt text base ⦃kept⦄ := by
  mvcgen [textToInt]
  all_goals grind -ring -linarith -order

@[spec]
theorem keeps_toInt (value : Value) : ⦃watched⦄ toInt value ⦃kept⦄ := by
  unfold toInt
  split
  all_goals mvcgen
  all_goals grind -ring -linarith -order

@[spec]
theorem keeps_textToFloat (value : Value) (text : Text) :
    ⦃watched⦄ textToFloat value text ⦃kept⦄ := by
  mvcgen [textToFloat]
  all_goals grind -ring -linarith -order

@[spec]
theorem keeps_toFloatValue (value : Value) : ⦃watched⦄ toFloatValue value ⦃kept⦄ := by
  unfold toFloatValue
  split
  all_goals mvcgen
  all_goals grind -ring -linarith -order

@[spec]
theorem keeps_toIndex (value : Value) : ⦃watched⦄ toIndex value ⦃kept⦄ := by
  mvcgen [toIndex]
  all_goals grind -ring -linarith -order

@[spec]
theorem keeps_toSize (value : Value) : ⦃watched⦄ toSize value ⦃kept⦄ := by
  mvcgen [toSize]
  all_goals grind -ring -linarith -order

@[spec]
theorem keeps_rounded (value : Value) (places : Int) : ⦃watched⦄ rounded value places ⦃kept⦄ := by
  mvcgen [rounded]
  all_goals grind -ring -linarith -order

end Run
end PageTemplates
