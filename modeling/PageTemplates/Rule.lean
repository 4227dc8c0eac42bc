import PageTemplates.Signature
import PageTemplates.Text.Case
import PageTemplates.Value.ContainerMethods

/-!
Rules: what filters and tests have in common. A rule is a function with a signature that works on a
value in a context; some rules are handed a companion before the value, which counts as an argument.
-/

namespace PageTemplates

/-- What a rule is handed before the value. -/
inductive Companion where
  | nothing
  | environment
  | escaping
  | context
  deriving DecidableEq

/-- The wording of a call with a wrong number of arguments. -/
inductive ArityWording where
  | exactly
  | expected
  deriving DecidableEq

/-- How a rule takes its arguments: by a signature, or a fixed number of them by place. `owner` is
what stands before the name in some messages. -/
inductive RuleShape where
  | signature (parameters : Signature)
  | fixed (owner : String) (count : Nat) (wording : ArityWording)

/-- A filter or test. `title` is how messages name it. -/
structure Rule where
  title : String
  companion : Companion
  shape : RuleShape
  body : Option Ref → Bound → Run Value

namespace Rule

open Run

/-- The name of the parameter of a companion. -/
def companionName : Companion → String
  | .nothing => ""
  | .environment => "environment"
  | .escaping => "eval_ctx"
  | .context => "context"

/-- The names of parameters without a signature. -/
def placeNames : List String := ["first", "second", "third"]

/-- Binds arguments by place alone. -/
def bindFixed (title owner : String) (count : Nat) (wording : ArityWording) (given : Given) :
    Except Failure Bound :=
  let name := Text.ofString title
  let size := given.positional.length
  if !given.named.isEmpty then
    .error (.wrongType (Text.ofString owner ++ name ++ "() takes no keyword arguments"))
  else if size == count then .ok ⟨placeNames.zip given.positional, [], []⟩
  else
    match wording with
    | .exactly =>
      .error (.wrongType (name ++ "() takes exactly one argument (" ++ Text.ofNat size ++ " given)"))
    | .expected =>
      .error (.wrongType (name ++ " expected " ++ Text.ofNat count ++ " arguments, got " ++
        Text.ofNat size))

/-- Binds the arguments of a rule, of which the first is the value. -/
def binding (rule : Rule) (given : Given) : Except Failure Bound :=
  match rule.shape with
  | .fixed owner count wording => bindFixed rule.title owner count wording given
  | .signature parameters =>
    if rule.companion = .nothing then parameters.bind (Text.ofString rule.title) given
    else
      Signature.bind (.required (companionName rule.companion) :: parameters)
        (Text.ofString rule.title) { given with positional := .none :: given.positional }

/-- Applies a rule to arguments of which the first is the value. -/
def apply (rule : Rule) (context : Option Ref) (given : Given) : Run Value := do
  rule.body context (← settled (rule.binding given))

/-- A rule with a signature. -/
def signed (title : String) (companion : Companion) (parameters : Signature)
    (body : Option Ref → Bound → Run Value) : Rule :=
  ⟨title, companion, .signature parameters, body⟩

/-- A rule with a signature that does not look at the context. -/
def plain (title : String) (companion : Companion) (parameters : Signature)
    (body : Bound → Run Value) : Rule :=
  ⟨title, companion, .signature parameters, fun _ => body⟩

/-- Whether the context says that values are escaped. -/
def escapes (context : Option Ref) : Run Bool := do
  match context with
  | none => return false
  | some address => truth (← escaping address)

/-- An undefined value with what is said of it. -/
def undefinedWith (hint : Text) : Run Value := do
  return .undefined (← environment).strict (some hint) none none .undefinedName

/-- A value as text: markup stays markup. -/
def soft (value : Value) : Run Value := do
  match value.text? with
  | some _ => return value
  | none => return .text (← Run.plain value)

/-- Whether a value has a form as markup. -/
def hasMarkup (value : Value) : Run Bool := do
  match value with
  | .markup _ => return true
  | .ref address =>
    match ← cell address with
    | some (.module _ _ _) => return true
    | _ => return false
  | _ => return false

/-- The failure of an argument that a filter does not take. -/
def badArgument (message : Text) : Failure := ⟨.filterArgument, message⟩

/-- Lower case for a comparison that takes no notice of case. -/
def foldedCase (caseSensitive : Bool) (value : Value) : Run Value := do
  if caseSensitive then return value
  else
    match value.text? with
    | some text => return value.like (Text.lower text)
    | none => return value

/-- One step of a path written out: a number if it has digits only, else text like the path. -/
def pathStep (path : Value) (part : Text) : Value :=
  if !part.isEmpty && part.all fun point => Text.isDecimal point.value then
    match Number.readInt? 10 part with
    | some number => .int number
    | none => path.like part
  else path.like part

/-- The steps of a path: a text is split at its points. -/
def pathOf (path : Value) : List Value :=
  match path with
  | .none => []
  | value =>
    match value.text? with
    | some text => (Text.splitAll "." text).map (pathStep value)
    | none => [value]

/-- The paths of an attribute that may name several, separated by commas. -/
def pathsOf (path : Value) : List (List Value) :=
  match path.text? with
  | some text => (Text.splitAll "," text).map fun part => pathOf (path.like part)
  | none => [pathOf path]

/-- Follows a path into a value; an undefined step becomes the fallback where there is one. -/
def follow (path : List Value) (fallback : Option Value) (value : Value) : Run Value :=
  match path with
  | [] => return value
  | step :: rest => do
    let next ← itemOrMember value step
    match fallback with
    | some other => follow rest fallback (if next.isUndefined then other else next)
    | none => follow rest fallback next

/-- A fallback that nothing stands for if it is nothing. -/
def fallbackOf (value : Value) : Option Value :=
  match value with
  | .none => none
  | other => some other

/-- A value, or a default where nothing is given. -/
def orDefault (value default : Value) : Value := (fallbackOf value).getD default

/-- The truth of an argument. -/
def flag (bound : Bound) (name : String) : Run Bool := truth (bound.get name)

/-- A new iterator that starts its work when its first item is asked for. -/
def lazily (filter : String) (value : Value) (given : Given) (context : Option Ref) : Run Value := do
  new (.iterator "generator" (.notStarted filter value given context))

end Rule

end PageTemplates
