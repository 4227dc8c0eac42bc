import PageTemplates.Value
import PageTemplates.Text.Quoted

/-!
Signatures: the parameters of a function, and the binding of the arguments of a call to them. The
first fault of a call decides its failure: names that are unknown or given twice, then too many
arguments by place, then parameters without a value.
-/

namespace PageTemplates

/-- How a parameter takes its value. -/
inductive ParameterKind where
  | positional
  | rest
  | namedOnly
  | restNamed
  deriving DecidableEq

/-- A parameter; one with a default may be left out. -/
structure Parameter where
  name : String
  kind : ParameterKind
  default : Option Value

/-- The parameters of a function. -/
abbrev Signature := List Parameter

/-- What the parameters are bound to. -/
structure Bound where
  values : List (String × Value)
  rest : List Value
  named : List (Text × Value)

namespace Parameter

/-- A parameter that has to be given. -/
def required (name : String) : Parameter := ⟨name, .positional, none⟩

/-- A parameter that may be left out. -/
def optional (name : String) (default : Value) : Parameter := ⟨name, .positional, some default⟩

end Parameter

namespace Bound

/-- The value of a parameter. -/
def get (bound : Bound) (name : String) : Value := (bound.values.lookup name).getD .none

end Bound

namespace Signature

/-- The parameters of a kind. -/
def ofKind (signature : Signature) (kind : ParameterKind) : List Parameter :=
  signature.filter fun parameter => parameter.kind = kind

/-- Quoted names in a sentence. -/
def listed (names : List String) : Text :=
  let quotedNames := names.map fun name => Text.quoted (Text.ofString name)
  match quotedNames with
  | [first, second] => first ++ " and " ++ second
  | _ =>
    match quotedNames.reverse with
    | last :: before :: others =>
      Text.join ", " (before :: others).reverse ++ ", and " ++ last
    | _ => quotedNames.flatten

/-- A noun with its number. -/
def counted (count : Nat) (noun : Text) : Text :=
  Text.ofNat count ++ " " ++ noun ++ (if count == 1 then [] else "s" : Text)

/-- The failure of too many arguments by place. -/
def tooMany (function : Text) (positional : List Parameter) (given namedOnly : Nat) : Failure :=
  let most := positional.length
  let least := (positional.filter fun parameter => parameter.default.isNone).length
  let takes :=
    if least == most then counted most "positional argument"
    else "from " ++ Text.ofNat least ++ " to " ++ Text.ofNat most ++ " positional arguments"
  let were : Text :=
    if namedOnly == 0 then Text.ofNat given ++ (if given == 1 then " was given" else " were given" : Text)
    else
      counted given "positional argument" ++ " (and " ++
        counted namedOnly "keyword-only argument" ++ ") were given"
  .wrongType (function ++ "() takes " ++ takes ++ " but " ++ were)

/-- The failure of parameters without a value. -/
def missing (function : Text) (kind : Text) (names : List String) : Failure :=
  .wrongType (function ++ "() missing " ++ Text.ofNat names.length ++ " required " ++ kind ++
    " argument" ++ (if names.length == 1 then [] else "s" : Text) ++ ": " ++ listed names)

/-- Binds arguments by name. -/
def bindNamed (function : Text) (accepting : Bool) (known : List String) :
    List (Text × Value) → Bound → Except Failure Bound
  | [], bound => .ok bound
  | (name, value) :: others, bound =>
    match known.find? fun parameter => Text.ofString parameter = name with
    | some parameter =>
      if (bound.values.lookup parameter).isSome then
        .error (.wrongType (function ++ "() got multiple values for argument '" ++ name ++ "'"))
      else
        bindNamed function accepting known others
          { bound with values := bound.values ++ [(parameter, value)] }
    | none =>
      if accepting then
        bindNamed function accepting known others { bound with named := bound.named ++ [(name, value)] }
      else
        .error (.wrongType (function ++ "() got an unexpected keyword argument '" ++ name ++ "'"))

/-- Binds the arguments of a call of a function with a name. -/
def bind (signature : Signature) (function : Text) (given : Given) : Except Failure Bound := do
  let positional := signature.ofKind .positional
  let namedOnly := signature.ofKind .namedOnly
  let placed := (positional.zip given.positional).map fun (parameter, value) =>
    (parameter.name, value)
  let rest := given.positional.drop positional.length
  let known := (positional ++ namedOnly).map Parameter.name
  let bound ← bindNamed function (signature.any fun parameter => parameter.kind = .restNamed) known
    given.named ⟨placed, [], []⟩
  let takesRest := signature.any fun parameter => parameter.kind = .rest
  if !rest.isEmpty && !takesRest then
    let namedGiven := (namedOnly.filter fun parameter =>
      (bound.values.lookup parameter.name).isSome).length
    throw (tooMany function positional given.positional.length namedGiven)
  let absent (parameters : List Parameter) : List String :=
    (parameters.filter fun parameter =>
      parameter.default.isNone && (bound.values.lookup parameter.name).isNone).map Parameter.name
  let absentPositional := absent positional
  if !absentPositional.isEmpty then throw (missing function "positional" absentPositional)
  let absentNamed := absent namedOnly
  if !absentNamed.isEmpty then throw (missing function "keyword-only" absentNamed)
  let defaults := (positional ++ namedOnly).filterMap fun parameter =>
    if (bound.values.lookup parameter.name).isSome then none
    else parameter.default.map fun value => (parameter.name, value)
  return { bound with values := bound.values ++ defaults, rest := rest }

end Signature

end PageTemplates
