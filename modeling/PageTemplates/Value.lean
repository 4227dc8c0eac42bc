import PageTemplates.Data
import PageTemplates.Failure

/-!
Values of a render. What can change or is told apart by identity is a reference into the world of
the render; everything else is held directly.
-/

namespace PageTemplates

/-- The name of a thing in a world. -/
abbrev Ref := Nat

/-- What a view of a dictionary shows. -/
inductive ViewKind where
  | keys
  | values
  | items
  deriving DecidableEq

/-- A value. `missing` marks a variable without a value; `function` is a place in the table of
functions; `classOf` is a class by its full name; `group` is a key with the list of its members. -/
inductive Value where
  | none
  | bool (value : Bool)
  | int (value : Int)
  | float (value : Float)
  | text (value : Text)
  | markup (value : Text)
  | bytes (value : Bytes)
  | date (value : Date)
  | datetime (value : DateTime)
  | tuple (items : List Value)
  | group (key members : Value)
  | range (start stop step : Int)
  | slice (start stop step : Value)
  | undefined (strict : Bool) (hint : Option Text) (owner name : Option Value) (cause : Cause)
  | missing
  | function (place : Nat)
  | builtin (name : String)
  | classOf (name : String)
  | method (receiver : Value) (name : String)
  | view (kind : ViewKind) (dict : Ref)
  | template (context : Ref)
  | blockOf (name : String) (context : Ref) (depth : Nat)
  | ref (ref : Ref)
  deriving Inhabited

namespace Value

instance : Coe Text Value := ⟨.text⟩

/-- The content of a text or of markup. -/
def text? : Value → Option Text
  | .text value => some value
  | .markup value => some value
  | _ => Option.none

/-- Whether a value is markup. -/
def isMarkup : Value → Bool
  | .markup _ => true
  | _ => false

/-- Whether a value is undefined. -/
def isUndefined : Value → Bool
  | .undefined .. => true
  | _ => false

/-- Whether a value marks a variable without a value. -/
def isMissing : Value → Bool
  | .missing => true
  | _ => false

/-- Text with the same claim to be markup as another value has. -/
def like (model : Value) (content : Text) : Value :=
  if model.isMarkup then .markup content else .text content

/-- A whole number or a truth value as a whole number. -/
def int? : Value → Option Int
  | .int value => some value
  | .bool value => some (if value then 1 else 0)
  | _ => Option.none

end Value

/-- Arguments that a call is made with. -/
structure Given where
  positional : List Value
  named : List (Text × Value)
  deriving Inhabited

/-- No arguments. -/
def Given.none : Given := ⟨[], []⟩

/-- Arguments by place alone. -/
def Given.ofList (values : List Value) : Given := ⟨values, []⟩

end PageTemplates
