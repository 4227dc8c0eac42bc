import PageTemplates.Text.Quoted

/-!
Failures of evaluation: what went wrong, as one of a few causes, and its wording. The functions
below are the only places where the wordings are put together from their parts.
-/

namespace PageTemplates

/-- What a failure comes from. -/
inductive Cause where
  | undefinedName
  | security
  | wrongType
  | wrongValue
  | missingKey
  | missingIndex
  | missingAttribute
  | zeroDivision
  | overflow
  | memory
  | tooDeep
  | failed
  | templateMissing
  | templatesMissing
  | templateFailed
  | filterArgument
  | unboundName
  | assertion
  | encoding
  | decoding
  | exhausted
  | disconnected
  | unsupported
  | system
  | importing
  deriving DecidableEq, Inhabited

/-- A failure with its wording. -/
structure Failure where
  cause : Cause
  message : Text
  deriving Inhabited

namespace Failure

/-- An operand of the wrong type. -/
def wrongType (message : Text) : Failure := ⟨.wrongType, message⟩

/-- An operand of the right type with a wrong value. -/
def wrongValue (message : Text) : Failure := ⟨.wrongValue, message⟩

/-- A key that a mapping lacks; the wording is the quoted form of the key. -/
def missingKey (quotedKey : Text) : Failure := ⟨.missingKey, quotedKey⟩

/-- A place outside a sequence. -/
def missingIndex (message : Text) : Failure := ⟨.missingIndex, message⟩

/-- An attribute that a value lacks. -/
def missingAttribute (className : Text) (name : Text) : Failure :=
  ⟨.missingAttribute, "'" ++ className ++ "' object has no attribute '" ++ name ++ "'"⟩

/-- A value that cannot be gone through. -/
def notIterable (className : Text) : Failure :=
  wrongType ("'" ++ className ++ "' object is not iterable")

/-- A value that cannot be called. -/
def notCallable (className : Text) : Failure :=
  wrongType ("'" ++ className ++ "' object is not callable")

/-- A value that has no items. -/
def notSubscriptable (className : Text) : Failure :=
  wrongType ("'" ++ className ++ "' object is not subscriptable")

/-- A value that cannot be a key. -/
def unhashable (className : Text) : Failure :=
  wrongType ("unhashable type: '" ++ className ++ "'")

/-- A value without a length. -/
def noLength (className : Text) : Failure :=
  wrongType ("object of type '" ++ className ++ "' has no len()")

/-- An operator between two types that it does not take. -/
def unsupportedOperands (operator left right : Text) : Failure :=
  wrongType ("unsupported operand type(s) for " ++ operator ++ ": '" ++ left ++ "' and '" ++
    right ++ "'")

/-- An order between two types that have none. -/
def unordered (operator left right : Text) : Failure :=
  wrongType ("'" ++ operator ++ "' not supported between instances of '" ++ left ++ "' and '" ++
    right ++ "'")

/-- Nesting beyond the limit. -/
def tooDeep : Failure :=
  ⟨.tooDeep, "maximum recursion depth exceeded while calling a Python object"⟩

/-- A value too large to be held. -/
def outOfMemory : Failure := ⟨.memory, []⟩

/-- Whether looking up an item may fail like this without the failure being shown. -/
def isLookup (failure : Failure) : Bool :=
  match failure.cause with
  | .missingKey => true
  | .missingIndex => true
  | .missingAttribute => true
  | .wrongType => true
  | _ => false

/-- Whether the failure is that of a template that is not there. -/
def isTemplateMissing (failure : Failure) : Bool :=
  failure.cause = .templateMissing || failure.cause = .templatesMissing

end Failure

end PageTemplates
