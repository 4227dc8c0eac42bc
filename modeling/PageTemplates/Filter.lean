import PageTemplates.Filter.Markups
import PageTemplates.Filter.Numbers
import PageTemplates.Filter.Sequences
import PageTemplates.Filter.Texts
import PageTemplates.Test

/-!
All filters and tests by name, and their application to arguments under the names that the
environment allows.
-/

namespace PageTemplates

/-- The filters by name. -/
def Filter.rules : List (String × Rule) :=
  TextFilters.rules ++ NumberFilters.rules ++ SequenceFilters.rules ++ MarkupFilters.rules

namespace Run

/-- The rule of a name among those allowed. -/
def ruleOf? (rules : List (String × Rule)) (allowed : List String) (name : String) :
    Option Rule :=
  if allowed.contains name then rules.lookup name else none

/-- The filter of a name, if the environment has it. -/
def filter? (name : String) : Run (Option Rule) := do
  return ruleOf? Filter.rules (← environment).filters name

/-- The test of a name, if the environment has it. -/
def test? (name : String) : Run (Option Rule) := do
  return ruleOf? Test.rules (← environment).tests name

/-- Refuses a name that is no filter or test. -/
def noRule {Result : Type} (kind : Text) (name : Value) : Run Result := do
  let message := "No " ++ kind ++ " named " ++ (← quoted name) ++ "."
  match name.undefinedFailure? (← world) with
  | some failure =>
    refuse (message ++ " (" ++ failure.message ++ "; did you forget to quote the callable name?)")
  | none => refuse message

/-- Applies a filter that a value names. -/
def callFilter (context : Option Ref) (name : Value) (given : Given) : Run Value := do
  requireHashable name
  match ← match name.text?.bind Text.toString? with
    | some known => filter? known
    | none => pure none with
  | some rule => rule.apply context given
  | none => noRule "filter" name

/-- Applies a test that a value names. -/
def callTest (context : Option Ref) (name : Value) (given : Given) : Run Value := do
  requireHashable name
  match ← match name.text?.bind Text.toString? with
    | some known => test? known
    | none => pure none with
  | some rule => rule.apply context given
  | none => noRule "test" name

end Run

end PageTemplates
