import PageTemplates.Template.Program

/-!
Careful programs. An assignment to an entry of a variable is meant for namespaces, and is checked for
plain assignments only: the output of a block is put into whatever the variable holds, and so is a
value that is shared out in the same assignment that gives the variable its value.
-/

namespace PageTemplates.Template

namespace Place

mutual

/-- The variables that get a value. -/
def assigned : Place → List Slot
  | .slot own => [own]
  | .tuple places => assignedAll places
  | .member _ _ => []

/-- The variables of places that get a value. -/
def assignedAll : List Place → List Slot
  | [] => []
  | place :: rest => assigned place ++ assignedAll rest

end

mutual

/-- The variables whose value gets an entry. -/
def entered : Place → List Slot
  | .slot _ => []
  | .tuple places => enteredAll places
  | .member owner _ => [owner]

/-- The variables of places whose value gets an entry. -/
def enteredAll : List Place → List Slot
  | [] => []
  | place :: rest => entered place ++ enteredAll rest

end

/-- Whether every variable whose value gets an entry is among those that were found to hold a
namespace, and does not get another value by the same assignment. -/
def isChecked (spaces : List Slot) (place : Place) : Bool :=
  place.entered.all fun owner => spaces.contains owner && !place.assigned.contains owner

end Place

mutual

/-- Whether a statement gives entries to namespaces only. -/
def Step.isCareful : Step → Bool
  | .forLoop loop => loop.isCareful
  | .choice branches otherwise => Branch.areCareful branches && Step.areCareful otherwise
  | .defineMacro _ _ definition => definition.isCareful
  | .callBlock _ definition _ => definition.isCareful
  | .filterBlock _ body _ => Step.areCareful body
  | .scope _ places _ body => (Place.enteredAll places).isEmpty && Step.areCareful body
  | .assign spaces place _ _ => place.isChecked spaces
  | .assignBlock _ body _ place _ => place.entered.isEmpty && Step.areCareful body
  | .escaping _ body => Step.areCareful body
  | _ => true

/-- Whether statements give entries to namespaces only. -/
def Step.areCareful : List Step → Bool
  | [] => true
  | step :: rest => step.isCareful && Step.areCareful rest

/-- Whether branches give entries to namespaces only. -/
def Branch.areCareful : List Branch → Bool
  | [] => true
  | .mk _ body :: rest => Step.areCareful body && Branch.areCareful rest

/-- Whether a loop gives entries to namespaces only. -/
def LoopCode.isCareful : LoopCode → Bool
  | .mk place _ _ _ _ body _ otherwise _ =>
    place.entered.isEmpty && Step.areCareful body && Step.areCareful otherwise

/-- Whether a macro gives entries to namespaces only. -/
def MacroCode.isCareful : MacroCode → Bool
  | .mk _ _ _ _ _ _ _ body _ => Step.areCareful body

end

/-- Whether the body of a block gives entries to namespaces only. -/
def BlockCode.isCareful (code : BlockCode) : Bool := Step.areCareful code.body

/-- Whether a template gives entries to namespaces only. -/
def Program.isCareful (program : Program) : Bool :=
  Step.areCareful program.body && program.blocks.all BlockCode.isCareful

theorem Place.enteredAll_eq_nil {places : List Place} :
    enteredAll places = [] ↔ ∀ place ∈ places, place.entered = [] := by
  induction places with
  | nil => simp [enteredAll]
  | cons place rest ih => simp [enteredAll, ih]

end PageTemplates.Template
