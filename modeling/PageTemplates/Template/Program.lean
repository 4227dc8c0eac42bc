import PageTemplates.Template.Tree

/-!
Programs: templates with every name resolved to a variable, every constant computed, and output
grouped into the pieces that are written one by one. A variable is found by the depth of the scope
that declares it and its name.
-/

namespace PageTemplates.Template

/-- A variable of a scope at a depth. -/
structure Slot where
  depth : Nat
  name : String
  deriving DecidableEq, Inhabited

/-- How a variable gets its first value when its scope is entered: it is already set, it is looked
up in the context, it is copied from an outer variable, or it is left without a value. -/
inductive Load where
  | parameter
  | resolve
  | copy (source : Slot)
  | unset
  deriving DecidableEq, Inhabited

/-- The variables that a scope declares. -/
structure Frame where
  depth : Nat
  loads : List (String × Load)
  deriving Inhabited

/-- Whether markup characters of a value are escaped: never, always, or as the setting at the time
of the render says. -/
inductive Escaping where
  | never
  | always
  | current
  deriving DecidableEq, Inhabited

/-- Local variables handed to another template, by name. -/
abbrev Locals := List (String × Slot)

mutual

/-- The code of an expression. `captured` is the text of the surrounding block so far. A variable
that is `checked` may be without a value, and is then undefined. -/
inductive Code where
  | constant (value : Data)
  | variable (slot : Slot) (checked : Bool)
  | tuple (items : List Code)
  | list (items : List Code)
  | dict (keys values : List Code)
  | conditional (test chosen : Code) (otherwise : Option Code) (complaint : Text)
  | captured (escaping : Escaping)
  | filtered (filter : String) (target : Code) (arguments : CallCode)
  | tested (test : String) (target : Code) (arguments : CallCode)
  | call (target : Code) (arguments : CallCode)
  | item (target index : Code)
  | sliceOf (target : Code) (start stop step : Option Code)
  | slice (start stop step : Option Code)
  | member (target : Code) (name : String)
  | concat (escaping : Escaping) (parts : List Code)
  | compare (first : Code) (operators : List Template.CompareOperator) (operands : List Code)
  | conjunction (left right : Code)
  | disjunction (left right : Code)
  | negation (operand : Code)
  | binary (operator : Template.BinaryOperator) (left right : Code)
  | minus (operand : Code)
  | plus (operand : Code)

/-- The code of the arguments of a call. -/
inductive CallCode where
  | mk (positional : List Code) (names : List String) (values : List Code)
      (spread spreadNamed : Option Code)

end

instance : Inhabited Code := ⟨.constant .none⟩
instance : Inhabited CallCode := ⟨.mk [] [] [] none none⟩

/-- What is assigned to: a variable, several places that share a value out, or an entry of a
variable's value. -/
inductive Place where
  | slot (slot : Slot)
  | tuple (places : List Place)
  | member (slot : Slot) (name : String)
  deriving Inhabited

/-- A piece of output: text, or a value. -/
inductive Piece where
  | text (text : Text)
  | value (code : Code) (escaping : Escaping)

/-- The names that an assignment outside all scopes gives to the context, and whether each can be
imported. -/
abbrev Published := List (String × Slot)

/-- Which template a template tag means: one by name, the first that exists of several, or either
as the value turns out. -/
inductive Selection where
  | one
  | several
  | byValue
  deriving DecidableEq

mutual

/-- The code of a statement. A `guarded` step does nothing once the template extends another. -/
inductive Step where
  | output (guarded : Bool) (pieces : List Piece)
  | extending (checked : Bool) (template : Code)
  | extendedTwice
  | forLoop (loop : LoopCode)
  | choice (branches : List Branch) (otherwise : List Step)
  | defineMacro (slot : Slot) (published : Bool) (definition : MacroCode)
  | callBlock (slot : Slot) (definition : MacroCode) (call : Code)
  | filterBlock (frame : Frame) (body : List Step) (filter : Code)
  | scope (frame : Frame) (places : List Place) (values : List Code) (body : List Step)
  | block (name : String) (guarded required : Bool) (locals : Option Locals)
  | included (template : Code) (selection : Selection) (ignoreMissing : Bool)
      (locals : Option Locals)
  | importAs (template : Code) (slot : Slot) (published : Bool) (locals : Option Locals)
  | importFrom (line : Nat) (template : Code) (names : List (String × Slot)) (published : Bool)
      (locals : Option Locals)
  | assign (spaces : List Slot) (place : Place) (value : Code) (published : Published)
  | assignBlock (frame : Frame) (body : List Step) (filter : Option Code) (place : Place)
      (published : Published)
  | escaping (value : Code) (body : List Step)

/-- A condition with the steps it guards. -/
inductive Branch where
  | mk (test : Code) (body : List Step)

/-- A loop: the place each item goes to, the variable of the loop's own object if the body uses it,
the source, the filter of the items, and the steps for each item and for no item at all. A recursive loop
says whether what a run of it writes is markup. -/
inductive LoopCode where
  | mk (place : Place) (loopSlot : Option Slot) (source : Code)
      (test : Option (Frame × Code)) (frame : Frame) (body : List Step)
      (otherwiseFrame : Frame) (otherwise : List Step) (recursive : Option Escaping)

/-- A macro: its parameters with the defaults of the last of them, the special arguments it uses,
its body, and the title of the body that it is defined in. -/
inductive MacroCode where
  | mk (name : Option String) (parameters : List String) (defaults : List Code)
      (takesCaller takesNamed takesRest : Bool) (frame : Frame) (body : List Step) (home : String)

end

instance : Inhabited Step := ⟨.extendedTwice⟩
instance : Inhabited Branch := ⟨.mk default []⟩
instance : Inhabited MacroCode := ⟨.mk none [] [] false false false default [] ""⟩
instance : Inhabited LoopCode :=
  ⟨.mk default none default none default [] default [] none⟩

namespace MacroCode

/-- The name, which the body of a call block does not have. -/
def name : MacroCode → Option String
  | .mk name .. => name

/-- The parameters in order. -/
def parameters : MacroCode → List String
  | .mk _ parameters .. => parameters

/-- Whether the body uses the caller. -/
def takesCaller : MacroCode → Bool
  | .mk _ _ _ takesCaller .. => takesCaller

/-- Whether the body uses further named arguments. -/
def takesNamed : MacroCode → Bool
  | .mk _ _ _ _ takesNamed .. => takesNamed

/-- Whether the body uses further positional arguments. -/
def takesRest : MacroCode → Bool
  | .mk _ _ _ _ _ takesRest .. => takesRest

/-- The title of the body of a macro defined in the body of a title. -/
def titleIn (home : String) : String := home ++ ".<locals>.macro"

/-- The title of the body of a macro. -/
def title : MacroCode → String
  | .mk _ _ _ _ _ _ _ _ home => titleIn home

end MacroCode

/-- A block: whether its body refers to the template and to the block it replaces. -/
structure BlockCode where
  name : String
  usesSelf : Bool
  usesSuper : Bool
  frame : Frame
  body : List Step
  deriving Inhabited

/-- A compiled template. `mayExtend` says that it may extend another one. -/
structure Program where
  usesSelf : Bool
  mayExtend : Bool
  frame : Frame
  body : List Step
  blocks : List BlockCode
  deriving Inhabited

end PageTemplates.Template
