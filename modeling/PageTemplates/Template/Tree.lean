import PageTemplates.Data

/-!
The tree of a template as it is written: expressions, targets of assignments, and statements. Lines
are kept where a later fault names them.
-/

namespace PageTemplates.Template

/-- Operators on two numbers. -/
inductive BinaryOperator where
  | add | sub | mul | div | floorDiv | mod | pow
  deriving DecidableEq

/-- Comparisons. -/
inductive CompareOperator where
  | equal | notEqual | greater | greaterEqual | less | lessEqual | isIn | notIn
  deriving DecidableEq

mutual

/-- An expression. `data` is literal text of the template; a filter without a target stands at the
head of a block and takes the text of the block. -/
inductive Expression where
  | data (text : Text)
  | constant (value : Data)
  | name (name : String)
  | tuple (items : List Expression)
  | list (items : List Expression)
  | dict (keys values : List Expression)
  | conditional (line : Nat) (test chosen : Expression) (otherwise : Option Expression)
  | filtered (line : Nat) (target : Option Expression) (filter : String) (arguments : Arguments)
  | tested (line : Nat) (target : Expression) (test : String) (arguments : Arguments)
  | call (target : Expression) (arguments : Arguments)
  | item (target index : Expression)
  | slice (start stop step : Option Expression)
  | member (target : Expression) (name : String)
  | concat (parts : List Expression)
  | compare (first : Expression) (operators : List CompareOperator) (operands : List Expression)
  | conjunction (left right : Expression)
  | disjunction (left right : Expression)
  | negation (operand : Expression)
  | binary (operator : BinaryOperator) (left right : Expression)
  | minus (operand : Expression)
  | plus (operand : Expression)

/-- The arguments of a call: those by place, those by name, and those spread from a value. -/
inductive Arguments where
  | mk (positional : List Expression) (names : List String) (values : List Expression)
      (spread spreadNamed : Option Expression)

end

instance : Inhabited Expression := ⟨.constant .none⟩
instance : Inhabited Arguments := ⟨.mk [] [] [] none none⟩

/-- No arguments. -/
def Arguments.none : Arguments := .mk [] [] [] Option.none Option.none

/-- What an assignment assigns to. -/
inductive Target where
  | name (line : Nat) (name : String)
  | tuple (items : List Target)
  | member (name member : String)
  deriving Inhabited

mutual

/-- A statement. -/
inductive Statement where
  | output (parts : List Expression)
  | extending (line : Nat) (template : Expression)
  | forLoop (target : Target) (source : Expression) (body otherwise : List Statement)
      (test : Option Expression) (recursive : Bool)
  | choice (clauses : List Clause) (otherwise : List Statement)
  | macroDef (line : Nat) (name : String) (parameters : List String) (defaults : List Expression)
      (body : List Statement)
  | callBlock (line : Nat) (target : Expression) (arguments : Arguments)
      (parameters : List String) (defaults : List Expression) (body : List Statement)
  | filterBlock (filter : Expression) (body : List Statement)
  | scope (targets : List Target) (values : List Expression) (body : List Statement)
  | block (line : Nat) (name : String) (body : List Statement) (seesLocals required : Bool)
  | included (template : Expression) (withContext ignoreMissing : Bool)
  | importAs (template : Expression) (name : String) (withContext : Bool)
  | importFrom (line : Nat) (template : Expression) (names : List (String × String))
      (withContext : Bool)
  | assign (target : Target) (value : Expression)
  | assignBlock (target : Target) (filter : Option Expression) (body : List Statement)
  | escaping (value : Expression) (body : List Statement)

/-- One condition of a choice with its statements. -/
inductive Clause where
  | mk (test : Expression) (body : List Statement)

end

instance : Inhabited Statement := ⟨.output []⟩
instance : Inhabited Clause := ⟨.mk default []⟩

end PageTemplates.Template
