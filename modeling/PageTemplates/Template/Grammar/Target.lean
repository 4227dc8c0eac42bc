import PageTemplates.Template.Grammar.Expression

/-!
Targets of assignments: names, attributes of names, and these between commas. An expression is read as a
target if each of its parts can be assigned to.
-/

namespace PageTemplates.Template

open Production

namespace Grammar

variable (grammar : Grammar)

/-- The name of a kind of expression in messages. -/
def kindName : Expression → String
  | .data _ => "templatedata"
  | .constant _ => "const"
  | .name _ => "name"
  | .tuple _ => "tuple"
  | .list _ => "list"
  | .dict _ _ => "dict"
  | .conditional .. => "condexpr"
  | .filtered .. => "filter"
  | .tested .. => "test"
  | .call .. => "call"
  | .item .. => "getitem"
  | .slice .. => "slice"
  | .member .. => "getattr"
  | .concat _ => "concat"
  | .compare .. => "compare"
  | .conjunction .. => "and"
  | .disjunction .. => "or"
  | .negation _ => "not"
  | .binary .add _ _ => "add"
  | .binary .sub _ _ => "sub"
  | .binary .mul _ _ => "mul"
  | .binary .div _ _ => "div"
  | .binary .floorDiv _ _ => "floordiv"
  | .binary .mod _ _ => "mod"
  | .binary .pow _ _ => "pow"
  | .minus _ => "neg"
  | .plus _ => "pos"

mutual

/-- The target that an expression in parentheses stands for. -/
def targetOf? (line : Nat) : Expression → Option Target
  | .name name => some (.name line name)
  | .tuple items => (targetsOf? line items).map .tuple
  | _ => none

/-- The targets that expressions stand for. -/
def targetsOf? (line : Nat) : List Expression → Option (List Target)
  | [] => some []
  | item :: items =>
    match targetOf? line item, targetsOf? line items with
    | some first, some rest => some (first :: rest)
    | _, _ => none

end

/-- Fails because an expression cannot be assigned to. -/
def notAssignable {Result : Type} (line : Nat) (kind : String) : Production Result :=
  failAt line ("can't assign to " ++ Text.quoted (Text.ofString kind))

/-- A part of a target, or the name of what stands in its place. -/
inductive TargetPart where
  | target (line : Nat) (target : Target)
  | other (line : Nat) (kind : String)

/-- One part of a target: a name, where allowed an attribute of a name, or parts in parentheses. -/
def targetPart (withAttributes : Bool) : Production TargetPart := do
  let token ← current
  match token.kind with
  | .name identifier =>
    let _ ← advance
    if (constantName? identifier).isSome then return .other token.line "const"
    else if withAttributes && isSign .dot (← current) then
      let _ ← advance
      let (_, member) ← anyName
      return .target token.line (.member identifier member)
    else return .target token.line (.name token.line identifier)
  | _ =>
    let found ← grammar.primary
    match targetOf? token.line found with
    | some target => return .target token.line target
    | none => return .other token.line (kindName found)

/-- A target, with commas for several. -/
def assignTarget (withAttributes : Bool) (ends : List String) : Production Target := do
  let step (parts : List TargetPart) :
      Production (List TargetPart ⊕ (List TargetPart × Bool × Nat)) := do
    let line := (← current).line
    if !parts.isEmpty then
      let _ ← sign .comma
    if tupleEnds ends (← current) then return .inr (parts.reverse, !parts.isEmpty, line)
    let next ← grammar.targetPart withAttributes
    if isSign .comma (← current) then return .inl (next :: parts)
    else return .inr ((next :: parts).reverse, !parts.isEmpty, line)
  let (parts, isTuple, line) ← repeated step (grammar.bound + 2) []
  match parts, isTuple with
  | [.target _ target], false => return target
  | [.other line kind], false => notAssignable line kind
  | [], false =>
    fail ("Expected an expression, got " ++ Text.quoted (← current).kind.describe)
  | parts, _ =>
    let targets := parts.filterMap fun part =>
      match part with
      | .target _ target => some target
      | .other _ _ => none
    if targets.length == parts.length then return .tuple targets
    else notAssignable line "tuple"

/-- A single name as a target. -/
def nameTarget : Production (Nat × String) := do
  let (line, name) ← anyName
  if (constantName? name).isSome then notAssignable line "name" else return (line, name)

end Grammar

end PageTemplates.Template
