import PageTemplates.Value.Percent

/-!
Operators on values. Whole numbers have no bound; a whole number meets a floating-point number as
its nearest neighbour, and fails to where there is none. Texts and sequences are joined by addition
and repeated by multiplication, and markup escapes what is added to it.
-/

namespace PageTemplates.Run

open Template (BinaryOperator)

/-- How an operator is called in messages. -/
def operatorSymbol : BinaryOperator → String
  | .add => "+"
  | .sub => "-"
  | .mul => "*"
  | .div => "/"
  | .floorDiv => "//"
  | .mod => "%"
  | .pow => "** or pow()"

/-- A pair of numbers on which an operator works. -/
inductive Numbers where
  | ints (left right : Int)
  | floats (left right : Float)

/-- The failure of a whole number without a floating-point neighbour. -/
def intTooLarge : Failure := ⟨.overflow, "int too large to convert to float"⟩

/-- A whole number as a floating-point number. -/
def toFloat (number : Int) : Run Float :=
  match Number.ofInt? number with
  | some value => return value
  | none => fail intTooLarge

/-- Two values as numbers of one kind. -/
def numbers? (left right : Value) : Run (Option Numbers) := do
  match left, right with
  | .float left, .float right => return some (.floats left right)
  | .float left, right =>
    match right.int? with
    | some right => return some (.floats left (← toFloat right))
    | none => return none
  | left, .float right =>
    match left.int? with
    | some left => return some (.floats (← toFloat left) right)
    | none => return none
  | left, right =>
    match left.int?, right.int? with
    | some left, some right => return some (.ints left right)
    | _, _ => return none

/-- Division by nothing. -/
def zeroDivision (message : Text) : Failure := ⟨.zeroDivision, message⟩

/-- A power of floating-point numbers. -/
def floatPower (base exponent : Float) : Run Value := do
  if base == 0 && exponent < 0 then
    fail (zeroDivision "0.0 cannot be raised to a negative power")
  else
    let result := Float.pow base exponent
    if result.isNaN && !base.isNaN && !exponent.isNaN then
      fail (.wrongType "complex results are not supported")
    else if Number.isInfinite result && !Number.isInfinite base && !Number.isInfinite exponent then
      fail ⟨.overflow, "(34, 'Numerical result out of range')"⟩
    else return .float result

/-- An operator on whole numbers. -/
def onInts (operator : BinaryOperator) (left right : Int) : Run Value := do
  match operator with
  | .add => return .int (left + right)
  | .sub => return .int (left - right)
  | .mul => return .int (left * right)
  | .div =>
    if right == 0 then fail (zeroDivision "division by zero")
    else
      let negative := (left < 0) != (right < 0)
      match Number.ofQuotient? negative left.natAbs right.natAbs with
      | some result => return .float result
      | none => fail ⟨.overflow, "integer division result too large for a float"⟩
  | .floorDiv =>
    if right == 0 then fail (zeroDivision "integer division or modulo by zero")
    else return .int (Int.fdiv left right)
  | .mod =>
    if right == 0 then fail (zeroDivision "integer modulo by zero")
    else return .int (Int.fmod left right)
  | .pow =>
    if 0 ≤ right then return .int (Int.pow left right.toNat)
    else floatPower (← toFloat left) (← toFloat right)

/-- An operator on floating-point numbers. -/
def onFloats (operator : BinaryOperator) (left right : Float) : Run Value := do
  match operator with
  | .add => return .float (left + right)
  | .sub => return .float (left - right)
  | .mul => return .float (left * right)
  | .div =>
    if right == 0 then fail (zeroDivision "float division by zero")
    else return .float (left / right)
  | .floorDiv =>
    if right == 0 then fail (zeroDivision "float floor division by zero")
    else return .float (Number.floorQuotient left right)
  | .mod =>
    if right == 0 then fail (zeroDivision "float modulo")
    else return .float (Number.remainder left right)
  | .pow => floatPower left right

/-- The failure of an operator on values it does not take. -/
def badOperands {Result : Type} (operator : BinaryOperator) (left right : Value) : Run Result := do
  fail (.unsupportedOperands (Text.ofString (operatorSymbol operator)) (← className left)
    (← className right))

/-- Addition of texts and sequences. -/
def addOthers (left right : Value) : Run Value := do
  let cannotJoin (kind : Text) : Run Value := do
    fail (.wrongType ("can only concatenate " ++ kind ++ " (not \"" ++ (← className right) ++
      "\") to " ++ kind))
  match left, right with
  | .markup left, right =>
    match right with
    | .text right => return .markup (left ++ Markup.escape right)
    | .markup right => return .markup (left ++ right)
    | .ref address =>
      match ← cell address with
      | some (.module _ _ _) => return .markup (left ++ (← escaped right))
      | _ => cannotJoin "str"
    | _ => cannotJoin "str"
  | .text left, .markup right => return .markup (Markup.escape left ++ right)
  | .text left, .text right => return .text (left ++ right)
  | .text _, _ => cannotJoin "str"
  | .bytes left, .bytes right => return .bytes (left ++ right)
  | .bytes _, _ =>
    fail (.wrongType ("can't concat " ++ (← className right) ++ " to bytes"))
  | .ref address, right =>
    match ← cell address with
    | some (.list items) =>
      match right with
      | .ref other =>
        match ← cell other with
        | some (.list others) => new (.list (items ++ others))
        | _ => cannotJoin "list"
      | _ => cannotJoin "list"
    | _ => badOperands .add left right
  | left, right =>
    match left.fixedItems? with
    | some items =>
      match right.fixedItems? with
      | some others => return .tuple (items ++ others)
      | none => cannotJoin "tuple"
    | none => badOperands .add left right

/-- How often a sequence of so many items is repeated: never for a count below zero, and not beyond
what can be held. -/
def repeatCount (tooLong : Option Text) (count : Int) (size : Nat) : Run Nat := do
  if count < -Int.pow 2 63 || Int.pow 2 63 ≤ count then
    fail ⟨.overflow, "cannot fit 'int' into an index-sized integer"⟩
  else if size == 0 then return 0
  else
    let total := size * count.toNat
    match tooLong with
    | some message => if Nat.pow 2 63 ≤ total then fail ⟨.overflow, message⟩
    | none => pure ()
    requireRoom total
    return count.toNat

/-- A sequence repeated, if the value is one. -/
def repeated? (value : Value) (count : Int) : Run (Option Value) := do
  match value with
  | .text text =>
    let count ← repeatCount (some "repeated string is too long") count text.length
    return some (.text (Text.repeated count text))
  | .markup text =>
    let count ← repeatCount (some "repeated string is too long") count text.length
    return some (.markup (Text.repeated count text))
  | .bytes bytes =>
    let count ← repeatCount (some "repeated bytes are too long") count bytes.length
    return some (.bytes (List.replicate count bytes).flatten)
  | .ref address =>
    match ← cell address with
    | some (.list items) =>
      let count ← repeatCount none count items.size
      return some (← newList (List.replicate count items.toList).flatten)
    | _ => return none
  | other =>
    match other.fixedItems? with
    | some items =>
      let count ← repeatCount none count items.length
      return some (.tuple (List.replicate count items).flatten)
    | none => return none

/-- Multiplication of sequences. -/
def multiplyOthers (left right : Value) : Run Value := do
  let notWhole (other : Value) : Run Value := do
    fail (.wrongType ("can't multiply sequence by non-int of type '" ++ (← className other) ++
      "'"))
  match ← repeated? left 0 with
  | some _ =>
    match right.int? with
    | some count => return (← repeated? left count).getD .none
    | none => notWhole right
  | none =>
    match ← repeated? right 0 with
    | some _ =>
      match left.int? with
      | some count => return (← repeated? right count).getD .none
      | none => notWhole left
    | none => badOperands .mul left right

/-- An operator on two values. -/
def binary (operator : BinaryOperator) (left right : Value) : Run Value := do
  match operator, left with
  | .mod, .text pattern => return .text (← Percent.format false pattern right)
  | .mod, .markup pattern => return .markup (← Percent.format true pattern right)
  | _, _ =>
    failIfUndefined left
    failIfUndefined right
    match ← numbers? left right with
    | some (.ints left right) => onInts operator left right
    | some (.floats left right) => onFloats operator left right
    | none =>
      match operator with
      | .add => addOthers left right
      | .mul => multiplyOthers left right
      | _ => badOperands operator left right

/-- A sign before a value. -/
def signed (negative : Bool) (value : Value) : Run Value := do
  failIfUndefined value
  match value with
  | .float number => return .float (if negative then -number else number)
  | _ =>
    match value.int? with
    | some number => return .int (if negative then -number else number)
    | none =>
      fail (.wrongType ("bad operand type for unary " ++ (if negative then "-" else "+" : Text) ++
        ": '" ++ (← className value) ++ "'"))

/-- A comparison of two values. -/
def compared (operator : Template.CompareOperator) (left right : Value) : Run Bool := do
  let ordered (order : Value.OrderOperator) : Run Bool := do
    settled (Value.ordered? (← world) order left right)
  match operator with
  | .equal => equal left right
  | .notEqual => return !(← equal left right)
  | .less => ordered .less
  | .lessEqual => ordered .lessEqual
  | .greater => ordered .greater
  | .greaterEqual => ordered .greaterEqual
  | .isIn => contains right left
  | .notIn => return !(← contains right left)

end PageTemplates.Run
