import PageTemplates.Value.ContainerMethods
import PageTemplates.Json.Write

/-!
Values as JSON documents. Entries of dictionaries keep their order or are put in the order of their
keys; what has no JSON form, and a container inside itself, fails.
-/

namespace PageTemplates.AsJson

open Run

/-- The member name of a key, which may be a text, a number, a truth value or nothing. -/
def memberName (key : Value) : Run Text := do
  match key with
  | .none => return "null"
  | .bool flag => return if flag then "true" else "false"
  | .float number => return Json.writeFloat number
  | .int number => settled (Value.shownInt number)
  | _ =>
    match key.text? with
    | some name => return name
    | none =>
      fail (.wrongType ("keys must be str, int, float, bool or None, not " ++ (← bareClassName key)))

/-- Entries in the order of their keys. -/
def inOrder (entries : List (Value × Value)) : Run (List (Value × Value)) := do
  let keyed := entries.map fun (key, value) => (key, Value.tuple [key, value])
  return (← ContainerMethods.sortKeyed false keyed).map fun (key, pair) =>
    match pair with
    | .tuple [_, value] => (key, value)
    | other => (key, other)

/-- The failure of a value without a document. -/
def withoutDocument (value : Value) : Run Json := do
  fail (.wrongType ("Object of type " ++ (← bareClassName value) ++ " is not JSON serializable"))

/-- Fails for a container that stands in itself. -/
def requireNew (enclosing : List Ref) (address : Ref) : Run Unit := do
  if enclosing.contains address then fail (.wrongValue "Circular reference detected")

/-- The document of a value. `enclosing` are the containers that it stands in. -/
def documentWith (sorts : Bool) : (depth : Nat) → (enclosing : List Ref) → Value → Run Json
  | 0, _, _ => fail ⟨.tooDeep, "maximum recursion depth exceeded while encoding a JSON object"⟩
  | depth + 1, enclosing, value => do
    match value with
    | .none => return .null
    | .bool flag => return .bool flag
    | .int number =>
      let _ ← settled (Value.shownInt number)
      return .int number
    | .float number => return .float number
    | .text text => return .text text
    | .markup text => return .text text
    | .tuple items => return .array (← items.mapM (documentWith sorts depth enclosing))
    | .group key members =>
      return .array (← [key, members].mapM (documentWith sorts depth enclosing))
    | .ref address =>
      match ← cell address with
      | some (.list items) =>
        requireNew enclosing address
        return .array (← items.toList.mapM (documentWith sorts depth (address :: enclosing)))
      | some (.dict entries) =>
        requireNew enclosing address
        let ordered ← if sorts then inOrder entries.toList else pure entries.toList
        let members ← ordered.mapM fun (key, value) => do
          return (← memberName key, ← documentWith sorts depth (address :: enclosing) value)
        return .object members
      | _ => withoutDocument value
    | _ => withoutDocument value

/-- The document of a value, with the entries of dictionaries sorted or as they are. -/
def document (sorts : Bool) (value : Value) : Run Json :=
  documentWith sorts Value.depthLimit [] value

/-- A character that could end a script or start markup, as an escape of JSON. -/
def safePoint (point : CodePoint) : Text :=
  match point with
  | .scalar '<' => "\\u003c"
  | .scalar '>' => "\\u003e"
  | .scalar '&' => "\\u0026"
  | .scalar '\'' => "\\u0027"
  | other => [other]

/-- The layout for an indentation: that many blanks, a text as it stands, or one line. -/
def layoutOf (indent : Value) : Run Json.Layout := do
  match indent with
  | .none => return .line
  | value =>
    match value.text?, value.int? with
    | some unit, _ => return .indented unit
    | none, some count =>
      requireRoom count.toNat
      return .indented (Text.repeated count.toNat " ")
    | none, none =>
      fail (.wrongType ("can't multiply sequence by non-int of type '" ++ (← className value) ++
        "'"))

/-- A value as JSON that can stand inside markup and scripts. -/
def safeText (sorts : Bool) (value indent : Value) : Run Text := do
  let layout ← if value.text?.isSome then pure .line else layoutOf indent
  return (Json.writeAt layout 0 (← document sorts value)).flatMap safePoint

end PageTemplates.AsJson
