import PageTemplates.Render.Run

/-!
The two printed forms of a value. The quoted form shows a value inside others and in messages; the
plain form is what output and concatenation use. A container that holds itself is shown with dots
where it recurs.
-/

namespace PageTemplates.Value

/-- The depth of nesting that is printed and compared. -/
def depthLimit : Nat := 900

/-- The digits of a whole number, of which there may not be too many. -/
def shownInt (number : Int) : Except Failure Text :=
  if number.natAbs < Nat.pow 10 4300 then .ok (Text.ofInt number)
  else
    .error (.wrongValue ("Exceeds the limit (4300 digits) for integer string conversion; " ++
      "use sys.set_int_max_str_digits() to increase the limit"))

/-- A name between angle brackets. -/
def angled (content : Text) : Text := "<" ++ content ++ ">"

/-- The full names of the classes among the names known to every template. -/
def builtinClass (name : String) : String :=
  if name == "cycler" then "jinja2.utils.Cycler"
  else if name == "joiner" then "jinja2.utils.Joiner"
  else if name == "namespace" then "jinja2.utils.Namespace"
  else name

/-- Keys and values with colons between them, each in the given form. -/
def quotedPairs (form : Value → Except Failure Text) (entries : List (Value × Value)) :
    Except Failure (List Text) :=
  entries.mapM fun (key, value) => do
    let key ← form key
    let value ← form value
    return key ++ ": " ++ value

/-- The quoted form. `enclosing` are the containers being printed. -/
def quotedWith (world : World) :
    (depth : Nat) → (enclosing : List Ref) → Value → Except Failure Text
  | 0, _, _ => .error ⟨.tooDeep, "maximum recursion depth exceeded while getting the repr of an object"⟩
  | depth + 1, enclosing, value =>
    let items (values : List Value) : Except Failure (List Text) :=
      values.mapM (quotedWith world depth enclosing)
    match value with
    | .none => .ok "None"
    | .bool value => .ok (if value then "True" else "False")
    | .int value => shownInt value
    | .float value => .ok (Text.ofChars (Number.shown value))
    | .text value => .ok (Text.quoted value)
    | .markup value => .ok ("Markup(" ++ Text.quoted value ++ ")")
    | .bytes value => .ok (Text.quotedBytes value)
    | .date value => .ok (Data.quotedDate value)
    | .datetime value => .ok (Data.quotedDateTime value)
    | .tuple values => do return Data.enclosedTuple (← items values)
    | .group key members => do return Data.enclosedTuple (← items [key, members])
    | .range start stop step =>
      let numbers := [start, stop] ++ if step == 1 then [] else [step]
      .ok (Data.enclosed "range(" (numbers.map Text.ofInt) ")")
    | .slice start stop step => do
      return Data.enclosed "slice(" (← items [start, stop, step]) ")"
    | .undefined .. => .ok "Undefined"
    | .missing => .ok "missing"
    | .function _ => .ok "<function>"
    | .builtin name => .ok ("<class '" ++ Text.ofString (builtinClass name) ++ "'>")
    | .classOf name => .ok ("<class '" ++ Text.ofString name ++ "'>")
    | .method receiver name =>
      .ok (angled ("built-in method " ++ Text.ofString name ++ " of " ++
        className world receiver ++ " object"))
    | .template context =>
      match world.cell? context with
      | some (.context state) => .ok (angled ("TemplateReference " ++ Text.quoted state.template))
      | _ => .ok "<TemplateReference>"
    | .blockOf _ _ _ => .ok "<jinja2.runtime.BlockReference object>"
    | .view kind dict =>
      let entries := (world.entries? dict).getD []
      match kind with
      | .keys => do
        return Data.enclosed "dict_keys([" (← items (entries.map Prod.fst)) "])"
      | .values => do
        return Data.enclosed "dict_values([" (← items (entries.map Prod.snd)) "])"
      | .items => do
        let pairs ← items (entries.map fun (key, value) => .tuple [key, value])
        return Data.enclosed "dict_items([" pairs "])"
    | .ref address =>
      let form := quotedWith world depth (address :: enclosing)
      let inside (values : List Value) : Except Failure (List Text) := values.mapM form
      let pairs := quotedPairs form
      match world.cell? address with
      | some (.list values) =>
        if enclosing.contains address then .ok "[...]"
        else do return Data.enclosed "[" (← inside values.toList) "]"
      | some (.dict entries) =>
        if enclosing.contains address then .ok "\x7b...\x7d"
        else do return Data.enclosed "\x7b" (← pairs entries.toList) "\x7d"
      | some (.set values) =>
        if values.isEmpty then .ok "set()"
        else do return Data.enclosed "\x7b" (← inside values) "\x7d"
      | some (.mapping entries) => do
        return Data.enclosed "mappingproxy(\x7b" (← pairs entries) "\x7d)"
      | some (.object attributes) =>
        if enclosing.contains address then .ok "namespace(...)"
        else do
          let parts ← attributes.mapM fun (name, value) => do
            return name ++ "=" ++ (← form value)
          return Data.enclosed "namespace(" parts ")"
      | some .sealed => .ok "<opaque>"
      | some (.namespace entries) => do
        let content := Data.enclosed "\x7b" (← pairs entries) "\x7d"
        return angled ("Namespace " ++ content)
      | some (.loop state) =>
        let length := (state.length.map Text.ofNat).getD "?"
        .ok (angled ("LoopContext " ++ Text.ofInt (state.index + 1) ++ "/" ++ length))
      | some (.module name _ _) => .ok (angled ("TemplateModule " ++ Text.quoted name))
      | some (.macroOf state) =>
        let name := match state.code.name with
          | some name => Text.quoted (Text.ofString name)
          | Option.none => "anonymous"
        .ok (angled ("Macro " ++ name))
      | some (.iterator kind _) => .ok (angled (Text.ofString kind ++ " object"))
      | _ => .ok (angled (fullClassName world value ++ " object"))

/-- The quoted form of a value. -/
def quoted? (world : World) (value : Value) : Except Failure Text :=
  quotedWith world depthLimit [] value

/-- What is said of an undefined value. -/
def undefinedMessage (world : World) (hint : Option Text) (owner name : Option Value) : Text :=
  let shownName (value : Value) : Text := (quoted? world value).toOption.getD []
  match hint with
  | some hint => if hint.isEmpty then shownName (name.getD .none) ++ " is undefined" else hint
  | Option.none =>
    match owner with
    | Option.none => shownName (name.getD .none) ++ " is undefined"
    | some owner =>
      match name with
      | some (.text name) =>
        Text.quoted (described world owner) ++ " has no attribute " ++ Text.quoted name
      | some (.markup name) =>
        Text.quoted (described world owner) ++ " has no attribute " ++
          ((quoted? world (.markup name)).toOption.getD [])
      | name => described world owner ++ " has no element " ++ shownName (name.getD .none)

/-- The failure of using an undefined value; any other value gives none. -/
def undefinedFailure? (world : World) : Value → Option Failure
  | .undefined _ hint owner name cause => some ⟨cause, undefinedMessage world hint owner name⟩
  | _ => Option.none

/-- Pieces of output as one text; every piece has to be a text. -/
def joinChunks (world : World) (chunks : List Value) : Except Failure Text :=
  let rec go : Nat → List Value → Except Failure Text
    | _, [] => .ok []
    | place, chunk :: rest =>
      match chunk.text? with
      | some content => do return content ++ (← go (place + 1) rest)
      | Option.none =>
        .error (.wrongType ("sequence item " ++ Text.ofNat place ++
          ": expected str instance, " ++ className world chunk ++ " found"))
  go 0 chunks

/-- The plain form of a value. -/
def plain? (world : World) (value : Value) : Except Failure Text :=
  match value with
  | .text value => .ok value
  | .markup value => .ok value
  | .date value => .ok (Calendar.isoDate value)
  | .datetime value => .ok (Calendar.isoDateTime " " value)
  | .undefined strict hint owner name cause =>
    if strict then .error ⟨cause, undefinedMessage world hint owner name⟩ else .ok []
  | .ref address =>
    match world.cell? address with
    | some .explosive => .error (.wrongValue "cannot print")
    | some (.module _ body _) => joinChunks world body
    | some (.mapping entries) => do
      let pairs ← quotedPairs (quotedWith world depthLimit [address]) entries
      return Data.enclosed "\x7b" pairs "\x7d"
    | _ => quoted? world value
  | other => quoted? world other

end PageTemplates.Value

namespace PageTemplates.Run

/-- The outcome of a computation that only reads the world. -/
def settled {Result : Type} (result : Except Failure Result) : Run Result :=
  match result with
  | .ok value => return value
  | .error failure => fail failure

/-- The quoted form of a value. -/
def quoted (value : Value) : Run Text := do settled (value.quoted? (← world))

/-- Fails if the value is undefined in any way. -/
def failIfUndefined (value : Value) : Run Unit := do
  match value.undefinedFailure? (← world) with
  | some failure => fail failure
  | none => return ()

/-- Fails if the value is strictly undefined. -/
def failIfStrict (value : Value) : Run Unit := do
  match value with
  | .undefined true .. => failIfUndefined value
  | _ => return ()

/-- The pieces of output as one text. -/
def joined (chunks : List Value) : Run Text := do
  settled (Value.joinChunks (← world) chunks)

end PageTemplates.Run
