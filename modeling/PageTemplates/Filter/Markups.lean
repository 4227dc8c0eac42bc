import PageTemplates.Rule
import PageTemplates.Markup.Links
import PageTemplates.Value.AsJson
import PageTemplates.Value.Pretty

/-!
Filters for markup, addresses and scripts: escaping and its opposites, attributes, links, JSON and
the form for inspection.
-/

namespace PageTemplates.MarkupFilters

open Run Rule

/-- The text of a value; of what has a form as markup, that form. -/
def content (value : Value) : Run Text := do
  if ← hasMarkup value then escaped value else Run.plain value

/-- Whether a byte stands for itself in an address. -/
def isAddressByte (extra : List Char) (byte : UInt8) : Bool :=
  let character := Char.ofNat byte.toNat
  character.isAlphanum || ['_', '.', '-', '~'].contains character || extra.contains character

/-- A byte of an address: itself, or a percent sign and two hexadecimal digits. -/
def addressByte (extra : List Char) (byte : UInt8) : Text :=
  if isAddressByte extra byte then [.scalar (Char.ofNat byte.toNat)]
  else "%" ++ Text.ofChars ((Text.hexDigits 2 byte.toNat).map Char.toUpper)

/-- A value as a part of an address; in a query blanks are plus signs. -/
def addressPart (inQuery : Bool) (value : Value) : Run Text := do
  let bytes ← match value with
    | .bytes bytes => pure bytes
    | other =>
      match Text.encode (← Run.plain other) with
      | .ok bytes => pure bytes
      | .error fault => fail ⟨.encoding, fault.message⟩
  return bytes.flatMap fun byte =>
    if inQuery && byte == 0x20 then "+"
    else addressByte (if inQuery then [] else ['/']) byte

/-- The two parts of a pair. -/
def pairOf (value : Value) : Run (Value × Value) := do
  let items ← recovering (itemsOf value) (fun failure => failure.cause = .wrongType) fun _ => do
    fail (.wrongType ("cannot unpack non-iterable " ++ (← className value) ++ " object"))
  match items with
  | [first, second] => return (first, second)
  | _ :: _ :: _ => fail (.wrongValue "too many values to unpack (expected 2)")
  | few =>
    fail (.wrongValue ("not enough values to unpack (expected 2, got " ++
      Text.ofNat few.length ++ ")"))

/-- Whether a value can be gone through. -/
def isIterable (value : Value) : Run Bool := do
  if value.isUndefined then return true
  match value.items? (← world) with
  | some _ => return true
  | none =>
    match value with
    | .ref address =>
      match ← cell address with
      | some (.iterator _ _) => return true
      | some (.loop _) => return true
      | _ => return false
    | _ => return false

/-- A value as a part of an address, or entries as a query. -/
def addressOf (value : Value) : Run Value := do
  if value.text?.isSome || !(← isIterable value) then return .text (← addressPart false value)
  else
    let isDict := match value with
      | .ref address => do
        match ← cell address with
        | some (.dict entries) => return some entries.toList
        | _ => return none
      | _ => return none
    let pairs ← match ← (isDict : Run (Option (List (Value × Value)))) with
      | some entries => pure entries
      | none => (← itemsOf value).mapM pairOf
    let parts ← pairs.mapM fun (key, item) => do
      let key ← addressPart true key
      return key ++ "=" ++ (← addressPart true item)
    return .text (Text.join "&" parts)

/-- Whether a character may not stand in the name of an attribute. -/
def breaksName (point : CodePoint) : Bool :=
  point.satisfies fun character =>
    [' ', '\t', '\n', '\r', '\x0b', '\x0c', '/', '>', '='].contains character

/-- One attribute; nothing for a value that is undefined or nothing. -/
def attributeOf (key value : Value) : Run (Option Text) := do
  match value with
  | .none => return none
  | .undefined .. => return none
  | _ =>
    match key.text? with
    | none =>
      fail (.wrongType ("expected string or bytes-like object, got '" ++ (← className key) ++ "'"))
    | some name =>
      if name.any breaksName then
        fail (.wrongValue ("Invalid character in attribute name: " ++ (← quoted key)))
      let key ← escaped key
      return some (key ++ "=\"" ++ (← escaped value) ++ "\"")

/-- Entries as the attributes of a tag. -/
def attributes (context : Option Ref) (bound : Bound) : Run Value := do
  let value := bound.get "d"
  match ← entriesOf? value with
  | none =>
    failIfUndefined value
    fail (.missingAttribute (← className value) "items")
  | some entries =>
    let parts ← entries.filterMapM fun (key, item) => attributeOf key item
    let joined := Text.join " " parts
    let result := if (← flag bound "autospace") && !joined.isEmpty then " " ++ joined else joined
    return if ← escapes context then .markup result else .text result

/-- The names of the relation of a link: those given and those that are always there, sorted. -/
def relationOf (bound : Bound) : Run Text := do
  let given ← match bound.get "rel" with
    | .none => pure []
    | value =>
      match value.text? with
      | some text => pure (Text.words text)
      | none => fail (.missingAttribute (← className value) "split")
  let extra : List Text := if ← flag bound "nofollow" then ["nofollow"] else []
  let names := (given ++ extra ++ [Text.ofString "noopener"]).foldl
    (fun (so : List Text) name => if List.contains so name then so else so ++ [name]) []
  return Text.join " " (Text.sorted names)

/-- A text with links. -/
def linked (context : Option Ref) (bound : Bound) : Run Value := do
  let relation ← relationOf bound
  let schemes ← match bound.get "extra_schemes" with
    | .none => pure []
    | value => itemsOf value
  let schemes ← schemes.mapM fun scheme => do
    match scheme.text? with
    | some text =>
      if Markup.Shape.isSchemeStart text then pure text
      else
        fail (badArgument ((← quoted scheme) ++ " is not a valid URI scheme prefix."))
    | none => fail (.wrongType "expected string or bytes-like object")
  let target := bound.get "target"
  let targetPart ← if ← truth target then do
      pure (" target=\"" ++ (← escaped target) ++ "\"")
    else pure []
  let limit ← match bound.get "trim_url_limit" with
    | .none => pure none
    | value => do pure (some (← toIndex value))
  let attributes := " rel=\"" ++ Markup.escape relation ++ "\"" ++ targetPart
  let text ← escaped (bound.get "value")
  let result := Markup.linked ⟨limit, attributes, schemes⟩ text
  return if ← escapes context then .markup result else .text result

/-- The rule that escapes. -/
def escapeRule : Rule :=
  plain "escape" .nothing [.required "s"] fun bound => do return .markup (← escaped (bound.get "s"))

/-- The filters for markup by name. -/
def rules : List (String × Rule) :=
  [ ("escape", escapeRule),
    ("e", escapeRule),
    ("safe", plain "do_mark_safe" .nothing [.required "value"] fun bound => do
      return .markup (← content (bound.get "value"))),
    ("forceescape", plain "do_forceescape" .nothing [.required "value"] fun bound => do
      return .markup (Markup.escape (← content (bound.get "value")))),
    ("striptags", plain "do_striptags" .nothing [.required "value"] fun bound => do
      return .text (Markup.stripTags (← content (bound.get "value")))),
    ("tojson", plain "do_tojson" .escaping [.required "value", .optional "indent" .none]
      fun bound => do
        return .markup (← AsJson.safeText true (bound.get "value") (bound.get "indent"))),
    ("urlencode", plain "do_urlencode" .nothing [.required "value"] fun bound =>
      addressOf (bound.get "value")),
    ("urlize", signed "do_urlize" .escaping
      [.required "value", .optional "trim_url_limit" .none, .optional "nofollow" (.bool false),
        .optional "target" .none, .optional "rel" .none, .optional "extra_schemes" .none] linked),
    ("xmlattr", signed "do_xmlattr" .escaping
      [.required "d", .optional "autospace" (.bool true)] attributes),
    ("pprint", plain "do_pprint" .nothing [.required "value"] fun bound => do
      return .text (← Pretty.shown (bound.get "value"))) ]

end PageTemplates.MarkupFilters
