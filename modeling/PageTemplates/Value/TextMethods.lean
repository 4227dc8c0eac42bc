import PageTemplates.Value.Arity
import PageTemplates.Value.Braces
import PageTemplates.Text.Encoding
import PageTemplates.Text.Identifier

/-!
The methods of texts and of markup. What a method of markup returns is markup again, and text that
goes into it is escaped.
-/

namespace PageTemplates.TextMethods

open Run

/-- A text operand of a search. -/
def needle (value : Value) : Run Text := do
  match value.text? with
  | some text => return text
  | none => fail (.wrongType ("must be str, not " ++ (← className value)))

/-- A text operand of a replacement. -/
def replacement (place : Text) (value : Value) : Run Text := do
  match value.text? with
  | some text => return text
  | none =>
    fail (.wrongType ("replace() argument " ++ place ++ " must be str, not " ++
      (← className value)))

/-- The part of a text that a search looks at, with its place; none if the part starts after the
text. -/
def window (text : Text) (bounds : List Value) : Run (Option (Nat × Text)) := do
  let size := Int.ofNat text.length
  let read (value : Option Value) (default : Int) : Run Int := do
    match value with
    | none => return default
    | some value => return (← sliceBound value).getD default
  let start ← read bounds[0]? 0
  let stop ← read bounds[1]? size
  let start := if start < 0 then max 0 (start + size) else start
  let stop := if stop < 0 then max 0 (stop + size) else min stop size
  if start > size || start > stop then return none
  else return some (start.toNat, (text.take stop.toNat).drop start.toNat)

/-- Where a text occurs in the part of another one. -/
def search (last : Bool) (text : Text) (arguments : List Value) : Run (Option Nat) := do
  match arguments with
  | [] => return none
  | value :: bounds =>
    let part ← needle value
    match ← window text bounds with
    | none => return none
    | some (offset, inside) =>
      let found := if last then Text.findLast? part inside else Text.find? part inside
      return found.map (· + offset)

/-- The character that fills a field. -/
def fillCharacter (value : Option Value) : Run Text := do
  match value with
  | none => return [.scalar ' ']
  | some value =>
    match value.text? with
    | some [point] => return [point]
    | some _ => fail (.wrongType "The fill character must be exactly one character long")
    | none =>
      fail (.wrongType ("The fill character must be a unicode character, not " ++
        (← className value)))

/-- A text in a field of a width with the rest on both sides. -/
def centered (text : Text) (width : Nat) (fill : Text) : Text :=
  let missing := width - text.length
  let left := missing / 2 + (if missing % 2 == 1 && width % 2 == 1 then 1 else 0)
  Text.repeated left fill ++ text ++ Text.repeated (missing - left) fill

/-- Splits at blanks, at most `limit` times. -/
def splitBlanks : (limit : Nat) → (bound : Nat) → Text → List Text
  | _, 0, _ => []
  | limit, bound + 1, text =>
    match Text.trimStart text with
    | [] => []
    | start =>
      match limit with
      | 0 => [start]
      | limit + 1 =>
        let word := start.takeWhile fun point => !Text.blank point
        word :: splitBlanks limit bound (start.drop word.length)

/-- Splits at blanks from the right, at most `limit` times. -/
def splitBlanksLast (limit : Nat) (text : Text) : List Text :=
  ((splitBlanks limit (text.length + 1) text.reverse).map List.reverse).reverse

/-- How often a text is split at most, as the arguments say. -/
def splitLimit (text : Text) (arguments : List (Option Value)) : Run Nat := do
  let limit ← match arguments[1]? with
    | some (some value) => toSize value
    | _ => pure (-1)
  return if limit < 0 then text.length + 1 else limit.toNat

/-- The separator of a split, unless the split is at blanks. -/
def splitSeparator (value : Value) : Run (Option Text) := do
  if value matches .none then return none
  match value.text? with
  | some separator =>
    if separator.isEmpty then fail (.wrongValue "empty separator")
    return some separator
  | none => fail (.wrongType ("must be str or None, not " ++ (← className value)))

/-- Splits a text as the arguments say. -/
def split (last : Bool) (text : Text) (arguments : List (Option Value)) : Run (List Text) := do
  let limit ← splitLimit text arguments
  match ← splitSeparator ((arguments[0]?.getD none).getD .none) with
  | none =>
    return if last then splitBlanksLast limit text else splitBlanks limit (text.length + 1) text
  | some separator =>
    return if last then Text.splitOnLast separator limit text
      else Text.splitOn separator limit text

/-- Expands tabs to the next multiple of a size. -/
def expandTabs (size : Nat) : (column : Nat) → Text → Text
  | _, [] => []
  | column, point :: rest =>
    if point = .scalar '\t' then
      let count := if size == 0 then 0 else size - column % size
      List.replicate count (.scalar ' ') ++ expandTabs size (column + count) rest
    else if point = .scalar '\n' || point = .scalar '\r' then point :: expandTabs size 0 rest
    else point :: expandTabs size (column + 1) rest

/-- Fills with zeros after the sign. -/
def zeroFilled (text : Text) (width : Nat) : Text :=
  let zeros := List.replicate (width - text.length) (.scalar '0')
  match text with
  | .scalar '-' :: rest => .scalar '-' :: zeros ++ rest
  | .scalar '+' :: rest => .scalar '+' :: zeros ++ rest
  | text => zeros ++ text

/-- The texts to be joined. -/
def joinParts (markup : Bool) : (place : Nat) → List Value → Run (List Text)
  | _, [] => return []
  | place, value :: rest => do
    let part ←
      if markup then escaped value
      else
        match value.text? with
        | some text => pure text
        | none =>
          fail (.wrongType ("sequence item " ++ Text.ofNat place ++ ": expected str instance, " ++
            (← className value) ++ " found"))
    return part :: (← joinParts markup (place + 1) rest)

/-- Whether the joined value is markup: that of a markup separator, or of texts of which one is. -/
def join (model : Value) (separator : Text) (sequence : Value) : Run Value := do
  let items ← recovering (itemsOf sequence) (fun failure => failure.cause = .wrongType) fun _ =>
    fail (.wrongType "can only join an iterable")
  return model.like (Text.join separator (← joinParts model.isMarkup 0 items))

/-- The texts that an argument is or holds. -/
def partsOf? : Value → Option (List Text)
  | .tuple parts => some (parts.filterMap Value.text?)
  | value => value.text?.map ([·])

/-- Whether a text begins or ends with one of the given ones. -/
def startsOrEnds (atEnd : Bool) (method : Text) (text : Text) (arguments : List Value) :
    Run Bool := do
  let test (inside part : Text) : Bool :=
    if atEnd then Text.endsWith inside part else Text.startsWith inside part
  match arguments with
  | [] => return false
  | value :: bounds =>
    let inside ← window text bounds
    match partsOf? value with
    | some parts => return inside.any fun (_, inside) => parts.any (test inside)
    | none =>
      fail (.wrongType (method ++ " first arg must be str or a tuple of str, not " ++
        (← className value)))

/-- Every code point passes, and there is one. -/
def every (test : Nat → Bool) (text : Text) : Bool :=
  !text.isEmpty && text.all fun point => test point.value

/-- A parameter of a method that is a text. -/
def textParameter (method parameter default : Text) (value : Option Value) : Run Text := do
  match value with
  | none => return default
  | some value =>
    match value.text? with
    | some text => return text
    | none =>
      let name ← if value matches .none then pure (Text.ofString "None") else className value
      fail (.wrongType (method ++ "() argument '" ++ parameter ++ "' must be str, not " ++ name))

/-- The encoding that the arguments of a method name, and what it does with what cannot be expressed;
where the name of the latter is unknown, it is given as a text. -/
def encodingOf (method : Text) (given : Given) :
    Run (Text.Encoding × Except Text Text.Fallback) := do
  let arguments ← Arity.optional method ["encoding", "errors"] given
  let name ← textParameter method "encoding" "utf-8" ((arguments[0]?).getD none)
  let handling ← textParameter method "errors" "strict" ((arguments[1]?).getD none)
  let fallback := match Text.Fallback.ofName? handling with
    | some fallback => .ok fallback
    | none => .error handling
  match Text.Encoding.ofName? name with
  | some encoding => return (encoding, fallback)
  | none => fail ⟨.missingKey, "unknown encoding: " ++ name⟩

/-- The failure of an unknown way to deal with what cannot be expressed. -/
def unknownHandling (name : Text) : Failure :=
  ⟨.missingKey, "unknown error handler name '" ++ name ++ "'"⟩

/-- The bytes of a text in an encoding. -/
def encoded (text : Text) (given : Given) : Run Value := do
  let (encoding, fallback) ← encodingOf "encode" given
  match fallback with
  | .error name =>
    if text.all encoding.has then return .bytes (text.flatMap encoding.bytesOf)
    else fail (unknownHandling name)
  | .ok fallback =>
    match encoding.encode fallback text with
    | .ok bytes => return .bytes bytes
    | .error fault => fail ⟨.encoding, fault.messageFor encoding.name encoding.limitReason⟩

/-- The text of bytes in an encoding. -/
def decoded (bytes : Bytes) (given : Given) : Run Value := do
  if bytes.isEmpty then return .text []
  let (encoding, fallback) ← encodingOf "decode" given
  match encoding.decode (fallback.toOption.getD .refuse) bytes, fallback with
  | .ok text, _ => return .text text
  | .error _, .error name => fail (unknownHandling name)
  | .error _, .ok .reference =>
    fail (.wrongType "don't know how to handle UnicodeDecodeError in error callback")
  | .error fault, .ok _ => fail ⟨.decoding, fault.message⟩

/-- The characters that a trim takes away. -/
def trimSet (method : Text) (value : Option Value) : Run (CodePoint → Bool) := do
  match value.getD .none with
  | .none => return Text.blank
  | value =>
    match value.text? with
    | some points => return fun point => List.contains points point
    | none => fail (.wrongType (method ++ " arg must be None or str"))

/-- Replaces code points by what a mapping says of their numbers. -/
def translate (table : Value) : Text → Run Text
  | [] => return []
  | point :: rest => do
    let image ← attempt (item table (.int point.value)) fun failure =>
      failure.cause = .missingKey || failure.cause = .missingIndex
    let part : Text ← match image with
      | none => pure [point]
      | some .none => pure []
      | some (.int number) => pure ((CodePoint.ofNat? number.toNat).toList)
      | some value => needle value
    return part ++ (← translate table rest)

/-- The width of a field. -/
def fieldWidth (value : Value) : Run Nat := do
  let width := (← toSize value).toNat
  requireRoom width
  return width

/-- The methods that come to another text without arguments, with what they do. -/
def changes : List (String × (Text → Text)) :=
  [("upper", Text.upper), ("lower", Text.lower), ("casefold", Text.foldCase),
    ("title", Text.title), ("capitalize", Text.capitalize), ("swapcase", Text.swapCase)]

/-- The methods that test a text without arguments, with what they test. -/
def tests : List (String × (Text → Bool)) :=
  [("isalnum", every fun point => Text.isLetter point || Text.isNumeric point),
    ("isalpha", every Text.isLetter),
    ("isascii", fun text => text.all fun point => point.value < 128),
    ("isdecimal", every Text.isDecimal),
    ("isdigit", every Text.isDigit),
    ("isnumeric", every Text.isNumeric),
    ("isidentifier", Text.isIdentifier),
    ("islower", Text.allLower),
    ("isupper", Text.allUpper),
    ("isspace", every Text.isBlank),
    ("istitle", Text.titleShaped false false),
    ("isprintable", fun text => text.all fun point => Text.isPrintable point.value)]

section

variable (receiver : Value) (text : Text) (given : Given)

/-- Replaces parts of a text. What goes into markup is escaped. -/
def replaceParts : Run Value := do
  match ← Arity.between "str" "replace" 2 3 given with
  | old :: new :: rest =>
    let old ← replacement "1" old
    let new ← if receiver.isMarkup then escaped new else replacement "2" new
    let limit ← match rest with
      | count :: _ => toSize count
      | [] => pure (-1)
    return receiver.like (Text.replace text old new (if limit < 0 then none else some limit.toNat))
  | _ => return receiver.like text

/-- The parts of a text between separators. -/
def splitParts (last : Bool) (method : Text) : Run Value := do
  let parts ← split last text (← Arity.optional method ["sep", "maxsplit"] given)
  newList (parts.map receiver.like)

/-- The lines of a text. -/
def splitLines : Run Value := do
  let arguments ← Arity.optional "splitlines" ["keepends"] given
  let keep ← match arguments.head?.getD none with
    | some value => pure ((← toIndex value) != 0)
    | none => pure false
  newList ((if keep then Text.linesKeepingBreaks text else Text.lines text).map receiver.like)

/-- A text in a field of a width, with a character that fills the field. -/
def placeIn (method : Text) (form : Nat → Text → Text) : Run Value := do
  let arguments ← Arity.between "str" method 1 2 given
  let width ← fieldWidth (arguments[0]?.getD .none)
  return receiver.like (form width (← fillCharacter arguments[1]?))

/-- A text with zeros in front. -/
def zeroFill : Run Value := do
  let width ← fieldWidth (← Arity.one "str" "zfill" given)
  return receiver.like (zeroFilled text width)

/-- A text with blanks for its tabs. -/
def replaceTabs : Run Value := do
  let arguments ← Arity.optional "expandtabs" ["tabsize"] given
  let size ← match arguments.head?.getD none with
    | some value => toIndex value
    | none => pure 8
  if size < -Int.pow 2 31 || Int.pow 2 31 ≤ size then
    fail ⟨.overflow, "Python int too large to convert to C int"⟩
  requireRoom (size.toNat * text.count (.scalar '\t'))
  return receiver.like (expandTabs size.toNat 0 text)

/-- A text without some characters at its ends. -/
def trimmed (method : Text) (form : (CodePoint → Bool) → Text → Text) : Run Value := do
  let arguments ← Arity.between "str" method 0 1 given
  return receiver.like (form (← trimSet method arguments.head?) text)

/-- Where a text occurs, or minus one. -/
def placeOf (last : Bool) (method : Text) : Run Value := do
  let found ← search last text (← Arity.taking "str" method 1 3 given)
  return .int ((found.map Int.ofNat).getD (-1))

/-- Where a text occurs, which it must. -/
def indexIn (last : Bool) (method : Text) : Run Value := do
  match ← search last text (← Arity.taking "str" method 1 3 given) with
  | some place => return .int place
  | none => fail (.wrongValue "substring not found")

/-- How often a text occurs. -/
def countParts : Run Value := do
  match ← Arity.taking "str" "count" 1 3 given with
  | value :: bounds =>
    let part ← needle value
    let inside ← window text bounds
    return .int ((inside.map fun (_, inside) => Text.occurrences part inside).getD 0)
  | [] => return .int 0

/-- A separator of a text. -/
def separatorOf (method : Text) : Run Text := do
  let separator ← needle (← Arity.one "str" method given)
  if separator.isEmpty then fail (.wrongValue "empty separator")
  return separator

/-- A text without a part that a method takes off it. -/
def withoutPart (method : Text) (form : Text → Text) : Run Value := do
  let value ← Arity.one "str" method given
  match value.text? with
  | some part => return receiver.like (form part)
  | none =>
    fail (.wrongType (method ++ "() argument must be str, not " ++ (← className value)))

/-- How patterns in braces are filled: under a guard, and with escaping for markup. -/
def formatterFor : Run Braces.Formatter := do
  return ⟨(← environment).guard != .open, receiver.isMarkup⟩

/-- The entries whose keys are texts. -/
def namedBy (entries : List (Value × Value)) : List (Text × Value) :=
  entries.filterMap fun (key, value) => key.text?.map fun key => (key, value)

/-- Fills a pattern with the entries of a mapping. -/
def formatMap : Run Value := do
  let mapping ← Arity.one "str" "format_map" given
  let formatter ← formatterFor receiver
  let entries := (← entriesOf? mapping).getD []
  return receiver.like (← Braces.format formatter text ⟨[], namedBy entries⟩)

/-- A text without a part at its end. -/
def withoutEnd (part : Text) : Text :=
  if Text.endsWith text part then text.take (text.length - part.length) else text

/-- Calls a method of a text that takes arguments, or is one of all values. -/
def callWith (method : String) : Run Value := do
  let name := Text.ofString method
  let same (content : Text) : Value := receiver.like content
  match method with
  | "join" => join receiver text (← Arity.one "str" name given)
  | "replace" => replaceParts receiver text given
  | "split" => splitParts receiver text given false name
  | "rsplit" => splitParts receiver text given true name
  | "splitlines" => splitLines receiver text given
  | "center" => placeIn receiver given name (centered text)
  | "ljust" =>
    placeIn receiver given name fun width fill =>
      text ++ Text.repeated (width - text.length) fill
  | "rjust" =>
    placeIn receiver given name fun width fill =>
      Text.repeated (width - text.length) fill ++ text
  | "zfill" => zeroFill receiver text given
  | "expandtabs" => replaceTabs receiver text given
  | "strip" => trimmed receiver text given name Text.dropEnds
  | "lstrip" => trimmed receiver text given name List.dropWhile
  | "rstrip" => trimmed receiver text given name Text.dropEnd
  | "find" => placeOf text given false name
  | "rfind" => placeOf text given true name
  | "index" => indexIn text given false name
  | "rindex" => indexIn text given true name
  | "count" => countParts text given
  | "startswith" =>
    return .bool (← startsOrEnds false name text (← Arity.taking "str" name 1 3 given))
  | "endswith" =>
    return .bool (← startsOrEnds true name text (← Arity.taking "str" name 1 3 given))
  | "partition" =>
    let separator ← separatorOf given name
    match Text.splitFirst? separator text with
    | some (before, after) => return .tuple [same before, same separator, same after]
    | none => return .tuple [same text, same [], same []]
  | "rpartition" =>
    let separator ← separatorOf given name
    match Text.splitLast? separator text with
    | some (before, after) => return .tuple [same before, same separator, same after]
    | none => return .tuple [same [], same [], same text]
  | "removeprefix" =>
    withoutPart receiver given name fun part => (Text.dropOpening? part text).getD text
  | "removesuffix" => withoutPart receiver given name (withoutEnd text)
  | "encode" => encoded text given
  | "translate" => return same (← translate (← Arity.one "str" name given) text)
  | "format" => return same (← Braces.format (← formatterFor receiver) text given)
  | "format_map" => formatMap receiver text given
  | "unescape" => return .text (Markup.unescape text)
  | "striptags" => return .text (Markup.stripTags text)
  | "escape" => return .markup (← escaped (← Arity.one "Markup" name given))
  | "__html__" => return receiver
  | "__len__" => return .int text.length
  | _ => fail ⟨.unsupported, "method " ++ name ++ " is not supported"⟩

/-- Calls a method of a text. -/
def call (method : String) : Run Value := do
  match changes.lookup method, tests.lookup method with
  | some change, _ =>
    Arity.none "str" (Text.ofString method) given
    return receiver.like (change text)
  | none, some test =>
    Arity.none "str" (Text.ofString method) given
    return .bool (test text)
  | none, none => callWith receiver text given method

end

end PageTemplates.TextMethods
