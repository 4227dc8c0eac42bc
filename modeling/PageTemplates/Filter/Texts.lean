import PageTemplates.Rule
import PageTemplates.Text.Wrap
import PageTemplates.Value.Method

/-!
Filters on texts: case, fields, replacement, cutting and wrapping. What comes in as markup goes out
as markup where the filter keeps the text as a whole.
-/

namespace PageTemplates.TextFilters

open Run Rule

/-- Calls a method of the soft text of a value. -/
def method (name : String) (value : Value) (arguments : List Value) : Run Value := do
  Method.callOf (← soft value) name (.ofList arguments)

/-- The parameter of a filter on a text. -/
def subject : Parameter := .required "s"

/-- A filter that calls a method without arguments. -/
def methodRule (title name : String) : Rule :=
  plain title .nothing [subject] fun bound => method name (bound.get "s") []

/-- Whether a new word starts after a character. -/
def startsWord (point : CodePoint) : Bool :=
  Text.blank point || point.satisfies fun character =>
    ['-', '(', '\x7b', '[', '<'].contains character

/-- Runs of characters that pass a test and runs of those that do not, in turn. The first argument
bounds their number. -/
def runs (test : CodePoint → Bool) : (bound : Nat) → Text → List Text
  | 0, _ => []
  | _ + 1, [] => []
  | bound + 1, point :: rest =>
    let run := point :: rest.takeWhile fun other => test other == test point
    run :: runs test bound ((point :: rest).drop run.length)

/-- Every word with a large first letter and small other ones. -/
def titled (text : Text) : Text :=
  (runs startsWord text.length text).flatMap fun run =>
    match run with
    | [] => []
    | first :: rest => Text.upperPoint first ++ Text.lower rest

/-- What a replacement under escaping works on: markup where what it replaces is, or puts in. -/
def replaced (value old new : Value) : Run Value := do
  if old.isMarkup || (new.isMarkup && !value.isMarkup) then return .markup (← escaped value)
  else soft value

/-- Replaces text in a value; under escaping the result is markup where a part of it is. -/
def replace (context : Option Ref) (bound : Bound) : Run Value := do
  let value := bound.get "s"
  let old := bound.get "old"
  let new := bound.get "new"
  let count := orDefault (bound.get "count") (.int (-1))
  if ← escapes context then
    let target ← replaced value old new
    Method.callOf target "replace" (.ofList [← soft old, ← soft new, count])
  else
    let target := Value.text (← Run.plain value)
    Method.callOf target "replace"
      (.ofList [.text (← Run.plain old), .text (← Run.plain new), count])

/-- Adds a line break to the items of a list, and says whether it was one. -/
def addBreak (address : Ref) : Run Bool := do
  match (← world).items? address with
  | some items =>
    put address (.list (items.push (.text "\n")))
    return true
  | none => return false

/-- Fails where a line break cannot be added to what is no text; a list has taken it in by then. -/
def failToBreak (value : Value) : Run Value := do
  failIfUndefined value
  match value with
  | .ref address =>
    if ← addBreak address then fail (.missingAttribute "list" "splitlines")
    else fail (.unsupportedOperands "+=" (← className value) "str")
  | .bytes _ => fail (.wrongType "can't concat str to bytes")
  | _ =>
    match value.fixedItems? with
    | some _ => fail (.wrongType "can only concatenate tuple (not \"str\") to tuple")
    | none => fail (.unsupportedOperands "+=" (← className value) "str")

/-- A text in which lines are moved in by an indentation: all but the first unless asked, and blank
ones only if asked. -/
def indented (bound : Bound) : Run Value := do
  let value := bound.get "s"
  let width := bound.get "width"
  let first ← flag bound "first"
  let blank ← flag bound "blank"
  let unit ← match width.text? with
    | some unit => pure unit
    | none =>
      match ← binary .mul (.text " ") width with
      | .text unit => pure unit
      | _ => pure []
  match value.text? with
  | none => failToBreak value
  | some text =>
    let lines := Text.lines (text ++ "\n")
    let result :=
      if blank then Text.join ("\n" ++ unit) lines
      else
        match lines with
        | [] => []
        | line :: rest =>
          Text.join "\n" (line :: rest.map fun other =>
            if other.isEmpty then other else unit ++ other)
    return value.like (if first then unit ++ result else result)

/-- A text cut to a length, with an ending in place of what is cut. -/
def truncated (bound : Bound) : Run Value := do
  let value := bound.get "s"
  let lengthValue := bound.get "length"
  let ending := bound.get "end"
  let leeway := orDefault (bound.get "leeway") (.int 5)
  let endingLength ← lengthOf ending
  if !(← compared .greaterEqual lengthValue (.int endingLength)) then
    fail ⟨.assertion, "expected length >= " ++ Text.ofNat endingLength ++ ", got " ++
      (← Run.plain lengthValue)⟩
  if !(← compared .greaterEqual leeway (.int 0)) then
    fail ⟨.assertion, "expected leeway >= 0, got " ++ (← Run.plain leeway)⟩
  let most ← binary .add lengthValue leeway
  if ← compared .lessEqual (.int (← lengthOf value)) most then return value
  let stop ← binary .sub lengthValue (.int endingLength)
  let start ← sliced value .none stop .none
  if ← flag bound "killwords" then binary .add start ending
  else
    match start.text? with
    | some text =>
      let words := Text.splitOnLast " " 1 text
      binary .add (start.like (words.head?.getD [])) ending
    | none => fail (.missingAttribute (← className start) "rsplit")

/-- A line wrapped into lines of a width, with a separator between them. -/
def wrapLine (width separator : Value) (breaksWords hyphens : Bool) (line : Text) : Run Text := do
  if ← compared .lessEqual width (.int 0) then
    fail (.wrongValue ("invalid width " ++ (← quoted width) ++ " (must be > 0)"))
  let size := match width with
    | .float number => ((Number.truncate? number).getD 0).toNat
    | other => (other.int?.getD 0).toNat
  let pieces := Text.Wrap.wrap ⟨size, breaksWords, hyphens⟩ line
  if width.int?.isNone && breaksWords && (Text.words line).any (size < ·.length) then
    fail (.wrongType "slice indices must be integers or None or have an __index__ method")
  let pieces := if separator.isMarkup then pieces.map Markup.escape else pieces
  return Text.join (separator.text?.getD []) pieces

/-- A text wrapped into lines of a width; lines that are there are wrapped each on its own. -/
def wrapped (bound : Bound) : Run Value := do
  let value := bound.get "s"
  let separator := orDefault (bound.get "wrapstring") (.text "\n")
  if separator.text?.isNone then
    failIfUndefined separator
    fail (.missingAttribute (← className separator) "join")
  match value.text? with
  | none =>
    failIfUndefined value
    fail (.missingAttribute (← className value) "splitlines")
  | some text =>
    let hyphens := match bound.get "break_on_hyphens" with
      | .bool flag => flag
      | _ => false
    let breaksWords ← flag bound "break_long_words"
    let lines ← (Text.lines text).mapM
      (wrapLine (bound.get "width") separator breaksWords hyphens)
    return separator.like (Text.join (separator.text?.getD []) lines)

/-- Fills the places of a pattern with arguments, all by place or all by name. -/
def formatted (bound : Bound) : Run Value := do
  let pattern ← soft (bound.get "value")
  if !bound.rest.isEmpty && !bound.named.isEmpty then
    fail (badArgument "can't handle positional and keyword arguments at the same time")
  let operand ←
    if bound.named.isEmpty then pure (Value.tuple bound.rest)
    else newDict (bound.named.map fun (name, value) => (.text name, value))
  binary .mod pattern operand

/-- The number of runs of word characters. -/
def wordCount : (inside : Bool) → Text → Nat
  | _, [] => 0
  | inside, point :: rest =>
    let isPart := Text.isWord point.value
    (if isPart && !inside then 1 else 0) + wordCount isPart rest

/-- The items of a value as one text. Under escaping the result is markup if the separator or an item
is, and what is not markup is escaped then. -/
def joinedWith (context : Option Ref) (bound : Bound) : Run Value := do
  let separator := bound.get "d"
  let path := bound.get "attribute"
  let source := bound.get "value"
  let items ← itemsOf source
  let items ← match path with
    | .none => pure items
    | path => items.mapM (follow (pathOf path) none)
  if ← escapes context then
    if separator.isMarkup then
      let parts ← items.mapM fun item => do escaped (← soft item)
      return .markup (Text.join ((separator.text?).getD []) parts)
    else
      let parts ← items.mapM fun item => do
        if ← hasMarkup item then return (true, ← escaped item)
        else return (false, ← Run.plain item)
      if parts.any Prod.fst then
        let between ← escaped separator
        return .markup (Text.join between (parts.map fun (safe, part) =>
          if safe then part else Markup.escape part))
      else return .text (Text.join (← Run.plain separator) (parts.map Prod.snd))
  else
    let between ← Run.plain separator
    return .text (Text.join between (← items.mapM Run.plain))

/-- The filters on texts by name. -/
def rules : List (String × Rule) :=
  [ ("upper", methodRule "do_upper" "upper"),
    ("lower", methodRule "do_lower" "lower"),
    ("capitalize", methodRule "do_capitalize" "capitalize"),
    ("title", plain "do_title" .nothing [subject] fun bound => do
      let text := ((← soft (bound.get "s")).text?).getD []
      return .text (titled text)),
    ("center", plain "do_center" .nothing [.required "value", .optional "width" (.int 80)]
      fun bound => method "center" (bound.get "value") [bound.get "width"]),
    ("trim", plain "do_trim" .nothing [.required "value", .optional "chars" .none]
      fun bound => method "strip" (bound.get "value") [bound.get "chars"]),
    ("replace", signed "do_replace" .escaping
      [subject, .required "old", .required "new", .optional "count" .none] replace),
    ("indent", plain "do_indent" .nothing
      [subject, .optional "width" (.int 4), .optional "first" (.bool false),
        .optional "blank" (.bool false)] indented),
    ("truncate", plain "do_truncate" .environment
      [subject, .optional "length" (.int 255), .optional "killwords" (.bool false),
        .optional "end" (.text "..."), .optional "leeway" .none] truncated),
    ("wordwrap", plain "do_wordwrap" .environment
      [subject, .optional "width" (.int 79), .optional "break_long_words" (.bool true),
        .optional "wrapstring" .none, .optional "break_on_hyphens" (.bool true)] wrapped),
    ("format", plain "do_format" .nothing
      [.required "value", ⟨"args", .rest, none⟩, ⟨"kwargs", .restNamed, none⟩] formatted),
    ("wordcount", plain "do_wordcount" .nothing [subject] fun bound => do
      return .int (wordCount false (((← soft (bound.get "s")).text?).getD []))),
    ("string", plain "soft_str" .nothing [subject] fun bound => soft (bound.get "s")),
    ("join", signed "sync_do_join" .escaping
      [.required "value", .optional "d" (.text []), .optional "attribute" .none] joinedWith) ]

end PageTemplates.TextFilters
