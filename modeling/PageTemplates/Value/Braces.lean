import PageTemplates.Value.Item
import PageTemplates.Value.Convert

/-!
Texts with fields in braces: `\x7bname!conversion:specification\x7d`, where a name goes on with
members and items, and a specification may hold fields itself. Fields without a name are numbered.
A formatter decides how a first name is looked up, how a member is reached, and whether what is
filled in is escaped.
-/

namespace PageTemplates.Braces

open Run
open Number (Spec)

/-- How fields are filled. `guarded` goes through the guard to members; `markup` escapes. -/
structure Formatter where
  guarded : Bool
  markup : Bool

/-- A piece of a pattern: text, or a field with its name, conversion and specification. -/
inductive Part where
  | text (content : Text)
  | field (name : Text) (conversion : Option CodePoint) (specification : Text)

/-- The opening brace. -/
def opening : CodePoint := .scalar '\x7b'

/-- The closing brace. -/
def closing : CodePoint := .scalar '\x7d'

/-- Splits a field from what follows it: everything up to the brace that closes it. -/
def takeField : (depth : Nat) → Text → (done : Text) → Option (Text × Text)
  | _, [], _ => none
  | depth, point :: rest, done =>
    if point = opening then takeField (depth + 1) rest (point :: done)
    else if point = closing then
      match depth with
      | 0 => some (done.reverse, rest)
      | depth + 1 => takeField depth rest (point :: done)
    else takeField depth rest (point :: done)

/-- The name of a field up to its conversion or specification; brackets hide both. -/
def takeName : (bracketed : Bool) → Text → (done : Text) → Text × Text
  | _, [], done => (done.reverse, [])
  | bracketed, point :: rest, done =>
    if bracketed then takeName (point != .scalar ']') rest (point :: done)
    else if point = .scalar '[' then takeName true rest (point :: done)
    else if point = .scalar '!' || point = .scalar ':' then (done.reverse, point :: rest)
    else takeName false rest (point :: done)

/-- A failure of a pattern. -/
def malformed {Result : Type} (message : Text) : Except Failure Result :=
  .error (.wrongValue message)

/-- Reads the inside of a field. -/
def readField (content : Text) : Except Failure Part :=
  let (name, rest) := takeName false content []
  if name.contains opening then malformed "unexpected '\x7b' in field name"
  else
    match rest with
    | [] =>
      let depth := name.count (.scalar '[')
      if depth > name.count (.scalar ']') then malformed "expected '\x7d' before end of string"
      else .ok (.field name none [])
    | mark :: after =>
      if mark = .scalar ':' then .ok (.field name none after)
      else
        match after with
        | [] => malformed "unmatched '\x7b' in format spec"
        | conversion :: [] => .ok (.field name (some conversion) [])
        | conversion :: next :: specification =>
          if next = .scalar ':' then .ok (.field name (some conversion) specification)
          else malformed "expected ':' after conversion specifier"

/-- Reads the parts of a pattern; the first argument bounds the steps. -/
def readParts : (bound : Nat) → Text → (literal : Text) → Except Failure (List Part)
  | 0, _, literal => .ok [.text literal.reverse]
  | _ + 1, [], literal => .ok [.text literal.reverse]
  | bound + 1, point :: rest, literal =>
    if point = opening then
      match rest with
      | [] => malformed "Single '\x7b' encountered in format string"
      | next :: after =>
        if next = opening then readParts bound after (opening :: literal)
        else
          match takeField 0 rest [] with
          | none =>
            let (_, mark) := takeName false rest []
            if mark.isEmpty then malformed "expected '\x7d' before end of string"
            else malformed "unmatched '\x7b' in format spec"
          | some (content, after) => do
            let part ← readField content
            let parts ← readParts bound after []
            return .text literal.reverse :: part :: parts
    else if point = closing then
      match rest with
      | next :: after =>
        if next = closing then readParts bound after (closing :: literal)
        else malformed "Single '\x7d' encountered in format string"
      | [] => malformed "Single '\x7d' encountered in format string"
    else readParts bound rest (point :: literal)

/-- A step from a value to what a field means. -/
inductive Step where
  | member (name : Text)
  | item (key : Value)

/-- Decimal digits as a number, if a text is nothing else. -/
def number? (text : Text) : Option Nat :=
  if !text.isEmpty && text.all Markup.isAsciiDigit then some (Markup.readDigits 10 text) else none

/-- The steps after the first name; the first argument bounds their number. -/
def readSteps : (bound : Nat) → Text → Except Failure (List Step)
  | 0, _ => .ok []
  | _ + 1, [] => .ok []
  | bound + 1, point :: rest =>
    if point = .scalar '.' then do
      let isEnd (point : CodePoint) : Bool := point = .scalar '.' || point = .scalar '['
      let name := rest.takeWhile fun point => !isEnd point
      if name.isEmpty then malformed "Empty attribute in format string"
      else return .member name :: (← readSteps bound (rest.drop name.length))
    else if point = .scalar '[' then do
      let key := rest.takeWhile (· != .scalar ']')
      if key.length == rest.length then malformed "Missing ']' in format string"
      else if key.isEmpty then malformed "Empty attribute in format string"
      else
        let step : Step := match number? key with
          | some place => .item (.int place)
          | none => .item (.text key)
        return step :: (← readSteps bound (rest.drop (key.length + 1)))
    else malformed "Only '.' or '[' may follow ']' in format field specifier"

/-- How fields without a name are numbered: not decided, the next number, or not at all. -/
inductive Numbering where
  | undecided
  | automatic (next : Nat)
  | manual

/-- The value of a first name. -/
def firstValue (formatter : Formatter) (given : Given) (name : Text) : Run Value := do
  match number? name with
  | some place =>
    match given.positional[place]? with
    | some value => return value
    | none =>
      if formatter.guarded || formatter.markup then fail (.missingIndex "tuple index out of range")
      else
        fail (.missingIndex ("Replacement index " ++ Text.ofNat place ++
          " out of range for positional args tuple"))
  | none =>
    match given.named.lookup name with
    | some value => return value
    | none => fail (.missingKey (Text.quoted name))

/-- Takes a step. -/
def takeStep (formatter : Formatter) (value : Value) (step : Step) : Run Value := do
  match step with
  | .member name =>
    if formatter.guarded then memberOrItem value name
    else
      match ← member? value name with
      | some found => return found
      | none => fail (.missingAttribute (← className value) name)
  | .item key => if formatter.guarded then itemOrMember value key else item value key

/-- A specification for a class of values; for numbers the precision is a number of digits. -/
def specFor (className : Text) (numeric : Bool) (specification : Text) : Run Number.Spec := do
  let spec ← settled (Number.Spec.read className specification)
  requireRoom spec.width
  match numeric, spec.precision with
  | true, some precision =>
    if Nat.pow 2 31 ≤ precision then fail (.wrongValue "precision too big")
    requireRoom precision
  | _, _ => pure ()
  return spec

/-- A value under a specification. -/
def formatValue (value : Value) (specification : Text) : Run Text := do
  let name ← className value
  match value with
  | .text text => settled ((← specFor name false specification).text text)
  | .markup text => settled ((← specFor name false specification).text text)
  | .int number =>
    if specification.isEmpty then plain value
    else settled ((← specFor name true specification).int name number)
  | .bool flag =>
    if specification.isEmpty then plain value
    else
      let number : Int := if flag then 1 else 0
      settled ((← specFor name true specification).int name number)
  | .float number =>
    if specification.isEmpty then plain value
    else settled ((← specFor name true specification).float number)
  | .date date =>
    if specification.isEmpty then plain value
    else return Calendar.formatted (Calendar.midnight date) specification
  | .datetime time =>
    if specification.isEmpty then plain value else return Calendar.formatted time specification
  | _ =>
    if specification.isEmpty then plain value
    else
      fail (.wrongType ("unsupported format string passed to " ++ name ++ ".__format__"))

/-- A converted value under a specification, as the formatter fills it in. -/
def fillField (formatter : Formatter) (value : Value) (specification : Text) : Run Text := do
  if formatter.markup then
    match value with
    | .markup content =>
      if specification.isEmpty then return content
      else
        fail (.wrongValue ("Format specifier " ++ specification ++ " given, but <class " ++
          "'markupsafe.Markup'> does not define __html_format__. A class that defines __html__ " ++
          "must define __html_format__ to work with format specifiers."))
    | _ => return Markup.escape (← formatValue value specification)
  else formatValue value specification

/-- Applies a conversion. -/
def convert (value : Value) (conversion : Option CodePoint) : Run Value := do
  match conversion with
  | none => return value
  | some (.scalar 's') => return .text (← plain value)
  | some (.scalar 'r') => return .text (← quoted value)
  | some (.scalar 'a') => return .text (Percent.asciiOnly (← quoted value))
  | some other => fail (.wrongValue ("Unknown conversion specifier " ++ [other]))

/-- The failure of mixing numbered fields with fields that are not. -/
def mixed (formatter : Formatter) (toAutomatic : Bool) : Failure :=
  .wrongValue (if toAutomatic || formatter.guarded || formatter.markup then
    "cannot switch from manual field specification to automatic field numbering"
  else "cannot switch from automatic field numbering to manual field specification")

/-- Fills a pattern; the first argument is how deep fields may stand inside specifications. -/
def fillPattern (formatter : Formatter) (given : Given) :
    (depth : Nat) → Text → Numbering → Run (Text × Numbering)
  | 0, _, _ => fail (.wrongValue "Max string recursion exceeded")
  | depth + 1, pattern, numbering => do
    let parts ← settled (readParts (pattern.length + 1) pattern [])
    parts.foldlM (fun (done, numbering) part => do
      match part with
      | .text content => return (done ++ content, numbering)
      | .field name conversion specification =>
        let isEnd (point : CodePoint) : Bool := point = .scalar '.' || point = .scalar '['
        let first := name.takeWhile fun point => !isEnd point
        let rest := name.drop first.length
        let automatic := if formatter.guarded || formatter.markup then name.isEmpty else first.isEmpty
        let (first, numbering) ←
          if automatic then
            match numbering with
            | .manual => fail (mixed formatter true)
            | .undecided => pure (Text.ofNat 0, Numbering.automatic 1)
            | .automatic next => pure (Text.ofNat next, Numbering.automatic (next + 1))
          else if (number? first).isSome then
            match numbering with
            | .automatic _ => fail (mixed formatter false)
            | _ => pure (first, Numbering.manual)
          else pure (first, numbering)
        let start ← firstValue formatter given first
        let steps ← settled (readSteps (rest.length + 1) rest)
        let value ← steps.foldlM (takeStep formatter) start
        let value ← convert value conversion
        let (specification, numbering) ←
          if specification.contains opening then
            fillPattern formatter given depth specification numbering
          else pure (specification, numbering)
        return (done ++ (← fillField formatter value specification), numbering))
      ([], numbering)

/-- Fills a pattern with the arguments of a call. -/
def format (formatter : Formatter) (pattern : Text) (given : Given) : Run Text := do
  return (← fillPattern formatter given 2 pattern .undecided).1

end PageTemplates.Braces
