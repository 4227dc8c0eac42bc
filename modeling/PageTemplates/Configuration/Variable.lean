import PageTemplates.Configuration
import PageTemplates.Json.Read
import PageTemplates.Text.Case
import PageTemplates.Text.Search

/-!
Variables as settings. A variable whose name has the leading text of the program stands for the setting
at the path that the rest of the name spells, in small letters and with double underscores between the
parts. Its text is read as a truth value or a JSON document, and stands for itself otherwise.
-/

namespace PageTemplates

/-- A variable of the process, or of a file of variables. -/
structure Variable where
  name : Text
  text : Text

namespace Variable

/-- What stands between the parts of a path. -/
def separator : Text := "__"

/-- The path that a name spells, if it has the leading text. -/
def path? (leading name : Text) : Option (List Text) :=
  (Text.dropOpening? leading name).map fun rest => Text.splitAll separator (Text.lower rest)

/-- The words for true. -/
def trueWords : List Text := ["true", "yes", "on"]

/-- The words for false. -/
def falseWords : List Text := ["false", "no", "off"]

/-- Whether a text can be a JSON document: it starts with an opening brace or bracket. -/
def isDocument (text : Text) : Bool :=
  text.head? == some (.scalar '\x7b') || text.head? == some (.scalar '[')

/-- The data that a text stands for. A document that breaks the grammar is no document; one that cannot be
held is a failure. -/
def dataOf (text : Text) : Except Failure Data :=
  let word := Text.lower text
  if List.contains trueWords word then .ok (.bool true)
  else if List.contains falseWords word then .ok (.bool false)
  else if isDocument text then
    match Json.read text with
    | .ok document => .ok (.ofJson document)
    | .error fault =>
      match fault.failure? with
      | some failure => .error failure
      | none => .ok (.text text)
  else .ok (.text text)

/-- A configuration with the setting of a variable; a variable without the leading text is none. -/
def apply (leading : Text) (configuration : Configuration) (given : Variable) :
    Except Failure Configuration :=
  match path? leading given.name with
  | some path => (dataOf given.text).map (configuration.assigned path)
  | none => .ok configuration

end Variable

/-- A configuration with the settings of variables, one after the other. -/
def Configuration.withVariables (leading : Text) (configuration : Configuration)
    (given : List Variable) : Except Failure Configuration :=
  given.foldlM (Variable.apply leading) configuration

end PageTemplates

/-!
Files of variables. A line binds a name to a text, which may stand in quotes and then may go over
several lines; a name may stand alone, and a number sign starts a comment. A line that is nothing of
this is passed over. A text can refer to variables that are bound before it, or to those of the process.
-/

namespace PageTemplates.VariableFile

/-- A name and its text, if it is given one. -/
structure Binding where
  name : Text
  text : Option Text

/-- Characters that end a line. -/
def isLineEnd (point : CodePoint) : Bool := point = .scalar '\n' || point = .scalar '\r'

/-- Blanks within a line. -/
def isInnerBlank (point : CodePoint) : Bool := Text.blank point && !isLineEnd point

/-- What is left behind blanks within a line. -/
def skipBlanks (text : Text) : Text := text.dropWhile isInnerBlank

/-- What is left behind the end of a line, if the text is at one. -/
def lineEnd? : Text → Option Text
  | [] => some []
  | .scalar '\r' :: .scalar '\n' :: rest => some rest
  | .scalar '\n' :: rest => some rest
  | .scalar '\r' :: rest => some rest
  | _ => none

/-- What is left behind the line. -/
def skipLine (text : Text) : Text :=
  match text.dropWhile fun point => !isLineEnd point with
  | [] => []
  | _ :: rest => rest

/-- What is left behind the word that may come before a name. -/
def skipExport (text : Text) : Text :=
  match Text.dropOpening? "export" text with
  | some (point :: rest) => if isInnerBlank point then skipBlanks rest else text
  | _ => text

/-- Reads a name and what is left; no name if there is a comment. -/
def readName (text : Text) : Option (Option Text × Text) :=
  match text with
  | .scalar '#' :: _ => some (none, text)
  | .scalar '\'' :: rest =>
    let name := rest.takeWhile fun point => point != .scalar '\''
    match name, rest.drop name.length with
    | [], _ => none
    | _, [] => none
    | name, _ :: after => some (some name, after)
  | _ =>
    let name := text.takeWhile fun point =>
      point != .scalar '=' && point != .scalar '#' && !Text.blank point
    if name.isEmpty then none else some (some name, text.drop name.length)

/-- The first quote that no backslash precedes: what stands before it and behind it. -/
def closing? (quote : CodePoint) (before : Text) : Text → Option (Text × Text)
  | [] => none
  | point :: rest =>
    if point = quote && before.head? != some (.scalar '\\') then some (before.reverse, rest)
    else closing? quote (point :: before) rest

/-- The content of quotes and what is left. If every quote has a backslash before it, the last one
closes. -/
def quoted? (quote : CodePoint) (text : Text) : Option (Text × Text) :=
  match closing? quote [] text with
  | some found => some found
  | none => Text.splitLast? [quote] text

/-- The escapes of single quotes. -/
def singleEscape? : CodePoint → Option CodePoint
  | .scalar '\\' => some '\\'
  | .scalar '\'' => some '\''
  | _ => none

/-- The escapes of double quotes. -/
def doubleEscape? : CodePoint → Option CodePoint
  | .scalar '\\' => some '\\'
  | .scalar '\'' => some '\''
  | .scalar '"' => some '"'
  | .scalar 'a' => some '\x07'
  | .scalar 'b' => some '\x08'
  | .scalar 'f' => some '\x0c'
  | .scalar 'n' => some '\n'
  | .scalar 'r' => some '\r'
  | .scalar 't' => some '\t'
  | .scalar 'v' => some '\x0b'
  | _ => none

/-- A text with its escapes replaced; a backslash before anything else stands for itself. -/
def unescaped (escape? : CodePoint → Option CodePoint) : Text → Text
  | .scalar '\\' :: point :: rest =>
    match escape? point with
    | some meant => meant :: unescaped escape? rest
    | none => .scalar '\\' :: unescaped escape? (point :: rest)
  | point :: rest => point :: unescaped escape? rest
  | [] => []

/-- What precedes the first number sign that has blanks before it, these blanks left out. -/
def beforeComment (blanks : Text) : Text → Text
  | [] => blanks.reverse
  | point :: rest =>
    if point = .scalar '#' && !blanks.isEmpty then []
    else if Text.blank point then beforeComment (point :: blanks) rest
    else blanks.reverse ++ point :: beforeComment [] rest

/-- Reads the text of a binding and gives what is left. -/
def readText? (text : Text) : Option (Text × Text) :=
  match text with
  | .scalar '\'' :: rest =>
    (quoted? '\'' rest).map fun (content, after) => (unescaped singleEscape? content, after)
  | .scalar '"' :: rest =>
    (quoted? '"' rest).map fun (content, after) => (unescaped doubleEscape? content, after)
  | _ =>
    let line := text.takeWhile fun point => !isLineEnd point
    some (Text.trimEnd (beforeComment [] line), text.drop line.length)

/-- What is left behind a comment. -/
def skipComment (text : Text) : Text :=
  match skipBlanks text with
  | .scalar '#' :: rest => rest.dropWhile fun point => !isLineEnd point
  | _ => text

/-- What is left behind the end of a binding, if nothing else is on its line. -/
def bindingEnd? (text : Text) : Option Text := lineEnd? (skipBlanks (skipComment text))

/-- Reads what stands behind the name of a binding: its text, if it has one, and what is left. A fault
tells where it was found. -/
def readRest (text : Text) : Except Text (Option Text × Text) :=
  let here := skipBlanks text
  match here with
  | .scalar '=' :: rest =>
    let start := skipBlanks rest
    match readText? start with
    | none => .error start
    | some (content, after) =>
      match bindingEnd? after with
      | some left => .ok (some content, left)
      | none => .error after
  | _ =>
    match bindingEnd? here with
    | some left => .ok (none, left)
    | none => .error here

/-- The bindings of a text. The first argument bounds how many lines there are. -/
def bindings : (bound : Nat) → Text → List Binding
  | 0, _ => []
  | bound + 1, text =>
    match text.dropWhile Text.blank with
    | [] => []
    | start =>
      let start := skipExport start
      match readName start with
      | none => bindings bound (skipLine start)
      | some (name, after) =>
        match readRest after with
        | .error place => bindings bound (skipLine place)
        | .ok (content, left) =>
          match name with
          | some name => ⟨name, content⟩ :: bindings bound left
          | none => bindings bound left

/-- Gives a name a text, in its old place if it has one. -/
def bind (name : Text) (text : Option Text) : List (Text × Option Text) → List (Text × Option Text)
  | [] => [(name, text)]
  | (other, old) :: rest =>
    if other = name then (name, text) :: rest else (other, old) :: bind name text rest

/-- What a name in braces stands for: its text, or else what follows a colon and a hyphen. -/
def valueOf (bound : List (Text × Option Text)) (outer : List Variable) (name : Text)
    (default : Option Text) : Text :=
  match bound.lookup name with
  | some text => text.getD []
  | none =>
    match outer.reverse.find? fun known => known.name = name with
    | some known => known.text
    | none => default.getD []

/-- A reference after its opening: the name, the text that stands in for it, and what is left. -/
def reference? (text : Text) : Option (Text × Option Text × Text) :=
  let name := text.takeWhile fun point => point != .scalar '\x7d' && point != .scalar ':'
  match text.drop name.length with
  | .scalar '\x7d' :: rest => some (name, none, rest)
  | .scalar ':' :: .scalar '-' :: rest =>
    let default := rest.takeWhile fun point => point != .scalar '\x7d'
    match rest.drop default.length with
    | _ :: after => some (name, some default, after)
    | [] => none
  | _ => none

/-- A text with its references replaced. The first argument bounds the length. -/
def resolved (value : Text → Option Text → Text) : (bound : Nat) → Text → Text
  | 0, text => text
  | bound + 1, text =>
    match text with
    | .scalar '$' :: .scalar '\x7b' :: rest =>
      match reference? rest with
      | some (name, default, after) => value name default ++ resolved value bound after
      | none => .scalar '$' :: resolved value bound (.scalar '\x7b' :: rest)
    | point :: rest => point :: resolved value bound rest
    | [] => []

/-- The text of each name, references replaced. -/
def collect (outer : List Variable) (found : List Binding) : List (Text × Option Text) :=
  found.foldl (fun bound binding =>
    let text := binding.text.map fun text => resolved (valueOf bound outer) text.length text
    bind binding.name text bound) []

/-- The variables of a file. A byte order mark at the start is passed over. -/
def read (outer : List Variable) (text : Text) : List Variable :=
  let text := match text with
    | .scalar '\uFEFF' :: rest => rest
    | other => other
  (collect outer (bindings (text.length + 1) text)).filterMap fun (name, text) =>
    text.map fun text => ⟨name, text⟩

end PageTemplates.VariableFile
