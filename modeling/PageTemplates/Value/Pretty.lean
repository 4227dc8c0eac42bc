import PageTemplates.Value.ContainerMethods

/-!
The quoted form of a value over several lines. What fits into the width stands on one line; else a
container has a line for each entry, and a text is cut at its blanks. Entries of dictionaries are in
the order of their keys.
-/

namespace PageTemplates.Pretty

open Run

/-- The most characters of a line. -/
def lineWidth : Int := 80

/-- Whether a key stands before another; keys of different kinds are in the order of these. -/
def keyBefore (first second : Value) : Run Bool := do
  let world ← world
  match Value.ordered? world .less first second with
  | .ok answer => return answer
  | .error _ =>
    return Text.precedes (Value.fullClassName world first) (Value.fullClassName world second)

/-- Inserts an entry in the order of keys. -/
def insertEntry (entry : Value × Value) : List (Value × Value) → Run (List (Value × Value))
  | [] => return [entry]
  | other :: rest => do
    if ← keyBefore entry.1 other.1 then return entry :: other :: rest
    else return other :: (← insertEntry entry rest)

/-- Entries in the order of their keys. -/
def inOrder (entries : List (Value × Value)) : Run (List (Value × Value)) :=
  entries.foldlM (fun sorted entry => insertEntry entry sorted) []

/-- The quoted form on one line. -/
def onLine : (depth : Nat) → Value → Run Text
  | 0, value => quoted value
  | depth + 1, value => do
    match value with
    | .tuple items => return Data.enclosedTuple (← items.mapM (onLine depth))
    | .ref address =>
      match ← cell address with
      | some (.list items) =>
        return Data.enclosed "[" (← items.toList.mapM (onLine depth)) "]"
      | some (.dict entries) =>
        let parts ← (← inOrder entries.toList).mapM fun (key, item) => do
          let key ← onLine depth key
          return key ++ ": " ++ (← onLine depth item)
        return Data.enclosed "\x7b" parts "\x7d"
      | _ => quoted value
    | _ => quoted value

/-- A new line with an indentation. -/
def newLine (indent : Int) : Text := .scalar '\n' :: Text.repeated indent.toNat " "

/-- The parts of a line: characters that are not blank with the blanks after them. -/
def partsOf : (bound : Nat) → Text → List Text
  | 0, _ => []
  | _ + 1, [] => []
  | bound + 1, text =>
    let word := text.takeWhile (!Text.blank ·)
    let gap := (text.drop word.length).takeWhile Text.blank
    (word ++ gap) :: partsOf bound (text.drop (word.length + gap.length))

/-- Joins parts to pieces whose quoted form fits; `last` is the width for the last part. -/
def packParts (width last : Int) : (current : Text) → List Text → List Text
  | current, [] => if current.isEmpty then [] else [Text.quoted current]
  | current, part :: rest =>
    let candidate := current ++ part
    let room := if rest.isEmpty then last else width
    if room < (Text.quoted candidate).length then
      (if current.isEmpty then [] else [Text.quoted current]) ++ packParts width last part rest
    else packParts width last candidate rest

/-- The quoted pieces of the lines of a text. -/
def chunksOf (width allowance : Int) : List Text → List Text
  | [] => []
  | line :: rest =>
    let room := if rest.isEmpty then width - allowance else width
    let whole := Text.quoted line
    let pieces :=
      if whole.length ≤ room then [whole]
      else packParts width room [] (partsOf line.length line)
    pieces ++ chunksOf width allowance rest

/-- Joins groups of four bytes to pieces whose quoted form fits; `last` is the width for the group that
does not have four. The first argument bounds the groups. -/
def packBytes (width last : Int) : (bound : Nat) → (current : Bytes) → Bytes → List Text
  | 0, current, _ => pieceOf current
  | bound + 1, current, rest =>
    match rest with
    | [] => pieceOf current
    | _ =>
      let candidate := current ++ rest.take 4
      let width := if rest.length < 4 then last else width
      if width < (Text.quotedBytes candidate).length then
        pieceOf current ++ packBytes width last bound (rest.take 4) (rest.drop 4)
      else packBytes width last bound candidate (rest.drop 4)
where
  /-- The quoted form, if there is anything. -/
  pieceOf (current : Bytes) : List Text :=
    if current.isEmpty then [] else [Text.quotedBytes current]

/-- Bytes over several lines. -/
def bytesOverLines (bytes : Bytes) (indent allowance : Int) (outermost : Bool) : Text :=
  if bytes.length ≤ 4 then Text.quotedBytes bytes
  else
    let indent := if outermost then indent + 1 else indent
    let allowance := if outermost then allowance + 1 else allowance
    let width := lineWidth - indent
    let pieces := packBytes width (width - allowance) (bytes.length + 1) [] bytes
    let content := Text.join (newLine indent) pieces
    if outermost then "(" ++ content ++ ")" else content

/-- A text over several lines. -/
def overLines (text : Text) (indent allowance : Int) (outermost : Bool) : Text :=
  let indent := if outermost then indent + 1 else indent
  let allowance := if outermost then allowance + 1 else allowance
  match chunksOf (lineWidth - indent) allowance (Text.linesKeepingBreaks text) with
  | [] => Text.quoted text
  | [chunk] => chunk
  | chunks =>
    let content := Text.join (newLine indent) chunks
    if outermost then "(" ++ content ++ ")" else content

/-- The items of a container on lines of their own. -/
def itemLines (form : Int → Int → Value → Run Text) (indent allowance : Int) :
    List Value → Run (List Text)
  | [] => return []
  | [item] => return [← form indent allowance item]
  | item :: rest => do
    let shown ← form indent 1 item
    return shown :: (← itemLines form indent allowance rest)

/-- The entries of a container on lines of their own; the first function shows a key. -/
def entryLines (key : Value → Run Text) (form : Int → Int → Value → Run Text)
    (indent allowance : Int) : List (Value × Value) → Run (List Text)
  | [] => return []
  | (name, item) :: rest => do
    let name ← key name
    let shown ← form (indent + name.length) (if rest.isEmpty then allowance else 1) item
    return (name ++ shown) :: (← entryLines key form indent allowance rest)

/-- The form of a value from a column on, with room kept for what follows it. -/
def shownAt : (depth : Nat) → (indent allowance : Int) → (outermost : Bool) → Value → Run Text
  | 0, _, _, _, value => quoted value
  | depth + 1, indent, allowance, outermost, value => do
    let line ← onLine Value.depthLimit value
    if line.length ≤ lineWidth - indent - allowance then return line
    else
      let form (indent allowance : Int) (item : Value) := shownAt depth indent allowance false item
      let separator (indent : Int) : Text := .scalar ',' :: newLine indent
      match value with
      | .text text => return overLines text indent allowance outermost
      | .bytes bytes => return bytesOverLines bytes indent allowance outermost
      | .tuple items =>
        let closing : Text := if items.length == 1 then ",)" else ")"
        let lines ← itemLines form (indent + 1) (allowance + closing.length) items
        return "(" ++ Text.join (separator (indent + 1)) lines ++ closing
      | .ref address =>
        match ← cell address with
        | some (.list items) =>
          let lines ← itemLines form (indent + 1) (allowance + 1) items.toList
          return "[" ++ Text.join (separator (indent + 1)) lines ++ "]"
        | some (.dict entries) =>
          let keyForm (key : Value) : Run Text := do return (← onLine depth key) ++ ": "
          let lines ← entryLines keyForm form (indent + 1) (allowance + 1)
            (← inOrder entries.toList)
          return "\x7b" ++ Text.join (separator (indent + 1)) lines ++ "\x7d"
        | some (.mapping entries) =>
          let inside ← shownAt depth (indent + 13) (allowance + 1) false (← newDict entries)
          return "mappingproxy(" ++ inside ++ ")"
        | some (.object attributes) =>
          let keyForm (key : Value) : Run Text := return ((key.text?).getD []) ++ "="
          let entries := attributes.map fun (name, item) => (Value.text name, item)
          let lines ← entryLines keyForm form (indent + 10) allowance entries
          return "namespace(" ++ Text.join (separator (indent + 10)) lines ++ ")"
        | _ => return line
      | _ => return line

/-- The form of a value. -/
def shown (value : Value) : Run Text := shownAt Value.depthLimit 0 0 true value

end PageTemplates.Pretty
