import PageTemplates.Template.Literal
import PageTemplates.Template.Token
import PageTemplates.Text.Search

/-!
The reading of tokens from a source. Outside tags everything up to the next opening mark is data; a
minus sign at a mark takes away the blanks on its outer side. Inside tags blanks separate tokens,
and brackets have to match before the tag can close.
-/

namespace PageTemplates.Template

/-- The three kinds of tags. -/
inductive TagKind where
  | variable
  | block
  | comment
  deriving DecidableEq

/-- The sign after an opening mark or before a closing one. -/
inductive TrimSign where
  | none
  | minus
  | plus
  deriving DecidableEq

/-- Line breaks of all kinds become line feeds, and one at the very end is dropped. -/
def normalizeBreaks (source : Text) : Text :=
  let rec go : Text → Text
    | [] => []
    | .scalar '\r' :: .scalar '\n' :: rest => .scalar '\n' :: go rest
    | .scalar '\r' :: rest => .scalar '\n' :: go rest
    | point :: rest => point :: go rest
  let text := go source
  match text.reverse with
  | .scalar '\n' :: before => before.reverse
  | _ => text

/-- The kind of tag that opens here, and what follows the mark. -/
def openingMark? : Text → Option (TagKind × Text)
  | .scalar '\x7b' :: .scalar '\x7b' :: rest => some (.variable, rest)
  | .scalar '\x7b' :: .scalar '%' :: rest => some (.block, rest)
  | .scalar '\x7b' :: .scalar '#' :: rest => some (.comment, rest)
  | _ => none

/-- Takes the sign after an opening mark. -/
def takeSign : Text → TrimSign × Text
  | .scalar '-' :: rest => (.minus, rest)
  | .scalar '+' :: rest => (.plus, rest)
  | rest => (.none, rest)

/-- Takes the closing mark with its sign; a minus sign also takes the blanks after the mark. -/
def closingMark? (kind : TagKind) (text : Text) : Option Text :=
  let close (rest : Text) : Option Text :=
    match kind, rest with
    | .variable, .scalar '\x7d' :: .scalar '\x7d' :: after => some after
    | .block, .scalar '%' :: .scalar '\x7d' :: after => some after
    | .comment, .scalar '#' :: .scalar '\x7d' :: after => some after
    | _, _ => none
  match text with
  | .scalar '-' :: rest => (close rest).map Text.trimStart
  | .scalar '+' :: rest => if kind = .variable then none else close rest
  | rest => close rest

/-- Takes a word with blanks around it. -/
def takeWord? (word : String) (text : Text) : Option Text :=
  (Text.dropOpening? (Text.ofString word) (Text.trimStart text)).map Text.trimStart

/-- The tag that switches tags off, after its opening mark and sign. -/
def rawOpening? (text : Text) : Option Text :=
  (takeWord? "raw" text).bind fun rest =>
    match rest with
    | .scalar '+' :: _ => none
    | _ => closingMark? .block rest

/-- The tag that switches tags on again: its sign and what follows it. -/
def rawClosing? (text : Text) : Option (TrimSign × Text) :=
  match text with
  | .scalar '\x7b' :: .scalar '%' :: rest =>
    let (sign, rest) := takeSign rest
    match (takeWord? "endraw" rest).bind (closingMark? .block) with
    | some after => some (sign, after)
    | none => none
  | _ => none

/-- The first place where a reader succeeds: what is before it, and what the reader gives. -/
def searchFirst {Result : Type} (reader : Text → Option Result) : Text → Option (Text × Result)
  | [] => (reader []).map fun found => ([], found)
  | point :: rest =>
    match reader (point :: rest) with
    | some found => some ([], found)
    | none => (searchFirst reader rest).map fun (before, found) => (point :: before, found)

/-- Line breaks in a text. -/
def breaksIn (text : Text) : Nat := text.count (.scalar '\n')

/-- Data before a mark, without its last blanks if the mark has a minus sign. -/
def dataToken (line : Nat) (data : Text) (sign : TrimSign) : List Token :=
  let kept := if sign = .minus then Text.trimEnd data else data
  if kept.isEmpty then [] else [⟨line, .data kept⟩]

/-- The signs of two characters, then those of one. -/
def sign? : Text → Option (Sign × Nat)
  | .scalar '/' :: .scalar '/' :: _ => some (.floorDiv, 2)
  | .scalar '*' :: .scalar '*' :: _ => some (.pow, 2)
  | .scalar '=' :: .scalar '=' :: _ => some (.equal, 2)
  | .scalar '!' :: .scalar '=' :: _ => some (.notEqual, 2)
  | .scalar '>' :: .scalar '=' :: _ => some (.greaterEqual, 2)
  | .scalar '<' :: .scalar '=' :: _ => some (.lessEqual, 2)
  | .scalar '+' :: _ => some (.add, 1)
  | .scalar '-' :: _ => some (.sub, 1)
  | .scalar '/' :: _ => some (.div, 1)
  | .scalar '*' :: _ => some (.mul, 1)
  | .scalar '%' :: _ => some (.mod, 1)
  | .scalar '~' :: _ => some (.tilde, 1)
  | .scalar '[' :: _ => some (.leftBracket, 1)
  | .scalar ']' :: _ => some (.rightBracket, 1)
  | .scalar '(' :: _ => some (.leftParen, 1)
  | .scalar ')' :: _ => some (.rightParen, 1)
  | .scalar '\x7b' :: _ => some (.leftBrace, 1)
  | .scalar '\x7d' :: _ => some (.rightBrace, 1)
  | .scalar '>' :: _ => some (.greater, 1)
  | .scalar '=' :: _ => some (.assign, 1)
  | .scalar '<' :: _ => some (.less, 1)
  | .scalar '.' :: _ => some (.dot, 1)
  | .scalar ':' :: _ => some (.colon, 1)
  | .scalar '|' :: _ => some (.pipe, 1)
  | .scalar ',' :: _ => some (.comma, 1)
  | .scalar ';' :: _ => some (.semicolon, 1)
  | _ => none

/-- The closing bracket that an opening one waits for. -/
def Sign.partner? : Sign → Option Sign
  | .leftBrace => some .rightBrace
  | .leftParen => some .rightParen
  | .leftBracket => some .rightBracket
  | _ => none

/-- Whether a sign closes a bracket. -/
def Sign.closes : Sign → Bool
  | .rightBrace => true
  | .rightParen => true
  | .rightBracket => true
  | _ => false

/-- The brackets waited for after a sign, or why the sign cannot stand here. -/
def balance (sign : Sign) (waiting : List Sign) : Except Text (List Sign) :=
  match sign.partner? with
  | some partner => .ok (partner :: waiting)
  | none =>
    if sign.closes then
      match waiting with
      | [] => .error ("unexpected '" ++ Text.ofString sign.text ++ "'")
      | expected :: rest =>
        if expected = sign then .ok rest
        else
          .error ("unexpected '" ++ Text.ofString sign.text ++ "', expected '" ++
            Text.ofString expected.text ++ "'")
    else .ok waiting

/-- The boundaries of the marks that an identifier may hold and that are not read inside tags: those
that came after the eleventh edition of the character standard. -/
def unreadMarks : Array Nat := #[
  2200, 2208, 2250, 2259, 2901, 2902, 3132, 3133, 3457, 3458, 3770, 3771, 5909, 5910, 6159, 6160,
  6847, 6863, 7674, 7675, 43052, 43053, 69291, 69293, 69506, 69510, 69744, 69745, 69747, 69749,
  69826, 69827, 70094, 70096, 71984, 71990, 71991, 71993, 71995, 71999, 72000, 72001, 72002,
  72004, 72145, 72152, 72154, 72161, 72164, 72165, 94031, 94032, 94079, 94088, 94180, 94181,
  94192, 94194, 118528, 118574, 118576, 118599, 123184, 123191, 123566, 123567, 123628, 123632]

/-- Characters of names: word characters and what else an identifier may hold, but for some marks. -/
def isNamePoint (point : CodePoint) : Bool :=
  Text.isWord point.value ||
    (Text.isIdentifierContinue point.value && !Text.Ranges.contains unreadMarks point.value)

/-- One token at the start of the inside of a tag that is not blank: its kind and its length. -/
def literal? (previous : Option CodePoint) (text : Text) : Option (TokenKind × Nat) :=
  let float := if previous == some (.scalar '.') then none else floatRun? text
  match float with
  | some length => some (.float (floatValue (text.take length)), length)
  | none =>
    match integerRun? text with
    | some (length, base) => some (.integer (integerValue (text.take length) base), length)
    | none =>
      let name := text.takeWhile isNamePoint
      if !name.isEmpty then
        if Text.isIdentifier name then
          some (.name ((Text.toString? name).getD ""), name.length)
        else some (.broken "Invalid character in identifier", name.length)
      else
        match quotedRun? text with
        | some (content, _) =>
          match textValue content with
          | .ok value => some (.string value, content.length + 2)
          | .error reason => some (.broken reason, content.length + 2)
        | none => none

/-- What opening a tag leads to. -/
inductive Opening where
  | raw (sign : TrimSign) (mark : Nat) (rest : Text)
  | tag (kind : TagKind) (sign : TrimSign) (rest : Text)

/-- Reads an opening mark with its sign, the raw tag first. -/
def opening? (text : Text) : Option Opening :=
  (openingMark? text).map fun (kind, rest) =>
    let (sign, after) := takeSign rest
    match (if kind = .block then rawOpening? after else none) with
    | some inside => .raw sign (breaksIn (text.take (text.length - inside.length))) inside
    | none => .tag kind sign after

/-- Where the scanner is: the line, the place in the source, and the text before the place's end. -/
structure ScanPoint where
  line : Nat
  place : Nat
  rest : Text

/-- Moves over a number of code points, counting lines. -/
def ScanPoint.skip (point : ScanPoint) (count : Nat) : ScanPoint :=
  ⟨point.line + breaksIn (point.rest.take count), point.place + count, point.rest.drop count⟩

/-- The tokens of the inside of a tag up to its closing mark; then what follows it, if the mark was
found. -/
def scanTag (kind : TagKind) :
    (bound : Nat) → ScanPoint → (previous : Option CodePoint) → (waiting : List Sign) →
      (done : List Token) → List Token × Option ScanPoint
  | 0, _, _, _, done => (done, none)
  | bound + 1, point, previous, waiting, done =>
    match (if waiting.isEmpty then closingMark? kind point.rest else none) with
    | some after =>
      let token : TokenKind := if kind = .variable then .variableEnd else .blockEnd
      (⟨point.line, token⟩ :: done,
        some (point.skip (point.rest.length - after.length)))
    | none =>
      match point.rest with
      | [] => (done, none)
      | first :: _ =>
        let last (count : Nat) : Option CodePoint := (point.rest.take count).getLast?
        if Text.blank first then
          let count := (point.rest.takeWhile Text.blank).length
          scanTag kind bound (point.skip count) (last count) waiting done
        else
          match literal? previous point.rest with
          | some (token, count) =>
            scanTag kind bound (point.skip count) (last count) waiting
              (⟨point.line, token⟩ :: done)
          | none =>
            match sign? point.rest with
            | some (sign, count) =>
              match balance sign waiting with
              | .ok waiting =>
                scanTag kind bound (point.skip count) (last count) waiting
                  (⟨point.line, .sign sign⟩ :: done)
              | .error reason => (⟨point.line, .broken reason⟩ :: done, none)
            | none =>
              let reason := "unexpected char " ++ Text.quoted [first] ++ " at " ++
                Text.ofNat point.place
              (⟨point.line, .broken reason⟩ :: done, none)

/-- The tokens of a template from a place outside tags on, collected in reverse; the first argument
bounds the number of tags. -/
def scanData : (bound : Nat) → ScanPoint → (done : List Token) → List Token
  | 0, _, done => done
  | bound + 1, point, done =>
    match searchFirst opening? point.rest with
    | none =>
      if point.rest.isEmpty then done else ⟨point.line, .data point.rest⟩ :: done
    | some (data, .raw sign breaks inside) =>
      let done := dataToken point.line data sign ++ done
      let line := point.line + breaksIn data + breaks
      let place := point.place + (point.rest.length - inside.length)
      match searchFirst rawClosing? inside with
      | some (content, closingSign, after) =>
        let inner : ScanPoint := ⟨line, place, inside⟩
        scanData bound (inner.skip (inside.length - after.length))
          (dataToken line content closingSign ++ done)
      | none =>
        if inside.isEmpty then done
        else ⟨line, .broken "Missing end of raw directive"⟩ :: done
    | some (data, .tag kind sign inside) =>
      let done := dataToken point.line data sign ++ done
      let inner := point.skip (point.rest.length - inside.length)
      match kind with
      | .comment =>
        match searchFirst (closingMark? .comment) inside with
        | some (_, after) => scanData bound (inner.skip (inside.length - after.length)) done
        | none =>
          if inside.isEmpty then done
          else ⟨inner.line, .broken "Missing end of comment tag"⟩ :: done
      | _ =>
        let token : TokenKind := if kind = .variable then .variableBegin else .blockBegin
        let last := (point.rest.take (point.rest.length - inside.length)).getLast?
        match scanTag kind (inside.length + 1) inner last [] (⟨inner.line, token⟩ :: done) with
        | (done, some after) => scanData bound after done
        | (done, none) => done

/-- The tokens of a source, with the ending on the line of the last token. -/
def scan (source : Text) : List Token :=
  let text := normalizeBreaks source
  let tokens := (scanData (text.length + 1) ⟨1, 0, text⟩ []).reverse
  let line := (tokens.getLast?.map Token.line).getD 1
  tokens ++ [⟨line, .ending⟩]

end PageTemplates.Template
