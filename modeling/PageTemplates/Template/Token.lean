import PageTemplates.Text

/-!
The tokens of a template: pieces of literal text, the marks that open and close tags, and inside
tags names, literals and signs. A token that cannot be read stands in the list as a broken one, so
that what precedes it is judged first.
-/

namespace PageTemplates.Template

/-- The signs inside tags. -/
inductive Sign where
  | add | sub | div | floorDiv | mul | mod | pow | tilde
  | leftBracket | rightBracket | leftParen | rightParen | leftBrace | rightBrace
  | equal | notEqual | greater | greaterEqual | less | lessEqual | assign
  | dot | colon | pipe | comma | semicolon
  deriving DecidableEq, Inhabited

/-- How a sign is written. -/
def Sign.text : Sign → String
  | .add => "+"
  | .sub => "-"
  | .div => "/"
  | .floorDiv => "//"
  | .mul => "*"
  | .mod => "%"
  | .pow => "**"
  | .tilde => "~"
  | .leftBracket => "["
  | .rightBracket => "]"
  | .leftParen => "("
  | .rightParen => ")"
  | .leftBrace => "\x7b"
  | .rightBrace => "\x7d"
  | .equal => "=="
  | .notEqual => "!="
  | .greater => ">"
  | .greaterEqual => ">="
  | .less => "<"
  | .lessEqual => "<="
  | .assign => "="
  | .dot => "."
  | .colon => ":"
  | .pipe => "|"
  | .comma => ","
  | .semicolon => ";"

/-- What a token is. `name` holds an identifier. -/
inductive TokenKind where
  | data (text : Text)
  | variableBegin
  | variableEnd
  | blockBegin
  | blockEnd
  | name (identifier : String)
  | string (value : Text)
  | integer (value : Nat)
  | float (value : Float)
  | sign (written : Sign)
  | ending
  | broken (reason : Text)
  deriving Inhabited

/-- A token with the line it starts on. -/
structure Token where
  line : Nat
  kind : TokenKind
  deriving Inhabited

/-- How a kind of token is called in messages. -/
def TokenKind.describe : TokenKind → Text
  | .data _ => "template data / text"
  | .variableBegin => "begin of print statement"
  | .variableEnd => "end of print statement"
  | .blockBegin => "begin of statement block"
  | .blockEnd => "end of statement block"
  | .name identifier => Text.ofString identifier
  | .string _ => "string"
  | .integer _ => "integer"
  | .float _ => "float"
  | .sign written => Text.ofString written.text
  | .ending => "end of template"
  | .broken reason => reason

/-- A fault of a template's source: the line and what is wrong there. -/
structure SyntaxFault where
  line : Nat
  reason : Text

end PageTemplates.Template
