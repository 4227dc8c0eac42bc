import PageTemplates.Template.Scan
import PageTemplates.Template.Tree

/-!
Productions: rules of the grammar of templates, which read tokens from the current one on. A production
fails at the first token that it cannot take, or at a token that could not be read itself.
-/

namespace PageTemplates.Template

/-- What the rules read and remember: the tokens from the current one on, the open tags and the
words that may end the bodies being read, innermost first. -/
structure ParseState where
  tokens : List Token
  tags : List String
  endings : List (List String)

/-- A rule of the grammar. -/
abbrev Production := StateT ParseState (Except SyntaxFault)

namespace Production

/-- The current token. -/
def current : Production Token := do
  return (← get).tokens.headD ⟨1, .ending⟩

/-- Fails at a line. -/
def failAt {Result : Type} (line : Nat) (reason : Text) : Production Result := throw ⟨line, reason⟩

/-- Fails at the current token. -/
def fail {Result : Type} (reason : Text) : Production Result := do failAt (← current).line reason

/-- Fails if the current token is broken. -/
def checkReadable : Production Unit := do
  match ← current with
  | ⟨line, .broken reason⟩ => failAt line reason
  | _ => return ()

/-- Takes the current token. The ending is never passed. -/
def advance : Production Token := do
  let token ← current
  modify fun state =>
    match state.tokens with
    | _ :: next :: rest => { state with tokens := next :: rest }
    | _ => state
  checkReadable
  return token

/-- The token after the current one, which has to be readable. -/
def peek : Production Token := do
  match (← get).tokens with
  | _ :: ⟨line, .broken reason⟩ :: _ => failAt line reason
  | _ :: next :: _ => return next
  | _ => current

/-- Whether a token is a given word. -/
def isWord (word : String) (token : Token) : Bool :=
  match token.kind with
  | .name identifier => identifier == word
  | _ => false

/-- Whether a token is one of the given words. -/
def isOneOf (words : List String) (token : Token) : Bool := words.any fun word => isWord word token

/-- Whether a token is a given sign. -/
def isSign (expected : Sign) (token : Token) : Bool :=
  match token.kind with
  | .sign written => written == expected
  | _ => false

/-- Fails because something else was expected here. -/
def expected {Result : Type} (what : Text) : Production Result := do
  let token ← current
  match token.kind with
  | .ending => fail ("unexpected end of template, expected " ++ Text.quoted what ++ ".")
  | kind =>
    fail ("expected token " ++ Text.quoted what ++ ", got " ++ Text.quoted kind.describe)

/-- Takes a sign. -/
def sign (wanted : Sign) : Production Token := do
  if isSign wanted (← current) then advance else expected (Text.ofString wanted.text)

/-- Takes a word. -/
def word (wanted : String) : Production Token := do
  if isWord wanted (← current) then advance else expected (Text.ofString wanted)

/-- Takes any name. -/
def anyName : Production (Nat × String) := do
  let token ← current
  match token.kind with
  | .name identifier =>
    let _ ← advance
    return (token.line, identifier)
  | _ => expected "name"

/-- Takes the mark that closes a print tag. -/
def variableEnd : Production Unit := do
  match (← current).kind with
  | .variableEnd => let _ ← advance
  | _ => expected TokenKind.variableEnd.describe

/-- Takes the mark that closes a statement tag. -/
def blockEnd : Production Unit := do
  match (← current).kind with
  | .blockEnd => let _ ← advance
  | _ => expected TokenKind.blockEnd.describe

/-- Takes a word if it is there, and tells so. -/
def skipWord (wanted : String) : Production Bool := do
  if isWord wanted (← current) then
    let _ ← advance
    return true
  else return false

/-- Takes a sign if it is there, and tells so. -/
def skipSign (wanted : Sign) : Production Bool := do
  if isSign wanted (← current) then
    let _ ← advance
    return true
  else return false

/-- Repeats a step until it gives a result. -/
def repeated {State Result : Type} (step : State → Production (State ⊕ Result)) :
    (bound : Nat) → State → Production Result
  | 0, _ => fail "template is nested too deeply"
  | bound + 1, state => do
    match ← step state with
    | .inl next => repeated step bound next
    | .inr result => return result

end Production

end PageTemplates.Template
