import PageTemplates.Path

/-!
Patterns of paths: a star stands for any text, a question mark for any one character, and brackets for
one character of a class. A star never goes past a slash, because a path matches only if it has as many
slashes as the pattern.
-/

namespace PageTemplates

/-- A class of characters: those listed and those in ranges, or all others. -/
structure PointClass where
  negated : Bool
  listed : Text
  ranges : List (CodePoint × CodePoint)

/-- A part of a pattern. -/
inductive PatternPart where
  | anyText
  | anyOne
  | oneOf (points : PointClass)
  | exactly (point : CodePoint)

namespace PointClass

/-- Whether a class has a character. -/
def contains (points : PointClass) (point : CodePoint) : Bool :=
  let among := List.contains points.listed point ||
    points.ranges.any fun (low, high) => low.value ≤ point.value && point.value ≤ high.value
  among != points.negated

/-- What stands up to the first closing bracket behind one character, and what stands behind it. -/
def closed? : Text → Option (Text × Text)
  | [] => none
  | first :: rest =>
    match rest.dropWhile (· != .scalar ']') with
    | _ :: after => some (first :: rest.takeWhile (· != .scalar ']'), after)
    | [] => none

/-- Where the body of a bracket ends: at the next closing one, where the first character, or the one
after an exclamation mark, does not close. -/
def body? : Text → Option (Text × Text)
  | .scalar '!' :: rest => (closed? rest).map fun (body, after) => (.scalar '!' :: body, after)
  | other => closed? other

/-- The pieces of a body between the hyphens that stand for ranges. A hyphen does if something precedes
it in its piece; after one the next two characters are no such hyphen. The second argument counts the
characters that are not looked at. -/
def pieces : (skipped : Nat) → (piece : Text) → Text → List Text
  | _, piece, [] => [piece.reverse]
  | skipped + 1, piece, point :: rest => pieces skipped (point :: piece) rest
  | 0, piece, point :: rest =>
    if point = .scalar '-' then piece.reverse :: pieces 2 [] rest
    else pieces 0 (point :: piece) rest

/-- The pieces without an empty last one, whose hyphen stands for itself. -/
def closePieces : List Text → List Text
  | [piece, []] => [piece ++ "-"]
  | piece :: rest => piece :: closePieces rest
  | [] => []

/-- Takes the ends of empty ranges out of the pieces, from the last range to the first. -/
def mergeEmpty : List Text → List Text
  | [] => []
  | piece :: rest =>
    match mergeEmpty rest with
    | [] => [piece]
    | next :: others =>
      match piece.getLast?, next.head? with
      | some low, some high =>
        if high.value < low.value then (piece.dropLast ++ next.drop 1) :: others
        else piece :: next :: others
      | _, _ => piece :: next :: others

/-- The ranges between the pieces. -/
def rangesOf : List Text → List (CodePoint × CodePoint)
  | piece :: next :: others =>
    match piece.getLast?, next.head? with
    | some low, some high => (low, high) :: rangesOf (next :: others)
    | _, _ => rangesOf (next :: others)
  | _ => []

/-- The class of a body; one whose first piece starts with an exclamation mark is negated. -/
def ofBody (body : Text) : PointClass :=
  let skipped := if body.head? = some (.scalar '!') then 2 else 1
  match mergeEmpty (closePieces (pieces skipped [] body)) with
  | (.scalar '!' :: first) :: others =>
    ⟨true, (first :: others).flatten, rangesOf (first :: others)⟩
  | found => ⟨false, found.flatten, rangesOf found⟩

end PointClass

/-- A pattern. -/
abbrev Pattern := List PatternPart

namespace Pattern

/-- The parts of a pattern. The first argument bounds how many characters are read. -/
def read : (bound : Nat) → Text → Pattern
  | 0, _ => []
  | _, [] => []
  | bound + 1, point :: rest =>
    if point = .scalar '*' then .anyText :: read bound rest
    else if point = .scalar '?' then .anyOne :: read bound rest
    else if point = .scalar '[' then
      match PointClass.body? rest with
      | some (body, after) => .oneOf (.ofBody body) :: read bound after
      | none => .exactly point :: read bound rest
    else .exactly point :: read bound rest

/-- The pattern of a text. -/
def ofText (text : Text) : Pattern := read text.length text

/-- Whether a text or one of its endings passes a test. -/
def anyEnding (test : Text → Bool) : Text → Bool
  | [] => test []
  | point :: rest => test (point :: rest) || anyEnding test rest

/-- Whether a text matches a pattern as a whole. -/
def isMatch : Pattern → Text → Bool
  | [], text => text.isEmpty
  | .anyText :: parts, text => anyEnding (isMatch parts) text
  | .anyOne :: parts, text =>
    match text with
    | _ :: rest => isMatch parts rest
    | [] => false
  | .oneOf points :: parts, text =>
    match text with
    | point :: rest => points.contains point && isMatch parts rest
    | [] => false
  | .exactly expected :: parts, text =>
    match text with
    | point :: rest => point = expected && isMatch parts rest
    | [] => false

/-- The paths that match a pattern and have as many slashes, in their order. -/
def select (pattern : Text) (paths : List Text) : List Text :=
  paths.filter fun path =>
    Path.depth path == Path.depth pattern && isMatch (ofText pattern) path

end Pattern

end PageTemplates
