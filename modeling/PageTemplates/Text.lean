/-!
Text as templates, payloads and configuration files hold it: a list of code points, among which a
surrogate may stand alone. Only text without lone surrogates has a UTF-8 form. Nothing here depends
on an alphabet; the classes and case maps of letters are in the modules below `Text`.
-/

namespace PageTemplates

/-- A Unicode scalar value, or a surrogate that stands alone. -/
inductive CodePoint where
  | scalar (character : Char)
  | surrogate (offset : Fin 0x800)
  deriving DecidableEq, Inhabited

namespace CodePoint

/-- The number of a code point. -/
def value : CodePoint → Nat
  | .scalar character => character.toNat
  | .surrogate offset => 0xD800 + offset.val

/-- The code point of a number, if the number is below 0x110000. -/
def ofNat? (number : Nat) : Option CodePoint :=
  if surrogate : 0xD800 ≤ number ∧ number < 0xE000 then
    some (.surrogate ⟨number - 0xD800, by omega⟩)
  else if number < 0x110000 then some (.scalar (Char.ofNat number))
  else none

/-- Tests the character; a lone surrogate fails every test. -/
def satisfies (test : Char → Bool) : CodePoint → Bool
  | .scalar character => test character
  | .surrogate _ => false

instance : Coe Char CodePoint := ⟨.scalar⟩

end CodePoint

/-- A text is the list of its code points. -/
abbrev Text := List CodePoint

namespace Text

/-- The text of a string: its characters in order. -/
def ofChars (characters : List Char) : Text := characters.map .scalar

/-- The text of a string. -/
def ofString (string : String) : Text := ofChars string.toList

instance : Coe String Text := ⟨ofString⟩

/-- The characters of a text without lone surrogates. -/
def toChars? : Text → Option (List Char)
  | [] => some []
  | .scalar character :: rest => (toChars? rest).map (character :: ·)
  | .surrogate _ :: _ => none

/-- The string of a text without lone surrogates. -/
def toString? (text : Text) : Option String := (toChars? text).map String.ofList

/-- A natural number in decimal digits. -/
def ofNat (number : Nat) : Text := ofString (toString number)

/-- A whole number in decimal digits, with a minus sign below zero. -/
def ofInt (number : Int) : Text := ofString (toString number)

/-- The texts one after another with a separator between neighbours. -/
def join (separator : Text) : List Text → Text
  | [] => []
  | [text] => text
  | text :: rest => text ++ separator ++ join separator rest

/-- The order of texts: the first differing code points decide, and a start of a text comes before
the text. -/
def order : Text → Text → Ordering
  | [], [] => .eq
  | [], _ :: _ => .lt
  | _ :: _, [] => .gt
  | first :: firsts, second :: seconds =>
    match compare first.value second.value with
    | .eq => order firsts seconds
    | other => other

/-- Strictly before in the order of texts. -/
def precedes (first second : Text) : Bool := order first second == .lt

/-- A text repeated a number of times. -/
def repeated : Nat → Text → Text
  | 0, _ => []
  | count + 1, text => text ++ repeated count text

/-- Puts a text into sorted texts, in front of the first that does not come before it. -/
def insertSorted (text : Text) : List Text → List Text
  | [] => [text]
  | first :: rest =>
    if precedes first text then first :: insertSorted text rest else text :: first :: rest

/-- Sorted by the order of texts; equal texts keep their order. -/
def sorted : List Text → List Text
  | [] => []
  | text :: rest => insertSorted text (sorted rest)

/-!
Sets of code points are given by the ascending boundaries of the ranges they fill: the first boundary
opens a range, the second closes it, and so on. A point is in the set exactly when an odd number of
boundaries lies at or below it.
-/

namespace Ranges

/-- Counts boundaries at or below `point`, given that the first `low` are: each of the remaining
bits of the count is tried from the highest down. -/
def rank (bounds : Array Nat) (point : Nat) : Nat → Nat → Nat
  | 0, low => low
  | bits + 1, low =>
    let middle := low + Nat.pow 2 bits
    if (bounds[middle - 1]?).any (· ≤ point) then rank bounds point bits middle
    else rank bounds point bits low

/-- Membership of a point in the set of the given boundaries (at most 2047 of them). -/
def contains (bounds : Array Nat) (point : Nat) : Bool := rank bounds point 11 0 % 2 == 1

end Ranges

end Text

end PageTemplates
