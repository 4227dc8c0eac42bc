import PageTemplates.Value.Iterate
import PageTemplates.Number.Spec

/-!
Texts with percent directives: `%(key)flags width.precision letter`. A tuple gives its items one
after another, any other operand gives itself; a mapping can also be asked for keys. Filling markup
escapes what is filled in.
-/

namespace PageTemplates.Percent

open Run

/-- A directive as it is read. -/
structure Directive where
  key : Option Text := none
  left : Bool := false
  plus : Bool := false
  blank : Bool := false
  alternate : Bool := false
  zero : Bool := false
  width : Option Int := none
  precision : Option Int := none

/-- The operands while directives take them. -/
structure Operands where
  rest : List Value
  entries : Option (List (Value × Value))
  whole : Value
  usedKey : Bool := false

/-- Takes the next operand. -/
def next (operands : Operands) : Run (Value × Operands) :=
  match operands.rest with
  | value :: rest => return (value, { operands with rest := rest })
  | [] => fail (.wrongType "not enough arguments for format string")

/-- The content of a parenthesised key and what follows it. -/
def takeKey : (depth : Nat) → Text → (done : Text) → Option (Text × Text)
  | _, [], _ => none
  | depth, point :: rest, done =>
    if point = .scalar ')' then
      match depth with
      | 0 => some (done.reverse, rest)
      | depth + 1 => takeKey depth rest (point :: done)
    else if point = .scalar '(' then takeKey (depth + 1) rest (point :: done)
    else takeKey depth rest (point :: done)

/-- Takes flags. -/
def takeFlags : Text → Directive → Directive × Text
  | [], directive => (directive, [])
  | point :: rest, directive =>
    match point with
    | .scalar '-' => takeFlags rest { directive with left := true }
    | .scalar '+' => takeFlags rest { directive with plus := true }
    | .scalar ' ' => takeFlags rest { directive with blank := true }
    | .scalar '#' => takeFlags rest { directive with alternate := true }
    | .scalar '0' => takeFlags rest { directive with zero := true }
    | _ => (directive, point :: rest)

/-- What a size in a directive is for. -/
inductive SizeRole where
  | width
  | precision

/-- Sizes stay below this power of two. -/
def SizeRole.bits : SizeRole → Nat
  | .width => 63
  | .precision => 31

/-- The failure of an operand that is too large for a size. -/
def SizeRole.tooLarge : SizeRole → Failure
  | .width => ⟨.overflow, "Python int too large to convert to C ssize_t"⟩
  | .precision => ⟨.overflow, "Python int too large to convert to C int"⟩

/-- The failure of digits that are too large for a size. -/
def SizeRole.tooBig : SizeRole → Failure
  | .width => .wrongValue "width too big"
  | .precision => .wrongValue "precision too big"

/-- Takes a width or a precision: digits, or a star that takes an operand. -/
def takeSize (role : SizeRole) (text : Text) (operands : Operands) :
    Run (Option Int × Text × Operands) := do
  match text with
  | .scalar '*' :: rest =>
    let (value, operands) ← next operands
    match value.int? with
    | some size =>
      if size < -Int.pow 2 role.bits || Int.pow 2 role.bits ≤ size then fail role.tooLarge
      requireRoom size.natAbs
      return (some size, rest, operands)
    | none => fail (.wrongType "* wants int")
  | _ =>
    let (digits, rest) := Number.Spec.takeDigits text
    if digits.isEmpty then return (none, rest, operands)
    else
      let size := Number.Spec.digitsValue digits
      if Nat.pow 2 role.bits ≤ size then fail role.tooBig
      requireRoom size
      return (some (Int.ofNat size), rest, operands)

/-- The value as a whole number for a decimal directive. -/
def decimalOperand (letter : Text) (value : Value) : Run Int := do
  match value with
  | .float number =>
    match Number.truncate? number with
    | some whole => return whole
    | none =>
      if number.isNaN then fail (.wrongValue "cannot convert float NaN to integer")
      else fail ⟨.overflow, "cannot convert float infinity to integer"⟩
  | _ =>
    match value.int? with
    | some number => return number
    | none =>
      failIfUndefined value
      fail (.wrongType ("%" ++ letter ++ " format: a real number is required, not " ++
        (← className value)))

/-- The value as a whole number for a directive in another base. -/
def wholeOperand (letter : Text) (value : Value) : Run Int := do
  match value.int? with
  | some number => return number
  | none =>
    failIfUndefined value
    fail (.wrongType ("%" ++ letter ++ " format: an integer is required, not " ++
      (← className value)))

/-- The value as a floating-point number. -/
def floatOperand (value : Value) : Run Float := do
  match value with
  | .float number => return number
  | _ =>
    match value.int? with
    | some number =>
      match Number.ofInt? number with
      | some number => return number
      | none => fail ⟨.overflow, "int too large to convert to float"⟩
    | none =>
      failIfUndefined value
      fail (.wrongType ("must be real number, not " ++ (← className value)))

/-- A filled text in its field. -/
def inField (directive : Directive) (width : Nat) (sign body : Text) (numeric : Bool) : Text :=
  let missing := width - (sign.length + body.length)
  if directive.left then sign ++ body ++ List.replicate missing (.scalar ' ')
  else if directive.zero && numeric then sign ++ List.replicate missing (.scalar '0') ++ body
  else List.replicate missing (.scalar ' ') ++ sign ++ body

/-- The sign that stands before a number. -/
def signOf (directive : Directive) (negative : Bool) : Text :=
  if negative then "-" else if directive.plus then "+" else if directive.blank then " " else []

/-- A whole number in a base under a directive. -/
def wholeText (directive : Directive) (width base : Nat) (mark : Text) (upper : Bool)
    (number : Int) : Text :=
  let digits := Nat.toDigits base number.natAbs
  let digits := match directive.precision with
    | some precision => Number.zeros (precision.toNat - digits.length) ++ digits
    | none => digits
  let digits := if upper then digits.map Char.toUpper else digits
  let sign := signOf directive (number < 0) ++ (if directive.alternate then mark else [])
  inField directive width sign (Text.ofChars digits) true

/-- A floating-point number under a directive. -/
def floatText (directive : Directive) (width : Nat) (letter : Char) (number : Float) : Text :=
  let (whole, rest) := Number.Spec.floatBody number letter.toLower
    (some ((directive.precision.map Int.toNat).getD 6)) directive.alternate
  let body := whole ++ rest
  let body := if letter.isUpper then body.map Char.toUpper else body
  inField directive width (signOf directive (Number.signBit number && !number.isNaN))
    (Text.ofChars body) true

/-- Everything outside ASCII as escapes. -/
def asciiOnly (text : Text) : Text :=
  text.flatMap fun point => if point.value < 128 then [point] else Text.hexEscape point.value

/-- Fills one directive. -/
def fill (markup : Bool) (directive : Directive) (letter : CodePoint) (place : Nat)
    (value : Value) : Run Text := do
  let guardText (text : Text) : Text := if markup then Markup.escape text else text
  let width := (directive.width.map Int.toNat).getD 0
  let directive :=
    if directive.width.any (· < 0) then { directive with left := true } else directive
  let width := if directive.width.any (· < 0) then (directive.width.getD 0).natAbs else width
  let cut (text : Text) : Text :=
    match directive.precision with
    | some precision => text.take precision.toNat
    | none => text
  let shownLetter : Text := [letter]
  match letter with
  | .scalar 's' =>
    let text ← if markup then escaped value else plain value
    return inField directive width [] (cut text) false
  | .scalar 'r' => return inField directive width [] (cut (guardText (← quoted value))) false
  | .scalar 'a' =>
    return inField directive width [] (cut (guardText (asciiOnly (← quoted value)))) false
  | .scalar 'd' =>
    return wholeText directive width 10 [] false (← decimalOperand shownLetter value)
  | .scalar 'i' =>
    return wholeText directive width 10 [] false (← decimalOperand shownLetter value)
  | .scalar 'u' =>
    return wholeText directive width 10 [] false (← decimalOperand shownLetter value)
  | .scalar 'x' =>
    return wholeText directive width 16 "0x" false (← wholeOperand shownLetter value)
  | .scalar 'X' =>
    return wholeText directive width 16 "0X" true (← wholeOperand shownLetter value)
  | .scalar 'o' =>
    return wholeText directive width 8 "0o" false (← wholeOperand shownLetter value)
  | .scalar 'c' =>
    match value with
    | .int number =>
      match (if number < 0 then none else CodePoint.ofNat? number.toNat) with
      | some point => return inField directive width [] [point] false
      | none => fail ⟨.overflow, "%c arg not in range(0x110000)"⟩
    | _ =>
      match value.text? with
      | some [point] => return inField directive width [] (guardText [point]) false
      | _ =>
        failIfUndefined value
        fail (.wrongType "%c requires int or char")
  | _ =>
    let isFloat := letter.satisfies fun character =>
      ['e', 'E', 'f', 'F', 'g', 'G'].contains character
    if isFloat then
      return floatText directive width (Number.Spec.charOf letter) (← floatOperand value)
    else
      let shown : Text :=
        if 31 < letter.value && letter.value < 128 then [letter] else [.scalar '?']
      fail (.wrongValue ("unsupported format character '" ++ shown ++ "' (0x" ++
        Text.ofChars (Nat.toDigits 16 letter.value) ++ ") at index " ++ Text.ofNat place))

/-- Fills the directives of a pattern from a place on; the first argument bounds the steps. -/
def fillAll (markup : Bool) (total : Nat) :
    (bound : Nat) → Text → Operands → (done : List Text) → Run (Text × Operands)
  | 0, _, operands, done => return (done.reverse.flatten, operands)
  | bound + 1, pattern, operands, done => do
    let literal := pattern.takeWhile (· != .scalar '%')
    match pattern.drop literal.length with
    | [] => return ((literal :: done).reverse.flatten, operands)
    | _ :: .scalar '%' :: rest =>
      fillAll markup total bound rest operands ([.scalar '%'] :: literal :: done)
    | _ :: rest =>
      let (directive, rest, operands) ← do
        match rest with
        | .scalar '(' :: inner =>
          match operands.entries with
          | none => fail (.wrongType "format requires a mapping")
          | some entries =>
            match takeKey 0 inner [] with
            | none => fail (.wrongValue "incomplete format key")
            | some (key, rest) =>
              match Value.lookup? (← world) (.text key) entries with
              | none => fail (.missingKey (Text.quoted key))
              | some value =>
                pure (({ key := some key } : Directive), rest,
                  { operands with rest := [value], usedKey := true })
        | rest => pure ({}, rest, operands)
      let (directive, rest) := takeFlags rest directive
      let (width, rest, operands) ← takeSize .width rest operands
      let (point, rest) := Number.Spec.takeChar '.' rest
      let (precision, rest, operands) ←
        if point then takeSize .precision rest operands else pure (none, rest, operands)
      let precision := if point then some (precision.getD 0) else none
      let directive := { directive with width := width, precision := precision }
      let rest := match rest with
        | .scalar 'h' :: rest => rest
        | .scalar 'l' :: rest => rest
        | .scalar 'L' :: rest => rest
        | rest => rest
      match rest with
      | [] => fail (.wrongValue "incomplete format")
      | letter :: rest =>
        let (value, operands) ← next operands
        let filled ← fill markup directive letter (total - rest.length - 1) value
        fillAll markup total bound rest operands (filled :: literal :: done)

/-- Fills a pattern with an operand. -/
def format (markup : Bool) (pattern : Text) (operand : Value) : Run Text := do
  let items? := match operand with
    | .tuple items => some items
    | .group key members => some [key, members]
    | _ => none
  let entries ← match operand with
    | .ref address =>
      match ← cell address with
      | some (.dict entries) => pure (some entries.toList)
      | some (.mapping entries) => pure (some entries)
      | some (.list _) => pure (some [])
      | _ => pure none
    | .range _ _ _ => pure (some [])
    | .bytes _ => pure (some [])
    | _ => pure none
  let operands : Operands := ⟨items?.getD [operand], entries, operand, false⟩
  let (text, operands) ← fillAll markup pattern.length (pattern.length + 1) pattern operands []
  if !operands.rest.isEmpty && entries.isNone then
    fail (.wrongType "not all arguments converted during string formatting")
  return text

end PageTemplates.Percent
