import PageTemplates.Number.Decimal
import PageTemplates.Failure

/-!
Format specifications: `[[fill]align][sign][z][#][0][width][grouping][.precision][type]`, and the
texts of whole numbers, floating-point numbers and plain texts under them.
-/

namespace PageTemplates.Number

/-- A specification as it is read. -/
structure Spec where
  fill : CodePoint := .scalar ' '
  align : Option Char := none
  sign : Char := '-'
  noNegativeZero : Bool := false
  alternate : Bool := false
  zeroPadded : Bool := false
  width : Nat := 0
  grouping : Option Char := none
  precision : Option Nat := none
  type : Option CodePoint := none

namespace Spec

/-- Whether a code point says where the content stands in its field. -/
def isAlign (point : CodePoint) : Bool :=
  point.satisfies fun character => ['<', '>', '=', '^'].contains character

/-- The character of a code point. -/
def charOf : CodePoint → Char
  | .scalar character => character
  | .surrogate _ => '\uFFFD'

/-- Takes a character from the start if it is there. -/
def takeChar (character : Char) : Text → Bool × Text
  | [] => (false, [])
  | point :: rest => if point = .scalar character then (true, rest) else (false, point :: rest)

/-- Takes digits from the start. -/
def takeDigits (text : Text) : Text × Text :=
  let isDigit (point : CodePoint) : Bool := point.satisfies Char.isDigit
  (text.takeWhile isDigit, text.dropWhile isDigit)

/-- The value of decimal digits. -/
def digitsValue (digits : Text) : Nat :=
  digits.foldl (fun number digit => number * 10 + (digit.value - 48)) 0

/-- Reads a number that may not have too many digits. -/
def readCount (digits : Text) : Except Failure Nat :=
  if digits.length > 18 then .error (.wrongValue "Too many decimal digits in format string")
  else .ok (digitsValue digits)

/-- Reads a specification for a value of a class. -/
def read (className : Text) (text : Text) : Except Failure Spec := do
  let spec : Spec := {}
  let (spec, rest) := match text with
    | fill :: align :: rest =>
      if isAlign align then ({ spec with fill := fill, align := some (charOf align) }, rest)
      else if isAlign fill then ({ spec with align := some (charOf fill) }, align :: rest)
      else (spec, text)
    | [align] => if isAlign align then ({ spec with align := some (charOf align) }, []) else (spec, text)
    | [] => (spec, [])
  let hasFill := spec.align.isSome && rest.length + 2 == text.length
  let (spec, rest) := match rest with
    | .scalar '+' :: rest => ({ spec with sign := '+' }, rest)
    | .scalar '-' :: rest => (spec, rest)
    | .scalar ' ' :: rest => ({ spec with sign := ' ' }, rest)
    | rest => (spec, rest)
  let (noNegativeZero, rest) := takeChar 'z' rest
  let (alternate, rest) := takeChar '#' rest
  let spec := { spec with noNegativeZero := noNegativeZero, alternate := alternate }
  let (zero, afterZero) := takeChar '0' rest
  let (spec, rest) :=
    if zero && !hasFill then
      ({ spec with
        fill := .scalar '0', zeroPadded := true,
        align := if spec.align.isNone then some '=' else spec.align }, afterZero)
    else (spec, rest)
  let (widthDigits, rest) := takeDigits rest
  let width ← readCount widthDigits
  let (comma, rest) := takeChar ',' rest
  let (underscore, rest) := takeChar '_' rest
  if comma && underscore then throw (.wrongValue "Cannot specify both ',' and '_'.")
  let (secondComma, _) := takeChar ',' rest
  if underscore && secondComma then throw (.wrongValue "Cannot specify both ',' and '_'.")
  let grouping := if comma then some ',' else if underscore then some '_' else none
  let (point, rest) := takeChar '.' rest
  let (precisionDigits, rest) := if point then takeDigits rest else ([], rest)
  if point && precisionDigits.isEmpty then throw (.wrongValue "Format specifier missing precision")
  let precision ← if point then some <$> readCount precisionDigits else pure none
  let spec := { spec with width := width, grouping := grouping, precision := precision }
  match rest with
  | [] => return spec
  | [type] => return { spec with type := some type }
  | _ =>
    throw (.wrongValue ("Invalid format specifier " ++ Text.quoted text ++ " for object of type '" ++
      className ++ "'"))

/-- A letter that is no type for the class. -/
def unknownType (className : Text) (type : CodePoint) : Failure :=
  let shown : Text :=
    if type.value > 32 && type.value < 128 then [type]
    else "\\x" ++ Text.ofChars (Nat.toDigits 16 type.value)
  .wrongValue ("Unknown format code '" ++ shown ++ "' for object of type '" ++ className ++ "'")

/-- Puts content into its field. -/
def pad (spec : Spec) (defaultAlign : Char) (content : Text) : Text :=
  let missing := spec.width - content.length
  let filler (count : Nat) : Text := List.replicate count spec.fill
  match spec.align.getD defaultAlign with
  | '<' => content ++ filler missing
  | '^' => filler (missing / 2) ++ content ++ filler (missing - missing / 2)
  | _ => filler missing ++ content

/-- A text under a specification. -/
def text (spec : Spec) (content : Text) : Except Failure Text :=
  match spec.type with
  | some (.scalar 's') => finish
  | none => finish
  | some type => .error (unknownType "str" type)
where
  /-- The checks and the text once the type is known to fit. -/
  finish : Except Failure Text :=
    if spec.sign != '-' then .error (.wrongValue "Sign not allowed in string format specifier")
    else if spec.noNegativeZero then
      .error (.wrongValue "Negative zero coercion (z) not allowed in string format specifier")
    else if spec.alternate then
      .error (.wrongValue "Alternate form (#) not allowed in string format specifier")
    else
      match spec.grouping with
      | some mark => .error (.wrongValue ("Cannot specify '" ++ Text.ofChars [mark] ++ "' with 's'."))
      | none =>
        if spec.align == some '=' && !spec.zeroPadded then
          .error (.wrongValue "'=' alignment not allowed in string format specifier")
        else
          let align := if spec.zeroPadded && spec.align == some '=' then some '<' else spec.align
          let content := match spec.precision with
            | some precision => content.take precision
            | none => content
          .ok ({ spec with align := align }.pad '<' content)

/-- Digits in groups from the right with a mark between them. -/
def grouped (size : Nat) (mark : Char) (digits : List Char) : List Char :=
  let rec go : List Char → Nat → List Char
    | [], _ => []
    | digit :: rest, place =>
      if place != 0 && place % size == 0 then mark :: digit :: go rest (place + 1)
      else digit :: go rest (place + 1)
  (go digits.reverse 0).reverse

/-- Adds zeros in front of grouped digits until the field is full. -/
def groupedTo (size : Nat) (mark : Char) (least : Nat) :
    (bound : Nat) → List Char → List Char
  | 0, digits => grouped size mark digits
  | bound + 1, digits =>
    let shown := grouped size mark digits
    if shown.length < least then groupedTo size mark least bound ('0' :: digits) else shown

/-- A number from its sign, its mark of the base, its digits and what follows them. -/
def assemble (spec : Spec) (negative : Bool) (base digits rest : List Char) (groupSize : Nat) :
    Text :=
  let sign : List Char :=
    if negative then ['-'] else if spec.sign == '-' then [] else [spec.sign]
  let fixed := sign.length + base.length + rest.length
  let inner := spec.align == some '=' && spec.fill = .scalar '0'
  let digits := match spec.grouping with
    | some mark =>
      if inner then groupedTo groupSize mark (spec.width - fixed) spec.width digits
      else grouped groupSize mark digits
    | none => digits
  let body := Text.ofChars (digits ++ rest)
  let head := Text.ofChars (sign ++ base)
  if spec.align == some '=' then
    head ++ List.replicate (spec.width - (head.length + body.length)) spec.fill ++ body
  else spec.pad '>' (head ++ body)

/-- Digits of a number in a base. -/
def digitsIn (base number : Nat) : List Char := Nat.toDigits base number

/-- Drops zeros from the end of a fraction, with the point if nothing is left. -/
def trimFraction (keep : Bool) (whole fraction : List Char) : List Char :=
  let kept := if keep then fraction else (fraction.reverse.dropWhile (· == '0')).reverse
  if kept.isEmpty then (if keep then whole ++ ['.'] else whole) else whole ++ '.' :: kept

/-- The magnitude of a finite number in positional form. -/
def fixedForm (numerator denominator precision : Nat) (alternate : Bool) :
    List Char × List Char :=
  let (whole, fraction) := fixedDigits numerator denominator precision
  (whole, if fraction.isEmpty then (if alternate then ['.'] else []) else '.' :: fraction)

/-- The magnitude of a finite number in exponent form. -/
def exponentForm (numerator denominator precision : Nat) (alternate trim : Bool) :
    List Char × List Char :=
  let (digits, exponent) := significantDigits numerator denominator (precision + 1)
  let fraction := digits.drop 1
  let fraction := if trim then (fraction.reverse.dropWhile (· == '0')).reverse else fraction
  (digits.take 1,
    (if fraction.isEmpty then (if alternate then ['.'] else []) else '.' :: fraction) ++
      'e' :: exponentText exponent)

/-- The magnitude of a finite number in whichever form is shorter for its size; `dotZero` asks for
a digit after the point and takes the exponent form one place earlier. -/
def generalForm (numerator denominator precision : Nat) (alternate dotZero : Bool) :
    List Char × List Char :=
  let precision := max precision 1
  let (_, exponent) := significantDigits numerator denominator precision
  let limit : Int := if dotZero then Int.ofNat precision - 1 else precision
  if -4 ≤ exponent && (exponent < limit || (numerator == 0)) then
    let places := (Int.ofNat precision - 1 - exponent).toNat
    let (whole, fraction) := fixedDigits numerator denominator places
    let fraction :=
      if alternate then fraction else (fraction.reverse.dropWhile (· == '0')).reverse
    let fraction := if fraction.isEmpty && dotZero then ['0'] else fraction
    (whole, if fraction.isEmpty then (if alternate then ['.'] else []) else '.' :: fraction)
  else exponentForm numerator denominator (precision - 1) alternate (!alternate)

/-- The magnitude of a number under a type letter: digits before the point, and the rest. -/
def floatBody (number : Float) (type : Char) (precision : Option Nat) (alternate : Bool) :
    List Char × List Char :=
  match asQuotient? number with
  | none => if number.isNaN then (['n', 'a', 'n'], []) else (['i', 'n', 'f'], [])
  | some (numerator, denominator) =>
    let size := numerator.natAbs
    match type with
    | 'f' => fixedForm size denominator (precision.getD 6) alternate
    | 'e' => exponentForm size denominator (precision.getD 6) alternate false
    | 'g' => generalForm size denominator (precision.getD 6) alternate false
    | '%' =>
      let (whole, rest) := fixedForm (size * 100) denominator (precision.getD 6) alternate
      (whole, rest ++ ['%'])
    | _ =>
      match precision with
      | some precision => generalForm size denominator precision alternate true
      | none =>
        let shown := shown number.abs
        (shown.takeWhile Char.isDigit, shown.dropWhile Char.isDigit)

/-- A floating-point number under a specification. -/
def float (spec : Spec) (number : Float) : Except Failure Text :=
  let upper (characters : List Char) : List Char := characters.map Char.toUpper
  let build (type : Char) (raise : Bool) : Except Failure Text :=
    let (whole, rest) := floatBody number type spec.precision spec.alternate
    let (whole, rest) := if raise then (upper whole, upper rest) else (whole, rest)
    let zero := spec.noNegativeZero && (whole ++ rest).all fun character =>
      !(character.isDigit && character != '0')
    let negative := signBit number && !number.isNaN && !zero
    let spec := if whole.all Char.isDigit then spec else { spec with grouping := none }
    .ok (spec.assemble negative [] whole rest 3)
  match spec.type with
  | none => build 'r' false
  | some (.scalar letter) =>
    if ['e', 'f', 'g', '%'].contains letter then build letter false
    else if ['E', 'F', 'G'].contains letter then build letter.toLower true
    else if letter == 'n' then build 'g' false
    else .error (unknownType "float" (.scalar letter))
  | some type => .error (unknownType "float" type)

/-- A whole number under a specification. -/
def int (spec : Spec) (className : Text) (number : Int) : Except Failure Text :=
  let negative := number < 0
  let build (base : Nat) (mark : List Char) (raise : Bool) (size : Nat) : Except Failure Text :=
    if spec.precision.isSome then
      .error (.wrongValue "Precision not allowed in integer format specifier")
    else if spec.noNegativeZero then
      .error (.wrongValue "Negative zero coercion (z) not allowed in format specifier with integer presentation type 'd'")
    else
      let digits := digitsIn base number.natAbs
      let digits := if raise then digits.map Char.toUpper else digits
      .ok (spec.assemble negative (if spec.alternate then mark else []) digits [] size)
  let noComma (letter : Char) (result : Except Failure Text) : Except Failure Text :=
    if spec.grouping == some ',' then
      .error (.wrongValue ("Cannot specify ',' with '" ++ Text.ofChars [letter] ++ "'."))
    else result
  match spec.type with
  | none => build 10 [] false 3
  | some (.scalar 'd') => build 10 [] false 3
  | some (.scalar 'n') => build 10 [] false 3
  | some (.scalar 'b') => noComma 'b' (build 2 ['0', 'b'] false 4)
  | some (.scalar 'o') => noComma 'o' (build 8 ['0', 'o'] false 4)
  | some (.scalar 'x') => noComma 'x' (build 16 ['0', 'x'] false 4)
  | some (.scalar 'X') => noComma 'X' (build 16 ['0', 'X'] true 4)
  | some (.scalar 'c') =>
    match spec.grouping with
    | some mark => .error (.wrongValue ("Cannot specify '" ++ Text.ofChars [mark] ++ "' with 'c'."))
    | none =>
      if spec.sign != '-' then
        .error (.wrongValue "Sign not allowed with integer format specifier 'c'")
      else if spec.alternate then
        .error (.wrongValue "Alternate form (#) not allowed with integer format specifier 'c'")
      else
        match (if negative then none else CodePoint.ofNat? number.toNat) with
        | some point => .ok (spec.pad '<' [point])
        | none => .error ⟨.overflow, "%c arg not in range(0x110000)"⟩
  | some (.scalar letter) =>
    if ['e', 'E', 'f', 'F', 'g', 'G', '%'].contains letter then
      match ofInt? number with
      | some value => spec.float value
      | none => .error ⟨.overflow, "int too large to convert to float"⟩
    else .error (unknownType className (.scalar letter))
  | some type => .error (unknownType className type)

end Spec

end PageTemplates.Number
