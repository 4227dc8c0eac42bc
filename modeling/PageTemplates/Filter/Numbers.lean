import PageTemplates.Rule

/-!
Filters that yield numbers, or show them as sizes.
-/

namespace PageTemplates.NumberFilters

open Run Rule

/-- Whether a conversion failed because of what it was given. -/
def isBadOperand (failure : Failure) : Bool :=
  match failure.cause with
  | .wrongType => true
  | .wrongValue => true
  | .encoding => true
  | .decoding => true
  | _ => false

/-- A value as the whole number that is written. -/
def writtenNumber (value base : Value) : Run Value := do
  match value.text? with
  | some text =>
    let base ← toIndex base
    if base < 0 then fail (.wrongValue "int() base must be >= 2 and <= 36, or 0")
    return .int (← textToInt text base.toNat)
  | none => return .int (← toInt value)

/-- What stands before the point of a number. -/
def wholePart (value : Value) : Run Value := do return .int (← truncated (← toFloatValue value))

/-- A value as a whole number: as it is written, else what stands before the point of the number
that is written, else a default. -/
def wholeNumber (bound : Bound) : Run Value :=
  let value := bound.get "value"
  recovering (writtenNumber value (bound.get "base")) isBadOperand fun _ =>
    recovering (wholePart value)
      (fun failure => isBadOperand failure || failure.cause = .overflow)
      fun _ => return bound.get "default"

/-- The size of a number. -/
def magnitude (value : Value) : Run Value := do
  match value with
  | .float number => return .float number.abs
  | _ =>
    match value.int? with
    | some number => return .int number.natAbs
    | none =>
      fail (.wrongType ("bad operand type for abs(): '" ++ (← className value) ++ "'"))

/-- Rounds a number up or down to a number of decimal places. -/
def roundedToward (upward : Bool) (value places : Value) : Run Value := do
  let unit ← binary .pow (.int 10) places
  let scaled ← binary .mul value unit
  let whole ← match scaled with
    | .float number =>
      let cut ← truncated number
      match Number.ofInt? cut with
      | some back =>
        if upward && back < number then pure (cut + 1)
        else if !upward && number < back then pure (cut - 1)
        else pure cut
      | none => pure cut
    | other =>
      match other.int? with
      | some number => pure number
      | none =>
        fail (.wrongType ("must be real number, not " ++ (← className other)))
  binary .div (.int whole) unit

/-- Rounds a number. -/
def roundedBy (bound : Bound) : Run Value := do
  let value := bound.get "value"
  let places := bound.get "precision"
  requireHashable (bound.get "method")
  let method := (bound.get "method").text?
  if method = some "common" then
    match places with
    | .none =>
      match ← rounded value 0 with
      | .float number => return .int (← truncated number)
      | other => return other
    | _ =>
      if value matches .float _ || value.int?.isSome then rounded value (← toIndex places)
      else rounded value 0
  else if method = some "ceil" then roundedToward true value places
  else if method = some "floor" then roundedToward false value places
  else fail (badArgument "method must be common, ceil or floor")

/-- Names of the multiples of a byte. -/
def unitNames (binary : Bool) : List Text :=
  ["k", "M", "G", "T", "P", "E", "Z", "Y"].map fun letter =>
    if binary then (if letter = "k" then "KiB" else letter ++ "iB") else letter ++ "B"

/-- A number with one decimal place. -/
def onePlace (number : Float) : Text :=
  let spec : Number.Spec := { type := some (.scalar 'f'), precision := some 1 }
  (spec.float number).toOption.getD []

/-- A number of bytes in the first multiple of which there are fewer than the base, or in the last
one. -/
def inUnits (size : Float) (base : Nat) : (power : Nat) → List Text → Text
  | _, [] => []
  | power, name :: names =>
    let unit := Nat.pow base power
    let fits := match Number.asQuotient? size with
      | some exact => Number.compareQuotient exact (Int.ofNat unit, 1) == .lt
      | none => false
    if fits || names.isEmpty then
      let share := Float.ofNat base * size / (Number.ofInt? (Int.ofNat unit)).getD 1
      onePlace share ++ " " ++ name
    else inUnits size base (power + 1) names

/-- A number of bytes as a size. -/
def fileSize (bound : Bound) : Run Value := do
  let size ← toFloatValue (bound.get "value")
  let binary ← flag bound "binary"
  let base := if binary then 1024 else 1000
  if size == 1 then return .text "1 Byte"
  else if size < Float.ofNat base then
    return .text (Text.ofInt (← truncated size) ++ " Bytes")
  else return .text (inUnits size base 2 (unitNames binary))

/-- The filters on numbers by name. -/
def rules : List (String × Rule) :=
  [ ("int", plain "do_int" .nothing
      [.required "value", .optional "default" (.int 0), .optional "base" (.int 10)] wholeNumber),
    ("float", plain "do_float" .nothing
      [.required "value", .optional "default" (.float 0)] fun bound =>
        recovering (do return .float (← toFloatValue (bound.get "value"))) isBadOperand
          fun _ => return bound.get "default"),
    ("abs", ⟨"abs", .nothing, .fixed "" 1 .exactly, fun _ bound => magnitude (bound.get "first")⟩),
    ("round", plain "do_round" .nothing
      [.required "value", .optional "precision" (.int 0), .optional "method" (.text "common")]
      roundedBy),
    ("filesizeformat", plain "do_filesizeformat" .nothing
      [.required "value", .optional "binary" (.bool false)] fileSize) ]

end PageTemplates.NumberFilters
