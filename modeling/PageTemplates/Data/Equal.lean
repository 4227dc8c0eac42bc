import PageTemplates.Data
import PageTemplates.Value.Compare

/-!
Equality of data: numbers by what they amount to, texts by their content, collections member by
member, and mappings whatever their order.
-/

namespace PageTemplates.Data

/-- What a number, truth value included, amounts to. -/
def magnitude? : Data → Option Value.Magnitude
  | .bool value => (Value.bool value).magnitude?
  | .int value => (Value.int value).magnitude?
  | .float value => (Value.float value).magnitude?
  | _ => Option.none

/-- Whether scalars are equal. -/
def equalScalars (first second : Data) : Bool :=
  match first.magnitude?, second.magnitude? with
  | some one, some other => Value.compareMagnitudes? one other == some .eq
  | some _, Option.none => false
  | Option.none, some _ => false
  | Option.none, Option.none =>
    match first, second with
    | .none, .none => true
    | .bytes one, .bytes other => one == other
    | .date one, .date other => one == other
    | .datetime one, .datetime other => Value.equalDateTimes one other
    | _, _ =>
      match first.text?, second.text? with
      | some one, some other => one = other
      | _, _ => false

mutual

/-- Whether data are equal. -/
def equals : Data → Data → Bool
  | .list items, .list others => equalLists items others
  | .tuple items, .tuple others => equalLists items others
  | .set items, .set others =>
    items.length == others.length && allAmong items others
  | .dict entries, .dict others => entries.length == others.length && allHeld entries others
  | .mapping entries, .mapping others => entries.length == others.length && allHeld entries others
  | .mapping entries, .dict others => entries.length == others.length && allHeld entries others
  | .dict entries, .mapping others => entries.length == others.length && allHeld entries others
  | .object attributes, .object others =>
    attributes.length == others.length && allGiven attributes others
  | first, second => equalScalars first second

/-- Whether lists are equal item by item. -/
def equalLists : List Data → List Data → Bool
  | [], [] => true
  | item :: items, other :: others => equals item other && equalLists items others
  | _, _ => false

/-- Whether each item equals one of the others. -/
def allAmong : List Data → List Data → Bool
  | [], _ => true
  | item :: items, others => others.any (equals item) && allAmong items others

/-- Whether each entry is among the others. -/
def allHeld : List (Data × Data) → List (Data × Data) → Bool
  | [], _ => true
  | (key, value) :: entries, others =>
    (others.any fun other => equals key other.1 && equals value other.2) &&
      allHeld entries others

/-- Whether each attribute is among the others. -/
def allGiven : List (Text × Data) → List (Text × Data) → Bool
  | [], _ => true
  | (name, value) :: attributes, others =>
    (others.any fun other => name = other.1 && equals value other.2) &&
      allGiven attributes others

end

/-- Puts an entry in place of the one of an equal key, or behind all others. -/
def put (key value : Data) : List (Data × Data) → List (Data × Data)
  | [] => [(key, value)]
  | (other, old) :: rest =>
    if other.equals key then (other, value) :: rest else (other, old) :: put key value rest

end PageTemplates.Data
