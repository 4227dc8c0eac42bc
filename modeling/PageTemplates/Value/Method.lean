import PageTemplates.Value.ContainerMethods
import PageTemplates.Value.ScalarMethods
import PageTemplates.Value.TextMethods

/-!
Calling a method of a value: the class of the value decides which methods it has.
-/

namespace PageTemplates.Method

open Run

/-- Calls a method of a cycler. -/
def callCycler (address : Ref) (items : List Value) (place : Nat) (method : String)
    (given : Given) : Run Value := do
  Arity.none "Cycler" (Text.ofString method) given
  match method with
  | "next" =>
    put address (.cycler items ((place + 1) % items.length))
    return items[place]?.getD .none
  | _ =>
    put address (.cycler items 0)
    return .none

/-- Whether two lists of values are equal. -/
def sameItems : List Value → List Value → Run Bool
  | [], [] => return true
  | first :: firsts, second :: seconds => do
    if ← settled (Value.matches? (← world) first second) then sameItems firsts seconds
    else return false
  | _, _ => return false

/-- Calls a method of a loop's own object. -/
def callLoop (address : Ref) (state : LoopState) (method : String) (given : Given) :
    Run Value := do
  if let (name, _) :: _ := given.named then
    fail (.wrongType ("LoopContext." ++ Text.ofString method ++
      "() got an unexpected keyword argument '" ++ name ++ "'"))
  match method with
  | "cycle" =>
    if given.positional.isEmpty then fail (.wrongType "no items for cycling given")
    let place := Int.fmod state.index (Int.ofNat given.positional.length)
    return given.positional[place.toNat]?.getD .none
  | _ =>
    let same ← match state.changed with
      | some before => sameItems before given.positional
      | none => pure false
    if same then return .bool false
    else
      put address (.loop { state with changed := some given.positional })
      return .bool true

/-- Calls one of the internal methods that most values share. -/
def callSpecial (receiver : Value) (method : String) (given : Given) : Run Value := do
  match method, given.positional with
  | "__len__", [] => return .int (← lengthOf receiver)
  | "__str__", [] => return .text (← plain receiver)
  | "__repr__", [] => return .text (← quoted receiver)
  | "__html__", [] => return .markup (← escaped receiver)
  | "__add__", [other] => binary .add receiver other
  | "__sub__", [other] => binary .sub receiver other
  | "__mul__", [other] => binary .mul receiver other
  | "__mod__", [other] => binary .mod receiver other
  | "__getitem__", [index] => item receiver index
  | "__contains__", [value] => return .bool (← contains receiver value)
  | "__eq__", [other] => return .bool (← equal receiver other)
  | "__ne__", [other] => return .bool (!(← equal receiver other))
  | "__lt__", [other] => return .bool (← less receiver other)
  | "__bool__", [] => return .bool (← truth receiver)
  | "__iter__", [] => return .ref (← iterate receiver)
  | "__int__", [] => return .int (← toInt receiver)
  | "__float__", [] => return .float (← toFloatValue receiver)
  | "__call__", _ => call none receiver given
  | "__dir__", _ => newList []
  | _, _ => ScalarMethods.unsupported method

/-- Calls a method of a thing in the world. -/
def callCell (address : Ref) (content : Cell) (method : String) (given : Given) : Run Value := do
  match content with
  | .list items => ContainerMethods.callList address items method given
  | .dict entries => ContainerMethods.callDict address entries.toList "dict" method given
  | .mapping entries => ContainerMethods.callDict address entries "mappingproxy" method given
  | .cycler items place => callCycler address items place method given
  | .loop state => callLoop address state method given
  | .iterator kind _ =>
    if method == "close" then
      put address (.iterator kind .done)
      return .none
    else ScalarMethods.unsupported method
  | _ => ScalarMethods.unsupported method

/-- Calls a method of a value. -/
def callOf (receiver : Value) (method : String) (given : Given) : Run Value := do
  if method.startsWith "__" then callSpecial receiver method given
  else
    match receiver with
    | .text text => TextMethods.call receiver text given method
    | .markup text => TextMethods.call receiver text given method
    | .bytes bytes => ScalarMethods.callBytes bytes method given
    | .int number => ScalarMethods.callInt "int" number method given
    | .bool flag => ScalarMethods.callInt "bool" (if flag then 1 else 0) method given
    | .float number => ScalarMethods.callFloat number method given
    | .date date => ScalarMethods.callDate "date" (Calendar.midnight date) method given
    | .datetime time => ScalarMethods.callDateTime time method given
    | .tuple items => ContainerMethods.callTuple items method given
    | .group key members => ContainerMethods.callTuple [key, members] method given
    | .range start stop step =>
      ContainerMethods.callRange (Value.rangeItems start stop step) method given
    | .builtin _ => ContainerMethods.fromKeys given
    | .ref address =>
      match ← cell address with
      | some content => callCell address content method given
      | none => ScalarMethods.unsupported method
    | _ => ScalarMethods.unsupported method

end PageTemplates.Method
