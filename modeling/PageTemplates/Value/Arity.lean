import PageTemplates.Value.Iterate

/-!
The number of arguments that the methods of texts, lists and the like take, with the wording of a
call that gives another number.
-/

namespace PageTemplates.Arity

open Run

/-- Fails if there are arguments by name. -/
def unnamed (owner method : Text) (given : Given) : Run Unit := do
  if !given.named.isEmpty then
    fail (.wrongType (owner ++ "." ++ method ++ "() takes no keyword arguments"))

/-- No argument at all. -/
def none (owner method : Text) (given : Given) : Run Unit := do
  unnamed owner method given
  let count := given.positional.length
  if count != 0 then
    fail (.wrongType (owner ++ "." ++ method ++ "() takes no arguments (" ++ Text.ofNat count ++
      " given)"))

/-- One argument. -/
def one (owner method : Text) (given : Given) : Run Value := do
  unnamed owner method given
  match given.positional with
  | [value] => return value
  | values =>
    fail (.wrongType (owner ++ "." ++ method ++ "() takes exactly one argument (" ++
      Text.ofNat values.length ++ " given)"))

/-- A number of arguments between two bounds. -/
def between (owner method : Text) (least most : Nat) (given : Given) : Run (List Value) := do
  unnamed owner method given
  let count := given.positional.length
  let wrong (bound : Text) (limit : Nat) : Run (List Value) :=
    fail (.wrongType (method ++ " expected " ++ bound ++ Text.ofNat limit ++ " argument" ++
      (if limit == 1 then [] else "s" : Text) ++ ", got " ++ Text.ofNat count))
  if least == most && count != least then wrong [] least
  else if count < least then wrong "at least " least
  else if most < count then wrong "at most " most
  else return given.positional

/-- Arguments between two bounds, worded as a count of what was given. -/
def taking (owner method : Text) (least most : Nat) (given : Given) : Run (List Value) := do
  unnamed owner method given
  let count := given.positional.length
  let wrong (bound : Text) (limit : Nat) : Run (List Value) :=
    fail (.wrongType (method ++ "() takes " ++ bound ++ Text.ofNat limit ++ " argument" ++
      (if limit == 1 then [] else "s" : Text) ++ " (" ++ Text.ofNat count ++ " given)"))
  if count < least then wrong "at least " least
  else if most < count then wrong "at most " most
  else return given.positional

/-- Arguments by place or by name, all of them optional. -/
def optional (method : Text) (names : List String) (given : Given) :
    Run (List (Option Value)) := do
  let count := given.positional.length + given.named.length
  if names.length < count then
    fail (.wrongType (method ++ "() takes at most " ++ Text.ofNat names.length ++ " argument" ++
      (if names.length == 1 then [] else "s" : Text) ++ " (" ++ Text.ofNat count ++ " given)"))
  match given.named.find? fun (name, _) => !(names.any fun known => Text.ofString known = name) with
  | some (name, _) =>
    fail (.wrongType ("'" ++ name ++ "' is an invalid keyword argument for " ++ method ++ "()"))
  | Option.none =>
    return names.zipIdx.map fun (name, place) =>
      match given.positional[place]? with
      | some value => some value
      | Option.none => given.named.lookup (Text.ofString name)

end PageTemplates.Arity
