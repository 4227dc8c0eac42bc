import PageTemplates.Text

/-!
JSON documents: the tree that reading yields and writing takes. Whole numbers and numbers with a
fraction or an exponent are told apart, and the members of an object keep their order.
-/

namespace PageTemplates

/-- A JSON document. -/
inductive Json where
  | null
  | bool (value : Bool)
  | int (value : Int)
  | float (value : Float)
  | text (value : Text)
  | array (items : List Json)
  | object (members : List (Text × Json))
  deriving Inhabited

namespace Json

/-- The value of a member, if the document is an object that has it. -/
def member? (name : String) : Json → Option Json
  | .object members => members.lookup (Text.ofString name)
  | _ => none

end Json

end PageTemplates
