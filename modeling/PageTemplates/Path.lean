import PageTemplates.Text.Search

/-!
Paths: texts whose parts stand between slashes. A template name is a path in normal form, in which
no part is empty; a folder path in normal form also leaves out the parts that mean the folder itself.
-/

namespace PageTemplates.Path

/-- The mark between parts. -/
def slash : CodePoint := .scalar '/'

/-- The other mark that template names may use between parts. -/
def backslash : CodePoint := .scalar '\\'

/-- The parts of a path, empty ones included. -/
def parts : Text → List Text
  | [] => [[]]
  | point :: rest =>
    if point = slash then [] :: parts rest
    else
      match parts rest with
      | [] => [[point]]
      | part :: others => (point :: part) :: others

/-- The path of parts. -/
def ofParts (names : List Text) : Text := Text.join [slash] names

/-- A path with every mark between parts a slash. -/
def withSlashes (path : Text) : Text :=
  path.map fun point => if point = backslash then slash else point

/-- The parts of a path that are not empty. -/
def segments (path : Text) : List Text :=
  (parts (withSlashes path)).filter fun part => !part.isEmpty

/-- The template name of a path: its parts that are not empty, between single slashes. -/
def templateName (path : Text) : Text := ofParts (segments path)

/-- How many slashes a path has. -/
def depth (path : Text) : Nat := path.count slash

/-- The part that means the folder itself. -/
def here : Text := "."

/-- The part that means the folder around it. -/
def above : Text := ".."

/-- Whether a path starts at the root of all folders. -/
def isAbsolute (path : Text) : Bool := path.head? = some slash

/-- The steps of a folder path: parts that are neither empty nor mean the folder itself. -/
def steps (path : Text) : List Text :=
  (parts path).filter fun part => !part.isEmpty && part != here

/-- What a folder path starts with if it starts at the root. Exactly two slashes are kept. -/
def rootMark (path : Text) : Text :=
  if !isAbsolute path then []
  else
    match path with
    | [_] => [slash]
    | _ :: second :: rest =>
      if second = slash && rest.head? != some slash then [slash, slash] else [slash]
    | [] => []

/-- The shown form of a folder path. -/
def shown (path : Text) : Text :=
  let text := rootMark path ++ ofParts (steps path)
  if text.isEmpty then here else text

/-- A path inside a folder path; one that starts at the root stands for itself. -/
def joined (folder path : Text) : Text :=
  if isAbsolute path then shown path
  else shown (folder ++ [slash] ++ path)

end PageTemplates.Path
