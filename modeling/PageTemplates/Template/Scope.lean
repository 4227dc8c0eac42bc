import PageTemplates.Template.Names
import PageTemplates.Template.Program

/-!
Scopes: which variables each part of a template declares and where the names in it lead. A name that
is read leads to the innermost scope that declares it; one that no scope declares is looked up in the
context where it is first needed. A name that is set is declared by the scope itself, with the outer
variable of that name as its first value.
-/

namespace PageTemplates.Template

/-- The variables of one scope: how each gets its first value, and which are set in it. -/
structure Symbols where
  depth : Nat
  loads : List (String × Load)
  stores : List String
  deriving Inhabited

/-- The scopes around a part, the innermost first. -/
abbrev Scopes := List Symbols

namespace Symbols

/-- The frame of a scope. -/
def frame (symbols : Symbols) : Frame := ⟨symbols.depth, symbols.loads⟩

/-- Declares a variable, or changes how it gets its first value. -/
def define (symbols : Symbols) (name : String) (load : Load) : Symbols :=
  let replaced :=
    if (symbols.loads.lookup name).isSome then
      symbols.loads.map fun (other, old) => if other == name then (other, load) else (other, old)
    else symbols.loads ++ [(name, load)]
  { symbols with loads := replaced }

/-- Notes that a name is set. -/
def noteStore (symbols : Symbols) (name : String) : Symbols :=
  if symbols.stores.contains name then symbols
  else { symbols with stores := symbols.stores ++ [name] }

end Symbols

namespace Scopes

/-- The variable that a name leads to. -/
def find? : Scopes → String → Option Slot
  | [], _ => none
  | symbols :: outer, name =>
    if (symbols.loads.lookup name).isSome then some ⟨symbols.depth, name⟩ else find? outer name

/-- How a variable gets its first value. -/
def loadOf? : Scopes → Slot → Option Load
  | [], _ => none
  | symbols :: outer, slot =>
    if symbols.depth == slot.depth then
      match symbols.loads.lookup slot.name with
      | some load => some load
      | none => loadOf? outer slot
    else loadOf? outer slot

/-- The depth of the innermost scope. -/
def depth : Scopes → Nat
  | [] => 0
  | symbols :: _ => symbols.depth

/-- A new scope inside. -/
def inner (scopes : Scopes) : Scopes :=
  match scopes with
  | [] => [⟨0, [], []⟩]
  | symbols :: _ => ⟨symbols.depth + 1, [], []⟩ :: scopes

/-- Changes the innermost scope. -/
def change (scopes : Scopes) (action : Symbols → Symbols) : Scopes :=
  match scopes with
  | [] => []
  | symbols :: outer => action symbols :: outer

/-- Declares a parameter. -/
def parameter (scopes : Scopes) (name : String) : Scopes :=
  scopes.change fun symbols => (symbols.noteStore name).define name .parameter

/-- Takes note that a name is read. -/
def read (scopes : Scopes) (name : String) : Scopes :=
  if (scopes.find? name).isSome then scopes
  else scopes.change fun symbols => symbols.define name .resolve

/-- Takes note that a name is set. -/
def store (scopes : Scopes) (name : String) : Scopes :=
  match scopes with
  | [] => []
  | symbols :: outer =>
    let noted := symbols.noteStore name
    if (noted.loads.lookup name).isSome then noted :: outer
    else
      match find? outer name with
      | some source => noted.define name (.copy source) :: outer
      | none => noted.define name .unset :: outer

/-- Takes note of names that are read. -/
def readAll (scopes : Scopes) (names : List String) : Scopes := names.foldl read scopes

/-- Takes note of a target. -/
def target (scopes : Scopes) (asParameter : Bool) : Target → Scopes
  | .name _ name => if asParameter then scopes.parameter name else scopes.store name
  | .member name _ => scopes.read name
  | .tuple items => targets scopes items
where
  /-- Takes note of targets. -/
  targets (scopes : Scopes) : List Target → Scopes
    | [] => scopes
    | item :: rest => targets (target scopes asParameter item) rest

/-- Brings together what the branches of a choice declare. What a branch sets and the scope had not
set before gets the outer variable, or what the context says, as its first value. -/
def merge (scopes : Scopes) (branches : List Scopes) : Scopes :=
  match scopes with
  | [] => []
  | symbols :: outer =>
    let inners := branches.filterMap List.head?
    let fresh := (inners.flatMap Symbols.stores).eraseDups.filter fun name =>
      !symbols.stores.contains name
    let merged := inners.foldl (fun so branch =>
      branch.stores.foldl Symbols.noteStore
        (branch.loads.foldl (fun so (name, load) => so.define name load) so)) symbols
    fresh.foldl (fun so name =>
      match find? outer name with
      | some source => so.define name (.copy source)
      | none => so.define name .resolve) merged :: outer

mutual

/-- Takes note of what a statement declares in the scope it stands in. -/
def statement : Statement → Scopes → Scopes
  | .output parts, scopes => scopes.readAll (Expression.readsAll parts)
  | .extending _ template, scopes => scopes.readAll template.reads
  | .forLoop _ source _ _ _ _, scopes => scopes.readAll source.reads
  | .choice clauses otherwise, scopes => choice clauses (statements otherwise) scopes
  | .macroDef _ name _ _ _, scopes => scopes.store name
  | .callBlock _ target arguments _ _ _, scopes =>
    scopes.readAll (target.reads ++ arguments.reads)
  | .filterBlock filter _, scopes => scopes.readAll filter.reads
  | .scope _ values _, scopes => scopes.readAll (Expression.readsAll values)
  | .block .., scopes => scopes
  | .included template _ _, scopes => scopes.readAll template.reads
  | .importAs template name _, scopes => (scopes.readAll template.reads).store name
  | .importFrom _ template names _, scopes =>
    (names.map Prod.snd).foldl store (scopes.readAll template.reads)
  | .assign target value, scopes => (scopes.readAll value.reads).target false target
  | .assignBlock target _ _, scopes => scopes.target false target
  | .escaping _ _, scopes => scopes

/-- Takes note of what statements declare. -/
def statements : List Statement → Scopes → Scopes
  | [], scopes => scopes
  | first :: rest, scopes => statements rest (statement first scopes)

/-- Takes note of a choice: the branches after the first one count as one, and so does the
alternative. -/
def choice : List Clause → (otherwise : Scopes → Scopes) → Scopes → Scopes
  | [], _, scopes => scopes
  | .mk test body :: rest, otherwise, scopes =>
    let tested := scopes.readAll test.reads
    tested.merge [statements body tested, others rest tested, otherwise tested]

/-- Takes note of further branches, one by one. -/
def others : List Clause → Scopes → Scopes
  | [], scopes => scopes
  | .mk test body :: rest, scopes =>
    let tested := scopes.readAll test.reads
    others rest (tested.merge [statements body tested, tested, tested])

end

/-- Insertion into names in order. -/
def insertName (name : String) : List String → List String
  | [] => [name]
  | other :: rest =>
    if Text.precedes (Text.ofString other) (Text.ofString name) then other :: insertName name rest
    else name :: other :: rest

/-- All names that are set in the scopes, those of inner scopes first, with the variables they lead
to. -/
def stored (scopes : Scopes) : List (String × Slot) :=
  let names := scopes.flatMap fun symbols =>
    symbols.stores.foldl (fun so name => insertName name so) []
  names.eraseDups.filterMap fun name => (scopes.find? name).map fun slot => (name, slot)

end Scopes

end PageTemplates.Template
