import PageTemplates.Template.Tree

/-!
The names that occur in the tree of a template, in the order in which it is walked, and questions
about them: which names a body uses without setting them first, and where a name is set.
-/

namespace PageTemplates.Template

/-- An occurrence of a name: it is read, or it is set as a variable or a parameter. -/
inductive Occurrence where
  | read (name : String)
  | set (name : String)

mutual

/-- The names that an expression reads. -/
def Expression.reads : Expression → List String
  | .data _ => []
  | .constant _ => []
  | .name name => [name]
  | .tuple items => Expression.readsAll items
  | .list items => Expression.readsAll items
  | .dict keys values => Expression.readsAll keys ++ Expression.readsAll values
  | .conditional _ test chosen otherwise =>
    test.reads ++ chosen.reads ++ Expression.readsOption otherwise
  | .filtered _ target _ arguments => Expression.readsOption target ++ arguments.reads
  | .tested _ target _ arguments => target.reads ++ arguments.reads
  | .call target arguments => target.reads ++ arguments.reads
  | .item target index => target.reads ++ index.reads
  | .slice start stop step =>
    Expression.readsOption start ++ Expression.readsOption stop ++ Expression.readsOption step
  | .member target _ => target.reads
  | .concat parts => Expression.readsAll parts
  | .compare first _ operands => first.reads ++ Expression.readsAll operands
  | .conjunction left right => left.reads ++ right.reads
  | .disjunction left right => left.reads ++ right.reads
  | .negation operand => operand.reads
  | .binary _ left right => left.reads ++ right.reads
  | .minus operand => operand.reads
  | .plus operand => operand.reads

/-- The names that expressions read. -/
def Expression.readsAll : List Expression → List String
  | [] => []
  | expression :: rest => expression.reads ++ Expression.readsAll rest

/-- The names that an expression reads, if it is there. -/
def Expression.readsOption : Option Expression → List String
  | none => []
  | some expression => expression.reads

/-- The names that arguments read. -/
def Arguments.reads : Arguments → List String
  | .mk positional _ values spread spreadNamed =>
    Expression.readsAll positional ++ Expression.readsAll values ++
      Expression.readsOption spread ++ Expression.readsOption spreadNamed

end

mutual

/-- The names that a target sets, with their lines. -/
def Target.names : Target → List (Nat × String)
  | .name line known => [(line, known)]
  | .tuple items => Target.namesAll items
  | .member _ _ => []

/-- The names that targets set. -/
def Target.namesAll : List Target → List (Nat × String)
  | [] => []
  | target :: rest => target.names ++ Target.namesAll rest

end

mutual

/-- The names of which a target sets an entry. -/
def Target.spaces : Target → List String
  | .name _ _ => []
  | .tuple items => Target.spacesAll items
  | .member known _ => [known]

/-- The names of which targets set an entry. -/
def Target.spacesAll : List Target → List String
  | [] => []
  | target :: rest => target.spaces ++ Target.spacesAll rest

end

/-- Readings of names. -/
def readings (names : List String) : List Occurrence := names.map .read

/-- Settings of names. -/
def settings (names : List String) : List Occurrence := names.map .set

/-- The occurrences in a target. -/
def Target.occurrences (target : Target) : List Occurrence :=
  settings (target.names.map Prod.snd)

mutual

/-- The occurrences in a statement; those in blocks do not count. -/
def Statement.occurrences : Statement → List Occurrence
  | .output parts => readings (Expression.readsAll parts)
  | .extending _ template => readings template.reads
  | .forLoop target source body otherwise test _ =>
    target.occurrences ++ readings source.reads ++ Statement.occurrencesAll body ++
      Statement.occurrencesAll otherwise ++ readings (Expression.readsOption test)
  | .choice clauses otherwise =>
    Clause.occurrencesAll clauses ++ Statement.occurrencesAll otherwise
  | .macroDef _ _ parameters defaults body =>
    settings parameters ++ readings (Expression.readsAll defaults) ++
      Statement.occurrencesAll body
  | .callBlock _ target arguments parameters defaults body =>
    readings (target.reads ++ arguments.reads) ++ settings parameters ++
      readings (Expression.readsAll defaults) ++ Statement.occurrencesAll body
  | .filterBlock filter body => Statement.occurrencesAll body ++ readings filter.reads
  | .scope targets values body =>
    targets.flatMap Target.occurrences ++ readings (Expression.readsAll values) ++
      Statement.occurrencesAll body
  | .block .. => []
  | .included template _ _ => readings template.reads
  | .importAs template _ _ => readings template.reads
  | .importFrom _ template _ _ => readings template.reads
  | .assign target value => target.occurrences ++ readings value.reads
  | .assignBlock target filter body =>
    target.occurrences ++ readings (Expression.readsOption filter) ++
      Statement.occurrencesAll body
  | .escaping value body => readings value.reads ++ Statement.occurrencesAll body

/-- The occurrences in statements. -/
def Statement.occurrencesAll : List Statement → List Occurrence
  | [] => []
  | statement :: rest => statement.occurrences ++ Statement.occurrencesAll rest

/-- The occurrences in clauses. -/
def Clause.occurrencesAll : List Clause → List Occurrence
  | [] => []
  | .mk test body :: rest =>
    readings test.reads ++ Statement.occurrencesAll body ++ Clause.occurrencesAll rest

end

/-- Whether a name is read before it is set. -/
def readFirst (name : String) : List Occurrence → Bool
  | [] => false
  | .read other :: rest => other == name || readFirst name rest
  | .set other :: rest => other != name && readFirst name rest

/-- Whether statements use a name that they do not set first. -/
def uses (statements : List Statement) (name : String) : Bool :=
  readFirst name (Statement.occurrencesAll statements)

mutual

/-- The names that a statement sets by assignment or as the variable of a loop, in its blocks too,
with their lines. -/
def Statement.stores : Statement → List (Nat × String)
  | .forLoop target _ body otherwise _ _ =>
    target.names ++ Statement.storesAll body ++ Statement.storesAll otherwise
  | .choice clauses otherwise => Clause.storesAll clauses ++ Statement.storesAll otherwise
  | .macroDef _ _ _ _ body => Statement.storesAll body
  | .callBlock _ _ _ _ _ body => Statement.storesAll body
  | .filterBlock _ body => Statement.storesAll body
  | .scope _ _ body => Statement.storesAll body
  | .block _ _ body _ _ => Statement.storesAll body
  | .assign target _ => target.names
  | .assignBlock target _ body => target.names ++ Statement.storesAll body
  | .escaping _ body => Statement.storesAll body
  | _ => []

/-- The names that statements set. -/
def Statement.storesAll : List Statement → List (Nat × String)
  | [] => []
  | statement :: rest => statement.stores ++ Statement.storesAll rest

/-- The names that clauses set. -/
def Clause.storesAll : List Clause → List (Nat × String)
  | [] => []
  | .mk _ body :: rest => Statement.storesAll body ++ Clause.storesAll rest

end

/-- A block as it stands in the tree. -/
structure BlockNode where
  line : Nat
  name : String
  body : List Statement
  seesLocals : Bool

mutual

/-- The blocks in a statement, each before those inside it. -/
def Statement.blocks : Statement → List BlockNode
  | .forLoop _ _ body otherwise _ _ => Statement.blocksAll body ++ Statement.blocksAll otherwise
  | .choice clauses otherwise => Clause.blocksAll clauses ++ Statement.blocksAll otherwise
  | .macroDef _ _ _ _ body => Statement.blocksAll body
  | .callBlock _ _ _ _ _ body => Statement.blocksAll body
  | .filterBlock _ body => Statement.blocksAll body
  | .scope _ _ body => Statement.blocksAll body
  | .block line name body seesLocals _ => ⟨line, name, body, seesLocals⟩ :: Statement.blocksAll body
  | .assignBlock _ _ body => Statement.blocksAll body
  | .escaping _ body => Statement.blocksAll body
  | _ => []

/-- The blocks in statements. -/
def Statement.blocksAll : List Statement → List BlockNode
  | [] => []
  | statement :: rest => statement.blocks ++ Statement.blocksAll rest

/-- The blocks in clauses. -/
def Clause.blocksAll : List Clause → List BlockNode
  | [] => []
  | .mk _ body :: rest => Statement.blocksAll body ++ Clause.blocksAll rest

end

mutual

/-- Whether a statement extends a template, at any depth. -/
def Statement.extends? : Statement → Bool
  | .extending .. => true
  | .forLoop _ _ body otherwise _ _ => Statement.anyExtends body || Statement.anyExtends otherwise
  | .choice clauses otherwise => Clause.anyExtends clauses || Statement.anyExtends otherwise
  | .macroDef _ _ _ _ body => Statement.anyExtends body
  | .callBlock _ _ _ _ _ body => Statement.anyExtends body
  | .filterBlock _ body => Statement.anyExtends body
  | .scope _ _ body => Statement.anyExtends body
  | .block _ _ body _ _ => Statement.anyExtends body
  | .assignBlock _ _ body => Statement.anyExtends body
  | .escaping _ body => Statement.anyExtends body
  | _ => false

/-- Whether one of the statements extends a template. -/
def Statement.anyExtends : List Statement → Bool
  | [] => false
  | statement :: rest => statement.extends? || Statement.anyExtends rest

/-- Whether one of the clauses extends a template. -/
def Clause.anyExtends : List Clause → Bool
  | [] => false
  | .mk _ body :: rest => Statement.anyExtends body || Clause.anyExtends rest

end

end PageTemplates.Template
