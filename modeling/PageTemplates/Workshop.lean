import PageTemplates.PageRender

/-!
Workshops: the template sets of one compiler, with the tables that they are made of. A set has an
environment of its own, a table of code and a table of templates. A template is code bound to an
environment, and looks up the templates that it refers to in the set of that environment. A clone takes
over the code of a set and binds it anew.
-/

namespace PageTemplates

/-- A template: code bound to the environment of a set, which is told by the number of the set. -/
structure BoundTemplate where
  environment : Nat
  code : Entry

/-- The tables of a set and the number of its environment. -/
structure SetTables where
  environment : Nat
  codes : List (Text × Entry)
  templates : List (Text × BoundTemplate)

namespace SetTables

/-- The tables of a set that is made of code. -/
def binding (environment : Nat) (codes : List (Text × Entry)) : SetTables :=
  ⟨environment, codes, codes.map fun (name, code) => (name, ⟨environment, code⟩)⟩

/-- The code of a program under a name. Its version tells it from the code that it replaces. -/
def coded (tables : SetTables) (name : Text) (program : Template.Program) : Entry :=
  match tables.codes.lookup name with
  | some code => ⟨code.version + 1, program⟩
  | none => ⟨0, program⟩

/-- The tables with the code of a program, and with a template for it. -/
def adding (tables : SetTables) (name : Text) (program : Template.Program) : SetTables :=
  let code := tables.coded name program
  { tables with
    codes := TemplateSet.put name code tables.codes
    templates := TemplateSet.put name ⟨tables.environment, code⟩ tables.templates }

/-- What the loader of a set serves. -/
def served (recipe : Recipe) (tables : SetTables) : TemplateSet :=
  ⟨recipe, tables.templates.map fun (name, template) => (name, template.code)⟩

end SetTables

/-- The sets of a compiler in the order in which they were made, and the session of their renders. -/
structure Workshop where
  recipe : Recipe
  sets : List SetTables
  session : Session

/-- What is done with a set. -/
inductive SetStep where
  | add (name source : Text) (path : Option Text)
  | text (name : Text) (data : Data)
  | page (name : Text) (data : Data) (response : Response)

/-- What is done with a workshop. Sets are told by their numbers. -/
inductive WorkshopStep where
  | newSet
  | clone (number : Nat)
  | use (number : Nat) (step : SetStep)

inductive WorkshopAnswer where
  | made (number : Nat)
  | added (names : List Text)
  | failed (problem : Problem)
  | text (rendered : Except Failure Text)
  | page (response : Response) (problem : Option Problem)
  | missing

namespace Workshop

/-- The workshop of a compiler that has made no sets. -/
def opened (recipe : Recipe) : Workshop := ⟨recipe, [], .start⟩

def making (workshop : Workshop) (codes : List (Text × Entry)) : Workshop :=
  { workshop with
    sets := workshop.sets ++ [.binding workshop.sets.length codes]
    session := workshop.session.opening 1 }

/-- The template of a name: the number of its environment, what is served there, and its code. -/
def template? (workshop : Workshop) (tables : SetTables) (name : Text) :
    Option (Nat × TemplateSet × Entry) := do
  let template ← tables.templates.lookup name
  let owner ← workshop.sets[template.environment]?
  return (template.environment, owner.served workshop.recipe, template.code)

def renderPage (workshop : Workshop) (tables : SetTables) (name : Text) (data : Data)
    (response : Response) : PageRender.Outcome :=
  let page := PageRender.make name data none none
  match page.announce response with
  | .error failure => ⟨response, workshop.session, some (.failure failure)⟩
  | .ok (page, response) =>
    match workshop.template? tables name with
    | none => ⟨response, workshop.session, some (.fault (.notFound (.text name)))⟩
    | some (environment, set, code) =>
      (page.writeTemplate environment set code workshop.session response).2

/-- Does something with a set. An addition compiles its source before it touches a table. -/
def use (workshop : Workshop) (number : Nat) (tables : SetTables) :
    SetStep → WorkshopAnswer × Workshop
  | .add name source path =>
    match TemplateSet.compile workshop.recipe name source path with
    | .error problem => (.failed problem, workshop)
    | .ok program =>
      let tables := tables.adding name program
      (.added (tables.served workshop.recipe).names,
        { workshop with sets := workshop.sets.set number tables })
  | .text name data =>
    match workshop.template? tables name with
    | none => (.missing, workshop)
    | some (environment, set, code) =>
      let (rendered, session) := workshop.session.renderText environment set name code data
      (.text rendered, { workshop with session := session })
  | .page name data response =>
    let outcome := workshop.renderPage tables name data response
    (.page outcome.response outcome.problem, { workshop with session := outcome.session })

def step (workshop : Workshop) : WorkshopStep → WorkshopAnswer × Workshop
  | .newSet => (.made workshop.sets.length, workshop.making [])
  | .clone number =>
    match workshop.sets[number]? with
    | none => (.missing, workshop)
    | some tables => (.made workshop.sets.length, workshop.making tables.codes)
  | .use number step =>
    match workshop.sets[number]? with
    | none => (.missing, workshop)
    | some tables => workshop.use number tables step

end Workshop

end PageTemplates
