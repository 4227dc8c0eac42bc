import PageTemplates.Proofs.Renderer

/-!
Release and debug mode agree. Over a source that stays as it is, what a release renderer shows for a
name is what a debug renderer shows for it, and a fault that keeps a release renderer from being made
is the fault that debug pages keep until they are rendered.
-/

namespace PageTemplates.Renderer

/-- Whatever the data, the page of a name keeps a fault for its render. -/
def Carries (renderer : Renderer) (disk : Node) (session : Session) (name : Text) (fault : Fault) :
    Prop :=
  ∀ data, ∃ page after, renderer.page disk session name data = (.ok page, after) ∧
    page.fault = some fault

/-- Whatever the data, the page of a name has a template and keeps no fault. -/
def Resolves (renderer : Renderer) (disk : Node) (session : Session) (name : Text) : Prop :=
  ∀ data, ∃ page after, renderer.page disk session name data = (.ok page, after) ∧
    page.fault = none ∧ page.template?.isSome

/-- How the renderers of both modes are to one another. -/
structure ModesAgree (options : RendererOptions) (disk : Node) (source : Source)
    (session : Session) : Prop where
  /-- A debug renderer is always made. -/
  watched : make (options.inMode .debug) disk source session =
    .ok (watching options source, session)
  /-- Where a release renderer is made, both know the pages that are discovered, and every name
  shows the same. -/
  served : ∀ release after,
    make (options.inMode .release) disk source session = .ok (release, after) →
    ∃ root discovery registry, Discovery.rootText options.root = .ok root ∧
      Discovery.ofSource disk source root options.extensions = .ok discovery ∧
      release.registry = some registry ∧ registry.map Prod.fst = discovery.pages ∧
      release.pages disk = .ok discovery.pages ∧
      (watching options source).pages disk = .ok discovery.pages ∧
      ∀ name data response,
        (release.render disk after name data response).answer =
          ((watching options source).render disk session name data response).answer
  /-- Where there is no base, a release renderer is not made, and every debug page keeps its fault. -/
  baseless : ∀ root fault, Discovery.rootText options.root = .ok root →
    (Build.groundwork options.recipe disk source root options.extensions).outcome =
      .error (.fault fault) →
    make (options.inMode .release) disk source session = .error (.fault fault) ∧
      ∀ name, (watching options source).Carries disk session name fault
  /-- Where a page fails, a release renderer ends with the first page in order that does, the debug
  page of which keeps its fault, and the other debug pages are as if it were not there. -/
  broken : ∀ root discovery base failing, Discovery.rootText options.root = .ok root →
    (Build.groundwork options.recipe disk source root options.extensions).outcome =
      .ok (discovery, base) →
    failing ∈ discovery.pages →
    (∀ set, (Build.page disk source discovery base failing).outcome ≠ .ok set) →
    discovery.pages.Pairwise (fun first second => Text.precedes first second = true) ∧
    ∃ before name rest problem, discovery.pages = before ++ name :: rest ∧
      (∀ earlier ∈ before, ∃ set, (Build.page disk source discovery base earlier).outcome =
        .ok set) ∧
      (Build.page disk source discovery base name).outcome = .error problem ∧
      make (options.inMode .release) disk source session = .error problem ∧
      (∀ fault, problem = .fault fault →
        (watching options source).Carries disk session name fault) ∧
      ∀ other ∈ discovery.pages, ∀ set,
        (Build.page disk source discovery base other).outcome = .ok set →
        (watching options source).Resolves disk session other

section

variable {options : RendererOptions} {disk : Node} {source : Source} {session : Session}
  {root : Text} {discovery : Discovery} {base ones : List (Text × Template.Program)}

theorem pages_watching (rooted : Discovery.rootText options.root = .ok root)
    (found : Discovery.ofSource disk source root options.extensions = .ok discovery) :
    (watching options source).pages disk = .ok discovery.pages := by
  simp only [pages, watching, rooted]
  simp only [Except.mapError, bind, Except.bind, found]
  rfl

/-- A release renderer and a debug renderer show the same under every name. -/
theorem served_render (rooted : Discovery.rootText options.root = .ok root)
    (founded : Build.foundation options.recipe disk source root options.extensions =
      .ok (discovery, base))
    (programmed : Build.programs options.recipe disk source discovery discovery.pages = .ok ones)
    (name : Text) (data : Data) (response : Response) :
    let sets := Build.pageSets options.recipe base ones
    ((serving options source (session.numbering sets).1).render disk (session.numbering sets).2
      name data response).answer =
        ((watching options source).render disk session name data response).answer := by
  intro sets
  have found := session.numbering_lookup sets name
  have compiled := compiled_watching options disk source rooted name
  rw [Build.oneSet, founded] at compiled
  rw [render_of_page (page_of_registry _ data)]
  by_cases isPage : name ∈ discovery.pages
  · obtain ⟨one, built, listed⟩ := Build.programs_lookup _ _ _ _ programmed isPage
    have known : sets.lookup name =
        some (TemplateSet.composed options.recipe (base ++ [(name, one)])) := by
      rw [Build.page_sets_lookup, listed, Option.map_some]
    simp only [Except.bind, if_pos isPage, built, Except.map] at compiled
    rw [render_of_page (page_of_set data compiled)]
    refine PageRender.render_answer ?_ ?_ ?_ ?_ ?_ response
    any_goals rfl
    · exact found.trans known
    · rintro number set place same left right
      cases right
      rw [Session.home_of_new _ _ (Nat.le_refl _)]
      exact Session.home_of_new _ _ (Session.numbering_known left).1
  · have unknown : sets.lookup name = none := by
      have absent : name ∉ ones.map Prod.fst := by
        rw [Build.programs_names _ _ _ _ programmed]
        exact isPage
      rw [Build.page_sets_lookup, Entries.lookup_absent absent, Option.map_none]
    simp only [Except.bind, if_neg isPage] at compiled
    rw [render_of_page (page_of_none data compiled)]
    refine PageRender.render_answer ?_ ?_ ?_ ?_ ?_ response
    any_goals rfl
    · exact found.trans unknown
    · rintro number set place same left right
      cases right

/-- Every debug page keeps a fault that keeps its build from an end. -/
theorem carries_of_fault (rooted : Discovery.rootText options.root = .ok root) {name : Text}
    {fault : Fault}
    (failed : Build.oneSet options.recipe disk source root options.extensions name =
      .error (.fault fault)) : (watching options source).Carries disk session name fault := by
  intro data
  have told := Build.one_set_faults _ _ _ _ _ name _ failed
  rw [← compiled_watching options disk source rooted] at failed
  exact ⟨_, _, page_of_fault data failed told, rfl⟩

theorem baseless_release (rooted : Discovery.rootText options.root = .ok root) {problem : Problem}
    (failed : Build.foundation options.recipe disk source root options.extensions =
      .error problem) :
    make (options.inMode .release) disk source session = .error problem := by
  rw [make_release _ _ _ _ rooted, Build.allSets, failed]
  rfl

/-- A debug page that can be built has its template. -/
theorem resolves_of_program (rooted : Discovery.rootText options.root = .ok root)
    (founded : Build.foundation options.recipe disk source root options.extensions =
      .ok (discovery, base)) {name : Text} (isPage : name ∈ discovery.pages)
    {one : Template.Program}
    (built : Build.program options.recipe disk source discovery name = .ok one) :
    (watching options source).Resolves disk session name := by
  intro data
  have compiled := compiled_watching options disk source rooted name
  rw [Build.oneSet, founded] at compiled
  simp only [Except.bind, if_pos isPage, built, Except.map] at compiled
  refine ⟨_, _, page_of_set data compiled, rfl, ?_⟩
  simp [PageRender.template?, PageRender.make, TemplateSet.get?, TemplateSet.composed]

/-- A release renderer ends with the first page that has no program. -/
theorem broken_release (rooted : Discovery.rootText options.root = .ok root)
    (founded : Build.foundation options.recipe disk source root options.extensions =
      .ok (discovery, base)) {problem : Problem}
    (failed : Build.programs options.recipe disk source discovery discovery.pages =
      .error problem) :
    make (options.inMode .release) disk source session = .error problem := by
  rw [make_release _ _ _ _ rooted, Build.allSets, founded]
  simp only [Except.bind, failed, Except.map]

end

/-- A page on a layout. -/
def soundSource : Source :=
  .ofTexts [
    ("templates/layouts/base.html", "<p>{% block body %}{% endblock %}</p>"),
    ("templates/index.html",
      "\x7b% extends 'layouts/base.html' %\x7d{% block body %}{{ n }}{% endblock %}") ]

/-- A page without a base, since the layout has a tag that is not finished. -/
def baselessSource : Source :=
  .ofTexts [("templates/layouts/base.html", "{% if %}"), ("templates/index.html", "{{ n }}")]

/-- A page that can be built next to one that cannot. -/
def brokenSource : Source :=
  .ofTexts [("templates/about.html", "{% if %}"), ("templates/index.html", "{{ n }}")]

end PageTemplates.Renderer
