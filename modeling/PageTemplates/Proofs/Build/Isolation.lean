import PageTemplates.Proofs.Build
import PageTemplates.Proofs.PageRender
import PageTemplates.Proofs.Path

/-!
Pages do not see one another. The set of a page is made of the layouts, the partials and the page
alone, so two sources that agree on these build the same set of it, whatever their other pages are.
Only the fault of a file that cannot be decoded tells the sources apart: it names the path of the file,
and sources may spell the paths of one name differently.
-/

namespace PageTemplates

namespace Discovery

/-- A template that two discoveries read from the same bytes. -/
def SameContent (disk other : Node) (source elsewhere : Source) (discovery found : Discovery)
    (name : Text) : Prop :=
  ∃ path place content, discovery.path? name = some path ∧ found.path? name = some place ∧
    source.read disk path = .ok content ∧ elsewhere.read other place = .ok content

section

variable (discovery found : Discovery) (names : List Text)

/-- Two problems that differ at most in how the path of one of some templates is spelled. -/
def SameProblem (problem another : Problem) : Prop :=
  problem = another ∨ ∃ name ∈ names, ∃ path place reason, discovery.path? name = some path ∧
    found.path? name = some place ∧ problem = Source.unreadable path reason ∧
    another = Source.unreadable place reason

/-- Two results of which both are the same value, or both the same problem up to a path. -/
inductive SameResult {Result : Type} : Except Problem Result → Except Problem Result → Prop where
  | ok (value : Result) : SameResult (.ok value) (.ok value)
  | error {problem another : Problem} (same : SameProblem discovery found names problem another) :
    SameResult (.error problem) (.error another)

end

namespace SameResult

variable {First Second : Type} {discovery found : Discovery} {names : List Text}

theorem bind {result other : Except Problem First} {next after : First → Except Problem Second}
    (first : SameResult discovery found names result other)
    (rest : ∀ value, SameResult discovery found names (next value) (after value)) :
    SameResult discovery found names (result.bind next) (other.bind after) := by
  cases first with
  | ok value => exact rest value
  | error same => exact .error same

theorem map {result other : Except Problem First} (function : First → Second)
    (first : SameResult discovery found names result other) :
    SameResult discovery found names (result.map function) (other.map function) := by
  cases first with
  | ok value => exact .ok (function value)
  | error same => exact .error same

theorem of_ok {value : First} {other : Except Problem First}
    (same : SameResult discovery found names (.ok value) other) : other = .ok value := by
  cases same
  rfl

theorem of_error {problem : Problem} {other : Except Problem First}
    (same : SameResult discovery found names (.error problem) other) :
    ∃ another, other = .error another ∧ SameProblem discovery found names problem another := by
  cases same with
  | error same => exact ⟨_, rfl, same⟩

/-- Results are the same altogether where paths are spelled alike. -/
theorem equal {result other : Except Problem First}
    (same : SameResult discovery found names result other)
    (alike : ∀ name ∈ names, discovery.path? name = found.path? name) : result = other := by
  cases same with
  | ok value => rfl
  | error same =>
      rcases same with rfl | ⟨name, member, path, place, reason, located, placed, rfl, rfl⟩
      · rfl
      · rw [alike name member, placed] at located
        cases located
        rfl

end SameResult

/-- A path has the same code points as the name that it gives, apart from the root and marks. -/
theorem mem_of_name {root path name : Text} {extensions : List Text}
    (named : nameOf? root extensions path = some name) {point : CodePoint}
    (plain : ¬Path.IsMark point) : point ∈ path ↔ point ∈ opening root ∨ point ∈ name := by
  rw [nameOf?] at named
  split at named
  · rw [← Path.mem_template_name plain, Text.drop_opening_some.mp named, List.mem_append]
  · cases named

end Discovery

open Discovery

theorem TemplateSet.fits_code_of_name {root path place name : Text} {extensions : List Text}
    (named : nameOf? root extensions path = some name)
    (named' : nameOf? root extensions place = some name) :
    fitsCode (some path) = fitsCode (some place) := by
  have plain : ¬Path.IsMark (.scalar '\x00') := by
    rintro (same | same) <;> exact absurd same (by decide)
  have same := (mem_of_name named plain).trans (mem_of_name named' plain).symm
  simp only [fitsCode, Option.getD_some]
  congr 1
  rw [Bool.eq_iff_iff, List.any_eq_true, List.any_eq_true]
  simpa using same

namespace Build

section

variable (recipe : Recipe) {disk other : Node} {source elsewhere : Source}
  {root : Text} {extensions : List Text} {discovery found : Discovery}

/-- The path of a template gives it its name. -/
theorem named_of_path (here : ofSource disk source root extensions = .ok discovery)
    {name path : Text} (located : discovery.path? name = some path) :
    nameOf? root extensions path = some name := by
  obtain ⟨paths, _, sorted⟩ := of_source_ok here
  rw [path_of_name sorted] at located
  have gives := List.find?_some located
  exact of_decide_eq_true gives

/-- A template with the same content has the same program, or the same problem up to its path. -/
theorem program_same (here : ofSource disk source root extensions = .ok discovery)
    (there : ofSource other elsewhere root extensions = .ok found) {names : List Text}
    {name : Text} (member : name ∈ names)
    (same : SameContent disk other source elsewhere discovery found name) :
    SameResult discovery found names (program recipe disk source discovery name)
      (program recipe other elsewhere found name) := by
  obtain ⟨path, place, content, located, placed, read, reread⟩ := same
  have fits := TemplateSet.fits_code_of_name (named_of_path here located)
    (named_of_path there placed)
  rw [program_of_path _ _ _ _ located, program_of_path _ _ _ _ placed]
  simp only [Source.readText, read, reread, bind, Except.bind]
  cases Text.decode content with
  | error fault =>
      exact .error (.inr ⟨name, member, path, place, _, located, placed, rfl, rfl⟩)
  | ok text =>
      have compiled : TemplateSet.compile recipe name text (some path) =
          TemplateSet.compile recipe name text (some place) := by
        simp only [TemplateSet.compile, fits]
      simp only [compiled]
      cases TemplateSet.compile recipe name text (some place) with
      | error problem => exact .error (.inl rfl)
      | ok one => exact .ok one

theorem programs_same (here : ofSource disk source root extensions = .ok discovery)
    (there : ofSource other elsewhere root extensions = .ok found) {all names : List Text}
    (within : ∀ name ∈ names, name ∈ all)
    (same : ∀ name ∈ all, SameContent disk other source elsewhere discovery found name) :
    SameResult discovery found all (programs recipe disk source discovery names)
      (programs recipe other elsewhere found names) := by
  induction names with
  | nil => exact .ok []
  | cons name rest ih =>
      have member := within name List.mem_cons_self
      have first := program_same recipe here there member (same name member)
      rw [programs_cons, programs_cons]
      refine first.bind fun one => ?_
      exact (ih fun later inRest => within later (List.mem_cons_of_mem name inRest)).map _

/-- Sources with the same base and the same page build the same set of the page. -/
theorem one_set_same (here : ofSource disk source root extensions = .ok discovery)
    (there : ofSource other elsewhere root extensions = .ok found)
    (bases : discovery.base = found.base) {name : Text} (isPage : name ∈ discovery.pages)
    (isToo : name ∈ found.pages)
    (same : ∀ template ∈ name :: discovery.base,
      SameContent disk other source elsewhere discovery found template) :
    SameResult discovery found (name :: discovery.base)
      (oneSet recipe disk source root extensions name)
      (oneSet recipe other elsewhere root extensions name) := by
  have asked : requested found name = requested discovery name := by
    rw [requested_of_page isPage, requested_of_page isToo, bases]
  have within : ∀ template ∈ requested discovery name, template ∈ name :: discovery.base := by
    rw [requested_of_page isPage]
    simp [or_comm]
  have programmed := programs_same recipe here there within same
  rw [one_set_requested here, one_set_requested there, asked]
  simp only [if_pos isPage, if_pos isToo]
  exact programmed.map _

/-- The names of the set of a page are those of the base and its own. -/
theorem one_set_names (here : ofSource disk source root extensions = .ok discovery)
    {name : Text} {result : Option TemplateSet} (isPage : name ∈ discovery.pages)
    (built : oneSet recipe disk source root extensions name = .ok result) :
    ∃ set, result = some set ∧ set.templates.map Prod.fst = discovery.base ++ [name] := by
  rw [one_set_requested here, requested_of_page isPage] at built
  obtain ⟨made, programmed, same⟩ := Results.map_ok.mp built
  rw [if_pos isPage] at same
  refine ⟨_, same.symm, ?_⟩
  rw [TemplateSet.composed_names, programs_names recipe disk source discovery programmed]

/-- Two sets of one page that nobody can tell apart: they have the names of the base and of the page,
so that neither sees another page, and whatever the payload they render the same. -/
structure PageSetsAgree (discovery : Discovery) (name : Text) (set twin : TemplateSet) : Prop where
  names : set.names = Text.sorted (discovery.base ++ [name])
  sameNames : twin.names = set.names
  seen : ∀ template, set.contains template = true ↔ template ∈ discovery.base ∨ template = name
  renders : ∀ payload number place (session elsewhere : Session) response,
    session.home number = elsewhere.home place →
    ((PageRender.mk name payload (some (number, set)) none false).render session response).2.answer =
      ((PageRender.mk name payload (some (place, twin)) none false).render elsewhere
        response).2.answer

theorem page_sets_agree {name : Text} {set : TemplateSet}
    (names : set.templates.map Prod.fst = discovery.base ++ [name]) :
    PageSetsAgree discovery name set set where
  names := by rw [TemplateSet.names, names]
  sameNames := rfl
  seen := by
    intro template
    rw [TemplateSet.contains, TemplateSet.get?, Entries.lookup_is_some, names]
    simp
  renders := by
    intro payload number place session elsewhere response homes
    refine PageRender.render_answer ?_ ?_ ?_ ?_ ?_ response
    any_goals rfl
    rintro _ _ _ _ left right
    cases left
    cases right
    exact homes

end

/-- A recipe without functions or a policy. -/
def plainRecipe : Recipe := .make .empty none true false [".html"]

/-- Two ways to spell the path of one layout. -/
def straight : String := "templates/layouts/base.html"

@[inherit_doc straight]
def bent : String := "templates\\layouts\\base.html"

/-- A layout at a path, a page, and another page. -/
def crowd (layout : String) (frame about : Bytes) : Source :=
  .mapping [(layout, frame), ("templates/about.html", about), ("templates/index.html", [0x62])]

/-- What is found among them. -/
def crowdDiscovery (layout : Text) : Discovery where
  layouts := [Text.ofString "layouts/base.html"]
  partials := []
  pages := [Text.ofString "about.html", Text.ofString "index.html"]
  paths := [("about.html", "templates/about.html"), ("index.html", "templates/index.html"),
    ("layouts/base.html", layout)]

set_option maxRecDepth 10000 in
theorem crowd_found (frame about : Bytes) :
    ofSource .empty (crowd straight frame about) "templates" [".html"] =
      .ok (crowdDiscovery straight) ∧
    ofSource .empty (crowd bent frame about) "templates" [".html"] = .ok (crowdDiscovery bent) :=
  ⟨rfl, rfl⟩

theorem crowd_layout (layout : String) (frame about : Bytes) :
    (crowd layout frame about).read .empty layout = .ok frame := by
  simp only [crowd, Source.read, Entries.lookup_first, if_true]

theorem crowd_index {layout : String} (apart : Text.ofString "templates/index.html" ≠ layout)
    (frame about : Bytes) :
    (crowd layout frame about).read .empty "templates/index.html" = .ok [0x62] := by
  have other : Text.ofString "templates/index.html" ≠ "templates/about.html" := by decide
  simp only [crowd, Source.read, Entries.lookup_first, if_neg apart, if_neg other, if_true]

theorem crowd_same (frame about others : Bytes) :
    ∀ template ∈ Text.ofString "index.html" :: (crowdDiscovery straight).base,
      SameContent .empty .empty (crowd straight frame about) (crowd bent frame others)
        (crowdDiscovery straight) (crowdDiscovery bent) template := by
  intro template member
  rcases List.mem_cons.mp member with page | inBase
  · rw [page]
    refine ⟨Text.ofString "templates/index.html", Text.ofString "templates/index.html", [0x62],
      ?_, ?_, ?_, ?_⟩
    · exact rfl
    · exact rfl
    · exact crowd_index (by decide) frame about
    · exact crowd_index (by decide) frame others
  · have layout : template = Text.ofString "layouts/base.html" := List.mem_singleton.mp inBase
    rw [layout]
    refine ⟨Text.ofString straight, Text.ofString bent, frame, ?_, ?_, ?_, ?_⟩
    · exact rfl
    · exact rfl
    · exact crowd_layout straight frame about
    · exact crowd_layout bent frame others

theorem crowd_base (layout place : Text) :
    (crowdDiscovery layout).layouts = (crowdDiscovery place).layouts ∧
      (crowdDiscovery layout).partials = (crowdDiscovery place).partials := by
  simp only [crowdDiscovery, and_self]

theorem crowd_page (layout : Text) :
    Text.ofString "index.html" ∈ (crowdDiscovery layout).pages :=
  List.mem_cons_of_mem _ List.mem_cons_self

end Build

end PageTemplates
