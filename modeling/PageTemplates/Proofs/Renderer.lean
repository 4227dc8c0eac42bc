import PageTemplates.Proofs.Build.Wrong
import PageTemplates.Proofs.PageRender
import PageTemplates.Renderer

/-!
What renderers of either mode give for a name. A release renderer looks the name up among the sets it
was made with; a debug renderer builds the set anew. Both come down to the programs of templates, so
that what one mode gives can be told from what the other does.
-/

namespace PageTemplates

namespace RendererOptions

/-- Options without functions or a policy. -/
def plain : RendererOptions where
  table := .empty
  policy := none
  mode := .release
  root := .text "templates"
  extensions := [".html"]
  autoescape := true
  strict := false

/-- The same options in another mode. -/
def inMode (options : RendererOptions) (mode : Mode) : RendererOptions :=
  { options with mode := mode }

/-- The recipe of all sets that are made with options. -/
def recipe (options : RendererOptions) : Recipe :=
  Recipe.make options.table options.policy options.autoescape options.strict options.extensions

end RendererOptions

namespace Session

theorem numbering_counted (base : Nat) (sets : List (Text × TemplateSet)) (name : Text)
    (start : Nat) :
    let numbered := (sets.zipIdx start).map fun ((name, set), place) => (name, base + place, set)
    (numbered.lookup name).map Prod.snd = sets.lookup name ∧
      ∀ number set, numbered.lookup name = some (number, set) →
        ∃ place, number = base + start + place ∧ sets[place]? = some (name, set) := by
  induction sets generalizing start with
  | nil => exact ⟨rfl, by simp⟩
  | cons entry rest ih =>
      obtain ⟨first, set⟩ := entry
      simp only [List.zipIdx_cons, List.map_cons, Entries.lookup_first]
      by_cases here : name = first
      · rw [if_pos here, if_pos here]
        refine ⟨rfl, ?_⟩
        rintro number same found
        cases found
        exact ⟨0, rfl, by rw [here, List.getElem?_cons_zero]⟩
      · rw [if_neg here, if_neg here]
        refine ⟨(ih (start + 1)).1, ?_⟩
        intro number same found
        obtain ⟨place, counted, inRest⟩ := (ih (start + 1)).2 number same found
        exact ⟨place + 1, by omega, by rw [List.getElem?_cons_succ, inRest]⟩

/-- A set is found under its name. -/
theorem numbering_lookup (session : Session) (sets : List (Text × TemplateSet)) (name : Text) :
    ((session.numbering sets).1.lookup name).map Prod.snd = sets.lookup name :=
  (numbering_counted session.sets sets name 0).1

/-- The number of a set is its place among those that are made, counted from the sets before. -/
theorem numbering_place {session : Session} {sets : List (Text × TemplateSet)} {name : Text}
    {number : Nat} {set : TemplateSet}
    (found : (session.numbering sets).1.lookup name = some (number, set)) :
    ∃ place, number = session.sets + place ∧ sets[place]? = some (name, set) :=
  (numbering_counted session.sets sets name 0).2 number set found

theorem numbering_known {session : Session} {sets : List (Text × TemplateSet)} {name : Text}
    {number : Nat} {set : TemplateSet}
    (found : (session.numbering sets).1.lookup name = some (number, set)) :
    session.sets ≤ number ∧ number < (session.numbering sets).2.sets := by
  obtain ⟨place, counted, inside⟩ := numbering_place found
  have bound := (List.getElem?_eq_some_iff.mp inside).1
  simp only [numbering, opening, Session.sets, List.length_append, List.length_replicate] at counted ⊢
  omega

/-- Numbered in another session, the same sets are found under the same names. -/
theorem numbering_again {session : Session} {sets : List (Text × TemplateSet)} {name : Text}
    {number : Nat} {set : TemplateSet}
    (found : (session.numbering sets).1.lookup name = some (number, set)) (other : Session) :
    ∃ place, (other.numbering sets).1.lookup name = some (place, set) := by
  have listed := (numbering_lookup other sets name).trans (numbering_lookup session sets name).symm
  rw [found] at listed
  obtain ⟨⟨place, twin⟩, there, twins⟩ := Option.map_eq_some_iff.mp listed
  cases twins
  exact ⟨place, there⟩

/-- Different names lead to sets with different numbers. -/
theorem numbering_apart {session : Session} {sets : List (Text × TemplateSet)} {name other : Text}
    {number place : Nat} {set twin : TemplateSet} (differ : name ≠ other)
    (found : (session.numbering sets).1.lookup name = some (number, set))
    (too : (session.numbering sets).1.lookup other = some (place, twin)) : number ≠ place := by
  intro same
  obtain ⟨first, counted, here⟩ := numbering_place found
  obtain ⟨second, recounted, there⟩ := numbering_place too
  have equal : first = second := by omega
  rw [equal, there] at here
  cases here
  exact differ rfl

theorem numbering_names (session : Session) (sets : List (Text × TemplateSet)) :
    (session.numbering sets).1.map Prod.fst = sets.map Prod.fst := by
  simp only [numbering, List.map_map]
  rw [← List.zipIdx_map_fst 0 sets, List.map_map]
  simp only [List.zipIdx_map_fst]
  rfl

end Session

namespace Renderer

/-- The renderer that options make in debug mode. -/
def watching (options : RendererOptions) (source : Source) : Renderer :=
  ⟨source, options.recipe, .debug, options.root, options.extensions, none⟩

/-- The renderer that options make in release mode, once it has its sets. -/
def serving (options : RendererOptions) (source : Source) (registry : Registry) : Renderer :=
  ⟨source, options.recipe, .release, options.root, options.extensions, some registry⟩

section

variable (options : RendererOptions) (disk : Node) (source : Source) (session : Session)

/-- In debug mode a renderer is made of any source. -/
theorem make_debug :
    make (options.inMode .debug) disk source session = .ok (watching options source, session) :=
  rfl

theorem make_release_outcome :
    make (options.inMode .release) disk source session = (do
      let root ← (Discovery.rootText options.root).mapError .failure
      let sets ← (Build.all options.recipe disk source root options.extensions).outcome
      return (serving options source (session.numbering sets).1, (session.numbering sets).2)) :=
  rfl

theorem make_release_unrooted {failure : Failure}
    (unrooted : Discovery.rootText options.root = .error failure) :
    make (options.inMode .release) disk source session = .error (.failure failure) := by
  rw [make_release_outcome, unrooted]
  rfl

/-- In release mode a renderer is made of the sets of all pages, if they can be built. -/
theorem make_release {root : Text} (rooted : Discovery.rootText options.root = .ok root) :
    make (options.inMode .release) disk source session =
      (Build.allSets options.recipe disk source root options.extensions).map fun sets =>
        (serving options source (session.numbering sets).1, (session.numbering sets).2) := by
  rw [← Build.all_outcome, make_release_outcome, rooted]
  simp only [Except.mapError, bind, Except.bind]
  cases (Build.all options.recipe disk source root options.extensions).outcome <;> rfl

/-- What a renderer in debug mode compiles is put together from programs. -/
theorem compiled_watching {root : Text} (rooted : Discovery.rootText options.root = .ok root)
    (name : Text) :
    (watching options source).compiled disk name =
      Build.oneSet options.recipe disk source root options.extensions name := by
  rw [← Build.one_outcome, compiled]
  simp only [watching, rooted]
  rfl

end

section

variable {options : RendererOptions} {disk : Node} {source : Source} {session : Session}
  {name : Text}

theorem page_of_set {set : TemplateSet} (data : Data)
    (built : (watching options source).compiled disk name = .ok (some set)) :
    (watching options source).page disk session name data =
      (.ok (.make name data (some (session.sets, set)) none), session.opening 1) := by
  have unlisted : (watching options source).registry = none := rfl
  simp only [page, unlisted, built]
  simp [Session.numbering]

theorem page_of_none (data : Data)
    (built : (watching options source).compiled disk name = .ok none) :
    (watching options source).page disk session name data =
      (.ok (.make name data none none), session) := by
  have unlisted : (watching options source).registry = none := rfl
  simp only [page, unlisted, built]

/-- The line that a debug renderer logs when it keeps a fault. -/
def deferral (name : Text) (fault : Fault) : LogLine :=
  ⟨.warning, "Deferred template fault for '" ++ name ++ "': " ++ fault.message⟩

theorem page_of_fault {fault : Fault} (data : Data)
    (failed : (watching options source).compiled disk name = .error (.fault fault))
    (told : fault.kind.isTemplate = true) :
    (watching options source).page disk session name data =
      (.ok (.make name data none (some fault)), session.logging [deferral name fault]) := by
  have unlisted : (watching options source).registry = none := rfl
  simp only [page, unlisted, failed, told, deferral, if_true]

theorem page_of_failure {failure : Failure} (data : Data)
    (failed : (watching options source).compiled disk name = .error (.failure failure)) :
    (watching options source).page disk session name data =
      (.error (.failure failure), session) := by
  have unlisted : (watching options source).registry = none := rfl
  simp only [page, unlisted, failed]

theorem render_of_page {renderer : Renderer} {data : Data} {page : PageRender} {after : Session}
    (asked : renderer.page disk session name data = (.ok page, after)) (response : Response) :
    renderer.render disk session name data response = (page.render after response).2 := by
  rw [render, asked]

theorem page_of_registry (registry : Registry) (data : Data) :
    (serving options source registry).page disk session name data =
      (.ok (.make name data (registry.lookup name) none), session) := rfl

end

end Renderer

end PageTemplates
