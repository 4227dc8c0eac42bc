import PageTemplates.Proofs.Build
import PageTemplates.Proofs.Renderer.Requests
import PageTemplates.Proofs.Sandbox.Renders

/-!
Pages in sound settings. A renderer that was made has sets in which templates run soundly, whatever is
asked of it; a page that was asked for can be rendered, and once it was rendered it can be rendered again.
-/

namespace PageTemplates

open Template

/-- The problem of a page whose template indents a list. -/
def PageRender.listIndented (name : Text) : Problem :=
  .fault (.execution (.text name) (.text "'list' object has no attribute 'splitlines'"))

section Endings

/-- Writing ends where the pieces do, or with a piece that cannot be written. -/
theorem PageRender.write_all_world (name : Text) (ending : Response → Ending)
    (emissions : List Emission) (response : Response) :
    (∃ last, writeAll name ending emissions response = ending last) ∨
      ∃ emission ∈ emissions, (writeAll name ending emissions response).world = emission.world := by
  induction emissions generalizing response with
  | nil => exact .inl ⟨response, rfl⟩
  | cons emission rest ih =>
    unfold writeAll
    split
    · exact .inr ⟨emission, List.mem_cons_self, rfl⟩
    split
    · exact .inr ⟨emission, List.mem_cons_self, rfl⟩
    split
    · exact .inr ⟨emission, List.mem_cons_self, rfl⟩
    rename_i piece _ _
    obtain ended | ⟨other, inside, same⟩ := ih (response.adding piece)
    · exact .inl ended
    · exact .inr ⟨other, List.mem_cons_of_mem _ inside, same⟩

variable [Regime] {origin : World}

/-- What a render leaves of the world that it started in. -/
def PageRender.Ending.Leaves (origin : World) (name : Text) (ending : Ending) : Prop :=
  @World.Sound _ (Watch.render origin) ending.world ∨
    @World.Broken _ (Watch.render origin) (.missingAttribute "list" "splitlines") ending.world ∧
      ending.problem = some (listIndented name)

theorem Trace.Ended.leaves {trace : Trace} (ended : trace.Ended origin) (name : Text)
    (response : Response) :
    (PageRender.writeAll name (PageRender.ended name trace) trace.emissions response).Leaves origin
      name := by
  obtain ⟨last, same⟩ | ⟨emission, inside, same⟩ := PageRender.write_all_world name
    (PageRender.ended name trace) trace.emissions response
  · rw [same]
    obtain sound | ⟨failure, fails, broken⟩ := ended.world
    · refine .inl ?_
      unfold PageRender.ended
      split
      · exact sound
      · exact sound
    · refine .inr ?_
      have told : failure = .missingAttribute "list" "splitlines" := broken.1
      subst told
      unfold PageRender.ended
      rw [fails]
      exact ⟨broken, rfl⟩
  · refine .inl ?_
    rw [same]
    exact ended.emissions emission inside

end Endings

/-- A render ends before its template runs, and leaves the payload and the session, or it leaves what its
template leaves. -/
theorem PageRender.render_cases (page : PageRender) (session : Session) (response : Response) :
    (∃ rendered after problem, page.render session response = (rendered, ⟨after, session, some problem⟩) ∧
      rendered.name = page.name ∧ rendered.data = page.data ∧ rendered.found = page.found) ∨
      ∃ number set entry announced, page.template? = some (number, set, entry) ∧
        let ending := page.ending set entry (session.home number) announced
        page.render session response =
          ({ page with
              announced := true
              data := .held (page.data.placed (session.home number)).1 ending.world },
            ⟨ending.response, (session.leaving number ending.world).logging ending.lines,
              ending.problem⟩) := by
  cases written : response.writeContentType with
  | error failure =>
    refine .inl ⟨page, response, .failure failure, ?_, rfl, rfl, rfl⟩
    simp only [render, announce, written, bind, Except.bind]
  | ok announced =>
    have body : page.render session response =
        ({ page with announced := true } : PageRender).writeBody session announced := by
      simp only [render, announce, written, bind, Except.bind, pure, Except.pure]
    have template : ({ page with announced := true } : PageRender).template? = page.template? := rfl
    rw [body, writeBody, template]
    cases page.fault with
    | some fault => exact .inl ⟨_, _, _, rfl, rfl, rfl, rfl⟩
    | none =>
      cases found : page.template? with
      | none => exact .inl ⟨_, _, _, rfl, rfl, rfl, rfl⟩
      | some triple =>
        obtain ⟨number, set, entry⟩ := triple
        exact .inr ⟨number, set, entry, announced, rfl, rfl⟩

section Running

variable [Regime] {home : World}

/-- Whether a template can run for a payload, beside what its set has kept. -/
inductive Payload.CanRun (home : World) : Payload → Prop where
  | given (data : Data) : CanRun home (.given data)
  | held {value : Value} {world : World} (fine : harmless value) (clean : world.IsClean)
    (kept : home.modules.isEmpty = false →
      world.modules.isEmpty = false ∧ home = { world with ticks := home.ticks }) :
    CanRun home (.held value world)

omit [Regime] in
/-- A payload that was held before is placed as it is, but for the number of calls that were counted. -/
theorem Payload.placed_held {value : Value} {world : World}
    (kept : home.modules.isEmpty = false →
      world.modules.isEmpty = false ∧ home = { world with ticks := home.ticks }) :
    (Payload.held value world).placed home = (value, { world with ticks := home.ticks }) := by
  unfold Payload.placed
  cases empty : home.modules.isEmpty with
  | true => rfl
  | false =>
    obtain ⟨full, same⟩ := kept empty
    simp only [full, Bool.false_eq_true, if_false]
    exact congrArg (Prod.mk value) same

theorem Payload.CanRun.placed {setting : Setting} (sound : setting.Sound) (clean : home.IsClean)
    {payload : Payload} (runs : payload.CanRun home) :
    harmless (payload.placed home).1 ∧ (payload.placed home).2.IsClean := by
  cases runs with
  | given data => exact taken_clean sound data clean
  | held fine worldClean kept =>
    rw [Payload.placed_held kept]
    exact ⟨fine, worldClean.ticking _⟩

/-- How the template of a page ends. -/
theorem PageRender.trace_ended {page : PageRender} {set : TemplateSet} {entry : Entry}
    (sound : set.setting.Sound) (entryFine : harmless entry) (clean : home.IsClean)
    (runs : page.data.CanRun home) :
    (set.trace (page.data.placed home).2 page.name entry (page.data.placed home).1).Ended
      (page.data.placed home).2 := by
  obtain ⟨fine, worldClean⟩ := runs.placed sound clean
  exact set.trace_ended sound worldClean entryFine fine

theorem PageRender.ending_clean {page : PageRender} {set : TemplateSet} {entry : Entry}
    (sound : set.setting.Sound) (entryFine : harmless entry) (clean : home.IsClean)
    (runs : page.data.CanRun home) (response : Response) :
    (page.ending set entry home response).world.IsClean := by
  obtain left | ⟨broken, -⟩ :=
    (trace_ended sound entryFine clean runs).leaves page.name response
  · exact @World.Sound.clean _ (Watch.render _) _ left
  · exact @World.Broken.clean _ (Watch.render _) _ _ broken

/-- A page whose set is of some kind, in a session in which its template can run. -/
def PageRender.CanRun (good : TemplateSet → Prop) (page : PageRender) (session : Session) : Prop :=
  ∀ number set, page.found = some (number, set) →
    good set ∧ number < session.sets ∧ (session.home number).IsClean ∧
      page.data.CanRun (session.home number)

variable {good : TemplateSet → Prop}

/-- The template of a page that can run is one of its set. -/
theorem PageRender.CanRun.template {page : PageRender} {session : Session} {number : Nat}
    {set : TemplateSet} {entry : Entry} (runs : page.CanRun good session)
    (sound : ∀ set, good set → set.setting.Sound)
    (found : page.template? = some (number, set, entry)) :
    page.found = some (number, set) ∧ set.get? page.name = some entry ∧ good set ∧ harmless entry ∧
      number < session.sets ∧ (session.home number).IsClean ∧ page.data.CanRun (session.home number) := by
  obtain ⟨⟨_, _⟩, owner, there⟩ := Option.bind_eq_some_iff.1 found
  obtain ⟨_, listed, triple⟩ := Option.map_eq_some_iff.1 there
  cases triple
  obtain ⟨kind, known, clean, payload⟩ := runs number set owner
  exact ⟨owner, listed, kind, harmless_lookup (sound set kind).templates page.name entry listed, known,
    clean, payload⟩

/-- Once it was rendered, a page can be rendered again. -/
theorem PageRender.CanRun.render {page : PageRender} {session : Session} (runs : page.CanRun good session)
    (sound : ∀ set, good set → set.setting.Sound) (response : Response) :
    (page.render session response).1.CanRun good (page.render session response).2.session ∧
      (page.render session response).1.name = page.name ∧
      (page.render session response).1.found = page.found := by
  obtain ⟨rendered, after, problem, same, name, payload, found⟩ |
    ⟨number, set, entry, announced, found, same⟩ := page.render_cases session response
  · rw [same]
    refine ⟨fun number set owner => ?_, name, found⟩
    rw [payload]
    exact runs number set (found ▸ owner)
  · rw [same]
    refine ⟨fun other twin again => ?_, rfl, rfl⟩
    obtain ⟨owner, -, kind, entryFine, known, homeClean, payload⟩ := runs.template sound found
    have fine := (payload.placed (sound set kind) homeClean).1
    have clean := ending_clean (sound set kind) entryFine homeClean payload announced
    cases owner.symm.trans again
    have left := Session.home_left known (page.ending set entry (session.home number) announced).world
    refine ⟨kind, Nat.lt_of_lt_of_eq known List.length_set.symm, ?_, ?_⟩
    · exact left ▸ clean.kept.ticking _
    · refine .held fine clean fun full => ?_
      have same : ((session.leaving number (page.ending set entry (session.home number) announced).world).logging
          (page.ending set entry (session.home number) announced).lines).home number = _ := left
      rw [same] at full ⊢
      unfold World.kept at full ⊢
      split
      · rename_i empty
        rw [if_pos empty] at full
        cases full
      · rename_i modules
        exact ⟨Bool.eq_false_of_not_eq_true modules, rfl⟩

theorem PageRender.CanRun.announced {page : PageRender} {session : Session}
    (runs : page.CanRun good session) {announced : PageRender} {response after : Response}
    (told : page.announce response = .ok (announced, after)) :
    announced.CanRun good session ∧ announced.name = page.name ∧ announced.data = page.data := by
  unfold PageRender.announce at told
  cases written : response.writeContentType with
  | error failure =>
    rw [written] at told
    cases told
  | ok response =>
    rw [written] at told
    cases told
    exact ⟨runs, rfl, rfl⟩

end Running

namespace Renderer

section Guarded

variable [Regime] {renderer : Renderer} {disk : Node} {session : Session} {name : Text}
  {good : TemplateSet → Prop}

omit [Regime] in
theorem page_listed {registry : Registry} (made : renderer.registry = some registry) (disk : Node)
    (session : Session) (name : Text) (data : Data) :
    renderer.page disk session name data =
      (.ok (.make name data (registry.lookup name) none), session) := by
  unfold Renderer.page
  rw [made]

/-- A renderer whose set for a page is of some kind, in a session in which it can serve that page. -/
structure IsGuarded (good : TemplateSet → Prop) (renderer : Renderer) (disk : Node) (name : Text)
    (session : Session) : Prop where
  listed : ∀ registry, renderer.registry = some registry →
    ∀ number set, registry.lookup name = some (number, set) →
      good set ∧ number < session.sets ∧ (session.home number).IsClean ∧
        ∀ other place twin, other ≠ name → registry.lookup other = some (place, twin) →
          number ≠ place
  compiled : renderer.registry = none →
    ∀ set, renderer.compiled disk name = .ok (some set) → good set

/-- The template of a page that is asked for can run. -/
theorem IsGuarded.page (guarded : renderer.IsGuarded good disk name session) (data : Data)
    {page : PageRender} {after : Session}
    (asked : renderer.page disk session name data = (.ok page, after)) :
    page.name = name ∧ page.data = .given data ∧ page.CanRun good after := by
  unfold Renderer.page at asked
  split at asked
  · rename_i registry made
    cases asked
    refine ⟨rfl, rfl, fun number set found => ?_⟩
    obtain ⟨kind, known, clean, -⟩ := guarded.listed registry made number set found
    exact ⟨kind, known, clean, .given data⟩
  · rename_i unlisted
    split at asked
    · cases asked
      exact ⟨rfl, rfl, fun _ _ absent => (by cases absent)⟩
    · rename_i set built
      cases asked
      refine ⟨rfl, rfl, fun number twin found => ?_⟩
      have same : (session.sets, set) = (number, twin) := by
        simpa [PageRender.make, Session.numbering] using found
      cases same
      have known : session.sets < (session.opening 1).sets := by
        simp [Session.opening, Session.sets]
      refine ⟨guarded.compiled unlisted set built, known, ?_, .given data⟩
      exact (Session.home_of_new session 1 (Nat.le_refl _)) ▸ World.empty_clean.ticking _
    · split at asked
      · cases asked
        exact ⟨rfl, rfl, fun _ _ absent => (by cases absent)⟩
      · cases asked
    · cases asked

/-- Serving a request, for this page or for another one, leaves a renderer guarded. -/
theorem IsGuarded.serve (guarded : renderer.IsGuarded good disk name session)
    (sound : ∀ set, good set → set.setting.Sound) (request : Request) :
    renderer.IsGuarded good disk name (renderer.serve disk session request).session := by
  refine ⟨fun registry made number set found => ?_, guarded.compiled⟩
  obtain ⟨kind, known, clean, apart⟩ := guarded.listed registry made number set found
  have asked := page_listed made disk session request.name request.data
  have after : (renderer.serve disk session request).session =
      ((PageRender.make request.name request.data (registry.lookup request.name) none).render session
        request.response).2.session := by
    rw [Renderer.serve, Renderer.render, asked]
  have next := found ▸ page_listed made disk session name request.data
  rw [after]
  refine ⟨kind, Nat.lt_of_lt_of_eq known (PageRender.render_sets _ _ _).symm, ?_, apart⟩
  by_cases same : request.name = name
  · rw [same, found]
    obtain ⟨-, -, runs⟩ := guarded.page request.data next
    obtain ⟨again, -, kept⟩ := runs.render sound request.response
    exact (again number set (kept.trans rfl)).2.2.1
  · rw [PageRender.render_other_home _ _ _ fun place twin listed =>
      apart request.name place twin same listed]
    exact clean.ticking _

theorem IsGuarded.serve_all (guarded : renderer.IsGuarded good disk name session)
    (sound : ∀ set, good set → set.setting.Sound) (requests : List Request) :
    renderer.IsGuarded good disk name (renderer.serveAll disk session requests) := by
  induction requests generalizing session with
  | nil => exact guarded
  | cons request rest ih => exact ih (guarded.serve sound request)

end Guarded

end Renderer

/-- Whether the templates for a page that renderers with some options find, and that compile, are
careful. -/
def RendererOptions.areCareful (options : RendererOptions) (disk : Node) (source : Source)
    (name : Text) : Bool :=
  (Discovery.rootText options.root).toOption.all fun root =>
    (Discovery.ofSource disk source root options.extensions).toOption.all fun discovery =>
      (Build.requested discovery name).all fun template =>
        (Build.program options.recipe disk source discovery template).toOption.all Program.isCareful

theorem RendererOptions.careful_program {options : RendererOptions} {disk : Node} {source : Source}
    {name template root : Text} {discovery : Discovery} {program : Program}
    (careful : options.areCareful disk source name = true)
    (rooted : Discovery.rootText options.root = .ok root)
    (found : Discovery.ofSource disk source root options.extensions = .ok discovery)
    (asked : template ∈ Build.requested discovery name)
    (compiled : Build.program options.recipe disk source discovery template = .ok program) :
    program.isCareful = true := by
  unfold areCareful at careful
  rw [rooted, Except.toOption, Option.all_some, found, Except.toOption, Option.all_some] at careful
  have each := List.all_eq_true.1 careful template asked
  rw [compiled] at each
  exact each

section Made

variable [Regime]

theorem Recipe.with_table_harmless (table : FunctionTable) (guard : Guard) :
    harmless (withTable table (commonGlobals guard)) := by
  have functions : harmless table.globals :=
    (harmless_map _ _).2 fun _ _ => ⟨(harmless_inerts _).2 trivial, harmless_plain rfl⟩
  have plain : ((commonGlobals guard).all fun entry => entry.2.isPlain) = true := by
    cases guard <;> rfl
  refine Run.harmless_putAll functions fun entry inside => ?_
  exact ⟨(harmless_inerts _).2 trivial, harmless_plain (List.all_eq_true.1 plain entry inside)⟩

/-- What every template of a recipe knows is harmless. -/
theorem Recipe.globals_harmless (recipe : Recipe) : harmless recipe.environment.globals := by
  unfold Recipe.environment
  split
  · exact with_table_harmless recipe.table .open
  · exact fun entry inside => with_table_harmless recipe.table _ entry (List.mem_of_mem_filter inside)

theorem TemplateSet.composed_sound {recipe : Recipe} {made : List (Text × Program)}
    (environment : recipe.environment = Regime.environment)
    (gentle : ∀ function ∈ recipe.table.functions, function.IsGentle)
    (careful : Regime.preserving → ∀ entry ∈ made, entry.2.isCareful = true) :
    (composed recipe made).setting.Sound := by
  have templates : harmless (composed recipe made).templates :=
    (harmless_map _ _).2 fun entry inside => ⟨(harmless_inerts _).2 trivial, fun frozen =>
      careful frozen entry inside⟩
  unfold TemplateSet.setting
  rw [show (composed recipe made).recipe.environment = Regime.environment from environment]
  exact Setting.empowered_sound gentle (environment ▸ recipe.globals_harmless) templates

namespace Renderer

variable {options : RendererOptions} {disk : Node} {source : Source} {start : Session} {name : Text}

/-- The set of a page is sound if its templates are careful and all functions are gentle. -/
theorem one_set_sound (environment : options.recipe.environment = Regime.environment)
    (gentle : ∀ function ∈ options.table.functions, function.IsGentle)
    (careful : Regime.preserving → options.areCareful disk source name = true) {root : Text}
    (rooted : Discovery.rootText options.root = .ok root) {set : TemplateSet}
    (built : Build.oneSet options.recipe disk source root options.extensions name = .ok (some set)) :
    set.setting.Sound := by
  cases found : Discovery.ofSource disk source root options.extensions with
  | error problem =>
    rw [Build.oneSet, Build.foundation, found] at built
    cases built
  | ok discovery =>
    rw [Build.one_set_requested found] at built
    obtain ⟨made, programmed, same⟩ := Results.map_ok.1 built
    split at same
    · cases same
      refine TemplateSet.composed_sound environment gentle fun frozen entry inside => ?_
      obtain ⟨template, asked, program, -⟩ :=
        Results.source_of_result ((Build.programs_ok _ _ _ _).1 programmed) inside
      exact RendererOptions.careful_program (careful frozen) rooted found asked program
    · cases same

/-- A renderer that was made is guarded for a page if the sets that are built for the page are of the
kind. -/
theorem made_guarded {renderer : Renderer} {session : Session} {good : TemplateSet → Prop}
    (each : ∀ root set, Discovery.rootText options.root = .ok root →
      Build.oneSet options.recipe disk source root options.extensions name = .ok (some set) → good set)
    (made : make options disk source start = .ok (renderer, session)) :
    renderer.IsGuarded good disk name session := by
  have inMode : options = options.inMode options.mode := rfl
  rw [inMode] at made
  cases mode : options.mode with
  | debug =>
    rw [mode, make_debug] at made
    cases made
    refine ⟨fun _ listed => (by cases listed), fun _ set built => ?_⟩
    cases rooted : Discovery.rootText options.root with
    | error failure =>
      have unbuilt : (watching options source).compiled disk name = .error (.failure failure) := by
        rw [compiled, show Discovery.rootText (watching options source).root = _ from rooted]
        rfl
      cases unbuilt.symm.trans built
    | ok root =>
      rw [compiled_watching options disk source rooted] at built
      exact each root set rooted built
  | release =>
    rw [mode] at made
    cases rooted : Discovery.rootText options.root with
    | error failure =>
      rw [make_release_unrooted _ _ _ _ rooted] at made
      cases made
    | ok root =>
      rw [make_release _ _ _ _ rooted] at made
      obtain ⟨sets, built, same⟩ := Results.map_ok.1 made
      cases same
      refine ⟨?_, fun absent => (by cases absent)⟩
      rintro registry ⟨⟩ number set listed
      obtain ⟨new, known⟩ := Session.numbering_known listed
      refine ⟨?_, known, ?_, fun other place twin differ there =>
        Session.numbering_apart (Ne.symm differ) listed there⟩
      · have among : sets.lookup name = some set := by
          rw [← Session.numbering_lookup start sets name, listed, Option.map_some]
        obtain ⟨discovery, _, _, founded, -, -⟩ := Build.all_sets_ok.1 built
        have found := (Build.foundation_ok.1 founded).1
        obtain ⟨before, after, split, -⟩ := List.lookup_eq_some_iff.1 among
        have isPage : name ∈ discovery.pages := by
          rw [← Build.page_sets_names found built, split]
          simp
        obtain ⟨twin, same, alone⟩ := Build.all_sets_entry built found isPage
        cases among.symm.trans same
        exact each root set rooted alone
      · have bare := Session.home_of_new start sets.length new
        exact bare ▸ World.empty_clean.ticking _

end Renderer

end Made

end PageTemplates
