import PageTemplates.Build
import PageTemplates.Proofs.Discovery
import PageTemplates.Proofs.Results
import PageTemplates.Proofs.TemplateSet

/-!
How builds run. A build yields a result and the paths that it reads, and neither depends on what was read
before it; what a build of several parts yields is put together from what the parts do.
-/

namespace PageTemplates

namespace Build

/-- A build that comes to a result and reads paths in order, whatever was read before it. -/
def Yields {Result : Type} (build : Build Result) (result : Except Problem Result)
    (paths : List Text) : Prop :=
  ∀ before, build.run before = (result, paths.reverse ++ before)

section

variable {First Second : Type}

theorem yields_outcome {build : Build First} {result : Except Problem First} {paths : List Text}
    (yields : build.Yields result paths) : build.outcome = result := by
  rw [outcome, yields []]

theorem yields_reads {build : Build First} {result : Except Problem First} {paths : List Text}
    (yields : build.Yields result paths) : build.reads = paths := by
  rw [reads, yields []]
  simp

theorem yields_settled (result : Except Problem First) : (settled result).Yields result [] :=
  fun _ => rfl

theorem yields_pure (value : First) : (pure value : Build First).Yields (.ok value) [] :=
  fun _ => rfl

theorem yields_bind_ok {build : Build First} {next : First → Build Second} {value : First}
    {result : Except Problem Second} {paths more : List Text}
    (first : build.Yields (.ok value) paths) (rest : (next value).Yields result more) :
    (build >>= next).Yields result (paths ++ more) := by
  intro before
  change ExceptT.run (ExceptT.bind build next) before = _
  simp only [ExceptT.run, ExceptT.bind, ExceptT.mk, bind, StateT.bind]
  have ran := first before
  simp only [ExceptT.run] at ran
  rw [ran]
  have last := rest (paths.reverse ++ before)
  simp only [ExceptT.run] at last
  simp only [ExceptT.bindCont, last, List.reverse_append, List.append_assoc]

theorem yields_bind_error {build : Build First} {problem : Problem} {paths : List Text}
    (next : First → Build Second) (first : build.Yields (.error problem) paths) :
    (build >>= next).Yields (.error problem) paths := by
  intro before
  change ExceptT.run (ExceptT.bind build next) before = _
  simp only [ExceptT.run, ExceptT.bind, ExceptT.mk, bind, StateT.bind]
  have ran := first before
  simp only [ExceptT.run] at ran
  rw [ran]
  rfl

theorem yields_map {build : Build First} {result : Except Problem First} {paths : List Text}
    (function : First → Second) (yields : build.Yields result paths) :
    (do return function (← build)).Yields (result.map function) paths := by
  cases result with
  | error problem => exact yields_bind_error _ yields
  | ok value =>
      rw [← List.append_nil paths]
      exact yields_bind_ok yields (yields_pure (function value))

end

end Build

end PageTemplates

/-!
What builds come to. A build goes through templates in order and stops at the first that has no
program. Whether a template has one depends on the recipe, the source and its own name alone, not on
what was compiled before it; so a page set is the base followed by the page, and the sets of all pages
and the set of one page are put together from the same programs.
-/

namespace PageTemplates

/-- The source of a few files by path, for statements about small sources. -/
def Source.ofTexts (files : List (String × String)) : Source :=
  .mapping (files.map fun (path, text) =>
    (Text.ofString path, text.toList.map fun character => character.val.toUInt8))

namespace Build

section

variable (recipe : Recipe) (disk : Node) (source : Source) (discovery : Discovery)

/-- The program of a template that was discovered. -/
def program (name : Text) : Except Problem Template.Program :=
  match discovery.path? name with
  | none => .error (.failure (.missingKey (Text.quoted name)))
  | some path =>
    (source.readText disk path).bind fun text => TemplateSet.compile recipe name text (some path)

/-- The programs of templates by name, in order. -/
def programs (names : List Text) : Except Problem (List (Text × Template.Program)) :=
  names.mapM fun name => (program recipe disk source discovery name).map fun made => (name, made)

/-- The paths that are read for templates, up to the first that has no program. -/
def readings : List Text → List Text
  | [] => []
  | name :: rest =>
    (discovery.path? name).toList ++
      match program recipe disk source discovery name with
      | .ok _ => readings rest
      | .error _ => []

theorem program_of_path {name path : Text} (found : discovery.path? name = some path) :
    program recipe disk source discovery name =
      (source.readText disk path).bind fun text =>
        TemplateSet.compile recipe name text (some path) := by
  rw [program, found]

theorem path_of_yields (name : Text) :
    (pathOf discovery name).Yields
      (match discovery.path? name with
      | some path => .ok path
      | none => .error (.failure (.missingKey (Text.quoted name)))) [] := by
  intro before
  rw [pathOf]
  cases discovery.path? name <;> rfl

theorem read_text_yields (path : Text) :
    (readText disk source path).Yields (source.readText disk path) [path] := by
  intro before
  rfl

/-- A template is added to a set if it has a program. -/
theorem add_from_yields (set : TemplateSet) (name : Text) :
    (addFrom disk source discovery set name).Yields
      ((program set.recipe disk source discovery name).map (set.holding name))
      (discovery.path? name).toList := by
  have located := path_of_yields discovery name
  cases found : discovery.path? name with
  | none =>
      rw [found] at located
      rw [program, found]
      exact yields_bind_error _ located
  | some path =>
      rw [found] at located
      rw [program_of_path _ _ _ _ found]
      refine (yields_bind_ok located ?_ : Yields _ _ ([] ++ _))
      have reading := read_text_yields disk source path
      cases contents : source.readText disk path with
      | error problem =>
          rw [contents] at reading
          exact yields_bind_error _ reading
      | ok text =>
          rw [contents] at reading
          refine yields_bind_ok reading ?_
          rw [TemplateSet.add_compiles]
          exact yields_settled _

theorem programs_cons (name : Text) (rest : List Text) :
    programs recipe disk source discovery (name :: rest) =
      (program recipe disk source discovery name).bind fun made =>
        (programs recipe disk source discovery rest).map fun more => (name, made) :: more := by
  rw [programs, Results.mapM_cons]
  cases program recipe disk source discovery name <;> rfl

theorem programs_append (names more : List Text) :
    programs recipe disk source discovery (names ++ more) =
      (programs recipe disk source discovery names).bind fun made =>
        (programs recipe disk source discovery more).map fun others => made ++ others :=
  Results.mapM_append _ names more

theorem readings_append (names more : List Text) :
    readings recipe disk source discovery (names ++ more) =
      readings recipe disk source discovery names ++
        match programs recipe disk source discovery names with
        | .ok _ => readings recipe disk source discovery more
        | .error _ => [] := by
  induction names with
  | nil => rfl
  | cons name rest ih =>
      rw [List.cons_append, readings, readings, programs_cons]
      cases program recipe disk source discovery name with
      | error problem => simp [Except.bind]
      | ok one =>
          simp only [ih, List.append_assoc, Except.bind]
          cases programs recipe disk source discovery rest <;> rfl

theorem readings_alone (name : Text) :
    readings recipe disk source discovery [name] = (discovery.path? name).toList := by
  rw [readings]
  cases program recipe disk source discovery name <;> exact List.append_nil _

/-- The programs of templates are those of each, by name and in order. -/
theorem programs_ok {names : List Text} {made : List (Text × Template.Program)} :
    programs recipe disk source discovery names = .ok made ↔
      List.Forall₂ (fun name entry =>
        program recipe disk source discovery name = .ok entry.2 ∧ name = entry.1) names made := by
  have each : ∀ name (entry : Text × Template.Program),
      ((program recipe disk source discovery name).map fun one => (name, one)) = .ok entry ↔
        program recipe disk source discovery name = .ok entry.2 ∧ name = entry.1 := by
    rintro name ⟨label, one⟩
    simp only [Results.map_ok, Prod.ext_iff]
    constructor
    · rintro ⟨_, made, rfl, rfl⟩
      exact ⟨made, rfl⟩
    · rintro ⟨made, rfl⟩
      exact ⟨one, made, rfl, rfl⟩
  simp only [programs, Results.mapM_ok, each]

theorem programs_names {names : List Text} {made : List (Text × Template.Program)}
    (built : programs recipe disk source discovery names = .ok made) :
    made.map Prod.fst = names := by
  have each := (programs_ok _ _ _ _).mp built
  clear built
  induction each with
  | nil => rfl
  | cons first _ ih => rw [List.map_cons, ih, first.2]

/-- The programs of templates end with the problem of the first that has none. -/
theorem programs_error {names : List Text} {problem : Problem} :
    programs recipe disk source discovery names = .error problem ↔
      ∃ before name rest, names = before ++ name :: rest ∧
        (∀ earlier ∈ before, ∃ one, program recipe disk source discovery earlier = .ok one) ∧
        program recipe disk source discovery name = .error problem := by
  have each : ∀ name, (∃ entry, ((program recipe disk source discovery name).map
      fun one => (name, one)) = .ok entry) ↔
        ∃ one, program recipe disk source discovery name = .ok one := by
    intro name
    cases program recipe disk source discovery name <;> simp [Except.map]
  simp only [programs, Results.mapM_error, Results.map_error, each]

theorem programs_lookup {names : List Text} {made : List (Text × Template.Program)}
    (built : programs recipe disk source discovery names = .ok made) {name : Text}
    (member : name ∈ names) :
    ∃ one, program recipe disk source discovery name = .ok one ∧ made.lookup name = some one := by
  have each := (programs_ok _ _ _ _).mp built
  clear built
  induction each with
  | nil => cases member
  | @cons first entry rest others here _ ih =>
      obtain ⟨label, one⟩ := entry
      obtain ⟨compiled, rfl⟩ := here
      rw [Entries.lookup_first]
      by_cases same : name = first
      · exact ⟨one, same ▸ compiled, if_pos same⟩
      · rw [if_neg same]
        exact ih ((List.mem_cons.mp member).resolve_left same)

/-- Templates that are added to a set in order are there in order, or the build ends with the
problem of the first that has no program. -/
theorem adding_yields {names : List Text} (made : List (Text × Template.Program))
    (distinct : (made.map Prod.fst ++ names).Nodup) :
    (names.foldlM (addFrom disk source discovery) (TemplateSet.composed recipe made)).Yields
      ((programs recipe disk source discovery names).map fun more =>
        TemplateSet.composed recipe (made ++ more))
      (readings recipe disk source discovery names) := by
  induction names generalizing made with
  | nil =>
      change (pure (TemplateSet.composed recipe made) : Build TemplateSet).Yields
        (.ok (TemplateSet.composed recipe (made ++ []))) []
      rw [List.append_nil]
      exact yields_pure _
  | cons name rest ih =>
      have added := add_from_yields disk source discovery (TemplateSet.composed recipe made) name
      rw [List.foldlM_cons, programs_cons, readings]
      cases first : program recipe disk source discovery name with
      | error problem =>
          rw [TemplateSet.composed, first] at added
          rw [List.append_nil]
          exact yields_bind_error _ added
      | ok one =>
          rw [TemplateSet.composed, first] at added
          have fresh : name ∉ made.map Prod.fst := by
            intro before
            exact (List.nodup_append.mp distinct).2.2 name before name List.mem_cons_self rfl
          refine yields_bind_ok added ?_
          have held := TemplateSet.composed_holding recipe one fresh
          rw [TemplateSet.composed] at held
          rw [held]
          have later := ih (made ++ [(name, one)]) (by simpa using distinct)
          change Yields _ (((programs recipe disk source discovery rest).map _).map _) _
          cases others : programs recipe disk source discovery rest <;>
            simpa [others, Except.map] using later

/-- The base of a discovery without doubles is made of the programs of its layouts and partials. -/
theorem base_yields (distinct : discovery.base.Nodup) :
    (base recipe disk source discovery).Yields
      ((programs recipe disk source discovery discovery.base).map (TemplateSet.composed recipe))
      (readings recipe disk source discovery discovery.base) :=
  adding_yields recipe disk source discovery [] distinct

/-- The set of a page is the base with the page behind it. -/
theorem page_yields {made : List (Text × Template.Program)} {name : Text}
    (fresh : name ∉ made.map Prod.fst) :
    (page disk source discovery (TemplateSet.composed recipe made) name).Yields
      ((program recipe disk source discovery name).map fun one =>
        TemplateSet.composed recipe (made ++ [(name, one)]))
      (discovery.path? name).toList := by
  have added := add_from_yields disk source discovery (TemplateSet.composed recipe made) name
  have same : ∀ result : Except Problem Template.Program,
      result.map ((TemplateSet.composed recipe made).holding name) =
        result.map fun one => TemplateSet.composed recipe (made ++ [(name, one)]) := by
    intro result
    cases result with
    | error problem => rfl
    | ok one => exact congrArg Except.ok (TemplateSet.composed_holding recipe one fresh)
  rw [page, ← same]
  exact added

/-- The sets of pages, each on top of the same templates. -/
def pageSets (made : List (Text × Template.Program)) (pages : List (Text × Template.Program)) :
    List (Text × TemplateSet) :=
  pages.map fun (name, one) => (name, TemplateSet.composed recipe (made ++ [(name, one)]))

theorem pages_yield {made : List (Text × Template.Program)} {names : List Text}
    (fresh : ∀ name ∈ names, name ∉ made.map Prod.fst) :
    (names.mapM fun name => do
      return (name, ← page disk source discovery (TemplateSet.composed recipe made) name)).Yields
      ((programs recipe disk source discovery names).map (pageSets recipe made))
      (readings recipe disk source discovery names) := by
  induction names with
  | nil => exact yields_pure []
  | cons name rest ih =>
      have added := page_yields recipe disk source discovery (fresh name List.mem_cons_self)
      have named := yields_map (fun set => (name, set)) added
      have later := ih fun other member => fresh other (List.mem_cons_of_mem name member)
      rw [List.mapM_cons, programs_cons, readings]
      cases first : program recipe disk source discovery name with
      | error problem =>
          rw [first] at named
          rw [List.append_nil]
          exact yields_bind_error _ named
      | ok one =>
          rw [first] at named
          refine yields_bind_ok named ?_
          have whole := yields_map
            (fun sets => (name, TemplateSet.composed recipe (made ++ [(name, one)])) :: sets) later
          cases others : programs recipe disk source discovery rest <;>
            simpa [others, Except.map, Except.bind, pageSets] using whole

end

section

variable (recipe : Recipe) (disk : Node) (source : Source) (root : Text) (extensions : List Text)

/-- What every page set is made on top of: what was discovered, and the programs of its base. -/
def foundation : Except Problem (Discovery × List (Text × Template.Program)) :=
  (Discovery.ofSource disk source root extensions).bind fun discovery =>
    (programs recipe disk source discovery discovery.base).map fun made => (discovery, made)

/-- The sets of all pages by name, put together from programs. -/
def allSets : Except Problem (List (Text × TemplateSet)) :=
  (foundation recipe disk source root extensions).bind fun (discovery, made) =>
    (programs recipe disk source discovery discovery.pages).map (pageSets recipe made)

/-- The set of one page, if there is such a page, put together from programs. -/
def oneSet (name : Text) : Except Problem (Option TemplateSet) :=
  (foundation recipe disk source root extensions).bind fun (discovery, made) =>
    if name ∈ discovery.pages then
      (program recipe disk source discovery name).map fun one =>
        some (TemplateSet.composed recipe (made ++ [(name, one)]))
    else .ok none

/-- The templates that a name asks for: the base, and the page if there is one of that name. -/
def requested (discovery : Discovery) (name : Text) : List Text :=
  discovery.base ++ if List.contains discovery.pages name then [name] else []

variable {recipe disk source root extensions}

theorem requested_of_page {discovery : Discovery} {name : Text} (isPage : name ∈ discovery.pages) :
    requested discovery name = discovery.base ++ [name] := by
  rw [requested, if_pos (List.contains_iff_mem.mpr isPage)]

theorem foundation_ok {discovery : Discovery} {made : List (Text × Template.Program)} :
    foundation recipe disk source root extensions = .ok (discovery, made) ↔
      Discovery.ofSource disk source root extensions = .ok discovery ∧
        programs recipe disk source discovery discovery.base = .ok made := by
  simp only [foundation, Results.bind_ok, Results.map_ok, Prod.mk.injEq]
  constructor
  · rintro ⟨_, found, _, programmed, rfl, rfl⟩
    exact ⟨found, programmed⟩
  · rintro ⟨found, programmed⟩
    exact ⟨discovery, found, made, programmed, rfl, rfl⟩

/-- The set of a page is made of the templates that its name asks for. -/
theorem one_set_requested {discovery : Discovery}
    (found : Discovery.ofSource disk source root extensions = .ok discovery)
    (name : Text) :
    oneSet recipe disk source root extensions name =
      (programs recipe disk source discovery (requested discovery name)).map fun made =>
        if name ∈ discovery.pages then some (TemplateSet.composed recipe made) else none := by
  rw [oneSet, foundation, found, requested, programs_append]
  simp only [Except.bind]
  cases programs recipe disk source discovery discovery.base with
  | error problem => rfl
  | ok made =>
      by_cases isPage : name ∈ discovery.pages
      · simp only [List.contains_iff_mem, if_pos isPage, Except.map, programs_cons]
        cases program recipe disk source discovery name <;> rfl
      · simp only [List.contains_iff_mem, if_neg isPage, Except.map]
        rfl

/-- The names of a base and of pages that were discovered have nothing in common. -/
theorem discovered_names {discovery : Discovery}
    (found : Discovery.ofSource disk source root extensions = .ok discovery) :
    discovery.base.Nodup ∧ ∀ name ∈ discovery.pages, name ∉ discovery.base := by
  obtain ⟨paths, _, sorted⟩ := Discovery.of_source_ok found
  exact ⟨Discovery.base_distinct sorted, fun name => Discovery.page_not_in_base sorted⟩

variable (recipe disk source root extensions) in
/-- The paths that are read for templates of what is discovered, up to the first that has no program. -/
def trail (names : Discovery → List Text) : List Text :=
  match Discovery.ofSource disk source root extensions with
  | .ok discovery => readings recipe disk source discovery (names discovery)
  | .error _ => []

/-- What is built on top of a base comes after the base, and only if there is one. -/
theorem founded_yields {Result : Type} (next : Discovery → TemplateSet → Build Result)
    (result : Discovery → List (Text × Template.Program) → Except Problem Result)
    (rest : Discovery → List Text)
    (follows : ∀ discovery made, foundation recipe disk source root extensions =
        .ok (discovery, made) →
      (next discovery (TemplateSet.composed recipe made)).Yields (result discovery made)
        (readings recipe disk source discovery (rest discovery))) :
    Yields (do
        let discovery ← settled (Discovery.ofSource disk source root extensions)
        next discovery (← base recipe disk source discovery))
      ((foundation recipe disk source root extensions).bind fun (discovery, made) =>
        result discovery made)
      (trail recipe disk source root extensions fun discovery =>
        discovery.base ++ rest discovery) := by
  rw [foundation] at follows ⊢
  rw [trail]
  cases found : Discovery.ofSource disk source root extensions with
  | error problem => exact yields_bind_error _ (yields_settled (.error problem))
  | ok discovery =>
      rw [found] at follows
      have based := base_yields recipe disk source discovery (discovered_names found).1
      have looked := yields_settled (Except.ok (ε := Problem) discovery)
      simp only [readings_append]
      rw [← List.nil_append (readings recipe disk source discovery discovery.base ++ _)]
      refine yields_bind_ok looked ?_
      cases programmed : programs recipe disk source discovery discovery.base with
      | error problem =>
          rw [programmed] at based
          simp only [Except.bind, Except.map, programmed]
          rw [List.append_nil]
          exact yields_bind_error _ based
      | ok made =>
          rw [programmed] at based
          simp only [Except.bind, Except.map, programmed]
          exact yields_bind_ok based (follows discovery made (by
            simp [Except.bind, Except.map, programmed]))

theorem page_fresh {discovery : Discovery} {made : List (Text × Template.Program)}
    (founded : foundation recipe disk source root extensions = .ok (discovery, made)) :
    ∀ name ∈ discovery.pages, name ∉ made.map Prod.fst := by
  obtain ⟨found, programmed⟩ := foundation_ok.mp founded
  rw [programs_names recipe disk source discovery programmed]
  exact (discovered_names found).2

variable (recipe disk source root extensions) in
/-- What the builds of all pages and of one page begin with: a discovery and its base. -/
def groundwork : Build (Discovery × TemplateSet) := do
  let discovery ← settled (Discovery.ofSource disk source root extensions)
  return (discovery, ← base recipe disk source discovery)

theorem groundwork_outcome :
    (groundwork recipe disk source root extensions).outcome =
      (foundation recipe disk source root extensions).map fun (discovery, made) =>
        (discovery, TemplateSet.composed recipe made) := by
  refine (yields_outcome (founded_yields (fun discovery base => return (discovery, base))
    (fun discovery made => .ok (discovery, TemplateSet.composed recipe made)) (fun _ => []) ?_)).trans
      ?_
  · exact fun discovery made founded => yields_pure _
  cases foundation recipe disk source root extensions <;> rfl

theorem groundwork_ok {discovery : Discovery} {base : TemplateSet}
    (laid : (groundwork recipe disk source root extensions).outcome = .ok (discovery, base)) :
    ∃ made, foundation recipe disk source root extensions = .ok (discovery, made) ∧
      base = TemplateSet.composed recipe made := by
  rw [groundwork_outcome] at laid
  obtain ⟨⟨found, made⟩, founded, same⟩ := Results.map_ok.mp laid
  cases same
  exact ⟨made, founded, rfl⟩

theorem groundwork_error {problem : Problem}
    (failed : (groundwork recipe disk source root extensions).outcome = .error problem) :
    foundation recipe disk source root extensions = .error problem := by
  rw [groundwork_outcome] at failed
  exact Results.map_error.mp failed

/-- A page that was discovered has a set if it has a program. -/
theorem page_outcome {discovery : Discovery} {made : List (Text × Template.Program)}
    (founded : foundation recipe disk source root extensions = .ok (discovery, made)) {name : Text}
    (isPage : name ∈ discovery.pages) :
    (page disk source discovery (TemplateSet.composed recipe made) name).outcome =
      (program recipe disk source discovery name).map fun one =>
        TemplateSet.composed recipe (made ++ [(name, one)]) :=
  yields_outcome (page_yields recipe disk source discovery (page_fresh founded name isPage))

/-- The sets of all pages are put together from programs, and the base is read before the pages. -/
theorem all_yields :
    (all recipe disk source root extensions).Yields (allSets recipe disk source root extensions)
      (trail recipe disk source root extensions fun discovery =>
        discovery.base ++ discovery.pages) :=
  founded_yields
    (fun discovery base => discovery.pages.mapM fun name => do
      return (name, ← page disk source discovery base name))
    (fun discovery made =>
      (programs recipe disk source discovery discovery.pages).map (pageSets recipe made))
    Discovery.pages
    fun _ _ founded => pages_yield recipe disk source _ (page_fresh founded)

theorem all_outcome :
    (all recipe disk source root extensions).outcome =
      allSets recipe disk source root extensions :=
  yields_outcome all_yields

theorem all_sets_found {discovery : Discovery}
    (found : Discovery.ofSource disk source root extensions = .ok discovery) :
    allSets recipe disk source root extensions =
      (programs recipe disk source discovery discovery.base).bind fun made =>
        (programs recipe disk source discovery discovery.pages).map (pageSets recipe made) := by
  rw [allSets, foundation, found]
  cases built : programs recipe disk source discovery discovery.base <;>
    simp only [Except.bind, Except.map, built]

theorem all_sets_ok {sets : List (Text × TemplateSet)} :
    allSets recipe disk source root extensions = .ok sets ↔
      ∃ discovery made ones, foundation recipe disk source root extensions = .ok (discovery, made) ∧
        programs recipe disk source discovery discovery.pages = .ok ones ∧
        sets = pageSets recipe made ones := by
  simp only [allSets, Results.bind_ok, Results.map_ok]
  constructor
  · rintro ⟨⟨discovery, made⟩, founded, ones, programmed, rfl⟩
    exact ⟨discovery, made, ones, founded, programmed, rfl⟩
  · rintro ⟨discovery, made, ones, founded, programmed, rfl⟩
    exact ⟨(discovery, made), founded, ones, programmed, rfl⟩

theorem page_sets_names {sets : List (Text × TemplateSet)} {discovery : Discovery}
    (found : Discovery.ofSource disk source root extensions = .ok discovery)
    (built : allSets recipe disk source root extensions = .ok sets) :
    sets.map Prod.fst = discovery.pages := by
  obtain ⟨_, made, ones, founded, programmed, rfl⟩ := all_sets_ok.mp built
  cases found.symm.trans (foundation_ok.mp founded).1
  rw [← programs_names _ _ _ _ programmed, pageSets, List.map_map]
  rfl

/-- A set of all pages is found under its name. -/
theorem page_sets_lookup (recipe : Recipe) (made ones : List (Text × Template.Program))
    (name : Text) :
    (pageSets recipe made ones).lookup name =
      (ones.lookup name).map fun one => TemplateSet.composed recipe (made ++ [(name, one)]) :=
  Entries.lookup_map_items (fun name one => TemplateSet.composed recipe (made ++ [(name, one)]))
    name ones

/-- The set of a page among those of all pages is the set that is built of the page alone. -/
theorem all_sets_entry {sets : List (Text × TemplateSet)} {discovery : Discovery}
    (built : allSets recipe disk source root extensions = .ok sets)
    (found : Discovery.ofSource disk source root extensions = .ok discovery) {name : Text}
    (isPage : name ∈ discovery.pages) :
    ∃ set, sets.lookup name = some set ∧
      oneSet recipe disk source root extensions name = .ok (some set) := by
  obtain ⟨_, made, ones, founded, programmed, rfl⟩ := all_sets_ok.mp built
  cases found.symm.trans (foundation_ok.mp founded).1
  obtain ⟨one, program, listed⟩ := programs_lookup _ _ _ _ programmed isPage
  refine ⟨TemplateSet.composed recipe (made ++ [(name, one)]), ?_, ?_⟩
  · rw [page_sets_lookup, listed, Option.map_some]
  · rw [oneSet, founded]
    simp only [Except.bind, if_pos isPage, program, Except.map]

/-- The set of one page is put together from the same programs, and what its name asks for is read. -/
theorem one_yields (name : Text) :
    (one recipe disk source root extensions name).Yields
      (oneSet recipe disk source root extensions name)
      (trail recipe disk source root extensions fun discovery => requested discovery name) := by
  refine founded_yields
    (fun discovery base =>
      if List.contains discovery.pages name then do
        return some (← page disk source discovery base name)
      else return none)
    (fun discovery made =>
      if name ∈ discovery.pages then
        (program recipe disk source discovery name).map fun one =>
          some (TemplateSet.composed recipe (made ++ [(name, one)]))
      else .ok none)
    (fun discovery => if List.contains discovery.pages name then [name] else []) ?_
  intro discovery made founded
  by_cases isPage : name ∈ discovery.pages
  · have added := page_yields recipe disk source discovery (page_fresh founded name isPage)
    have wrapped := yields_map some added
    rw [if_pos (List.contains_iff_mem.mpr isPage), if_pos (List.contains_iff_mem.mpr isPage),
      if_pos isPage, readings_alone]
    cases outcome : program recipe disk source discovery name <;>
      rw [outcome] at wrapped <;> exact wrapped
  · rw [if_neg (by simpa using isPage), if_neg isPage, if_neg (by simpa using isPage)]
    exact yields_pure none

theorem one_outcome (name : Text) :
    (one recipe disk source root extensions name).outcome =
      oneSet recipe disk source root extensions name :=
  yields_outcome (one_yields name)

end

end Build

end PageTemplates
