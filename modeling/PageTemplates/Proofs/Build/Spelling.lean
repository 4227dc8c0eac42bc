import PageTemplates.Proofs.Build.Isolation
import PageTemplates.Proofs.Build.Wrong
import PageTemplates.Proofs.Discovery.Classification

/-!
What builds read. A build reads the layouts in order, then the partials in order, then the pages that
it is made for, each at the path that was discovered for it. It stops right behind the first template
with which something is wrong, and ends with what is wrong there. What is asked for decides at most
whether one more path is read: that of a page of that name.
-/

namespace PageTemplates

namespace Build

section

variable (recipe : Recipe) (disk : Node) (source : Source) (discovery : Discovery)

/-- How a build goes through templates in order: it reads each of them once, at its path, as long as
nothing is wrong, and ends right behind the first with which something is. -/
inductive GoesThrough {Result : Type} (names : List Text) :
    Except Problem Result → List Text → Prop where
  | whole {result : Result} {paths : List Text}
    (located : paths.map some = names.map discovery.path?)
    (right : ∀ name ∈ names, ∀ problem, ¬TemplateWrong recipe disk source discovery name problem) :
    GoesThrough names (.ok result) paths
  | cut {before rest paths : List Text} {name : Text} {problem : Problem}
    (split : names = before ++ name :: rest)
    (located : paths.map some = (before ++ [name]).map discovery.path?)
    (right : ∀ earlier ∈ before, ∀ other,
      ¬TemplateWrong recipe disk source discovery earlier other)
    (wrong : TemplateWrong recipe disk source discovery name problem) :
    GoesThrough names (.error problem) paths

end

section

variable {recipe : Recipe} {disk : Node} {source : Source} {discovery : Discovery}

/-- One more template in front, with which nothing is wrong. -/
theorem GoesThrough.cons {Result : Type} {names : List Text} {result : Except Problem Result}
    {paths : List Text} {name path : Text} (located : discovery.path? name = some path)
    (right : ∀ problem, ¬TemplateWrong recipe disk source discovery name problem)
    (rest : GoesThrough recipe disk source discovery names result paths) :
    GoesThrough recipe disk source discovery (name :: names) result (path :: paths) := by
  cases rest with
  | whole others right' =>
      refine .whole ?_ (List.forall_mem_cons.mpr ⟨right, right'⟩)
      rw [List.map_cons, List.map_cons, located, others]
  | @cut before behind _ last _ split others right' wrong =>
      have further : name :: names = (name :: before) ++ last :: behind := by
        rw [split, List.cons_append]
      refine .cut further ?_ (List.forall_mem_cons.mpr ⟨right, right'⟩) wrong
      rw [List.map_cons, List.cons_append, List.map_cons, located, others]

/-- A build that fails as the programs of its templates do goes through the templates. -/
theorem readings_go_through {Result : Type} {names : List Text}
    (located : ∀ name ∈ names, ∃ path, discovery.path? name = some path)
    {result : Except Problem Result}
    (fails : ∀ problem, result = .error problem ↔
      programs recipe disk source discovery names = .error problem) :
    GoesThrough recipe disk source discovery names result
      (readings recipe disk source discovery names) := by
  induction names with
  | nil =>
      cases result with
      | error problem => cases (fails problem).mp rfl
      | ok value => exact .whole rfl fun _ member => by cases member
  | cons name rest ih =>
      obtain ⟨⟨path, here⟩, others⟩ := List.forall_mem_cons.mp located
      rw [readings, here]
      cases made : program recipe disk source discovery name with
      | error problem =>
          have failed := (fails problem).mpr (by rw [programs_cons, made]; rfl)
          rw [failed]
          exact .cut (List.nil_append _).symm (by simp [here]) (fun _ member => by cases member)
            ((program_wrong here).mp made)
      | ok one =>
          refine GoesThrough.cons here ((program_right here).mp ⟨one, made⟩) (ih others ?_)
          intro problem
          rw [fails, programs_cons, made]
          exact Results.map_error

variable {root : Text} {extensions : List Text}

theorem trail_found (found : Discovery.ofSource disk source root extensions = .ok discovery)
    (names : Discovery → List Text) :
    trail recipe disk source root extensions names =
      readings recipe disk source discovery (names discovery) := by
  rw [trail, found]

theorem trail_absent {problem : Problem}
    (failed : Discovery.ofSource disk source root extensions = .error problem)
    (names : Discovery → List Text) : trail recipe disk source root extensions names = [] := by
  rw [trail, failed]

/-- The templates that are discovered have paths. -/
theorem discovered_located (found : Discovery.ofSource disk source root extensions = .ok discovery)
    {name : Text} (member : name ∈ discovery.base ++ discovery.pages) :
    ∃ path, discovery.path? name = some path := by
  obtain ⟨paths, _, sorted⟩ := Discovery.of_source_ok found
  rcases List.mem_append.mp member with inBase | isPage
  · obtain ⟨path, _, located, _⟩ := Discovery.path_of_base sorted inBase
    exact ⟨path, located⟩
  · obtain ⟨path, _, located, _⟩ := Discovery.path_of_role sorted .page isPage
    exact ⟨path, located⟩

theorem all_undiscovered {problem : Problem}
    (failed : Discovery.ofSource disk source root extensions = .error problem) :
    (all recipe disk source root extensions).outcome = .error problem := by
  rw [all_outcome, allSets, foundation, failed]
  rfl

/-- The sets of all pages fail as the programs of all templates do. -/
theorem all_error (found : Discovery.ofSource disk source root extensions = .ok discovery)
    {problem : Problem} :
    (all recipe disk source root extensions).outcome = .error problem ↔
      programs recipe disk source discovery (discovery.base ++ discovery.pages) =
        .error problem := by
  rw [all_outcome, all_sets_found found, programs_append]
  cases programs recipe disk source discovery discovery.base with
  | error other => simp only [Except.bind, Except.error.injEq]
  | ok made => exact Results.map_error.trans Results.map_error.symm

variable (recipe) in
theorem all_goes_through
    (found : Discovery.ofSource disk source root extensions = .ok discovery) :
    GoesThrough recipe disk source discovery (discovery.base ++ discovery.pages)
      (all recipe disk source root extensions).outcome
      (all recipe disk source root extensions).reads := by
  rw [yields_reads all_yields, trail_found found]
  exact readings_go_through (fun name member => discovered_located found member)
    fun problem => all_error found

variable (recipe) in
theorem one_goes_through
    (found : Discovery.ofSource disk source root extensions = .ok discovery) (name : Text) :
    GoesThrough recipe disk source discovery (requested discovery name)
      (one recipe disk source root extensions name).outcome
      (one recipe disk source root extensions name).reads := by
  rw [yields_outcome (one_yields name), yields_reads (one_yields name), trail_found found,
    one_set_requested found]
  exact readings_go_through (fun template member => requested_located found member)
    fun problem => Results.map_error

/-- There is no set of a name exactly if the base can be built and no page has the name. -/
theorem one_absent (found : Discovery.ofSource disk source root extensions = .ok discovery)
    (name : Text) :
    (one recipe disk source root extensions name).outcome = .ok none ↔
      (∃ set, (base recipe disk source discovery).outcome = .ok set) ∧ name ∉ discovery.pages := by
  have built := yields_outcome
    (base_yields recipe disk source discovery (discovered_names found).1)
  rw [one_outcome, one_set_requested found, built]
  simp only [Results.map_ok]
  by_cases isPage : name ∈ discovery.pages
  · simp [isPage]
  · simp [isPage, requested]

end

/-- Builds read in a fixed order, whatever is asked for: the layouts by name, the partials by name and
then the pages, each at its path, up to the first with which something is wrong; and that is what
they end with. Without a discovery nothing is read. -/
theorem reads_in_order (recipe : Recipe) (disk : Node) (source : Source) (root : Text)
    (extensions : List Text) :
    (∃ problem, Discovery.ofSource disk source root extensions = .error problem ∧
      (all recipe disk source root extensions).outcome = .error problem ∧
      (all recipe disk source root extensions).reads = [] ∧
      ∀ name, (one recipe disk source root extensions name).outcome = .error problem ∧
        (one recipe disk source root extensions name).reads = []) ∨
    ∃ discovery, Discovery.ofSource disk source root extensions = .ok discovery ∧
      (∀ role, (discovery.ofRole role).Pairwise fun first second =>
        Text.precedes first second = true) ∧
      GoesThrough recipe disk source discovery
        (discovery.layouts ++ discovery.partials ++ discovery.pages)
        (all recipe disk source root extensions).outcome
        (all recipe disk source root extensions).reads ∧
      ∀ name, GoesThrough recipe disk source discovery
          (discovery.layouts ++ discovery.partials ++
            if name ∈ discovery.pages then [name] else [])
          (one recipe disk source root extensions name).outcome
          (one recipe disk source root extensions name).reads ∧
        ((one recipe disk source root extensions name).outcome = .ok none ↔
          (∃ set, (base recipe disk source discovery).outcome = .ok set) ∧
            name ∉ discovery.pages) := by
  cases found : Discovery.ofSource disk source root extensions with
  | error problem =>
      refine .inl ⟨problem, rfl, all_undiscovered found, ?_, fun name => ⟨?_, ?_⟩⟩
      · rw [yields_reads all_yields, trail_absent found]
      · rw [one_outcome, oneSet, foundation, found]
        rfl
      · rw [yields_reads (one_yields name), trail_absent found]
  | ok discovery =>
      obtain ⟨paths, _, sorted⟩ := Discovery.of_source_ok found
      refine .inr ⟨discovery, rfl, Discovery.role_increasing sorted, all_goes_through recipe found,
        fun name => ⟨?_, one_absent found name⟩⟩
      have whole := one_goes_through recipe found name
      simp only [requested, List.contains_iff_mem] at whole
      exact whole

end Build

end PageTemplates

/-!
Spelling does not matter. Two mappings that hold the same contents under paths of the same normal
forms, in whatever order, have the same templates, and the same sets are built of them, or both builds
end at the same template. Only a clash of names is told differently: each listing tells the name that is
doubled earliest in it.
-/

namespace PageTemplates

/-- One mapping respells the paths of another: a bijection of their paths keeps normal forms and
contents. -/
structure Source.Respells (respell : Text → Text) (files others : List (Text × Bytes)) : Prop where
  distinct : (files.map Prod.fst).Nodup
  distinctToo : (others.map Prod.fst).Nodup
  bijective : Set.BijOn respell {path | path ∈ files.map Prod.fst} {path | path ∈ others.map Prod.fst}
  normal : ∀ path ∈ files.map Prod.fst, Path.templateName (respell path) = Path.templateName path
  content : ∀ path ∈ files.map Prod.fst, others.lookup (respell path) = files.lookup path

/-- A bijection of paths is one that puts all paths in other places. -/
theorem Source.respells_of_perm {respell : Text → Text} {files others : List (Text × Bytes)}
    (distinct : (others.map Prod.fst).Nodup)
    (images : (others.map Prod.fst).Perm ((files.map Prod.fst).map respell))
    (normal : ∀ path ∈ files.map Prod.fst,
      Path.templateName (respell path) = Path.templateName path)
    (content : ∀ path ∈ files.map Prod.fst, others.lookup (respell path) = files.lookup path) :
    Respells respell files others := by
  have apart := images.nodup_iff.mp distinct
  refine ⟨apart.of_map respell, distinct, ⟨?_, ?_, ?_⟩, normal, content⟩
  · exact fun path member => images.mem_iff.mpr (List.mem_map_of_mem member)
  · exact fun _ left _ right => List.inj_on_of_nodup_map apart left right
  · exact fun place member => List.mem_map.mp (images.mem_iff.mp member)

namespace Discovery

/-- One listing respells another, whatever the order of either. -/
structure Respells (respell : Text → Text) (paths places : List Text) : Prop where
  listed : places.Perm (paths.map respell)
  normal : ∀ path ∈ paths, Path.templateName (respell path) = Path.templateName path

theorem respells_of_files {respell : Text → Text} {files others : List (Text × Bytes)}
    (same : Source.Respells respell files others) :
    Respells respell (Text.sorted (files.map Prod.fst)) (Text.sorted (others.map Prod.fst)) := by
  have images : ((files.map Prod.fst).map respell).Nodup :=
    same.distinct.map_on fun _ left _ right => same.bijective.injOn left right
  have members : ∀ place, place ∈ others.map Prod.fst ↔
      place ∈ (files.map Prod.fst).map respell := by
    intro place
    exact (Set.ext_iff.mp same.bijective.image_eq place).symm.trans List.mem_map.symm
  refine ⟨?_, fun path member => same.normal path (Text.mem_sorted.mp member)⟩
  have keys := (List.perm_ext_iff_of_nodup same.distinctToo images).mpr members
  exact (Text.sorted_perm _).trans (keys.trans ((Text.sorted_perm _).map respell).symm)

section

variable {respell : Text → Text} {paths places extensions : List Text} {root mount : Text}

/-- What name a path gives only hangs on normal forms. -/
theorem name_of_normal (roots : Path.templateName root = Path.templateName mount) {path place : Text}
    (same : Path.templateName place = Path.templateName path) :
    nameOf? mount extensions place = nameOf? root extensions path := by
  simp only [nameOf?, opening, roots, same]

/-- Roots of one normal form are the same root. -/
theorem of_source_root (roots : Path.templateName root = Path.templateName mount) (disk : Node)
    (source : Source) : ofSource disk source mount extensions = ofSource disk source root extensions := by
  have names : nameOf? mount extensions = nameOf? root extensions :=
    funext fun path => name_of_normal roots rfl
  simp only [ofSource, ofPaths, claims, names]

variable (roots : Path.templateName root = Path.templateName mount)
  (same : Respells respell paths places)

include roots same

theorem paths_respelled (name : Text) :
    (pathsOf mount extensions places name).Perm
      ((pathsOf root extensions paths name).map respell) := by
  refine (same.listed.filter _).trans (.of_eq ?_)
  rw [List.filter_map]
  refine congrArg _ (List.filter_congr fun path member => ?_)
  simp only [Function.comp_apply, name_of_normal roots (same.normal path member)]

theorem doubled_respelled (name : Text) :
    Doubled mount extensions places name ↔ Doubled root extensions paths name := by
  rw [doubled_iff, doubled_iff, (paths_respelled roots same name).length_eq, List.length_map]

theorem clash_respelled : Clash mount extensions places ↔ Clash root extensions paths := by
  rw [clash_iff, clash_iff]
  exact exists_congr (doubled_respelled roots same)

theorem gives_respelled {path name : Text} (member : path ∈ paths)
    (gives : Gives root extensions path name) :
    respell path ∈ places ∧ Gives mount extensions (respell path) name := by
  refine ⟨same.listed.mem_iff.mpr (List.mem_map_of_mem member), ?_⟩
  rw [gives_iff, name_of_normal roots (same.normal path member)]
  exact gives_iff.mp gives

theorem named_respelled (name : Text) :
    (∃ place ∈ places, Gives mount extensions place name) ↔
      ∃ path ∈ paths, Gives root extensions path name := by
  constructor
  · rintro ⟨place, member, gives⟩
    obtain ⟨path, inPaths, rfl⟩ := List.mem_map.mp (same.listed.mem_iff.mp member)
    rw [gives_iff, name_of_normal roots (same.normal path inPaths)] at gives
    exact ⟨path, inPaths, gives_iff.mpr gives⟩
  · rintro ⟨path, member, gives⟩
    exact ⟨respell path, gives_respelled roots same member gives⟩

/-- Listings that respell one another have the same templates in every role, each at its own path. -/
theorem discovery_respelled {discovery found : Discovery}
    (here : ofPaths root extensions paths = .ok discovery)
    (there : ofPaths mount extensions places = .ok found) :
    (∀ role, found.ofRole role = discovery.ofRole role) ∧
      ∀ name path, discovery.path? name = some path → found.path? name = some (respell path) := by
  have left := of_paths_classifies here
  have right := of_paths_classifies there
  constructor
  · intro role
    refine Text.increasing_unique (right.increasing role) (left.increasing role) fun name => ?_
    rw [mem_of_role here, mem_of_role there]
    simp only [← gives_iff, named_respelled roots same]
  · intro name path located
    obtain ⟨member, gives⟩ := (left.located name path).mp located
    exact (right.located name _).mpr (gives_respelled roots same member gives)

end

end Discovery

open Discovery

namespace Build

/-- A template at which the builds of all pages of two sources both end: nothing is wrong with those
before it, and what is wrong with it differs at most in how its path is spelled. -/
structure BothEnd (recipe : Recipe) (disk other : Node) (source elsewhere : Source)
    (discovery found : Discovery) (template : Text) (problem another : Problem) : Prop where
  first : ∃ before rest, discovery.base ++ discovery.pages = before ++ template :: rest ∧
    ∀ earlier ∈ before, ∀ wrong, ¬TemplateWrong recipe disk source discovery earlier wrong ∧
      ¬TemplateWrong recipe other elsewhere found earlier wrong
  here : TemplateWrong recipe disk source discovery template problem
  there : TemplateWrong recipe other elsewhere found template another
  same : SameProblem discovery found [template] problem another

section

variable (recipe : Recipe) {disk other : Node} {source elsewhere : Source} {root : Text}
  {extensions : List Text} {discovery found : Discovery}

/-- Sources with the same templates of the same contents build the same sets, or both end at the same
template. -/
theorem all_same (here : ofSource disk source root extensions = .ok discovery)
    (there : ofSource other elsewhere root extensions = .ok found)
    (bases : found.base = discovery.base) (pages : found.pages = discovery.pages)
    (same : ∀ name ∈ discovery.base ++ discovery.pages,
      SameContent disk other source elsewhere discovery found name) :
    (∃ sets, (all recipe disk source root extensions).outcome = .ok sets ∧
      (all recipe other elsewhere root extensions).outcome = .ok sets) ∨
    ∃ template problem another,
      (all recipe disk source root extensions).outcome = .error problem ∧
      (all recipe other elsewhere root extensions).outcome = .error another ∧
      BothEnd recipe disk other source elsewhere discovery found template problem another := by
  cases outcome : (all recipe disk source root extensions).outcome with
  | ok sets =>
      refine .inl ⟨sets, rfl, ?_⟩
      have first := programs_same recipe here there
        (fun name member => List.mem_append_left discovery.pages member) same
      have second := programs_same recipe here there
        (fun name member => List.mem_append_right discovery.base member) same
      have results := first.bind fun made => second.map (pageSets recipe made)
      rw [all_outcome, all_sets_found here] at outcome
      rw [outcome] at results
      rw [all_outcome, all_sets_found there, bases, pages]
      exact results.of_ok
  | error problem =>
      have cut := all_goes_through recipe here
      rw [outcome] at cut
      cases cut with
      | @cut before rest _ template _ split located right wrong =>
          have among : ∀ name ∈ before ++ [template], name ∈ discovery.base ++ discovery.pages := by
            intro name member
            rw [split, List.append_cons]
            exact List.mem_append_left rest member
          have alike : ∀ name ∈ before ++ [template],
              SameResult discovery found [name] (program recipe disk source discovery name)
                (program recipe other elsewhere found name) := fun name member =>
            program_same recipe here there List.mem_cons_self (same name (among name member))
          have placed : ∀ name ∈ before ++ [template],
              (∃ path, discovery.path? name = some path) ∧
                ∃ place, found.path? name = some place := by
            intro name member
            obtain ⟨path, place, _, located, located', _⟩ := same name (among name member)
            exact ⟨⟨path, located⟩, place, located'⟩
          have last : template ∈ before ++ [template] := List.mem_append_right _ List.mem_cons_self
          obtain ⟨⟨_, located⟩, _, located'⟩ := placed template last
          have ended := alike template last
          rw [(program_wrong located).mpr wrong] at ended
          obtain ⟨another, ended, told⟩ := ended.of_error
          have passed : ∀ earlier ∈ before,
              ∃ one, program recipe other elsewhere found earlier = .ok one := by
            intro earlier member
            have inFront := List.mem_append_left [template] member
            obtain ⟨⟨_, located⟩, _⟩ := placed earlier inFront
            obtain ⟨one, made⟩ := (program_right located).mpr (right earlier member)
            have fine := alike earlier inFront
            rw [made] at fine
            exact ⟨one, fine.of_ok⟩
          refine .inr ⟨template, problem, another, rfl, ?_, ⟨before, rest, split, ?_⟩, wrong,
            (program_wrong located').mp ended, told⟩
          · rw [all_error there, bases, pages, split]
            exact (programs_error _ _ _ _).mpr ⟨before, template, rest, rfl, passed, ended⟩
          · intro earlier member wrong
            obtain ⟨_, _, located'⟩ := placed earlier (List.mem_append_left [template] member)
            exact ⟨right earlier member wrong,
              (program_right located').mp (passed earlier member) wrong⟩

end

section

variable {respell : Text → Text} {files others : List (Text × Bytes)} {root mount : Text}
  {extensions : List Text}

/-- Roots of one normal form lead to the same sets. -/
theorem all_of_root (roots : Path.templateName root = Path.templateName mount) (recipe : Recipe)
    (disk : Node) (source : Source) :
    all recipe disk source mount extensions = all recipe disk source root extensions := by
  simp only [all, of_source_root roots]

/-- Templates of respelled files have the same contents, each at its own path. -/
theorem same_content (same : Source.Respells respell files others) (disk other : Node)
    {discovery found : Discovery}
    (here : ofSource disk (.mapping files) root extensions = .ok discovery)
    (located : ∀ name path, discovery.path? name = some path →
      found.path? name = some (respell path))
    {name : Text} (member : name ∈ discovery.base ++ discovery.pages) :
    SameContent disk other (.mapping files) (.mapping others) discovery found name := by
  obtain ⟨path, at_⟩ := discovered_located here member
  obtain ⟨paths, listed, sorted⟩ := of_source_ok here
  cases listed
  have known := Text.mem_sorted.mp (((of_paths_classifies sorted).located name path).mp at_).1
  obtain ⟨content, found⟩ := Option.isSome_iff_exists.mp (Entries.lookup_is_some.mpr known)
  refine ⟨path, respell path, content, at_, located name path at_, ?_, ?_⟩
  · rw [Source.read, found]
  · rw [Source.read, same.content path known, found]

end

/-- A respelling that is told path by path. -/
def respelling (table : List (String × String)) (path : Text) : Text :=
  (table.findSome? fun (first, second) =>
    if Text.ofString first = path then some (Text.ofString second) else none).getD path

/-- Files of one content each. -/
def filesAt (paths : List (String × Bytes)) : List (Text × Bytes) :=
  paths.map fun (path, content) => (Text.ofString path, content)

/-- A layout and a page in two spellings. -/
def straightFiles : List (Text × Bytes) :=
  filesAt [("templates/index.html", [0x62]), (straight, [0x61])]

@[inherit_doc straightFiles]
def bentFiles : List (Text × Bytes) :=
  filesAt [(bent, [0x61]), ("/templates//index.html", [0x62])]

/-- Two names that two paths claim each. -/
def clashingFiles : List (Text × Bytes) :=
  filesAt [("/a.html", []), ("a.html", []), ("b.html", []), ("b.html/", [])]

/-- The same names, claimed by paths that are listed in another order. -/
def clashingFilesToo : List (Text × Bytes) :=
  filesAt [("a.html", []), ("a.html/", []), ("/b.html", []), ("b.html", [])]

end Build

end PageTemplates
