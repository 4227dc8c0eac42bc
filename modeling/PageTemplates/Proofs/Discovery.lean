import Mathlib.Data.List.Induction
import PageTemplates.Discovery
import PageTemplates.Proofs.Entries
import PageTemplates.Proofs.Path
import PageTemplates.Proofs.Text.Order

/-!
What discovery finds. The names are those that some listed path gives, each once; a name is read from
the one path that gives it, and its role sorts it into exactly one of the three lists. So a page is
never a layout or a partial, and every list is strictly increasing.
-/

namespace PageTemplates.Discovery

open Entries

theorem lookup_claim (name other path : Text) (claimed : List (Text × List Text)) :
    (claim name path claimed).lookup other =
      if other = name then some ((claimed.lookup name).getD [] ++ [path])
      else claimed.lookup other := by
  induction claimed with
  | nil => simp [claim, lookup_first]
  | cons entry rest ih =>
      obtain ⟨first, paths⟩ := entry
      simp only [claim]
      by_cases here : first = name
      · rw [if_pos here, here, lookup_first, lookup_first, lookup_first, if_pos rfl]
        split <;> rfl
      · rw [if_neg here, lookup_first, lookup_first, lookup_first, ih, if_neg (Ne.symm here)]
        by_cases same : other = first
        · rw [if_pos same, if_pos same, if_neg (fun equal => here (same.symm.trans equal))]
        · rw [if_neg same, if_neg same]

theorem claim_names (name path : Text) (claimed : List (Text × List Text)) :
    (claim name path claimed).map Prod.fst =
      if name ∈ claimed.map Prod.fst then claimed.map Prod.fst
      else claimed.map Prod.fst ++ [name] := by
  induction claimed with
  | nil => rfl
  | cons entry rest ih =>
      obtain ⟨first, paths⟩ := entry
      simp only [claim]
      by_cases here : first = name
      · simp [here]
      · have other : ¬name = first := fun equal => here equal.symm
        simp only [if_neg here, List.map_cons, ih, List.mem_cons, other, false_or]
        split <;> rfl

theorem name_of_path {root path name : Text} {extensions : List Text} :
    nameOf? root extensions path = some name ↔
      (∃ extension ∈ extensions, extension <:+ Path.templateName path) ∧
        Path.templateName path = opening root ++ name := by
  rw [nameOf?, ← Text.drop_opening_some, ← List.any_eq_true.trans
    (exists_congr fun _ => and_congr_right fun _ => Text.ends_with_suffix)]
  split
  · rename_i ends
    exact (and_iff_right ends).symm
  · rename_i ends
    exact ⟨nofun, fun both => absurd both.1 ends⟩

section

variable (root : Text) (extensions : List Text)

/-- The listed paths that give a template a name. -/
def pathsOf (paths : List Text) (name : Text) : List Text :=
  paths.filter fun path => nameOf? root extensions path = some name

theorem claims_append (paths : List Text) (path : Text) :
    claims root extensions (paths ++ [path]) =
      match nameOf? root extensions path with
      | some name => claim name path (claims root extensions paths)
      | none => claims root extensions paths := by
  cases given : nameOf? root extensions path <;>
    simp [claims, List.foldl_append, given]

theorem claims_names_distinct (paths : List Text) :
    ((claims root extensions paths).map Prod.fst).Nodup := by
  induction paths using List.reverseRecOn with
  | nil => exact List.nodup_nil
  | append_singleton paths path ih =>
      rw [claims_append]
      cases nameOf? root extensions path with
      | none => exact ih
      | some name =>
          simp only [claim_names]
          split
          · exact ih
          · rename_i fresh
            exact List.nodup_append.mpr ⟨ih, List.nodup_singleton name, by
              intro old member other last equal
              exact fresh (List.mem_singleton.mp last ▸ equal ▸ member)⟩

/-- A name is claimed by the paths that give it, in the order of the listing. -/
theorem lookup_claims (paths : List Text) (name : Text) :
    (claims root extensions paths).lookup name =
      if pathsOf root extensions paths name = [] then none
      else some (pathsOf root extensions paths name) := by
  induction paths using List.reverseRecOn generalizing name with
  | nil => rfl
  | append_singleton paths path ih =>
      have grown : pathsOf root extensions (paths ++ [path]) name =
          pathsOf root extensions paths name ++ pathsOf root extensions [path] name :=
        List.filter_append ..
      rw [claims_append, grown]
      cases given : nameOf? root extensions path with
      | none => simp [pathsOf, given, ih]
      | some other =>
          simp only [lookup_claim, ih]
          by_cases same : name = other
          · subst same
            have last : pathsOf root extensions [path] name = [path] := by
              simp [pathsOf, given]
            rw [if_pos rfl, last]
            by_cases first : pathsOf root extensions paths name = []
            · simp [first]
            · simp [first]
          · have last : pathsOf root extensions [path] name = [] := by
              simp [pathsOf, given, Ne.symm same]
            rw [if_neg same, last, List.append_nil]

theorem mem_claims_names {paths : List Text} {name : Text} :
    name ∈ (claims root extensions paths).map Prod.fst ↔
      ∃ path ∈ paths, nameOf? root extensions path = some name := by
  rw [← lookup_is_some, lookup_claims]
  constructor
  · intro isSome
    split at isSome
    · cases isSome
    · rename_i some
      obtain ⟨path, member⟩ := List.exists_mem_of_ne_nil _ some
      have ⟨listed, gives⟩ := List.mem_filter.mp member
      exact ⟨path, listed, of_decide_eq_true gives⟩
  · rintro ⟨path, listed, gives⟩
    have member : path ∈ pathsOf root extensions paths name :=
      List.mem_filter.mpr ⟨listed, decide_eq_true gives⟩
    rw [if_neg (List.ne_nil_of_mem member)]
    rfl

variable {root extensions}

/-- The names of a role, in order. -/
def ofRole (discovery : Discovery) : Role → List Text
  | .layout => discovery.layouts
  | .partialRole => discovery.partials
  | .page => discovery.pages

theorem of_paths_ok {paths : List Text} {discovery : Discovery}
    (found : ofPaths root extensions paths = .ok discovery) :
    (∀ role, discovery.ofRole role =
      Text.sorted (((claims root extensions paths).map Prod.fst).filter fun name =>
        Role.ofName name = role)) ∧
    discovery.paths =
      (claims root extensions paths).map fun (name, paths) => (name, paths.headD []) := by
  simp only [ofPaths] at found
  split at found
  · cases found
  · cases found
    exact ⟨fun role => by cases role <;> rfl, rfl⟩

theorem role_increasing {paths : List Text} {discovery : Discovery}
    (found : ofPaths root extensions paths = .ok discovery) (role : Role) :
    (discovery.ofRole role).Pairwise fun first second => Text.precedes first second = true := by
  rw [(of_paths_ok found).1]
  exact Text.sorted_increasing ((claims_names_distinct root extensions paths).filter _)

theorem mem_of_role {paths : List Text} {discovery : Discovery}
    (found : ofPaths root extensions paths = .ok discovery) (role : Role) {name : Text} :
    name ∈ discovery.ofRole role ↔
      (∃ path ∈ paths, nameOf? root extensions path = some name) ∧ Role.ofName name = role := by
  rw [(of_paths_ok found).1, Text.mem_sorted, List.mem_filter, mem_claims_names]
  simp only [decide_eq_true_eq]

/-- A name is read from the first path that gives it. -/
theorem path_of_name {paths : List Text} {discovery : Discovery}
    (found : ofPaths root extensions paths = .ok discovery) (name : Text) :
    discovery.path? name = paths.find? fun path => nameOf? root extensions path = some name := by
  have firsts := lookup_map_items (fun _ (paths : List Text) => paths.headD []) name
    (claims root extensions paths)
  rw [path?, (of_paths_ok found).2, ← List.head?_filter]
  refine firsts.trans ?_
  rw [lookup_claims]
  change Option.map _ _ = (pathsOf root extensions paths name).head?
  cases pathsOf root extensions paths name <;> rfl

/-- A template has a path, which is listed and gives it its name. -/
theorem path_of_role {paths : List Text} {discovery : Discovery}
    (found : ofPaths root extensions paths = .ok discovery) (role : Role) {name : Text}
    (member : name ∈ discovery.ofRole role) :
    ∃ path ∈ paths, discovery.path? name = some path ∧
      nameOf? root extensions path = some name := by
  obtain ⟨listed, inPaths, gives⟩ := ((mem_of_role found role).mp member).1
  rw [path_of_name found]
  cases first : paths.find? fun path => nameOf? root extensions path = some name with
  | none =>
      have absent := List.find?_eq_none.mp first listed inPaths
      exact absurd (decide_eq_true gives) absent
  | some path =>
      have gives := List.find?_some first
      exact ⟨path, List.mem_of_find?_eq_some first, rfl, of_decide_eq_true gives⟩

theorem increasing_distinct {names : List Text}
    (increasing : names.Pairwise fun first second => Text.precedes first second = true) :
    names.Nodup := by
  refine increasing.imp ?_
  rintro first second before same
  rw [same, Text.precedes_irrefl] at before
  cases before

theorem pages_distinct {paths : List Text} {discovery : Discovery}
    (found : ofPaths root extensions paths = .ok discovery) : discovery.pages.Nodup :=
  increasing_distinct (role_increasing found .page)

theorem base_distinct {paths : List Text} {discovery : Discovery}
    (found : ofPaths root extensions paths = .ok discovery) : discovery.base.Nodup := by
  refine List.nodup_append.mpr ⟨increasing_distinct (role_increasing found .layout),
    increasing_distinct (role_increasing found .partialRole), ?_⟩
  intro layout left partialName right same
  have isLayout := ((mem_of_role found .layout).mp left).2
  have isPartial := ((mem_of_role found .partialRole).mp right).2
  rw [same, isPartial] at isLayout
  cases isLayout

/-- A page is neither a layout nor a partial. -/
theorem page_not_in_base {paths : List Text} {discovery : Discovery}
    (found : ofPaths root extensions paths = .ok discovery) {name : Text}
    (isPage : name ∈ discovery.pages) : name ∉ discovery.base := by
  have role := ((mem_of_role found .page).mp isPage).2
  intro inBase
  rcases List.mem_append.mp inBase with layout | partialName
  · have other := ((mem_of_role found .layout).mp layout).2
    rw [role] at other
    cases other
  · have other := ((mem_of_role found .partialRole).mp partialName).2
    rw [role] at other
    cases other

theorem path_of_base {paths : List Text} {discovery : Discovery}
    (found : ofPaths root extensions paths = .ok discovery) {name : Text}
    (inBase : name ∈ discovery.base) :
    ∃ path ∈ paths, discovery.path? name = some path ∧
      nameOf? root extensions path = some name := by
  rcases List.mem_append.mp inBase with layout | partialName
  · exact path_of_role found .layout layout
  · exact path_of_role found .partialRole partialName

end

theorem of_source_listed {disk : Node} {source : Source} {root : Text} {extensions paths : List Text}
    (listed : source.list disk = .ok paths) :
    ofSource disk source root extensions = (ofPaths root extensions paths).mapError .fault := by
  rw [ofSource, listed]
  rfl

theorem of_source_error {disk : Node} {source : Source} {root : Text} {extensions : List Text}
    {problem : Problem} :
    ofSource disk source root extensions = .error problem ↔
      source.list disk = .error problem ∨
      ∃ paths fault, source.list disk = .ok paths ∧ ofPaths root extensions paths = .error fault ∧
        problem = .fault fault := by
  cases listed : source.list disk with
  | error other =>
      rw [ofSource, listed]
      simp [bind, Except.bind]
  | ok paths =>
      rw [of_source_listed listed]
      cases outcome : ofPaths root extensions paths with
      | error fault => simp [Except.mapError, outcome, eq_comm]
      | ok discovery => simp [Except.mapError, outcome]

theorem of_source_ok {disk : Node} {source : Source} {root : Text} {extensions : List Text}
    {discovery : Discovery} (found : ofSource disk source root extensions = .ok discovery) :
    ∃ paths, source.list disk = .ok paths ∧ ofPaths root extensions paths = .ok discovery := by
  cases listed : source.list disk with
  | error problem =>
      rw [of_source_error.mpr (.inl listed)] at found
      cases found
  | ok paths =>
      rw [of_source_listed listed] at found
      refine ⟨paths, rfl, ?_⟩
      cases outcome : ofPaths root extensions paths <;> rw [outcome] at found <;> cases found
      rfl

/-- A path of which a template has its name is enough for a source with the template. -/
theorem of_single_path {root path name : Text} {extensions : List Text}
    (given : nameOf? root extensions path = some name) (disk : Node) (content : Bytes) :
    ∃ discovery, ofSource disk (.mapping [(path, content)]) root extensions = .ok discovery ∧
      name ∈ discovery.ofRole (Role.ofName name) := by
  have claimed : claims root extensions [path] = [(name, [path])] := by
    simp [claims, given, claim]
  have found : ∃ discovery, ofPaths root extensions [path] = .ok discovery := by
    rw [ofPaths, claimed]
    exact ⟨_, rfl⟩
  obtain ⟨discovery, found⟩ := found
  refine ⟨discovery, ?_, (mem_of_role found _).mpr ⟨⟨path, List.mem_singleton_self path, given⟩, rfl⟩⟩
  have listed : (Source.mapping [(path, content)]).list disk = .ok [path] := rfl
  rw [of_source_listed listed, found]
  rfl

/-- The name that a path gives is in normal form, and is the normal form of the path without the root. -/
theorem name_normal {root path name : Text} {extensions : List Text}
    (given : nameOf? root extensions path = some name) :
    Path.IsNormal name ∧ opening root ++ name = Path.templateName path := by
  have named := (name_of_path.mp given).2
  have whole := Path.template_name_is_normal path
  refine ⟨?_, named.symm⟩
  rw [named, opening] at whole
  split at whole
  · exact whole
  · rw [List.append_assoc] at whole
    exact whole.behind

/-- Template names are normal forms of paths, as the paths are told apart by their segments; and the names
that are found below a root are normal forms themselves, of the paths without the root. -/
theorem names_normal :
    (∀ path, Path.IsNormal (Path.templateName path) ∧
      Path.templateName (Path.templateName path) = Path.templateName path) ∧
    (∀ first second, Path.templateName first = Path.templateName second ↔
      Path.segments first = Path.segments second) ∧
    (∀ outer inner, Path.templateName (outer ++ Path.slash :: inner) =
      Path.below (Path.templateName outer) (Path.templateName inner)) ∧
    ∀ disk source root extensions discovery,
      ofSource disk source root extensions = .ok discovery →
      ∀ role, ∀ name ∈ discovery.ofRole role,
        Path.IsNormal name ∧ Path.templateName name = name ∧
          ∃ path, discovery.path? name = some path ∧
            opening root ++ name = Path.templateName path := by
  refine ⟨fun path => ⟨Path.template_name_is_normal path, Path.template_name_again path⟩,
    fun first second => Path.template_name_eq_iff, Path.template_name_below, ?_⟩
  intro disk source root extensions discovery found role name member
  obtain ⟨paths, _, listed⟩ := of_source_ok found
  obtain ⟨path, _, located, gives⟩ := path_of_role listed role member
  obtain ⟨normal, whole⟩ := name_normal gives
  exact ⟨normal, Path.is_normal_iff.mp normal, path, located, whole⟩

/-- A page below a root, under a path with marks of both kinds. -/
def bentFiles : Source := .mapping [("\\templates//user\\list.html/", [])]

set_option maxRecDepth 2000 in
theorem names_normal_below_templates :
    ∃ discovery, ofSource .empty bentFiles "/templates" [".html"] = .ok discovery ∧
      (("user/list.html" : Text) ∈ discovery.pages) ∧ Path.IsNormal "user/list.html" := by
  obtain ⟨discovery, found, page⟩ := of_single_path
    (show nameOf? "/templates" [".html"] "\\templates//user\\list.html/" = some "user/list.html" by decide)
    .empty []
  have listed : (("user/list.html" : Text) ∈ discovery.pages) := page
  exact ⟨discovery, found, listed, (names_normal.2.2.2 _ _ _ _ _ found .page _ listed).1⟩

end PageTemplates.Discovery
