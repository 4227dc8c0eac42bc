import PageTemplates.Proofs.Discovery

/-!
Discovery as a classification. Of the paths of a listing those count that lie below the root and have
one of the extensions. If two of them have one normal form, discovery ends with a fault that tells the
name of the earliest path that is not alone; otherwise every such path stands for one name, and every
name for one path and in one role.
-/

namespace PageTemplates.Discovery

open Entries

section

variable (root : Text) (extensions : List Text)

/-- A path that counts as a template: it lies below the root, as everything does below an empty one, and
ends with an extension. -/
structure Eligible (path : Text) : Prop where
  below : Path.templateName root = [] ∨
    Path.templateName root ++ [Path.slash] <+: Path.templateName path
  ends : ∃ extension ∈ extensions, extension <:+ Path.templateName path

/-- A path that counts as the template of a name: the name is the normal form of the path without the
root before it. -/
structure Gives (path name : Text) : Prop where
  eligible : Eligible root extensions path
  named : Path.templateName path = opening root ++ name

/-- A name that two places of a listing give. -/
def Doubled (paths : List Text) (name : Text) : Prop :=
  ∃ first second, [first, second].Sublist paths ∧
    Gives root extensions first name ∧ Gives root extensions second name

/-- Two places of a listing count as templates and have one normal form. -/
def Clash (paths : List Text) : Prop :=
  ∃ first second, [first, second].Sublist paths ∧ Eligible root extensions first ∧
    Eligible root extensions second ∧ Path.templateName first = Path.templateName second

/-- A name that several places of a listing give, the first of them before those of all other such
names. -/
def EarliestDoubled (paths : List Text) (name : Text) : Prop :=
  Doubled root extensions paths name ∧
    ∃ before path after, paths = before ++ path :: after ∧ Gives root extensions path name ∧
      ∀ earlier ∈ before, ∀ other, Gives root extensions earlier other →
        ¬Doubled root extensions paths other

/-- What discovery makes of a listing: three strictly increasing lists that have nothing in common, in
which every name stands in the role that its start tells, and the path of each name. -/
structure Classifies (paths : List Text) (discovery : Discovery) : Prop where
  increasing : ∀ role,
    (discovery.ofRole role).Pairwise fun first second => Text.precedes first second = true
  disjoint : ∀ role other, role ≠ other →
    List.Disjoint (discovery.ofRole role) (discovery.ofRole other)
  layouts : ∀ name, name ∈ discovery.layouts ↔
    (∃ path ∈ paths, Gives root extensions path name) ∧ Role.layoutsOpening <+: name
  partials : ∀ name, name ∈ discovery.partials ↔
    (∃ path ∈ paths, Gives root extensions path name) ∧ Role.partialsOpening <+: name
  pages : ∀ name, name ∈ discovery.pages ↔
    (∃ path ∈ paths, Gives root extensions path name) ∧
      ¬Role.layoutsOpening <+: name ∧ ¬Role.partialsOpening <+: name
  located : ∀ name path, discovery.path? name = some path ↔
    path ∈ paths ∧ Gives root extensions path name

variable {root extensions}

theorem gives_iff {path name : Text} :
    Gives root extensions path name ↔ nameOf? root extensions path = some name := by
  rw [name_of_path]
  constructor
  · exact fun gives => ⟨gives.eligible.ends, gives.named⟩
  · rintro ⟨ends, named⟩
    refine ⟨⟨?_, ends⟩, named⟩
    rw [opening] at named
    split at named
    · rename_i empty
      exact .inl (List.isEmpty_iff.mp empty)
    · exact .inr ⟨name, named.symm⟩

instance (path name : Text) : Decidable (Gives root extensions path name) :=
  decidable_of_iff (nameOf? root extensions path = some name) gives_iff.symm

/-- What counts as a template gives a name. -/
theorem gives_of_eligible {path : Text} (eligible : Eligible root extensions path) :
    ∃ name, Gives root extensions path name := by
  by_cases empty : Path.templateName root = []
  · exact ⟨Path.templateName path, eligible, by rw [opening, empty]; rfl⟩
  · obtain ⟨name, named⟩ := eligible.below.resolve_left empty
    refine ⟨name, eligible, ?_⟩
    rw [opening, if_neg (by simpa using empty), named]

theorem same_form {first second name : Text} (left : Gives root extensions first name) :
    Gives root extensions second name ↔
      Eligible root extensions second ∧ Path.templateName first = Path.templateName second :=
  ⟨fun right => ⟨right.eligible, left.named.trans right.named.symm⟩,
    fun right => ⟨right.1, right.2 ▸ left.named⟩⟩

theorem clash_iff {paths : List Text} :
    Clash root extensions paths ↔ ∃ name, Doubled root extensions paths name := by
  constructor
  · rintro ⟨first, second, places, left, right, same⟩
    obtain ⟨name, gives⟩ := gives_of_eligible left
    exact ⟨name, first, second, places, gives, (same_form gives).mpr ⟨right, same⟩⟩
  · rintro ⟨name, first, second, places, left, right⟩
    exact ⟨first, second, places, left.eligible, right.eligible, ((same_form left).mp right).2⟩

/-- A name is doubled if more than one path of the listing gives it. -/
theorem doubled_iff {paths : List Text} {name : Text} :
    Doubled root extensions paths name ↔ 1 < (pathsOf root extensions paths name).length := by
  simp only [Doubled, gives_iff]
  constructor
  · rintro ⟨first, second, places, left, right⟩
    have kept := (places.filter fun path => decide (nameOf? root extensions path = some name))
    rw [List.filter_cons_of_pos (by simpa using left),
      List.filter_cons_of_pos (by simpa using right)] at kept
    exact kept.length_le
  · intro many
    match listed : pathsOf root extensions paths name, many with
    | first :: second :: rest, _ =>
        have gives : ∀ path ∈ pathsOf root extensions paths name,
            nameOf? root extensions path = some name :=
          fun path member => of_decide_eq_true (List.mem_filter.mp member).2
        have start : [first, second].Sublist (pathsOf root extensions paths name) := by
          rw [listed]
          exact ((List.nil_sublist rest).cons_cons second).cons_cons first
        refine ⟨first, second, start.trans List.filter_sublist, gives first ?_, gives second ?_⟩ <;>
          simp [listed]

variable (root extensions) in
/-- The paths that a name is claimed by are all the paths that give it. -/
theorem paths_of_claim {paths claimants : List Text} {name : Text}
    (claimed : (name, claimants) ∈ claims root extensions paths) :
    claimants = pathsOf root extensions paths name := by
  have found := lookup_of_mem (claims_names_distinct root extensions paths) claimed
  rw [lookup_claims] at found
  split at found <;> cases found
  rfl

variable (root extensions) in
/-- Names are claimed in the order of their first paths: whatever is given before the first path of a
name is claimed before the name. -/
theorem first_path {paths before after : List Text} {name : Text}
    (split : (claims root extensions paths).map Prod.fst = before ++ name :: after) :
    ∃ front path rest, paths = front ++ path :: rest ∧ nameOf? root extensions path = some name ∧
      ∀ earlier ∈ front, ∀ other, nameOf? root extensions earlier = some other → other ∈ before := by
  induction paths using List.reverseRecOn generalizing before after with
  | nil => simp [claims] at split
  | append_singleton paths last ih =>
      have older : ∀ {after : List Text},
          (claims root extensions paths).map Prod.fst = before ++ name :: after →
          ∃ front path rest, paths ++ [last] = front ++ path :: rest ∧
            nameOf? root extensions path = some name ∧
            ∀ earlier ∈ front, ∀ other, nameOf? root extensions earlier = some other →
              other ∈ before := by
        intro after split
        obtain ⟨front, path, rest, rfl, gives, earliest⟩ := ih split
        exact ⟨front, path, rest ++ [last], by simp, gives, earliest⟩
      rw [claims_append] at split
      cases given : nameOf? root extensions last with
      | none =>
          rw [given] at split
          exact older split
      | some newest =>
          simp only [given, claim_names] at split
          split_ifs at split with known
          · exact older split
          · rcases List.eq_nil_or_concat after with rfl | ⟨others, final, rfl⟩
            · obtain ⟨names, same⟩ := List.append_inj' split rfl
              cases same
              refine ⟨paths, last, [], rfl, given, fun earlier member other gives => ?_⟩
              rw [← names]
              exact (mem_claims_names root extensions).mpr ⟨earlier, member, gives⟩
            · rw [List.concat_eq_append, ← List.cons_append, ← List.append_assoc] at split
              exact older (List.append_inj' split rfl).1

/-- Discovery fails with the first name that is claimed twice. -/
theorem of_paths_error {paths : List Text} {fault : Fault}
    (failed : ofPaths root extensions paths = .error fault) :
    ∃ name, EarliestDoubled root extensions paths name ∧
      fault = .duplicate (.text name) (Text.sorted (pathsOf root extensions paths name)) := by
  simp only [ofPaths] at failed
  split at failed
  · rename_i name claimants found
    cases failed
    obtain ⟨many, before, after, split, single⟩ := List.find?_eq_some_iff_append.mp found
    have claimed : ∀ entry ∈ before ++ (name, claimants) :: after,
        entry.2 = pathsOf root extensions paths entry.1 :=
      fun entry member => paths_of_claim root extensions (split ▸ member)
    have own : claimants = pathsOf root extensions paths name := claimed (name, claimants) (by simp)
    have doubled : Doubled root extensions paths name :=
      doubled_iff.mpr (own ▸ of_decide_eq_true many)
    have names : (claims root extensions paths).map Prod.fst =
        before.map Prod.fst ++ name :: after.map Prod.fst := by
      rw [split, List.map_append, List.map_cons]
    obtain ⟨front, path, rest, listed, gives, earliest⟩ := first_path root extensions names
    refine ⟨name, ⟨doubled, front, path, rest, listed, gives_iff.mpr gives, ?_⟩, own ▸ rfl⟩
    intro earlier member other given twice
    obtain ⟨entry, among, rfl⟩ := List.mem_map.mp (earliest earlier member other (gives_iff.mp given))
    have alone := single entry among
    rw [claimed entry (List.mem_append_left _ among)] at alone
    exact absurd (doubled_iff.mp twice) (by simpa using alone)
  · cases failed

theorem of_paths_ok_iff {paths : List Text} :
    (∃ discovery, ofPaths root extensions paths = .ok discovery) ↔
      ¬Clash root extensions paths := by
  rw [clash_iff, not_exists]
  constructor
  · rintro ⟨discovery, found⟩ name doubled
    have known : name ∈ (claims root extensions paths).map Prod.fst := by
      obtain ⟨first, _, places, gives, _⟩ := doubled
      exact (mem_claims_names root extensions).mpr
        ⟨first, places.subset List.mem_cons_self, gives_iff.mp gives⟩
    obtain ⟨⟨label, claimants⟩, member, rfl⟩ := List.mem_map.mp known
    simp only [ofPaths] at found
    split at found
    · cases found
    · rename_i single
      have one := List.find?_eq_none.mp single _ member
      rw [paths_of_claim root extensions member] at one
      exact absurd (doubled_iff.mp doubled) (by simpa using one)
  · intro single
    cases found : ofPaths root extensions paths with
    | ok discovery => exact ⟨discovery, rfl⟩
    | error fault =>
        obtain ⟨name, earliest, _⟩ := of_paths_error found
        exact absurd earliest.1 (single name)

/-- No name starts as layouts and as partials do. -/
theorem openings_apart {name : Text} (layout : Role.layoutsOpening <+: name) :
    ¬Role.partialsOpening <+: name := by
  rintro ⟨rest, same⟩
  obtain ⟨others, rfl⟩ := layout
  cases same

/-- The start of a name tells its role. -/
theorem role_of_name (name : Text) (role : Role) :
    Role.ofName name = role ↔
      match role with
      | .layout => Role.layoutsOpening <+: name
      | .partialRole => Role.partialsOpening <+: name
      | .page => ¬Role.layoutsOpening <+: name ∧ ¬Role.partialsOpening <+: name := by
  have told : Role.ofName name =
      if Role.layoutsOpening <+: name then .layout
      else if Role.partialsOpening <+: name then .partialRole else .page := by
    simp only [Role.ofName, Text.starts_with_prefix]
  by_cases layout : Role.layoutsOpening <+: name
  · have notPartial := openings_apart layout
    rw [told, if_pos layout]
    cases role <;> simp [layout, notPartial]
  · rw [told, if_neg layout]
    by_cases partialName : Role.partialsOpening <+: name
    · cases role <;> simp [layout, partialName]
    · cases role <;> simp [layout, partialName]

theorem of_paths_classifies {paths : List Text} {discovery : Discovery}
    (found : ofPaths root extensions paths = .ok discovery) :
    Classifies root extensions paths discovery := by
  have sorted : ∀ role name, name ∈ discovery.ofRole role ↔
      (∃ path ∈ paths, Gives root extensions path name) ∧ Role.ofName name = role := by
    intro role name
    rw [mem_of_role found]
    simp only [gives_iff]
  refine ⟨role_increasing found, ?_, ?_, ?_, ?_, ?_⟩
  · intro role other apart name left right
    exact apart (((sorted role name).mp left).2.symm.trans ((sorted other name).mp right).2)
  · exact fun name => (sorted .layout name).trans (and_congr_right fun _ => role_of_name name _)
  · exact fun name => (sorted .partialRole name).trans
      (and_congr_right fun _ => role_of_name name _)
  · exact fun name => (sorted .page name).trans (and_congr_right fun _ => role_of_name name _)
  · intro name path
    have one : ¬1 < (pathsOf root extensions paths name).length := fun many =>
      of_paths_ok_iff.mp ⟨discovery, found⟩ (clash_iff.mpr ⟨name, doubled_iff.mpr many⟩)
    have member : path ∈ paths ∧ Gives root extensions path name ↔
        path ∈ pathsOf root extensions paths name := by
      rw [gives_iff, pathsOf, List.mem_filter, decide_eq_true_eq]
    rw [path_of_name found, ← List.head?_filter, member]
    change (pathsOf root extensions paths name).head? = some path ↔ _
    rcases few : pathsOf root extensions paths name with _ | ⟨only, _ | ⟨second, others⟩⟩
    · simp
    · simp [eq_comm]
    · exact absurd (few ▸ Nat.one_lt_succ_succ others.length) one

/-- Discovery is a total classification. It ends with a fault exactly if two places of the listing clash,
and then tells the name whose first path comes earliest, with all its paths in order; otherwise it
sorts every template into one role. -/
theorem listings_classified (root : Text) (extensions paths : List Text) :
    (Clash root extensions paths ∧ ∃ name claimants,
      ofPaths root extensions paths = .error (.duplicate (.text name) claimants) ∧
      EarliestDoubled root extensions paths name ∧ Text.Ordered claimants ∧
      ∀ path, claimants.count path =
        if Gives root extensions path name then paths.count path else 0) ∨
    (¬Clash root extensions paths ∧ ∃ discovery,
      ofPaths root extensions paths = .ok discovery ∧
      Classifies root extensions paths discovery) := by
  cases found : ofPaths root extensions paths with
  | ok discovery =>
      exact .inr ⟨of_paths_ok_iff.mp ⟨discovery, found⟩, discovery, rfl, of_paths_classifies found⟩
  | error fault =>
      obtain ⟨name, earliest, rfl⟩ := of_paths_error found
      refine .inl ⟨clash_iff.mpr ⟨name, earliest.1⟩, name, _, rfl, earliest,
        Text.sorted_ordered _, fun path => ?_⟩
      rw [(Text.sorted_perm _).count_eq, pathsOf]
      split
      · rename_i gives
        exact List.count_filter (decide_eq_true (gives_iff.mp gives))
      · rename_i foreign
        refine List.count_eq_zero.mpr fun member => foreign (gives_iff.mpr ?_)
        exact of_decide_eq_true (List.mem_filter.mp member).2

end

end PageTemplates.Discovery
