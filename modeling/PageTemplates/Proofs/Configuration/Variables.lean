import PageTemplates.Proofs.Configuration.Frames
import PageTemplates.Proofs.Configuration.Load
import PageTemplates.Proofs.Text.Split

/-!
Variables as layers. A variable does to a configuration what merging the data would do that has its value at
its path, unless both the value and what stands at the path are mappings: then the value takes the place
of what stands there. Variables whose paths part from one another may come in any order.
-/

namespace PageTemplates

theorem Variable.path_listed {leading name : Text} {path : List Text}
    (spelled : path? leading name = some path) : path ≠ [] := by
  obtain ⟨rest, _, rfl⟩ := Option.map_eq_some_iff.mp spelled
  exact Text.split_listed _ _

namespace Configuration

/-- A value that is a mapping itself comes to a path at which a mapping stands. -/
def Clash (so : Configuration) (path : List Text) (value : Data) : Prop :=
  (∃ entries, value = .dict entries) ∧ ∃ number, so.at? (keysOf path) = some (.mapping number)

/-- A variable whose value cannot be read is no setting. Any other leads to what merging the data with its
value at its path leads to, where merging gets that far down, except for a mapping that comes to the place
of a mapping. If the mappings that the path goes through stand in one place each, its value is read there,
and all that stands at paths that part from it is as it was. -/
theorem variable_merged {leading : Text} {given : Variable} {so : Configuration} (sound : so.Sound)
    {path : List Text} (spelled : Variable.path? leading given.name = some path) :
    (∀ failure, Variable.dataOf given.text = .error failure →
        given.apply leading so = .error failure) ∧
      ∀ value, Variable.dataOf given.text = .ok value →
        ∃ next layer, given.apply leading so = .ok next ∧
          layerOfData (nested path value) = .ok layer ∧
          (¬so.Clash path value →
            (∃ other, so.merged layer = .ok other ∧ next.Alike other) ∨
              (so.merged layer = .error .tooDeep ∧ depthLimit < path.length)) ∧
          (so.Solitary path →
            (∃ found, next.at? (keysOf path) = some found ∧ found.Shows next.cells value) ∧
              ∀ keys, Apart path keys → so.Kept next keys) := by
  have listed := Variable.path_listed spelled
  constructor
  · intro failure unread
    rw [Variable.apply, spelled]
    simp only [unread]
    rfl
  · intro value read
    obtain ⟨layer, layered, made⟩ : ∃ layer, layerOfData (nested path value) = .ok layer ∧
        (Tree.mapping layer.root).Made layer.cells (nested path value) := by
      obtain ⟨name, path, rfl⟩ := List.exists_cons_of_ne_nil listed
      exact ⟨_, rfl, made_ofEntries _⟩
    refine ⟨so.assigned path value, layer, ?_, layered, fun plain => ?_, fun solitary => ?_⟩
    · rw [Variable.apply, spelled]
      simp only [read]
      rfl
    · obtain ⟨front, target, name, rest, rfl, leaves⟩ := leaves_exists so.cells path listed so.root
      obtain ⟨tree, replaced⟩ := assigned_replaced sound leaves value
      have replaces : rest = [] → (∃ entries, value = .dict entries) →
          ∀ inner, (so.cells.entries target).get? (.text name) ≠ some (.mapping inner) := by
        rintro rfl dict inner known
        refine plain ⟨dict, inner, ?_⟩
        rw [at?, keysOf, List.map_append, Tree.at_append, ← keysOf, leaves.here, Option.bind_some,
          List.map_cons, Tree.at_mapping, known]
        rfl
      rcases merged_replaced sound leaves made replaces with ⟨other, also, merged, root, put⟩ | ⟨failed, deep⟩
      · exact .inl ⟨other, merged, alike_of_replaced sound rfl root replaced put⟩
      · refine .inr ⟨failed, ?_⟩
        rw [List.length_append, List.length_cons]
        omega
    · have given := assigned_given sound listed (variable_proper read) solitary
      obtain ⟨found, leads, built⟩ := given.value
      exact ⟨⟨found, leads, built.shows⟩, given.kept⟩

/-- Whether all mappings that a path comes to stand in one place. -/
def goesLone (so : Configuration) (bound : Nat) (path : List Text) : Bool :=
  path.inits.all fun front =>
    match so.at? (keysOf front) with
    | some (.mapping number) => so.lone bound number
    | _ => true

theorem solitary_of_goesLone {so : Configuration} {bound : Nat} {path : List Text}
    (checked : so.goesLone bound path = true) : so.Solitary path := by
  intro front opening _ number leads
  have here := List.all_eq_true.mp checked front ((List.mem_inits _ _).mpr opening)
  rw [leads] at here
  exact one_place here

/-- A section with two settings. -/
def debugPages : Configuration :=
  ofEntries [(.text "templates", .dict [(.text "mode", .text "debug"), (.text "root", .text "pages")])]

theorem debugPages_sound : debugPages.Sound := by
  refine sound_ofEntries (List.forall_mem_singleton.mpr rfl) (List.pairwise_singleton _ _)
    (List.forall_mem_singleton.mpr (.dict ?_ ?_ ?_))
  · exact List.forall_mem_cons.mpr ⟨rfl, List.forall_mem_singleton.mpr rfl⟩
  · exact List.pairwise_pair.mpr (by decide +kernel)
  · exact List.forall_mem_cons.mpr
      ⟨Data.proper_of_key rfl, List.forall_mem_singleton.mpr (Data.proper_of_key rfl)⟩

theorem mode_merged : ∃ next layer other,
    Variable.apply "S_" debugPages ⟨"S_TEMPLATES__MODE", "release"⟩ = .ok next ∧
      layerOfData (nested ["templates", "mode"] (.text "release")) = .ok layer ∧
      debugPages.merged layer = .ok other ∧ next.Alike other ∧
      debugPages.Kept next (keysOf ["templates", "root"]) := by
  let mode : List Text := ["templates", "mode"]
  let given : Variable := ⟨"S_TEMPLATES__MODE", "release"⟩
  have spelled : Variable.path? "S_" given.name = some mode := by decide +kernel
  have read : Variable.dataOf given.text = .ok (.text "release") := rfl
  have alone : debugPages.Solitary mode :=
    solitary_of_goesLone (show debugPages.goesLone 4 mode = true by decide +kernel)
  obtain ⟨next, layer, applied, layered, merged, kept⟩ :=
    (variable_merged debugPages_sound spelled).2 _ read
  have apart : Apart mode (keysOf ["templates", "root"]) := .inr (.inl (by decide +kernel))
  rcases merged (by rintro ⟨⟨_, same⟩, _⟩; cases same) with ⟨other, also, alike⟩ | ⟨_, deep⟩
  · exact ⟨next, layer, other, applied, layered, also, alike, (kept alone).2 _ apart⟩
  · exact absurd deep (by decide)

/-- A configuration with values given to settings, one after the other. -/
def settle (so : Configuration) (settings : List (List Text × Data)) : Configuration :=
  settings.foldl (fun so setting => so.assigned setting.1 setting.2) so

/-- Settings whose paths part from one another, each through mappings that stand in one place. -/
structure Separate (so : Configuration) (settings : List (List Text × Data)) : Prop where
  listed : ∀ setting ∈ settings, setting.1 ≠ []
  proper : ∀ setting ∈ settings, setting.2.Proper
  apart : settings.Pairwise fun one other => ¬one.1 <+: other.1 ∧ ¬other.1 <+: one.1
  solitary : ∀ setting ∈ settings, so.Solitary setting.1

/-- What giving values to settings leads to. -/
structure Settled (so done : Configuration) (settings : List (List Text × Data)) : Prop where
  root : done.root = so.root
  sound : done.Sound
  values : ∀ setting ∈ settings,
    ∃ found, done.at? (keysOf setting.1) = some found ∧ found.Made done.cells setting.2
  ways : ∀ setting ∈ settings, ∀ front, front <+: setting.1 → front ≠ setting.1 →
    ∃ number, done.at? (keysOf front) = some (.mapping number)
  kept : ∀ keys, (∀ setting ∈ settings, Apart setting.1 keys) → so.Kept done keys

section Settle

variable {so next done other : Configuration} {settings : List (List Text × Data)}

theorem Kept.trans {path : List Data} (first : so.Kept next path) (second : next.Kept done path) :
    so.Kept done path := by
  obtain ⟨root, same, agree⟩ := first
  obtain ⟨next_root, next_same, next_agree⟩ := second
  rw [root] at next_same next_agree
  refine ⟨next_root.trans root, next_same.trans same, fun found leads number reach => ?_⟩
  have within := agree found leads
  rw [next_agree found (same.trans leads) number ((Tree.agree_reach within).mpr reach), within number reach]

theorem Kept.same {path : List Data} (kept : so.Kept done path) : done.at? path = so.at? path := by
  rw [at?, at?, kept.1]
  exact kept.2.1

/-- Once one setting has its value, the others part from one another as before. -/
theorem Separate.rest {first : List Text × Data} (separate : Separate so (first :: settings))
    (given : Given so next first.1 first.2) : Separate next settings where
  listed := (List.forall_mem_cons.mp separate.listed).2
  proper := (List.forall_mem_cons.mp separate.proper).2
  apart := (List.pairwise_cons.mp separate.apart).2
  solitary := fun setting member => by
    obtain ⟨beyond, within⟩ := (List.pairwise_cons.mp separate.apart).1 setting member
    exact given.solitary _ beyond within (separate.solitary _ (List.mem_cons_of_mem _ member))

/-- A value is given before others whose paths part from its path. -/
theorem Settled.cons {first : List Text × Data} (given : Given so next first.1 first.2)
    (apart : ∀ setting ∈ settings, ¬first.1 <+: setting.1 ∧ ¬setting.1 <+: first.1)
    (settled : Settled next done settings) : Settled so done (first :: settings) where
  root := settled.root.trans given.root
  sound := settled.sound
  values := by
    refine List.forall_mem_cons.mpr ⟨?_, settled.values⟩
    obtain ⟨found, leads, made⟩ := given.value
    have kept := settled.kept (keysOf first.1) fun setting member =>
      apart_iff.mpr (apart setting member).symm
    have agree := kept.2.2 found leads
    exact ⟨found, kept.same.trans leads, Tree.made_of_agree agree made⟩
  ways := by
    refine List.forall_mem_cons.mpr ⟨fun front opening differs => ?_, settled.ways⟩
    by_cases shared : ∃ setting ∈ settings, front <+: setting.1
    · obtain ⟨setting, member, also⟩ := shared
      refine settled.ways setting member front also ?_
      rintro rfl
      exact (apart setting member).2 opening
    · obtain ⟨number, leads⟩ := given.way front opening differs
      have kept := settled.kept (keysOf front) fun setting member => apart_iff.mpr
        ⟨fun goes => (apart setting member).2 (goes.trans opening),
          fun goes => shared ⟨setting, member, goes⟩⟩
      exact ⟨number, kept.same.trans leads⟩
  kept := fun keys parted => by
    obtain ⟨here, others⟩ := List.forall_mem_cons.mp parted
    exact (given.kept keys here).trans (settled.kept keys others)

/-- After any number of settings, each has its value, and all that stands at paths that part from them is
as it was. -/
theorem settled (sound : so.Sound) (separate : Separate so settings) :
    Settled so (so.settle settings) settings := by
  induction settings generalizing so with
  | nil =>
      exact ⟨rfl, sound, nofun, nofun, fun keys _ => ⟨rfl, rfl, fun _ _ _ _ => rfl⟩⟩
  | cons first rest ih =>
      have proper := separate.proper first List.mem_cons_self
      have given := assigned_given sound (separate.listed first List.mem_cons_self) proper
        (separate.solitary first List.mem_cons_self)
      exact .cons given (List.pairwise_cons.mp separate.apart).1 (ih given.sound (separate.rest given))

/-- A path that does not part from another with one more key ends on its way, or goes on with that key. -/
theorem not_apart_snoc {path front : List Text} {key : Data}
    (met : ¬Apart path (keysOf front ++ [key])) :
    path <+: front ∨ ∃ name more, path = front ++ name :: more ∧ (Data.text name).equals key = true := by
  induction path generalizing front with
  | nil => exact .inl List.nil_prefix
  | cons name path ih =>
      cases front with
      | nil =>
          refine .inr ⟨name, path, rfl, ?_⟩
          by_contra differs
          exact met (.inl (by simpa using differs))
      | cons first front =>
          rw [keysOf, List.map_cons, List.cons_append, ← keysOf, Apart, not_or, Json.text_equals] at met
          obtain ⟨same, below⟩ := met
          obtain rfl : name = first := by simpa using same
          rcases ih below with ends | ⟨key_name, more, rfl, equal⟩
          · exact .inl (List.cons_prefix_cons.mpr ⟨rfl, ends⟩)
          · exact .inr ⟨key_name, more, rfl, equal⟩

/-- Two trees of configurations that settle the same: mappings on the way to settings, one tree that was
there before, or what is made of one value. -/
inductive Paired (so done other : Configuration) (settings : List (List Text × Data)) :
    Tree → Tree → Prop where
  | way {front : List Text} {number inner : Nat} (short : ∀ setting ∈ settings, ¬setting.1 <+: front)
    (first : done.at? (keysOf front) = some (.mapping number))
    (second : other.at? (keysOf front) = some (.mapping inner)) :
    Paired so done other settings (.mapping number) (.mapping inner)
  | old {tree : Tree} (first : tree.Agree so.cells done.cells) (second : tree.Agree so.cells other.cells) :
    Paired so done other settings tree tree
  | value {one two : Tree} {data : Data} (first : one.Made done.cells data)
    (second : two.Made other.cells data) : Paired so done other settings one two

/-- What an old tree has inside is old. -/
theorem matches_old {tree : Tree} (first : tree.Agree so.cells done.cells)
    (second : tree.Agree so.cells other.cells) :
    Tree.Matches done.cells other.cells (Paired so done other settings) tree tree := by
  have part : ∀ part ∈ tree.inside so.cells, Paired so done other settings part part :=
    fun _ inside => .old (Tree.agree_part first inside) (Tree.agree_part second inside)
  cases tree with
  | leaf data => exact .leaf data
  | list items => exact .list (List.forall₂_same.mpr part)
  | tuple items => exact .tuple (List.forall₂_same.mpr part)
  | mapping number =>
      refine .mapping fun key => ?_
      rw [first number (.here number), second number (.here number)]
      refine get_paired rfl (fun place one two here there => ?_) key
      rw [here] at there
      cases there
      exact part _ (List.mem_map_of_mem (List.mem_of_getElem? here))

/-- What a key of a mapping leads to is what the path to the mapping and the key lead to. -/
theorem at_snoc {path : List Data} {number : Nat} (leads : so.at? path = some (.mapping number)) (key : Data) :
    so.at? (path ++ [key]) = (so.cells.entries number).get? key := by
  rw [at?] at leads ⊢
  rw [Tree.at_append, leads, Option.bind_some, Tree.at_mapping]
  exact Option.bind_fun_some _

/-- Mappings on the way to settings have the same keys, with paired values. -/
theorem matches_way (lone : ∀ one ∈ settings, ∀ two ∈ settings, one.1 <+: two.1 → one = two)
    (first : Settled so done settings) (second : Settled so other settings) {front : List Text}
    {number inner : Nat} (short : ∀ setting ∈ settings, ¬setting.1 <+: front)
    (here : done.at? (keysOf front) = some (.mapping number))
    (there : other.at? (keysOf front) = some (.mapping inner)) :
    Tree.Matches done.cells other.cells (Paired so done other settings) (.mapping number)
      (.mapping inner) := by
  refine .mapping fun key => ?_
  by_cases parted : ∀ setting ∈ settings, Apart setting.1 (keysOf front ++ [key])
  · have one := first.kept _ parted
    have two := second.kept _ parted
    rw [← at_snoc here, ← at_snoc there, one.same, two.same]
    cases found : so.at? (keysOf front ++ [key]) with
    | none => exact .none
    | some tree => exact .some (.old (one.2.2 tree found) (two.2.2 tree found))
  · push Not at parted
    obtain ⟨setting, member, met⟩ := parted
    rcases not_apart_snoc met with ends | ⟨name, more, spelled, equal⟩
    · exact absurd ends (short setting member)
    · have fit : (Data.text name).IsKey := rfl
      rw [Entries.get_of_equal fit equal (first.sound.proper number).keys,
        Entries.get_of_equal fit equal (second.sound.proper inner).keys, ← at_snoc here, ← at_snoc there]
      have joined : keysOf front ++ [Data.text name] = keysOf (front ++ [name]) := by
        rw [keysOf, keysOf, List.map_append, List.map_cons, List.map_nil]
      rw [joined]
      by_cases last : more = []
      · subst last
        obtain ⟨one, one_leads, one_made⟩ := first.values setting member
        obtain ⟨two, two_leads, two_made⟩ := second.values setting member
        rw [← spelled, one_leads, two_leads]
        exact .some (.value one_made two_made)
      · have opening : front ++ [name] <+: setting.1 := ⟨more, by rw [spelled]; simp⟩
        have differs : front ++ [name] ≠ setting.1 := by
          rw [spelled]
          simpa using Ne.symm last
        obtain ⟨one, one_leads⟩ := first.ways setting member _ opening differs
        obtain ⟨two, two_leads⟩ := second.ways setting member _ opening differs
        rw [one_leads, two_leads]
        refine .some (.way (fun another among ends => ?_) one_leads two_leads)
        -- A setting on the way is this one, and its path does not end before it ends.
        obtain rfl := lone another among setting member (ends.trans opening)
        exact differs (opening.eq_of_length_le ends.length_le)

/-- Configurations that settle the same are alike. -/
theorem settled_alike (listed : ∀ setting ∈ settings, setting.1 ≠ [])
    (lone : ∀ one ∈ settings, ∀ two ∈ settings, one.1 <+: two.1 → one = two)
    (first : Settled so done settings) (second : Settled so other settings) : done.Alike other := by
  refine ⟨Paired so done other settings, ?_, fun one two paired => ?_⟩
  · refine .way (fun setting member ends => listed setting member (List.prefix_nil.mp ends)) rfl ?_
    exact rfl
  · cases paired with
    | way short here there => exact matches_way lone first second short here there
    | old one two => exact matches_old one two
    | value one two => exact (matches_of_made one two).mono fun _ _ ⟨_, made, also⟩ => .value made also

end Settle

end Configuration

namespace Variable

/-- The path and the value of a variable, if it has a path and can be read. -/
def setting? (leading : Text) (given : Variable) : Option (List Text × Data) :=
  (path? leading given.name).bind fun path => (dataOf given.text).toOption.map fun value => (path, value)

/-- A variable has a path and a value that cannot be read. -/
def Unreadable (leading : Text) (given : Variable) : Prop :=
  (path? leading given.name).isSome ∧ ∃ failure, dataOf given.text = .error failure

/-- The paths of two variables part from one another, if they have any. -/
def Apart (leading : Text) (one two : Variable) : Prop :=
  ∀ path other, path? leading one.name = some path → path? leading two.name = some other →
    ¬path <+: other ∧ ¬other <+: path

section

variable {leading : Text} {given : Variable} {path : List Text} {value : Data}

theorem setting_some : setting? leading given = some (path, value) ↔
    path? leading given.name = some path ∧ dataOf given.text = .ok value := by
  rw [setting?]
  cases path? leading given.name with
  | none => simp
  | some spelled =>
      cases dataOf given.text with
      | error failure => simp [Except.toOption]
      | ok read => simp [Except.toOption]

theorem apply_readable (readable : ¬given.Unreadable leading) (so : Configuration) :
    given.apply leading so = .ok (so.settle (setting? leading given).toList) := by
  rw [apply, setting?]
  cases spelled : path? leading given.name with
  | none => rfl
  | some path =>
      cases read : dataOf given.text with
      | error failure => exact absurd ⟨by rw [spelled]; rfl, failure, read⟩ readable
      | ok value => rfl

theorem apply_unreadable (unread : given.Unreadable leading) (so : Configuration) :
    ∃ failure, given.apply leading so = .error failure := by
  obtain ⟨spelled, failure, read⟩ := unread
  obtain ⟨path, spelled⟩ := Option.isSome_iff_exists.mp spelled
  refine ⟨failure, ?_⟩
  rw [apply, spelled, read]
  rfl

end

end Variable

namespace Configuration

section Order

variable {leading : Text} {given : List Variable} {so : Configuration}

theorem settle_append (so : Configuration) (settings more : List (List Text × Data)) :
    so.settle (settings ++ more) = (so.settle settings).settle more := List.foldl_append

theorem withVariables_readable (readable : ∀ one ∈ given, ¬one.Unreadable leading) (so : Configuration) :
    so.withVariables leading given = .ok (so.settle (given.filterMap (Variable.setting? leading))) := by
  unfold withVariables
  induction given generalizing so with
  | nil => rfl
  | cons first rest ih =>
      obtain ⟨here, others⟩ := List.forall_mem_cons.mp readable
      rw [List.foldlM_cons, Variable.apply_readable here]
      refine (ih others _).trans ?_
      rw [← settle_append]
      cases spelled : Variable.setting? leading first with
      | none => rw [List.filterMap_cons_none spelled]; rfl
      | some setting => rw [List.filterMap_cons_some spelled]; rfl

theorem withVariables_unreadable {one : Variable} (member : one ∈ given) (unread : one.Unreadable leading)
    (so : Configuration) : ∃ failure, so.withVariables leading given = .error failure := by
  unfold withVariables
  induction given generalizing so with
  | nil => cases member
  | cons first rest ih =>
      rw [List.foldlM_cons]
      cases applied : first.apply leading so with
      | error failure => exact ⟨failure, rfl⟩
      | ok next =>
          rcases List.mem_cons.mp member with rfl | among
          · obtain ⟨failure, failed⟩ := Variable.apply_unreadable unread so
            rw [failed] at applied
            cases applied
          · exact ih among next

/-- Variables whose paths part from one another give separate settings. -/
theorem separate_settings (apart : given.Pairwise (Variable.Apart leading))
    (solitary : ∀ one ∈ given, ∀ path, Variable.path? leading one.name = some path → so.Solitary path) :
    Separate so (given.filterMap (Variable.setting? leading)) where
  listed := fun (path, value) member => by
    obtain ⟨one, _, same⟩ := List.mem_filterMap.mp member
    exact Variable.path_listed (Variable.setting_some.mp same).1
  proper := fun (path, value) member => by
    obtain ⟨one, _, same⟩ := List.mem_filterMap.mp member
    exact variable_proper (Variable.setting_some.mp same).2
  apart := by
    refine List.pairwise_filterMap.mpr (apart.imp fun {one two} parted => ?_)
    rintro ⟨path, value⟩ first ⟨other, more⟩ second
    exact parted path other (Variable.setting_some.mp first).1 (Variable.setting_some.mp second).1
  solitary := fun (path, value) member => by
    obtain ⟨one, among, same⟩ := List.mem_filterMap.mp member
    exact solitary one among path (Variable.setting_some.mp same).1

theorem Separate.lone {settings : List (List Text × Data)} (separate : Separate so settings) :
    ∀ one ∈ settings, ∀ two ∈ settings, one.1 <+: two.1 → one = two := by
  intro one first two second opening
  by_contra differs
  have : Std.Symm fun one other : List Text × Data => ¬one.1 <+: other.1 ∧ ¬other.1 <+: one.1 :=
    ⟨fun _ _ parted => parted.symm⟩
  exact (separate.apart.forall first second differs).1 opening

theorem Separate.perm {settings order : List (List Text × Data)} (separate : Separate so settings)
    (perm : order.Perm settings) : Separate so order where
  listed := fun setting member => separate.listed setting (perm.mem_iff.mp member)
  proper := fun setting member => separate.proper setting (perm.mem_iff.mp member)
  apart := separate.apart.perm perm.symm fun parted => parted.symm
  solitary := fun setting member => separate.solitary setting (perm.mem_iff.mp member)

theorem Settled.perm {done : Configuration} {settings order : List (List Text × Data)}
    (settled : Settled so done order) (perm : order.Perm settings) : Settled so done settings where
  root := settled.root
  sound := settled.sound
  values := fun setting member => settled.values setting (perm.mem_iff.mpr member)
  ways := fun setting member => settled.ways setting (perm.mem_iff.mpr member)
  kept := fun keys parted => settled.kept keys fun setting member => parted setting (perm.mem_iff.mp member)

/-- Variables whose paths part from one another, and go through mappings that stand in one place each, may
come in any order. If one cannot be read, then no order leads to a configuration. Otherwise the
configurations that they lead to are alike, each variable has its value, and all that stands at paths that
part from theirs is as it was. -/
theorem order_free (sound : so.Sound) (apart : given.Pairwise (Variable.Apart leading))
    (solitary : ∀ one ∈ given, ∀ path, Variable.path? leading one.name = some path → so.Solitary path) :
    ((∃ one ∈ given, one.Unreadable leading) ∧ ∀ order, order.Perm given →
        ∃ failure, so.withVariables leading order = .error failure) ∨
      ∃ done, so.withVariables leading given = .ok done ∧
        (∀ order, order.Perm given →
          ∃ other, so.withVariables leading order = .ok other ∧ done.Alike other) ∧
        (∀ one ∈ given, ∀ path, Variable.path? leading one.name = some path →
          ∃ value, Variable.dataOf one.text = .ok value ∧
            ((∀ part ∈ path, .scalar '.' ∉ part) → done.get? (Text.join "." path) = some value)) ∧
        ∀ keys, (∀ one ∈ given, ∀ path, Variable.path? leading one.name = some path → Apart path keys) →
          so.Kept done keys := by
  by_cases unread : ∃ one ∈ given, one.Unreadable leading
  · obtain ⟨one, member, broken⟩ := unread
    exact .inl ⟨⟨one, member, broken⟩, fun order perm =>
      withVariables_unreadable (perm.mem_iff.mpr member) broken so⟩
  · push Not at unread
    have separate := separate_settings apart solitary
    have done := settled sound separate
    refine .inr ⟨_, withVariables_readable unread so, fun order perm => ?_, fun one member path spelled => ?_,
      fun keys parted => ?_⟩
    · have same := perm.filterMap (Variable.setting? leading)
      have other := (settled sound (separate.perm same)).perm same
      exact ⟨_, withVariables_readable (fun one member => unread one (perm.mem_iff.mp member)) so,
        settled_alike separate.listed separate.lone done other⟩
    · cases read : Variable.dataOf one.text with
      | error failure => exact absurd ⟨by rw [spelled]; rfl, failure, read⟩ (unread one member)
      | ok value =>
          have setting := List.mem_filterMap.mpr ⟨one, member, Variable.setting_some.mpr ⟨spelled, read⟩⟩
          obtain ⟨found, leads, made⟩ := done.values _ setting
          refine ⟨value, rfl, fun plain => get_of_shows done.sound ?_ made.shows⟩
          have parts : Text.splitAll "." (Text.join "." path) = path :=
            Text.split_join (Variable.path_listed spelled) plain
          rw [parts]
          exact leads
    · refine done.kept keys fun (path, value) member => ?_
      obtain ⟨one, among, same⟩ := List.mem_filterMap.mp member
      exact parted one among path (Variable.setting_some.mp same).1

/-- Two variables below one section, and one beside it. -/
def threeVariables : List Variable :=
  [⟨"S_TEMPLATES__MODE", "release"⟩, ⟨"S_TEMPLATES__PATHS__MAIN", "[1]"⟩, ⟨"S_NAME", "on"⟩]

theorem three_order_free :
    ∃ done other, debugPages.withVariables "S_" threeVariables = .ok done ∧
      debugPages.withVariables "S_" threeVariables.reverse = .ok other ∧ done.Alike other ∧
      done.get? "templates.mode" = some (.text "release") ∧
      debugPages.Kept done (keysOf ["templates", "root"]) := by
  let mode : List Text := ["templates", "mode"]
  let main : List Text := ["templates", "paths", "main"]
  let name : List Text := ["name"]
  have mode_path : Variable.path? "S_" "S_TEMPLATES__MODE" = some mode := by decide +kernel
  have main_path : Variable.path? "S_" "S_TEMPLATES__PATHS__MAIN" = some main := by decide +kernel
  have name_path : Variable.path? "S_" "S_NAME" = some name := by decide +kernel
  have spelled : ∀ (holds : List Text → Prop), holds mode → holds main → holds name →
      ∀ one ∈ threeVariables, ∀ path, Variable.path? "S_" one.name = some path → holds path := by
    intro holds first second third
    refine List.forall_mem_cons.mpr ⟨fun path same => ?_, List.forall_mem_cons.mpr ⟨fun path same => ?_,
      List.forall_mem_singleton.mpr fun path same => ?_⟩⟩
    · rwa [← Option.some.inj (mode_path.symm.trans same)]
    · rwa [← Option.some.inj (main_path.symm.trans same)]
    · rwa [← Option.some.inj (name_path.symm.trans same)]
  have apart : threeVariables.Pairwise (Variable.Apart "S_") := by
    refine List.pairwise_cons.mpr ⟨List.forall_mem_cons.mpr ⟨?_, List.forall_mem_singleton.mpr ?_⟩,
      List.pairwise_pair.mpr ?_⟩
    · intro path other first second
      cases mode_path.symm.trans first
      cases main_path.symm.trans second
      decide +kernel
    · intro path other first second
      cases mode_path.symm.trans first
      cases name_path.symm.trans second
      decide +kernel
    · intro path other first second
      cases main_path.symm.trans first
      cases name_path.symm.trans second
      decide +kernel
  have alone := fun path (checked : debugPages.goesLone 4 path = true) => solitary_of_goesLone checked
  have solitary := spelled debugPages.Solitary (alone _ (by decide +kernel)) (alone _ (by decide +kernel))
    (alone _ (by decide +kernel))
  have read : Variable.dataOf "release" = .ok (.text "release") := rfl
  rcases order_free debugPages_sound apart solitary with ⟨_, failed⟩ | ⟨done, set, orders, values, kept⟩
  · obtain ⟨failure, failed⟩ := failed threeVariables (.refl _)
    have works : (debugPages.withVariables "S_" threeVariables).isOk = true := by decide +kernel
    rw [failed] at works
    cases works
  · obtain ⟨other, also, alike⟩ := orders threeVariables.reverse (List.reverse_perm _)
    obtain ⟨value, same, got⟩ := values _ List.mem_cons_self mode mode_path
    cases read.symm.trans same
    have joined : Text.join "." mode = "templates.mode" := by decide +kernel
    refine ⟨done, other, set, also, alike, ?_, kept _ (spelled (Apart · _) ?_ ?_ ?_)⟩
    · rw [← joined]
      exact got (by decide +kernel)
    · exact .inr (.inl (by decide +kernel))
    · exact .inr (.inl (by decide +kernel))
    · exact .inl (by decide +kernel)

end Order

end Configuration

end PageTemplates
