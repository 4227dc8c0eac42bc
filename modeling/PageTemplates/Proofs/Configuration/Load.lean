import PageTemplates.Configuration.Load
import PageTemplates.Proofs.Configuration.Shown
import PageTemplates.Proofs.Configuration.Tangles
import PageTemplates.Proofs.Json.Read
import PageTemplates.Proofs.Yaml.Document

/-!
Loading a configuration without variables that have the leading text. The files and the overrides are
layers, and what is loaded has exactly the values of the layers that no later layer touches, unless some
layer is merged into a mapping that stands in several places: then a change at one place shows at all.
-/

namespace PageTemplates.Configuration

/-- The layers that a configuration is loaded from: files in the order of their patterns, then overrides. -/
def layers (disk : Node) (sources : ConfigurationSources) : Except LoadFault (List Configuration) := do
  let files ← (sources.patterns.flatMap disk.glob).mapM (layerOfFile disk)
  let overrides ← overrideLayer sources.overrides
  return files.filterMap id ++ overrides.toList

/-- A value comes from one of some layers, and none of those behind it touches its path. -/
def Prevails (layers : List Configuration) (path : List Data) (value : Data) : Prop :=
  ∃ before layer after, layers = before ++ layer :: after ∧ layer.Has path value ∧
    ∀ later ∈ after, ¬later.Touches path

theorem sound_layerOfData {data : Data} (proper : data.Proper) {layer : Configuration}
    (read : layerOfData data = .ok layer) : layer.Sound := by
  cases proper with
  | dict keys distinct values =>
      cases read
      exact sound_ofEntries keys distinct values
  | mapping keys distinct values =>
      cases read
      exact sound_ofEntries keys distinct values
  | other simple =>
      cases data with
      | dict entries => exact ((simple entries).1 rfl).elim
      | mapping entries => exact ((simple entries).2 rfl).elim
      | _ => cases read

theorem sound_layerOfJson {text : Text} {layer : Configuration} (found : layerOfJson text = .ok layer) :
    layer.Sound := by
  unfold layerOfJson at found
  split at found
  · rename_i document read
    exact sound_layerOfData (Json.document_proper read) found
  · split at found <;> cases found

theorem sound_layerOfYaml {text : Text} {layer : Configuration} (found : layerOfYaml text = .ok layer) :
    layer.Sound := by
  unfold layerOfYaml at found
  split at found
  · rename_i document read
    unfold layerOfDocument at found
    split at found
    · rename_i number whole
      cases found
      exact (Yaml.document_sound read).1 number whole
    · rename_i data whole
      split at found
      · exact sound_layerOfData ((Yaml.document_sound read).2 data whole) found
      · cases found
        exact sound_empty
    · split at found
      · cases found
        exact sound_empty
      · cases found
    · cases found
  · cases found
  · cases found

section

variable {disk : Node} {sources : ConfigurationSources}

theorem prevails_cons {layer : Configuration} {rest : List Configuration} {path : List Data}
    {value : Data} :
    Prevails (layer :: rest) path value ↔
      (layer.Has path value ∧ ∀ later ∈ rest, ¬later.Touches path) ∨ Prevails rest path value := by
  constructor
  · rintro ⟨before, given, after, split, has, clear⟩
    cases before with
    | nil =>
        cases split
        exact .inl ⟨has, clear⟩
    | cons first before =>
        cases split
        exact .inr ⟨before, given, after, rfl, has, clear⟩
  · rintro (⟨has, clear⟩ | ⟨before, given, after, rfl, has, clear⟩)
    · exact ⟨[], layer, rest, rfl, has, clear⟩
    · exact ⟨layer :: before, given, after, rfl, has, clear⟩

/-- What layers come to on a configuration. -/
theorem layered_outcome (layers : List Configuration) (so : Configuration) (sound : so.Sound)
    (each : ∀ layer ∈ layers, layer.Sound) (never : NeverTangled so layers) :
    (∃ done, layers.foldlM withLayer so = .ok done ∧ done.Sound ∧ ∀ path value,
        done.Has path value ↔ Prevails layers path value ∨
          (so.Has path value ∧ ∀ layer ∈ layers, ¬layer.Touches path)) ∨
      (layers.foldlM withLayer so = .error (.failed .tooDeep) ∧
        ∃ layer ∈ layers, ¬Shallow layer.cells depthLimit layer.root) := by
  induction layers generalizing so with
  | nil => exact .inl ⟨so, rfl, sound, fun path value => by simp [Prevails]⟩
  | cons layer rest ih =>
      obtain ⟨layer_sound, rest_sound⟩ := List.forall_mem_cons.mp each
      obtain ⟨untangled, later⟩ := never
      rw [List.foldlM_cons]
      rcases merged_outcome sound layer_sound untangled with
        ⟨next, merged, next_has⟩ | ⟨failed, deep⟩
      · rw [withLayer, merged]
        have next_sound := sound_merged sound layer_sound merged
        rcases ih next next_sound rest_sound (later next merged) with
          ⟨done, folded, done_sound, has⟩ | ⟨failed, other, member, deep⟩
        · refine .inl ⟨done, folded, done_sound, fun path value => ?_⟩
          rw [has, next_has, prevails_cons, List.forall_mem_cons]
          tauto
        · exact .inr ⟨failed, other, List.mem_cons_of_mem _ member, deep⟩
      · rw [withLayer, failed]
        exact .inr ⟨rfl, layer, List.mem_cons_self, deep⟩

theorem layerOfFile_sound {path : Text} {layer : Configuration}
    (read : layerOfFile disk path = .ok (some layer)) : layer.Sound := by
  unfold layerOfFile at read
  dsimp only at read
  split at read
  · obtain ⟨text, _, read⟩ := Results.bind_ok.mp read
    obtain ⟨found, parsed, same⟩ := Results.bind_ok.mp read
    cases same
    exact sound_layerOfJson parsed
  · split at read
    · obtain ⟨text, _, read⟩ := Results.bind_ok.mp read
      obtain ⟨found, parsed, same⟩ := Results.bind_ok.mp read
      cases same
      exact sound_layerOfYaml parsed
    · cases read

theorem withFiles_paths (patterns : List Text) (so : Configuration) :
    patterns.foldlM (withFiles disk) so = (patterns.flatMap disk.glob).foldlM (withFile disk) so := by
  induction patterns generalizing so with
  | nil => rfl
  | cons pattern patterns ih =>
      rw [List.flatMap_cons, List.foldlM_append, List.foldlM_cons]
      exact bind_congr fun next => ih next

theorem sound_withLayer {so layer next : Configuration} (sound : so.Sound) (other : layer.Sound)
    (merged : so.withLayer layer = .ok next) : next.Sound := by
  unfold withLayer at merged
  cases result : so.merged layer with
  | error failure =>
      rw [result] at merged
      cases merged
  | ok done =>
      rw [result] at merged
      cases merged
      exact sound_merged sound other result

theorem sound_withFile {so next : Configuration} (sound : so.Sound) {path : Text}
    (merged : withFile disk so path = .ok next) : next.Sound := by
  obtain ⟨file, read, merged⟩ := Results.bind_ok.mp merged
  cases file with
  | none =>
      cases merged
      exact sound
  | some layer => exact sound_withLayer sound (layerOfFile_sound read) merged

theorem sound_files (paths : List Text) {so next : Configuration} (sound : so.Sound)
    (merged : paths.foldlM (withFile disk) so = .ok next) : next.Sound := by
  induction paths generalizing so with
  | nil =>
      cases merged
      exact sound
  | cons path paths ih =>
      rw [List.foldlM_cons] at merged
      obtain ⟨first, here, later⟩ := Results.bind_ok.mp merged
      exact ih (sound_withFile sound here) later

theorem variable_proper {text : Text} {value : Data} (read : Variable.dataOf text = .ok value) :
    value.Proper := by
  unfold Variable.dataOf at read
  dsimp only at read
  split_ifs at read
  · cases read
    exact Data.proper_of_key rfl
  · cases read
    exact Data.proper_of_key rfl
  · split at read
    · cases read
      exact Json.document_proper ‹_›
    · split at read <;> cases read
      exact Data.proper_of_key rfl
  · cases read
    exact Data.proper_of_key rfl

theorem sound_apply {leading : Text} {given : Variable} {so next : Configuration} (sound : so.Sound)
    (applied : given.apply leading so = .ok next) : next.Sound := by
  unfold Variable.apply at applied
  split at applied
  · obtain ⟨value, read, rfl⟩ := Results.map_ok.mp applied
    exact sound_assigned sound (variable_proper read) _
  · cases applied
    exact sound

theorem sound_withVariables {leading : Text} (given : List Variable) {so next : Configuration}
    (sound : so.Sound) (set : so.withVariables leading given = .ok next) : next.Sound := by
  unfold withVariables at set
  induction given generalizing so with
  | nil =>
      cases set
      exact sound
  | cons first rest ih =>
      rw [List.foldlM_cons] at set
      obtain ⟨after, applied, later⟩ := Results.bind_ok.mp set
      exact ih (sound_apply sound applied) later

theorem overrides_sound {overrides : Data} (proper : overrides.Proper) {layer : Configuration}
    (given : overrideLayer overrides = .ok (some layer)) : layer.Sound := by
  unfold overrideLayer at given
  split at given
  · obtain ⟨other, read, same⟩ := Results.map_ok.mp given
    cases same
    exact sound_layerOfData proper read
  · cases given

/-- Whatever is loaded is sound. -/
theorem load_sound {configuration : Configuration} (proper : sources.overrides.Proper)
    (loaded : load disk sources = .ok configuration) : configuration.Sound := by
  obtain ⟨files, merged, loaded⟩ := Results.bind_ok.mp loaded
  obtain ⟨bound, _, loaded⟩ := Results.bind_ok.mp loaded
  obtain ⟨set, assigned, loaded⟩ := Results.bind_ok.mp loaded
  obtain ⟨overrides, given, loaded⟩ := Results.bind_ok.mp loaded
  rw [withFiles_paths] at merged
  have files_sound := sound_files _ sound_empty merged
  have set_sound := sound_withVariables _ files_sound (Results.mapError_ok.mp assigned)
  cases overrides with
  | none =>
      cases loaded
      exact set_sound
  | some layer => exact sound_withLayer set_sound (overrides_sound proper given) loaded

theorem layers_sound {found : List Configuration} (proper : sources.overrides.Proper)
    (read : layers disk sources = .ok found) : ∀ layer ∈ found, layer.Sound := by
  obtain ⟨files, files_read, read⟩ := Results.bind_ok.mp read
  obtain ⟨overrides, given, same⟩ := Results.bind_ok.mp read
  cases same
  intro layer member
  rcases List.mem_append.mp member with from_file | from_overrides
  · obtain ⟨file, among, whole⟩ := List.mem_filterMap.mp from_file
    obtain ⟨path, _, read⟩ := Results.source_of_result (Results.mapM_ok.mp files_read) among
    rw [show file = some layer from whole] at read
    exact layerOfFile_sound read
  · rw [Option.mem_toList] at from_overrides
    cases from_overrides
    exact overrides_sound proper given

theorem withVariables_none {leading : Text} {given : List Variable}
    (foreign : ∀ one ∈ given, Variable.path? leading one.name = none)
    (configuration : Configuration) :
    configuration.withVariables leading given = .ok configuration := by
  unfold withVariables
  induction given with
  | nil => rfl
  | cons first rest ih =>
      obtain ⟨head, others⟩ := List.forall_mem_cons.mp foreign
      rw [List.foldlM_cons, Variable.apply, head]
      exact ih others

/-- Merging files one after the other is merging their layers. -/
theorem withFile_layers {paths : List Text} {files : List (Option Configuration)}
    (read : List.Forall₂ (fun path file => layerOfFile disk path = .ok file) paths files)
    (so : Configuration) :
    paths.foldlM (withFile disk) so = (files.filterMap id).foldlM withLayer so := by
  induction read generalizing so with
  | nil => rfl
  | @cons path file paths files first _ ih =>
      have step : withFile disk so path = file.elim (.ok so) so.withLayer := by
        rw [withFile, first]
        cases file <;> rfl
      rw [List.foldlM_cons, step]
      cases file with
      | some layer =>
          have kept : (some layer :: files).filterMap id = layer :: files.filterMap id := rfl
          rw [kept, List.foldlM_cons]
          exact bind_congr fun next => ih next
      | none =>
          have kept : (none :: files).filterMap id = files.filterMap id := rfl
          rw [kept]
          exact ih so

theorem load_layers {found : List Configuration} {bound : List Variable}
    (read : layers disk sources = .ok found) (set : boundVariables disk sources = .ok bound)
    (foreign : ∀ one ∈ bound ++ sources.surrounding,
      Variable.path? sources.leading one.name = none) :
    load disk sources = found.foldlM withLayer empty := by
  obtain ⟨files, files_read, read⟩ := Results.bind_ok.mp read
  obtain ⟨overrides, given, same⟩ := Results.bind_ok.mp read
  cases same
  rw [load, withFiles_paths, withFile_layers (Results.mapM_ok.mp files_read), List.foldlM_append, set]
  refine bind_congr fun merged => ?_
  dsimp only [Except.bind, bind]
  rw [withVariables_none foreign, given]
  dsimp only [Except.mapError]
  cases overrides with
  | none => rfl
  | some layer =>
      rw [Option.toList_some, List.foldlM_cons]
      change merged.withLayer layer = _
      cases merged.withLayer layer <;> rfl

/-- What is loaded has the values of the layers that no later layer touches, and these are what is read
off it. Loading fails only if the mappings of a layer lie too deep within one another. -/
theorem load_exact {found : List Configuration} {bound : List Variable}
    (read : layers disk sources = .ok found) (set : boundVariables disk sources = .ok bound)
    (foreign : ∀ one ∈ bound ++ sources.surrounding,
      Variable.path? sources.leading one.name = none)
    (proper : sources.overrides.Proper) (never : NeverTangled empty found) :
    (∃ configuration, load disk sources = .ok configuration ∧
        (∀ path value, configuration.Has path value ↔ Prevails found path value) ∧
        ∀ path value, Prevails found ((Text.splitAll "." path).map .text) value →
          configuration.get? path = some value) ∨
      (load disk sources = .error (.failed .tooDeep) ∧
        ∃ layer ∈ found, ¬Shallow layer.cells depthLimit layer.root) := by
  have nothing : ∀ path value, ¬empty.Has path value := by
    intro path value has
    cases path with
    | nil => exact Tree.not_has_here has
    | cons key path =>
        obtain ⟨inner, known, _⟩ := Tree.has_mapping.mp has
        cases known
  rw [load_layers read set foreign]
  rcases layered_outcome found empty sound_empty (layers_sound proper read) never with
    ⟨done, folded, sound, has⟩ | failed
  · have exact_has : ∀ path value, done.Has path value ↔ Prevails found path value := by
      intro path value
      simp [has, nothing]
    refine .inl ⟨done, folded, exact_has, fun path value prevails => ?_⟩
    exact get_of_has sound ((exact_has _ value).mpr prevails)
  · exact .inr failed

/-- A file whose mappings share one, and overrides that lead elsewhere. -/
def sharingDisk : Node :=
  .folder [("a.yaml", .file ((Text.encode "a: &x {k: v}\nb: *x\nc: {z: w}\n").toOption.getD []))]

def apartSources : ConfigurationSources :=
  ⟨["a.yaml"], "S_", none, [], .dict [(.text "c", .dict [(.text "z", .text "n")])]⟩

theorem apart_overrides : apartSources.overrides.Proper := by
  refine .dict ?_ (List.pairwise_singleton _ _) ?_
  · exact List.forall_mem_singleton.mpr rfl
  · refine List.forall_mem_singleton.mpr (.dict ?_ (List.pairwise_singleton _ _) ?_)
    · exact List.forall_mem_singleton.mpr rfl
    · exact List.forall_mem_singleton.mpr (Data.proper_of_key rfl)

set_option maxRecDepth 10000 in
theorem load_exact_beside_sharing :
    ∃ found configuration, layers sharingDisk apartSources = .ok found ∧ found.length = 2 ∧
      load sharingDisk apartSources = .ok configuration ∧
      ∀ path value, configuration.Has path value ↔ Prevails found path value := by
  have checked : (layers sharingDisk apartSources).toOption.map (neverTangled 8 empty) = some true := by
    decide +kernel
  have two : (layers sharingDisk apartSources).toOption.map List.length = some 2 := by decide +kernel
  have loaded : (load sharingDisk apartSources).isOk = true := by decide +kernel
  cases read : layers sharingDisk apartSources with
  | error fault =>
      rw [read] at two
      cases two
  | ok found =>
      rw [read] at checked two
      have never := never_tangled found empty sound_empty (layers_sound apart_overrides read)
        (Option.some.inj checked)
      rcases load_exact read rfl nofun apart_overrides never with
        ⟨configuration, whole, has, _⟩ | ⟨failed, _⟩
      · exact ⟨found, configuration, rfl, Option.some.inj two, whole, has⟩
      · rw [failed] at loaded
        cases loaded

end

end PageTemplates.Configuration
