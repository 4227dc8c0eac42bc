import PageTemplates.Proofs.Settings
import PageTemplates.Proofs.Text.Case
import PageTemplates.Proofs.Text.Split

/-!
Settings are a normal form of the data they are read from: written as data, they are read back as they
are. The mode may be spelled in any case of letters, extensions may stand in one text with commas between
them, and entries that are no settings add nothing but a warning.
-/

namespace PageTemplates

theorem Text.of_string_injective {one other : String} (same : Text.ofString one = Text.ofString other) :
    one = other :=
  String.toList_injective (List.map_injective_iff.mpr (fun _ _ points => CodePoint.scalar.inj points) same)

namespace Settings

section Entries

variable {before after : List (Data × Data)} {key value other : Data} {name : String}

theorem given_cons (key value : Data) (rest : List (Data × Data)) (name : String) :
    given? ((key, value) :: rest) name =
      if key.text? = some (Text.ofString name) then some value else given? rest name := by
  rw [given?, List.findSome?_cons]
  dsimp only
  by_cases named : key.text? = some (Text.ofString name)
  · rw [if_pos named, if_pos named]
  · rw [if_neg named, if_neg named]
    rfl

theorem not_named {first : String} (named : key.text? = some (Text.ofString first)) (apart : first ≠ name) :
    key.text? ≠ some (Text.ofString name) := by
  rw [named]
  exact fun same => apart (Text.of_string_injective (Option.some.inj same))

theorem given_append (before after : List (Data × Data)) (name : String) :
    given? (before ++ after) name = (given? before name).or (given? after name) :=
  List.findSome?_append

theorem given_here (named : key.text? = some (Text.ofString name)) :
    given? (before ++ (key, value) :: after) name = some ((given? before name).getD value) := by
  rw [given_append, given_cons, if_pos named]
  cases given? before name <;> rfl

/-- The value under one key has no part in the other settings. -/
theorem given_elsewhere (apart : key.text? ≠ some (Text.ofString name)) :
    given? (before ++ (key, value) :: after) name = given? (before ++ (key, other) :: after) name := by
  rw [given_append, given_append, given_cons, given_cons, if_neg apart, if_neg apart]

/-- What is no setting has no part in the settings. -/
theorem given_filter (listed : name ∈ names) (entries : List (Data × Data)) :
    given? (entries.filter fun entry => isName entry.1) name = given? entries name := by
  induction entries with
  | nil => rfl
  | cons entry rest ih =>
      obtain ⟨key, value⟩ := entry
      rw [List.filter_cons, given_cons]
      split
      · rw [given_cons, ih]
      · rename_i unknown
        rw [ih, if_neg]
        intro named
        exact unknown (List.any_eq_true.mpr ⟨name, listed, decide_eq_true named⟩)

theorem given_of_mem {entries : List (String × Data)} (distinct : (entries.map Prod.fst).Nodup)
    (member : (name, value) ∈ entries) :
    given? (entries.map fun (name, value) => (.text (Text.ofString name), value)) name = some value := by
  induction entries with
  | nil => cases member
  | cons entry rest ih =>
      obtain ⟨first, content⟩ := entry
      obtain ⟨fresh, later⟩ := List.nodup_cons.mp distinct
      rw [List.map_cons, given_cons]
      rcases List.mem_cons.mp member with here | inside
      · cases here
        exact if_pos rfl
      · have apart : (Data.text (Text.ofString first)).text? ≠ some (Text.ofString name) := by
          intro same
          rw [Text.of_string_injective (Option.some.inj same)] at fresh
          exact fresh (List.mem_map.mpr ⟨_, inside, rfl⟩)
        rw [if_neg apart]
        exact ih later inside

end Entries

section Parts

variable {given : Data} {extensions : List Data}

theorem extensions_of_ok (read : readExtensions given = .ok extensions) :
    extensions ≠ [] ∧ ∀ extension ∈ extensions, IsExtension extension := by
  rcases readExtensions_outcome given with ⟨_, same, listed, dotted, _⟩ | ⟨_, refused, _⟩ | ⟨_, failed, _⟩
  · cases read.symm.trans same
    exact ⟨listed, dotted⟩
  · cases read.symm.trans refused
  · cases read.symm.trans failed

theorem policy_of_ok {policyName : Data} (read : readPolicy given = .ok policyName) :
    policyName = given ∧ (given.text? = some "strict" ∨ given.text? = some "permissive") := by
  rcases readPolicy_outcome given with ⟨same, named⟩ | ⟨_, refused⟩
  · cases read.symm.trans same
    exact ⟨rfl, named⟩
  · cases read.symm.trans refused

theorem flag_of_ok {name : String} {value : Bool} (read : readFlag name given = .ok value) :
    given = .bool value := by
  rcases readFlag_outcome name given with ⟨_, same, again⟩ | ⟨_, refused, _⟩
  · cases read.symm.trans again
    exact same
  · cases read.symm.trans refused

theorem read_mode_again (mode : Mode) : readMode (.text (Text.ofString mode.name)) = .ok mode := by
  cases mode <;> rfl

theorem read_extensions_again (listed : extensions ≠ [])
    (dotted : ∀ extension ∈ extensions, IsExtension extension) :
    readExtensions (.list extensions) = .ok extensions := by
  have each : extensions.mapM Settings.dotted = .ok extensions := by
    refine Results.mapM_ok.mpr (List.forall₂_same.mpr fun extension member => ?_)
    obtain ⟨text, known, leading⟩ := dotted extension member
    unfold Settings.dotted
    rw [known]
    exact if_pos leading
  have holds : (Data.list extensions).truth = true := by simpa [Data.truth] using listed
  unfold readExtensions separated
  dsimp only
  rw [holds]
  change Except.mapError Problem.failure (extensions.mapM Settings.dotted) = _
  rw [each]
  rfl

theorem read_policy_again (named : given.text? = some "strict" ∨ given.text? = some "permissive") :
    readPolicy given = .ok given := by
  rw [readPolicy, if_pos (by simpa using named)]

end Parts

section Reading

variable {entries others : List (Data × Data)} {settings : Settings}

/-- What is read as settings is what the entries give. -/
theorem read_from_of_ok (read : ofEntries entries = .ok settings) : ReadFrom entries settings := by
  rw [ofEntries_eq] at read
  obtain ⟨mode, mode_read, read⟩ := Results.bind_ok.mp read
  obtain ⟨extensions, extensions_read, read⟩ := Results.bind_ok.mp read
  obtain ⟨policyName, policy_read, read⟩ := Results.bind_ok.mp read
  obtain ⟨autoescape, escaping, read⟩ := Results.bind_ok.mp read
  obtain ⟨strict, strictness, read⟩ := Results.bind_ok.mp read
  obtain ⟨sandboxed, sandboxing, read⟩ := Results.bind_ok.mp read
  cases read
  obtain ⟨listed, dotted⟩ := extensions_of_ok extensions_read
  obtain ⟨same, policy⟩ := policy_of_ok policy_read
  exact ⟨mode_read, rfl, rfl, listed, dotted, same ▸ policy, flag_of_ok escaping, flag_of_ok strictness,
    flag_of_ok sandboxing⟩

/-- Valid settings are read from the entries that give them. -/
theorem of_entries_of_read (read : ReadFrom entries settings)
    (extensions : setting entries "extensions" (.list [.text ".html"]) = .list settings.extensions)
    (policy : setting entries "sandbox_policy" (.text "strict") = settings.policyName) :
    ofEntries entries = .ok settings := by
  rw [ofEntries_eq, read.mode, extensions, read_extensions_again read.some_extension read.dotted, policy,
    read_policy_again read.policy, read.autoescape, read.strict, read.sandboxed, ← read.folder, ← read.root]
  rfl

/-- Entries that give the same mode, the same extensions and the same other settings are read alike. -/
theorem of_entries_congr
    (mode : readMode (setting entries "mode" (.text "release")) =
      readMode (setting others "mode" (.text "release")))
    (extensions : readExtensions (setting entries "extensions" (.list [.text ".html"])) =
      readExtensions (setting others "extensions" (.list [.text ".html"])))
    (rest : ∀ name ∈ names, name ≠ "mode" → name ≠ "extensions" →
      given? entries name = given? others name) :
    ofEntries entries = ofEntries others := by
  have same : ∀ name default, name ∈ names ∧ name ≠ "mode" ∧ name ≠ "extensions" →
      setting entries name default = setting others name default := by
    intro name default ⟨listed, apart, away⟩
    rw [setting, rest name listed apart away, setting]
  rw [ofEntries_eq, ofEntries_eq, mode, extensions, same "source_dir" _ (by decide),
    same "root" _ (by decide), same "autoescape" _ (by decide), same "strict_undefined" _ (by decide),
    same "sandbox" _ (by decide), same "sandbox_policy" _ (by decide)]

theorem of_data_congr (keys : entries.map Prod.fst = others.map Prod.fst)
    (same : ofEntries entries = ofEntries others) : ofData (.dict entries) = ofData (.dict others) := by
  unfold ofData
  simp only [Data.items, keys, same]

end Reading

section Keys

variable {keys : List Data}

/-- Keys that are collected once each: nothing is lost of what is there already, nothing else comes in, and
for every key an equal one stays. -/
theorem collected (keys so : List Data) :
    let all := keys.foldl (fun so key => if so.any fun other => other.equals key then so else so ++ [key]) so
    so ⊆ all ∧ (∀ key ∈ all, key ∈ so ∨ key ∈ keys) ∧
      ∀ key ∈ keys, ∃ kept ∈ all, kept = key ∨ kept.equals key = true := by
  induction keys generalizing so with
  | nil => exact ⟨List.Subset.refl _, fun key member => .inl member, nofun⟩
  | cons key rest ih =>
      rw [List.foldl_cons]
      split
      · rename_i present
        obtain ⟨before, inside, equal⟩ := List.any_eq_true.mp present
        obtain ⟨kept, sources, others⟩ := ih so
        refine ⟨kept, fun one member => (sources one member).imp_right (List.mem_cons_of_mem key), ?_⟩
        exact List.forall_mem_cons.mpr ⟨⟨before, kept inside, .inr equal⟩, others⟩
      · obtain ⟨kept, sources, others⟩ := ih (so ++ [key])
        refine ⟨fun one member => kept (List.mem_append_left _ member), fun one member => ?_, ?_⟩
        · rcases sources one member with early | late
          · rcases List.mem_append.mp early with earlier | here
            · exact .inl earlier
            · exact .inr (List.mem_singleton.mp here ▸ List.mem_cons_self)
          · exact .inr (List.mem_cons_of_mem key late)
        · exact List.forall_mem_cons.mpr ⟨⟨key, kept (by simp), .inl rfl⟩, others⟩

/-- Only a text equals a text. -/
theorem text_of_equals {one other : Data} {text : Text} (known : one.text? = some text)
    (equal : one.equals other = true) : other.text? = some text := by
  cases one <;> cases known <;> cases other <;>
    simp_all [Data.equals, Data.equalScalars, Data.magnitude?, Data.text?]
  -- What has a magnitude is left, which a text has not.
  all_goals
    revert equal
    generalize Value.magnitude? _ = size
    cases size <;> simp

/-- Keys over which a warning can be written are texts. -/
theorem texts_of_warning {lines : List LogLine} (told : warning (distinct keys) = .ok lines) :
    ∀ key ∈ keys, ∃ text, key.text? = some text := by
  intro key member
  obtain ⟨_, _, others⟩ := collected keys []
  obtain ⟨kept, inside, same⟩ := others key member
  cases known : kept.text? with
  | none =>
      obtain ⟨failure, failed⟩ := warning_other inside known
      cases told.symm.trans failed
  | some text =>
      rcases same with rfl | equal
      · exact ⟨text, known⟩
      · exact ⟨text, text_of_equals known equal⟩

theorem warning_of_texts (texts : ∀ key ∈ keys, ∃ text, key.text? = some text) :
    ∃ lines, warning (distinct keys) = .ok lines := by
  obtain ⟨_, sources, _⟩ := collected keys []
  refine ⟨_, warning_texts fun key member => texts key ?_⟩
  simpa using sources key member

end Keys

section Warnings

variable {entries : List (Data × Data)} {settings : Settings} {lines : List LogLine}

theorem text_of_name {key : Data} (named : isName key = true) : ∃ text, key.text? = some text := by
  obtain ⟨name, _, same⟩ := List.any_eq_true.mp named
  exact ⟨_, of_decide_eq_true same⟩

theorem of_data_warned (texts : ∀ entry ∈ entries, ∃ text, entry.1.text? = some text)
    (told : warning (distinct ((entries.map Prod.fst).filter fun key => !isName key)) = .ok lines) :
    ofData (.dict entries) = (lines, ofEntries entries) := by
  have fit : (entries.map Prod.fst).findSome? Data.unhashable? = none := by
    rw [List.findSome?_eq_none_iff]
    intro key member
    obtain ⟨entry, inside, rfl⟩ := List.mem_map.mp member
    obtain ⟨text, known⟩ := texts entry inside
    cases key : entry.1 <;> rw [key] at known <;> cases known <;> rfl
  unfold ofData
  dsimp only [Data.items, bind, Except.bind]
  rw [fit]
  dsimp only
  rw [told]

theorem texts_of_told {keys : List Data}
    (told : (match keys.findSome? Data.unhashable? with
      | some name => .error (.unhashable (Text.ofString name))
      | none => warning (distinct (keys.filter fun key => !isName key))) = Except.ok lines) :
    ∀ key ∈ keys, ∃ text, key.text? = some text := by
  split at told
  · cases told
  · intro key member
    cases named : isName key with
    | true => exact text_of_name named
    | false => exact texts_of_warning told key (List.mem_filter.mpr ⟨member, by simp [named]⟩)

/-- What is accepted is a mapping whose keys are texts. -/
theorem accepted {data : Data} (read : ofData data = (lines, .ok settings)) :
    ∃ entries, (data = .dict entries ∨ data = .mapping entries) ∧ ofEntries entries = .ok settings ∧
      ∀ entry ∈ entries, ∃ text, entry.1.text? = some text := by
  unfold ofData at read
  split at read
  · rename_i entries
    dsimp only at read
    split at read
    · cases read
    · rename_i told
      refine ⟨entries, .inl rfl, congrArg Prod.snd read, fun entry member => ?_⟩
      exact texts_of_told told entry.1 (List.mem_map.mpr ⟨entry, member, rfl⟩)
  · rename_i entries
    dsimp only at read
    split at read
    · cases read
    · rename_i told
      refine ⟨entries, .inr rfl, congrArg Prod.snd read, fun entry member => ?_⟩
      exact texts_of_told told entry.1 (List.mem_map.mpr ⟨entry, member, rfl⟩)
  · dsimp only at read
    split at read <;> cases read

end Warnings

section Normal

variable {settings : Settings}

theorem written_setting {name : String} {value : Data} (member : (name, value) ∈ settings.entries)
    (default : Data) : setting settings.written name default = value := by
  have distinct : (settings.entries.map Prod.fst).Nodup := (by decide : names.Nodup)
  rw [setting, written, given_of_mem distinct member]
  rfl

theorem written_known : ∀ entry ∈ settings.written, isName entry.1 = true := by
  intro entry member
  obtain ⟨given, inside, rfl⟩ := List.mem_map.mp member
  have listed : given.1 ∈ names := List.mem_map.mpr ⟨given, inside, rfl⟩
  exact List.any_eq_true.mpr ⟨given.1, listed, decide_eq_true rfl⟩

/-- Settings are read back as they are. -/
theorem read_again {entries : List (Data × Data)} (read : ReadFrom entries settings) :
    ofData settings.toData = ([], .ok settings) := by
  have again : ofEntries settings.written = .ok settings := by
    refine of_entries_of_read ⟨?_, ?_, ?_, read.some_extension, read.dotted, read.policy, ?_, ?_, ?_⟩ ?_ ?_
    · rw [@written_setting settings "mode" (.text (Text.ofString settings.mode.name))
        (by simp [Settings.entries])]
      exact read_mode_again settings.mode
    · exact (written_setting (by simp [Settings.entries]) _).symm
    · exact (written_setting (by simp [Settings.entries]) _).symm
    · exact written_setting (by simp [Settings.entries]) _
    · exact written_setting (by simp [Settings.entries]) _
    · exact written_setting (by simp [Settings.entries]) _
    · exact written_setting (by simp [Settings.entries]) _
    · exact written_setting (by simp [Settings.entries]) _
  have silent : ((settings.written).map Prod.fst).filter (fun key => !isName key) = [] := by
    rw [List.filter_eq_nil_iff]
    intro key member
    obtain ⟨entry, inside, rfl⟩ := List.mem_map.mp member
    simp [written_known entry inside]
  refine (of_data_warned (fun entry member => text_of_name (written_known entry member)) ?_).trans
    (congrArg (Prod.mk []) again)
  rw [silent]
  rfl

/-- Extensions in one text with commas between them are read as the list of its parts. -/
theorem separated_join {pieces : List Text} (listed : pieces ≠ [])
    (apart : ∀ piece ∈ pieces, CodePoint.scalar ',' ∉ piece) :
    commaParts (Text.join "," pieces) = (pieces.map Text.trim).filter fun piece => !piece.isEmpty := by
  have split : Text.splitAll "," (Text.join "," pieces) = pieces := Text.split_join listed apart
  rw [commaParts, split]

theorem read_mode_ok {value : Data} {text : Text} (known : value.text? = some text) (mode : Mode) :
    readMode value = .ok mode ↔ Mode.ofName? (Text.lower text) = some mode := by
  have printed : value.printed = .ok text := by cases value <;> cases known <;> rfl
  rw [readMode, printed]
  dsimp only [Except.mapError, bind, Except.bind]
  cases Mode.ofName? (Text.lower text) with
  | none => exact ⟨nofun, nofun⟩
  | some other => exact ⟨fun same => by cases same; rfl, fun same => by cases same; rfl⟩

/-- A mode that is read is read in every spelling of its letters. -/
theorem read_mode_recased {text spelled : Text} {mode : Mode} (recased : Text.Recased text spelled)
    {value other : Data} (known : value.text? = some text) (too : other.text? = some spelled)
    (read : readMode value = .ok mode) : readMode other = .ok mode := by
  have found := (read_mode_ok known mode).mp read
  have name : Text.lower text = Text.ofString mode.name := by
    unfold Mode.ofName? at found
    have same := List.find?_some found
    exact (of_decide_eq_true same).symm
  have own : ∀ point ∈ Text.lower text, Text.IsOwnLower point := by
    rw [name]
    cases mode <;> decide
  rw [Text.lower_eq] at own
  rw [read_mode_ok too, Text.lower_recased (Text.ascii_of_lower_after own) recased]
  exact found

end Normal

/-- Settings are a normal form. Written as data, settings that were read are read again without a warning
and are the same. Extensions in one text with commas between them are the same as the list of its parts
without blanks around them and without empty ones. Further entries whose keys are texts and no settings
change no setting, nor does another spelling of a mode that is read. -/
theorem settings_normal :
    (∀ data lines settings, ofData data = (lines, .ok settings) →
      ofData settings.toData = ([], .ok settings)) ∧
    (∀ before after key pieces, ∀ kind ∈ [Data.text, Data.markup],
      key.text? = some (Text.ofString "extensions") → pieces ≠ [] →
      (∀ piece ∈ pieces, CodePoint.scalar ',' ∉ piece) →
      ofData (.dict (before ++ (key, kind (Text.join "," pieces)) :: after)) =
        ofData (.dict (before ++
          (key, .list (((pieces.map Text.trim).filter fun piece => !piece.isEmpty).map kind)) :: after))) ∧
    (∀ entries others lines settings, ofData (.dict entries) = (lines, .ok settings) →
      (others.filter fun entry => isName entry.1) = (entries.filter fun entry => isName entry.1) →
      (∀ entry ∈ others, entry ∈ entries ∨ ∃ text, entry.1.text? = some text) →
      ∃ more, ofData (.dict others) = (more, .ok settings)) ∧
    (∀ before after key value other text spelled lines settings,
      key.text? = some (Text.ofString "mode") → value.text? = some text → other.text? = some spelled →
      Text.Recased text spelled →
      ofData (.dict (before ++ (key, value) :: after)) = (lines, .ok settings) →
      ofData (.dict (before ++ (key, other) :: after)) = (lines, .ok settings)) := by
  refine ⟨?again, ?joined, ?further, ?spelled⟩
  case again =>
    intro data lines settings read
    obtain ⟨entries, _, fine, _⟩ := accepted read
    exact read_again (read_from_of_ok fine)
  case joined =>
    intro before after key pieces kind among named listed apart
    have parts : separated (kind (Text.join "," pieces)) =
        .list (((pieces.map Text.trim).filter fun piece => !piece.isEmpty).map kind) := by
      rw [← separated_join listed apart]
      rcases List.mem_pair.mp among with rfl | rfl <;> rfl
    refine of_data_congr (by simp) (of_entries_congr ?_ ?_ fun name _ _ away => ?_)
    · rw [setting, setting, given_elsewhere (not_named named (by decide))]
    · rw [setting, setting, given_here named, given_here named]
      cases given? before "extensions" with
      | some value => rfl
      | none =>
          change readExtensions (kind (Text.join "," pieces)) = readExtensions (.list _)
          rw [readExtensions, readExtensions, parts]
          rfl
    · exact given_elsewhere (not_named named away.symm)
  case further =>
    intro entries others lines settings read same keys
    obtain ⟨_, given | given, fine, texts⟩ := accepted read
    · cases given
      have named : ∀ entry ∈ others, ∃ text, entry.1.text? = some text := fun entry member =>
        (keys entry member).elim (texts entry) id
      have unknown : ∀ key ∈ (others.map Prod.fst).filter fun key => !isName key,
          ∃ text, key.text? = some text := by
        intro key member
        obtain ⟨entry, inside, rfl⟩ := List.mem_map.mp (List.mem_of_mem_filter member)
        exact named entry inside
      obtain ⟨more, told⟩ := warning_of_texts unknown
      refine ⟨more, (of_data_warned named told).trans (congrArg (Prod.mk more) ?_)⟩
      have found : ∀ name ∈ names, given? others name = given? entries name := fun name listed => by
        rw [← given_filter listed others, same, given_filter listed]
      rw [← fine]
      refine of_entries_congr ?_ ?_ fun name listed _ _ => found name listed
      · rw [setting, setting, found "mode" (by decide)]
      · rw [setting, setting, found "extensions" (by decide)]
    · cases given
  case spelled =>
    intro before after key value other text spelled lines settings named known too recased read
    obtain ⟨_, given | given, fine, _⟩ := accepted read
    · cases given
      have mode := (read_from_of_ok fine).mode
      rw [← read]
      refine of_data_congr (by simp) (of_entries_congr ?_ ?_ fun name _ away _ => ?_)
      · rw [mode, setting, given_here named]
        rw [setting, given_here named] at mode
        cases early : given? before "mode" with
        | some first =>
            rw [early] at mode
            exact mode
        | none =>
            rw [early] at mode
            exact read_mode_recased recased known too mode
      · rw [setting, setting, given_elsewhere (not_named named (by decide))]
      · exact given_elsewhere (not_named named away.symm)
    · cases given

/-- Settings with a mode in two cases, extensions in one text and an entry that is no setting. -/
def loudEntries : List (Data × Data) :=
  [ (.text "mode", .text "Debug"), (.text "extensions", .text " html,, .txt"),
    (.text "flavour", .text "mint") ]

theorem loud_entries_read : ∃ lines settings, ofData (.dict loudEntries) = (lines, .ok settings) := by
  have fine : (ofData (.dict loudEntries)).2.isOk = true := by decide +kernel
  cases read : ofData (.dict loudEntries) with
  | mk lines result =>
      rw [read] at fine
      cases result with
      | error problem => cases fine
      | ok settings => exact ⟨lines, settings, rfl⟩

theorem settings_normal_in_two_cases :
    ∃ lines settings, ofData (.dict loudEntries) = (lines, .ok settings) ∧
      ofData settings.toData = ([], .ok settings) ∧
      ofData (.dict loudEntries) = ofData (.dict [(.text "mode", .text "Debug"),
        (.text "extensions", .list [.text "html", .text ".txt"]), (.text "flavour", .text "mint")]) ∧
      (∃ more, ofData (.dict ((.text "colour", .none) :: loudEntries)) = (more, .ok settings)) ∧
      ofData (.dict [(.text "mode", .text "DEBUG"), (.text "extensions", .text " html,, .txt"),
        (.text "flavour", .text "mint")]) = (lines, .ok settings) := by
  obtain ⟨lines, settings, read⟩ := loud_entries_read
  obtain ⟨again, joined, further, spelled⟩ := settings_normal
  refine ⟨lines, settings, read, again _ lines settings read, ?_, ?_, ?_⟩
  · exact joined [(.text "mode", .text "Debug")] [(.text "flavour", .text "mint")] (.text "extensions")
      [" html", "", " .txt"] .text (by simp) rfl (by decide) (by decide)
  · exact further loudEntries _ lines settings read rfl fun entry member => by
      rcases List.mem_cons.mp member with rfl | inside
      · exact .inr ⟨_, rfl⟩
      · exact .inl inside
  · have recased : Text.Recased "Debug" "DEBUG" := Text.upper_recased "Debug"
    exact spelled [] _ (.text "mode") (.text "Debug") _ "Debug" "DEBUG" lines settings rfl rfl rfl recased read

end Settings

end PageTemplates
