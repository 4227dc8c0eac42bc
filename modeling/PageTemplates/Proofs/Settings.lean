import PageTemplates.Configuration.Settings
import PageTemplates.Proofs.Configuration.Load

/-!
What settings are read from a loaded configuration. They are checked, or refused with the fault of a
setting, with one warning for all entries that are no settings. Three things slip past the checks and fail
on their own: entries whose name is no text, extensions that are no collection of texts, and what cannot
be printed. The folder and the root are taken as they are given.
-/

namespace PageTemplates

namespace Settings

/-- The value of a setting, or its default. -/
def setting (entries : List (Data × Data)) (name : String) (default : Data) : Data :=
  (given? entries name).getD default

/-- The texts among the keys that are no settings. -/
def unknownNames (entries : List (Data × Data)) : List Text :=
  ((entries.map Prod.fst).filter fun key => !isName key).filterMap Data.text?

/-- One warning about all keys that are no settings. -/
def warnings (entries : List (Data × Data)) : List LogLine :=
  if unknownNames entries = [] then []
  else [⟨.warning, "Ignoring unknown template config keys: " ++
    Text.join ", " (Text.sorted (unknownNames entries))⟩]

/-- A text with a dot in front. -/
def IsExtension (data : Data) : Prop :=
  ∃ text, data.text? = some text ∧ Text.startsWith text "." = true

/-- Extensions are given, but not as a text nor as a collection of texts. -/
def OddExtensions (given : Data) : Prop :=
  (separated given).truth = true ∧
    ∀ items, (separated given).items = .ok items → ∃ item ∈ items, item.text? = none

/-- What slips past the checks of settings. -/
inductive Slips (entries : List (Data × Data)) : Prop where
  | key (key : Data) (member : key ∈ entries.map Prod.fst) (unknown : isName key = false)
      (other : key.text? = none)
  | mode (failure : Failure) (unprinted : (setting entries "mode" (.text "release")).printed = .error failure)
  | extensions (mode : Mode) (fine : readMode (setting entries "mode" (.text "release")) = .ok mode)
      (odd : OddExtensions (setting entries "extensions" (.list [.text ".html"])))
  | policy (mode : Mode) (fine : readMode (setting entries "mode" (.text "release")) = .ok mode)
      (extensions : List Data)
      (dotted : readExtensions (setting entries "extensions" (.list [.text ".html"])) = .ok extensions)
      (neither : (setting entries "sandbox_policy" (.text "strict")).text? ≠ some "strict" ∧
        (setting entries "sandbox_policy" (.text "strict")).text? ≠ some "permissive")
      (overlong : (setting entries "sandbox_policy" (.text "strict")).hasOverlong = true)

/-- Settings are what entries give, and they are valid. -/
structure ReadFrom (entries : List (Data × Data)) (settings : Settings) : Prop where
  mode : readMode (setting entries "mode" (.text "release")) = .ok settings.mode
  folder : settings.sourceFolder = setting entries "source_dir" (.text "web")
  root : settings.root = setting entries "root" (.text "templates")
  some_extension : settings.extensions ≠ []
  dotted : ∀ extension ∈ settings.extensions, IsExtension extension
  policy : settings.policyName.text? = some "strict" ∨ settings.policyName.text? = some "permissive"
  autoescape : setting entries "autoescape" (.bool true) = .bool settings.autoescape
  strict : setting entries "strict_undefined" (.bool true) = .bool settings.strict
  sandboxed : setting entries "sandbox" (.bool false) = .bool settings.sandboxed

/-- The fault of a setting. -/
def IsInvalid (problem : Problem) : Prop :=
  ∃ key reason, problem = .fault (.configInvalid (.text key) (.text reason))

theorem invalid_isInvalid (name : String) (reason : Text) : IsInvalid (invalid name reason) :=
  ⟨_, reason, rfl⟩

theorem unexpected_isInvalid (name : String) (first second : Text) {given : Data}
    (short : given.hasOverlong = false) : IsInvalid (unexpected name first second given) := by
  rw [unexpected, Data.represented, short]
  exact invalid_isInvalid name _

theorem unexpected_overlong (name : String) (first second : Text) {given : Data}
    (overlong : given.hasOverlong = true) :
    unexpected name first second given = .failure Data.tooManyDigits := by
  rw [unexpected, Data.represented, overlong]
  rfl

/-- The mode is read, refused, or cannot be printed. -/
theorem readMode_outcome (given : Data) :
    (∃ mode, readMode given = .ok mode ∧ ∃ text, given.printed = .ok text) ∨
      (∃ problem, readMode given = .error problem ∧ IsInvalid problem ∧
        ∃ text, given.printed = .ok text) ∨
      ∃ failure, readMode given = .error (.failure failure) ∧ given.printed = .error failure := by
  unfold readMode
  cases shown : given.printed with
  | error failure => exact .inr (.inr ⟨failure, rfl, rfl⟩)
  | ok text =>
      dsimp only [Except.mapError, bind, Except.bind]
      cases Mode.ofName? (Text.lower text) with
      | some mode => exact .inl ⟨mode, rfl, text, rfl⟩
      | none => exact .inr (.inl ⟨_, rfl, unexpected_isInvalid _ _ _ rfl, text, rfl⟩)

theorem readPolicy_outcome (given : Data) :
    (readPolicy given = .ok given ∧
        (given.text? = some "strict" ∨ given.text? = some "permissive")) ∨
      ((given.text? ≠ some "strict" ∧ given.text? ≠ some "permissive") ∧
        readPolicy given = .error (unexpected "sandbox_policy" "strict" "permissive" given)) := by
  unfold readPolicy
  by_cases named : given.text? = some "strict" ∨ given.text? = some "permissive"
  · exact .inl ⟨by rw [if_pos (by simpa using named)], named⟩
  · exact .inr ⟨not_or.mp named, by rw [if_neg (by simpa using named)]⟩

theorem readFlag_outcome (name : String) (given : Data) :
    (∃ value, given = .bool value ∧ readFlag name given = .ok value) ∨
      ∃ problem, readFlag name given = .error problem ∧ IsInvalid problem := by
  unfold readFlag
  split
  · exact .inl ⟨_, rfl, rfl⟩
  · exact .inr ⟨_, rfl, invalid_isInvalid name _⟩

theorem dotted_text {item extension : Data} (dotted : Settings.dotted item = .ok extension) :
    IsExtension extension := by
  unfold Settings.dotted at dotted
  split at dotted
  · rename_i text known
    split at dotted
    · rename_i leading
      cases dotted
      exact ⟨text, known, leading⟩
    · cases dotted
      exact ⟨_, rfl, rfl⟩
  · cases dotted
  · cases dotted

theorem dotted_of_text {item : Data} {text : Text} (known : item.text? = some text) :
    ∃ extension, Settings.dotted item = .ok extension := by
  unfold Settings.dotted
  rw [known]
  dsimp only
  split
  · exact ⟨_, rfl⟩
  · exact ⟨_, rfl⟩

theorem not_dotted {item : Data} (other : item.text? = none) :
    ∃ failure, Settings.dotted item = .error failure := by
  cases item with
  | text => cases other
  | markup => cases other
  | _ => exact ⟨_, rfl⟩

/-- What is true has items, if it has any at all. -/
theorem items_of_truth {given : Data} (holds : given.truth = true) {items : List Data}
    (found : given.items = .ok items) : items ≠ [] := by
  rintro rfl
  cases given <;> simp_all [Data.items, Data.truth]

/-- Extensions are read, missing, or odd. -/
theorem readExtensions_outcome (given : Data) :
    (∃ extensions, readExtensions given = .ok extensions ∧ extensions ≠ [] ∧
        (∀ extension ∈ extensions, IsExtension extension) ∧ ¬OddExtensions given) ∨
      (∃ problem, readExtensions given = .error problem ∧ IsInvalid problem ∧ ¬OddExtensions given) ∨
      ∃ failure, readExtensions given = .error (.failure failure) ∧ OddExtensions given := by
  unfold readExtensions
  dsimp only
  cases holds : (separated given).truth with
  | false =>
      refine .inr (.inl ⟨_, rfl, invalid_isInvalid "extensions" _, fun odd => ?_⟩)
      rw [odd.1] at holds
      cases holds
  | true =>
      cases found : (separated given).items with
      | error failure =>
          refine .inr (.inr ⟨failure, rfl, holds, fun items same => ?_⟩)
          rw [found] at same
          cases same
      | ok items =>
          change (∃ extensions, Except.mapError Problem.failure (items.mapM dotted) = .ok extensions ∧ _) ∨
            (∃ problem, Except.mapError Problem.failure (items.mapM dotted) = .error problem ∧ _) ∨
            ∃ failure, Except.mapError Problem.failure (items.mapM dotted) = _ ∧ _
          cases read : items.mapM dotted with
          | ok extensions =>
              have each := Results.mapM_ok.mp read
              refine .inl ⟨extensions, rfl, ?_, fun extension member => ?_, fun odd => ?_⟩
              · rintro rfl
                cases each
                exact items_of_truth holds found rfl
              · obtain ⟨item, _, dotted⟩ := Results.source_of_result each member
                exact dotted_text dotted
              · obtain ⟨item, member, other⟩ := odd.2 items found
                obtain ⟨extension, _, dotted⟩ := Results.source_of_result each.flip member
                obtain ⟨failure, failed⟩ := not_dotted other
                exact nomatch failed.symm.trans dotted
          | error failure =>
              obtain ⟨before, item, after, split, _, failed⟩ := Results.mapM_error.mp read
              refine .inr (.inr ⟨failure, rfl, holds, fun others same => ?_⟩)
              rw [found] at same
              cases same
              refine ⟨item, by simp [split], ?_⟩
              cases known : item.text? with
              | none => rfl
              | some text =>
                  obtain ⟨extension, dotted⟩ := dotted_of_text known
                  exact nomatch failed.symm.trans dotted

section

variable {keys : List Data}

theorem distinct_of_pairwise (apart : keys.Pairwise fun one other => one.equals other = false) :
    distinct keys = keys := by
  have step : ∀ so : List Data, (∀ one ∈ so, ∀ other ∈ keys, one.equals other = false) →
      keys.foldl (fun so key => if so.any fun other => other.equals key then so else so ++ [key]) so =
        so ++ keys := by
    induction keys with
    | nil =>
        intro so _
        rw [List.foldl_nil, List.append_nil]
    | cons key rest ih =>
        obtain ⟨first, later⟩ := List.pairwise_cons.mp apart
        intro so clear
        have fresh : (so.any fun other => other.equals key) = false := by
          rw [List.any_eq_false]
          intro other member
          rw [clear other member key List.mem_cons_self]
          exact Bool.false_ne_true
        rw [List.foldl_cons, fresh]
        refine (ih later _ fun one member other inside => ?_).trans (by simp)
        rcases List.mem_append.mp member with before | here
        · exact clear one before other (List.mem_cons_of_mem _ inside)
        · rw [List.mem_singleton] at here
          rw [here]
          exact first other inside
  exact step [] nofun

theorem unordered_texts (texts : ∀ key ∈ keys, ∃ text, key.text? = some text) :
    unordered? keys = none := by
  have classes : ∀ key ∈ keys, orderClass key = "text" := by
    intro key member
    obtain ⟨text, known⟩ := texts key member
    rw [orderClass, known]
    rfl
  induction keys with
  | nil => rfl
  | cons first rest ih =>
      cases rest with
      | nil => rfl
      | cons second rest =>
          obtain ⟨_, others⟩ := List.forall_mem_cons.mp texts
          obtain ⟨one, classes⟩ := List.forall_mem_cons.mp classes
          obtain ⟨other, _⟩ := List.forall_mem_cons.mp classes
          rw [unordered?, one, other]
          exact ih others classes

theorem mapM_texts (texts : ∀ key ∈ keys, ∃ text, key.text? = some text) :
    keys.mapM Data.text? = some (keys.filterMap Data.text?) := by
  induction keys with
  | nil => rfl
  | cons key rest ih =>
      obtain ⟨⟨text, known⟩, others⟩ := List.forall_mem_cons.mp texts
      rw [List.mapM_cons, known, ih others, List.filterMap_cons_some known]
      rfl

theorem warning_texts (texts : ∀ key ∈ keys, ∃ text, key.text? = some text) :
    warning keys = .ok (if keys.filterMap Data.text? = [] then []
      else [⟨.warning, "Ignoring unknown template config keys: " ++
        Text.join ", " (Text.sorted (keys.filterMap Data.text?))⟩]) := by
  have ordered := unordered_texts texts
  have named := mapM_texts texts
  cases keys with
  | nil => rfl
  | cons first rest =>
      obtain ⟨⟨text, known⟩, _⟩ := List.forall_mem_cons.mp texts
      rw [warning, ordered, named, if_neg]
      rw [List.filterMap_cons_some known]
      exact List.cons_ne_nil _ _

theorem warning_other {key : Data} (member : key ∈ keys) (other : key.text? = none) :
    ∃ failure, warning keys = .error failure := by
  have unnamed : keys.mapM Data.text? = none := by
    induction keys with
    | nil => cases member
    | cons first rest ih =>
        rw [List.mapM_cons]
        rcases List.mem_cons.mp member with rfl | later
        · rw [other]
          rfl
        · rw [ih later]
          cases first.text? <;> rfl
  cases keys with
  | nil => cases member
  | cons first rest =>
      rw [warning, unnamed]
      cases unordered? (first :: rest) <;> exact ⟨_, rfl⟩

end

/-- The entries are read one setting after the other. -/
theorem ofEntries_eq (entries : List (Data × Data)) :
    ofEntries entries =
      (readMode (setting entries "mode" (.text "release"))).bind fun mode =>
      (readExtensions (setting entries "extensions" (.list [.text ".html"]))).bind fun extensions =>
      (readPolicy (setting entries "sandbox_policy" (.text "strict"))).bind fun policyName =>
      (readFlag "autoescape" (setting entries "autoescape" (.bool true))).bind fun autoescape =>
      (readFlag "strict_undefined" (setting entries "strict_undefined" (.bool true))).bind fun strict =>
      (readFlag "sandbox" (setting entries "sandbox" (.bool false))).bind fun sandboxed =>
      .ok ⟨mode, setting entries "source_dir" (.text "web"), setting entries "root" (.text "templates"),
        extensions, autoescape, strict, sandboxed, policyName⟩ :=
  rfl

/-- Once the keys are settings or texts, the settings are read, refused, or something slips past the
checks. -/
theorem ofEntries_outcome {entries : List (Data × Data)}
    (texts : ∀ key ∈ entries.map Prod.fst, isName key = false → ∃ text, key.text? = some text) :
    (∃ settings, ofEntries entries = .ok settings ∧ ReadFrom entries settings ∧ ¬Slips entries) ∨
      (∃ problem, ofEntries entries = .error problem ∧ IsInvalid problem ∧ ¬Slips entries) ∨
      ∃ failure, ofEntries entries = .error (.failure failure) ∧ Slips entries := by
  have named : ∀ key ∈ entries.map Prod.fst, isName key = false → key.text? = none → False := by
    intro key member unknown other
    obtain ⟨text, known⟩ := texts key member unknown
    rw [other] at known
    cases known
  rw [ofEntries_eq]
  rcases readMode_outcome (setting entries "mode" (.text "release")) with
    ⟨mode, mode_read, name, printed⟩ | ⟨problem, refused, invalid, name, printed⟩ |
      ⟨failure, failed, unprinted⟩
  · rw [mode_read]
    rcases readExtensions_outcome (setting entries "extensions" (.list [.text ".html"])) with
      ⟨extensions, read, some_there, dotted, regular⟩ | ⟨problem, refused, invalid, regular⟩ |
        ⟨failure, failed, odd⟩
    · rw [read]
      rcases readPolicy_outcome (setting entries "sandbox_policy" (.text "strict")) with
        ⟨policy_read, policy⟩ | ⟨neither, refused⟩
      · have clean : ¬Slips entries := by
          rintro (⟨key, member, unknown, other⟩ | ⟨failure, unprinted⟩ | ⟨_, _, odd⟩ |
            ⟨_, _, _, _, neither, _⟩)
          · exact named key member unknown other
          · rw [printed] at unprinted
            cases unprinted
          · exact regular odd
          · exact policy.elim neither.1 neither.2
        rw [policy_read]
        rcases readFlag_outcome "autoescape" (setting entries "autoescape" (.bool true)) with
          ⟨autoescape, escaping, flag⟩ | ⟨problem, refused, invalid⟩
        · rw [flag]
          rcases readFlag_outcome "strict_undefined" (setting entries "strict_undefined" (.bool true))
            with ⟨strict, strictness, flag⟩ | ⟨problem, refused, invalid⟩
          · rw [flag]
            rcases readFlag_outcome "sandbox" (setting entries "sandbox" (.bool false)) with
              ⟨sandboxed, sandboxing, flag⟩ | ⟨problem, refused, invalid⟩
            · rw [flag]
              exact .inl ⟨_, rfl, ⟨mode_read, rfl, rfl, some_there, dotted, policy, escaping, strictness,
                sandboxing⟩, clean⟩
            · rw [refused]
              exact .inr (.inl ⟨problem, rfl, invalid, clean⟩)
          · rw [refused]
            exact .inr (.inl ⟨problem, rfl, invalid, clean⟩)
        · rw [refused]
          exact .inr (.inl ⟨problem, rfl, invalid, clean⟩)
      · rw [refused]
        cases long : (setting entries "sandbox_policy" (.text "strict")).hasOverlong with
        | false =>
            refine .inr (.inl ⟨_, rfl, unexpected_isInvalid _ _ _ long, ?_⟩)
            rintro (⟨key, member, unknown, other⟩ | ⟨failure, unprinted⟩ | ⟨_, _, odd⟩ |
              ⟨_, _, _, _, _, overlong⟩)
            · exact named key member unknown other
            · rw [printed] at unprinted
              cases unprinted
            · exact regular odd
            · rw [long] at overlong
              cases overlong
        | true =>
            refine .inr (.inr ⟨Data.tooManyDigits, ?_, .policy mode mode_read extensions read neither long⟩)
            rw [unexpected_overlong _ _ _ long]
            rfl
    · rw [refused]
      refine .inr (.inl ⟨problem, rfl, invalid, ?_⟩)
      rintro (⟨key, member, unknown, other⟩ | ⟨failure, unprinted⟩ | ⟨_, _, odd⟩ |
        ⟨_, _, extensions, read, _⟩)
      · exact named key member unknown other
      · rw [printed] at unprinted
        cases unprinted
      · exact regular odd
      · rw [refused] at read
        cases read
    · rw [failed]
      exact .inr (.inr ⟨failure, rfl, .extensions mode mode_read odd⟩)
  · rw [refused]
    refine .inr (.inl ⟨problem, rfl, invalid, ?_⟩)
    rintro (⟨key, member, unknown, other⟩ | ⟨failure, unprinted⟩ | ⟨_, read, _⟩ | ⟨_, read, _⟩)
    · exact named key member unknown other
    · rw [printed] at unprinted
      cases unprinted
    · rw [refused] at read
      cases read
    · rw [refused] at read
      cases read
  · rw [failed]
    exact .inr (.inr ⟨failure, rfl, .mode failure unprinted⟩)

/-- The settings of a dictionary, with the warning. -/
theorem ofData_outcome {entries : List (Data × Data)} (keys : ∀ entry ∈ entries, entry.1.IsKey)
    (apart : entries.Pairwise fun one other => one.1.equals other.1 = false) :
    (∃ settings, ofData (.dict entries) = (warnings entries, .ok settings) ∧ ReadFrom entries settings ∧
        ¬Slips entries) ∨
      (∃ problem, ofData (.dict entries) = (warnings entries, .error problem) ∧ IsInvalid problem ∧
        ¬Slips entries) ∨
      ∃ lines failure, ofData (.dict entries) = (lines, .error (.failure failure)) ∧ Slips entries := by
  have fit : (entries.map Prod.fst).findSome? Data.unhashable? = none := by
    rw [List.findSome?_eq_none_iff]
    intro key member
    obtain ⟨entry, inside, rfl⟩ := List.mem_map.mp member
    exact keys entry inside
  have apart_keys : (entries.map Prod.fst).Pairwise fun one other => one.equals other = false :=
    List.pairwise_map.mpr apart
  have unknown_keys := distinct_of_pairwise (apart_keys.filter fun key => !isName key)
  have warned {result : Except Failure (List LogLine)}
      (told : warning ((entries.map Prod.fst).filter fun key => !isName key) = result) :
      ofData (.dict entries) = (result.toOption.getD [],
        result.mapError Problem.failure >>= fun _ => ofEntries entries) := by
    unfold ofData
    dsimp only [Data.items, bind, Except.bind]
    rw [fit]
    dsimp only
    rw [unknown_keys, told]
    cases result <;> rfl
  by_cases texts : ∀ key ∈ entries.map Prod.fst, isName key = false → ∃ text, key.text? = some text
  · have lines : warning ((entries.map Prod.fst).filter fun key => !isName key) =
        .ok (warnings entries) := by
      refine warning_texts fun key member => ?_
      obtain ⟨inside, unknown⟩ := List.mem_filter.mp member
      exact texts key inside (by simpa using unknown)
    rw [warned lines]
    rcases ofEntries_outcome texts with ⟨settings, read, holds⟩ | ⟨problem, refused, holds⟩ |
      ⟨failure, failed, slips⟩
    · exact .inl ⟨settings, by rw [read]; rfl, holds⟩
    · exact .inr (.inl ⟨problem, by rw [refused]; rfl, holds⟩)
    · exact .inr (.inr ⟨warnings entries, failure, by rw [failed]; rfl, slips⟩)
  · obtain ⟨key, wrong⟩ := not_forall.mp texts
    obtain ⟨member, wrong⟩ := Classical.not_imp.mp wrong
    obtain ⟨unknown, unnamed⟩ := Classical.not_imp.mp wrong
    have other : key.text? = none := by
      cases known : key.text? with
      | none => rfl
      | some text => exact (unnamed ⟨text, known⟩).elim
    have among : key ∈ (entries.map Prod.fst).filter fun key => !isName key :=
      List.mem_filter.mpr ⟨member, by simpa using unknown⟩
    obtain ⟨failure, failed⟩ := warning_other among other
    rw [warned failed]
    exact .inr (.inr ⟨[], failure, rfl, .key key member unknown other⟩)

end Settings

namespace Configuration

/-- The entries of the section of settings, if it is a mapping. Without the section there are none. -/
def sectionEntries? (configuration : Configuration) : Option (List (Data × Data)) :=
  match configuration.at? [.text sectionName] with
  | none => some []
  | some (.mapping number) =>
    some ((configuration.cells.entries number).map fun (key, value) =>
      (key, value.toData (cellData configuration.cells configuration.cells.size)))
  | some _ => none

theorem settings_of_section {configuration : Configuration} {entries : List (Data × Data)}
    (found : configuration.sectionEntries? = some entries) :
    configuration.settings = Settings.ofData (.dict entries) := by
  unfold sectionEntries? at found
  unfold settings
  split at found
  · rename_i absent
    cases found
    rw [absent]
  · rename_i number present
    cases found
    rw [present]
    rfl
  · cases found

theorem settings_of_other {configuration : Configuration} (other : configuration.sectionEntries? = none) :
    configuration.settings = ([], .error (.fault (.configInvalid (.text sectionName)
      (.text "expected a mapping")))) := by
  unfold sectionEntries? at other
  unfold settings
  split at other
  · cases other
  · cases other
  · rename_i tree unmapped present
    rw [present]
    cases tree with
    | mapping number => exact (unmapped number rfl).elim
    | _ => rfl

theorem section_proper {configuration : Configuration} (sound : configuration.Sound)
    {entries : List (Data × Data)} (found : configuration.sectionEntries? = some entries) :
    (∀ entry ∈ entries, entry.1.IsKey) ∧
      entries.Pairwise fun one other => one.1.equals other.1 = false := by
  unfold sectionEntries? at found
  split at found
  · cases found
    exact ⟨nofun, .nil⟩
  · rename_i number _
    cases found
    have proper := sound.proper number
    refine ⟨fun entry member => ?_, List.pairwise_map.mpr proper.distinct⟩
    obtain ⟨before, inside, rfl⟩ := List.mem_map.mp member
    exact proper.keys before inside
  · cases found

/-- The settings in a configuration that was loaded are valid, or refused with the fault of a setting,
unless something slips past the checks. -/
theorem settings_checked {disk : Node} {sources : ConfigurationSources} {configuration : Configuration}
    (proper : sources.overrides.Proper) (loaded : load disk sources = .ok configuration) :
    (∃ entries settings, configuration.sectionEntries? = some entries ∧ ¬Settings.Slips entries ∧
        configuration.settings = (Settings.warnings entries, .ok settings) ∧
        Settings.ReadFrom entries settings) ∨
      (∃ lines problem, configuration.settings = (lines, .error problem) ∧ Settings.IsInvalid problem ∧
        ∀ entries, configuration.sectionEntries? = some entries →
          ¬Settings.Slips entries ∧ lines = Settings.warnings entries) ∨
      ∃ entries lines failure, configuration.sectionEntries? = some entries ∧ Settings.Slips entries ∧
        configuration.settings = (lines, .error (.failure failure)) := by
  cases found : configuration.sectionEntries? with
  | none =>
      rw [settings_of_other found]
      exact .inr (.inl ⟨[], _, rfl, ⟨_, _, rfl⟩, nofun⟩)
  | some entries =>
      obtain ⟨keys, apart⟩ := section_proper (load_sound proper loaded) found
      rw [settings_of_section found]
      rcases Settings.ofData_outcome keys apart with ⟨settings, same, read, clean⟩ |
        ⟨problem, same, invalid, clean⟩ | ⟨lines, failure, same, slips⟩
      · exact .inl ⟨entries, settings, rfl, clean, same, read⟩
      · refine .inr (.inl ⟨_, problem, same, invalid, fun others here => ?_⟩)
        cases here
        exact ⟨clean, rfl⟩
      · exact .inr (.inr ⟨entries, lines, failure, rfl, slips, same⟩)

/-- Overrides with a mode in capitals and an entry that is no setting. -/
def loudSources : ConfigurationSources :=
  ⟨[], "S_", none, [], .dict [(.text "templates",
    .dict [(.text "mode", .text "DEBUG"), (.text "flavour", .text "mint")])]⟩

theorem loud_overrides : loudSources.overrides.Proper := by
  refine .dict ?_ (List.pairwise_singleton _ _) ?_
  · exact List.forall_mem_singleton.mpr rfl
  · refine List.forall_mem_singleton.mpr (.dict ?_ ?_ ?_)
    · exact List.forall_mem_cons.mpr ⟨rfl, List.forall_mem_singleton.mpr rfl⟩
    · exact .cons (List.forall_mem_singleton.mpr (by decide +kernel)) (List.pairwise_singleton _ _)
    · exact List.forall_mem_cons.mpr ⟨Data.proper_of_key rfl,
        List.forall_mem_singleton.mpr (Data.proper_of_key rfl)⟩

set_option maxRecDepth 10000 in
theorem settings_checked_in_capitals :
    ∃ configuration entries settings, load .empty loudSources = .ok configuration ∧
      configuration.settings = (Settings.warnings entries, .ok settings) ∧
      Settings.ReadFrom entries settings ∧ ¬Settings.Slips entries := by
  have fine : (load .empty loudSources).toOption.map (fun loaded => loaded.settings.2.isOk) =
      some true := by decide +kernel
  cases loaded : load .empty loudSources with
  | error fault =>
      rw [loaded] at fine
      cases fine
  | ok configuration =>
      rw [loaded] at fine
      have settled : configuration.settings.2.isOk = true := Option.some.inj fine
      rcases settings_checked loud_overrides loaded with
        ⟨entries, settings, _, clean, same, read⟩ | ⟨lines, problem, same, _⟩ |
          ⟨_, lines, failure, _, _, same⟩
      · exact ⟨configuration, entries, settings, rfl, same, read, clean⟩
      · rw [same] at settled
        cases settled
      · rw [same] at settled
        cases settled

end Configuration

end PageTemplates
