import PageTemplates.Proofs.Build

/-!
What can go wrong in a build. Every fault that a source, a discovery or a compilation ends with is a
fault of templates; what is not a fault is a failure that nothing on the way stands for.
-/

namespace PageTemplates

/-- A problem that is a fault of templates if it is a fault at all. -/
def Problem.OfTemplate : Problem → Prop
  | .fault told => told.kind.isTemplate = true
  | .failure _ => True

/-- A computation whose faults are all faults of templates. -/
def TemplateFaultsOnly {Result : Type} (result : Except Problem Result) : Prop :=
  ∀ problem, result = .error problem → problem.OfTemplate

namespace TemplateFaultsOnly

variable {First Second : Type}

theorem ok (value : First) : TemplateFaultsOnly (.ok value) := by
  intro problem failed
  cases failed

theorem failed (failure : Failure) :
    TemplateFaultsOnly (.error (.failure failure) : Except Problem First) := by
  intro problem same
  cases same
  trivial

theorem unreadable (path reason : Text) :
    TemplateFaultsOnly (.error (Source.unreadable path reason) : Except Problem First) := by
  intro problem same
  cases same
  rfl

theorem of_failure (result : Except Failure First) :
    TemplateFaultsOnly (result.mapError .failure) := by
  cases result with
  | error failure => exact failed failure
  | ok value => exact ok value

theorem bind {result : Except Problem First} {next : First → Except Problem Second}
    (first : TemplateFaultsOnly result) (rest : ∀ value, TemplateFaultsOnly (next value)) :
    TemplateFaultsOnly (result >>= next) := by
  cases result with
  | error problem =>
      intro other same
      cases same
      exact first problem rfl
  | ok value => exact rest value

theorem map {result : Except Problem First} (function : First → Second)
    (first : TemplateFaultsOnly result) : TemplateFaultsOnly (result.map function) := by
  cases result with
  | error problem =>
      intro other same
      cases same
      exact first problem rfl
  | ok value => exact ok (function value)

theorem mapM {function : First → Except Problem Second} {items : List First}
    (each : ∀ item, TemplateFaultsOnly (function item)) :
    TemplateFaultsOnly (items.mapM function) := by
  intro problem failed
  obtain ⟨before, item, after, _, _, fails⟩ := Results.mapM_error.mp failed
  exact each item problem fails

end TemplateFaultsOnly

open TemplateFaultsOnly

namespace Source

theorem package_folder_faults (disk : Node) (package : Text) :
    TemplateFaultsOnly (packageFolder disk package) := by
  simp only [packageFolder]
  split
  · exact ok _
  · exact ok _
  · exact TemplateFaultsOnly.unreadable _ _
  · split
    · exact TemplateFaultsOnly.unreadable _ _
    · exact failed _

theorem folder_listing_faults (listing : Node → List Text) (disk : Node)
    (path shown told reason : Text) :
    TemplateFaultsOnly (folderListing listing disk path shown (unreadable told reason)) := by
  refine TemplateFaultsOnly.bind (of_failure _) ?_
  intro leads
  split
  · split
    · exact ok _
    · exact TemplateFaultsOnly.unreadable _ _
  · exact TemplateFaultsOnly.unreadable _ _

theorem file_bytes_faults (disk : Node) (path shown told : Text) :
    TemplateFaultsOnly (fileBytes disk path shown told) := by
  refine TemplateFaultsOnly.bind (of_failure _) ?_
  intro _
  split
  · exact ok _
  · exact TemplateFaultsOnly.unreadable _ _

theorem list_faults (disk : Node) (source : Source) : TemplateFaultsOnly (source.list disk) := by
  cases source with
  | mapping files => exact ok _
  | folder root => exact folder_listing_faults _ _ _ _ _ _
  | bundle home package path =>
      refine TemplateFaultsOnly.bind (package_folder_faults disk package) ?_
      intro found
      exact folder_listing_faults _ _ _ _ _ _

theorem read_faults (disk : Node) (path : Text) (source : Source) :
    TemplateFaultsOnly (source.read disk path) := by
  cases source with
  | mapping files =>
      simp only [read]
      split
      · exact ok _
      · exact TemplateFaultsOnly.unreadable _ _
  | folder root => exact file_bytes_faults _ _ _ _
  | bundle home package inner =>
      refine TemplateFaultsOnly.bind (package_folder_faults disk package) ?_
      intro found
      simp only
      split
      · exact failed _
      · exact file_bytes_faults _ _ _ _

theorem read_text_faults (disk : Node) (path : Text) (source : Source) :
    TemplateFaultsOnly (source.readText disk path) := by
  refine TemplateFaultsOnly.bind (read_faults disk path source) ?_
  intro content
  split
  · exact ok _
  · exact TemplateFaultsOnly.unreadable _ _

end Source

theorem Discovery.of_source_faults (disk : Node) (source : Source) (root : Text)
    (extensions : List Text) :
    TemplateFaultsOnly (Discovery.ofSource disk source root extensions) := by
  refine TemplateFaultsOnly.bind (Source.list_faults disk source) ?_
  intro paths problem failed
  simp only [Discovery.ofPaths] at failed
  split at failed
  · cases failed
    rfl
  · cases failed

theorem TemplateSet.compile_faults (recipe : Recipe) (name source : Text) (path : Option Text) :
    TemplateFaultsOnly (compile recipe name source path) := by
  intro problem failed
  simp only [compile] at failed
  split at failed
  · cases failed
    trivial
  · rename_i fault notRaw _
    split at failed
    · cases failed
      cases fault with
      | source fault => rfl
      | failure failure => trivial
    · cases failed
      trivial
  · split at failed
    · cases failed
    · cases failed
      trivial

namespace Build

section

variable (recipe : Recipe) (disk : Node) (source : Source)

theorem program_faults (discovery : Discovery) (name : Text) :
    TemplateFaultsOnly (program recipe disk source discovery name) := by
  rw [program]
  split
  · exact failed _
  · exact TemplateFaultsOnly.bind (Source.read_text_faults _ _ _) fun text =>
      TemplateSet.compile_faults _ _ _ _

theorem programs_faults (discovery : Discovery) (names : List Text) :
    TemplateFaultsOnly (programs recipe disk source discovery names) :=
  TemplateFaultsOnly.mapM fun _ => TemplateFaultsOnly.map _ (program_faults recipe disk source _ _)

variable (root : Text) (extensions : List Text)

theorem foundation_faults : TemplateFaultsOnly (foundation recipe disk source root extensions) :=
  TemplateFaultsOnly.bind (Discovery.of_source_faults _ _ _ _) fun _ =>
    TemplateFaultsOnly.map _ (programs_faults recipe disk source _ _)

/-- Every fault of a build of one page is a fault of templates. -/
theorem one_set_faults (name : Text) :
    TemplateFaultsOnly (oneSet recipe disk source root extensions name) := by
  refine TemplateFaultsOnly.bind (foundation_faults recipe disk source root extensions) ?_
  rintro ⟨discovery, made⟩
  simp only
  split
  · exact TemplateFaultsOnly.map _ (program_faults recipe disk source _ _)
  · exact ok _

end

end Build

end PageTemplates

/-!
What goes wrong first. A build of one page asks for the listing, then for the layouts, the partials and
the page, and ends with the first of them that is not in order. The ways in which something can be out
of order are told here by themselves, and a build ends with a problem exactly if one of them brings it
about.
-/

namespace PageTemplates

namespace Build

section

variable (recipe : Recipe) (disk : Node) (source : Source)

/-- What goes wrong with a template that was discovered: it cannot be read, its bytes are no text, it is
no template, a constant in it cannot be computed, or no code can be filed under its path. -/
inductive TemplateWrong (discovery : Discovery) (name : Text) : Problem → Prop where
  | unread {path : Text} {problem : Problem} (located : discovery.path? name = some path)
    (failed : source.read disk path = .error problem) : TemplateWrong discovery name problem
  | undecoded {path : Text} {content : Bytes} {fault : Text.DecodeFault}
    (located : discovery.path? name = some path) (read : source.read disk path = .ok content)
    (failed : Text.decode content = .error fault) :
    TemplateWrong discovery name
      (Source.unreadable path ("not valid UTF-8: " ++ fault.message))
  | unparsed {path : Text} {content : Bytes} {text : Text} {fault : Template.SyntaxFault}
    (located : discovery.path? name = some path) (read : source.read disk path = .ok content)
    (decoded : Text.decode content = .ok text)
    (failed : TemplateSet.translated recipe name text = .error (.source fault))
    (fits : TemplateSet.fitsCode (some path) = true) :
    TemplateWrong discovery name (TemplateSet.problemOf name (.source fault))
  | uncomputed {path : Text} {content : Bytes} {text : Text} {failure : Failure}
    (located : discovery.path? name = some path) (read : source.read disk path = .ok content)
    (decoded : Text.decode content = .ok text)
    (failed : TemplateSet.translated recipe name text = .error (.failure failure)) :
    TemplateWrong discovery name (.failure failure)
  | unfiled {path : Text} {content : Bytes} {text : Text}
    (located : discovery.path? name = some path) (read : source.read disk path = .ok content)
    (decoded : Text.decode content = .ok text)
    (computed : ∀ failure, TemplateSet.translated recipe name text ≠ .error (.failure failure))
    (unfit : TemplateSet.fitsCode (some path) = false) :
    TemplateWrong discovery name (.failure TemplateSet.badPath)

variable (root : Text) (extensions : List Text)

/-- What goes wrong first for a name: the files cannot be listed, two of them claim one template, or
something is wrong with a template and with none that is asked for before it. -/
inductive Wrong (name : Text) : Problem → Prop where
  | unlisted {problem : Problem} (failed : source.list disk = .error problem) : Wrong name problem
  | claimed {paths : List Text} {fault : Fault} (listed : source.list disk = .ok paths)
    (failed : Discovery.ofPaths root extensions paths = .error fault) : Wrong name (.fault fault)
  | template {paths : List Text} {discovery : Discovery} {before rest : List Text}
    {template : Text} {problem : Problem} (listed : source.list disk = .ok paths)
    (found : Discovery.ofPaths root extensions paths = .ok discovery)
    (split : requested discovery name = before ++ template :: rest)
    (fine : ∀ earlier ∈ before, ∀ other, ¬TemplateWrong recipe disk source discovery earlier other)
    (failed : TemplateWrong recipe disk source discovery template problem) : Wrong name problem

end

section

variable {recipe : Recipe} {disk : Node} {source : Source} {discovery : Discovery}

/-- A template has no program exactly if something is wrong with it. -/
theorem program_wrong {name path : Text} (located : discovery.path? name = some path)
    {problem : Problem} :
    program recipe disk source discovery name = .error problem ↔
      TemplateWrong recipe disk source discovery name problem := by
  rw [program_of_path _ _ _ _ located]
  constructor
  · intro failed
    cases reading : source.read disk path with
    | error other =>
        simp only [Source.readText, reading, bind, Except.bind, Except.error.injEq] at failed
        exact failed ▸ .unread located reading
    | ok content =>
        cases decoding : Text.decode content with
        | error fault =>
            simp only [Source.readText, reading, decoding, bind, Except.bind,
              Except.error.injEq] at failed
            exact failed ▸ .undecoded located reading decoding
        | ok text =>
            simp only [Source.readText, reading, decoding, bind, Except.bind] at failed
            rcases TemplateSet.compile_error.mp failed with
              ⟨fault, wrong, fits, rfl⟩ | ⟨failure, wrong, rfl⟩ | ⟨computed, unfit, rfl⟩
            · exact .unparsed located reading decoding wrong fits
            · exact .uncomputed located reading decoding wrong
            · exact .unfiled located reading decoding computed unfit
  · intro wrong
    cases wrong with
    | unread here failed =>
        cases located.symm.trans here
        simp only [Source.readText, failed, bind, Except.bind]
    | undecoded here read failed =>
        cases located.symm.trans here
        simp only [Source.readText, read, failed, bind, Except.bind]
    | unparsed here read decoded failed fits =>
        cases located.symm.trans here
        simp only [Source.readText, read, decoded, bind, Except.bind]
        exact TemplateSet.compile_error.mpr (.inl ⟨_, failed, fits, rfl⟩)
    | uncomputed here read decoded failed =>
        cases located.symm.trans here
        simp only [Source.readText, read, decoded, bind, Except.bind]
        exact TemplateSet.compile_error.mpr (.inr (.inl ⟨_, failed, rfl⟩))
    | unfiled here read decoded computed unfit =>
        cases located.symm.trans here
        simp only [Source.readText, read, decoded, bind, Except.bind]
        exact TemplateSet.compile_error.mpr (.inr (.inr ⟨computed, unfit, rfl⟩))

theorem program_right {name path : Text} (located : discovery.path? name = some path) :
    (∃ one, program recipe disk source discovery name = .ok one) ↔
      ∀ problem, ¬TemplateWrong recipe disk source discovery name problem := by
  simp only [← program_wrong located]
  cases program recipe disk source discovery name <;> simp

variable {root : Text} {extensions : List Text}

theorem requested_located (found : Discovery.ofSource disk source root extensions = .ok discovery)
    {name template : Text} (member : template ∈ requested discovery name) :
    ∃ path, discovery.path? template = some path := by
  obtain ⟨paths, _, sorted⟩ := Discovery.of_source_ok found
  rcases List.mem_append.mp member with inBase | isPage
  · obtain ⟨path, _, located, _⟩ := Discovery.path_of_base sorted inBase
    exact ⟨path, located⟩
  · split at isPage
    · rename_i listed
      cases List.mem_singleton.mp isPage
      obtain ⟨path, _, located, _⟩ :=
        Discovery.path_of_role sorted .page (List.contains_iff_mem.mp listed)
      exact ⟨path, located⟩
    · cases isPage

/-- A build of one page ends with a problem exactly if that is what goes wrong first. -/
theorem one_set_wrong {name : Text} {problem : Problem} :
    oneSet recipe disk source root extensions name = .error problem ↔
      Wrong recipe disk source root extensions name problem := by
  constructor
  · intro failed
    cases found : Discovery.ofSource disk source root extensions with
    | error other =>
        rw [oneSet, foundation, found] at failed
        cases failed
        rcases Discovery.of_source_error.mp found with listed | ⟨paths, fault, listed, doubled, rfl⟩
        · exact .unlisted listed
        · exact .claimed listed doubled
    | ok discovery =>
        obtain ⟨paths, listed, sorted⟩ := Discovery.of_source_ok found
        rw [one_set_requested found] at failed
        cases made : programs recipe disk source discovery (requested discovery name) with
        | ok _ => rw [made] at failed; cases failed
        | error other =>
            rw [made] at failed
            cases failed
            obtain ⟨before, template, rest, split, fine, wrong⟩ :=
              (programs_error recipe disk source discovery).mp made
            obtain ⟨path, located⟩ := requested_located found
              (show template ∈ requested discovery name by simp [split])
            refine .template listed sorted split ?_ ((program_wrong located).mp wrong)
            intro earlier member
            obtain ⟨place, placed⟩ := requested_located found
              (show earlier ∈ requested discovery name by simp [split, member])
            exact (program_right placed).mp (fine earlier member)
  · intro wrong
    cases wrong with
    | unlisted listed =>
        rw [oneSet, foundation, Discovery.of_source_error.mpr (.inl listed)]
        rfl
    | claimed listed doubled =>
        rw [oneSet, foundation,
          Discovery.of_source_error.mpr (.inr ⟨_, _, listed, doubled, rfl⟩)]
        rfl
    | template listed sorted split fine wrong =>
        rename_i paths discovery before rest template
        have found : Discovery.ofSource disk source root extensions = .ok discovery := by
          rw [Discovery.of_source_listed listed, sorted]
          rfl
        have ends : programs recipe disk source discovery (requested discovery name) =
            .error problem := by
          refine (programs_error recipe disk source discovery).mpr
            ⟨before, template, rest, split, ?_, ?_⟩
          · intro earlier member
            obtain ⟨path, located⟩ := requested_located found
              (show earlier ∈ requested discovery name by simp [split, member])
            exact (program_right located).mpr (fine earlier member)
          · obtain ⟨path, located⟩ := requested_located found
              (show template ∈ requested discovery name by simp [split])
            exact (program_wrong located).mpr wrong
        rw [one_set_requested found, ends]
        rfl

/-- Where files are held in memory, what goes wrong is a fault, unless a constant of a template cannot be
computed or no code can be filed under the path of one. -/
theorem wrong_in_memory {files : List (Text × Bytes)} {name : Text} {failure : Failure}
    (wrong : Wrong recipe disk (.mapping files) root extensions name (.failure failure)) :
    (∃ template text, TemplateSet.translated recipe template text = .error (.failure failure)) ∨
      failure = TemplateSet.badPath := by
  cases wrong with
  | unlisted failed => cases failed
  | template listed found split fine failed =>
      cases failed with
      | unread located failed =>
          simp only [Source.read] at failed
          split at failed <;> cases failed
      | uncomputed located read decoded failed => exact .inl ⟨_, _, failed⟩
      | unfiled located read decoded computed unfit => exact .inr rfl

end

end Build

end PageTemplates
