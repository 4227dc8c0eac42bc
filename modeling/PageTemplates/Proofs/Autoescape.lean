import Mathlib.Data.List.DropRight
import Mathlib.Data.List.Infix
import Mathlib.Data.List.TakeWhile
import PageTemplates.Proofs.Discovery
import PageTemplates.Proofs.Renderer
import PageTemplates.Proofs.Text.Case

/-!
Which discovered templates are escaped. An extension is a plain ending for discovery, but for escaping
it is a dot and small letters behind which nothing follows. So whether all templates of an extension are
escaped is seen from the names that are nothing but the extension, or a letter and the extension; where
an extension has slashes, from its last part. An extension that starts with a dot passes.
-/

namespace PageTemplates

namespace Autoescape

open PageTemplates.Path

variable {extensions : List Text} {extension suffix name : Text}

theorem mem_selects :
    selects extensions (some name) = true ↔
      ∃ suffix ∈ suffixes extensions, ending suffix <:+ Text.lower name := by
  rw [selects, List.any_eq_true]
  simp only [Text.ends_with_suffix]

/-- What is escaped stays escaped when more stands in front of it in the lower case. -/
theorem selects_of_suffix {other : Text} (escaped : selects extensions (some name) = true)
    (behind : Text.lower name <:+ Text.lower other) : selects extensions (some other) = true := by
  obtain ⟨suffix, listed, ends⟩ := mem_selects.mp escaped
  exact mem_selects.mpr ⟨suffix, listed, ends.trans behind⟩

theorem ending_behind_letter
    (ends : ending suffix <:+ Text.lower (Text.casedLetter :: name)) :
    ending suffix <:+ Text.lowerAfter [Text.casedLetter] name := by
  rw [Text.lower_eq] at ends
  rcases List.suffix_cons_iff.mp (ends : _ <:+ Text.casedLetter :: _) with whole | behind
  · cases whole
  · exact behind

theorem selects_behind (alone : selects extensions (some name) = true)
    (behind : selects extensions (some (Text.casedLetter :: name)) = true) (front : Text) :
    selects extensions (some (front ++ name)) = true := by
  rcases Text.lower_behind front name with same | cased
  · exact selects_of_suffix alone same
  · obtain ⟨suffix, listed, ends⟩ := mem_selects.mp behind
    exact mem_selects.mpr ⟨suffix, listed, (ending_behind_letter ends).trans cased⟩

theorem selects_inside (alone : selects extensions (some name) = true) (front : Text) :
    selects extensions (some (front ++ slash :: name)) = true := by
  refine selects_of_suffix alone (Text.lower_apart (fun before => ?_) front name)
  have uncased : Text.isCaseIgnorable slash.value = false ∧ Text.isCased slash = false := by
    decide +kernel
  rw [Text.casedNearby, if_neg (by simp [uncased.1]), uncased.2]

/-- The names from which is seen whether the templates of an extension are escaped. None ends in an
extension with a backslash, or with nothing behind a slash. -/
def trials (extension : Text) : List Text :=
  let inner := (parts extension).tail
  if extension.contains backslash || inner.contains [] then []
  else
    match inner.getLast? with
    | some last => [last]
    | none => [extension, Text.casedLetter :: extension]

/-- Whether all templates with the extensions are escaped. -/
def Covered (extensions : List Text) : Prop :=
  ∀ extension ∈ extensions, ∀ trial ∈ trials extension, selects extensions (some trial) = true

instance (extensions : List Text) : Decidable (Covered extensions) :=
  inferInstanceAs (Decidable (∀ extension ∈ extensions, ∀ trial ∈ trials extension,
    selects extensions (some trial) = true))

/-- An extension that ends a template name has trials, which its slashes tell. -/
theorem trials_of_name {path : Text} (ends : extension <:+ templateName path) :
    backslash ∉ extension ∧ [] ∉ (parts extension).tail := by
  have shape := template_name_shape path
  obtain ⟨front, whole⟩ := ends
  rw [← whole] at shape
  refine ⟨fun member => shape.1 (List.mem_append_right front member), fun member => shape.2 ?_⟩
  exact (parts_tail_behind front extension).mem member

theorem usable_of_trial {trial : Text} (member : trial ∈ trials extension) :
    backslash ∉ extension ∧ [] ∉ (parts extension).tail := by
  rw [trials] at member
  split at member
  · cases member
  · rename_i usable
    simpa using usable

/-- An extension has no slash, or a last part behind the last one. -/
theorem trials_cases (plain : backslash ∉ extension) (full : [] ∉ (parts extension).tail) :
    (slash ∉ extension ∧ trials extension = [extension, Text.casedLetter :: extension]) ∨
    ∃ front last, extension = front ++ slash :: last ∧ slash ∉ last ∧ [] ∉ (parts front).tail ∧
      last ≠ [] ∧ trials extension = [last] := by
  have usable : (extension.contains backslash || (parts extension).tail.contains []) = false := by
    simp [plain, full]
  by_cases inside : slash ∈ extension
  · right
    -- Two parts at least, of which the last is the trial; put together again, the others are the front.
    obtain ⟨before, behind, whole⟩ := List.append_of_mem inside
    have around := parts_around before behind
    rw [← whole] at around
    obtain ⟨first, inner, split⟩ := List.exists_cons_of_ne_nil (parts_nonempty before)
    rw [split, List.cons_append] at around
    rcases List.eq_nil_or_concat' (inner ++ parts behind) with empty | ⟨others, last, ended⟩
    · exact absurd (List.append_eq_nil_iff.mp empty).2 (parts_nonempty behind)
    · rw [ended] at around
      have each : ∀ part ∈ first :: (others ++ [last]), slash ∉ part := fun part member =>
        slash_in_no_part (around ▸ member)
      rw [around, List.tail_cons] at full
      refine ⟨ofParts (first :: others), last, ?_, each last (by simp), ?_, ?_, ?_⟩
      · rw [← of_parts_concat (List.cons_ne_nil first others) last, List.cons_append, ← around,
          of_parts_parts]
      · rw [parts_of_parts (List.cons_ne_nil first others) fun part member =>
          each part (List.mem_append_left [last] member)]
        exact fun member => full (List.mem_append_left [last] member)
      · rintro rfl
        exact full (by simp)
      · rw [trials, usable, around]
        simp
  · left
    refine ⟨inside, ?_⟩
    rw [trials, usable, parts_plain inside]
    rfl

theorem trial_ends {trial : Text} (noSlash : slash ∉ extension)
    (member : trial ∈ trials extension) : extension <:+ trial := by
  have ⟨plain, full⟩ := usable_of_trial member
  rcases trials_cases plain full with ⟨_, pair⟩ | ⟨front, last, rfl, _⟩
  · rw [pair] at member
    rcases List.mem_pair.mp member with rfl | rfl
    · exact List.suffix_refl _
    · exact List.suffix_cons _ _
  · exact absurd (List.mem_append_right front List.mem_cons_self) noSlash

section

variable {root path : Text}

theorem opening_ends (root : Text) :
    Discovery.opening root = [] ∨ ∃ front, Discovery.opening root = front ++ [slash] := by
  by_cases nothing : (templateName root).isEmpty
  · exact .inl (if_pos nothing)
  · exact .inr ⟨_, if_neg nothing⟩

/-- What ends a path ends the name of the template, or reaches over the slash in front of it. -/
theorem end_of_name {text : Text} (split : templateName path = Discovery.opening root ++ name)
    (ends : text <:+ templateName path) :
    text <:+ name ∨ ∃ front, text = front ++ slash :: name := by
  obtain ⟨front, whole⟩ := ends
  rw [split] at whole
  rcases List.append_eq_append_iff.mp whole with ⟨reach, opened, rfl⟩ | ⟨between, _, rfl⟩
  · rcases opening_ends root with empty | ⟨before, ended⟩
    · rw [empty] at opened
      rw [(List.append_eq_nil_iff.mp opened.symm).2]
      exact .inl (List.suffix_refl name)
    · rw [ended] at opened
      rcases List.suffix_concat_iff.mp ⟨front, opened.symm⟩ with rfl | ⟨start, rfl, _⟩
      · exact .inl (List.suffix_refl name)
      · exact .inr ⟨start, by simp⟩
  · exact .inl (List.suffix_append between text)

theorem selects_of_trials
    (passed : ∀ trial ∈ trials extension, selects extensions (some trial) = true)
    (split : templateName path = Discovery.opening root ++ name)
    (ends : extension <:+ templateName path) : selects extensions (some name) = true := by
  have ⟨plain, full⟩ := trials_of_name ends
  rcases trials_cases plain full with ⟨noSlash, pair⟩ | ⟨front, last, rfl, noSlash, _, _, single⟩
  · rw [pair] at passed
    rcases end_of_name split ends with ⟨before, rfl⟩ | ⟨before, whole⟩
    · exact selects_behind (passed _ List.mem_cons_self)
        (passed _ (List.mem_cons_of_mem _ List.mem_cons_self)) before
    · exact absurd (whole ▸ List.mem_append_right before List.mem_cons_self) noSlash
  · rw [single] at passed
    have alone := passed last List.mem_cons_self
    rcases end_of_name split ends with ⟨before, rfl⟩ | ⟨before, whole⟩
    · rw [← List.append_assoc]
      exact selects_inside alone (before ++ front)
    · -- The extension reaches over the slash in front of the name. Its last part does not, as it has
      -- no slash: it is the name, or the name ends in a slash and the last part.
      have both : slash :: last <:+ before ++ slash :: name := ⟨front, whole⟩
      rcases List.suffix_or_suffix_of_suffix both (List.suffix_append before _) with inner | outer
      · rcases List.suffix_cons_iff.mp inner with same | ⟨between, rfl⟩
        · cases same
          exact alone
        · exact selects_inside alone between
      · rcases List.suffix_cons_iff.mp outer with same | within
        · cases same
          exact alone
        · exact absurd (within.mem List.mem_cons_self) noSlash

/-- A last part is the name of a template below a root that ends in what stands before it. The root must
not be empty, and the extension may start with a slash, so a letter goes before both. -/
theorem last_part_named {front last : Text} (plain : backslash ∉ front ++ slash :: last)
    (noSlash : slash ∉ last) (full : [] ∉ (parts front).tail) (left : last ≠ []) :
    ∃ root path, templateName path = Discovery.opening root ++ last ∧
      front ++ slash :: last <:+ templateName path := by
  let root := Text.casedLetter :: front
  have letter : Text.casedLetter ≠ slash ∧ backslash ≠ Text.casedLetter := by decide
  have rootPlain : backslash ∉ root := by
    refine List.not_mem_cons_of_ne_of_not_mem letter.2 fun member => plain ?_
    exact List.mem_append_left _ member
  have rootFull : [] ∉ parts root := by
    obtain ⟨first, inner, divided, grown⟩ := parts_cons letter.1 front
    rw [divided, List.tail_cons] at full
    rw [grown]
    exact List.not_mem_cons_of_ne_of_not_mem (List.cons_ne_nil _ _).symm full
  have pathNamed : templateName (root ++ slash :: last) = root ++ slash :: last := by
    refine template_name_self ?_ ?_
    · exact List.not_mem_cons_of_ne_of_not_mem letter.2 plain
    · rw [parts_around, parts_plain noSlash, List.mem_append, List.mem_singleton]
      rintro (member | empty)
      · exact rootFull member
      · exact left empty.symm
  refine ⟨root, root ++ slash :: last, ?_, ?_⟩
  · rw [pathNamed, Discovery.opening, template_name_self rootPlain rootFull]
    simp [root]
  · rw [pathNamed]
    exact List.suffix_cons _ _

theorem trial_named {trial : Text} (member : trial ∈ trials extension) :
    ∃ root path, templateName path = Discovery.opening root ++ trial ∧
      extension <:+ templateName path := by
  have ⟨plain, full⟩ := usable_of_trial member
  rcases trials_cases plain full with
    ⟨noSlash, pair⟩ | ⟨front, last, rfl, noSlash, inner, left, single⟩
  · have named : backslash ∉ trial ∧ slash ∉ trial := by
      rw [pair] at member
      rcases List.mem_pair.mp member with rfl | rfl
      · exact ⟨plain, noSlash⟩
      · have letter : backslash ≠ Text.casedLetter ∧ slash ≠ Text.casedLetter := by decide
        simp [letter, plain, noSlash]
    have itself := template_name_plain named.1 named.2
    exact ⟨[], trial, itself, itself.symm ▸ trial_ends noSlash member⟩
  · rw [single] at member
    cases List.mem_singleton.mp member
    exact last_part_named plain noSlash inner left

end

section

/-- Extensions as they are usually given: a dot and something behind it. -/
def Dotted (extension : Text) : Prop :=
  extension.head? = some (.scalar '.') ∧ bare extension ≠ [] ∧ slash ∉ extension ∧
    Text.capitalSigma ∉ extension

instance (extension : Text) : Decidable (Dotted extension) :=
  inferInstanceAs (Decidable (_ ∧ _ ∧ _ ∧ _))

theorem suffixes_append (extensions : List Text) (extension : Text) :
    suffixes (extensions ++ [extension]) =
      if (bare extension).isEmpty || (suffixes extensions).contains (bare extension) then
        suffixes extensions
      else suffixes extensions ++ [bare extension] := by
  simp [suffixes, List.foldl_append]

theorem mem_suffixes (member : extension ∈ extensions) (left : bare extension ≠ []) :
    bare extension ∈ suffixes extensions := by
  induction extensions using List.reverseRecOn with
  | nil => cases member
  | append_singleton extensions last ih =>
      rw [suffixes_append]
      rcases List.mem_append.mp member with earlier | new
      · split
        · exact ih earlier
        · exact List.mem_append_left _ (ih earlier)
      · rw [List.mem_singleton.mp new] at left ⊢
        by_cases known : bare last ∈ suffixes extensions <;> simp [known, left]

theorem markup_listed (extensions : List Text) : markupExtensions ⊆ suffixes extensions := by
  induction extensions using List.reverseRecOn with
  | nil => exact List.Subset.refl _
  | append_singleton extensions last ih =>
      rw [suffixes_append]
      split
      · exact ih
      · exact List.Subset.trans ih (List.subset_append_left _ _)

/-- Whatever the extensions, templates of markup are escaped. -/
theorem selects_markup (ends : Text.ofString ".html" <:+ name) :
    selects extensions (some name) = true := by
  obtain ⟨front, rfl⟩ := ends
  have plain : Text.capitalSigma ∉ Text.ofString ".html" := by decide
  have same : ending "html" = Text.lower (Text.ofString ".html") := by decide +kernel
  refine mem_selects.mpr ⟨"html", markup_listed extensions List.mem_cons_self, ?_⟩
  rw [same]
  exact Text.lower_plain plain front

/-- An extension that starts with a dot has one in front of what follows its dots. -/
theorem split_of_dotted (dotted : Dotted extension) :
    ∃ front, extension = front ++ .scalar '.' :: bare extension := by
  have dots : ∀ point ∈ extension.takeWhile (· = .scalar '.'), point = .scalar '.' := by
    intro point member
    simpa using List.mem_takeWhile_imp member
  have whole : extension.takeWhile (· = .scalar '.') ++ bare extension = extension :=
    List.takeWhile_append_dropWhile
  rcases List.eq_nil_or_concat' (extension.takeWhile (· = .scalar '.')) with nothing | ⟨front, last, dotsEnd⟩
  · -- No dots at the start, against the hypothesis.
    obtain ⟨point, rest, rfl⟩ := List.exists_cons_of_ne_nil fun empty : extension = [] =>
      dotted.2.1 (by rw [empty]; rfl)
    cases dotted.1
    cases nothing
  · rw [dotsEnd] at dots whole
    rw [dots last (by simp)] at whole
    exact ⟨front, whole.symm.trans (List.append_assoc _ _ _)⟩

theorem ending_of_dotted (dotted : Dotted extension) :
    ending (bare extension) <:+ Text.lower extension := by
  obtain ⟨front, whole⟩ := split_of_dotted dotted
  have plain : Text.capitalSigma ∉ .scalar '.' :: bare extension := fun member =>
    dotted.2.2.2 (whole ▸ List.mem_append_right front member)
  have behindDot : Text.lower (.scalar '.' :: bare extension) =
      .scalar '.' :: Text.lower (bare extension) := by
    rw [Text.lower_eq, Text.lower_eq, Text.lower_after_plain plain,
      Text.lower_after_plain fun member => plain (List.mem_cons_of_mem _ member), List.flatMap_cons]
    rfl
  have once : bare (bare extension) = bare extension := List.dropWhile_idempotent _ _
  have same : ending (bare extension) = Text.lower (.scalar '.' :: bare extension) := by
    rw [behindDot, ending, once]
    rfl
  have ends := Text.lower_plain plain front
  rwa [← same, ← whole] at ends

theorem covered_of_dotted (dotted : ∀ extension ∈ extensions, Dotted extension) :
    Covered extensions := by
  intro extension listed trial member
  have ⟨_, left, noSlash, plain⟩ := dotted extension listed
  obtain ⟨front, rfl⟩ := trial_ends noSlash member
  exact mem_selects.mpr ⟨bare extension, mem_suffixes listed left,
    (ending_of_dotted (dotted extension listed)).trans (Text.lower_plain plain front)⟩

end

end Autoescape

namespace RendererOptions

/-- Whether the templates of all sources, below whatever root, are escaped. -/
def EscapesAll (options : RendererOptions) : Prop :=
  ∀ disk source root discovery,
    Discovery.ofSource disk source root options.extensions = .ok discovery →
      ∀ role, ∀ name ∈ discovery.ofRole role, options.recipe.environment.escapes name = true

theorem recipe_escapes {options : RendererOptions} (escaping : options.autoescape = true)
    (name : Text) : options.recipe.environment.escapes name =
      Autoescape.selects options.extensions (some name) := by
  have selected : options.recipe.escapesName name =
      Autoescape.selects options.extensions (some name) := by
    rw [Recipe.escapesName, recipe, Recipe.make, escaping]
    rfl
  rw [← selected, Recipe.environment]
  cases options.recipe.effectivePolicy? <;> rfl

theorem escapes_all_of_covered {options : RendererOptions} (escaping : options.autoescape = true)
    (covered : Autoescape.Covered options.extensions) : options.EscapesAll := by
  intro disk source root discovery found role name member
  obtain ⟨paths, _, sorted⟩ := Discovery.of_source_ok found
  obtain ⟨⟨path, _, given⟩, _⟩ := (Discovery.mem_of_role sorted role).mp member
  rw [recipe_escapes escaping]
  obtain ⟨⟨extension, listed, ends⟩, split⟩ := Discovery.name_of_path.mp given
  exact Autoescape.selects_of_trials (covered extension listed) split ends

theorem covered_of_escapes_all {options : RendererOptions} (escaping : options.autoescape = true)
    (escapes : options.EscapesAll) : Autoescape.Covered options.extensions := by
  intro extension listed trial member
  obtain ⟨root, path, split, ends⟩ := Autoescape.trial_named member
  have named := Discovery.name_of_path.mpr ⟨⟨extension, listed, ends⟩, split⟩
  obtain ⟨discovery, found, inRole⟩ := Discovery.of_single_path named .empty []
  rw [← recipe_escapes escaping]
  exact escapes .empty (.mapping [(path, [])]) root discovery found _ trial inRole

/-- All templates of all sources are escaped exactly if the trials of the extensions are. This is so for
extensions that start with a dot. -/
theorem templates_escaped (options : RendererOptions) (escaping : options.autoescape = true) :
    (options.EscapesAll ↔ Autoescape.Covered options.extensions) ∧
      ((∀ extension ∈ options.extensions, Autoescape.Dotted extension) → options.EscapesAll) :=
  ⟨⟨covered_of_escapes_all escaping, escapes_all_of_covered escaping⟩,
    fun dotted => escapes_all_of_covered escaping (Autoescape.covered_of_dotted dotted)⟩

/-- Extensions with a dot pass. An extension without one does not, nor does one of nothing but dots, or
one whose last letter is a capital sigma, which is a final one behind a letter. -/
theorem templates_escaped_by_extension :
    RendererOptions.plain.EscapesAll ∧
      ∀ extension ∈ ["tpl", "", ".", ".Σ"],
        ¬({ RendererOptions.plain with extensions := [Text.ofString extension] }).EscapesAll := by
  have uncovered : ∀ extension ∈ ["tpl", "", ".", ".Σ"],
      ¬Autoescape.Covered [Text.ofString extension] := by decide +kernel
  exact ⟨(templates_escaped .plain rfl).2 (by decide), fun extension member escapes =>
    uncovered extension member ((templates_escaped _ rfl).1.mp escapes)⟩

end RendererOptions

end PageTemplates
