import Mathlib.Data.List.Basic
import PageTemplates.Path

/-!
Paths and their template names. To take a path apart at its marks and to put it together again only
touches the marks, so a template name has the same other code points as the path it comes from. The names
are normal forms: paths with the same segments have the same name, and a name is its own name.
-/

namespace PageTemplates

theorem Text.drop_opening_some {opening text rest : Text} :
    dropOpening? opening text = some rest ↔ text = opening ++ rest := by
  induction opening generalizing text with
  | nil => simp [dropOpening?]
  | cons first opening ih =>
      cases text with
      | nil => simp [dropOpening?]
      | cons point text =>
          rw [dropOpening?]
          by_cases same : first = point
          · simp [same, ih]
          · simp [same, Ne.symm same]

theorem Text.starts_with_prefix {text opening : Text} :
    startsWith text opening = true ↔ opening <+: text := by
  rw [startsWith, Option.isSome_iff_exists]
  simp only [drop_opening_some]
  exact exists_congr fun rest => eq_comm

theorem Text.ends_with_suffix {text ending : Text} :
    endsWith text ending = true ↔ ending <:+ text := by
  rw [endsWith, starts_with_prefix, List.reverse_prefix]

theorem Text.mem_join {point : CodePoint} {separator : Text} (foreign : point ∉ separator)
    {texts : List Text} : point ∈ join separator texts ↔ ∃ text ∈ texts, point ∈ text := by
  induction texts with
  | nil => simp [join]
  | cons text rest ih =>
      cases rest with
      | nil => simp [join]
      | cons next others =>
          rw [join, List.mem_append, List.mem_append, ih]
          · simp [foreign]
          · exact fun empty => by cases empty

namespace Path

/-- A code point that stands between no parts. -/
def IsMark (point : CodePoint) : Prop := point = slash ∨ point = backslash

theorem mem_with_slashes {point : CodePoint} (plain : ¬IsMark point) {path : Text} :
    point ∈ withSlashes path ↔ point ∈ path := by
  simp only [IsMark, not_or] at plain
  simp only [withSlashes, List.mem_map]
  constructor
  · rintro ⟨other, member, same⟩
    split at same
    · exact absurd same.symm plain.1
    · exact same ▸ member
  · intro member
    exact ⟨point, member, if_neg plain.2⟩

theorem mem_parts {point : CodePoint} (inside : point ≠ slash) {path : Text} :
    (∃ part ∈ parts path, point ∈ part) ↔ point ∈ path := by
  induction path with
  | nil => simp [parts]
  | cons first rest ih =>
      rw [parts]
      by_cases mark : first = slash
      · have other : point ≠ first := fun same => inside (same.trans mark)
        rw [if_pos mark, List.mem_cons]
        simp [ih, other]
      · rw [if_neg mark]
        cases split : parts rest with
        | nil =>
            rw [split] at ih
            simp [List.mem_cons, ← ih]
        | cons part others =>
            rw [split] at ih
            simp only [List.mem_cons, exists_eq_or_imp] at ih ⊢
            rw [← ih, or_assoc]

theorem mem_segments {point : CodePoint} (plain : ¬IsMark point) {path : Text} :
    (∃ part ∈ segments path, point ∈ part) ↔ point ∈ path := by
  rw [← mem_with_slashes plain, ← mem_parts fun same => plain (.inl same)]
  constructor
  · rintro ⟨part, member, inside⟩
    exact ⟨part, (List.mem_filter.mp member).1, inside⟩
  · rintro ⟨part, member, inside⟩
    refine ⟨part, List.mem_filter.mpr ⟨member, ?_⟩, inside⟩
    cases part with
    | nil => cases inside
    | cons _ _ => rfl

/-- A template name and its path differ in marks at most. -/
theorem mem_template_name {point : CodePoint} (plain : ¬IsMark point) {path : Text} :
    point ∈ templateName path ↔ point ∈ path := by
  have foreign : point ∉ [slash] := fun member => plain (.inl (List.mem_singleton.mp member))
  rw [templateName, ofParts, Text.mem_join foreign, mem_segments plain]

theorem parts_nonempty (path : Text) : parts path ≠ [] := by
  cases path with
  | nil => simp [parts]
  | cons point rest =>
      rw [parts]
      split
      · simp
      · split <;> simp

theorem parts_cons {point : CodePoint} (inside : point ≠ slash) (path : Text) :
    ∃ part others, parts path = part :: others ∧
      parts (point :: path) = (point :: part) :: others := by
  rw [parts, if_neg inside]
  cases split : parts path with
  | nil => exact absurd split (parts_nonempty path)
  | cons part others => exact ⟨part, others, rfl, rfl⟩

/-- A slash stands between the parts before it and the parts behind it. -/
theorem parts_around (front rest : Text) :
    parts (front ++ slash :: rest) = parts front ++ parts rest := by
  induction front with
  | nil => simp [parts]
  | cons point front ih =>
      by_cases mark : point = slash
      · rw [mark, List.cons_append, parts, if_pos rfl, ih, parts, if_pos rfl]
        rfl
      · obtain ⟨part, others, split, grown⟩ := parts_cons mark front
        obtain ⟨first, behind, around, whole⟩ := parts_cons mark (front ++ slash :: rest)
        rw [ih, split] at around
        cases around
        rw [List.cons_append, whole, grown]
        rfl

theorem parts_plain {path : Text} (plain : slash ∉ path) : parts path = [path] := by
  induction path with
  | nil => rfl
  | cons point rest ih =>
      simp only [List.mem_cons, not_or] at plain
      rw [parts, if_neg (Ne.symm plain.1), ih plain.2]

theorem slash_in_no_part {path part : Text} (member : part ∈ parts path) : slash ∉ part := by
  induction path generalizing part with
  | nil =>
      rw [List.mem_singleton.mp member]
      exact List.not_mem_nil
  | cons point rest ih =>
      by_cases mark : point = slash
      · rw [parts, if_pos mark] at member
        rcases List.mem_cons.mp member with rfl | behind
        · exact List.not_mem_nil
        · exact ih behind
      · obtain ⟨first, others, split, grown⟩ := parts_cons mark rest
        rw [split] at ih
        rw [grown] at member
        rcases List.mem_cons.mp member with rfl | behind
        · intro inside
          rcases List.mem_cons.mp inside with same | inside
          · exact mark same.symm
          · exact ih List.mem_cons_self inside
        · exact ih (List.mem_cons_of_mem first behind)

theorem of_parts_cons (part : Text) {others : List Text} (more : others ≠ []) :
    ofParts (part :: others) = part ++ slash :: ofParts others := by
  cases others with
  | nil => exact absurd rfl more
  | cons next rest => simp [ofParts, Text.join]

/-- Between the parts of two paths stands a slash. -/
theorem of_parts_append {first second : List Text} (left : first ≠ []) (right : second ≠ []) :
    ofParts (first ++ second) = ofParts first ++ slash :: ofParts second := by
  induction first with
  | nil => exact absurd rfl left
  | cons part others ih =>
      rw [List.cons_append, of_parts_cons part (List.append_ne_nil_of_right_ne_nil _ right)]
      by_cases alone : others = []
      · subst alone
        rfl
      · rw [ih alone, of_parts_cons part alone, List.append_assoc, List.cons_append]

/-- The last part of a path stands behind its last slash. -/
theorem of_parts_concat {others : List Text} (more : others ≠ []) (last : Text) :
    ofParts (others ++ [last]) = ofParts others ++ slash :: last :=
  of_parts_append more (List.cons_ne_nil last [])

theorem of_parts_parts (path : Text) : ofParts (parts path) = path := by
  induction path with
  | nil => rfl
  | cons point rest ih =>
      by_cases mark : point = slash
      · rw [parts, if_pos mark, of_parts_cons [] (parts_nonempty rest), ih, mark]
        rfl
      · obtain ⟨part, others, split, grown⟩ := parts_cons mark rest
        rw [grown]
        rw [split] at ih
        by_cases alone : others = []
        · rw [alone] at ih ⊢
          exact congrArg (point :: ·) ih
        · rw [of_parts_cons _ alone] at ih ⊢
          rw [← ih]
          rfl

theorem parts_of_parts {names : List Text} (listed : names ≠ [])
    (plain : ∀ name ∈ names, slash ∉ name) : parts (ofParts names) = names := by
  induction names with
  | nil => exact absurd rfl listed
  | cons name names ih =>
      have first := parts_plain (plain name List.mem_cons_self)
      by_cases alone : names = []
      · subst alone
        exact first
      · rw [of_parts_cons name alone, parts_around, first,
          ih alone fun other member => plain other (List.mem_cons_of_mem name member)]
        rfl

/-- What stands behind the first slash of a text stands behind a slash of every text that ends so. -/
theorem parts_tail_behind (front path : Text) :
    (parts path).tail <:+ (parts (front ++ path)).tail := by
  induction front with
  | nil => exact List.suffix_refl _
  | cons point front ih =>
      refine ih.trans ?_
      rw [List.cons_append]
      by_cases mark : point = slash
      · rw [parts, if_pos mark, List.tail_cons]
        exact List.tail_suffix _
      · obtain ⟨part, others, split, grown⟩ := parts_cons mark (front ++ path)
        rw [split, grown]
        exact List.suffix_refl _

theorem with_slashes_self {path : Text} (plain : backslash ∉ path) : withSlashes path = path :=
  (List.map_congr_left fun _ member => if_neg fun same => plain (Eq.subst same member)).trans
    (List.map_id path)

/-- A path without backslashes and empty parts is a template name. -/
theorem template_name_self {path : Text} (plain : backslash ∉ path) (full : [] ∉ parts path) :
    templateName path = path := by
  have kept : segments path = parts path := by
    rw [segments, with_slashes_self plain, List.filter_eq_self]
    intro part member
    cases part with
    | nil => exact absurd member full
    | cons _ _ => rfl
  rw [templateName, kept, of_parts_parts]

theorem template_name_plain {path : Text} (noBackslash : backslash ∉ path)
    (noSlash : slash ∉ path) : templateName path = path := by
  cases path with
  | nil => rfl
  | cons point rest =>
      refine template_name_self noBackslash ?_
      rw [parts_plain noSlash, List.mem_singleton]
      exact nofun

theorem backslash_replaced (path : Text) : backslash ∉ withSlashes path := by
  intro member
  obtain ⟨point, _, same⟩ := List.mem_map.mp member
  split at same
  · cases same
  · rename_i other
    exact other same

/-- A segment is not empty and has no marks. -/
theorem segment_plain {path part : Text} (member : part ∈ segments path) :
    part ≠ [] ∧ slash ∉ part ∧ backslash ∉ part := by
  obtain ⟨inParts, full⟩ := List.mem_filter.mp member
  refine ⟨fun empty => by simp [empty] at full, slash_in_no_part inParts, fun inside => ?_⟩
  exact backslash_replaced path ((mem_parts (by decide)).mp ⟨part, inParts, inside⟩)

theorem backslash_in_no_name {names : List Text} (plain : ∀ name ∈ names, backslash ∉ name) :
    backslash ∉ ofParts names := by
  rw [ofParts, Text.mem_join (by decide)]
  rintro ⟨name, member, inside⟩
  exact plain name member inside

/-- The shape of template names: no backslash, and nothing empty behind a slash. -/
theorem template_name_shape (path : Text) :
    backslash ∉ templateName path ∧ [] ∉ (parts (templateName path)).tail := by
  refine ⟨backslash_in_no_name fun part member => (segment_plain member).2.2, fun member => ?_⟩
  rw [templateName] at member
  by_cases nothing : segments path = []
  · rw [nothing] at member
    cases member
  · rw [parts_of_parts nothing fun part inside => (segment_plain inside).2.1] at member
    exact (segment_plain (List.mem_of_mem_tail member)).1 rfl

/-- Segments are what the path that joins them falls into. -/
theorem segments_of_parts {names : List Text}
    (plain : ∀ name ∈ names, name ≠ [] ∧ slash ∉ name ∧ backslash ∉ name) :
    segments (ofParts names) = names := by
  by_cases nothing : names = []
  · rw [nothing]
    rfl
  · rw [segments, with_slashes_self (backslash_in_no_name fun name member => (plain name member).2.2),
      parts_of_parts nothing fun name member => (plain name member).2.1, List.filter_eq_self]
    intro name member
    cases name with
    | nil => exact absurd rfl (plain [] member).1
    | cons _ _ => rfl

theorem segments_template_name (path : Text) : segments (templateName path) = segments path :=
  segments_of_parts fun _ => segment_plain

theorem template_name_again (path : Text) : templateName (templateName path) = templateName path :=
  congrArg ofParts (segments_template_name path)

/-- Paths have one template name exactly if they have the same segments. -/
theorem template_name_eq_iff {first second : Text} :
    templateName first = templateName second ↔ segments first = segments second := by
  refine ⟨fun same => ?_, congrArg ofParts⟩
  rw [← segments_template_name first, same, segments_template_name]

theorem segments_around (front rest : Text) :
    segments (front ++ slash :: rest) = segments front ++ segments rest := by
  have marks : withSlashes (front ++ slash :: rest) = withSlashes front ++ slash :: withSlashes rest := by
    rw [withSlashes, List.map_append, List.map_cons, if_neg (by decide)]
    rfl
  rw [segments, marks, parts_around, List.filter_append]
  rfl

/-- A name below another one. An empty name adds nothing. -/
def below (outer inner : Text) : Text := ofParts ([outer, inner].filter fun name => !name.isEmpty)

theorem template_name_empty {path : Text} : templateName path = [] ↔ segments path = [] :=
  @template_name_eq_iff path []

/-- The template name of a path below another one is the one name below the other. -/
theorem template_name_below (outer inner : Text) :
    templateName (outer ++ slash :: inner) = below (templateName outer) (templateName inner) := by
  rw [templateName, segments_around]
  by_cases noOuter : segments outer = []
  · have empty := template_name_empty.mpr noOuter
    rw [noOuter, List.nil_append, below, empty]
    by_cases noInner : segments inner = []
    · rw [noInner, template_name_empty.mpr noInner]
      rfl
    · rw [List.filter_cons_of_neg (by simp), List.filter_cons_of_pos (by simpa [template_name_empty])]
      rfl
  · rw [below, List.filter_cons_of_pos (by simpa [template_name_empty])]
    by_cases noInner : segments inner = []
    · rw [noInner, List.append_nil, template_name_empty.mpr noInner]
      rfl
    · rw [List.filter_cons_of_pos (by simpa [template_name_empty]), of_parts_append noOuter noInner]
      exact (of_parts_cons (templateName outer) (List.cons_ne_nil (templateName inner) [])).symm

/-- The normal form of names: slashes are the only marks, and stand between parts that are not empty. -/
structure IsNormal (name : Text) : Prop where
  noBackslash : backslash ∉ name
  full : name ≠ [] → ∀ part ∈ parts name, part ≠ []
  start : name.head? ≠ some slash
  finish : name.getLast? ≠ some slash

theorem is_normal_of_full {name : Text} (noBackslash : backslash ∉ name)
    (full : name ≠ [] → ∀ part ∈ parts name, part ≠ []) : IsNormal name := by
  refine ⟨noBackslash, full, fun head => ?_, fun last => ?_⟩
  · obtain ⟨rest, rfl⟩ := List.head?_eq_some_iff.mp head
    exact full (List.cons_ne_nil _ _) [] (by simp [parts]) rfl
  · obtain ⟨front, rfl⟩ := List.getLast?_eq_some_iff.mp last
    refine full (List.append_ne_nil_of_right_ne_nil _ (List.cons_ne_nil _ _)) [] ?_ rfl
    rw [parts_around]
    exact List.mem_append_right _ (List.mem_singleton_self _)

theorem template_name_is_normal (path : Text) : IsNormal (templateName path) := by
  refine is_normal_of_full (template_name_shape path).1 fun something part member => ?_
  have segmented : segments path ≠ [] := mt template_name_empty.mpr something
  rw [templateName, parts_of_parts segmented fun part inside => (segment_plain inside).2.1] at member
  exact (segment_plain member).1

/-- Normal form is what template names have, and what they keep. -/
theorem is_normal_iff {name : Text} : IsNormal name ↔ templateName name = name := by
  refine ⟨fun normal => ?_, fun same => same ▸ template_name_is_normal name⟩
  by_cases nothing : name = []
  · rw [nothing]
    rfl
  · exact template_name_self normal.noBackslash fun member => normal.full nothing [] member rfl

/-- What stands behind a slash of a normal form is in normal form. -/
theorem IsNormal.behind {front rest : Text} (normal : IsNormal (front ++ slash :: rest)) :
    IsNormal rest := by
  refine is_normal_of_full (fun member => normal.noBackslash ?_) fun _ part member => ?_
  · exact List.mem_append_right _ (List.mem_cons_of_mem _ member)
  · refine normal.full (List.append_ne_nil_of_right_ne_nil _ (List.cons_ne_nil _ _)) part ?_
    rw [parts_around]
    exact List.mem_append_right _ member

end Path

end PageTemplates
