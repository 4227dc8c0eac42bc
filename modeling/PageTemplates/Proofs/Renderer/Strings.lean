import PageTemplates.Proofs.Autoescape
import PageTemplates.Proofs.Renderer.Shown

/-!
Pages of literal text and of output of names. Where such a page is escaped, the literal text is shown as it
stands, and of the strings in the payload nothing is shown that could be read as markup.
-/

namespace PageTemplates

open Template

namespace Template.Part

/-- Whether a part is literal text or output. -/
def isFlat : Part → Bool
  | .literal _ => true
  | .output _ _ => true
  | _ => false

/-- Literal text as it stands, and the text under a name without markup. -/
def escaped (value : String → Text) : Part → Text
  | .literal content => content.text
  | .output name _ => Markup.escape (value name.name)
  | _ => []

variable {parts : List Part} (flat : ∀ part ∈ parts, part.isFlat = true)

include flat

theorem own_of_flat : ∀ part ∈ parts, part.isOwn = true := by
  intro part inside
  have here := flat part inside
  cases part <;> first | rfl | cases here

theorem blocks_of_flat : blocks parts = [] := by
  induction parts with
  | nil => rfl
  | cons part rest ih =>
      obtain ⟨here, others⟩ := List.forall_mem_cons.mp flat
      cases part with
      | literal | output => exact ih others
      | block | extending => cases here

theorem shown_of_flat (value body : String → Text) :
    parts.flatMap (shown true value body) = parts.flatMap (escaped value) := by
  apply List.flatMap_congr
  intro part inside
  have here := flat part inside
  cases part with
  | literal | output => rfl
  | block | extending => cases here

end Template.Part

namespace Markup

/-- The characters by which markup begins or ends, or a value in it. -/
def special : List CodePoint := [.scalar '<', .scalar '>', .scalar '\x27', .scalar '\x22']

/-- The characters of the references that stand for special characters. -/
def referenced : Text := "&amp;lt;gt;#39;#34;"

/-- A character is escaped to a reference, or it is not special and stands for itself. -/
theorem of_escaped_point {point other : CodePoint} (inside : other ∈ escapePoint point) :
    other ∈ referenced ∨ (other = point ∧ other ∉ special) := by
  revert inside
  unfold escapePoint
  repeat' split
  · exact fun inside => .inl ((by decide : Text.ofString "&amp;" ⊆ referenced) inside)
  · exact fun inside => .inl ((by decide : Text.ofString "&lt;" ⊆ referenced) inside)
  · exact fun inside => .inl ((by decide : Text.ofString "&gt;" ⊆ referenced) inside)
  · exact fun inside => .inl ((by decide : Text.ofString "&#39;" ⊆ referenced) inside)
  · exact fun inside => .inl ((by decide : Text.ofString "&#34;" ⊆ referenced) inside)
  · rename_i noLess noGreater noSingle noDouble
    intro inside
    cases List.mem_singleton.mp inside
    exact .inr ⟨rfl, by simp [special, noLess, noGreater, noSingle, noDouble]⟩

/-- An escaped text has no special characters. -/
theorem escape_plain (text : Text) : ∀ point ∈ escape text, point ∉ special := by
  have references : ∀ point ∈ referenced, point ∉ special := by decide
  intro point inside
  obtain ⟨original, -, there⟩ := List.mem_flatMap.mp inside
  rcases of_escaped_point there with reference | ⟨-, plain⟩
  · exact references point reference
  · exact plain

theorem escape_whole {text : Text} (whole : text.IsWhole) : (escape text).IsWhole := by
  have references : referenced.IsWhole := by decide
  intro point inside
  obtain ⟨original, there, among⟩ := List.mem_flatMap.mp inside
  rcases of_escaped_point among with reference | ⟨rfl, -⟩
  · exact references point reference
  · exact whole point there

end Markup

namespace Renderer

/-- What a payload has under the names that are output: strings that can be encoded. -/
def Binds (data : Data) (parts : List Part) (value : String → Text) : Prop :=
  ∀ name free, .output name free ∈ parts →
    data.under name.text = some (.text (value name.name)) ∧ (value name.name).IsWhole

section

variable {discovery : Discovery} {disk : Node} {source : Source} {name : Text} {parts : List Part}
  {data : Data} {value : String → Text}

theorem escaped_whole (held : discovery.Holds disk source name parts)
    (bound : Binds data parts value) : Text.IsWhole (parts.flatMap (Part.escaped value)) := by
  intro point inside
  obtain ⟨part, among, there⟩ := List.mem_flatMap.mp inside
  cases part with
  | literal content => exact held.whole among (List.mem_singleton_self _) point there
  | output name free => exact Markup.escape_whole (bound name free among).2 point there
  | block | extending => cases there

/-- A page of literal text and output writes its parts, escaped. -/
theorem writes_flat {set : TemplateSet} {known : List String}
    (flat : ∀ part ∈ parts, part.isFlat = true)
    (names : (treeAfter [] [] parts).flatMap Statement.outputNames ⊆ known)
    (named : data.isPayload = true) (bound : Binds data parts value) (home : World) :
    ((PageRender.make name data none none).output set ⟨0, ownProgram known true parts⟩ home).Writes
      (parts.flatMap (Part.escaped value)) := by
  let entry : Entry := ⟨0, ownProgram known true parts⟩
  obtain ⟨given, payload, texts⟩ := @Run.gives_payload set.setting data named home
  apply TemplateSet.trace_writes payload
  intro before context outside here
  let state := set.startContext name entry given
  have values : ∀ word ∈ (treeAfter [] [] parts).flatMap Statement.outputNames,
      Run.valueIn set.setting.environment state word = .text (value word) := by
    intro word inside
    rw [tree_names, List.mem_append] at inside
    obtain ⟨part, among, there⟩ := List.mem_flatMap.mp (inside.resolve_left List.not_mem_nil)
    cases part with
    | output name free =>
        cases List.mem_singleton.mp there
        have found := texts _ _ (bound name free among).1
        change given.lookup (Text.ofString name.name) = _ at found
        simp only [Run.valueIn, state, TemplateSet.startContext, List.lookup_nil, found]
    | literal | block | extending => cases there
  have bodies : ∀ node ∈ Statement.blocksAll (treeAfter [] [] parts),
      Run.StartsWith (Run.chainOf state.blocks node.name) node.name [] := by
    rw [tree_blocks, Part.blocks_of_flat flat]
    exact nofun
  have written := @Run.writes_template set.recipe.table.functions
    ⟨.none, set.recipe.environment, set.templates⟩ 238 name entry known true (treeAfter [] [] parts)
    (literalBlocks true (Part.blocks parts)) context state value (fun _ => []) rfl
    (tree_simple (Part.own_of_flat flat) [] nofun) names values bodies
  rw [tree_text, Part.shown_of_flat flat] at written
  obtain ⟨after, given, wrote, -⟩ := written before outside here
  exact ⟨after, given, wrote⟩

end

/-- A page that greets someone. -/
def greetingSource : Source := .ofTexts [("templates/index.html", "<p>{{ name }}</p>")]

def greetingParts : List Part :=
  [.literal ⟨"<p>", by decide, by decide⟩, .output ⟨"name", by decide +kernel⟩ (by decide +kernel),
    .literal ⟨"</p>", by decide, by decide⟩]

/-- A name that looks like markup. -/
def greetedData : Data := .dict [(.text "name", .text "<b>'&amp;'</b>")]

end Renderer

end PageTemplates
