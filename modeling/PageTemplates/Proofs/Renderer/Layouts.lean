import PageTemplates.Proofs.Renderer.Shown

/-!
Pages on layouts. A page that extends a layout shows the text of the layout with its blocks filled: with the
body that the page has under the name of the block, or else with the body in the layout.
-/

namespace PageTemplates

open Template

namespace Template.Part

/-- Whether a part is literal text or a block of it. -/
def isFixed : Part → Bool
  | .literal _ => true
  | .block _ _ => true
  | _ => false

/-- The text of a part of a layout whose blocks are filled with bodies by name. -/
def filled (bodies : List (String × Text)) : Part → Text
  | .literal content => content.text
  | .block name body => (bodies.lookup name.name).getD body.text
  | _ => []

/-- The body of a block with given bodies before those of a layout. -/
def bodyIn (bodies defaults : List (String × Text)) (name : String) : Text :=
  ((bodies.lookup name).or (defaults.lookup name)).getD []

theorem name_in_blocks {parts : List Part} {word : PlainName} {body : Literal}
    (inside : .block word body ∈ parts) : word.name ∈ (blocks parts).map Prod.fst := by
  induction parts with
  | nil => cases inside
  | cons part rest ih =>
      rcases List.mem_cons.mp inside with rfl | later
      · exact List.mem_cons_self
      · cases part with
        | block => exact List.mem_cons_of_mem _ (ih later)
        | literal | output | extending => exact ih later

/-- A block among different ones is found under its name. -/
theorem lookup_block {parts : List Part} (distinct : ((blocks parts).map Prod.fst).Nodup)
    {word : PlainName} {body : Literal} (inside : .block word body ∈ parts) :
    (blocks parts).lookup word.name = some body.text := by
  induction parts with
  | nil => cases inside
  | cons part rest ih =>
      cases part with
      | block other first =>
          rw [blocks, List.map_cons, List.nodup_cons] at distinct
          rcases List.mem_cons.mp inside with same | later
          · cases same
            simp [blocks]
          · have apart : (word.name == other.name) = false := by
              rw [beq_eq_false_iff_ne]
              intro same
              exact distinct.1 (same ▸ name_in_blocks later)
            rw [blocks, List.lookup_cons, apart]
            exact ih distinct.2 later
      | literal | output | extending =>
          rcases List.mem_cons.mp inside with same | later
          · cases same
          · exact ih distinct later

theorem block_of_lookup {parts : List Part} {name : String} {body : Text}
    (found : (blocks parts).lookup name = some body) :
    ∃ word content, .block word content ∈ parts ∧ content.text = body := by
  induction parts with
  | nil => cases found
  | cons part rest ih =>
      have behind (later : (blocks rest).lookup name = some body) :
          ∃ word content, .block word content ∈ part :: rest ∧ content.text = body := by
        obtain ⟨word, content, inside, same⟩ := ih later
        exact ⟨word, content, List.mem_cons_of_mem _ inside, same⟩
      cases part with
      | block other first =>
          rw [blocks, List.lookup_cons] at found
          split at found
          · exact ⟨other, first, List.mem_cons_self, Option.some.inj found⟩
          · exact behind found
      | literal | output | extending => exact behind found

section Fixed

variable {parts : List Part} (fixed : ∀ part ∈ parts, part.isFixed = true)

include fixed

theorem own_of_fixed : ∀ part ∈ parts, part.isOwn = true := by
  intro part inside
  have here := fixed part inside
  cases part <;> first | rfl | cases here

theorem names_of_fixed : parts.flatMap names = [] := by
  rw [List.flatMap_eq_nil_iff]
  intro part inside
  have here := fixed part inside
  cases part <;> first | rfl | cases here

theorem shown_of_fixed (distinct : ((blocks parts).map Prod.fst).Nodup)
    (bodies : List (String × Text)) (escapes : Bool) (value : String → Text) :
    parts.flatMap (shown escapes value (bodyIn bodies (blocks parts))) =
      parts.flatMap (filled bodies) := by
  apply List.flatMap_congr
  intro part inside
  have here := fixed part inside
  cases part with
  | literal => rfl
  | block word body =>
      rw [shown, filled, bodyIn, lookup_block distinct inside]
      cases bodies.lookup word.name <;> rfl
  | output | extending => cases here

end Fixed

end Template.Part

namespace Run

theorem codes_named (escapes : Bool) {blocks : List (String × Text)} {name : String} {body : Text}
    (found : blocks.lookup name = some body) :
    ∃ others, (literalBlocks escapes blocks).filter (fun code => code.name = name) =
      literalBlock escapes name body :: others := by
  induction blocks with
  | nil => cases found
  | cons first rest ih =>
      obtain ⟨other, text⟩ := first
      by_cases same : name = other
      · subst same
        rw [List.lookup_cons, beq_self_eq_true] at found
        cases found
        exact ⟨_, List.filter_cons_of_pos (decide_eq_true rfl)⟩
      · have passed : (name == other) = false := beq_eq_false_iff_ne.mpr same
        rw [List.lookup_cons, passed] at found
        obtain ⟨others, filtered⟩ := ih found
        refine ⟨others, ?_⟩
        rw [← filtered]
        exact List.filter_cons_of_neg fun here => same (of_decide_eq_true here).symm

/-- The chains that a template starts with: each of its blocks alone. -/
theorem chain_started (owner : Text) (escapes : Bool) (blocks : List (String × Text))
    (name : String) :
    chainOf ((literalBlocks escapes blocks).map fun block => (block.name, [⟨owner, block⟩])) name =
      ((blocks.lookup name).map fun body => ⟨owner, literalBlock escapes name body⟩).toList := by
  induction blocks with
  | nil => rfl
  | cons first rest ih =>
      obtain ⟨other, text⟩ := first
      unfold chainOf literalBlocks at ih ⊢
      rw [List.map_cons, List.map_cons, List.lookup_cons, List.lookup_cons]
      by_cases same : name = other
      · subst same
        simp [literalBlock]
      · have passed : (name == other) = false := beq_eq_false_iff_ne.mpr same
        simp only [literalBlock, passed]
        exact ih

/-- With the blocks of a layout below those of a page, each block of the layout starts with the body that
fills it. -/
theorem starts_filled {page layout : Text} {escapes others : Bool}
    {bodies defaults : List (String × Text)} {name : String}
    (known : name ∈ defaults.map Prod.fst) :
    StartsWith (chainOf (blocksBelow layout (literalBlocks others defaults)
      ((literalBlocks escapes bodies).map fun block => (block.name, [⟨page, block⟩]))) name) name
      (Part.bodyIn bodies defaults name) := by
  rw [chain_below, chain_started, Part.bodyIn]
  cases here : bodies.lookup name with
  | some body => exact ⟨page, escapes, _, rfl⟩
  | none =>
      obtain ⟨body, there⟩ := Option.isSome_iff_exists.mp (show (defaults.lookup name).isSome from by
        rw [List.lookup_isSome_iff]
        obtain ⟨entry, among, same⟩ := List.mem_map.mp known
        exact ⟨entry, among, by simp [same]⟩)
      obtain ⟨rest, filtered⟩ := codes_named others there
      rw [filtered, there]
      exact ⟨layout, others, _, rfl⟩

end Run

namespace Renderer

section

variable {discovery : Discovery} {disk : Node} {source : Source} {name : Text} {quotation : Quotation}
  {parts rest : List Part}

theorem filled_whole (layout : discovery.Holds disk source quotation.value parts)
    (page : discovery.Holds disk source name (.extending quotation :: rest)) :
    Text.IsWhole (parts.flatMap (Part.filled (Part.blocks rest))) := by
  intro point inside
  obtain ⟨part, among, there⟩ := List.mem_flatMap.mp inside
  cases part with
  | literal content => exact layout.whole among (List.mem_singleton_self _) point there
  | block word body =>
      rw [Part.filled] at there
      cases found : (Part.blocks rest).lookup word.name with
      | none =>
          rw [found] at there
          exact layout.whole among (List.mem_singleton_self _) point there
      | some filling =>
          rw [found] at there
          obtain ⟨other, content, within, rfl⟩ := Part.block_of_lookup found
          exact page.whole (List.mem_cons_of_mem _ within) (List.mem_singleton_self _) point there
  | output | extending => cases there

/-- A page on a layout writes the layout with its blocks filled. -/
theorem writes_filled {set : TemplateSet} {known names : List String} {escapes others : Bool}
    {data : Data}
    (found : set.templates.lookup quotation.value = some ⟨0, ownProgram names others parts⟩)
    (fixed : ∀ part ∈ parts, part.isFixed = true) (distinct : ((Part.blocks parts).map Prod.fst).Nodup)
    (named : data.isPayload = true) (home : World) :
    ((PageRender.make name data none none).output set
      ⟨0, extendingProgram known escapes quotation rest⟩ home).Writes
        (parts.flatMap (Part.filled (Part.blocks rest))) := by
  obtain ⟨given, payload, -⟩ := @Run.gives_payload set.setting data named home
  apply TemplateSet.trace_writes payload
  intro before context outside here
  let bare : Setting := ⟨.none, set.recipe.environment, set.templates⟩
  let page : Entry := ⟨0, extendingProgram known escapes quotation rest⟩
  let layout : Entry := ⟨0, ownProgram names others parts⟩
  let state := set.startContext name page given
  let below : Context := { state with
    blocks := Run.blocksBelow quotation.value layout.program.blocks state.blocks }
  let body := Part.bodyIn (Part.blocks rest) (Part.blocks parts)
  have noNames : (treeAfter [] [] parts).flatMap Statement.outputNames = [] := by
    rw [tree_names, Part.names_of_fixed fixed]
    rfl
  have bodies : ∀ node ∈ Statement.blocksAll (treeAfter [] [] parts),
      Run.StartsWith (Run.chainOf below.blocks node.name) node.name (body node.name) := by
    intro node inside
    rw [tree_blocks] at inside
    obtain ⟨entry, among, rfl⟩ := List.mem_map.mp inside
    exact Run.starts_filled (List.mem_map_of_mem among)
  have written := @Run.writes_template set.recipe.table.functions bare 237 quotation.value layout names
    others (treeAfter [] [] parts) (literalBlocks others (Part.blocks parts)) context below
    (fun _ => []) body rfl (tree_simple (Part.own_of_fixed fixed) [] nofun)
    (noNames ▸ List.nil_subset _) (noNames ▸ nofun) bodies
  rw [tree_text, Part.shown_of_fixed fixed distinct] at written
  exact @Run.gives_extended set.recipe.table.functions bare 238 name quotation.value page layout known
    (literalBlocks escapes (Part.blocks rest)) context state _ before rfl found written outside here

end

/-- Whatever the mode, a page on a layout shows the layout with each block filled, with the body of the
page if it has one under the name and with the body of the layout otherwise, and nothing else. -/
theorem layouts_filled {options : RendererOptions} {mode : Mode} {disk : Node} {source : Source}
    {session : Session} {root name : Text} {discovery : Discovery} {quotation : Quotation}
    {parts rest : List Part} {data : Data}
    (rooted : Discovery.rootText options.root = .ok root)
    (found : Discovery.ofSource disk source root options.extensions = .ok discovery)
    (isPage : name ∈ discovery.pages) (isLayout : quotation.value ∈ discovery.base)
    (others : options.OthersCompile mode disk source discovery [quotation.value, name])
    (layout : discovery.Holds disk source quotation.value parts)
    (page : discovery.Holds disk source name (.extending quotation :: rest))
    (fixed : ∀ part ∈ parts, part.isFixed = true) (distinct : ((Part.blocks parts).map Prod.fst).Nodup)
    (own : ∀ part ∈ rest, part.isOwn = true) (once : ((Part.blocks rest).map Prod.fst).Nodup)
    (named : data.isPayload = true) :
    ShowsPage options mode disk source session name data
      (parts.flatMap (Part.filled (Part.blocks rest))) := by
  obtain ⟨compiler, -, programmed⟩ := @Discovery.Holds.program options.recipe _ _ _ _ _ layout
  obtain ⟨names, -, compiledLayout⟩ := @compile_own compiler parts (Part.own_of_fixed fixed) distinct
  obtain ⟨other, -, made⟩ := @Discovery.Holds.program options.recipe _ _ _ _ _ page
  obtain ⟨known, compiledPage⟩ := @compile_extending other rest own once quotation
  have builtLayout := programmed compiledLayout
  have built := made compiledPage
  have each : options.OthersCompile mode disk source discovery [] := by
    intro template inside _
    by_cases first : template = quotation.value
    · exact first ▸ ⟨_, builtLayout⟩
    · by_cases second : template = name
      · exact second ▸ ⟨_, built⟩
      · exact others template inside (by simp [first, second])
  refine shows_page rooted found isPage each built ?_ (filled_whole layout page)
  intro base based home
  obtain ⟨program, same, listed⟩ := Build.programs_lookup _ _ _ _ based isLayout
  cases same.symm.trans builtLayout
  exact writes_filled (TemplateSet.composed_lookup options.recipe listed _) fixed distinct named home

/-- A layout with two blocks, and a page that fills the second and has a block of its own. -/
def articleSource : Source :=
  .ofTexts [
    ("templates/layouts/base.html", "<h1>\x7b% block title %\x7dNews\x7b% endblock %\x7d</h1>" ++
      "\x7b% block text %\x7d\x7b% endblock %\x7d"),
    ("templates/index.html", "\x7b% extends \x22layouts/base.html\x22 %\x7d " ++
      "\x7b% block more %\x7d!\x7b% endblock %\x7d" ++
      "\x7b% block text %\x7d<p>Hello</p>\x7b% endblock %\x7d")]

def articleLayout : List Part :=
  [.literal ⟨"<h1>", by decide, by decide⟩,
    .block ⟨"title", by decide +kernel⟩ ⟨"News", by decide, by decide⟩,
    .literal ⟨"</h1>", by decide, by decide⟩, .block ⟨"text", by decide +kernel⟩ .empty]

def articleQuotation : Quotation :=
  ⟨.double, "layouts/base.html", "layouts/base.html", by decide +kernel, by decide, rfl⟩

def articleParts : List Part :=
  [.literal ⟨" ", by decide, by decide⟩,
    .block ⟨"more", by decide +kernel⟩ ⟨"!", by decide, by decide⟩,
    .block ⟨"text", by decide +kernel⟩ ⟨"<p>Hello</p>", by decide, by decide⟩]

theorem article_filled :
    ShowsPage .plain .debug .empty articleSource .start "index.html" .none
      "<h1>News</h1><p>Hello</p>" := by
  let discovery : Discovery := ⟨["layouts/base.html"], [], ["index.html"],
    [("index.html", "templates/index.html"), ("layouts/base.html", "templates/layouts/base.html")]⟩
  have found : Discovery.ofSource .empty articleSource "templates" [".html"] = .ok discovery := by
    rfl
  have shown : articleLayout.flatMap (Part.filled (Part.blocks articleParts)) =
      Text.ofString "<h1>News</h1><p>Hello</p>" := by decide
  have alone : RendererOptions.plain.OthersCompile .debug .empty articleSource discovery
      ["layouts/base.html", "index.html"] := by
    intro other inside outside
    exact absurd (List.mem_cons.mpr (.inl (List.mem_singleton.mp inside))) outside
  rw [← shown]
  exact @layouts_filled .plain .debug .empty articleSource .start "templates" "index.html" discovery
    articleQuotation articleLayout articleParts .none rfl found (by decide) (by decide) alone
    ⟨"templates/layouts/base.html", rfl, rfl, rfl⟩ ⟨"templates/index.html", rfl, rfl, rfl⟩
    (by decide +kernel) (by decide) (by decide +kernel) (by decide) rfl

end Renderer

end PageTemplates
