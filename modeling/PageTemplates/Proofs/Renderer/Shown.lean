import PageTemplates.Proofs.PageRender.Streaming
import PageTemplates.Proofs.Render.Parts
import PageTemplates.Proofs.Render.Payloads
import PageTemplates.Proofs.Renderer

/-!
Traces of templates that are put together from parts, and what is sent of them. A trace that comes to its end
with texts that can be encoded is sent as a whole.
-/

namespace PageTemplates

open Template

/-- A trace comes to its end and writes a text. -/
structure Trace.Writes (trace : Trace) (text : Text) : Prop where
  ends : trace.failure = none
  written : ∃ texts : List Text,
    (trace.emissions.map fun emission => emission.chunk.text?) = texts.map some ∧
      texts.flatten = text

namespace TemplateSet

/-- The context that a template starts with. -/
def startContext (set : TemplateSet) (name : Text) (entry : Entry) (given : List (Text × Value)) :
    Context :=
  ⟨name, given, [], [], entry.program.blocks.map fun block => (block.name, [⟨name, block⟩]),
    .bool (set.setting.environment.escapes name), none⟩

theorem trace_writes {set : TemplateSet} {name : Text} {entry : Entry} {value : Value} {world : World}
    {given : List (Text × Value)} {text : Text}
    (named : (payload value).Gives set.setting ⟨world, [], [], 0⟩ given ⟨world, [], [], 0⟩)
    (rendered : ∀ before : Machine, ∀ context : Ref, before.captures = [] →
      before.world.Has context (.context (set.startContext name entry given)) →
      ∃ after, (Run.renderTemplate name entry context).Gives set.setting before () after ∧
        before.Wrote after text) :
    (set.trace world name entry value).Writes text := by
  obtain ⟨after, run, wrote⟩ := rendered
    ⟨(world.add (.context (set.startContext name entry given))).2, [], [], 0⟩ world.fresh rfl
    (World.add_has _ _)
  have made : (Run.newContext name entry given).Gives set.setting ⟨world, [], [], 0⟩ world.fresh
      ⟨(world.add (.context (set.startContext name entry given))).2, [], [], 0⟩ := rfl
  have whole : (payload value >>= fun given => Run.newContext name entry given >>= fun context =>
      Run.renderTemplate name entry context).Gives set.setting ⟨world, [], [], 0⟩ () after :=
    Run.gives_bind named (Run.gives_bind made run)
  have outcome : set.trace world name entry value =
      ⟨after.emissions.reverse, none, after.world, after.refusals⟩ := by
    unfold Run.Gives at whole
    unfold trace
    simp only [ReaderT.run, EStateM.run, whole]
  obtain ⟨emissions, texts, emitted, shown, same⟩ := wrote.emitted
  rw [outcome]
  refine ⟨rfl, texts, ?_, same⟩
  simp only [emitted, List.append_nil, List.reverse_reverse]
  exact shown

end TemplateSet

theorem sent_of_texts {emissions : List Emission} {texts : List Text}
    (shown : (emissions.map fun emission => emission.chunk.text?) = texts.map some)
    (whole : Text.IsWhole texts.flatten) :
    ∃ chunks : List Chunk, emissions.map Emission.sent? = chunks.map some ∧
      chunks.map Chunk.text = texts := by
  induction texts generalizing emissions with
  | nil =>
      rw [List.map_nil, List.map_eq_nil_iff] at shown
      exact ⟨[], by simp [shown], rfl⟩
  | cons text rest ih =>
      obtain ⟨emission, others, rfl, first, later⟩ := List.map_eq_cons_iff.mp shown
      rw [List.flatten_cons, Text.IsWhole, List.forall_mem_append] at whole
      obtain ⟨chunks, sent, told⟩ := ih later whole.2
      obtain ⟨bytes, encoded⟩ := Text.encode_whole whole.1
      refine ⟨⟨text, bytes, encoded⟩ :: chunks, ?_, by rw [List.map_cons, told]⟩
      have here : emission.sent? = some ⟨text, bytes, encoded⟩ := by
        rw [Emission.sent?]
        split
        · rename_i absent
          cases absent.symm.trans first
        · rename_i content isText
          cases isText.symm.trans first
          split
          · rename_i written same
            cases same.symm.trans encoded
            rfl
          · rename_i fault failed
            cases failed.symm.trans encoded
      rw [List.map_cons, List.map_cons, sent, here]

/-- Whether a response takes the content type and any number of pieces. -/
def Response.isOpen (response : Response) : Bool :=
  response.capacity.count.isNone && response.headers.writeContentType.isOk

namespace PageRender

/-- A render comes to its end, and a text is added to the body. -/
def Outcome.Shows (outcome : Outcome) (response : Response) (text : Text) : Prop :=
  outcome.problem = none ∧
    ∃ bytes, Text.encode text = .ok bytes ∧ outcome.response.body = response.body ++ bytes

/-- A page whose template writes a text shows that text. -/
theorem render_shows {page : PageRender} {session : Session} {number : Nat} {set : TemplateSet}
    {entry : Entry} {response : Response} {text : Text} (fine : page.fault = none)
    (found : page.template? = some (number, set, entry))
    (written : ∀ home, (page.output set entry home).Writes text) (whole : text.IsWhole)
    (isOpen : response.isOpen = true) :
    (page.render session response).2.Shows response text := by
  obtain ⟨unlimited, settable⟩ := Bool.and_eq_true_iff.mp isOpen
  have limited := page.render_limited session response response.capacity
  obtain ⟨ends, texts, shown, rfl⟩ := written (session.home number)
  obtain ⟨chunks, sent, told⟩ := sent_of_texts shown whole
  cases announced : response.headers.writeContentType with
  | error failure =>
      rw [announced] at settable
      cases settable
  | ok headers =>
      let trace := page.output set entry (session.home number)
      let announcing : Response := { response with headers := headers }
      have room : announcing.HasRoom chunks.length := by
        intro limit there
        rw [Option.isNone_iff_eq_none.mp unlimited] at there
        cases there
      have all : writeAll page.name (ended page.name trace) trace.emissions announcing =
          ended page.name trace (announcing.receiving chunks) := by
        have wrote := write_all_room page.name (ended page.name trace) sent [] room
        rw [List.append_nil] at wrote
        exact wrote
      have finished : ended page.name trace (announcing.receiving chunks) =
          ⟨announcing.receiving chunks, trace.world, none, []⟩ := by
        unfold ended
        rw [ends]
      simp only [announced, fine, found] at limited
      rw [all, finished] at limited
      obtain ⟨response, problem⟩ := Prod.mk.inj limited
      refine ⟨problem, (chunks.map Chunk.bytes).flatten, ?_, ?_⟩
      · rw [← told]
        exact Chunk.encode_texts chunks
      · rw [response, Response.body, Response.receiving_pieces, List.flatten_append]
        rfl

end PageRender

end PageTemplates

/-!
Pages that renderers of both modes show. Where the other templates that a mode compiles have programs, a
page that writes a text is shown as that text, at any time and to any response.
-/

namespace PageTemplates

open Template

namespace RendererOptions

/-- The templates of a source that are compiled in a mode for a page: the base, and in release mode every
page. -/
def compiledNames (mode : Mode) (discovery : Discovery) : List Text :=
  discovery.base ++ if mode = .release then discovery.pages else []

/-- Every template that is compiled in a mode for a page has a program, but for the given ones. -/
def OthersCompile (options : RendererOptions) (mode : Mode) (disk : Node) (source : Source)
    (discovery : Discovery) (given : List Text) : Prop :=
  ∀ name ∈ compiledNames mode discovery, name ∉ given →
    ∃ program, Build.program options.recipe disk source discovery name = .ok program

end RendererOptions

theorem Build.programs_of_each {recipe : Recipe} {disk : Node} {source : Source}
    {discovery : Discovery} {names : List Text}
    (each : ∀ name ∈ names, ∃ one, Build.program recipe disk source discovery name = .ok one) :
    ∃ made, Build.programs recipe disk source discovery names = .ok made := by
  induction names with
  | nil => exact ⟨[], rfl⟩
  | cons first rest ih =>
      obtain ⟨⟨one, here⟩, others⟩ := List.forall_mem_cons.mp each
      obtain ⟨made, later⟩ := ih others
      rw [Build.programs_cons, here, later]
      exact ⟨_, rfl⟩

theorem Text.decode_whole {bytes : Bytes} {text : Text} (decoded : Text.decode bytes = .ok text) :
    text.IsWhole :=
  whole_of_encode (encode_of_decode decoded)

theorem Source.read_text_whole {disk : Node} {source : Source} {path text : Text}
    (read : source.readText disk path = .ok text) : text.IsWhole := by
  obtain ⟨bytes, -, decoded⟩ := Results.bind_ok.mp read
  split at decoded
  · rename_i content same
    cases decoded
    exact Text.decode_whole same
  · cases decoded

/-- A template was discovered under a path that code can be filed under, and has a text there. -/
def Discovery.HasText (discovery : Discovery) (disk : Node) (source : Source) (name text : Text) : Prop :=
  ∃ path, discovery.path? name = some path ∧ TemplateSet.fitsCode (some path) = true ∧
    source.readText disk path = .ok text

/-- A template was discovered under a path that code can be filed under, and its source is put together
from parts. -/
def Discovery.Holds (discovery : Discovery) (disk : Node) (source : Source) (name : Text)
    (parts : List Part) : Prop :=
  ∃ path, discovery.path? name = some path ∧ TemplateSet.fitsCode (some path) = true ∧
    source.readText disk path = .ok (Part.sourceOf parts)

section Sources

variable {recipe : Recipe} {disk : Node} {source : Source} {discovery : Discovery} {name : Text}
  {parts : List Part}

theorem Discovery.Holds.whole (held : discovery.Holds disk source name parts) {part : Part}
    (among : part ∈ parts) {content : Literal} (inside : content ∈ part.literals) :
    content.text.IsWhole := by
  obtain ⟨path, -, -, read⟩ := held
  intro point there
  exact Source.read_text_whole read point (Part.literals_inside among inside there)

/-- A template whose text has a tree has the program that the tree is compiled to. -/
theorem Discovery.HasText.program {text : Text} {tree : List Statement}
    (held : discovery.HasText disk source name text) (parsed : parse text = .ok tree) :
    ∃ compiler : Compiler, compiler.escapes = recipe.environment.escapes name ∧
      ∀ {one : Template.Program}, Template.compile compiler tree = .ok one →
        Build.program recipe disk source discovery name = .ok one := by
  obtain ⟨path, located, fits, read⟩ := held
  refine ⟨⟨.empowered recipe.table.functions recipe.environment [], name,
    recipe.environment.escapes name⟩, rfl, fun {one} compiled => ?_⟩
  have translated : TemplateSet.translated recipe name text = .ok one := by
    unfold TemplateSet.translated
    rw [parsed]
    exact compiled
  rw [Build.program_of_path _ _ _ _ located, read]
  change TemplateSet.compile _ _ _ _ = _
  rw [TemplateSet.compile, translated]
  simp only [fits, if_true]

/-- A template that is put together from parts has the program that its tree is compiled to. -/
theorem Discovery.Holds.program (held : discovery.Holds disk source name parts) :
    ∃ compiler : Compiler, compiler.escapes = recipe.environment.escapes name ∧
      ∀ {one : Template.Program}, Template.compile compiler (treeAfter [] [] parts) = .ok one →
        Build.program recipe disk source discovery name = .ok one :=
  Discovery.HasText.program held (parse_parts parts)

end Sources

namespace TemplateSet

variable (recipe : Recipe) {programs : List (Text × Template.Program)} {name : Text}
  {program : Template.Program}

/-- A program is found under its name, whatever comes behind it. -/
theorem composed_lookup (known : programs.lookup name = some program)
    (more : List (Text × Template.Program)) :
    (composed recipe (programs ++ more)).get? name = some ⟨0, program⟩ := by
  have found : (programs ++ more).lookup name = some program := by
    rw [List.lookup_append, known]
    rfl
  have entries := Entries.lookup_map_items (fun _ program => (⟨0, program⟩ : Entry)) name
    (programs ++ more)
  rw [found] at entries
  exact entries

theorem composed_last (fresh : name ∉ programs.map Prod.fst) :
    (composed recipe (programs ++ [(name, program)])).get? name = some ⟨0, program⟩ := by
  have absent : programs.lookup name = none := Entries.lookup_absent fresh
  have found : (programs ++ [(name, program)]).lookup name = some program := by
    rw [List.lookup_append, absent, List.lookup_cons, beq_self_eq_true]
    rfl
  simpa using composed_lookup recipe found []

end TemplateSet

namespace Renderer

/-- A renderer can be made in a mode, and whenever it is asked for a page, to any response, it shows a
text. -/
def ShowsPage (options : RendererOptions) (mode : Mode) (disk : Node) (source : Source)
    (session : Session) (name : Text) (data : Data) (text : Text) : Prop :=
  ∃ renderer after, make (options.inMode mode) disk source session = .ok (renderer, after) ∧
    ∀ (later : Session) (response : Response), response.isOpen = true →
      (renderer.render disk later name data response).Shows response text

theorem shows_page {options : RendererOptions} {mode : Mode} {disk : Node} {source : Source}
    {session : Session} {root name text : Text} {discovery : Discovery} {one : Template.Program}
    {data : Data} (rooted : Discovery.rootText options.root = .ok root)
    (found : Discovery.ofSource disk source root options.extensions = .ok discovery)
    (isPage : name ∈ discovery.pages)
    (others : options.OthersCompile mode disk source discovery [])
    (built : Build.program options.recipe disk source discovery name = .ok one)
    (written : ∀ base, Build.programs options.recipe disk source discovery discovery.base = .ok base →
      ∀ home, ((PageRender.make name data none none).output
        (TemplateSet.composed options.recipe (base ++ [(name, one)])) ⟨0, one⟩ home).Writes text)
    (whole : text.IsWhole) : ShowsPage options mode disk source session name data text := by
  obtain ⟨base, based⟩ := Build.programs_of_each fun other inside =>
    others other (List.mem_append_left _ inside) List.not_mem_nil
  have founded := Build.foundation_ok.mpr ⟨found, based⟩
  let set := TemplateSet.composed options.recipe (base ++ [(name, one)])
  have entry : set.get? name = some ⟨0, one⟩ :=
    TemplateSet.composed_last options.recipe (Build.page_fresh founded name isPage)
  have shows (number : Nat) (later : Session) {response : Response} (isOpen : response.isOpen = true) :
      ((PageRender.make name data (some (number, set)) none).render later response).2.Shows response
        text := by
    have template : (PageRender.make name data (some (number, set)) none).template? =
        some (number, set, ⟨0, one⟩) := by
      simp only [PageRender.template?, PageRender.make, Option.bind_some, entry, Option.map_some]
    exact PageRender.render_shows rfl template (written base based) whole isOpen
  cases mode with
  | debug =>
      refine ⟨watching options source, session, make_debug .., fun later response isOpen => ?_⟩
      have compiled : (watching options source).compiled disk name = .ok (some set) := by
        rw [compiled_watching options disk source rooted, Build.oneSet, founded]
        simp only [Except.bind, if_pos isPage, built, Except.map]
        rfl
      rw [render_of_page (page_of_set data compiled)]
      exact shows _ _ isOpen
  | release =>
      obtain ⟨ones, programmed⟩ := Build.programs_of_each fun other inside =>
        others other (List.mem_append_right discovery.base inside) List.not_mem_nil
      let sets := Build.pageSets options.recipe base ones
      have all : Build.allSets options.recipe disk source root options.extensions = .ok sets :=
        Build.all_sets_ok.mpr ⟨discovery, base, ones, founded, programmed, rfl⟩
      obtain ⟨same, program, listed⟩ := Build.programs_lookup _ _ _ _ programmed isPage
      cases program.symm.trans built
      have inSets : sets.lookup name = some set := by
        rw [Build.page_sets_lookup, listed, Option.map_some]
      obtain ⟨⟨number, twin⟩, registered, twins⟩ :=
        Option.map_eq_some_iff.mp ((session.numbering_lookup sets name).trans inSets)
      obtain rfl : twin = set := twins
      refine ⟨serving options source (session.numbering sets).1, (session.numbering sets).2, ?_,
        fun later response isOpen => ?_⟩
      · rw [make_release options disk source session rooted, all]
        rfl
      · rw [render_of_page (page_of_registry _ data), registered]
        exact shows _ _ isOpen

end Renderer

end PageTemplates
