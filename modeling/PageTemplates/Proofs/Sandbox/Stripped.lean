import PageTemplates.Proofs.PageRender.Streaming
import PageTemplates.Proofs.Render.Writes
import PageTemplates.Proofs.Renderer.Edits
import PageTemplates.Proofs.Sandbox.Environments
import PageTemplates.Proofs.Sandbox.Payloads
import PageTemplates.Proofs.Template.Covered

/-!
What a policy strips. A filter or test that it does not allow is refused wherever it is applied. A template
that certainly applies one has no program, and where a conditional leaves it to the render, the render ends
with the refusal. A global name that is not allowed is undefined.
-/

namespace PageTemplates

open Template

namespace Run

section Refusals

variable {First Result : Type} {setting : Setting} {before between after : Machine}

/-- Whether a run is refused, after steps that leave a machine. -/
def Refuses (run : Run Result) (setting : Setting) (before after : Machine) : Prop :=
  ∃ failure : Failure, failure.IsRefusal ∧
    run setting before = .error failure { after with refusals := after.refusals + 1 }

theorem refuses_bind {run : Run First} {more : First → Run Result} {first : First}
    (given : run.Gives setting before first between) (late : (more first).Refuses setting between after) :
    (run >>= more).Refuses setting before after := by
  obtain ⟨failure, refusal, ends⟩ := late
  refine ⟨failure, refusal, ?_⟩
  have ran : run setting before = .ok first between := given
  rw [bind_run, ran]
  exact ends

/-- What is refused first is refused. -/
theorem refuses_first {run : Run First} (more : First → Run Result)
    (early : run.Refuses setting before after) :
    (run >>= more).Refuses setting before after := by
  obtain ⟨failure, refusal, ends⟩ := early
  refine ⟨failure, refusal, ?_⟩
  rw [bind_run, ends]

theorem refuses_refuse {message : Text} (refusal : Failure.IsRefusal ⟨.templateFailed, message⟩) :
    (refuse message : Run Result).Refuses setting before before :=
  ⟨_, refusal, rfl⟩

theorem refuses_missing {kind : String} (known : kind ∈ ["filter", "test"]) (name : String) :
    (ruleMissing kind name : Run Result).Refuses setting before before := by
  have refusal := (Failure.isRefusal known (Text.quoted (Text.ofString name))).append " found."
  exact refuses_refuse refusal

/-- A text is quoted without a look at the world. -/
theorem quoted_gives {value : Value} {text : Text} (isText : value.text? = some text) :
    ∃ shown, (quoted value).Gives setting before shown before := by
  cases value with
  | text content => exact ⟨_, rfl⟩
  | markup content => exact ⟨_, rfl⟩
  | _ => cases isText

theorem refuses_no_rule {kind : String} (known : kind ∈ ["filter", "test"]) {name : Value} {text : Text}
    (isText : name.text? = some text) :
    (noRule (Text.ofString kind) name : Run Result).Refuses setting before before := by
  have quotes : ∃ shown, (quoted name).Gives setting before shown before := quoted_gives isText
  obtain ⟨shown, quotes⟩ := quotes
  have defined : name.undefinedFailure? before.world = none := by
    cases name with
    | undefined => cases isText
    | _ => rfl
  have refusal := (Failure.isRefusal known shown).append "."
  refine refuses_bind quotes (refuses_bind gives_world ?_)
  rw [defined]
  exact refuses_refuse refusal

/-- A text can be a key. -/
theorem hashable_gives {value : Value} {text : Text} (isText : value.text? = some text) :
    (requireHashable value).Gives setting before () before := by
  cases value with
  | text content => rfl
  | markup content => rfl
  | _ => cases isText

/-- There is no rule under a name that is not allowed. -/
theorem rule_absent (rules : List (String × Rule)) {allowed : List String} {known : String} {name : Text}
    (lacking : ∀ known ∈ allowed, Text.ofString known ≠ name) (named : Text.ofString known = name) :
    ruleOf? rules allowed known = none := by
  rw [ruleOf?, if_neg]
  exact fun there => lacking known (List.contains_iff_mem.mp there) named

theorem filter_absent {known : String} {name : Text}
    (lacking : ∀ known ∈ setting.environment.filters, Text.ofString known ≠ name)
    (named : Text.ofString known = name) : (filter? known).Gives setting before none before := by
  rw [← rule_absent Filter.rules lacking named]
  rfl

theorem test_absent {known : String} {name : Text}
    (lacking : ∀ known ∈ setting.environment.tests, Text.ofString known ≠ name)
    (named : Text.ofString known = name) : (test? known).Gives setting before none before := by
  rw [← rule_absent Test.rules lacking named]
  rfl

/-- The string that a value is known under is that of its text. -/
theorem known_of_text {value : Value} {name : Text} (isText : value.text? = some name) {known : String}
    (text : value.text?.bind Text.toString? = some known) : Text.ofString known = name := by
  rw [isText] at text
  exact Text.ofString_of_toString? text

theorem refuses_call_filter {value : Value} {name : Text}
    (lacking : ∀ known ∈ setting.environment.filters, Text.ofString known ≠ name)
    (isText : value.text? = some name) (context : Option Ref) (given : Given) :
    (callFilter context value given).Refuses setting before before := by
  refine refuses_bind (hashable_gives isText) ?_
  cases text : value.text?.bind Text.toString? with
  | none => exact refuses_bind (gives_pure none) (refuses_no_rule (by simp) isText)
  | some known =>
    have named := known_of_text isText text
    exact refuses_bind (filter_absent lacking named) (refuses_no_rule (by simp) isText)

theorem refuses_call_test {value : Value} {name : Text}
    (lacking : ∀ known ∈ setting.environment.tests, Text.ofString known ≠ name)
    (isText : value.text? = some name) (context : Option Ref) (given : Given) :
    (callTest context value given).Refuses setting before before := by
  refine refuses_bind (hashable_gives isText) ?_
  cases text : value.text?.bind Text.toString? with
  | none => exact refuses_bind (gives_pure none) (refuses_no_rule (by simp) isText)
  | some known =>
    have named := known_of_text isText text
    exact refuses_bind (test_absent lacking named) (refuses_no_rule (by simp) isText)

end Refusals

end Run

section Lacking

variable {environment : Environment} {name : Text}

/-- What lacking a filter means: in an expression or around a block, under the name alone, and for the items of
a mapped value, it is refused at the moment that it is applied; it is no part of a constant, and a place
that is not soft has no code for it. -/
structure Environment.LacksFilter (environment : Environment) (name : Text) : Prop where
  written : ∀ {setting : Setting} {known : String}, setting.environment = environment →
    Text.ofString known = name → ∀ {stage : Stage} {target : Code} {arguments : CallCode} {value : Value}
      {given : Given} {before between after : Machine},
      (Run.evaluate stage target).Gives setting before value between →
      (Run.evaluateCall stage arguments ("jinja2.filters.do_" ++ name ++ "()")).Gives setting between given
        after →
      (Run.evaluate stage (.filtered known target arguments)).Refuses setting before after
  named : ∀ {setting : Setting} {value : Value}, setting.environment = environment →
    value.text? = some name → ∀ context given machine,
      (Run.callFilter context value given).Refuses setting machine machine
  mapped : ∀ {setting : Setting} {value : Value}, setting.environment = environment →
    value.text? = some name → ∀ {source : Ref} {item : Value} {before after : Machine},
      (Run.advance source).Gives setting before (some item) after → ∀ given context,
        (Run.step (.mapped source value given context)).Refuses setting before after
  unfolded : ∀ {setting : Setting} {known : String}, setting.environment = environment →
    Text.ofString known = name → ∀ around line target arguments machine,
      (Constant.valueOf around (.filtered line target known arguments)).Gives setting machine none machine
  uncompiled : ∀ {compiler : Compiler} {known : String}, compiler.setting.environment = environment →
    Text.ofString known = name → ∀ {position : Position}, position.soft = false →
      ∀ line target arguments state,
        Compile.code position (.filtered line target known arguments) compiler state =
          .error (.source ⟨line, "No filter named " ++ Text.quoted name ++ "."⟩)

/-- What lacking a test means, likewise: here the items of a value are tested by name. -/
structure Environment.LacksTest (environment : Environment) (name : Text) : Prop where
  written : ∀ {setting : Setting} {known : String}, setting.environment = environment →
    Text.ofString known = name → ∀ {stage : Stage} {target : Code} {arguments : CallCode} {value : Value}
      {given : Given} {before between after : Machine},
      (Run.evaluate stage target).Gives setting before value between →
      (Run.evaluateCall stage arguments ("jinja2.tests.test_" ++ name ++ "()")).Gives setting between given
        after →
      (Run.evaluate stage (.tested known target arguments)).Refuses setting before after
  named : ∀ {setting : Setting} {value : Value}, setting.environment = environment →
    value.text? = some name → ∀ context given machine,
      (Run.callTest context value given).Refuses setting machine machine
  selected : ∀ {setting : Setting} {value : Value}, setting.environment = environment →
    value.text? = some name → ∀ {path : List Value} {item found : Value} {before after : Machine},
      (Rule.follow path none item).Gives setting before found after → ∀ given negated context,
        (Run.isSelected path (some (value, given)) negated context item).Refuses setting before after
  unfolded : ∀ {setting : Setting} {known : String}, setting.environment = environment →
    Text.ofString known = name → ∀ around line target arguments machine,
      (Constant.valueOf around (.tested line target known arguments)).Gives setting machine none machine
  uncompiled : ∀ {compiler : Compiler} {known : String}, compiler.setting.environment = environment →
    Text.ofString known = name → ∀ {position : Position}, position.soft = false →
      ∀ line target arguments state,
        Compile.code position (.tested line target known arguments) compiler state =
          .error (.source ⟨line, "No test named " ++ Text.quoted name ++ "."⟩)

theorem Environment.lacks_filter (lacking : ∀ known ∈ environment.filters, Text.ofString known ≠ name) :
    environment.LacksFilter name where
  written := by
    rintro setting known rfl rfl stage target arguments value given before between after first second
    exact Run.refuses_bind first (Run.refuses_bind second
      (Run.refuses_bind (Run.filter_absent lacking rfl) (Run.refuses_missing (by simp) known)))
  named := by
    rintro setting value rfl isText context given machine
    exact Run.refuses_call_filter lacking isText context given
  mapped := by
    rintro setting value rfl isText source item before after advanced given context
    exact Run.refuses_bind advanced
      (Run.refuses_first _ (Run.refuses_call_filter lacking isText context _))
  unfolded := by
    rintro setting known rfl rfl around line target arguments machine
    refine Run.gives_bind (Run.filter_absent lacking rfl) ?_
    rw [Constant.ruleValue]
    split <;> rfl
  uncompiled := by
    rintro compiler known rfl rfl position hard line target arguments state
    have absent : compiler.setting.environment.filters.contains known = false :=
      Bool.eq_false_iff.mpr fun there => lacking known (List.contains_iff_mem.mp there) rfl
    exact Compile.code_lacking absent hard "filter" line _ _ _ state

theorem Environment.lacks_test (lacking : ∀ known ∈ environment.tests, Text.ofString known ≠ name) :
    environment.LacksTest name where
  written := by
    rintro setting known rfl rfl stage target arguments value given before between after first second
    exact Run.refuses_bind first (Run.refuses_bind second
      (Run.refuses_bind (Run.test_absent lacking rfl) (Run.refuses_missing (by simp) known)))
  named := by
    rintro setting value rfl isText context given machine
    exact Run.refuses_call_test lacking isText context given
  selected := by
    rintro setting value rfl isText path item found before after followed given negated context
    exact Run.refuses_bind followed
      (Run.refuses_first _ (Run.refuses_call_test lacking isText context _))
  unfolded := by
    rintro setting known rfl rfl around line target arguments machine
    refine Run.gives_bind (Run.test_absent lacking rfl) ?_
    rw [Constant.ruleValue]
    split <;> rfl
  uncompiled := by
    rintro compiler known rfl rfl position hard line target arguments state
    have absent : compiler.setting.environment.tests.contains known = false :=
      Bool.eq_false_iff.mpr fun there => lacking known (List.contains_iff_mem.mp there) rfl
    exact Compile.code_lacking absent hard "test" line _ _ _ state

/-- What lacking a global name means: a context that gives the name no value finds none, and a variable without
a value is undefined by its name. -/
structure Environment.LacksGlobal (environment : Environment) (name : String) : Prop where
  missing : ∀ {setting : Setting}, setting.environment = environment →
    ∀ {machine : Machine} {address : Ref} {state : Context},
      machine.world.cell? address = some (.context state) →
      state.own.lookup (Text.ofString name) = none → state.given.lookup (Text.ofString name) = none →
      (Run.resolve address name).Gives setting machine .missing machine
  undefined : ∀ {setting : Setting}, setting.environment = environment →
    ∀ {stage : Stage} {slot : Slot} {machine : Machine}, slot.name = name →
      (Run.slotValue stage slot).Gives setting machine .missing machine →
      (Run.evaluate stage (.variable slot true)).Gives setting machine
        (.undefined environment.strict none none (some (.text (Text.ofString name))) .undefinedName) machine

theorem Environment.lacks_global {name : String}
    (lacking : environment.globals.lookup (Text.ofString name) = none) : environment.LacksGlobal name where
  missing := by
    rintro setting rfl machine address state here own given
    have opened : (Run.contextState address).Gives setting machine state machine :=
      Run.gives_bind (Run.gives_cell address) (by rw [here]; exact Run.gives_pure state)
    refine Run.gives_bind opened ?_
    simp only [own, given]
    have known : Run.environment.Gives setting machine setting.environment machine := rfl
    refine Run.gives_bind known ?_
    rw [lacking]
    exact Run.gives_pure _
  undefined := by
    rintro setting rfl stage slot machine rfl missing
    exact Run.gives_bind missing rfl

/-- What an environment lacks under a policy. -/
structure Policy.Strips (policy : Policy) (table : FunctionTable) (environment : Environment) : Prop where
  filters : ∀ name, policy.allowsFilter name = false → environment.LacksFilter name
  tests : ∀ name, policy.allowsTest name = false → environment.LacksTest name
  globals : ∀ name : String, policy.allowsGlobal (Text.ofString name) = false →
    Text.ofString name ∉ table.registered → environment.LacksGlobal name

theorem Policy.Rules.strips {policy : Policy} {table : FunctionTable} (rules : policy.Rules table environment) :
    policy.Strips table environment where
  filters name stripped := by
    refine Environment.lacks_filter fun known among named => ?_
    have allowed := Policy.allows_filter.mpr ((rules.filters known).mp among).2
    rw [named, stripped] at allowed
    cases allowed
  tests name stripped := by
    refine Environment.lacks_test fun known among named => ?_
    have allowed := Policy.allows_test.mpr ((rules.tests known).mp among).2
    rw [named, stripped] at allowed
    cases allowed
  globals name stripped unregistered := by
    rw [Bool.eq_false_iff, ne_eq, Policy.allows_global, not_or] at stripped
    exact Environment.lacks_global
      (rules.stripped _ unregistered (Bool.eq_false_iff.mpr stripped.1) stripped.2)

end Lacking

section Counted

/-- The regime of an environment in which refusals are counted. -/
@[reducible]
def Environment.counted (environment : Environment) : Regime where
  environment := environment
  preserving := False
  counting := True
  immutable := False.elim

/-- Whether a function passes refusals on: a call in which something is refused fails with the refusal. -/
def Function.PassesRefusals (function : Function) (environment : Environment) : Prop :=
  @Function.IsGentle environment.counted function

/-- Whether a set is one of an environment, and all its templates are covered. -/
structure TemplateSet.IsCovered (environment : Environment) (set : TemplateSet) : Prop where
  setting : set.setting.environment = environment
  templates : ∀ {name entry}, set.get? name = some entry → entry.program.isCovered environment = true

/-- A template that was compiled is covered, and a source that is at fault is a fault of the template if its
path can be that of code. -/
structure Recipe.CompilesCovered (recipe : Recipe) : Prop where
  covered : ∀ {name source : Text} {path : Option Text} {program : Program},
    TemplateSet.compile recipe name source path = .ok program → program.isCovered recipe.environment = true
  faulty : ∀ {name source : Text} {fault : SyntaxFault},
    TemplateSet.translated recipe name source = .error (.source fault) → ∀ path,
      TemplateSet.compile recipe name source path =
        .error (if TemplateSet.fitsCode path then
            .fault (.parse (.text name) (.text fault.reason) (.int fault.line))
          else .failure TemplateSet.badPath)

theorem Recipe.compiles_covered (recipe : Recipe) : recipe.CompilesCovered where
  covered := by
    intro name source path program compiled
    rw [TemplateSet.compile] at compiled
    cases translated : TemplateSet.translated recipe name source with
    | error fault =>
      rw [translated] at compiled
      cases fault with
      | failure failure => cases compiled
      | source fault =>
        dsimp only at compiled
        split at compiled <;> cases compiled
    | ok other =>
      rw [translated] at compiled
      dsimp only at compiled
      split at compiled
      · cases compiled
        rw [TemplateSet.translated] at translated
        obtain ⟨body, -, made⟩ := Results.bind_ok.mp translated
        exact compile_covered made
      · cases compiled
  faulty := by
    intro name source fault translated path
    rw [TemplateSet.compile, translated]
    dsimp only
    split <;> rfl

/-- The sets that are built for pages are covered. -/
theorem Build.one_set_covered {recipe : Recipe} {disk : Node} {source : Source} {root name : Text}
    {extensions : List Text} {set : TemplateSet}
    (built : oneSet recipe disk source root extensions name = .ok (some set)) :
    set.IsCovered recipe.environment := by
  cases found : Discovery.ofSource disk source root extensions with
  | error problem =>
    rw [oneSet, foundation, found] at built
    cases built
  | ok discovery =>
    rw [one_set_requested found] at built
    obtain ⟨made, programmed, same⟩ := Results.map_ok.1 built
    split at same
    · cases same
      refine ⟨rfl, fun {template entry} there => ?_⟩
      obtain ⟨before, after, split, -⟩ := List.lookup_eq_some_iff.1 there
      have among : (template, entry) ∈ (TemplateSet.composed recipe made).templates := split ▸ by simp
      obtain ⟨⟨label, program⟩, inside, same⟩ := List.mem_map.1 among
      cases same
      obtain ⟨wanted, -, compiled, -⟩ :=
        Results.source_of_result ((programs_ok _ _ _ _).1 programmed) inside
      rw [Build.program] at compiled
      split at compiled
      · cases compiled
      · obtain ⟨text, -, compiled⟩ := Results.bind_ok.1 compiled
        exact recipe.compiles_covered.covered compiled
    · cases same

/-- Whether a page heeds refusals: a render in which its template was refused something fails with that
refusal, once everything was sent that was written before. -/
def PageRender.Heeds (page : PageRender) (session : Session) : Prop :=
  ∀ number set entry, page.template? = some (number, set, entry) →
    let trace := page.output set entry (session.home number)
    trace.refusals = 0 ∨ trace.refusals = 1 ∧ ∃ failure : Failure, failure.IsRefusal ∧
      trace.failure = some failure ∧
        ∀ (response : Response) headers (chunks : List Chunk), page.fault = none →
          response.headers.writeContentType = .ok headers →
          trace.emissions.map Emission.sent? = chunks.map some → response.HasRoom chunks.length →
            (page.render session response).2.problem =
              some (.fault (.execution (.text page.name) (.text failure.message)))

theorem PageRender.render_failed {page : PageRender} {session : Session} {number : Nat} {set : TemplateSet}
    {entry : Entry} {response : Response} {headers : HeaderMap} {chunks : List Chunk} {failure : Failure}
    (found : page.template? = some (number, set, entry)) (fine : page.fault = none)
    (announced : response.headers.writeContentType = .ok headers)
    (fails : (page.output set entry (session.home number)).failure = some failure)
    (sent : (page.output set entry (session.home number)).emissions.map Emission.sent? = chunks.map some)
    (room : response.HasRoom chunks.length) :
    (page.render session response).2.problem =
      some (.fault (.execution (.text page.name) (.text failure.message))) := by
  have answer := page.render_limited session response response.capacity
  simp only [announced, fine, found] at answer
  have roomy : ({ response with headers := headers } : Response).HasRoom chunks.length := room
  have written := PageRender.write_all_room page.name
    (ended page.name (page.output set entry (session.home number))) sent [] roomy
  rw [List.append_nil] at written
  refine (congrArg Prod.snd answer).trans ?_
  rw [written, writeAll, ended, fails]
  rfl

theorem PageRender.CanRun.heeds [Regime] (counts : Regime.counting) {good : TemplateSet → Prop}
    (sound : ∀ set, good set → set.setting.Sound) {page : PageRender} {session : Session}
    (runs : page.CanRun good session) : page.Heeds session := by
  intro number set entry found
  obtain ⟨-, -, kind, entryFine, -, clean, payload⟩ := runs.template sound found
  obtain none | ⟨once, failure, fails, refusal⟩ :=
    (trace_ended (sound set kind) entryFine clean payload).refused counts
  · exact .inl none
  · refine .inr ⟨once, failure, refusal, fails, fun response headers chunks fine announced sent room => ?_⟩
    exact render_failed found fine announced fails sent room

/-- What announcing and one render keep, any number of renders keeps. -/
theorem PageRender.render_times_keeps {keeps : PageRender → Session → Prop}
    (announces : ∀ {page again session response after}, keeps page session →
      page.announce response = .ok (again, after) → keeps again session)
    (renders : ∀ {page session} response, keeps page session →
      keeps (page.render session response).1 (page.render session response).2.session)
    (announcing : Bool) (times : Nat) {page : PageRender} {session : Session} (response : Response)
    (starts : keeps page session) :
    keeps (page.renderTimes announcing times session response).1
      (page.renderTimes announcing times session response).2.session := by
  induction times generalizing page session response with
  | zero => exact starts
  | succ times ih =>
    rw [renderTimes]
    cases asked : (if announcing then page.announce response else .ok (page, response)) with
    | error failure => exact starts
    | ok pair =>
      obtain ⟨again, recipient⟩ := pair
      have next : keeps again session := by
        split at asked
        · exact announces starts asked
        · cases asked
          exact starts
      have rendered := renders recipient next
      dsimp only
      cases (again.render session recipient).2.problem with
      | none => exact ih _ rendered
      | some problem => exact rendered

theorem PageRender.announce_found {page again : PageRender} {response after : Response}
    (told : page.announce response = .ok (again, after)) : again.found = page.found := by
  rw [announce] at told
  cases written : response.writeContentType with
  | error failure =>
    rw [written] at told
    cases told
  | ok response =>
    rw [written] at told
    cases told
    rfl

theorem PageRender.render_times_found (announcing : Bool) (times : Nat) (page : PageRender)
    (session : Session) (response : Response) :
    (page.renderTimes announcing times session response).1.found = page.found :=
  render_times_keeps (fun known told => (announce_found told).trans known)
    (fun {other now} response known => (render_found other now response).trans known) announcing times
    response rfl

/-- A page that is asked for in any session has a set of the kind that its renderer is guarded for. -/
theorem Renderer.IsGuarded.found_good [Regime] {good : TemplateSet → Prop} {renderer : Renderer}
    {disk : Node} {name : Text} {session now after : Session}
    (guarded : renderer.IsGuarded good disk name session) {data : Data} {page : PageRender}
    (asked : renderer.page disk now name data = (.ok page, after)) {number : Nat} {set : TemplateSet}
    (found : page.found = some (number, set)) : good set := by
  unfold Renderer.page at asked
  split at asked
  · rename_i registry made
    cases asked
    exact (guarded.listed registry made number set found).1
  · rename_i unlisted
    split at asked
    · cases asked
      cases found
    · rename_i built compiled
      cases asked
      have same : (now.sets, built) = (number, set) := by
        simpa [PageRender.make, Session.numbering] using found
      cases same
      exact guarded.compiled unlisted set compiled
    · split at asked
      · cases asked
        cases found
      · cases asked
    · cases asked

/-- A page that shows a word as JSON, which is left to the render, where there is one. -/
def wordSource : Source := .ofPage "\x7b\x7b word|tojson if word \x7d\x7d"

/-- How a page of a source ends under the policy for production. -/
def Renderer.endOf (source : Source) (data : Data) : Except Problem (Option Problem) := do
  let (renderer, session) ← make (.guarded .standard) .empty source .start
  let (page, session) := renderer.page .empty session "page.html" data
  return ((← page).render session .recorder).2.problem

example :
    (Renderer.endOf wordSource (.dict [(.text "word", .text "a")])).toOption.map (Option.map Problem.message) =
      some (some (Text.ofString ("[TEMPLATE_EXECUTION] Error executing template 'page.html': " ++
        "No filter named 'tojson' found."))) := by
  decide +kernel

end Counted

end PageTemplates
