import PageTemplates.Proofs.FunctionTable
import PageTemplates.Proofs.Renderer.Strings
import PageTemplates.Proofs.Sandbox.Environments
import PageTemplates.Proofs.Template.Calls

/-!
Pages that call a function by its name. A function that was registered is found under its name by every
template, whatever else is registered and whatever a policy allows; a page that calls it and nothing else
writes what it answers, where the name is read inside tags and means what the context knows.
-/

namespace PageTemplates

open Template

namespace Function

/-- A call of a function without arguments gives a text, writes nothing and leaves all that was there. -/
def Answers (function : Function) (answer : Text) : Prop :=
  ∀ (setting : Setting) (before : Machine), ∃ after,
    (function.apply .none).Gives setting before (.text answer) after ∧ before.Grew after

end Function

namespace FunctionTable

/-- A table has a function, and the name of it leads to it among any other global names. -/
structure Offers (table : FunctionTable) (name : Text) (function : Function) : Prop where
  listed : name ∈ table.registered
  found : ∃ place, table.functions[place]? = some function ∧
    ∀ globals, (Recipe.withTable table globals).lookup name = some (.function place)

theorem with_added (table : FunctionTable) (entry : Text × Function) (globals : List (Text × Value)) :
    Recipe.withTable (table.added entry) globals =
      Run.putPair entry.1 (.function table.size) (Recipe.withTable table globals) := by
  simp [Recipe.withTable, FunctionTable.globals, added, size, List.zipIdx_append]

theorem functions_added (table : FunctionTable) (entry : Text × Function) :
    (table.added entry).functions = table.functions.push entry.2 := by
  simp [functions, added]

theorem offers_added (table : FunctionTable) (name : Text) (function : Function) :
    (table.added (name, function)).Offers name function := by
  refine ⟨?_, table.size, ?_, fun globals => ?_⟩
  · simp [registered, added]
  · rw [functions_added]
    simp [functions, size]
  · rw [with_added, Run.lookup_put_pair, if_pos rfl]

/-- A function is still found after another registration. -/
theorem offers_attempt {table : FunctionTable} {name : Text} {function : Function}
    (offers : table.Offers name function) (call : Data × Candidate) :
    (table.attempt call).Offers name function := by
  rcases table.register_outcome call with ⟨entry, -, free, done⟩ | ⟨problem, -, -, done⟩
  · have apart : name ≠ entry.1 := by
      rintro rfl
      have there : table.contains entry.1 = true := Entries.lookup_is_some.mpr offers.listed
      rw [there] at free
      cases free
    obtain ⟨place, here, found⟩ := offers.found
    rw [attempt, done]
    refine ⟨?_, place, ?_, fun globals => ?_⟩
    · rw [registered, added, List.map_append]
      exact List.mem_append_left _ offers.listed
    · have inside := (Array.getElem?_eq_some_iff.mp here).1
      rw [functions_added, Array.getElem?_push_lt inside, ← here, Array.getElem?_eq_getElem inside]
    · rw [with_added, Run.lookup_put_pair, if_neg apart, found]
  · rw [attempt, done]
    exact offers

/-- A function that was registered is found, whatever is registered after it. -/
theorem offers_registered {earlier accepted : FunctionTable} {given : Data} {name : Text}
    {function : Function} (named : functionName? given = some name)
    (registers : earlier.register given (.function function) = .ok accepted)
    (later : List (Data × Candidate)) : (later.foldl attempt accepted).Offers name function := by
  have first : accepted.Offers name function := by
    rcases earlier.register_outcome (given, .function function) with
      ⟨entry, isValid, -, done⟩ | ⟨problem, -, -, failed⟩
    · rw [valid?, named] at isValid
      cases isValid
      cases done.symm.trans registers
      exact offers_added earlier name function
    · cases failed.symm.trans registers
  generalize accepted = table at first
  induction later generalizing table with
  | nil => exact first
  | cons call rest ih => exact ih _ (offers_attempt first call)

/-- Whether templates call a function by a name: all of it is read in names, and it is no constant of templates
and not the name of the template itself. -/
def isCallable (name : Text) : Bool :=
  name.all isNamePoint &&
    !(["true", "false", "none", "self"].any fun word => Text.ofString word = name)

theorem named_of_registered {earlier accepted : FunctionTable} {given : Data} {function : Function}
    (registers : earlier.register given (.function function) = .ok accepted) :
    ∃ name, functionName? given = some name := by
  rcases earlier.register_outcome (given, .function function) with
    ⟨entry, isValid, -, -⟩ | ⟨problem, -, -, failed⟩
  · exact ⟨entry.1, name_of_valid isValid⟩
  · cases failed.symm.trans registers

theorem is_function_name {given : Data} {name : Text} (named : functionName? given = some name) :
    isFunctionName name = true := by
  cases given with
  | text value | markup value =>
      rw [functionName?] at named
      split at named
      · rename_i isName
        cases named
        exact isName
      · cases named
  | _ => cases named

/-- A name that functions are registered under and that templates call is read inside tags, and means what the
context knows. -/
theorem callable_name {given : Data} {name : Text} (named : functionName? given = some name)
    (callable : isCallable name = true) :
    IsRead name ∧ ∃ string, name = Text.ofString string ∧ meansContext string = true ∧ string ≠ "not" := by
  have isName := is_function_name named
  rw [isFunctionName, Bool.and_eq_true_iff, Bool.not_eq_true'] at isName
  obtain ⟨identifies, unreserved⟩ := isName
  rw [isCallable, Bool.and_eq_true_iff, Bool.not_eq_true'] at callable
  obtain ⟨points, apart⟩ := callable
  obtain ⟨-, -, string, -, rfl, -⟩ := Text.identifier_shape identifies
  refine ⟨⟨identifies, List.all_eq_true.mp points⟩, string, rfl, ?_, ?_⟩
  · have other (word : String) (listed : word ∈ ["true", "false", "none", "self"] ∨ word ∈ reservedWords) :
        string ≠ word := by
      rintro rfl
      rcases listed with here | there
      · rw [List.any_eq_false] at apart
        exact apart string here (decide_eq_true rfl)
      · rw [isReserved, List.any_eq_false] at unreserved
        exact unreserved string there (decide_eq_true rfl)
    have yes := other "true" (by decide)
    have no := other "false" (by decide)
    have nothing := other "none" (by decide)
    have itself := other "self" (by decide)
    have bigYes := other "True" (by decide)
    have bigNo := other "False" (by decide)
    have bigNothing := other "None" (by decide)
    simp [meansContext, Grammar.constantName?, yes, no, nothing, itself, bigYes, bigNo, bigNothing]
  · rintro rfl
    rw [isReserved, List.any_eq_false] at unreserved
    exact unreserved "not" (by decide) (decide_eq_true rfl)

end FunctionTable

/-- Whatever the policy, a function of the table is what its name means to every template. -/
theorem Recipe.globals_offered {recipe : Recipe} {name : Text} {function : Function}
    (offers : recipe.table.Offers name function) :
    ∃ place, recipe.table.functions[place]? = some function ∧
      recipe.environment.globals.lookup name = some (.function place) := by
  obtain ⟨place, here, found⟩ := offers.found
  refine ⟨place, here, ?_⟩
  unfold environment effectivePolicy?
  cases recipe.policy with
  | none => exact found _
  | some policy =>
      have allowed : (policy.registering recipe.table.registered).allowsGlobal name = true := by
        have among := (@Policy.mem_adding_all name recipe.table.registered policy.globals).mpr (.inl offers.listed)
        simp [Policy.allowsGlobal, Policy.registering, among]
      exact (Entries.lookup_filter allowed _).trans (found _)

namespace Run

variable {functions : Array Function} {bare : Setting} {level : Nat} {stage : Stage} {state : Context}
  {slots : List (Slot × Value)} {string : String} {place : Nat} {function : Function} {answer : Text}

/-- The code of a call gives what the function answers that its name leads to. -/
theorem gives_answer (found : slots.lookup ⟨0, string⟩ = some (.function place))
    (here : functions[place]? = some function) (answers : function.Answers answer) {before : Machine}
    (there : stage.Stands state slots before.world) :
    ∃ after, (evaluate stage (callCode string)).Gives (.ofLevel functions bare (level + 1)) before
      (.text answer) after ∧ before.Grew after := by
  obtain ⟨after, given, grew⟩ := answers (.ofLevel functions bare level) before
  refine ⟨after, ?_, grew⟩
  have applied : (call (some stage.context) (.function place) .none).Gives
      (.ofLevel functions bare (level + 1)) before (.text answer) after := by
    have run : (callValue functions (some stage.context) (.function place) .none).Gives
        (.ofLevel functions bare level) before (.text answer) after := by
      unfold callValue
      simp only [here]
      exact given
    exact run
  have named : (variableValue stage ⟨0, string⟩ true).Gives (.ofLevel functions bare (level + 1)) before
      (.function place) before := gives_bind (gives_slot there found) (gives_pure _)
  apply gives_bind named
  apply gives_bind (gives_bind rfl (gives_pure _))
  exact gives_bind (gives_pure _) applied

/-- A call is written as the text that the function answers. -/
theorem writes_answer (escapes : Bool) (found : slots.lookup ⟨0, string⟩ = some (.function place))
    (here : functions[place]? = some function) (answers : function.Answers answer) :
    (runSteps stage [.output false [.value (callCode string) (.settled escapes)]]).Writes
      (.ofLevel functions bare (level + 1)) (stage.Stands state slots) (escapedIf escapes answer) := by
  have lasting := stage.stands_lasting state slots
  have piece : (writePiece stage (.value (callCode string) (.settled escapes))).Writes
      (.ofLevel functions bare (level + 1)) (stage.Stands state slots) (escapedIf escapes answer) :=
    writes_value escapes lasting fun before there => gives_answer found here answers there
  have output : (runStep stage (.output false [.value (callCode string) (.settled escapes)])).Writes
      (.ofLevel functions bare (level + 1)) (stage.Stands state slots) (escapedIf escapes answer ++ []) :=
    writes_unguarded (writes_bind lasting piece writes_pure)
  have whole : (runSteps stage [.output false [.value (callCode string) (.settled escapes)]]).Writes
      (.ofLevel functions bare (level + 1)) (stage.Stands state slots)
      (escapedIf escapes answer ++ [] ++ []) := writes_bind lasting output writes_pure
  simpa using whole

end Run

namespace Renderer

variable {options : RendererOptions} {discovery : Discovery} {disk : Node} {source : Source} {name : Text}
  {data : Data} {function : Function} {answer : Text} {string : String}

/-- A page that calls a function writes what the function answers. -/
theorem writes_call {set : TemplateSet} (escapes : Bool)
    (offers : set.recipe.table.Offers (Text.ofString string) function) (answers : function.Answers answer)
    (named : data.isPayload = true) (free : data.defines (Text.ofString string) = false) (home : World) :
    ((PageRender.make name data none none).output set ⟨0, callProgram escapes string⟩ home).Writes
      (escapedIf escapes answer) := by
  let entry : Entry := ⟨0, callProgram escapes string⟩
  obtain ⟨given, payload, absent⟩ := @Run.gives_without set.setting data named _ free home
  obtain ⟨place, here, found⟩ := Recipe.globals_offered offers
  apply TemplateSet.trace_writes payload
  intro before context outside stands
  let state := set.startContext name entry given
  have value : Run.valueIn set.recipe.environment state string = .function place := by
    simp only [Run.valueIn, state, TemplateSet.startContext, List.lookup_nil, absent, found,
      Option.getD_some]
  have written := @Run.writes_program set.recipe.table.functions
    ⟨.none, set.recipe.environment, set.templates⟩ 238 name entry [string] _ [] context state
    (escapedIf escapes answer) rfl fun stage slots values =>
      Run.writes_answer escapes ((values string (List.mem_singleton_self _)).trans (congrArg some value)) here
        answers
  obtain ⟨after, rendered, wrote, -⟩ := written before outside stands
  exact ⟨after, rendered, wrote⟩

/-- Whatever the mode, the policy and what else is registered, a page that calls a registered function by its
name shows what the function answers, if templates can call the name. -/
theorem functions_called {mode : Mode} {session : Session} {root : Text}
    {earlier accepted : FunctionTable} {given : Data} {word : Text}
    (registers : earlier.register given (.function function) = .ok accepted)
    (spelled : given.text? = some word) (callable : FunctionTable.isCallable word = true)
    (later : List (Data × Candidate)) (tabled : options.table = later.foldl FunctionTable.attempt accepted)
    (answers : function.Answers answer) (whole : answer.IsWhole)
    (rooted : Discovery.rootText options.root = .ok root)
    (found : Discovery.ofSource disk source root options.extensions = .ok discovery)
    (isPage : name ∈ discovery.pages)
    (others : options.OthersCompile mode disk source discovery [name])
    (held : discovery.HasText disk source name (callSource word)) (named : data.isPayload = true)
    (free : data.defines word = false) :
    ShowsPage options mode disk source session name data
        (escapedIf (options.recipe.environment.escapes name) answer) ∧
      (options.autoescape = true → Text.ofString ".html" <:+ name →
        options.recipe.environment.escapes name = true) := by
  constructor
  · obtain ⟨known, accepts⟩ := FunctionTable.named_of_registered registers
    cases (FunctionTable.text_of_name accepts).symm.trans spelled
    obtain ⟨read, string, rfl, means, apart⟩ := FunctionTable.callable_name accepts callable
    have offers : options.recipe.table.Offers (Text.ofString string) function := by
      have there := FunctionTable.offers_registered accepts registers later
      rw [← tabled] at there
      exact there
    obtain ⟨compiler, same, programmed⟩ := Discovery.HasText.program held (parse_call read rfl means apart)
    have compiled := compile_call compiler means
    rw [same] at compiled
    have built := programmed compiled
    have each : options.OthersCompile mode disk source discovery [] := by
      intro other inside _
      by_cases itself : other = name
      · exact itself ▸ ⟨_, built⟩
      · exact others other inside (by simpa using itself)
    have shown : Text.IsWhole (escapedIf (options.recipe.environment.escapes name) answer) := by
      unfold escapedIf
      split
      · exact Markup.escape_whole whole
      · exact whole
    refine shows_page rooted found isPage each built ?_ shown
    intro base _ home
    exact writes_call _ offers answers named free home
  · intro escaping isMarkup
    rw [RendererOptions.recipe_escapes escaping]
    exact Autoescape.selects_markup isMarkup

/-- A function without parameters that answers something that looks like markup. -/
def ruler : Function := ⟨"ruler", [], fun _ => return .text "<hr>"⟩

theorem ruler_answers : ruler.Answers "<hr>" := fun _ before => ⟨before, rfl, .refl before⟩

/-- A table with a name that templates have without any table. -/
def rangeTable : FunctionTable := FunctionTable.empty.added ("range", ruler)

def rangeSource : Source := .ofTexts [("templates/index.html", "{{ range() }}")]

/-- The function takes the place of what the name means otherwise, under the policy for production too. -/
theorem range_called :
    ShowsPage { RendererOptions.plain with table := rangeTable, policy := some .strict } .debug .empty
      rangeSource .start "index.html" .none "&lt;hr&gt;" := by
  have registers : FunctionTable.empty.register (.text "range") (.function ruler) = .ok rangeTable := by
    have isName : FunctionTable.isFunctionName "range" = true := by decide +kernel
    simp only [FunctionTable.register, FunctionTable.functionName?, isName, if_true]
    rfl
  have callable : FunctionTable.isCallable "range" = true := by decide +kernel
  have found : Discovery.ofSource .empty rangeSource "templates" [".html"] =
      .ok ⟨[], [], ["index.html"], [("index.html", "templates/index.html")]⟩ := by rfl
  obtain ⟨shown, -⟩ := @functions_called
    { RendererOptions.plain with table := rangeTable, policy := some .strict } _ .empty rangeSource
    "index.html" .none _ _ .debug .start _ _ _ _ _ registers rfl callable [] rfl ruler_answers (by decide) rfl
    found (by decide) (fun _ inside _ => absurd inside List.not_mem_nil)
    ⟨"templates/index.html", rfl, rfl, rfl⟩ rfl rfl
  exact shown

end Renderer

end PageTemplates
