import PageTemplates.FunctionTable.Standard
import PageTemplates.Proofs.Sandbox.Calls
import PageTemplates.Proofs.Sandbox.Pages

/-!
The standard functions are gentle: they read what they are given, and hand out new values.
-/

namespace PageTemplates

open Std.Do

set_option mvcgen.warning false

variable [Regime]

omit [Regime] in
theorem changing_named {kind method : String} (changing : method ∈ Run.changingMethods kind) :
    method ∈ changingNames := by
  have all : ∀ known ∈ ["list", "dict", "set"], Run.changingMethods known ⊆ changingNames := by decide
  by_cases known : kind ∈ ["list", "dict", "set"]
  · exact all kind known changing
  · simp_all [Run.changingMethods]

/-- What is found under a name that no changing method has is harmless. -/
theorem harmless_named {world : World} {owner found : Value} {name : Text}
    (isMember : IsMember world owner name found)
    (gentle : ∀ method ∈ changingNames, Text.ofString method ≠ name) : harmless found := by
  obtain fine | ⟨method, changing, named⟩ := isMember
  · exact fine
  · exact absurd named (gentle method (changing_named changing))

namespace FunctionTable

theorem harmless_get {bound : Bound} (fine : harmless bound) (name : String) :
    harmless (bound.get name) := by
  unfold Bound.get
  cases found : bound.values.lookup name with
  | none => exact harmless_plain rfl
  | some value => exact harmless_lookup fine.1 name value found

variable [Watch]

theorem keeps_jsonMarkup (value : Value) (fine : harmless value) :
    ⦃watched⦄ jsonMarkup value ⦃kept⦄ := by
  mvcgen [jsonMarkup]
  all_goals grind -ring -linarith -order

theorem keeps_writtenDate (value : Value) (fine : harmless value) :
    ⦃watched⦄ writtenDate value ⦃kept⦄ := by
  have gentle : ∀ method ∈ changingNames, Text.ofString method ≠ "strftime" := by decide
  have named {world : World} {found : Value} (isMember : IsMember world value "strftime" found) :=
    harmless_named isMember gentle
  mvcgen [writtenDate]
  all_goals grind -ring -linarith -order

theorem keeps_trusted (value : Value) (fine : harmless value) :
    ⦃watched⦄ trusted value ⦃kept⦄ := by
  mvcgen [trusted]
  all_goals grind -ring -linarith -order

theorem keeps_sequence (start stop : Value) (fine : harmless start) (too : harmless stop) :
    ⦃watched⦄ sequence start stop ⦃kept⦄ := by
  mvcgen [sequence]
  all_goals grind -ring -linarith -order

omit [Watch] in
theorem standard_function_gentle (name : String) (parameters : List String)
    {body : Bound → Run Value}
    (gentle : ∀ [Watch] bound, harmless bound → ⦃watched⦄ body bound ⦃kept⦄) :
    (standardFunction name parameters body).2.IsGentle where
  signature := (harmless_map _ _).2 fun _ _ => harmless_none.2 trivial
  body := gentle

omit [Watch] in
/-- The standard functions change nothing that they are given. -/
theorem standard_gentle : ∀ function ∈ standard.functions, function.IsGentle := by
  have each : ∀ entry ∈ standard.entries, entry.2.IsGentle := by
    unfold standard
    simp only [List.forall_mem_cons]
    refine ⟨?_, ?_, ?_, ?_, ?_, ?_, List.forall_mem_nil _⟩
    all_goals
      apply standard_function_gentle
      intro watch bound fine
    · exact keeps_jsonMarkup _ (harmless_get fine "value")
    · exact keeps_writtenDate _ (harmless_get fine "value")
    · exact keeps_trusted _ (harmless_get fine "value")
    · exact Run.keeps_binary _ _ _ (harmless_get fine "a") (harmless_get fine "b")
    · exact Run.keeps_binary _ _ _ (harmless_get fine "a") (harmless_get fine "b")
    · exact keeps_sequence _ _ (harmless_get fine "start") (harmless_get fine "end")
  intro function inside
  obtain ⟨entry, among, rfl⟩ := List.mem_map.1 (List.mem_toArray.1 inside)
  exact each entry among

end FunctionTable

end PageTemplates

/-!
Payloads of guarded pages. Where templates can change neither lists nor dictionaries, what a caller
gives to a page is the same after any number of renders, at every depth. Only a list that is given to
the filter for indentation takes in a line break before that filter fails.
-/

namespace PageTemplates

open Template

/-- Whether a payload is data, at every depth. -/
def Payload.Shows (data : Data) : Payload → Prop
  | .given other => other = data
  | .held value world => data.IsIn world value

/-- Whether a payload is data but for a line break at the end of one list. -/
def Payload.ShowsBroken (data : Data) : Payload → Prop
  | .given _ => False
  | .held value world => ∃ (before : World) (address : Ref) (items : Array Value),
      data.IsIn before value ∧ before.items? address = some items ∧
        world = before.put address (.list (items.push (.text "\n")))

/-- What a render comes to where nothing may change: the payload is as it was, or the filter for
indentation has failed for a list. -/
def PageRender.LeavesPayload (environment : Environment) (data : Data) (page : PageRender)
    (problem : Option Problem) : Prop :=
  page.data.Shows data ∨
    environment.filters.contains "indent" = true ∧ page.data.ShowsBroken data ∧
      problem = some (listIndented page.name)

section Fits

variable [Regime] {data : Data} {home : World}

/-- Where the payload of a page is placed, it is the data that it shows. -/
theorem Payload.CanRun.shown {payload : Payload} (runs : payload.CanRun home) (shows : payload.Shows data) :
    data.IsIn (payload.placed home).2 (payload.placed home).1 := by
  cases runs with
  | given other =>
    obtain rfl : other = data := shows
    obtain ⟨-, -, -, isIn⟩ := Run.taken_gives other home
    exact isIn
  | @held value world fine clean kept =>
    rw [Payload.placed_held kept]
    have retains : world.Retains { world with ticks := home.ticks } := fun _ _ _ here => here
    exact Data.IsIn.stays retains data shows

/-- What a template leaves of a payload where nothing may change. -/
theorem PageRender.ending_payload {page : PageRender} {set : TemplateSet} {entry : Entry}
    (sound : set.setting.Sound) (entryFine : harmless entry) (clean : home.IsClean)
    (runs : page.data.CanRun home) (shows : page.data.Shows data) (frozen : Regime.preserving)
    (response : Response) :
    let value := (page.data.placed home).1
    let ending := page.ending set entry home response
    data.IsIn ending.world value ∨
      Regime.environment.filters.contains "indent" = true ∧
        (Payload.held value ending.world).ShowsBroken data ∧
        ending.problem = some (listIndented page.name) := by
  have isIn := runs.shown shows
  obtain left | ⟨broken, told⟩ :=
    (trace_ended sound entryFine clean runs).leaves page.name response
  · exact .inl (Data.IsIn.stays (World.Sound.retains frozen left) data isIn)
  · obtain ⟨-, allowed, before, address, items, earlier, there, same⟩ := broken
    exact .inr ⟨allowed, ⟨before, address, items,
      Data.IsIn.stays (World.Sound.retains frozen earlier) data isIn, there, same⟩, told⟩

/-- A page with a payload that shows data, in a session in which it can be rendered. -/
structure PageRender.IsReady (data : Data) (page : PageRender) (session : Session) : Prop where
  shows : page.data.Shows data
  runs : page.CanRun (fun set => set.setting.Sound) session

/-- What one render does to a payload. -/
theorem PageRender.IsReady.render {page : PageRender} {session : Session}
    (ready : page.IsReady data session) (frozen : Regime.preserving) (response : Response) :
    (page.render session response).1.name = page.name ∧
      ((page.render session response).1.IsReady data (page.render session response).2.session ∨
        Regime.environment.filters.contains "indent" = true ∧
          (page.render session response).1.data.ShowsBroken data ∧
          (page.render session response).2.problem = some (listIndented page.name)) := by
  obtain ⟨again, name, -⟩ := ready.runs.render (fun _ sound => sound) response
  refine ⟨name, ?_⟩
  obtain ⟨rendered, after, problem, same, -, payload, -⟩ |
    ⟨number, set, entry, announced, found, same⟩ := page.render_cases session response
  · refine .inl ⟨?_, again⟩
    rw [same]
    exact payload ▸ ready.shows
  · obtain ⟨-, -, sound, entryFine, -, homeClean, runs⟩ := ready.runs.template (fun _ sound => sound) found
    have leaves := ending_payload sound entryFine homeClean runs ready.shows frozen announced
    rw [same] at again ⊢
    exact leaves.imp_left fun isIn => ⟨isIn, again⟩

theorem PageRender.IsReady.announced {page : PageRender} {session : Session}
    (ready : page.IsReady data session) {announced : PageRender} {response after : Response}
    (told : page.announce response = .ok (announced, after)) :
    announced.IsReady data session := by
  obtain ⟨runs, -, payload⟩ := ready.runs.announced told
  exact ⟨payload ▸ ready.shows, runs⟩

/-- What any number of renders does to a payload. -/
theorem PageRender.IsReady.render_times (frozen : Regime.preserving) (announcing : Bool) (times : Nat)
    {page : PageRender} {session : Session} (ready : page.IsReady data session)
    (response : Response) :
    (page.renderTimes announcing times session response).1.LeavesPayload Regime.environment data
      (page.renderTimes announcing times session response).2.problem := by
  induction times generalizing page session response with
  | zero => exact .inl ready.shows
  | succ times ih =>
    rw [renderTimes]
    cases asked : (if announcing then page.announce response else .ok (page, response)) with
    | error failure => exact .inl ready.shows
    | ok pair =>
      obtain ⟨again, recipient⟩ := pair
      have next : again.IsReady data session := by
        split at asked
        · exact ready.announced asked
        · cases asked
          exact ready
      obtain ⟨name, left⟩ := next.render frozen recipient
      dsimp only
      cases problem : (again.render session recipient).2.problem with
      | none =>
        obtain ready | ⟨-, -, told⟩ := left
        · exact ih ready _
        · cases problem.symm.trans told
      | some found =>
        obtain ready | ⟨allowed, broken, told⟩ := left
        · exact .inl ready.shows
        · refine .inr ⟨allowed, broken, ?_⟩
          change (again.render session recipient).2.problem =
            some (listIndented (again.render session recipient).1.name)
          rw [told, name]

end Fits

section Immutable

/-- The regime of an environment in which nothing may change. -/
@[reducible]
def Environment.frozen (environment : Environment) (immutable : environment.guard = .immutable) :
    Regime where
  environment := environment
  preserving := True
  counting := False
  immutable _ := immutable

/-- Whether a function changes nothing that it is given, and hands out no method that does. -/
def Function.ChangesNothing (function : Function) (environment : Environment) : Prop :=
  ∀ immutable, @Function.IsGentle (environment.frozen immutable) function

theorem RendererOptions.guard_immutable {options : RendererOptions} {policy : Policy}
    (policed : options.policy = some policy) (immutable : policy.immutable = true) :
    options.recipe.environment.guard = .immutable := by
  have effective : options.recipe.effectivePolicy? =
      some (policy.registering options.recipe.table.registered) := by
    unfold Recipe.effectivePolicy?
    rw [show options.recipe.policy = some policy from policed]
    rfl
  have guard : (policy.registering options.recipe.table.registered).guard = .immutable := by
    unfold Policy.guard
    exact if_pos immutable
  unfold Recipe.environment
  rw [effective]
  exact guard

/-- Options under the policy for production, with functions. -/
def RendererOptions.guarded (table : FunctionTable) : RendererOptions :=
  { plain with table := table, policy := some .strict }

/-- A source with one page. -/
def Source.ofPage (template : String) : Source := .ofTexts [("templates/page.html", template)]

/-- A page that goes through a list and keeps the last item in a namespace. -/
def lastSource : Source :=
  .ofPage ("\x7b% set ns = namespace() %\x7d\x7b% for item in items %\x7d" ++
    "\x7b% set ns.last = item %\x7d\x7b% endfor %\x7d\x7b\x7b json(ns.last) \x7d\x7d")

/-- How much is in a list or dictionary of a world. -/
def World.size (world : World) : Value → Nat
  | .ref address =>
    (world.items? address).elim 0 Array.size + (world.entries? address).elim 0 List.length
  | _ => 0

/-- How much is in the lists and dictionaries of a payload. -/
def Payload.sizes : Payload → List Nat
  | .held (.ref address) world =>
    ((world.entries? address).getD []).map fun entry => world.size entry.2
  | _ => []

theorem Data.are_in_nil {world : World} {values : List Value} (each : areIn world [] values) :
    values = [] := by
  rcases values with _ | ⟨value, rest⟩
  · rfl
  · exact each.elim

theorem Data.entries_in_nil {world : World} {values : List (Value × Value)}
    (each : entriesAreIn world [] values) : values = [] := by
  rcases values with _ | ⟨value, rest⟩
  · rfl
  · exact each.elim

theorem Data.empty_size {world : World} {data : Data} (empty : data = .list [] ∨ data = .dict [])
    {value : Value} (isIn : data.IsIn world value) : world.size value = 0 := by
  rcases empty with rfl | rfl
  · obtain ⟨values, ⟨address, rfl, -, here⟩, each⟩ := isIn
    simp [World.size, World.items?, World.entries?, here, ← Array.length_toList, are_in_nil each]
  · obtain ⟨values, ⟨address, rfl, -, here⟩, each⟩ := isIn
    simp [World.size, World.items?, World.entries?, here, entries_in_nil each]

theorem Data.empty_sizes {world : World} {entries : List (Data × Data)}
    (empty : ∀ entry ∈ entries, entry.2 = .list [] ∨ entry.2 = .dict [])
    {values : List (Value × Value)} (each : entriesAreIn world entries values) :
    ∀ entry ∈ values, world.size entry.2 = 0 := by
  induction entries generalizing values with
  | nil =>
    rcases values with _ | _
    · exact List.forall_mem_nil _
    · exact each.elim
  | cons entry rest ih =>
    rcases values with _ | ⟨value, values⟩
    · exact each.elim
    · obtain ⟨first, others⟩ := List.forall_mem_cons.1 empty
      exact List.forall_mem_cons.2 ⟨empty_size first each.2.1, ih others each.2.2⟩

/-- There is nothing in a payload that shows empty lists and dictionaries. -/
theorem Payload.sizes_empty {entries : List (Data × Data)} {payload : Payload}
    (shows : payload.Shows (.dict entries))
    (empty : ∀ entry ∈ entries, entry.2 = .list [] ∨ entry.2 = .dict []) :
    ∀ size ∈ payload.sizes, size = 0 := by
  cases payload with
  | given data => exact List.forall_mem_nil _
  | held value world =>
    obtain ⟨values, ⟨address, rfl, -, here⟩, each⟩ := shows
    have listed : world.entries? address = some values.toList := by rw [World.entries?, here]
    have shown : sizes (.held (.ref address) world) =
        values.toList.map fun entry => world.size entry.2 := by
      rw [sizes, listed, Option.getD_some]
    intro size inside
    rw [shown] at inside
    obtain ⟨entry, among, rfl⟩ := List.mem_map.1 inside
    exact Data.empty_sizes empty each entry among

/-- The payload of the page of a source after one render under the policy for production. -/
def payloadAfter (table : FunctionTable) (template : String) (data : Data) :
    Except Problem Payload := do
  let (renderer, session) ← Renderer.make (.guarded table) .empty (.ofPage template) .start
  let asked := renderer.page .empty session "page.html" data
  return ((← asked.1).render asked.2 .recorder).1.data

/-- A function that hands out a method that changes lists, and changes nothing itself. -/
def handingTable : FunctionTable where
  entries :=
    [("adder", ⟨"adder", [.required "items"], fun bound =>
      return .method (bound.get "items") "append"⟩)]

/-- A dictionary and a list without anything in them. -/
def emptyThings : Data := .dict [(.text "d", .dict []), (.text "l", .list [])]

end Immutable

end PageTemplates
