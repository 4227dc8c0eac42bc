import PageTemplates.Proofs.Entries
import PageTemplates.Proofs.FunctionTable
import PageTemplates.Proofs.World
import PageTemplates.Sandbox

/-!
What environments have under policies. An environment has exactly the filters, the tests and the global names
that the policy allows, with the functions of the table over them. Compilers work on copies, so however many
are made of one policy, it keeps its lists, and what one of them registers is allowed to no other.
-/

namespace PageTemplates

namespace Policy

variable {name : Text} {names listed : List Text}

theorem mem_adding {first : Text} : name ∈ adding first listed ↔ name = first ∨ name ∈ listed := by
  unfold adding
  split
  · rename_i there
    have among : first ∈ listed := by simpa using there
    exact ⟨.inr, fun either => either.elim (fun same => same ▸ among) id⟩
  · rw [List.mem_append, List.mem_singleton, or_comm]

theorem mem_adding_all : name ∈ addingAll names listed ↔ name ∈ names ∨ name ∈ listed := by
  induction names generalizing listed with
  | nil => simp [addingAll]
  | cons first rest ih =>
      rw [addingAll, List.foldl_cons, ← addingAll, ih, mem_adding, List.mem_cons]
      tauto

end Policy

namespace Run

variable {entries globals : List (Text × Value)} {name : Text}

theorem put_pair_fresh {value : Value} (fresh : name ∉ globals.map Prod.fst) :
    putPair name value globals = globals ++ [(name, value)] := by
  induction globals with
  | nil => rfl
  | cons entry rest ih =>
      obtain ⟨other, old⟩ := entry
      rw [List.map_cons, List.mem_cons, not_or] at fresh
      have passed : (other == name) = false := by simpa using Ne.symm fresh.1
      rw [putPair, passed, ih fresh.2]
      rfl

theorem put_pair_names (value : Value) (fit : (globals.map Prod.fst).Nodup) :
    ((putPair name value globals).map Prod.fst).Nodup := by
  by_cases there : name ∈ globals.map Prod.fst
  · have same : (putPair name value globals).map Prod.fst = globals.map Prod.fst := by
      clear fit
      induction globals with
      | nil => cases there
      | cons entry rest ih =>
          obtain ⟨other, old⟩ := entry
          rw [putPair]
          split
          · rename_i here
            rw [List.map_cons, List.map_cons, eq_of_beq here]
          · rename_i apart
            rw [List.map_cons, List.map_cons, ih]
            refine (List.mem_cons.mp there).resolve_left fun same => ?_
            exact apart (beq_iff_eq.mpr same.symm)
    rw [same]
    exact fit
  · rw [put_pair_fresh there, List.map_append]
    exact List.nodup_append_comm.mp (List.nodup_cons.mpr ⟨there, fit⟩)

/-- Entries under names of their own are put behind all others. -/
theorem put_all_fresh (distinct : ((globals ++ entries).map Prod.fst).Nodup) :
    entries.foldl (fun so (name, value) => putPair name value so) globals = globals ++ entries := by
  induction entries generalizing globals with
  | nil => simp
  | cons entry rest ih =>
      obtain ⟨name, value⟩ := entry
      have fresh : name ∉ globals.map Prod.fst := by
        rw [List.map_append, List.nodup_append] at distinct
        intro there
        exact distinct.2.2 name there name (by simp) rfl
      rw [List.foldl_cons]
      dsimp only
      rw [put_pair_fresh fresh, ih (by simpa using distinct)]
      simp

theorem put_all_names (fit : (globals.map Prod.fst).Nodup) :
    ((entries.foldl (fun so (name, value) => putPair name value so) globals).map Prod.fst).Nodup := by
  induction entries generalizing globals with
  | nil => exact fit
  | cons entry rest ih => exact ih (put_pair_names entry.2 fit)

/-- Entries come before what they are put over. -/
theorem lookup_put_all (distinct : (entries.map Prod.fst).Nodup) (globals : List (Text × Value))
    (name : Text) :
    (entries.foldl (fun so (name, value) => putPair name value so) globals).lookup name =
      (entries.lookup name).or (globals.lookup name) := by
  induction entries generalizing globals with
  | nil => rfl
  | cons entry rest ih =>
      obtain ⟨first, value⟩ := entry
      obtain ⟨fresh, later⟩ := List.nodup_cons.mp distinct
      rw [List.foldl_cons, ih later, lookup_put_pair, Entries.lookup_first]
      by_cases same : name = first
      · rw [if_pos same, if_pos same, same, Entries.lookup_absent fresh]
        rfl
      · rw [if_neg same, if_neg same]

end Run

namespace FunctionTable

variable {table : FunctionTable}

theorem globals_names : table.globals.map Prod.fst = table.registered := by
  conv_rhs => rw [registered, ← List.zipIdx_map_fst 0 table.entries, List.map_map]
  rw [globals, List.map_map]
  rfl

theorem mem_globals {place : Nat} {name : Text} {function : Function}
    (found : table.entries[place]? = some (name, function)) : (name, .function place) ∈ table.globals :=
  List.mem_map.mpr ⟨((name, function), place), List.mk_mem_zipIdx_iff_getElem?.mpr found, rfl⟩

/-- No name is registered twice. -/
theorem registered_nodup (calls : List (Data × Candidate)) : (after calls).registered.Nodup := by
  rw [(keeps_after calls).registered]
  exact eraseDups_nodup _

end FunctionTable

namespace Recipe

variable {table : FunctionTable} {guard : Guard} {name : Text}

theorem common_names (guard : Guard) : ((commonGlobals guard).map Prod.fst).Nodup := by
  have same : (commonGlobals guard).map Prod.fst =
      ["range", "dict", "lipsum", "cycler", "joiner", "namespace"].map Text.ofString := rfl
  rw [same]
  decide

theorem all_filters_nodup : allFilters.Nodup := by decide

theorem all_tests_nodup : allTests.Nodup := by decide

end Recipe

namespace Policy

/-- An environment has exactly what a policy allows, with the functions of a table over it. -/
structure Rules (policy : Policy) (table : FunctionTable) (environment : Environment) : Prop where
  filters : ∀ name, name ∈ environment.filters ↔
    name ∈ Recipe.allFilters ∧ (policy.keepsFilters = true ∨ Text.ofString name ∈ policy.filters)
  tests : ∀ name, name ∈ environment.tests ↔
    name ∈ Recipe.allTests ∧ (policy.keepsTests = true ∨ Text.ofString name ∈ policy.tests)
  functions : ∀ place name function, table.entries[place]? = some (name, function) →
    environment.globals.lookup name = some (.function place)
  allowed : ∀ name, name ∉ table.registered → policy.keepsGlobals = true ∨ name ∈ policy.globals →
    environment.globals.lookup name = (Recipe.commonGlobals policy.guard).lookup name
  stripped : ∀ name, name ∉ table.registered → policy.keepsGlobals = false → name ∉ policy.globals →
    environment.globals.lookup name = none
  once : environment.filters.Nodup ∧ environment.tests.Nodup ∧ (environment.globals.map Prod.fst).Nodup

theorem allows_filter {policy : Policy} {name : Text} :
    policy.allowsFilter name = true ↔ policy.keepsFilters = true ∨ name ∈ policy.filters := by
  simp [allowsFilter]

theorem allows_test {policy : Policy} {name : Text} :
    policy.allowsTest name = true ↔ policy.keepsTests = true ∨ name ∈ policy.tests := by
  simp [allowsTest]

theorem allows_global {policy : Policy} {name : Text} :
    policy.allowsGlobal name = true ↔ policy.keepsGlobals = true ∨ name ∈ policy.globals := by
  simp [allowsGlobal]

theorem registering_allows {policy : Policy} {names : List Text} {name : Text} :
    (policy.registering names).allowsGlobal name = true ↔
      policy.keepsGlobals = true ∨ name ∈ names ∨ name ∈ policy.globals := by
  rw [allows_global]
  exact or_congr_right mem_adding_all

end Policy

/-- The environment of a recipe has exactly what its policy allows, and the functions of its table. -/
theorem Recipe.environment_rules {recipe : Recipe} {policy : Policy} (guarded : recipe.policy = some policy)
    (distinct : recipe.table.registered.Nodup) : policy.Rules recipe.table recipe.environment := by
  have effective : recipe.effectivePolicy? = some (policy.registering recipe.table.registered) := by
    rw [effectivePolicy?, guarded]
    rfl
  have same : recipe.environment.globals =
      (withTable recipe.table (commonGlobals policy.guard)).filter fun entry =>
        (policy.registering recipe.table.registered).allowsGlobal entry.1 := by
    rw [environment, effective]
    rfl
  have filters : recipe.environment.filters =
      allFilters.filter fun name => policy.allowsFilter (Text.ofString name) := by
    rw [environment, effective]
    rfl
  have tests : recipe.environment.tests =
      allTests.filter fun name => policy.allowsTest (Text.ofString name) := by
    rw [environment, effective]
    rfl
  have names : (recipe.table.globals.map Prod.fst).Nodup := FunctionTable.globals_names ▸ distinct
  have meaning : ∀ name, (withTable recipe.table (commonGlobals policy.guard)).lookup name =
      (recipe.table.globals.lookup name).or ((commonGlobals policy.guard).lookup name) :=
    Run.lookup_put_all names _
  have foreign : ∀ name, name ∉ recipe.table.registered → recipe.table.globals.lookup name = none :=
    fun name absent => Entries.lookup_absent (FunctionTable.globals_names ▸ absent)
  refine ⟨fun name => ?_, fun name => ?_, fun place name function here => ?_, fun name absent allowed => ?_,
    fun name absent closed unlisted => ?_, ?_⟩
  · rw [filters, List.mem_filter, Policy.allows_filter]
  · rw [tests, List.mem_filter, Policy.allows_test]
  · have among := FunctionTable.mem_globals here
    have listed : name ∈ recipe.table.registered :=
      FunctionTable.globals_names ▸ List.mem_map.mpr ⟨_, among, rfl⟩
    rw [same, Entries.lookup_filter (Policy.registering_allows.mpr (.inr (.inl listed))), meaning,
      Entries.lookup_of_mem names among]
    rfl
  · have kept := Policy.registering_allows.mpr
      (allowed.imp_right (@Or.inr (name ∈ recipe.table.registered) _))
    rw [same, Entries.lookup_filter kept, meaning, foreign name absent]
    rfl
  · rw [same]
    apply Entries.lookup_absent
    intro there
    obtain ⟨entry, member, rfl⟩ := List.mem_map.mp there
    rcases Policy.registering_allows.mp (List.mem_filter.mp member).2 with free | own | listed
    · rw [closed] at free
      cases free
    · exact absent own
    · exact unlisted listed
  · refine ⟨?_, ?_, ?_⟩
    · rw [filters]
      exact all_filters_nodup.filter _
    · rw [tests]
      exact all_tests_nodup.filter _
    · rw [same]
      exact (Run.put_all_names (common_names _)).sublist (List.filter_sublist.map _)

namespace HeldPolicy

variable {held : HeldPolicy} {lists more : Allowlists}

/-- The lists of a policy are there. -/
structure IsWithin (held : HeldPolicy) (lists : Allowlists) : Prop where
  filters : held.filters < lists.length
  tests : held.tests < lists.length
  globals : held.globals < lists.length

/-- Further lists do not change a policy. -/
theorem read_append (within : held.IsWithin lists) (more : Allowlists) :
    held.read (lists ++ more) = held.read lists := by
  simp only [read, List.getD_eq_getElem?_getD, List.getElem?_append_left within.filters,
    List.getElem?_append_left within.tests, List.getElem?_append_left within.globals]

theorem read_later (within : held.IsWithin lists) (later : lists <+: more) :
    held.read more = held.read lists := by
  obtain ⟨added, rfl⟩ := later
  exact read_append within added

end HeldPolicy

namespace Sandbox

variable {entries : List (Text × Value)}

theorem modify_behind (front back : Allowlists) (place : Nat) (change : List Text → List Text) :
    (front ++ back).modify (front.length + place) change = front ++ back.modify place change := by
  induction front with
  | nil => simp
  | cons first rest ih =>
      have next : (first :: rest).length + place = rest.length + place + 1 := by
        rw [List.length_cons]
        omega
      rw [next, List.cons_append, List.modify_succ_cons, ih]
      rfl

/-- What registrations do: they put global names over those that are registered, and add to one list. -/
theorem register_all (sandbox : Sandbox) (lists : Allowlists) (entries : List (Text × Value)) :
    entries.foldl register (sandbox, lists) =
      ({ sandbox with
          globals := entries.foldl (fun so (name, value) => Run.putPair name value so) sandbox.globals },
        lists.modify sandbox.policy.globals (Policy.addingAll (entries.map Prod.fst))) := by
  induction entries generalizing sandbox lists with
  | nil =>
      have same : Policy.addingAll [] = id := rfl
      simp [same]
  | cons entry rest ih =>
      rw [List.foldl_cons, register, ih]
      simp only [List.modify_modify_eq]
      rfl

/-- A sandbox has lists of its own behind all others, and its policy allows the names of the table too. -/
theorem make_own (held : HeldPolicy) {table : FunctionTable} (distinct : table.registered.Nodup)
    (lists : Allowlists) :
    lists <+: (make held table lists).2 ∧ (make held table lists).1.globals = table.globals ∧
      (make held table lists).1.policy.IsWithin (make held table lists).2 ∧
      (make held table lists).1.policy.read (make held table lists).2 =
        (held.read lists).registering table.registered := by
  have names : (table.globals.map Prod.fst).Nodup := FunctionTable.globals_names ▸ distinct
  have globals : table.globals.foldl (fun so (name, value) => Run.putPair name value so) [] =
      table.globals := Run.put_all_fresh names
  have after : (lists ++ [(held.read lists).filters, (held.read lists).tests, (held.read lists).globals]).modify
      (lists.length + 2) (Policy.addingAll table.registered) = lists ++ [(held.read lists).filters,
        (held.read lists).tests, Policy.addingAll table.registered (held.read lists).globals] := by
    exact modify_behind lists _ 2 _
  have made : make held table lists = (⟨{ held with
        filters := lists.length, tests := lists.length + 1, globals := lists.length + 2 }, table.globals⟩,
      lists ++ [(held.read lists).filters, (held.read lists).tests,
        Policy.addingAll table.registered (held.read lists).globals]) := by
    rw [make, HeldPolicy.copied]
    dsimp only
    rw [register_all, globals, FunctionTable.globals_names, after]
  rw [made]
  refine ⟨List.prefix_append _ _, rfl, ⟨by simp, by simp, by simp⟩, ?_⟩
  simp [HeldPolicy.read, Policy.registering]

/-- What a sandbox creates is the environment of the recipe that its policy came from. -/
theorem environment_eq {recipe : Recipe} {policy : Policy} (guarded : recipe.policy = some policy)
    {sandbox : Sandbox} {lists : Allowlists} (globals : sandbox.globals = recipe.table.globals)
    (read : sandbox.policy.read lists = policy.registering recipe.table.registered) :
    sandbox.environment recipe.strict recipe.escapesName lists = recipe.environment := by
  have effective : recipe.effectivePolicy? = some (policy.registering recipe.table.registered) := by
    rw [Recipe.effectivePolicy?, guarded]
    rfl
  rw [environment, read, globals, Recipe.environment, effective]
  rfl

end Sandbox

/-- The lists of a policy are there, and no name is registered twice in the table. -/
structure CompilerOrder.IsProper (order : CompilerOrder) (lists : Allowlists) : Prop where
  within : ∀ held, order.policy = some held → held.IsWithin lists
  distinct : order.table.registered.Nodup

/-- From now on, a compiler creates the environment of a recipe. -/
def SetCompiler.Creates (compiler : SetCompiler) (recipe : Recipe) (lists : Allowlists) : Prop :=
  ∀ later, lists <+: later → compiler.environment later = recipe.environment

/-- A compiler creates the environment that follows from the policy as it was given, and adds lists only. -/
theorem SetCompiler.make_creates {order : CompilerOrder} {callers lists : Allowlists}
    (proper : order.IsProper callers) (kept : callers <+: lists) :
    lists <+: (make order lists).2 ∧
      (make order lists).1.Creates (order.recipe callers) (make order lists).2 := by
  unfold make
  split
  · rename_i free
    refine ⟨List.prefix_refl _, fun later _ => ?_⟩
    rw [environment, CompilerOrder.recipe, CompilerOrder.recipe, free]
    rfl
  · rename_i held given
    obtain ⟨added, globals, within, read⟩ := Sandbox.make_own held proper.distinct lists
    refine ⟨added, fun later beyond => ?_⟩
    have guarded : (order.recipe callers).policy = some (held.read lists) := by
      rw [CompilerOrder.recipe, given, HeldPolicy.read_later (proper.within held given) kept]
      rfl
    exact Sandbox.environment_eq guarded globals ((HeldPolicy.read_later within beyond).trans read)

namespace Compilers

/-- The orders among steps. -/
def orders (steps : List CompilersStep) : List CompilerOrder :=
  steps.filterMap fun
    | .compiler order => some order
    | _ => none

/-- What holds of compilers of callers with these lists, after the orders of a run: the lists are still there,
each compiler creates the environment of its order, and no environment is anything else. -/
structure Serve (compilers : Compilers) (callers : Allowlists) (orders : List CompilerOrder) : Prop where
  kept : callers <+: compilers.lists
  made : List.Forall₂ (fun order compiler => compiler.Creates (order.recipe callers) compilers.lists)
    orders compilers.made
  environments : ∀ entry ∈ compilers.environments, ∃ order, orders[entry.1]? = some order ∧
    entry.2 = (order.recipe callers).environment

section Steps

variable {compilers : Compilers} {callers : Allowlists} {orders : List CompilerOrder}

theorem serve_start (callers : Allowlists) : (start callers).Serve callers [] :=
  ⟨List.prefix_refl _, .nil, nofun⟩

theorem order_of_made {made : List SetCompiler} {fits : CompilerOrder → SetCompiler → Prop}
    (each : List.Forall₂ fits orders made) {number : Nat} {compiler : SetCompiler}
    (found : made[number]? = some compiler) : ∃ order, orders[number]? = some order ∧ fits order compiler := by
  induction each generalizing number with
  | nil => cases found
  | @cons order first _ _ fit _ ih =>
      cases number with
      | zero =>
          cases found
          exact ⟨order, rfl, fit⟩
      | succ number => exact ih found

theorem serve_creating (serve : compilers.Serve callers orders) (number : Nat) :
    (compilers.creating number).Serve callers orders := by
  unfold creating
  cases found : compilers.made[number]? with
  | none => exact serve
  | some compiler =>
      refine ⟨serve.kept, serve.made, fun entry member => ?_⟩
      rcases List.mem_append.mp member with early | here
      · exact serve.environments entry early
      · rw [List.mem_singleton.mp here]
        obtain ⟨order, ordered, creates⟩ := order_of_made serve.made found
        exact ⟨order, ordered, creates compilers.lists (List.prefix_refl _)⟩

theorem serve_compiler (serve : compilers.Serve callers orders) {order : CompilerOrder}
    (proper : order.IsProper callers) : (compilers.step (.compiler order)).Serve callers (orders ++ [order]) := by
  obtain ⟨added, creates⟩ := SetCompiler.make_creates proper serve.kept
  refine ⟨serve.kept.trans added, ?_, fun entry member => ?_⟩
  · refine List.rel_append (serve.made.imp fun order compiler fine later beyond => ?_) (.cons creates .nil)
    exact fine later (added.trans beyond)
  · obtain ⟨before, found, same⟩ := serve.environments entry member
    exact ⟨before, List.getElem?_append_left (List.getElem?_eq_some_iff.mp found).1 ▸ found, same⟩

/-- What holds of compilers holds after a step. -/
theorem serve_step (serve : compilers.Serve callers orders) {step : CompilersStep}
    (proper : ∀ order ∈ Compilers.orders [step], order.IsProper callers) :
    (compilers.step step).Serve callers (orders ++ Compilers.orders [step]) := by
  cases step with
  | compiler order => exact serve_compiler serve (proper order (List.mem_singleton_self _))
  | newSet number =>
      rw [show Compilers.orders [.newSet number] = [] from rfl, List.append_nil]
      exact serve_creating serve number
  | clone set =>
      rw [show Compilers.orders [.clone set] = [] from rfl, List.append_nil, step]
      cases compilers.environments[set]? with
      | none => exact serve
      | some entry => exact serve_creating serve entry.1

theorem serve_run (serve : compilers.Serve callers orders) {steps : List CompilersStep}
    (proper : ∀ order ∈ Compilers.orders steps, order.IsProper callers) :
    (compilers.run steps).Serve callers (orders ++ Compilers.orders steps) := by
  induction steps generalizing compilers orders with
  | nil =>
      rw [Compilers.orders, List.filterMap_nil, List.append_nil]
      exact serve
  | cons step rest ih =>
      have split : Compilers.orders (step :: rest) = Compilers.orders [step] ++ Compilers.orders rest :=
        @List.filterMap_append _ _ [step] rest _
      rw [split] at proper ⊢
      obtain ⟨here, later⟩ := List.forall_mem_append.mp proper
      rw [← List.append_assoc]
      exact ih (serve_step serve here) later

end Steps

/-- Whatever compilers are made of the policies of callers, in any order and with any tables, and whatever
sets and clones they make: every environment is the one of the recipe of its compiler, which has exactly what
the policy allows and the functions of the table, and every policy of a caller reads as before. -/
theorem environments_exact (callers : Allowlists) (steps : List CompilersStep)
    (proper : ∀ order ∈ orders steps, order.IsProper callers) :
    (∀ held : HeldPolicy, held.IsWithin callers →
      held.read ((start callers).run steps).lists = held.read callers) ∧
    ∀ number environment, (number, environment) ∈ ((start callers).run steps).environments →
      ∃ order, (orders steps)[number]? = some order ∧
        environment = (order.recipe callers).environment ∧
        ∀ held, order.policy = some held → (held.read callers).Rules order.table environment := by
  have serve := serve_run (serve_start callers) proper
  refine ⟨fun held within => HeldPolicy.read_later within serve.kept, fun number environment member => ?_⟩
  obtain ⟨order, ordered, same⟩ := serve.environments _ member
  refine ⟨order, ordered, same, fun held given => ?_⟩
  have guarded : (order.recipe callers).policy = some (held.read callers) := by
    rw [CompilerOrder.recipe, given]
    rfl
  rw [show environment = _ from same]
  exact Recipe.environment_rules guarded (proper order (List.mem_of_getElem? ordered)).distinct

/-- The lists of one policy. -/
def oneAllowlists : Allowlists := [Policy.strict.filters, Policy.strict.tests, Policy.strict.globals]

/-- The policy of these lists. -/
def onePolicy : HeldPolicy := ⟨false, false, false, 0, 1, 2, true⟩

/-- Two compilers of one policy. The first has a function named like a global name that is not allowed. -/
def twoOrders : List CompilerOrder :=
  [⟨⟨[("lipsum", ⟨"lipsum", [], fun _ => return .none⟩)], []⟩, some onePolicy, true, none⟩,
    ⟨.empty, some onePolicy, true, none⟩]

/-- A set of the first, with a clone, and a set of the second. -/
def threeSets : List CompilersStep :=
  twoOrders.map .compiler ++ [.newSet 0, .clone 0, .newSet 1]

theorem two_orders_proper : ∀ order ∈ orders threeSets, order.IsProper oneAllowlists := by
  have within : onePolicy.IsWithin oneAllowlists := ⟨by decide, by decide, by decide⟩
  intro order member
  have either : order ∈ twoOrders := member
  rcases List.mem_pair.mp either with rfl | rfl
  · exact ⟨fun held given => Option.some.inj given ▸ within, List.nodup_singleton _⟩
  · exact ⟨fun held given => Option.some.inj given ▸ within, List.nodup_nil⟩

/-- What the first compiler registers is not allowed to the second, and the policy is as it was. -/
theorem environments_exact_of_two :
    ∃ first clone second, ((start oneAllowlists).run threeSets).environments =
        [(0, first), (0, clone), (1, second)] ∧
      first.globals.lookup (Text.ofString "lipsum") = some (.function 0) ∧
      clone.globals.lookup (Text.ofString "lipsum") = some (.function 0) ∧
      second.globals.lookup (Text.ofString "lipsum") = none ∧
      onePolicy.read ((start oneAllowlists).run threeSets).lists = Policy.strict := by
  obtain ⟨kept, each⟩ := environments_exact oneAllowlists threeSets two_orders_proper
  have listed : ∃ first clone second, ((start oneAllowlists).run threeSets).environments =
      [(0, first), (0, clone), (1, second)] := ⟨_, _, _, rfl⟩
  obtain ⟨first, clone, second, made⟩ := listed
  rw [made] at each
  refine ⟨first, clone, second, made, ?_, ?_, ?_, kept onePolicy ⟨by decide, by decide, by decide⟩⟩
  · obtain ⟨order, ordered, -, rules⟩ := each 0 first (by simp)
    cases ordered
    exact (rules onePolicy rfl).functions 0 _ _ rfl
  · obtain ⟨order, ordered, -, rules⟩ := each 0 clone (by simp)
    cases ordered
    exact (rules onePolicy rfl).functions 0 _ _ rfl
  · obtain ⟨order, ordered, -, rules⟩ := each 1 second (by simp)
    cases ordered
    exact (rules onePolicy rfl).stripped "lipsum" List.not_mem_nil rfl (by decide)

end Compilers

end PageTemplates
