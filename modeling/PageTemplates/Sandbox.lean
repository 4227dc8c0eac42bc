import PageTemplates.Recipe

/-!
Sandboxes: the environments that compilers create under policies. The lists of policies stand in a store,
where several policies can share them and everyone who holds a policy sees what is added to its lists. A
sandbox works on a copy of the policy that it is given. It adds the names of functions to a list of the copy,
and takes what the policy does not allow out of every environment when the environment is created.
-/

namespace PageTemplates

/-- The lists of policies, each at its address. -/
abbrev Allowlists := List (List Text)

/-- A policy whose lists are told by their addresses. -/
structure HeldPolicy where
  keepsFilters : Bool
  keepsTests : Bool
  keepsGlobals : Bool
  filters : Nat
  tests : Nat
  globals : Nat
  immutable : Bool

namespace HeldPolicy

/-- The policy as its lists are. -/
def read (held : HeldPolicy) (lists : Allowlists) : Policy where
  keepsFilters := held.keepsFilters
  keepsTests := held.keepsTests
  keepsGlobals := held.keepsGlobals
  filters := lists.getD held.filters []
  tests := lists.getD held.tests []
  globals := lists.getD held.globals []
  immutable := held.immutable

/-- A copy with lists of its own. -/
def copied (held : HeldPolicy) (lists : Allowlists) : HeldPolicy × Allowlists :=
  let policy := held.read lists
  ({ held with filters := lists.length, tests := lists.length + 1, globals := lists.length + 2 },
    lists ++ [policy.filters, policy.tests, policy.globals])

end HeldPolicy

/-- A sandbox: the policy it enforces, and the global names registered with it. -/
structure Sandbox where
  policy : HeldPolicy
  globals : List (Text × Value)

namespace Sandbox

/-- Registers a global name, which the policy allows from then on. -/
def register (given : Sandbox × Allowlists) (entry : Text × Value) : Sandbox × Allowlists :=
  let (sandbox, lists) := given
  ({ sandbox with globals := Run.putPair entry.1 entry.2 sandbox.globals },
    lists.modify sandbox.policy.globals (Policy.adding entry.1))

/-- A sandbox for a policy, with the functions of a table. -/
def make (held : HeldPolicy) (table : FunctionTable) (lists : Allowlists) : Sandbox × Allowlists :=
  let (own, lists) := held.copied lists
  table.globals.foldl register (⟨own, []⟩, lists)

/-- An environment with all there is but what the policy does not allow. -/
def environment (sandbox : Sandbox) (strict : Bool) (escapes : Text → Bool) (lists : Allowlists) :
    Environment :=
  let policy := sandbox.policy.read lists
  let globals := sandbox.globals.foldl (fun so (name, value) => Run.putPair name value so)
    (Recipe.commonGlobals policy.guard)
  { strict := strict
    guard := policy.guard
    filters := Recipe.allFilters.filter fun name => policy.allowsFilter (Text.ofString name)
    tests := Recipe.allTests.filter fun name => policy.allowsTest (Text.ofString name)
    globals := globals.filter fun (name, _) => policy.allowsGlobal name
    escapes := escapes }

end Sandbox

/-- What a compiler is made with. -/
structure CompilerOrder where
  table : FunctionTable
  policy : Option HeldPolicy
  strict : Bool
  escapes : Option (Option Text → Bool)

namespace CompilerOrder

/-- The recipe of the sets of a compiler, with the policy as its lists are. -/
def recipe (order : CompilerOrder) (lists : Allowlists) : Recipe :=
  ⟨order.table, order.policy.map fun held => held.read lists, order.strict, order.escapes⟩

end CompilerOrder

/-- A compiler, with the sandbox for its environments if it has a policy. -/
structure SetCompiler where
  order : CompilerOrder
  sandbox : Option Sandbox

namespace SetCompiler

/-- The compiler of an order. -/
def make (order : CompilerOrder) (lists : Allowlists) : SetCompiler × Allowlists :=
  match order.policy with
  | none => (⟨order, none⟩, lists)
  | some held =>
    let (sandbox, lists) := Sandbox.make held order.table lists
    (⟨order, some sandbox⟩, lists)

/-- The environment of a set. -/
def environment (compiler : SetCompiler) (lists : Allowlists) : Environment :=
  let recipe := compiler.order.recipe lists
  match compiler.sandbox with
  | none => Recipe.environment { recipe with policy := none }
  | some sandbox => sandbox.environment recipe.strict recipe.escapesName lists

end SetCompiler

/-- Compilers, the lists of their policies and of those that they were given, and the environments of the
sets made so far, each with the number of its compiler. -/
structure Compilers where
  lists : Allowlists
  made : List SetCompiler
  environments : List (Nat × Environment)

/-- What is done with compilers. -/
inductive CompilersStep where
  | compiler (order : CompilerOrder)
  | newSet (compiler : Nat)
  | clone (set : Nat)

namespace Compilers

/-- The compilers of callers whose policies have these lists, before there is any. -/
def start (lists : Allowlists) : Compilers := ⟨lists, [], []⟩

/-- Creates an environment with the compiler of a number. -/
def creating (compilers : Compilers) (number : Nat) : Compilers :=
  match compilers.made[number]? with
  | none => compilers
  | some compiler =>
    { compilers with
      environments := compilers.environments ++ [(number, compiler.environment compilers.lists)] }

/-- One step. A clone has an environment of its own, which the compiler of the set creates. -/
def step (compilers : Compilers) : CompilersStep → Compilers
  | .compiler order =>
    let (compiler, lists) := SetCompiler.make order compilers.lists
    { compilers with lists := lists, made := compilers.made ++ [compiler] }
  | .newSet number => compilers.creating number
  | .clone set =>
    match compilers.environments[set]? with
    | none => compilers
    | some (number, _) => compilers.creating number

/-- Many steps in order. -/
def run (compilers : Compilers) (steps : List CompilersStep) : Compilers := steps.foldl step compilers

end Compilers

end PageTemplates
